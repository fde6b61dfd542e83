import Mathlib.Data.List.TakeWhile
import Reckon.Proofs.Scanning
import Reckon.Proofs.Spans

/-!
# Tokens in Brackets

A token with texts inside is a bracket, what stands in it, and its closer; before
the bracket there may be exclamation marks, with spacing between them. Nothing
else comes with such a token, and it is written in one stretch of the text
(`Token.exists_bracketed`).

A reader reads the exclamation marks one by one and only keeps where the first of
them is. `Reader.Led` says what stands there, up to the place the reader has come
to.

## Main definitions

* `Bracketed`: A token with texts inside, as it is written.
* `Bracketed.Around`: A token that is written so.
* `Reader.Led`: Exclamation marks that were read.

## Theorems

* `Token.Piece.exists_bracketed`: A piece with texts inside.
* `Reader.exists_bracketed_of_nextFrom`: The next token, if it has texts inside.
* `Token.exists_bracketed`: Every token with texts inside is a bracket.
-/

namespace Reckon

open Text

/-- A token with texts inside, as it is written: exclamation marks, a bracket and
    its closer, and what follows. -/
structure Bracketed where
  /-- The exclamation marks before the bracket, with the spacing behind them. -/
  marks : List Char
  /-- Whether the bracket is round. A square one holds a list. -/
  isGroup : Bool
  inside : List Char
  after : List Char

namespace Bracketed

variable (b : Bracketed)

def opener : Char := if b.isGroup then '(' else '['

def closer : Char := if b.isGroup then ')' else ']'

/-- The token and what follows it. -/
def text : List Char := b.marks ++ b.opener :: (b.inside ++ b.closer :: b.after)

/-- What the token is. -/
def operand : Operand String :=
  if b.isGroup then .group (String.ofList (trim b.inside))
  else .list ((elements b.inside).map String.ofList)

/-- Exclamation marks with spacing behind them, or nothing. -/
def Marks (marks : List Char) : Prop :=
  marks = [] ∨ ∃ more, marks = '!' :: more ∧ ∀ c ∈ more, c = '!' ∨ Lexeme.isSpacing c = true

/-- The token `t` of `source` is written as `b`. -/
structure Around (source : List Char) (t : Token String) : Prop where
  stands : TailAt source t.span.start b.text
  stop_eq : t.span.stop = t.span.start + width b.marks + width b.inside + 2
  kind_eq : t.kind = .operand b.operand
  marks : Marks b.marks
  level : Level b.inside

theorem isOpener_opener : isOpener b.opener = true := by
  unfold opener
  split <;> rfl

end Bracketed

section Reading

open Lexeme (Placed isSpacing)

variable {source : List Char}

theorem isPlain_of_isSpacing {c : Char} (h : isSpacing c = true) : isPlain c = true :=
  isPlain_of_isBlank (isBlank_of_isSpacing h)

namespace Token.Piece

variable {p : Placed} {wantsOperand : Bool} {piece : Piece}

theorem nested_ofPath (p : Placed) : (ofPath p).kind.nested = [] := by
  unfold ofPath
  simp only
  split
  · rfl
  · split
    · rfl
    · split
      · rfl
      · split <;> rfl

theorem nested_ofMinus (p : Placed) (wantsOperand : Bool) :
    (ofMinus p wantsOperand).kind.nested = [] := by
  unfold ofMinus
  split <;> rfl

/-- A bracket is read up to its closer, and what stands between them is level. -/
theorem exists_inside {opener closer : Char} {kind : List Char → Kind String}
    (h : ofBracket p opener closer kind = .ok piece) :
    ∃ inside after, p.tail = inside ++ closer :: after ∧ isCloser closer = true ∧ Level inside ∧
      piece = ⟨kind inside, p.stop + width inside + closer.utf8Size, after⟩ := by
  unfold ofBracket at h
  split at h
  next c tail hcloser =>
    rcases closes_of_closerIn hcloser with ⟨inside, after, htail, heq, hclose, hlevel⟩
    cases heq
    cases h
    refine ⟨inside, _, htail, hclose, hlevel, ?_⟩
    rw [htail, upTo_append_self]
  next => cases h

/-- A level text is read up to the closer behind it. -/
theorem ofBracket_of_level {opener closer : Char} {inside after : List Char}
    (kind : List Char → Kind String) (h : Level inside) (hcloser : isCloser closer = true)
    (htail : p.tail = inside ++ closer :: after) :
    ofBracket p opener closer kind =
      .ok ⟨kind inside, p.stop + width inside + closer.utf8Size, after⟩ := by
  unfold ofBracket
  simp only [htail, h.closerIn_eq hcloser, upTo_append_self]

/-- A piece with texts inside is a bracket. -/
theorem exists_bracketed (h : of p wantsOperand = .ok piece) (hne : piece.kind.nested ≠ []) :
    ∃ b : Bracketed, p.lexeme.mark? = some b.opener ∧
      p.tail = b.inside ++ b.closer :: b.after ∧ Level b.inside ∧
      piece = ⟨.operand b.operand, p.stop + width b.inside + 1, b.after⟩ := by
  unfold of at h
  split at h
  -- a path and a minus sign, which may take the next lexeme
  case h_7 =>
    cases h
    exact absurd (nested_ofPath p) hne
  case h_8 =>
    cases h
    exact absurd (nested_ofMinus p wantsOperand) hne
  case h_10 hlexeme =>
    rcases exists_inside h with ⟨inside, after, htail, hclose, hlevel, hpiece⟩
    exact ⟨⟨[], true, inside, after⟩, by rw [hlexeme]; rfl, htail, hlevel, hpiece⟩
  case h_11 hlexeme =>
    rcases exists_inside h with ⟨inside, after, htail, hclose, hlevel, hpiece⟩
    exact ⟨⟨[], false, inside, after⟩, by rw [hlexeme]; rfl, htail, hlevel, hpiece⟩
  case h_12 | h_13 | h_14 | h_15 | h_16 => cases h
  all_goals
    cases h
    exact absurd rfl hne

end Token.Piece

namespace Reader

variable {tail : List Char} {first : Option Nat} {offset : Nat} {p : Placed}

/-- What a reader has read of a token before the tail of a text: nothing, or
    exclamation marks, of which the first is given. -/
def Led (source tail : List Char) : Option Nat → Prop
  | none => True
  | some start => ∃ more, TailAt source start ('!' :: (more ++ tail)) ∧
      ∀ c ∈ more, c = '!' ∨ isSpacing c = true

theorem led_none : Led source tail none := trivial

/-- A token starts with the marks that were read, and then its lexeme comes. -/
theorem Led.start (hfirst : Led source tail first) (h : TailAt source offset tail)
    (hp : Lexeme.next? offset tail = .ok (some p)) :
    ∃ marks, Bracketed.Marks marks ∧ p.start = first.getD p.start + width marks ∧
      TailAt source (first.getD p.start) (marks ++ (p.text ++ p.tail)) := by
  have hstands := (Lexeme.stands_of_next? h hp).start
  -- Without a mark the piece begins at its lexeme, else at the first of the marks.
  cases first with
  | none => exact ⟨[], Or.inl rfl, rfl, hstands⟩
  | some start =>
      rcases hfirst with ⟨more, hmore, hchars⟩
      have hbody := Lexeme.append_of_scan? (Lexeme.next?_eq_some.mp hp).1
      have hsplit : '!' :: (more ++ tail) =
          '!' :: (more ++ tail.takeWhile isSpacing) ++ (p.text ++ p.tail) := by
        rw [hbody, List.cons_append, List.append_assoc, List.takeWhile_append_dropWhile]
      rw [hsplit] at hmore
      refine ⟨_, Or.inr ⟨_, rfl, fun c hc => ?_⟩, hstands.unique hmore.skip, hmore⟩
      rcases List.mem_append.mp hc with hc | hc
      · exact hchars c hc
      · exact Or.inr (List.mem_takeWhile_imp hc)

/-- One more exclamation mark is read. -/
theorem Led.bang (hfirst : Led source tail first) (h : TailAt source offset tail)
    (hp : Lexeme.next? offset tail = .ok (some p)) (hbang : p.lexeme = .bang) :
    Led source p.tail (some (first.getD p.start)) := by
  have hmark : p.lexeme.mark? = some '!' := by
    rw [hbang]
    rfl
  have htext := Lexeme.text_of_mark? (Lexeme.next?_eq_some.mp hp).1 hmark
  rcases hfirst.start h hp with ⟨marks, hmarks, _, hstands⟩
  rw [htext] at hstands
  -- The mark just read is the first one, or it joins those in front of it.
  rcases hmarks with rfl | ⟨more, rfl, hmore⟩
  · exact ⟨[], hstands, List.forall_mem_nil _⟩
  · refine ⟨more ++ ['!'], ?_, fun c hc => ?_⟩
    · rw [List.append_assoc]
      exact hstands
    · rcases List.mem_append.mp hc with hc | hc
      · exact hmore c hc
      · exact Or.inl (List.mem_singleton.mp hc)

/-- The token of a text that comes next, if there are texts inside it. -/
theorem exists_bracketed_of_nextFrom {wantsOperand negated : Bool} {t : Token String} {r : Reader}
    (h : TailAt source offset tail) (hfirst : Led source tail first)
    (hnext : nextFrom wantsOperand negated first offset tail = .ok (some (t, r)))
    (hne : t.nested ≠ []) : ∃ b : Bracketed, b.Around source t := by
  fun_induction nextFrom wantsOperand negated first offset tail with
  | case1 => cases hnext
  | case2 => cases hnext
  | case3 => cases hnext
  | case4 negated first offset tail p hp start hbang ih =>
      exact ih (Lexeme.stands_of_next? h hp).stop (hfirst.bang h hp hbang) hnext
  | case5 => cases hnext
  | case6 => cases hnext
  | case7 negated first offset tail p hp start hbang piece hpiece hnegated =>
      cases hnext
      rcases Token.Piece.exists_bracketed hpiece hne with ⟨b, hmark, htail, hlevel, rfl⟩
      -- The bracket was found without its marks, which the reader still knows of.
      rcases hfirst.start h hp with ⟨marks, hmarks, hstart, hstands⟩
      have htext := Lexeme.text_of_mark? (Lexeme.next?_eq_some.mp hp).1 hmark
      rw [htext, htail] at hstands
      refine ⟨{ b with marks := marks }, hstands, ?_, rfl, hmarks, hlevel⟩
      have hopener : width [b.opener] = 1 := by
        unfold Bracketed.opener
        split <;> rfl
      rw [Lexeme.Placed.stop, htext, hopener, hstart]
      simp only
      omega

theorem exists_bracketed_of_steps {r : Reader} (h : TailAt source r.offset r.tail) :
    ∀ step ∈ r.steps.1, step.1.nested ≠ [] → ∃ b : Bracketed, b.Around source step.1 := by
  have hstands := next?_stands h
  fun_induction steps r with
  | case1 => exact List.forall_mem_nil _
  | case2 => exact List.forall_mem_nil _
  | case3 r t r' hr later ending heq ih =>
      rw [hr] at hstands
      have hlater := ih hstands.2 (next?_stands hstands.2)
      rw [heq] at hlater
      intro step hstep hne
      rcases List.mem_cons.mp hstep with rfl | hstep
      · exact exists_bracketed_of_nextFrom h led_none (next?_eq_some.mp hr).1 hne
      · exact hlater step hstep hne

end Reader

/-- Every token with texts inside is a bracket, behind exclamation marks or not. -/
theorem Token.exists_bracketed {text : String} {t : Token String} (h : t ∈ (read text).tokens)
    (hne : t.nested ≠ []) : ∃ b : Bracketed, b.Around text.toList t := by
  rcases List.mem_map.mp h with ⟨step, hstep, rfl⟩
  exact Reader.exists_bracketed_of_steps (r := .start text.toList) (tailAt_zero _) step hstep hne

end Reading

end Reckon
