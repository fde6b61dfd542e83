import Mathlib.Algebra.Ring.Parity
import Reckon.Proofs.Readable

/-!
# Tokens Tile their Text

A reader goes on from where a token ends, past some spacing, to where the next token
starts. A token may be made of many lexemes: the exclamation marks before it, a minus
sign and a number, a name and its equals sign, a bracket and all that stands in it.
Whatever it is made of, it takes one stretch of the text, and the reader behind it is
where that stretch ends (`Reader.exists_taken_of_nextFrom`). So the tokens of a text
stand one behind the other with nothing but spacing between them (`Reader.Tiles`).

Behind the last token this is not so. Exclamation marks are read past on the way to the
token that they invert. An odd number of them is missed when no token comes, but an even
number is not, so the marks at the end of `5 !!` are in no token and are no fault
(`Reader.Leftover`). Where there are none, all that stands outside the tokens is spacing
(`Token.tiling_of_finished`).

## Main definitions

* `Span.covers`: The bytes that a token covers.
* `Reader.Tiles`: Tokens that stand one behind the other.
* `Reader.Leftover`: What may be left behind the last token.
* `Token.Tiling`: What follows for the tokens of a text.

## Theorems

* `Token.Piece.exists_taken`: A piece takes one stretch of the text.
* `Reader.exists_taken_of_nextFrom`: So does a token.
* `Reader.leftover_of_nextFrom`: What is left where no token comes.
* `Reader.exists_tiles`: The tokens of a reader.
* `Reader.Tiles.covered`: What a character outside the tokens is.
* `Token.tiling_of_finished`: The tokens of a text that reads to its end.
-/

namespace Reckon

open Text

/-- Whether a span has the byte at `n` in it. -/
def Span.covers (s : Span) (n : Nat) : Bool := decide (s.start ≤ n ∧ n < s.stop)

theorem Span.covers_eq_false {s : Span} {n : Nat} (h : n < s.start ∨ s.stop ≤ n) :
    s.covers n = false := by
  rw [covers, decide_eq_false_iff_not]
  omega

theorem Text.width_pos {cs : List Char} (h : cs ≠ []) : 0 < width cs := by
  cases cs with
  | nil => exact absurd rfl h
  | cons c cs =>
      have hpos := c.utf8Size_pos
      rw [width_cons]
      omega

section Reading

open Lexeme (Placed isSpacing)

variable {source tail : List Char} {offset : Nat}

/-- The next lexeme stands behind spacing. -/
theorem Lexeme.exists_lead {p : Placed} (h : TailAt source offset tail)
    (hp : next? offset tail = .ok (some p)) :
    ∃ lead, tail = lead ++ (p.text ++ p.tail) ∧ Spacing lead ∧ p.text ≠ [] ∧
      p.start = offset + width lead := by
  rcases exists_spacing_of_next? hp with ⟨lead, htail, hlead, hne⟩
  have hstart := (stands_of_next? h hp).start
  rw [htail] at h
  exact ⟨lead, htail, hlead, hne, hstart.unique h.skip⟩

/-- A piece takes one stretch of the text, and ends where the stretch ends. -/
theorem Token.Piece.exists_taken {p : Placed} {wantsOperand : Bool} {piece : Piece}
    (h : TailAt source offset tail) (hp : Lexeme.next? offset tail = .ok (some p))
    (hpiece : of p wantsOperand = .ok piece) :
    ∃ more, p.tail = more ++ piece.tail ∧ piece.stop = p.start + width (p.text ++ more) := by
  have hstands := Lexeme.stands_of_next? h hp
  have hstop := (stands_of hstands hpiece).tail
  rcases takes_of hp hpiece with ⟨more, hmore, _⟩
  have hstart := hstands.start
  rw [hmore, ← List.append_assoc] at hstart
  exact ⟨more, hmore, hstop.unique hstart.skip⟩

namespace Reader

/-- The next token takes one stretch of the text behind some spacing, and the reader
    behind it is where the stretch ends. Exclamation marks that were read before belong
    to it. -/
theorem exists_taken_of_nextFrom {wantsOperand negated : Bool} {first : Option Nat}
    {t : Token String} {r : Reader} (h : TailAt source offset tail)
    (hnext : nextFrom wantsOperand negated first offset tail = .ok (some (t, r))) :
    ∃ gap taken, tail = gap ++ (taken ++ r.tail) ∧ Spacing gap ∧ taken ≠ [] ∧
      t.span = ⟨first.getD (offset + width gap), r.offset⟩ ∧
      r.offset = offset + width gap + width taken := by
  fun_induction nextFrom wantsOperand negated first offset tail with
  | case1 => cases hnext
  | case2 => cases hnext
  | case3 => cases hnext
  | case4 negated first offset tail p hp start hbang ih =>
      rcases Lexeme.exists_lead h hp with ⟨lead, htail, hlead, hne, hstart⟩
      rcases ih (Lexeme.stands_of_next? h hp).stop hnext with
        ⟨gap, taken, hrest, _, _, hspan, hoffset⟩
      -- The stretch starts with the mark, which the token has for its start.
      refine ⟨lead, p.text ++ (gap ++ taken), ?_, hlead, by simp [hne], ?_, ?_⟩
      · rw [htail, hrest]
        simp only [List.append_assoc]
      · rw [hspan, ← hstart]
        rfl
      · rw [hoffset, Lexeme.Placed.stop, hstart, width_append, width_append]
        omega
  | case5 => cases hnext
  | case6 => cases hnext
  | case7 negated first offset tail p hp start hbang piece hpiece hnegated =>
      cases hnext
      rcases Lexeme.exists_lead h hp with ⟨lead, htail, hlead, hne, hstart⟩
      rcases Token.Piece.exists_taken h hp hpiece with ⟨more, hmore, hstop⟩
      refine ⟨lead, p.text ++ more, ?_, hlead, by simp [hne], ?_, ?_⟩
      · rw [htail, hmore, List.append_assoc]
      · rw [← hstart]
      · rw [hstop, hstart]

/-- Where the next token starts and ends, by how much of the text is read. -/
theorem span_of_nextFrom {wantsOperand : Bool} {offset : Nat} {front tail : List Char}
    {t : Token String} {r : Reader} (hfront : tail = front ++ r.tail)
    (hnext : nextFrom wantsOperand false none offset tail = .ok (some (t, r))) :
    t.span.stop = offset + width front ∧ t.span.start ≤ t.span.stop := by
  rcases exists_tailAt offset tail with ⟨_, hplace⟩
  rcases exists_taken_of_nextFrom hplace hnext with ⟨gap, taken, htaken, _, _, hspan, hoffset⟩
  rw [hfront, ← List.append_assoc, List.append_cancel_right_eq] at htaken
  rw [hspan, hoffset, htaken, width_append]
  exact ⟨Nat.add_assoc _ _ _, Nat.le_add_right _ _⟩

/-- What may be left behind the last token: spacing, and an even number of exclamation
    marks. -/
structure Leftover (rest : List Char) : Prop where
  chars : ∀ c ∈ rest, c = '!' ∨ isSpacing c = true
  even : Even (rest.count '!')

/-- What is left is blank if and only if no exclamation mark is left. -/
theorem Leftover.allBlank_iff {rest : List Char} (h : Leftover rest) :
    allBlank rest = true ↔ '!' ∉ rest := by
  rw [Text.allBlank_iff]
  constructor
  · intro hblank hmem
    exact absurd (hblank '!' hmem) (by decide)
  · intro hmark c hc
    rcases h.chars c hc with rfl | hspacing
    · exact absurd hc hmark
    · exact isBlank_of_isSpacing hspacing

theorem count_of_spacing {cs : List Char} (h : Spacing cs) : cs.count '!' = 0 := by
  rw [List.count_eq_zero]
  intro hmem
  exact absurd (h '!' hmem) (by decide)

/-- Where no token comes, as many exclamation marks are left as make their number even,
    and spacing. -/
theorem leftover_of_nextFrom {wantsOperand negated : Bool} {first : Option Nat}
    (hnone : nextFrom wantsOperand negated first offset tail = .ok none) :
    (∀ c ∈ tail, c = '!' ∨ isSpacing c = true) ∧
      (Even (tail.count '!') ↔ negated = false) := by
  -- The parity of the marks turns with each mark and is even where the reader is content.
  fun_induction nextFrom wantsOperand negated first offset tail with
  | case1 => cases hnone
  | case2 => cases hnone
  | case3 negated first offset tail hnext hnegated =>
      have hspacing : Spacing tail := List.dropWhile_eq_nil_iff.mp (Lexeme.next?_eq_none.mp hnext)
      refine ⟨fun c hc => Or.inr (hspacing c hc), ?_⟩
      rw [count_of_spacing hspacing]
      exact iff_of_true Even.zero (Bool.eq_false_iff.mpr hnegated)
  | case4 negated first offset tail p hp start hbang ih =>
      rcases ih hnone with ⟨hchars, heven⟩
      rcases Lexeme.exists_spacing_of_next? hp with ⟨lead, htail, hlead, _⟩
      have hmark : p.lexeme.mark? = some '!' := by
        rw [hbang]
        rfl
      rw [Lexeme.text_of_mark? (Lexeme.next?_eq_some.mp hp).1 hmark] at htail
      subst htail
      constructor
      · intro c hc
        rcases List.mem_append.mp hc with hc | hc
        · exact Or.inr (hlead c hc)
        · rcases List.mem_cons.mp hc with hc | hc
          · exact Or.inl hc
          · exact hchars c hc
      · -- One mark more, and the other parity.
        rw [List.count_append, count_of_spacing hlead, Nat.zero_add, List.singleton_append,
          List.count_cons_self, Nat.even_add_one, heven]
        cases negated <;> decide
  | case5 => cases hnone
  | case6 => cases hnone
  | case7 => cases hnone

/-- The tokens `steps` that a reader comes to stand one behind the other, with nothing
    but spacing before each. Behind the last of them is `rest`. -/
inductive Tiles : Reader → List (Token String × Reader) → List Char → Prop
  | nil (r : Reader) : Tiles r [] r.tail
  | cons {r r' : Reader} {t : Token String} {steps : List (Token String × Reader)}
      {gap taken rest : List Char} :
      r.tail = gap ++ (taken ++ r'.tail) → Spacing gap → taken ≠ [] →
      t.span = ⟨r.offset + width gap, r'.offset⟩ →
      r'.offset = r.offset + width gap + width taken →
      Tiles r' steps rest → Tiles r ((t, r') :: steps) rest

/-- The tokens of a reader tile its text. -/
theorem exists_tiles {r : Reader} (h : TailAt source r.offset r.tail) :
    ∃ rest, Tiles r r.steps.1 rest ∧
      ∀ leftover, r.steps.2 = .finished leftover → Leftover rest ∧ leftover = !allBlank rest := by
  have hstands := next?_stands h
  -- Each step adds one tile; what is left where the reader stops is the rest.
  fun_induction steps r with
  | case1 r fault hr => exact ⟨r.tail, .nil r, fun _ hend => by cases hend⟩
  | case2 r hr =>
      refine ⟨r.tail, .nil r, fun leftover hend => ?_⟩
      rcases leftover_of_nextFrom (next?_eq_none.mp hr) with ⟨hchars, heven⟩
      cases hend
      exact ⟨⟨hchars, heven.mpr rfl⟩, rfl⟩
  | case3 r t r' hr later ending heq ih =>
      rw [hr] at hstands
      rcases exists_taken_of_nextFrom h (next?_eq_some.mp hr).1 with
        ⟨gap, taken, htail, hgap, hne, hspan, hoffset⟩
      rcases ih hstands.2 (next?_stands hstands.2) with ⟨rest, htiles, hrest⟩
      rw [heq] at htiles hrest
      exact ⟨rest, .cons htail hgap hne hspan hoffset htiles, hrest⟩

namespace Tiles

variable {r : Reader} {steps : List (Token String × Reader)} {rest : List Char}

/-- Each token is a stretch of the text, and the reader behind it is at its end. -/
theorem stands (h : Tiles r steps rest) (hr : TailAt source r.offset r.tail) :
    ∀ step ∈ steps, step.1.span.start < step.1.span.stop ∧ Boundary source step.1.span.start ∧
      step.2.offset = step.1.span.stop ∧ TailAt source step.2.offset step.2.tail := by
  -- The reader behind a token stands where that token stops, so the next one starts later.
  induction h with
  | nil => exact List.forall_mem_nil _
  | cons htail _ hne hspan hoffset _ ih =>
      have hpos := width_pos hne
      rw [htail] at hr
      have hstart := hr.skip
      have hstop := hstart.skip
      rw [← hoffset] at hstop
      refine List.forall_mem_cons.mpr ⟨?_, ih hstop⟩
      rw [hspan]
      refine ⟨?_, hstart.boundary, rfl, hstop⟩
      simp only
      omega

/-- Every token starts behind the reader. -/
theorem le_start (h : Tiles r steps rest) : ∀ step ∈ steps, r.offset ≤ step.1.span.start := by
  induction h with
  | nil => exact List.forall_mem_nil _
  | cons _ _ _ hspan hoffset _ ih =>
      refine List.forall_mem_cons.mpr ⟨?_, fun step hstep => ?_⟩
      · rw [hspan]
        exact Nat.le_add_right _ _
      · have hle := ih step hstep
        omega

/-- A token ends before the next one starts. -/
theorem pairwise (h : Tiles r steps rest) :
    steps.Pairwise fun a b => a.1.span.stop ≤ b.1.span.start := by
  induction h with
  | nil => exact List.Pairwise.nil
  | cons _ _ _ hspan _ htiles ih =>
      refine List.pairwise_cons.mpr ⟨fun step hstep => ?_, ih⟩
      rw [hspan]
      exact htiles.le_start step hstep

/-- No byte is in two tokens. -/
theorem countP_le_one (h : Tiles r steps rest) (n : Nat) :
    steps.countP (·.1.span.covers n) ≤ 1 := by
  induction h with
  | nil => exact Nat.zero_le _
  | @cons r r' t steps gap taken rest _ _ _ hspan _ htiles ih =>
      rw [List.countP_cons]
      by_cases hn : n < r'.offset
      · -- The tokens behind this one start later.
        have hlater : steps.countP (·.1.span.covers n) = 0 := by
          refine List.countP_eq_zero.mpr fun step hstep => ?_
          have hle := htiles.le_start step hstep
          rw [Span.covers_eq_false (Or.inl (by omega))]
          exact Bool.false_ne_true
        rw [hlater]
        split <;> omega
      · have hthis : t.span.covers n = false := by
          rw [hspan]
          exact Span.covers_eq_false (Or.inr (Nat.le_of_not_lt hn))
        rw [hthis]
        exact ih

/-- The text behind the last token. -/
theorem exists_front (h : Tiles r steps rest) :
    ∃ front, r.tail = front ++ rest ∧
      ∀ step ∈ steps, step.1.span.stop ≤ r.offset + width front := by
  induction h with
  | nil r => exact ⟨[], rfl, List.forall_mem_nil _⟩
  | @cons r r' t steps gap taken rest htail _ _ hspan hoffset _ ih =>
      rcases ih with ⟨front, hfront, hstop⟩
      refine ⟨gap ++ (taken ++ front), ?_, List.forall_mem_cons.mpr ⟨?_, fun step hstep => ?_⟩⟩
      · rw [htail, hfront]
        simp only [List.append_assoc]
      · rw [hspan, width_append, width_append]
        exact show r'.offset ≤ _ by omega
      · have hle := hstop step hstep
        rw [width_append, width_append]
        omega

/-- A character that is in no token is spacing, or stands behind the last token. -/
theorem covered (h : Tiles r steps rest) {before after : List Char} {c : Char}
    (htext : r.tail = before ++ c :: after) :
    (∃ step ∈ steps, step.1.span.covers (r.offset + width before) = true) ∨ isSpacing c = true ∨
      c ∈ rest ∧ after.length < rest.length := by
  induction h generalizing before with
  | nil r =>
      refine Or.inr (Or.inr ⟨?_, ?_⟩)
      · rw [htext]
        exact List.mem_append_right _ List.mem_cons_self
      · rw [htext, List.length_append, List.length_cons]
        omega
  | @cons r r' t steps gap taken rest htail hgap _ hspan hoffset _ ih =>
      rw [htail] at htext
      rcases cases_of_append_eq htext with ⟨more, rfl, _⟩ | ⟨lead, rfl, htaken⟩
      · -- before the token
        exact Or.inr (Or.inl (hgap c (List.mem_append_right _ List.mem_cons_self)))
      rcases cases_of_append_eq htaken with ⟨more, rfl, _⟩ | ⟨lead', rfl, hbehind⟩
      · -- in the token
        have hpos := c.utf8Size_pos
        refine Or.inl ⟨(t, r'), List.mem_cons_self, ?_⟩
        rw [width_append, width_cons] at hoffset
        simp only [hspan, width_append, Span.covers, decide_eq_true_eq]
        omega
      · -- behind the token
        have hplace : r.offset + width (gap ++ (taken ++ lead')) = r'.offset + width lead' := by
          rw [hoffset, width_append, width_append]
          omega
        rw [hplace]
        rcases ih hbehind with ⟨step, hstep, hcovers⟩ | hother
        · exact Or.inl ⟨step, List.mem_cons_of_mem _ hstep, hcovers⟩
        · exact Or.inr hother

end Tiles

end Reader

namespace Token

/-- Tokens, each with the reader behind it, that tile a text up to `rest`. -/
structure Tiling (source : List Char) (steps : List (Token String × Reader)) (rest : List Char) :
    Prop where
  /-- No token is empty, or cuts a character in two, or leaves the text. -/
  span : ∀ step ∈ steps, step.1.span.start < step.1.span.stop ∧ step.1.span.stop ≤ width source ∧
    Boundary source step.1.span.start ∧ Boundary source step.1.span.stop
  /-- The reader behind a token is at its end. -/
  cursor : ∀ step ∈ steps, step.2.offset = step.1.span.stop ∧
    TailAt source step.2.offset step.2.tail
  ordered : steps.Pairwise fun a b => a.1.span.stop ≤ b.1.span.start
  /-- No byte is in two tokens. -/
  once : ∀ n, steps.countP (·.1.span.covers n) ≤ 1
  /-- No character is lost, unless it is spacing or in the rest. -/
  outside : ∀ before c after, source = before ++ c :: after →
    (∀ step ∈ steps, step.1.span.covers (width before) = false) →
      isSpacing c = true ∨ c ∈ rest ∧ after.length < rest.length
  /-- The rest is what stands behind the last token. -/
  behind : ∃ front, source = front ++ rest ∧ ∀ step ∈ steps, step.1.span.stop ≤ width front

/-- All characters outside the tokens are spacing. -/
def Lossless (source : List Char) (steps : List (Token String × Reader)) : Prop :=
  ∀ before c after, source = before ++ c :: after →
    (∀ step ∈ steps, step.1.span.covers (width before) = false) → isSpacing c = true

theorem tiling_of_tiles {cs rest : List Char} {steps : List (Token String × Reader)}
    (h : Reader.Tiles (.start cs) steps rest) : Tiling cs steps rest := by
  have hstands := h.stands (tailAt_zero cs)
  -- Every clause is a law of the tiles, read from the start of the text.
  constructor
  · intro step hstep
    rcases hstands step hstep with ⟨hlt, hstart, hoffset, htail⟩
    rw [hoffset] at htail
    exact ⟨hlt, htail.boundary.le_width, hstart, htail.boundary⟩
  · intro step hstep
    exact ⟨(hstands step hstep).2.2.1, (hstands step hstep).2.2.2⟩
  · exact h.pairwise
  · exact h.countP_le_one
  · intro before c after hcs hnone
    rcases h.covered hcs with ⟨step, hstep, hcovers⟩ | hother
    · rw [Reader.start, Nat.zero_add, hnone step hstep] at hcovers
      cases hcovers
    · exact hother
  · rcases h.exists_front with ⟨front, hfront, hstop⟩
    refine ⟨front, hfront, fun step hstep => ?_⟩
    have hle := hstop step hstep
    rwa [Reader.start, Nat.zero_add] at hle

/-- The tokens of a text that reads to its end tile it, up to exclamation marks behind the
    last of them. Nothing but spacing is lost if and only if there are no such marks. -/
theorem tiling_of_finished {text : String} {leftover : Bool}
    (h : (read text).ending = .finished leftover) :
    ∃ rest, Tiling text.toList (Reader.start text.toList).steps.1 rest ∧ Reader.Leftover rest ∧
      (leftover = true ↔ '!' ∈ rest) ∧
      (leftover = false ↔ Lossless text.toList (Reader.start text.toList).steps.1) := by
  rcases Reader.exists_tiles (r := .start text.toList) (tailAt_zero _) with ⟨rest, htiles, hrest⟩
  rcases hrest leftover h with ⟨hleft, rfl⟩
  have htiling := tiling_of_tiles htiles
  have hmark : (!allBlank rest) = true ↔ '!' ∈ rest := by
    rw [Bool.not_eq_true', Bool.eq_false_iff, ne_eq, hleft.allBlank_iff, not_not]
  refine ⟨rest, htiling, hleft, hmark, ?_⟩
  rw [← Bool.not_eq_true, hmark]
  constructor
  · intro hnone before c after hsource houtside
    rcases htiling.outside before c after hsource houtside with hspacing | ⟨hmem, _⟩
    · exact hspacing
    · -- What is left is spacing, as there are no marks in it.
      exact (hleft.chars c hmem).resolve_left fun heq => hnone (heq ▸ hmem)
  · intro hlossless hmem
    -- A mark that is left is in no token, and it is not spacing.
    rcases List.append_of_mem hmem with ⟨lead, after, hsplit⟩
    rcases htiling.behind with ⟨front, hfront, hstop⟩
    have hspacing := hlossless (front ++ lead) '!' after (by rw [hfront, hsplit, List.append_assoc])
      fun step hstep => by
        have hle := hstop step hstep
        rw [width_append]
        exact Span.covers_eq_false (Or.inr (by omega))
    exact absurd hspacing (by decide)

/-- Both happen. The exclamation marks of `!!x` are in its token, and those of `5 !!`
    are in none. -/
theorem tiling_of_finished_marks :
    Lossless "!!x".toList (Reader.start "!!x".toList).steps.1 ∧
      ¬ Lossless "5 !!".toList (Reader.start "5 !!".toList).steps.1 := by
  have hx : read "!!x" = ⟨[⟨.operand (.identifier "x"), ⟨0, 3⟩, false⟩], .finished false⟩ := by
    rw [read_eq 4 (by decide)]
    rfl
  have hfive : read "5 !!" = ⟨[⟨.operand (.literal (.int 5)), ⟨0, 1⟩, false⟩], .finished true⟩ := by
    rw [read_eq 5 (by decide)]
    rfl
  rcases tiling_of_finished (congrArg Reading.ending hx) with ⟨_, _, _, _, hlossless⟩
  rcases tiling_of_finished (congrArg Reading.ending hfive) with ⟨_, _, _, _, hlossy⟩
  refine ⟨hlossless.mp rfl, fun h => ?_⟩
  cases hlossy.mpr h

end Token

end Reading

end Reckon
