import Reckon.Proofs.Printed

/-!
# Exclamation Marks in Front of a Token

A token may have any number of exclamation marks in front of it, with spacing between
them. A reader goes through them one by one and keeps nothing but whether their number is
odd, and where the first of them is. Read as text they are easily told: they are what the
text starts with, the mark of `!=` excepted, which belongs to an operator (`marks`,
`unmarked`).

So an operand is negated exactly if the number of marks is odd. What takes its operand
from behind, an operator or a target, may not be negated, and an odd number of marks in
front of it is a fault at the first of them. But an even number is no negation, and there
the marks are read past, whatever stands behind them: `5 !!+ 3` is read as `5 + 3` is, and
the operator starts with the marks (`Token.marks_of_readAll`).

## Main definitions

* `Lexeme.marks`: The number of marks that a text starts with.
* `Lexeme.unmarked`: What stands behind them.
* `Reader.reached`: The readers that reading comes to.

## Theorems

* `Reader.nextFrom_eq_unmarked`: The next token, read from behind its marks.
* `Reader.next?_of_unmarked`: What marks make of the token behind them.
* `Token.marks_of_readAll`: The marks in front of the tokens of a text.
-/

namespace Reckon

open Text

namespace Lexeme

/-- Whether a text starts with an exclamation mark that is a lexeme of its own. -/
def startsWithMark : List Char → Bool
  | '!' :: cs => cs.head? != some '='
  | _ => false

/-- The number of exclamation marks that a text starts with. Spacing may stand before each of
    them. -/
def marks : List Char → Nat
  | [] => 0
  | c :: cs =>
    if isSpacing c then marks cs else if startsWithMark (c :: cs) then marks cs + 1 else 0

/-- What a text goes on with behind the exclamation marks, and the spacing, that it starts
    with. -/
def unmarked : List Char → List Char
  | [] => []
  | c :: cs => if isSpacing c || startsWithMark (c :: cs) then unmarked cs else c :: cs

theorem startsWithMark_iff {cs : List Char} :
    startsWithMark cs = true ↔ ∃ rest, cs = '!' :: rest ∧ ∀ more, rest ≠ '=' :: more := by
  have hhead (rest : List Char) :
      (rest.head? != some '=') = true ↔ ∀ more, rest ≠ '=' :: more := by
    rw [bne_iff_ne, ne_eq, List.head?_eq_some_iff, not_exists]
  unfold startsWithMark
  split
  next rest =>
    rw [hhead]
    exact ⟨fun h => ⟨rest, rfl, h⟩, fun ⟨_, heq, h⟩ => by cases heq; exact h⟩
  next hne =>
    refine ⟨nofun, ?_⟩
    rintro ⟨rest, rfl, -⟩
    exact absurd rfl (hne rest)

section Cases

variable {c : Char} {cs : List Char}

theorem unmarked_of_spacing (h : isSpacing c = true) :
    marks (c :: cs) = marks cs ∧ unmarked (c :: cs) = unmarked cs := by
  rw [marks, unmarked, h, Bool.true_or, if_pos rfl, if_pos rfl]
  exact ⟨rfl, rfl⟩

theorem unmarked_of_mark (h : startsWithMark (c :: cs) = true) :
    marks (c :: cs) = marks cs + 1 ∧ unmarked (c :: cs) = unmarked cs := by
  rcases startsWithMark_iff.mp h with ⟨rest, heq, -⟩
  have hspacing : isSpacing c = false := by
    cases heq
    rfl
  rw [marks, unmarked, hspacing, h, if_neg Bool.false_ne_true, if_pos rfl, Bool.or_true, if_pos rfl]
  exact ⟨rfl, rfl⟩

theorem unmarked_of_other (hspacing : isSpacing c = false) (h : startsWithMark (c :: cs) = false) :
    marks (c :: cs) = 0 ∧ unmarked (c :: cs) = c :: cs := by
  rw [marks, unmarked, hspacing, h, if_neg Bool.false_ne_true, if_neg Bool.false_ne_true,
    Bool.or_false, if_neg Bool.false_ne_true]
  exact ⟨rfl, rfl⟩

theorem scan?_of_startsWithMark (h : startsWithMark (c :: cs) = true) :
    c = '!' ∧ scan? (c :: cs) = some (.bang, ['!'], cs) := by
  rcases startsWithMark_iff.mp h with ⟨rest, heq, hne⟩
  cases heq
  exact ⟨rfl, scan?_bang hne⟩

end Cases

/-- An exclamation mark is the only lexeme of its kind. -/
theorem startsWithMark_of_scan? {cs text tail : List Char}
    (h : scan? cs = some (.bang, text, tail)) : startsWithMark cs = true := by
  have hbody := append_of_scan? h
  rw [text_of_mark? h rfl] at hbody
  refine startsWithMark_iff.mpr ⟨tail, hbody.symm, ?_⟩
  rintro more rfl
  rw [← hbody] at h
  cases h

/-- Spacing in front of the marks does not count. -/
theorem marks_append {gap : List Char} (h : Spacing gap) (cs : List Char) :
    marks (gap ++ cs) = marks cs := by
  induction gap with
  | nil => rfl
  | cons c gap ih =>
      rw [List.cons_append, (unmarked_of_spacing (h c List.mem_cons_self)).1]
      exact ih fun d hd => h d (List.mem_cons_of_mem c hd)

theorem marks_dropWhile (cs : List Char) : marks (cs.dropWhile isSpacing) = marks cs := by
  have hgap : Spacing (cs.takeWhile isSpacing) := fun _ => List.mem_takeWhile_imp
  rw [← marks_append hgap, List.takeWhile_append_dropWhile]

/-- The first of the marks comes behind the spacing. -/
theorem exists_first_mark {cs : List Char} (h : 0 < marks cs) :
    ∃ rest, cs.dropWhile isSpacing = '!' :: rest := by
  fun_induction marks cs with
  | case1 => exact absurd h (Nat.lt_irrefl 0)
  | case2 c cs hspacing ih =>
      rw [List.dropWhile_cons_of_pos hspacing]
      exact ih h
  | case3 c cs hspacing hmark ih =>
      rw [List.dropWhile_cons_of_neg hspacing, (scan?_of_startsWithMark hmark).1]
      exact ⟨cs, rfl⟩
  | case4 => exact absurd h (Nat.lt_irrefl 0)

theorem unmarked_suffix (cs : List Char) : unmarked cs <:+ cs := by
  fun_induction unmarked cs with
  | case1 => exact List.suffix_refl _
  | case2 c cs _ ih => exact ih.trans (List.suffix_cons c cs)
  | case3 => exact List.suffix_refl _

/-- Behind the marks no other one comes next. -/
theorem ne_bang_of_unmarked {cs : List Char} {offset : Nat} {p : Placed}
    (hp : next? offset (unmarked cs) = .ok (some p)) : p.lexeme ≠ .bang := by
  intro hbang
  have hscan := (next?_eq_some.mp hp).1
  rw [hbang] at hscan
  have hmark := startsWithMark_of_scan? hscan
  fun_induction unmarked cs with
  | case1 => cases hmark
  | case2 c cs h ih => exact ih hp hscan hmark
  | case3 c cs h =>
      rw [Bool.not_eq_true, Bool.or_eq_false_iff] at h
      rw [List.dropWhile_cons_of_neg (Bool.eq_false_iff.mp h.1), h.2] at hmark
      cases hmark

end Lexeme

namespace Reader

open Lexeme (isSpacing marks unmarked)

/-- The next token, read from behind its marks. -/
theorem nextFrom_eq_unmarked (wantsOperand negated : Bool) (first : Option Nat)
    (offset : Nat) {stop : Nat} {tail : List Char}
    (hstop : stop + width (unmarked tail) = offset + width tail) :
    nextFrom wantsOperand negated first offset tail =
      nextFrom wantsOperand (negated ^^ decide (Odd (marks tail)))
        (if marks tail = 0 then first
          else some (first.getD (offset + width (tail.takeWhile isSpacing))))
        stop (unmarked tail) := by
  induction tail generalizing negated first offset with
  | nil =>
      have hoffset : stop = offset := Nat.add_right_cancel hstop
      simp [marks, unmarked, hoffset]
  | cons c cs ih =>
      rw [width_cons] at hstop
      by_cases hspacing : isSpacing c = true
      · rcases (Lexeme.unmarked_of_spacing hspacing : marks (c :: cs) = marks cs ∧ _) with
          ⟨hmarks, hunmarked⟩
        have hgap : Spacing [c] := List.forall_mem_singleton.mpr hspacing
        have htail := nextFrom_spacing hgap wantsOperand negated first offset cs
        rw [List.singleton_append, width_cons, width_nil, Nat.add_zero] at htail
        rw [hunmarked] at hstop
        rw [htail, hmarks, hunmarked, List.takeWhile_cons_of_pos hspacing, width_cons,
          ih negated first (offset + c.utf8Size) (by omega), Nat.add_assoc]
      rw [Bool.not_eq_true] at hspacing
      by_cases hmark : Lexeme.startsWithMark (c :: cs) = true
      · rcases Lexeme.unmarked_of_mark hmark with ⟨hmarks, hunmarked⟩
        rcases Lexeme.scan?_of_startsWithMark hmark with ⟨rfl, hscan⟩
        have hparity : (negated ^^ decide (Odd (marks cs + 1))) =
            (!negated ^^ decide (Odd (marks cs))) := by
          simp only [Nat.odd_add_one, decide_not, Bool.xor_not, Bool.not_xor]
        rw [hunmarked] at hstop
        have hrest := ih (!negated) (some (first.getD offset)) (offset + width ['!'])
          (by rw [width_cons, width_nil]; omega)
        refine ((nextFrom_of_bang (Lexeme.next?_of_scan? hscan offset) rfl).trans hrest).trans ?_
        rw [hmarks, hunmarked, hparity, List.takeWhile_cons_of_neg (by decide),
          if_neg (Nat.succ_ne_zero _)]
        -- The first of the marks is this one, whether or not there are others.
        simp only [Option.getD_some, ite_self, width_nil, Nat.add_zero]
      · rw [Bool.not_eq_true] at hmark
        rcases Lexeme.unmarked_of_other hspacing hmark with ⟨hmarks, hunmarked⟩
        have hoffset : stop = offset := by
          rw [hunmarked, width_cons] at hstop
          omega
        simp [hmarks, hunmarked, hoffset]

/-- Where no mark comes next, the marks that were read before decide about the token. -/
theorem nextFrom_of_ne_bang {wantsOperand : Bool} {offset : Nat} {tail : List Char}
    {t : Token String} {r : Reader}
    (hbang : ∀ p, Lexeme.next? offset tail = .ok (some p) → p.lexeme ≠ .bang)
    (h : nextFrom wantsOperand false none offset tail = .ok (some (t, r)))
    (negated : Bool) (first : Option Nat) :
    nextFrom wantsOperand negated first offset tail =
      if negated && t.kind.wantsOperand then .error (.unexpected (first.getD t.span.start) "!")
      else .ok (some (⟨t.kind, ⟨first.getD t.span.start, t.span.stop⟩, negated⟩, r)) := by
  rw [nextFrom_eq] at h ⊢
  -- With no mark to read the flag is only carried to the piece.
  rcases hnext : Lexeme.next? offset tail with fault | _ | p
  · rw [hnext] at h
    cases h
  · rw [hnext] at h
    cases h
  · rw [hnext] at h
    simp only [hbang p hnext, if_false, Bool.false_and, Bool.false_eq_true] at h ⊢
    rcases hpiece : Token.Piece.of p wantsOperand with fault | piece
    · rw [hpiece] at h
      cases h
    · rw [hpiece] at h
      cases h
      rfl

/-- A token is negated as the marks before it say, and is then an operand. -/
theorem negated_of_ne_bang {wantsOperand negated : Bool} {first : Option Nat} {offset : Nat}
    {tail : List Char} {t : Token String} {r : Reader}
    (hbang : ∀ p, Lexeme.next? offset tail = .ok (some p) → p.lexeme ≠ .bang)
    (h : nextFrom wantsOperand negated first offset tail = .ok (some (t, r))) :
    t.negated = negated ∧ (negated && t.kind.wantsOperand) = false := by
  rw [nextFrom_eq] at h
  split at h
  next => cases h
  next => split at h <;> cases h
  next p hp =>
    rw [if_neg (hbang p hp)] at h
    split at h
    next => cases h
    next piece hpiece =>
      split at h
      next => cases h
      next hnegated =>
        cases h
        exact ⟨rfl, Bool.not_eq_true _ ▸ hnegated⟩

section Place

variable {source : List Char} {r r' : Reader} {t : Token String}

/-- The marks that a token starts with are those that a reader comes to before it. They say
    whether it is negated, and are even in number unless it is an operand. -/
theorem marks_of_next? (hr : TailAt source r.offset r.tail) (h : r.next? = .ok (some (t, r'))) :
    ∃ cs, TailAt source t.span.start cs ∧ t.negated = decide (Odd (marks cs)) ∧
      (t.kind.wantsOperand = true → Even (marks cs)) := by
  replace h := (next?_eq_some.mp h).1
  rcases exists_taken_of_nextFrom hr h with ⟨gap, taken, htail, hgap, _, hspan, _⟩
  have hstart := hr
  rw [htail] at hstart
  have hmarks : marks (taken ++ r'.tail) = marks r.tail := by
    rw [htail, Lexeme.marks_append hgap]
  -- The marks in front are read off first, which leaves the reader on a piece without any.
  rcases Lexeme.unmarked_suffix r.tail with ⟨front, hfront⟩
  have hstop : r.offset + width front + width (unmarked r.tail) = r.offset + width r.tail := by
    rw [Nat.add_assoc, ← width_append, hfront]
  rw [wide?, nextFrom_eq_unmarked _ _ _ _ hstop, Bool.false_xor] at h
  rcases negated_of_ne_bang (fun p => Lexeme.ne_bang_of_unmarked) h with ⟨hnegated, hwants⟩
  refine ⟨taken ++ r'.tail, ?_, by rw [hnegated, hmarks], fun hkind => ?_⟩
  · rw [hspan]
    exact hstart.skip
  · rw [hkind, Bool.and_true, decide_eq_false_iff_not, Nat.not_odd_iff_even] at hwants
    rwa [hmarks]

/-- What marks make of the token behind them: an operand, negated if they are odd in number,
    or nothing at all if they are even. -/
theorem next?_of_unmarked {offset : Nat} (hr : TailAt source r.offset r.tail)
    (hoffset : TailAt source offset (unmarked r.tail)) (hmarks : 0 < marks r.tail)
    (h : (⟨unmarked r.tail, offset, r.wantsOperand⟩ : Reader).next? = .ok (some (t, r'))) :
    ∃ start rest, TailAt source start ('!' :: rest) ∧ marks ('!' :: rest) = marks r.tail ∧
      r.next? =
        if Odd (marks r.tail) ∧ t.kind.wantsOperand = true then .error (.unexpected start "!")
        else .ok (some (⟨t.kind, ⟨start, t.span.stop⟩, decide (Odd (marks r.tail))⟩, r')) := by
  rcases Lexeme.exists_first_mark hmarks with ⟨rest, hrest⟩
  have hstart := Lexeme.tailAt_dropWhile hr
  have hsame := Lexeme.marks_dropWhile r.tail
  rw [hrest] at hstart hsame
  have hstop : offset + width (unmarked r.tail) = r.offset + width r.tail :=
    hoffset.add_width.trans hr.add_width.symm
  refine ⟨_, rest, hstart, hsame, ?_⟩
  rcases next?_eq_some.mp h with ⟨hfound, _, hlimit⟩
  have hwide : r.wide? = _ := nextFrom_eq_unmarked _ _ _ _ hstop
  rw [if_neg hmarks.ne', nextFrom_of_ne_bang (fun p => Lexeme.ne_bang_of_unmarked) hfound] at hwide
  simp only [Bool.false_xor, Option.getD_some, Option.getD_none, Bool.and_eq_true,
    decide_eq_true_eq] at hwide
  split at hwide
  next hodd =>
    rw [if_pos hodd]
    exact next?_of_error hwide
  next hodd =>
    -- With its marks the token starts further on the left, and ends where it did.
    rcases exists_taken_of_nextFrom hr hwide with ⟨gap, taken, htail, _⟩
    have hspan := span_of_nextFrom (htail.trans (List.append_assoc gap taken _).symm) hwide
    rw [if_neg hodd]
    exact next?_of_le hwide (Nat.le_trans hspan.2 hlimit) hlimit

end Place

/-- The readers that reading comes to: the one it starts with, and the one behind every
    token. -/
def reached (r : Reader) : List Reader := r :: r.steps.1.map Prod.snd

/-- A reader that is reached stands in the text, and what it comes to next is a token of the
    reading, or the fault that ends it. -/
theorem reached_stands {source : List Char} {r : Reader} (h : TailAt source r.offset r.tail) :
    ∀ q ∈ r.reached, TailAt source q.offset q.tail ∧
      (∀ step, q.next? = .ok (some step) → step ∈ r.steps.1) ∧
        ∀ fault, q.next? = .error fault → r.steps.2 = .fault fault := by
  have hstands := next?_stands h
  unfold reached
  -- The readers reached are those before each token, and one more where it stops.
  fun_induction steps r with
  | case1 r fault hr =>
      refine List.forall_mem_singleton.mpr ⟨h, fun step hstep => ?_, fun fault' hfault => ?_⟩
      · cases hr.symm.trans hstep
      · cases hr.symm.trans hfault
        rfl
  | case2 r hr =>
      refine List.forall_mem_singleton.mpr ⟨h, fun step hstep => ?_, fun fault hfault => ?_⟩
      · cases hr.symm.trans hstep
      · cases hr.symm.trans hfault
  | case3 r t r' hr later ending heq ih =>
      rw [hr] at hstands
      have hlater := ih hstands.2 (next?_stands hstands.2)
      rw [heq] at hlater
      refine List.forall_mem_cons.mpr ⟨⟨h, fun step hstep => ?_, fun fault hfault => ?_⟩, ?_⟩
      · cases hr.symm.trans hstep
        exact List.mem_cons_self
      · cases hr.symm.trans hfault
      · intro q hq
        rcases hlater q hq with ⟨hplace, hsteps, hfault⟩
        exact ⟨hplace, fun step hstep => List.mem_cons_of_mem _ (hsteps step hstep), hfault⟩

/-- Every token of a reading is the next one of a reader that is reached. -/
theorem exists_reached {r : Reader} {step : Token String × Reader} (h : step ∈ r.steps.1) :
    ∃ q ∈ r.reached, q.next? = .ok (some step) := by
  unfold reached
  fun_induction steps r with
  | case1 => cases h
  | case2 => cases h
  | case3 r t r' hr later ending heq ih =>
      rcases List.mem_cons.mp h with rfl | hlater
      · exact ⟨r, List.mem_cons_self, hr⟩
      · rw [heq] at ih
        rcases ih hlater with ⟨q, hq, hnext⟩
        exact ⟨q, List.mem_cons_of_mem r hq, hnext⟩

end Reader

namespace Token

open Lexeme (marks unmarked)

/-- The marks that a token of a text starts with are odd in number exactly if it is negated,
    and only an operand is. Wherever reading comes to marks and a token behind them, that
    token is read with the marks in its span, unless they are odd in number and it is no
    operand: then the first of them is the fault. -/
theorem marks_of_readAll (text : String) :
    (∀ ts, readAll? text = .ok ts → ∀ t ∈ ts, ∃ cs, TailAt text.toList t.span.start cs ∧
      (t.negated = true ↔ Odd (marks cs)) ∧ (t.kind.wantsOperand = true → Even (marks cs))) ∧
    ∀ r ∈ (Reader.start text.toList).reached, 0 < marks r.tail →
      ∀ offset t r', TailAt text.toList offset (unmarked r.tail) →
        (⟨unmarked r.tail, offset, r.wantsOperand⟩ : Reader).next? = .ok (some (t, r')) →
          ∃ start rest, TailAt text.toList start ('!' :: rest) ∧
            marks ('!' :: rest) = marks r.tail ∧
              if Odd (marks r.tail) ∧ t.kind.wantsOperand = true then
                readAll? text = .error (.unexpected start "!")
              else
                (⟨t.kind, ⟨start, t.span.stop⟩, decide (Odd (marks r.tail))⟩, r') ∈
                  (Reader.start text.toList).steps.1 := by
  have hstands := Reader.reached_stands (r := .start text.toList) (tailAt_zero _)
  constructor
  · intro ts hts t ht
    rw [← (readAll?_eq_ok_iff.mp hts).1] at ht
    rcases List.mem_map.mp ht with ⟨step, hstep, rfl⟩
    -- A token of the text was given by one of the readers reached.
    rcases Reader.exists_reached hstep with ⟨q, hq, hnext⟩
    rcases Reader.marks_of_next? (hstands q hq).1 hnext with ⟨cs, hcs, hnegated, heven⟩
    exact ⟨cs, hcs, by rw [hnegated, decide_eq_true_eq], heven⟩
  · intro r hr hmarks offset t r' hoffset hnext
    rcases hstands r hr with ⟨hplace, hstep, hfault⟩
    rcases Reader.next?_of_unmarked hplace hoffset hmarks hnext with
      ⟨start, rest, hstart, hsame, hresult⟩
    refine ⟨start, rest, hstart, hsame, ?_⟩
    -- An odd run in front of a token that wants an operand is the fault, any other is kept.
    split at hresult
    next hodd =>
      rw [if_pos hodd, readAll?]
      have hend : (read text).ending = .fault (.unexpected start "!") := hfault _ hresult
      rw [hend]
    next hodd =>
      rw [if_neg hodd]
      exact hstep _ hresult

/-- Two marks before an operator are read past: `5 !!+ 3` has three tokens, and the
    operator starts with the marks. One mark is a fault, where it stands. -/
theorem marks_of_readAll_plus :
    (∃ cs, TailAt "5 !!+ 3".toList 2 cs ∧ marks cs = 2) ∧
      readAll? "5 !!+ 3" = .ok [⟨.operand (.literal (.int 5)), ⟨0, 1⟩, false⟩,
        ⟨.operator .add, ⟨2, 5⟩, false⟩, ⟨.operand (.literal (.int 3)), ⟨6, 7⟩, false⟩] ∧
      (∃ cs, TailAt "5 !!+ 3".toList 2 cs ∧ Even (marks cs)) ∧
      ∃ start, readAll? "5 !+ 3" = .error (.unexpected start "!") := by
  have hread : readAll? "5 !!+ 3" = .ok [⟨.operand (.literal (.int 5)), ⟨0, 1⟩, false⟩,
      ⟨.operator .add, ⟨2, 5⟩, false⟩, ⟨.operand (.literal (.int 3)), ⟨6, 7⟩, false⟩] := by
    rw [readAll?, read_eq 8 (by decide)]
    with_unfolding_all rfl
  have hplace : TailAt "5 !!+ 3".toList 2 "!!+ 3".toList := ⟨"5 ".toList, rfl, rfl⟩
  have hreached : (⟨" !+ 3".toList, 1, false⟩ : Reader) ∈
      (Reader.start "5 !+ 3".toList).reached := by
    rw [Reader.reached, ← Reader.stepsWithin_eq (n := 7) (by decide)]
    exact List.mem_cons_of_mem _ (List.mem_singleton.mpr (by with_unfolding_all rfl))
  have hbehind : (⟨unmarked " !+ 3".toList, 3, false⟩ : Reader).next? =
      .ok (some (⟨.operator .add, ⟨3, 4⟩, false⟩, ⟨" 3".toList, 4, true⟩)) := by
    rw [Reader.next?, Reader.wide?, ← Reader.nextWithin_eq (n := 7) (by decide)]
    with_unfolding_all rfl
  rcases (marks_of_readAll "5 !!+ 3").1 _ hread _ (List.mem_cons_of_mem _ List.mem_cons_self) with
    ⟨cs, hcs, _, heven⟩
  rcases (marks_of_readAll "5 !+ 3").2 _ hreached (by decide) 3 _ _ ⟨"5 !".toList, rfl, rfl⟩
    hbehind with ⟨start, _, _, _, hfault⟩
  rw [if_pos ⟨by decide, rfl⟩] at hfault
  exact ⟨⟨_, hplace, by decide⟩, hread, ⟨cs, hcs, heven rfl⟩, start, hfault⟩

end Token

end Reckon
