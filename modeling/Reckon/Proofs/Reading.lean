import Reckon.Token.Reader

/-!
# Laws of Reading

Reading is defined by recursion on what is left of a text, with the reason why
it ends carried along. The equations here leave the reason out
(`Reader.nextFrom_eq`, `Reader.steps_eq`), so that a reading can be followed
token by token. Readings of given texts are computed within a bound
(`Token.read_eq`).

## Main definitions

* `Reader.nextWithin`, `Reader.stepsWithin`: Reading within a bound.

## Theorems

* `Reader.nextFrom_eq`: The next token, lexeme by lexeme.
* `Reader.next?_eq_none`, `Reader.next?_of_error`, `Reader.next?_of_not_le`: Where no
  token is handed out.
* `Reader.steps_eq`: All tokens to come, one by one.
* `Token.read_eq`: The reading of a text, within a bound.
* `Token.read_of_piece`: The reading of a text that is one piece.
* `Token.tokens_read_of_allBlank`: A blank text has no tokens.
-/

namespace Reckon

open Text

/-- Looking for the closer of a bracket, character by character. -/
theorem Text.closerIn_cons (closer : Char) (depth : Nat) (c : Char) (cs : List Char) :
    closerIn closer depth (c :: cs) =
      if isQuote c then (afterQuoted c cs).bind (closerIn closer depth)
      else if isOpener c then closerIn closer (depth + 1) cs
      else if isCloser c then
        match depth with
        | 0 => if c = closer then some (c :: cs) else none
        | depth + 1 => closerIn closer depth cs
      else closerIn closer depth cs := by
  rw [closerIn.eq_def]
  simp only
  split
  · split
    next h => simp only [h, Option.bind_none]
    next tail h => simp only [h, Option.bind_some]
  · rfl

namespace Lexeme

/-- Where in the order of characters the blank ones are. -/
theorem point_of_isBlank {c : Char} (h : isBlank c = true) :
    9 ≤ c.toNat ∧ c.toNat ≤ 13 ∨ c.toNat = 32 ∨ 128 ≤ c.toNat := by
  simp only [isBlank, inRanges, blankRanges, List.any_cons, List.any_nil, Bool.or_eq_true,
    Bool.and_eq_true, decide_eq_true_eq, Bool.or_false] at h
  omega

/-- Where in the order of characters the letters are. -/
theorem point_of_isAlpha {c : Char} (h : c.isAlpha = true) :
    65 ≤ c.toNat ∧ c.toNat ≤ 90 ∨ 97 ≤ c.toNat ∧ c.toNat ≤ 122 := by
  rcases (Bool.or_eq_true _ _).mp h with hupper | hlower
  · have hrange := of_decide_eq_true hupper
    exact Or.inl ⟨hrange.1, hrange.2⟩
  · have hrange := (Bool.and_eq_true _ _).mp hlower
    exact Or.inr ⟨of_decide_eq_true hrange.1, of_decide_eq_true hrange.2⟩

theorem isNameStart_of_isBlank {c : Char} (h : isBlank c = true) : isNameStart c = false := by
  have hpoint := point_of_isBlank h
  rw [Bool.eq_false_iff]
  intro hs
  rw [isNameStart, Bool.or_eq_true, Bool.or_eq_true, beq_iff_eq, beq_iff_eq] at hs
  -- No letter is blank, and neither are `_` and `$`.
  rcases hs with (hs | rfl) | rfl
  · have hletter := point_of_isAlpha hs
    omega
  · exact absurd h (by decide)
  · exact absurd h (by decide)

theorem isDigit_of_isBlank {c : Char} (h : isBlank c = true) : c.isDigit = false := by
  have hpoint := point_of_isBlank h
  rw [Bool.eq_false_iff]
  intro hs
  simp only [Char.isDigit, Bool.and_eq_true, decide_eq_true_eq, ge_iff_le,
    UInt32.le_iff_toNat_le] at hs
  have h₁ : 48 ≤ c.toNat := hs.1
  have h₂ : c.toNat ≤ 57 := hs.2
  omega

theorem isQuote_of_isBlank {c : Char} (h : isBlank c = true) : isQuote c = false := by
  rw [Bool.eq_false_iff]
  intro hs
  simp only [isQuote, Bool.or_eq_true, beq_iff_eq] at hs
  rcases hs with rfl | rfl
  · exact absurd h (by decide)
  · exact absurd h (by decide)

theorem symbol?_of_isBlank {c : Char} (h : isBlank c = true) (cs : List Char) :
    symbol? (c :: cs) = none := by
  cases hs : symbol? (c :: cs) with
  | none => rfl
  | some found =>
      -- Every symbol starts with one of a few characters, and none of them is blank.
      exfalso
      unfold symbol? at hs
      split at hs
      case h_33 => cases hs
      all_goals
        rename_i heq
        cases heq
        exact absurd h (by decide)

/-- No lexeme starts with a character that trimming removes. -/
theorem scan?_eq_none_of_isBlank {c : Char} (h : isBlank c = true) (cs : List Char) :
    scan? (c :: cs) = none := by
  simp only [scan?, isNameStart_of_isBlank h, isDigit_of_isBlank h, isQuote_of_isBlank h,
    symbol?_of_isBlank h, Bool.false_eq_true, if_false, Option.map_none]

/-- A blank text holds no lexeme. If anything but spacing is in it, that is a
    fault. -/
theorem next?_ne_some_of_allBlank {offset : Nat} {cs : List Char} (h : allBlank cs = true)
    (p : Placed) : next? offset cs ≠ .ok (some p) := by
  have hall : ∀ c ∈ cs.dropWhile isSpacing, isBlank c = true := fun c hc =>
    List.all_eq_true.mp h c ((List.dropWhile_sublist isSpacing).mem hc)
  intro hp
  unfold next? at hp
  simp only at hp
  split at hp
  · cases hp
  next c rest hbody =>
    rw [hbody, scan?_eq_none_of_isBlank (hall c (by rw [hbody]; exact List.mem_cons_self))] at hp
    cases hp

end Lexeme

namespace Reader

/-- The next token, lexeme by lexeme. -/
theorem nextFrom_eq (wantsOperand negated : Bool) (first : Option Nat) (offset : Nat)
    (tail : List Char) :
    nextFrom wantsOperand negated first offset tail =
      match Lexeme.next? offset tail with
      | .error fault => .error fault
      | .ok none => if negated then .error (.unexpected (offset + width tail) "!") else .ok none
      | .ok (some p) =>
        if p.lexeme = .bang then
          nextFrom wantsOperand (!negated) (some (first.getD p.start)) p.stop p.tail
        else
          match Token.Piece.of p wantsOperand with
          | .error fault => .error fault
          | .ok piece =>
            if negated && piece.kind.wantsOperand then
              .error (.unexpected (first.getD p.start) "!")
            else
              .ok (some (⟨piece.kind, ⟨first.getD p.start, piece.stop⟩, negated⟩,
                ⟨piece.tail, piece.stop, piece.kind.wantsOperand⟩)) := by
  rw [nextFrom]
  split
  next fault h => simp only [h]
  next h => simp only [h]
  next p h =>
    rewrite [h]
    rfl

/-- An exclamation mark is read past. -/
theorem nextFrom_of_bang {wantsOperand negated : Bool} {first : Option Nat} {offset : Nat}
    {tail : List Char} {p : Lexeme.Placed} (h : Lexeme.next? offset tail = .ok (some p))
    (hbang : p.lexeme = .bang) :
    nextFrom wantsOperand negated first offset tail =
      nextFrom wantsOperand (!negated) (some (first.getD p.start)) p.stop p.tail := by
  rw [nextFrom_eq, h]
  simp only [hbang, if_true]

section Narrow

variable {r r' : Reader} {t : Token String} {fault : Token.Fault}

theorem next?_of_le (h : r.wide? = .ok (some (t, r'))) (hstart : t.span.start ≤ Span.limit)
    (hstop : t.span.stop ≤ Span.limit) : r.next? = .ok (some (t, r')) :=
  next?_eq_some.mpr ⟨h, hstart, hstop⟩

/-- A token that ends too far out is a fault where it starts. -/
theorem next?_of_not_le (h : r.wide? = .ok (some (t, r')))
    (hspan : ¬(t.span.start ≤ Span.limit ∧ t.span.stop ≤ Span.limit)) :
    r.next? = .error (.tooLarge t.span.start) := by
  rw [next?, h]
  exact narrowed_of_not_le r' hspan

theorem next?_of_error (h : r.wide? = .error fault) : r.next? = .error fault := by
  rw [next?, h]
  rfl

theorem next?_of_none (h : r.wide? = .ok none) : r.next? = .ok none := by
  rw [next?, h]
  rfl

/-- Where the text has no token, none is handed out, and nowhere else. -/
theorem next?_eq_none : r.next? = .ok none ↔ r.wide? = .ok none := by
  refine ⟨fun h => ?_, next?_of_none⟩
  rcases hwide : r.wide? with fault | _ | ⟨t, r'⟩
  · rw [next?_of_error hwide] at h
    cases h
  · rfl
  · by_cases hspan : t.span.start ≤ Span.limit ∧ t.span.stop ≤ Span.limit
    · rw [next?_of_le hwide hspan.1 hspan.2] at h
      cases h
    · rw [next?_of_not_le hwide hspan] at h
      cases h

end Narrow

/-- All tokens to come, one by one. -/
theorem steps_eq (r : Reader) :
    r.steps =
      match r.next? with
      | .error fault => ([], .fault fault)
      | .ok none => ([], .finished r.hasMore)
      | .ok (some (t, r')) => ((t, r') :: r'.steps.1, r'.steps.2) := by
  rw [steps]
  split
  next fault h => simp only [h]
  next h => simp only [h]
  next t r' h => simp only [h]

theorem steps_of_none {r : Reader} (h : r.next? = .ok none) :
    r.steps = ([], .finished r.hasMore) := by
  rw [steps_eq, h]

/-- The next token, by looking at `n` lexemes at most. -/
def nextWithin : Nat → Bool → Bool → Option Nat → Nat → List Char →
    Except Token.Fault (Option (Token String × Reader))
  | 0, _, _, _, _, _ => .ok none
  | n + 1, wantsOperand, negated, first, offset, tail =>
    match Lexeme.next? offset tail with
    | .error fault => .error fault
    | .ok none => if negated then .error (.unexpected (offset + width tail) "!") else .ok none
    | .ok (some p) =>
      if p.lexeme = .bang then
        nextWithin n wantsOperand (!negated) (some (first.getD p.start)) p.stop p.tail
      else
        match Token.Piece.of p wantsOperand with
        | .error fault => .error fault
        | .ok piece =>
          if negated && piece.kind.wantsOperand then
            .error (.unexpected (first.getD p.start) "!")
          else
            .ok (some (⟨piece.kind, ⟨first.getD p.start, piece.stop⟩, negated⟩,
              ⟨piece.tail, piece.stop, piece.kind.wantsOperand⟩))

theorem nextWithin_eq {n : Nat} {wantsOperand negated : Bool} {first : Option Nat} {offset : Nat}
    {tail : List Char} (h : tail.length < n) :
    nextWithin n wantsOperand negated first offset tail =
      nextFrom wantsOperand negated first offset tail := by
  induction n generalizing negated first offset tail with
  | zero => exact absurd h (Nat.not_lt_zero _)
  | succ n ih =>
      rw [nextFrom_eq, nextWithin]
      rcases hnext : Lexeme.next? offset tail with fault | _ | p
      · rfl
      · rfl
      · have hlt := Lexeme.length_next?_lt hnext
        simp only [ih (show p.tail.length < n by omega)]

/-- All tokens to come, of which there are `n` at most. -/
def stepsWithin : Nat → Reader → List (Token String × Reader) × Reading.End
  | 0, r => ([], .finished r.hasMore)
  | n + 1, r =>
    match nextWithin (n + 1) r.wantsOperand false none r.offset r.tail >>= narrowed with
    | .error fault => ([], .fault fault)
    | .ok none => ([], .finished r.hasMore)
    | .ok (some (t, r')) => ((t, r') :: (stepsWithin n r').1, (stepsWithin n r').2)

theorem stepsWithin_eq {n : Nat} {r : Reader} (h : r.tail.length < n) :
    r.stepsWithin n = r.steps := by
  induction n generalizing r with
  | zero => exact absurd h (Nat.not_lt_zero _)
  | succ n ih =>
      rw [steps_eq, stepsWithin, nextWithin_eq h, ← wide?, ← next?]
      rcases hnext : r.next? with fault | _ | ⟨t, r'⟩
      · rfl
      · rfl
      · have hlt := (length_next?_lt hnext).1
        simp only [ih (show r'.tail.length < n by omega)]

end Reader

namespace Token

/-- A blank text has no tokens. -/
theorem tokens_read_of_allBlank {text : String} (h : allBlank text.toList = true) :
    (read text).tokens = [] := by
  have hnext : ∀ p, Lexeme.next? 0 text.toList ≠ .ok (some p) :=
    Lexeme.next?_ne_some_of_allBlank h
  have hsteps : (Reader.start text.toList).steps.1 = [] := by
    rw [Reader.steps_eq, Reader.next?, Reader.wide?, Reader.nextFrom_eq]
    simp only [Reader.start]
    rcases hlex : Lexeme.next? 0 text.toList with fault | _ | p
    · rfl
    · rfl
    · exact absurd hlex (hnext p)
  exact List.map_eq_nil_iff.mpr hsteps

/-- The reading of a text, with a bound to compute it by. -/
theorem read_eq {text : String} (n : Nat) (h : text.length < n) :
    read text = ⟨((Reader.start text.toList).stepsWithin n).1.map Prod.fst,
      ((Reader.start text.toList).stepsWithin n).2⟩ := by
  rw [Reader.stepsWithin_eq (by simpa only [Reader.start, String.length_toList] using h)]
  rfl

theorem read_empty : read "" = ⟨[], .finished false⟩ := by
  rw [read_eq 1 (by decide)]
  rfl

/-- A text that is one piece, with nothing behind it, is read as one token, unless its
    span is not narrow. -/
theorem read_of_piece {text : String} {p : Lexeme.Placed} {kind : Kind String} {stop : Nat}
    (hnext : Lexeme.next? 0 text.toList = .ok (some p)) (hbang : p.lexeme ≠ .bang)
    (hpiece : Piece.of p true = .ok ⟨kind, stop, []⟩) :
    read text =
      if p.start ≤ Span.limit ∧ stop ≤ Span.limit then
        ⟨[⟨kind, ⟨p.start, stop⟩, false⟩], .finished false⟩
      else ⟨[], .fault (.tooLarge p.start)⟩ := by
  have hwide : (Reader.start text.toList).wide? =
      .ok (some (⟨kind, ⟨p.start, stop⟩, false⟩, ⟨[], stop, kind.wantsOperand⟩)) := by
    rw [Reader.wide?, Reader.nextFrom_eq, Reader.start, hnext]
    simp only [hbang, hpiece, if_false]
    rfl
  have hrest : (⟨[], stop, kind.wantsOperand⟩ : Reader).next? = .ok none := by
    refine Reader.next?_of_none ?_
    rw [Reader.wide?, Reader.nextFrom_eq]
    rfl
  unfold read
  -- The piece is the whole text, so the only thing left to check is its span.
  by_cases hspan : p.start ≤ Span.limit ∧ stop ≤ Span.limit
  · rw [if_pos hspan, Reader.steps_eq, Reader.next?_of_le hwide hspan.1 hspan.2]
    simp only
    rw [Reader.steps_of_none hrest]
    rfl
  · rw [if_neg hspan, Reader.steps_eq, Reader.next?_of_not_le hwide hspan]
    rfl

end Token

end Reckon
