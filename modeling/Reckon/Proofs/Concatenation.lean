import Reckon.Proofs.Numeral
import Reckon.Proofs.Regrouping

/-!
# Concatenation by Two Operators

Two operators join texts. `#` joins the texts of its operands as they are. `+` is an
addition first, so it turns operands into decimals before it knows whether it has two of
them. If it has not, it joins the texts of what arithmetic sees.

An operand is seen otherwise than it is only if it is an integer, which is shown as its
decimal is, or a number text. A number text is read as a decimal and shown again, so it
comes back in plain form: what a decimal does not keep are zeros in front of another digit
and the minus sign of zero (`Decimal.digits_of_ofNumberText?`). The places are kept, with
the zeros that they end in.

The two operators therefore come to the same on operands that are not both numbers,
unless there is a number text among them that is not in plain form.

## Main definitions

* `Decimal.dropZeros`, `Decimal.plainForm`: A number text in plain form.
* `Value.spelled`: The text that `+` joins.

## Theorems

* `Decimal.natDigits_ofDigits`: What a row of digits comes back as.
* `Numeral.chars_ofMagnitude`: What a numeral comes back as.
* `Decimal.digits_of_ofNumberText?`: What a number text comes back as.
* `Value.text_normalize`: The text of what arithmetic sees in an operand.
* `Operator.apply_concatenation`: What `#` and `+` join.
-/

namespace Reckon

namespace Decimal

/-- A text without the zeros that it has in front of another digit. -/
def dropZeros : List Char → List Char
  | [] => []
  | [c] => [c]
  | c :: d :: cs => if c = '0' ∧ d.isDigit then dropZeros (d :: cs) else c :: d :: cs

/-- A number text as a number is written: without zeros in front of another digit, and
    without a minus sign where there is no digit but zero. -/
def plainForm (cs : List Char) : List Char :=
  let (negative, body) := cutMinus cs
  if negative && body.any (fun c => c != '0' && c != '.') then '-' :: dropZeros body
  else dropZeros body

end Decimal

/-- The text of a value, and the plain form of a number text. -/
def Value.spelled : Value → String
  | str s =>
    if Decimal.isNumberText s.toList then String.ofList (Decimal.plainForm s.toList) else s
  | v => v.text

/-! ### Rows of digits -/

namespace Decimal

theorem length_dropZeros_le (cs : List Char) : (dropZeros cs).length ≤ cs.length := by
  fun_induction dropZeros cs with
  | case1 => exact Nat.le_refl _
  | case2 => exact Nat.le_refl _
  | case3 c d cs h ih => exact Nat.le_succ_of_le ih
  | case4 => exact Nat.le_refl _

/-- What was taken off were zeros. -/
theorem replicate_append_dropZeros (cs : List Char) :
    List.replicate (cs.length - (dropZeros cs).length) '0' ++ dropZeros cs = cs := by
  fun_induction dropZeros cs with
  | case1 => rfl
  | case2 => rfl
  | case3 c d cs h ih =>
      have hle := length_dropZeros_le (d :: cs)
      rw [List.length_cons, Nat.succ_sub hle, List.replicate_succ, List.cons_append, ih, h.1]
  | case4 => rw [Nat.sub_self, List.replicate_zero, List.nil_append]

/-- Zeros are taken off in front of another digit only. -/
theorem dropZeros_append {cs tail : List Char} (hne : cs ≠ [])
    (htail : ∀ d ∈ tail.head?, d.isDigit = false) :
    dropZeros (cs ++ tail) = dropZeros cs ++ tail := by
  -- A zero is dropped only in front of a digit, and none follows at the end.
  fun_induction dropZeros cs with
  | case1 => exact absurd rfl hne
  | case2 c =>
      cases tail with
      | nil => rfl
      | cons d ds =>
          have hd : ¬ (c = '0' ∧ d.isDigit = true) := by
            rw [htail d rfl]
            exact fun h => Bool.false_ne_true h.2
          rw [List.singleton_append, dropZeros, if_neg hd]
  | case3 c d cs h ih =>
      rw [List.cons_append, List.cons_append, dropZeros, if_pos h]
      exact ih (List.cons_ne_nil d cs)
  | case4 c d cs h => rw [List.cons_append, List.cons_append, dropZeros, if_neg h]

/-- What is left of a row of digits is one digit, or does not start with a zero. -/
theorem exists_dropZeros {cs : List Char} (hne : cs ≠ []) (h : ∀ c ∈ cs, c.isDigit = true) :
    ∃ d ds, dropZeros cs = d :: ds ∧ (d ≠ '0' ∨ ds = []) := by
  fun_induction dropZeros cs with
  | case1 => exact absurd rfl hne
  | case2 c => exact ⟨c, [], rfl, Or.inr rfl⟩
  | case3 c d cs hzero ih =>
      exact ih (List.cons_ne_nil d cs) fun e he => h e (List.mem_cons_of_mem c he)
  | case4 c d cs hplain =>
      have hd : d.isDigit = true := h d (List.mem_cons_of_mem c List.mem_cons_self)
      exact ⟨c, d :: cs, rfl, Or.inl fun hc => hplain ⟨hc, hd⟩⟩

theorem mem_of_mem_dropZeros {cs : List Char} {c : Char} (h : c ∈ dropZeros cs) : c ∈ cs := by
  rw [← replicate_append_dropZeros cs]
  exact List.mem_append_right _ h

/-- The characters of digits are consecutive. -/
theorem exists_digitChar {c : Char} (h : c.isDigit = true) : ∃ k < 10, Nat.digitChar k = c := by
  obtain ⟨hlow, hhigh⟩ := Char.isDigit_iff_toNat.mp h
  have hlt : c.toNat - '0'.toNat < 10 := Nat.sub_lt_left_of_lt_add hlow (Nat.lt_succ_of_le hhigh)
  refine ⟨c.toNat - '0'.toNat, hlt, ?_⟩
  rw [← Char.toNat_inj, Nat.toNat_digitChar_of_lt_ten hlt]
  exact Nat.add_sub_of_le hlow

/-- Digits that are read behind a number are written behind it. -/
theorem natDigits_ofDigitChars {cs : List Char} (h : ∀ c ∈ cs, c.isDigit = true) {n : Nat}
    (hn : 0 < n) : natDigits (Nat.ofDigitChars 10 cs n) = natDigits n ++ cs := by
  induction cs generalizing n with
  | nil => rw [Nat.ofDigitChars_nil, List.append_nil]
  | cons c cs ih =>
      obtain ⟨k, hk, rfl⟩ := exists_digitChar (h c List.mem_cons_self)
      have hdigit : natDigits (10 * n + k) = natDigits n ++ [Nat.digitChar k] := by
        rw [natDigits, natDigits, ← Nat.toDigits_append_toDigits (by decide) hn hk,
          Nat.toDigits_of_lt_base hk]
      rw [Nat.ofDigitChars_cons_digitChar_of_lt_ten hk,
        ih (fun d hd => h d (List.mem_cons_of_mem _ hd)) (by omega), hdigit, List.append_assoc,
        List.singleton_append]

/-- A row of digits comes back as it is if it is one digit or does not start with a zero. -/
theorem natDigits_ofDigits_cons {c : Char} {cs : List Char} (h : ∀ d ∈ c :: cs, d.isDigit = true)
    (hplain : c ≠ '0' ∨ cs = []) : natDigits (ofDigits (c :: cs)) = c :: cs := by
  obtain ⟨k, hk, rfl⟩ := exists_digitChar (h c List.mem_cons_self)
  have hdigit : natDigits (10 * 0 + k) = [Nat.digitChar k] := by
    rw [Nat.mul_zero, Nat.zero_add, natDigits, Nat.toDigits_of_lt_base hk]
  rw [ofDigits, Nat.ofDigitChars_cons_digitChar_of_lt_ten hk]
  rcases hplain with hne | rfl
  · have hpos : 0 < 10 * 0 + k := by
      rw [Nat.mul_zero, Nat.zero_add, Nat.pos_iff_ne_zero]
      rintro rfl
      exact hne rfl
    rw [natDigits_ofDigitChars (fun d hd => h d (List.mem_cons_of_mem _ hd)) hpos, hdigit,
      List.singleton_append]
  · rw [Nat.ofDigitChars_nil, hdigit]

/-- Zeros in front of digits count for nothing. -/
theorem ofDigits_dropZeros_append (cs ds : List Char) :
    ofDigits (dropZeros cs ++ ds) = ofDigits (cs ++ ds) := by
  calc ofDigits (dropZeros cs ++ ds)
      = ofDigits (List.replicate (cs.length - (dropZeros cs).length) '0' ++
          (dropZeros cs ++ ds)) := (ofDigits_replicate_append _ _).symm
    _ = ofDigits (cs ++ ds) := by rw [← List.append_assoc, replicate_append_dropZeros]

/-- A row of digits comes back without zeros in front of another digit. -/
theorem natDigits_ofDigits {cs : List Char} (hne : cs ≠ []) (h : ∀ c ∈ cs, c.isDigit = true) :
    natDigits (ofDigits cs) = dropZeros cs := by
  obtain ⟨d, ds, hdrop, hplain⟩ := exists_dropZeros hne h
  have hdigits : ∀ c ∈ d :: ds, c.isDigit = true := by
    intro c hc
    rw [← hdrop] at hc
    exact h c (mem_of_mem_dropZeros hc)
  have hvalue : ofDigits (dropZeros cs) = ofDigits cs := by
    simpa only [List.append_nil] using ofDigits_dropZeros_append cs []
  rw [← hvalue, hdrop, natDigits_ofDigits_cons hdigits hplain]

/-- A row of digits denotes zero if it holds nothing but zeros. -/
theorem ofDigits_eq_zero_iff {cs : List Char} (h : ∀ c ∈ cs, c.isDigit = true) :
    ofDigits cs = 0 ↔ ∀ c ∈ cs, c = '0' := by
  constructor
  · intro hzero c hc
    have hdrop := natDigits_ofDigits (List.ne_nil_of_mem hc) h
    rw [hzero] at hdrop
    rw [← replicate_append_dropZeros cs, ← hdrop] at hc
    rcases List.mem_append.mp hc with hc | hc
    · exact (List.mem_replicate.mp hc).2
    · exact List.mem_singleton.mp hc
  · intro hzeros
    rw [List.eq_replicate_of_mem hzeros, ofDigits, Nat.ofDigitChars_replicate_zero,
      Nat.mul_zero]

end Decimal

/-! ### Number texts -/

namespace Numeral

/-- The point of a numeral and the digits behind it. -/
def fraction (n : Numeral) : List Char :=
  match n.places with
  | [] => []
  | d :: ds => '.' :: d :: ds

theorem chars_eq (n : Numeral) : n.chars = n.whole ++ n.fraction := by
  unfold chars fraction
  cases n.places with
  | nil => rw [List.append_nil]
  | cons d ds => rfl

/-- A numeral without zeros in front of another digit. -/
def plain (n : Numeral) : Numeral where
  whole := Decimal.dropZeros n.whole
  places := n.places
  whole_ne hnil := by
    obtain ⟨d, ds, hdrop, -⟩ := Decimal.exists_dropZeros n.whole_ne n.isDigit_whole
    exact List.cons_ne_nil d ds (hdrop.symm.trans hnil)
  isDigit_whole c hc := n.isDigit_whole c (Decimal.mem_of_mem_dropZeros hc)
  isDigit_places := n.isDigit_places

theorem chars_plain (n : Numeral) : n.plain.chars = Decimal.dropZeros n.chars := by
  have htail : ∀ d ∈ n.fraction.head?, d.isDigit = false := by
    unfold fraction
    cases n.places with
    | nil => nofun
    | cons d ds =>
        rintro _ ⟨⟩
        rfl
  rw [chars_eq, chars_eq, Decimal.dropZeros_append n.whole_ne htail]
  rfl

theorem magnitude_plain (n : Numeral) : n.plain.magnitude = n.magnitude :=
  Decimal.ofDigits_dropZeros_append n.whole n.places

theorem isDigit_of_mem (n : Numeral) {c : Char} (h : c ∈ n.whole ++ n.places) :
    c.isDigit = true :=
  (List.mem_append.mp h).elim (n.isDigit_whole c) (n.isDigit_places c)

/-- The digits of a magnitude behind the zeros that the places need are the digits that
    it was read from, without zeros in front of another digit before the point. -/
theorem padded_plain (n : Numeral) :
    List.replicate (n.places.length + 1 - (Decimal.natDigits n.magnitude).length) '0' ++
      Decimal.natDigits n.magnitude = n.plain.whole ++ n.places := by
  -- Without leading zeros the whole part is a first digit and others, or a single zero.
  obtain ⟨d, ds, hwhole, hplain⟩ := Decimal.exists_dropZeros n.whole_ne n.isDigit_whole
  have hdigits : ∀ c ∈ d :: (ds ++ n.places), c.isDigit = true := by
    intro c hc
    rw [← List.cons_append, ← hwhole] at hc
    exact n.plain.isDigit_of_mem hc
  have hmagnitude : n.magnitude = Decimal.ofDigits (d :: (ds ++ n.places)) := by
    rw [← n.magnitude_plain, ← List.cons_append, ← hwhole]
    rfl
  have hshown : n.plain.whole ++ n.places = d :: (ds ++ n.places) := by
    rw [← List.cons_append, ← hwhole]
    rfl
  rw [hmagnitude, hshown]
  rcases hplain with hne | rfl
  · -- All digits come back, and they are enough for the places.
    have hpad : n.places.length + 1 - (d :: (ds ++ n.places)).length = 0 := by
      rw [List.length_cons, List.length_append]
      omega
    rw [Decimal.natDigits_ofDigits_cons hdigits (Or.inl hne), hpad, List.replicate_zero,
      List.nil_append]
  · -- One digit stands before the point, so the zeros taken off are those that the places need.
    rw [Decimal.natDigits_ofDigits (List.cons_ne_nil d _) hdigits]
    exact Decimal.replicate_append_dropZeros (d :: n.places)

/-- A numeral comes back without zeros in front of another digit. -/
theorem chars_ofMagnitude (n : Numeral) :
    (ofMagnitude n.magnitude n.places.length).chars = Decimal.dropZeros n.chars := by
  have hlength : (n.plain.whole ++ n.places).length - n.places.length = n.plain.whole.length := by
    rw [List.length_append, Nat.add_sub_cancel]
  have hwhole : (ofMagnitude n.magnitude n.places.length).whole = n.plain.whole := by
    unfold ofMagnitude
    simp only [n.padded_plain, hlength, List.take_left]
  have hplaces : (ofMagnitude n.magnitude n.places.length).places = n.plain.places := by
    unfold ofMagnitude
    simp only [n.padded_plain, hlength, List.drop_left]
    rfl
  rw [← n.chars_plain, chars_eq, chars_eq, fraction, fraction, hwhole, hplaces]

/-- The characters of a numeral are its digits, and the point if there is one. -/
theorem mem_chars_iff (n : Numeral) {c : Char} :
    c ∈ n.chars ↔ c ∈ n.whole ++ n.places ∨ c = '.' ∧ n.places ≠ [] := by
  unfold chars
  cases n.places with
  | nil => simp only [List.append_nil, ne_eq, not_true_eq_false, and_false, or_false]
  | cons d ds =>
      simp only [List.mem_append, List.mem_cons, ne_eq, reduceCtorEq, not_false_eq_true, and_true,
        or_assoc, or_comm, or_left_comm]

/-- The magnitude of a numeral is zero if it has no other digit. -/
theorem magnitude_eq_zero_iff (n : Numeral) :
    n.magnitude = 0 ↔ n.chars.any (fun c => c != '0' && c != '.') = false := by
  rw [magnitude, Decimal.ofDigits_eq_zero_iff fun c hc => n.isDigit_of_mem hc,
    List.any_eq_false]
  constructor
  · intro hzeros c hc
    rcases n.mem_chars_iff.mp hc with hdigit | ⟨rfl, -⟩
    · rw [hzeros c hdigit]
      decide
    · decide
  · intro hothers c hc
    have hpoint : c ≠ '.' := isDigit_ne (n.isDigit_of_mem hc) (by decide)
    by_contra hne
    exact hothers c (n.mem_chars_iff.mpr (Or.inl hc))
      (Bool.and_eq_true_iff.mpr ⟨bne_iff_ne.mpr hne, bne_iff_ne.mpr hpoint⟩)

/-- What is cut at its point into rows of digits is a numeral. -/
theorem exists_of_cutPoint? {cs : List Char} {parts : List Char × List Char}
    (h : Decimal.cutPoint? cs = some parts) : ∃ n : Numeral, n.chars = cs := by
  unfold Decimal.cutPoint? at h
  by_cases hpoint : '.' ∈ cs
  · obtain ⟨whole, places, rfl, hwhole⟩ := List.eq_append_cons_of_mem hpoint
    simp only [Text.cutAt_append hwhole, Option.ite_none_right_eq_some, Bool.and_eq_true] at h
    obtain ⟨hne, hisDigit⟩ := Decimal.isDigits_iff.mp h.1.1
    obtain ⟨hne', hisDigit'⟩ := Decimal.isDigits_iff.mp h.1.2
    obtain ⟨d, ds, rfl⟩ := List.exists_cons_of_ne_nil hne'
    exact ⟨⟨whole, d :: ds, hne, hisDigit, hisDigit'⟩, rfl⟩
  · simp only [Text.cutAt_of_not_mem hpoint, Option.ite_none_right_eq_some] at h
    obtain ⟨hne, hisDigit⟩ := Decimal.isDigits_iff.mp h.1
    exact ⟨⟨cs, [], hne, hisDigit, List.forall_mem_nil _⟩, rfl⟩

/-- Number texts are numerals, perhaps with a minus sign in front. -/
theorem exists_of_ofNumberText? {cs : List Char} {d : Decimal}
    (h : Decimal.ofNumberText? cs = some d) :
    ∃ (negative : Bool) (n : Numeral), cs = if negative then '-' :: n.chars else n.chars := by
  obtain ⟨parts, hparts, -⟩ := Option.map_eq_some_iff.mp h
  obtain ⟨n, hn⟩ := exists_of_cutPoint? hparts
  refine ⟨(Decimal.cutMinus cs).1, n, ?_⟩
  rw [hn]
  unfold Decimal.cutMinus
  split <;> rfl

end Numeral

namespace Decimal

/-- A number text that is read and shown again comes back in plain form. -/
theorem digits_of_ofNumberText? {cs : List Char} {d : Decimal} (h : ofNumberText? cs = some d) :
    d.digits = plainForm cs := by
  obtain ⟨negative, n, rfl⟩ := Numeral.exists_of_ofNumberText? h
  obtain rfl := Option.some.inj (h.symm.trans (n.ofNumberText?_chars negative))
  -- The sign of the magnitude is the one that was read, unless the magnitude is zero.
  have habs : (if negative then -(n.magnitude : ℤ) else n.magnitude).natAbs = n.magnitude := by
    split <;> omega
  have hsign : decide ((if negative then -(n.magnitude : ℤ) else n.magnitude) < 0) =
      (negative && n.chars.any fun c => c != '0' && c != '.') := by
    have hzero := n.magnitude_eq_zero_iff
    cases negative with
    | false => exact decide_eq_false (Int.not_lt.mpr (Int.natCast_nonneg _))
    | true =>
        rw [Bool.true_and, if_pos rfl, Bool.eq_iff_iff, decide_eq_true_eq, ← Bool.not_eq_false,
          ← hzero]
        omega
  rw [digits_eq _ (Int.natCast_nonneg _), hsign, plainForm, n.cutMinus_chars]
  simp only [habs, Int.toNat_natCast, n.chars_ofMagnitude]

end Decimal

namespace Value

/-- The text of what arithmetic sees in a value. -/
theorem text_normalize (v : Value) : v.normalize.text = v.spelled := by
  cases v with
  | str s =>
      rw [normalize, spelled, Decimal.isNumberText]
      cases hs : Decimal.ofNumberText? s.toList with
      | none => rfl
      | some d => exact congrArg String.ofList (Decimal.digits_of_ofNumberText? hs)
  | _ => rfl

/-- Arithmetic sees a value that it does not take for a number as it is. -/
theorem spelled_of_not_decimal {v : Value} (h : ∀ d, v.normalize ≠ decimal d) :
    v.spelled = v.text := by
  rcases v.normalize_eq with heq | ⟨d, hd⟩
  · rw [← text_normalize, heq]
  · exact absurd hd (h d)

end Value

namespace Operator

/-- `#` joins the texts of its operands. So does `+` where they are not both numbers, but
    with number texts in plain form, and only this can make a difference. -/
theorem apply_concatenation {a b : Value}
    (h : ¬ ∃ x y, a.normalize = .decimal x ∧ b.normalize = .decimal y) (rounding : Rounding) :
    strAppend.apply a b rounding = .push (.str (a.text ++ b.text)) ∧
      add.apply a b rounding = .push (.str (a.spelled ++ b.spelled)) ∧
      (add.apply a b rounding = strAppend.apply a b rounding ↔
        a.spelled = a.text ∧ b.spelled = b.text) := by
  have hadd : add.apply a b rounding = .push (.str (a.spelled ++ b.spelled)) := by
    rw [apply, Operation.add, ← a.text_normalize, ← b.text_normalize]
    split
    next x y hx hy => exact absurd ⟨x, y, hx, hy⟩ h
    next => rfl
  refine ⟨rfl, hadd, ?_⟩
  rw [hadd, apply, Outcome.push.injEq, Value.str.injEq]
  refine ⟨fun heq => ?_, fun heq => by rw [heq.1, heq.2]⟩
  -- One of the operands is no number, and its text is the same on both sides.
  by_cases hleft : ∃ x, a.normalize = .decimal x
  · obtain ⟨x, hx⟩ := hleft
    have hright : b.spelled = b.text :=
      Value.spelled_of_not_decimal fun y hy => h ⟨x, y, hx, hy⟩
    rw [hright] at heq
    exact ⟨(String.append_left_inj _).mp heq, hright⟩
  · have hleft : a.spelled = a.text :=
      Value.spelled_of_not_decimal fun x hx => hleft ⟨x, hx⟩
    rw [hleft] at heq
    exact ⟨hleft, (String.append_right_inj _).mp heq⟩

/-- A price with zeros in front and behind, which is joined to a word. -/
theorem apply_concatenation_price :
    (¬ ∃ x y, (Value.str "0002.50").normalize = .decimal x ∧
        (Value.str " each").normalize = .decimal y) ∧
      strAppend.apply (.str "0002.50") (.str " each") .halfDown = .push (.str "0002.50 each") ∧
      add.apply (.str "0002.50") (.str " each") .halfDown = .push (.str "2.50 each") := by
  have hword : ∀ y, (Value.str " each").normalize ≠ .decimal y := nofun
  have hpair : ¬ ∃ x y, (Value.str "0002.50").normalize = .decimal x ∧
      (Value.str " each").normalize = .decimal y := fun ⟨_, y, _, hy⟩ => hword y hy
  obtain ⟨happend, hadd, -⟩ := apply_concatenation hpair .halfDown
  exact ⟨hpair, happend, hadd⟩

/-- The two operators differ on a number text that is not in plain form. -/
theorem add_ne_strAppend :
    (¬ ∃ x y, (Value.str "007").normalize = .decimal x ∧ (Value.str "x").normalize = .decimal y) ∧
      add.apply (.str "007") (.str "x") .halfDown = .push (.str "7x") ∧
      strAppend.apply (.str "007") (.str "x") .halfDown = .push (.str "007x") ∧
      add.apply (.str "007") (.str "x") .halfDown ≠
        strAppend.apply (.str "007") (.str "x") .halfDown := by
  have hword : ∀ y, (Value.str "x").normalize ≠ .decimal y := nofun
  refine ⟨fun ⟨_, y, _, hy⟩ => hword y hy, rfl, rfl, fun heq => ?_⟩
  have htext : Outcome.push (.str "7x") = .push (.str "007x") := heq
  rw [Outcome.push.injEq, Value.str.injEq] at htext
  exact absurd htext (by decide)

end Operator

end Reckon
