import Reckon.Proofs.Balance

/-!
# Looking for a Closer Byte by Byte

A closer can be looked for in the bytes of a text, without decoding them. All marks that a
scanner knows are ASCII characters, and no byte of any other character is one of an ASCII
character, so bytes of other characters mean nothing to it. This is so even where it comes
to stand in the middle of a character: a backslash in a quoted text is skipped together
with one byte behind it, which need not be the whole character that is escaped.

So the search through the bytes finds what the search through the characters finds
(`Text.closerAt?_eq`), and whatever it finds is where a character starts. What it finds is
the one place where the closer stands behind a balanced text
(`Text.closerAt?_eq_some_iff`), which is said about the bytes of the text, and does not
assume that the place is one between two characters.

## Main definitions

* `Text.quoteEnd`: The end of a quoted text, looked for byte by byte.
* `Text.closerAt?`: The place of a closer, looked for byte by byte.
* `Text.ClosedAt`: Where a closer should be found.

## Theorems

* `Text.high_of_mem`, `Text.high_of_mem_tail`: Bytes that are no characters of their own.
* `Text.quoteEnd_eq`, `Text.closerFrom_eq`: Scanning bytes is scanning characters.
* `Text.closedAt_iff`: Where a closer should be found, in terms of characters.
* `Text.closerAt?_eq_some_iff`: A closer is found where it should be, and nowhere else.
-/

namespace Reckon

namespace Text

/-- The index of the byte that ends a quoted text, looked for from byte `i` on. A backslash
    is skipped together with the byte behind it. -/
def quoteEnd (quote : UInt8) (bytes : ByteArray) (i : Nat) : Option Nat :=
  if h : i < bytes.size then
    if bytes[i] = '\\'.toUInt8 then quoteEnd quote bytes (i + 2)
    else if bytes[i] = quote then some i
    else quoteEnd quote bytes (i + 1)
  else none
termination_by bytes.size - i

/-- The end of a quoted text is not before the place from which it is looked for. -/
theorem le_of_quoteEnd {quote : UInt8} {bytes : ByteArray} {i j : Nat}
    (h : quoteEnd quote bytes i = some j) : i ≤ j := by
  fun_induction quoteEnd quote bytes i with
  | case1 i _ _ ih => have := ih h; omega
  | case2 => cases h; exact Nat.le_refl _
  | case3 i _ _ _ ih => have := ih h; omega
  | case4 => cases h

/-- The index of the byte that closes a bracket, looked for from byte `i` on, where `depth`
    brackets have been opened since. -/
def closerFrom (closer : UInt8) (bytes : ByteArray) (depth i : Nat) : Option Nat :=
  if h : i < bytes.size then
    if isQuote (Char.ofUInt8 bytes[i]) then
      match _found : quoteEnd bytes[i] bytes (i + 1) with
      | none => none
      | some j => closerFrom closer bytes depth (j + 1)
    else if isOpener (Char.ofUInt8 bytes[i]) then closerFrom closer bytes (depth + 1) (i + 1)
    else if isCloser (Char.ofUInt8 bytes[i]) then
      match depth with
      | 0 => if bytes[i] = closer then some i else none
      | depth + 1 => closerFrom closer bytes depth (i + 1)
    else closerFrom closer bytes depth (i + 1)
  else none
termination_by bytes.size - i
decreasing_by
  · have := le_of_quoteEnd _found; omega
  all_goals omega

/-- The byte offset of the closer of a bracket, for a text that starts behind the opener. -/
def closerAt? (closer : Char) (text : String) : Option Nat :=
  closerFrom closer.toUInt8 text.toUTF8 0 0

/-- Byte `i` of a text is the closer, and the bytes before it are those of a balanced text. -/
structure ClosedAt (closer : Char) (text : String) (i : Nat) : Prop where
  byte : text.toUTF8[i]? = some closer.toUInt8
  balanced : ∃ front : String, front.toUTF8 = text.toUTF8.extract 0 i ∧ Balanced front.toList

section Bytes

variable {c : Char}

/-- The bytes of some characters. -/
def encoded (cs : List Char) : List UInt8 := cs.flatMap String.utf8EncodeChar

@[simp] theorem encoded_nil : encoded [] = [] := rfl

@[simp] theorem encoded_cons (c : Char) (cs : List Char) :
    encoded (c :: cs) = String.utf8EncodeChar c ++ encoded cs := rfl

@[simp] theorem encoded_append (as bs : List Char) :
    encoded (as ++ bs) = encoded as ++ encoded bs := List.flatMap_append

@[simp] theorem length_encoded (cs : List Char) : (encoded cs).length = width cs := by
  induction cs with
  | nil => rfl
  | cons c cs ih =>
      rw [encoded_cons, List.length_append, String.length_utf8EncodeChar, ih, width_cons]

theorem toList_toUTF8 (text : String) : text.toUTF8.data.toList = encoded text.toList := by
  rw [String.toUTF8_eq_toByteArray, ← String.utf8Encode_toList, List.utf8Encode,
    List.data_toByteArray, encoded]

/-- An ASCII character is one byte. -/
theorem utf8EncodeChar_of_ascii (h : c.toNat < 128) :
    String.utf8EncodeChar c = [c.toUInt8] := by
  have hval : c.val.toNat ≤ 127 := Nat.le_of_lt_succ h
  unfold String.utf8EncodeChar
  simp only [hval, if_true]
  rfl

theorem utf8Size_of_ascii (h : c.toNat < 128) : c.utf8Size = 1 := by
  rw [← String.length_utf8EncodeChar, utf8EncodeChar_of_ascii h, List.length_singleton]

/-- No byte of another character is an ASCII character. -/
theorem high_of_mem (h : ¬ c.toNat < 128) {b : UInt8} (hb : b ∈ String.utf8EncodeChar c) :
    128 ≤ b.toNat := by
  have hval : ¬ c.val.toNat ≤ 127 := fun hle => h (Nat.lt_succ_of_le hle)
  unfold String.utf8EncodeChar at hb
  simp only [hval, if_false] at hb
  split at hb
  · simp only [List.mem_cons, List.not_mem_nil, or_false] at hb
    rcases hb with rfl | rfl <;> rw [UInt8.toNat_ofNat'] <;> omega
  · split at hb
    · simp only [List.mem_cons, List.not_mem_nil, or_false] at hb
      rcases hb with rfl | rfl | rfl <;> rw [UInt8.toNat_ofNat'] <;> omega
    · simp only [List.mem_cons, List.not_mem_nil, or_false] at hb
      rcases hb with rfl | rfl | rfl | rfl <;> rw [UInt8.toNat_ofNat'] <;> omega

/-- No byte of a character after its first is an ASCII character. -/
theorem high_of_mem_tail {b : UInt8} (hb : b ∈ (String.utf8EncodeChar c).tail) :
    128 ≤ b.toNat := by
  by_cases h : c.toNat < 128
  · rw [utf8EncodeChar_of_ascii h] at hb
    cases hb
  · exact high_of_mem h (List.mem_of_mem_tail hb)

theorem ofUInt8_toUInt8 (h : c.toNat < 128) : Char.ofUInt8 c.toUInt8 = c := by
  have hval : c.val.toNat < 128 := h
  have hbyte : (Char.ofUInt8 c.toUInt8).val = c.val.toUInt8.toUInt32 := rfl
  apply Char.ext
  rw [← UInt32.toNat_inj, hbyte, UInt8.toNat_toUInt32, UInt32.toNat_toUInt8]
  omega

theorem toNat_toUInt8 (h : c.toNat < 128) : c.toUInt8.toNat = c.toNat := by
  have hval : c.val.toNat < 128 := h
  simp only [Char.toUInt8, UInt32.toNat_toUInt8, Char.toNat]
  omega

theorem toUInt8_inj {d : Char} (hc : c.toNat < 128) (hd : d.toNat < 128) :
    c.toUInt8 = d.toUInt8 ↔ c = d := by
  constructor
  · intro h
    rw [← ofUInt8_toUInt8 hc, h, ofUInt8_toUInt8 hd]
  · rintro rfl
    rfl

end Bytes

section Marks

variable {c : Char}

theorem ascii_of_isQuote (h : isQuote c = true) : c.toNat < 128 := by
  simp only [isQuote, Bool.or_eq_true, beq_iff_eq] at h
  rcases h with rfl | rfl <;> decide

theorem ascii_of_isOpener (h : isOpener c = true) : c.toNat < 128 := by
  simp only [isOpener, Bool.or_eq_true, beq_iff_eq] at h
  rcases h with (rfl | rfl) | rfl <;> decide

theorem ascii_of_isCloser (h : isCloser c = true) : c.toNat < 128 := by
  simp only [isCloser, Bool.or_eq_true, beq_iff_eq] at h
  rcases h with (rfl | rfl) | rfl <;> decide

/-- All marks that a scanner knows are ASCII characters. -/
theorem isPlain_of_not_ascii (h : ¬ c.toNat < 128) : isPlain c = true :=
  isPlain_of_not (fun hc => h (ascii_of_isQuote hc)) (fun hc => h (ascii_of_isOpener hc))
    fun hc => h (ascii_of_isCloser hc)

theorem isPlain_ofUInt8 {b : UInt8} (h : 128 ≤ b.toNat) : isPlain (Char.ofUInt8 b) = true := by
  refine isPlain_of_not_ascii ?_
  have hval : (Char.ofUInt8 b).toNat = b.toNat := UInt8.toNat_toUInt32 b
  omega

end Marks

section Scanning

variable {bytes : ByteArray} {i : Nat} {b : UInt8} {bs rest : List UInt8}

theorem length_toList (bytes : ByteArray) : bytes.data.toList.length = bytes.size := by
  rw [Array.length_toList, ByteArray.size_data]

/-- The byte at an index, by what is left of the bytes from there on. -/
theorem exists_byte_of_drop (h : bytes.data.toList.drop i = b :: rest) :
    ∃ hi : i < bytes.size, bytes[i] = b ∧ bytes.data.toList.drop (i + 1) = rest := by
  have hi : i < bytes.data.toList.length := by
    rcases Nat.lt_or_ge i bytes.data.toList.length with hi | hge
    · exact hi
    · rw [List.drop_eq_nil_of_le hge] at h
      cases h
  have hcons := List.drop_eq_getElem_cons hi
  rw [h, List.cons.injEq] at hcons
  exact ⟨length_toList bytes ▸ hi, hcons.1.symm, hcons.2.symm⟩

theorem size_le_of_drop (h : bytes.data.toList.drop i = []) : ¬ i < bytes.size := by
  rw [List.drop_eq_nil_iff, length_toList] at h
  exact Nat.not_lt.mpr h

theorem drop_append (h : bytes.data.toList.drop i = bs ++ rest) :
    bytes.data.toList.drop (i + bs.length) = rest := by
  rw [← List.drop_drop, h, List.drop_left]

/-- The bytes that are left are the last ones. -/
theorem drop_size_sub (h : bytes.data.toList.drop i = bs ++ rest) :
    bytes.data.toList.drop (bytes.size - rest.length) = rest := by
  have hlength := congrArg List.length h
  rw [List.length_drop, List.length_append, length_toList] at hlength
  by_cases hi : i ≤ bytes.size
  · have hdrop := drop_append h
    have heq : bytes.size - rest.length = i + bs.length := by omega
    rwa [heq]
  · have hrest : rest = [] := List.eq_nil_of_length_eq_zero (by omega)
    rw [hrest, List.drop_eq_nil_iff, length_toList]
    exact Nat.le_refl _

theorem quoteEnd_of_nil {quote : UInt8} (h : bytes.data.toList.drop i = []) :
    quoteEnd quote bytes i = none := by
  rw [quoteEnd, dif_neg (size_le_of_drop h)]

theorem quoteEnd_of_cons {quote : UInt8} (h : bytes.data.toList.drop i = b :: rest) :
    quoteEnd quote bytes i =
      if b = '\\'.toUInt8 then quoteEnd quote bytes (i + 2)
      else if b = quote then some i
      else quoteEnd quote bytes (i + 1) := by
  rcases exists_byte_of_drop h with ⟨hi, rfl, _⟩
  rw [quoteEnd, dif_pos hi]

/-- Bytes that are no ASCII characters are skipped one by one. -/
theorem quoteEnd_skip {quote : UInt8} (hquote : quote.toNat < 128)
    (hbs : ∀ b ∈ bs, 128 ≤ b.toNat) (h : bytes.data.toList.drop i = bs ++ rest) :
    quoteEnd quote bytes i = quoteEnd quote bytes (i + bs.length) := by
  -- The bytes of a character beyond ASCII are neither a quote nor a backslash.
  induction bs generalizing i with
  | nil => rfl
  | cons b bs ih =>
      rcases List.forall_mem_cons.mp hbs with ⟨hb, hbs⟩
      have hescape : b ≠ '\\'.toUInt8 := by
        rintro rfl
        exact absurd hb (by decide)
      have hne : b ≠ quote := by
        rintro rfl
        omega
      rcases exists_byte_of_drop h with ⟨_, _, hrest⟩
      rw [quoteEnd_of_cons h, if_neg hescape, if_neg hne, ih hbs hrest, List.length_cons]
      congr 1
      omega

theorem closerFrom_of_nil {closer : UInt8} {depth : Nat} (h : bytes.data.toList.drop i = []) :
    closerFrom closer bytes depth i = none := by
  rw [closerFrom, dif_neg (size_le_of_drop h)]

theorem closerFrom_of_cons (closer : UInt8) (depth : Nat)
    (h : bytes.data.toList.drop i = b :: rest) :
    closerFrom closer bytes depth i =
      if isQuote (Char.ofUInt8 b) then
        (quoteEnd b bytes (i + 1)).bind fun j => closerFrom closer bytes depth (j + 1)
      else if isOpener (Char.ofUInt8 b) then closerFrom closer bytes (depth + 1) (i + 1)
      else if isCloser (Char.ofUInt8 b) then
        match depth with
        | 0 => if b = closer then some i else none
        | depth + 1 => closerFrom closer bytes depth (i + 1)
      else closerFrom closer bytes depth (i + 1) := by
  rcases exists_byte_of_drop h with ⟨hi, rfl, _⟩
  rw [closerFrom.eq_def, dif_pos hi]
  split
  · split
    next hfound => rw [hfound, Option.bind_none]
    next j hfound => rw [hfound, Option.bind_some]
  · rfl

theorem closerFrom_of_plain {closer : UInt8} {depth : Nat}
    (hplain : isPlain (Char.ofUInt8 b) = true) (h : bytes.data.toList.drop i = b :: rest) :
    closerFrom closer bytes depth i = closerFrom closer bytes depth (i + 1) := by
  rcases isPlain_iff.mp hplain with ⟨hquote, hopener, hcloser⟩
  rw [closerFrom_of_cons closer depth h, hquote, hopener, hcloser]
  rfl

/-- Bytes that are no ASCII characters are skipped one by one. -/
theorem closerFrom_skip {closer : UInt8} {depth : Nat} (hbs : ∀ b ∈ bs, 128 ≤ b.toNat)
    (h : bytes.data.toList.drop i = bs ++ rest) :
    closerFrom closer bytes depth i = closerFrom closer bytes depth (i + bs.length) := by
  induction bs generalizing i with
  | nil => rfl
  | cons b bs ih =>
      rcases List.forall_mem_cons.mp hbs with ⟨hb, hbs⟩
      rcases exists_byte_of_drop h with ⟨_, _, hrest⟩
      rw [closerFrom_of_plain (isPlain_ofUInt8 hb) h, ih hbs hrest, List.length_cons]
      congr 1
      omega

end Scanning

section Characters

variable {bytes : ByteArray} {i : Nat} {cs : List Char}

/-- A plain character is stepped over, with all of its bytes. -/
theorem closerFrom_plain {closer : UInt8} {depth : Nat} {c : Char} (hplain : isPlain c = true)
    (h : bytes.data.toList.drop i = encoded (c :: cs)) :
    closerFrom closer bytes depth i = closerFrom closer bytes depth (i + c.utf8Size) := by
  rw [encoded_cons] at h
  by_cases hascii : c.toNat < 128
  · rw [utf8EncodeChar_of_ascii hascii] at h
    rw [utf8Size_of_ascii hascii]
    exact closerFrom_of_plain (by rwa [ofUInt8_toUInt8 hascii]) h
  · rw [← String.length_utf8EncodeChar]
    exact closerFrom_skip (fun _ => high_of_mem hascii) h

/-- The bytes behind a character. -/
theorem drop_encoded {c : Char} (h : bytes.data.toList.drop i = encoded (c :: cs)) :
    bytes.data.toList.drop (i + c.utf8Size) = encoded cs := by
  rw [encoded_cons] at h
  rw [← String.length_utf8EncodeChar]
  exact drop_append h

/-- The bytes of an ASCII character and what follows it. -/
theorem encoded_ascii {c : Char} (hascii : c.toNat < 128) (cs : List Char) :
    encoded (c :: cs) = c.toUInt8 :: encoded cs := by
  rw [encoded_cons, utf8EncodeChar_of_ascii hascii, List.singleton_append]

/-- The end of a quoted text is found in the bytes where it is found in the characters. -/
theorem quoteEnd_eq {quote : Char} (hquote : isQuote quote = true)
    (h : bytes.data.toList.drop i = encoded cs) :
    quoteEnd quote.toUInt8 bytes i =
      (afterQuoted quote cs).map fun tail => bytes.size - width tail - 1 := by
  have hascii := ascii_of_isQuote hquote
  have hbyte : quote.toUInt8.toNat < 128 := by rwa [toNat_toUInt8 hascii]
  have hbackslash : ('\\').toNat < 128 := by decide
  rw [afterQuoted]
  fun_induction afterQuote (fun _ => true) quote cs generalizing i with
  | case1 =>
      rw [quoteEnd_of_nil h, Option.map_none]
  | case2 =>
      -- A backslash at the very end is skipped past the end.
      rw [encoded_ascii hbackslash] at h
      rcases exists_byte_of_drop h with ⟨_, _, hrest⟩
      have hend : bytes.data.toList.drop (i + 2) = [] := by
        rw [← List.drop_drop (i := 1) (j := i + 1), hrest]
        rfl
      rw [quoteEnd_of_cons h, if_pos rfl, quoteEnd_of_nil hend, Option.map_none]
  | case3 c cs _ ih =>
      -- The byte that is skipped is the first one of the character.
      rw [encoded_ascii hbackslash, encoded_cons] at h
      rcases exists_byte_of_drop h with ⟨_, _, hrest⟩
      rcases hc : String.utf8EncodeChar c with _ | ⟨b, bs⟩
      · exact absurd hc String.utf8EncodeChar_ne_nil
      rw [hc, List.cons_append] at hrest
      rcases exists_byte_of_drop hrest with ⟨_, _, hbs⟩
      have hhigh : ∀ b ∈ bs, 128 ≤ b.toNat := by
        intro b hb
        refine high_of_mem_tail (c := c) ?_
        rwa [hc]
      rw [quoteEnd_of_cons h, if_pos rfl, quoteEnd_skip hbyte hhigh hbs]
      exact ih (drop_append hbs)
  | case4 _ _ hescape => exact absurd rfl hescape
  | case5 cs =>
      rw [encoded_ascii hascii] at h
      have hlength := congrArg List.length h
      rw [List.length_drop, List.length_cons, length_encoded, length_toList] at hlength
      have hne : quote.toUInt8 ≠ '\\'.toUInt8 := by
        rw [Ne, toUInt8_inj hascii hbackslash]
        exact ne_escape_of_isQuote hquote
      rw [quoteEnd_of_cons h, if_neg hne, if_pos rfl, Option.map_some, Option.some.injEq]
      omega
  | case6 c cs hlast hescape hne ih =>
      have hc : c ≠ '\\' := by
        intro hc
        cases cs with
        | nil => exact hlast hc rfl
        | cons c' cs' => exact hescape c' cs' hc rfl
      rw [← ih (drop_encoded h)]
      by_cases hchar : c.toNat < 128
      · rw [encoded_ascii hchar] at h
        rw [quoteEnd_of_cons h, if_neg (by rwa [toUInt8_inj hchar hbackslash]),
          if_neg (by rwa [toUInt8_inj hchar hascii]), utf8Size_of_ascii hchar]
      · rw [encoded_cons] at h
        rw [← String.length_utf8EncodeChar]
        exact quoteEnd_skip hbyte (fun _ => high_of_mem hchar) h

/-- A closer is found in the bytes where it is found in the characters. -/
theorem closerFrom_eq {closer : Char} {depth : Nat} (hcloser : isCloser closer = true)
    (h : bytes.data.toList.drop i = encoded cs) :
    closerFrom closer.toUInt8 bytes depth i =
      (closerIn closer depth cs).map fun tail => bytes.size - width tail := by
  -- One step over an ASCII character.
  have hstep {c : Char} {cs : List Char} {i : Nat} (hascii : c.toNat < 128)
      (h : bytes.data.toList.drop i = encoded (c :: cs)) (depth : Nat) :=
    closerFrom_of_cons closer.toUInt8 depth (h.trans (encoded_ascii hascii cs))
  have hrest {c : Char} {cs : List Char} {i : Nat} (hascii : c.toNat < 128)
      (h : bytes.data.toList.drop i = encoded (c :: cs)) :
      bytes.data.toList.drop (i + 1) = encoded cs := by
    rcases exists_byte_of_drop (h.trans (encoded_ascii hascii cs)) with ⟨_, _, hrest⟩
    exact hrest
  fun_induction closerIn closer depth cs generalizing i with
  | case1 => rw [closerFrom_of_nil h, Option.map_none]
  | case2 depth c cs hquote hnone =>
      have hascii := ascii_of_isQuote hquote
      rw [hstep hascii h, ofUInt8_toUInt8 hascii, if_pos hquote,
        quoteEnd_eq hquote (hrest hascii h), hnone, Option.map_none, Option.bind_none,
        Option.map_none]
  | case3 depth c cs hquote tail htail ih =>
      have hascii := ascii_of_isQuote hquote
      rcases quotedInside_of_afterQuoted htail with ⟨inside, hcs, _⟩
      have hdrop := hrest hascii h
      rw [hcs, List.append_cons, encoded_append] at hdrop
      have hlength := congrArg List.length hdrop
      simp only [List.length_drop, List.length_append, length_encoded, width_append, width_cons,
        width_nil, length_toList] at hlength
      have hpos := c.utf8Size_pos
      have hindex : bytes.size - width tail - 1 + 1 = bytes.size - (encoded tail).length := by
        rw [length_encoded]
        omega
      rw [hstep hascii h, ofUInt8_toUInt8 hascii, if_pos hquote,
        quoteEnd_eq hquote (hrest hascii h), htail, Option.map_some, Option.bind_some, hindex]
      exact ih (drop_size_sub hdrop)
  | case4 depth c cs hquote hopener ih =>
      have hascii := ascii_of_isOpener hopener
      rw [hstep hascii h, ofUInt8_toUInt8 hascii, if_neg hquote, if_pos hopener]
      exact ih (hrest hascii h)
  | case5 cs hquote hopener hclosing =>
      have hascii := ascii_of_isCloser hcloser
      have hlength := congrArg List.length (h.trans (encoded_ascii hascii cs))
      rw [List.length_drop, List.length_cons, length_encoded, length_toList] at hlength
      rw [hstep hascii h, ofUInt8_toUInt8 hascii, if_neg hquote, if_neg hopener, if_pos hclosing]
      simp only [if_true, Option.map_some, Option.some.injEq, width_cons, utf8Size_of_ascii hascii]
      omega
  | case6 c cs hquote hopener hclosing hne =>
      have hascii := ascii_of_isCloser hclosing
      rw [hstep hascii h, ofUInt8_toUInt8 hascii, if_neg hquote, if_neg hopener, if_pos hclosing]
      simp only [toUInt8_inj hascii (ascii_of_isCloser hcloser), hne, if_false, Option.map_none]
  | case7 c cs hquote hopener hclosing depth ih =>
      have hascii := ascii_of_isCloser hclosing
      rw [hstep hascii h, ofUInt8_toUInt8 hascii, if_neg hquote, if_neg hopener, if_pos hclosing]
      exact ih (hrest hascii h)
  | case8 depth c cs hquote hopener hclosing ih =>
      rw [closerFrom_plain (isPlain_of_not hquote hopener hclosing) h]
      exact ih (drop_encoded h)

end Characters

section Places

variable {closer : Char} {text : String} {i : Nat}

/-- The place of a closer in the bytes of a text, told from where it is in the characters. -/
theorem closerAt?_eq (hcloser : isCloser closer = true) (text : String) :
    closerAt? closer text =
      (closerIn closer 0 text.toList).map fun tail => text.utf8ByteSize - width tail := by
  have h : text.toUTF8.data.toList.drop 0 = encoded text.toList := toList_toUTF8 text
  rw [closerAt?, closerFrom_eq hcloser h]
  rfl

/-- A text whose first byte is that of an ASCII character starts with the character. -/
theorem exists_of_byte {bytes : ByteArray} {cs : List Char} {c : Char} (hascii : c.toNat < 128)
    (h : bytes.data.toList.drop i = encoded cs) (hbyte : bytes[i]? = some c.toUInt8) :
    ∃ after, cs = c :: after := by
  -- The byte found is the first one of some character.
  rcases Nat.lt_or_ge i bytes.size with hi | hge
  · rw [getElem?_pos bytes i hi, Option.some.injEq] at hbyte
    cases cs with
    | nil => exact absurd hi (size_le_of_drop h)
    | cons d after =>
        rcases hbs : String.utf8EncodeChar d with _ | ⟨b, bs⟩
        · exact absurd hbs String.utf8EncodeChar_ne_nil
        rw [encoded_cons, hbs, List.cons_append] at h
        rcases exists_byte_of_drop h with ⟨_, hfirst, _⟩
        rw [hfirst] at hbyte
        subst hbyte
        by_cases hd : d.toNat < 128
        · rw [utf8EncodeChar_of_ascii hd, List.cons.injEq, toUInt8_inj hd hascii] at hbs
          exact ⟨after, by rw [hbs.1]⟩
        · -- Otherwise it would be no ASCII character.
          have hhigh := high_of_mem hd (hbs ▸ List.mem_cons_self)
          rw [toNat_toUInt8 hascii] at hhigh
          omega
  · rw [getElem?_neg bytes i (Nat.not_lt.mpr hge)] at hbyte
    cases hbyte

theorem encoded_inj {as bs : List Char} (h : encoded as = encoded bs) : as = bs := by
  have hsame : String.ofList as = String.ofList bs := by
    rw [← String.toByteArray_inj, String.toByteArray_ofList, String.toByteArray_ofList]
    exact congrArg List.toByteArray h
  rw [← String.toList_ofList (l := as), hsame, String.toList_ofList]

/-- Bytes that are those of a text end between two characters. -/
theorem exists_tail_of_extract {front : String} (hi : i ≤ text.toUTF8.size)
    (hfront : front.toUTF8 = text.toUTF8.extract 0 i) :
    ∃ tail, text.toList = front.toList ++ tail ∧ width front.toList = i := by
  -- A front that is a text ends between two characters, so the rest is a text as well.
  have hvalid : String.Pos.Raw.IsValid text ⟨i⟩ := by
    rw [String.Pos.Raw.isValid_iff_isValidUTF8_extract_zero]
    refine ⟨?_, ?_⟩
    · rw [String.Pos.Raw.le_iff]
      exact hi
    · rw [String.toUTF8_eq_toByteArray, String.toUTF8_eq_toByteArray] at hfront
      rw [← hfront]
      exact front.isValidUTF8
  rcases boundary_iff_isValid.mpr hvalid with ⟨tail, before, htext, hwidth⟩
  have hencoded : encoded front.toList = encoded before := by
    rw [← toList_toUTF8, hfront, ByteArray.data_extract, Array.toList_extract, toList_toUTF8,
      htext, encoded_append]
    simp [List.extract, ← hwidth]
  rw [encoded_inj hencoded]
  exact ⟨tail, htext, hwidth⟩

/-- A closer should be found where it stands behind balanced characters. -/
theorem closedAt_iff (hcloser : isCloser closer = true) :
    ClosedAt closer text i ↔
      ∃ inside after, text.toList = inside ++ closer :: after ∧ width inside = i ∧
        Balanced inside := by
  have hascii := ascii_of_isCloser hcloser
  have hdrop {inside tail : List Char} (htext : text.toList = inside ++ tail) :
      text.toUTF8.data.toList.drop (width inside) = encoded tail := by
    rw [toList_toUTF8, htext, encoded_append, ← length_encoded, List.drop_left]
  constructor
  · rintro ⟨hbyte, front, hfront, hbalanced⟩
    have hi : i ≤ text.toUTF8.size := by
      rcases Nat.lt_or_ge i text.toUTF8.size with hi | hge
      · exact Nat.le_of_lt hi
      · rw [getElem?_neg text.toUTF8 i (Nat.not_lt.mpr hge)] at hbyte
        cases hbyte
    -- The place in bytes is the width of the characters in front of the closer.
    rcases exists_tail_of_extract hi hfront with ⟨tail, htext, rfl⟩
    rcases exists_of_byte hascii (hdrop htext) hbyte with ⟨after, rfl⟩
    exact ⟨front.toList, after, htext, rfl, hbalanced⟩
  · rintro ⟨inside, after, htext, rfl, hbalanced⟩
    rcases exists_byte_of_drop ((hdrop htext).trans (encoded_ascii hascii after)) with
      ⟨hi, hbyte, _⟩
    refine ⟨?_, String.ofList inside, ?_, ?_⟩
    · rw [getElem?_pos text.toUTF8 (width inside) hi, hbyte]
    · rw [ByteArray.ext_iff, ← Array.toList_inj, toList_toUTF8, String.toList_ofList,
        ByteArray.data_extract, Array.toList_extract, toList_toUTF8, htext, encoded_append]
      simp [List.extract]
    · rwa [String.toList_ofList]

/-- A closer is found where it stands behind a balanced text, and only there; there is no
    more than one such place, and it is one where a character starts and, behind the closer,
    another one does or the text ends. What reading a bracket goes on with is what is left of
    the text from there on. -/
theorem closerAt?_eq_some_iff (hcloser : isCloser closer = true) (text : String) :
    (∀ i, closerAt? closer text = some i ↔ ClosedAt closer text i) ∧
      (∀ i j, ClosedAt closer text i → ClosedAt closer text j → i = j) ∧
      (∀ i, ClosedAt closer text i →
        String.Pos.Raw.IsValid text ⟨i⟩ ∧ String.Pos.Raw.IsValid text ⟨i + 1⟩) ∧
      closerIn closer 0 text.toList =
        (closerAt? closer text).bind fun i => dropBytes i text.toList := by
  -- Both scanners find the closer behind the same balanced text; its width is the place.
  have hfound (i : Nat) : closerAt? closer text = some i ↔ ClosedAt closer text i := by
    rw [closerAt?_eq hcloser, closedAt_iff hcloser, Option.map_eq_some_iff]
    constructor
    · rintro ⟨tail, htail, rfl⟩
      rcases (closerIn_eq_some_iff hcloser).mp htail with ⟨inside, after, htext, rfl, hinside⟩
      refine ⟨inside, after, htext, ?_, hinside⟩
      rw [← width_toList, htext, width_append, Nat.add_sub_cancel]
    · rintro ⟨inside, after, htext, rfl, hinside⟩
      refine ⟨closer :: after, ?_, ?_⟩
      · exact (closerIn_eq_some_iff hcloser).mpr ⟨inside, after, htext, rfl, hinside⟩
      · rw [← width_toList, htext, width_append, Nat.add_sub_cancel]
  refine ⟨hfound, ?_, ?_, ?_⟩
  · intro i j hi hj
    rw [← hfound] at hi hj
    rw [hi, Option.some.injEq] at hj
    exact hj
  · intro i hi
    rcases (closedAt_iff hcloser).mp hi with ⟨inside, after, htext, hwidth, _⟩
    have htail : TailAt text.toList i ([closer] ++ after) := ⟨inside, htext, hwidth⟩
    have hone : width [closer] = 1 := utf8Size_of_ascii (ascii_of_isCloser hcloser)
    have hafter := htail.skip
    rw [hone] at hafter
    exact ⟨boundary_iff_isValid.mp htail.boundary, boundary_iff_isValid.mp hafter.boundary⟩
  · cases hclosed : closerIn closer 0 text.toList with
    | none => rw [closerAt?_eq hcloser, hclosed, Option.map_none, Option.bind_none]
    | some tail =>
        rcases (closerIn_eq_some_iff hcloser).mp hclosed with ⟨inside, after, htext, rfl, _⟩
        have htail : TailAt text.toList (text.utf8ByteSize - width (closer :: after))
            (closer :: after) := by
          refine ⟨inside, htext, ?_⟩
          rw [← width_toList, htext, width_append, Nat.add_sub_cancel]
        rw [closerAt?_eq hcloser, hclosed, Option.map_some, Option.bind_some, htail.dropBytes_eq]

/-- In `'\é)' [} )` the first closer is quoted, and the second one closes a bracket of
    another kind. The backslash is skipped together with the first of two bytes. -/
theorem closerAt?_eq_some_iff_escaped :
    isCloser ')' = true ∧ closerAt? ')' "'\\é)' [\x7d )" = some 10 ∧
      String.Pos.Raw.IsValid "'\\é)' [\x7d )" ⟨10⟩ := by
  have hcloser : isCloser ')' = true := rfl
  have hquoted : QuotedInside '\'' ['\\', 'é', ')'] :=
    .escape (.char (by decide) (by decide) .nil)
  have hempty : Balanced [] := .nil
  have hinside : Balanced ['\'', '\\', 'é', ')', '\'', ' ', '[', '\x7d', ' '] :=
    .quoted rfl hquoted (.plain rfl (hempty.bracketed rfl rfl (.plain rfl .nil)))
  have hclosed : ClosedAt ')' "'\\é)' [\x7d )" 10 :=
    (closedAt_iff hcloser).mpr ⟨_, [], rfl, rfl, hinside⟩
  have hexact := closerAt?_eq_some_iff hcloser "'\\é)' [\x7d )"
  exact ⟨hcloser, (hexact.1 10).mpr hclosed, (hexact.2.2.1 10 hclosed).1⟩

end Places

end Text

end Reckon
