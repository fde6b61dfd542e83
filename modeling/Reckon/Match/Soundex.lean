/-!
# Soundex

The phonetic code of a text: its first letter, then three digits that group
the letters after it by sound. Characters that are no ASCII letters are
ignored. `H` and `W` count as absent, so letters of one group around them have
one digit; vowels and `Y` have none, but do separate letters of one group.

A text without letters has an empty code.

## Main definitions

* `Soundex.digit`: The group of a letter.
* `Soundex.code`: The code of a text.
-/

namespace Reckon

namespace Soundex

/-- The group of an upper-case letter; `0` where it has none. -/
def digit (c : Char) : Char :=
  if "BFPV".toList.contains c then '1'
  else if "CGJKQSXZ".toList.contains c then '2'
  else if "DT".toList.contains c then '3'
  else if c = 'L' then '4'
  else if "MN".toList.contains c then '5'
  else if c = 'R' then '6'
  else '0'

/-- The digits of the letters after the first, where `last` is the group of the
    letter before them and `room` digits are still needed. -/
def digits (last : Char) (room : Nat) : List Char → List Char
  | [] => List.replicate room '0'
  | c :: cs =>
    match room with
    | 0 => []
    | left + 1 =>
      -- These two separate nothing: the group before them still counts.
      if c = 'H' ∨ c = 'W' then digits last (left + 1) cs
      else
        let d := digit c
        if d ≠ '0' ∧ d ≠ last then d :: digits d left cs else digits d (left + 1) cs

/-- The letters of a text in upper case. -/
def letters (cs : List Char) : List Char :=
  (cs.filter Char.isAlpha).map Char.toUpper

/-- The code of a text. -/
def code (cs : List Char) : List Char :=
  match letters cs with
  | [] => []
  | c :: rest => c :: digits (digit c) 3 rest

end Soundex

end Reckon
