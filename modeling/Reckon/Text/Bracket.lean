import Reckon.Text.Blank
import Reckon.Text.Offset
import Reckon.Text.Quoted

/-!
# Brackets

Finding the closer of a bracket, and cutting a list at its top-level commas.
Three kinds of brackets nest: round, square and curly ones. A closer closes
whatever bracket is open, so inside the text that is searched the kinds need
not agree; only the closer looked for has to be of the right kind. Quoted texts
are stepped over.

Scanners return the text from the mark they look for on, so that what they step
over is what stands before it.

## Main definitions

* `Text.closerIn`: The text from the closer of an open bracket on.
* `Text.commaIn`: The text from the first top-level comma on.
* `Text.elements`: The elements of a list, without blanks around them.

## Theorems

* `Text.length_closerIn_le`, `Text.length_commaIn_le`: Scanners never lengthen.
* `Text.length_le_of_mem_elements`: No element is longer than the list.
-/

namespace Reckon

namespace Text

/-- The characters that open a bracket. -/
def isOpener (c : Char) : Bool := c == '(' || c == '[' || c == '\x7b'

/-- The characters that close a bracket. -/
def isCloser (c : Char) : Bool := c == ')' || c == ']' || c == '\x7d'

/-- What follows a quoted text whose opening quote has just been read. Any
    character may follow a backslash. -/
def afterQuoted (quote : Char) (cs : List Char) : Option (List Char) :=
  afterQuote (fun _ => true) quote cs

theorem length_afterQuoted_lt {quote : Char} {cs tail : List Char}
    (h : afterQuoted quote cs = some tail) : tail.length < cs.length :=
  length_afterQuote_lt h

/-- The text from the closer of an open bracket on, where `depth` brackets more
    have been opened since. `none` if a quoted text does not end, if nothing
    closes the bracket, or if something else than `closer` does. -/
def closerIn (closer : Char) (depth : Nat) (text : List Char) : Option (List Char) :=
  match text with
  | [] => none
  | c :: cs =>
    if isQuote c then
      match _found : afterQuoted c cs with
      | none => none
      | some tail => closerIn closer depth tail
    else if isOpener c then closerIn closer (depth + 1) cs
    else if isCloser c then
      match depth with
      | 0 => if c = closer then some (c :: cs) else none
      | depth + 1 => closerIn closer depth cs
    else closerIn closer depth cs
termination_by text.length
decreasing_by
  all_goals simp only [List.length_cons]
  · have := length_afterQuoted_lt _found; omega
  all_goals omega

/-- The text from the closer on is no longer than the text searched. -/
theorem length_closerIn_le {closer : Char} {depth : Nat} {cs tail : List Char}
    (h : closerIn closer depth cs = some tail) : tail.length ≤ cs.length := by
  fun_induction closerIn closer depth cs with
  | case1 => cases h
  | case2 => cases h
  | case3 _ c cs _ rest hrest ih =>
    have := ih h
    have := length_afterQuoted_lt hrest
    simp only [List.length_cons]; omega
  | case4 _ c cs _ _ ih => have := ih h; simp only [List.length_cons]; omega
  | case5 => cases h; simp
  | case6 => cases h
  | case7 c cs _ _ _ _ ih => have := ih h; simp only [List.length_cons]; omega
  | case8 _ c cs _ _ _ ih => have := ih h; simp only [List.length_cons]; omega

/-- The text from the first comma outside quotes and brackets on, where `depth`
    brackets are open. A quoted text that does not end hides what follows it,
    and a closer without a bracket is stepped over. -/
def commaIn (depth : Nat) (text : List Char) : Option (List Char) :=
  match text with
  | [] => none
  | c :: cs =>
    if isQuote c then
      match _found : afterQuoted c cs with
      | none => none
      | some tail => commaIn depth tail
    else if isOpener c then commaIn (depth + 1) cs
    else if isCloser c then commaIn (depth - 1) cs
    else if c = ',' ∧ depth = 0 then some (c :: cs)
    else commaIn depth cs
termination_by text.length
decreasing_by
  all_goals simp only [List.length_cons]
  · have := length_afterQuoted_lt _found; omega
  all_goals omega

/-- The text from the comma on is no longer than the text searched. -/
theorem length_commaIn_le {depth : Nat} {cs tail : List Char}
    (h : commaIn depth cs = some tail) : tail.length ≤ cs.length := by
  fun_induction commaIn depth cs with
  | case1 => cases h
  | case2 => cases h
  | case3 _ c cs _ rest hrest ih =>
    have := ih h
    have := length_afterQuoted_lt hrest
    simp only [List.length_cons]; omega
  | case4 _ c cs _ _ ih => have := ih h; simp only [List.length_cons]; omega
  | case5 _ c cs _ _ _ ih => have := ih h; simp only [List.length_cons]; omega
  | case6 => cases h; simp
  | case7 _ c cs _ _ _ _ ih => have := ih h; simp only [List.length_cons]; omega

/-- A text cut at its commas outside quotes and brackets. -/
def splitCommas (text : List Char) : List (List Char) :=
  match _found : commaIn 0 text with
  | some (comma :: tail) => upTo text (comma :: tail) :: splitCommas tail
  | _ => [text]
termination_by text.length
decreasing_by
  have := length_commaIn_le _found
  simp only [List.length_cons] at this
  omega

/-- What stands before a tail is no longer than the whole. -/
theorem length_upTo_le (cs tail : List Char) : (upTo cs tail).length ≤ cs.length := by
  simp only [upTo, List.length_take]; omega

/-- No part is longer than the text that was cut. -/
theorem length_le_of_mem_splitCommas {cs part : List Char} (h : part ∈ splitCommas cs) :
    part.length ≤ cs.length := by
  fun_induction splitCommas cs with
  | case1 cs _ tail hc ih =>
    rcases List.mem_cons.1 h with rfl | h
    · exact length_upTo_le _ _
    · have := ih h
      have := length_commaIn_le hc
      simp only [List.length_cons] at this
      omega
  | case2 => exact Nat.le_of_eq (congrArg List.length (List.mem_singleton.1 h))

/-- The elements of a list, without blanks around them. Elements of which
    nothing is left are dropped. -/
def elements (text : List Char) : List (List Char) :=
  ((splitCommas text).map trim).filter fun part => !part.isEmpty

/-- No element is longer than the list it is an element of. -/
theorem length_le_of_mem_elements {cs part : List Char} (h : part ∈ elements cs) :
    part.length ≤ cs.length := by
  obtain ⟨whole, hw, rfl⟩ := List.mem_map.1 (List.mem_filter.1 h).1
  exact Nat.le_trans (length_trim_le whole) (length_le_of_mem_splitCommas hw)

end Text

end Reckon
