import Reckon.Pass

/-!
# Interpreting a Text

The value of an expression straight from its text. Groups and the elements of
lists are texts inside the text, and are interpreted in the same way; as they
are shorter, this comes to an end.

A whole expression and one inside another differ in what becomes of the value.
Both narrow whole decimals unless they are told not to, but only the value of a
whole expression is turned into a boolean where the configuration asks for one.

## Main definitions

* `Config.coerceNested`, `Config.coerceWhole`: What becomes of a value.
* `Interpret.nested`: The value of an expression inside another.
* `Interpret.whole`: The value of a whole expression.
-/

namespace Reckon

namespace Config

/-- What becomes of the value of an expression inside another. -/
def coerceNested (config : Config) (v : Value) : Value :=
  if config.returnDecimal then v else v.narrow

/-- What becomes of the value of a whole expression. -/
def coerceWhole (config : Config) (v : Value) : Value :=
  if config.booleanMode then .bool v.truth else config.coerceNested v

end Config

namespace Interpret

/-- Texts shorter than a text. -/
abbrev Within (text : String) := { s : String // s.length < text.length }

/-- The reading of a text, whose tokens hold shorter texts. -/
def read (text : String) : Reading (Within text) :=
  (Token.read text).attach fun _ h => Token.length_lt_of_mem_read h

/-- The value of a pass over the tokens of a text, given how to evaluate the
    texts inside it. -/
def run (config : Config) (env : Env) (text : String) (eval : Within text → Eval Value) :
    Eval Value :=
  Pass.run ⟨Subtype.val, eval⟩ config.rounding env text (read text)

/-- The value of an expression inside another, from its text. -/
def nested (config : Config) (env : Env) (text : String) : Eval Value :=
  if Text.allBlank text.toList then Eval.fail .nothingToDo
  else config.coerceNested <$> run config env text fun inner => nested config env inner.1
termination_by text.length
decreasing_by exact inner.2

/-- The value of a whole expression, from its text. -/
def whole (config : Config) (env : Env) (text : String) : Eval Value :=
  config.coerceWhole <$> run config env text fun inner => nested config env inner.1

end Interpret

end Reckon
