import Reckon.Program

/-!
# Listings and Reports

How the command line shows a program and an error. A listing has a line for
each token, with the bytes it covers; what is inside a group or an element of a
list is set further to the right. A report shows the text in which an error
happened, with a mark under the place.

## Main definitions

* `Program.listing`: The lines of a listing.
* `Error.report`: The lines of a report.
-/

namespace Reckon

namespace Program

/-- The start of a line that stands `depth` levels to the right. -/
def indent (depth : Nat) : String := String.ofList (List.replicate (2 * depth) ' ')

/-- A text filled up with spaces to a number of characters. -/
def padded (width : Nat) (text : String) : String :=
  text ++ String.ofList (List.replicate (width - text.length) ' ')

/-- The line of a token. -/
def tokenLine (depth : Nat) (t : Token String) : String :=
  indent depth ++ padded 10 t.span.text ++ " " ++ t.text

/-- The line before an element of a list. -/
def elementLine (depth position : Nat) : String :=
  indent depth ++ "  [" ++ toString position ++ "]"

/-- The lines of a listing, `depth` levels to the right. -/
def listing (depth : Nat) (p : Program) : List String :=
  p.read.tokens.flatMap fun t =>
    let inside :=
      match t.kind with
      | .operand (.group inner) => listing (depth + 1) inner.1
      | .operand (.list elements) =>
        elements.zipIdx.flatMap fun element =>
          elementLine depth element.2 :: listing (depth + 2) element.1.1
      | _ => []
    tokenLine depth (t.map fun q => q.1.source) :: inside
termination_by sizeOf p
decreasing_by
  · exact inner.2
  · exact element.1.2

end Program

namespace Error

/-- The lines of a report, where `context` says what was being done. -/
def report (context : String) (e : Error) : List String :=
  let heading :=
    if context.isEmpty then "error: " ++ e.text else "error " ++ context ++ ": " ++ e.text
  match e.expr, e.cursor with
  | some expr, some cursor =>
    let column := Text.column expr.toList cursor
    [heading, "  " ++ expr, "  " ++ String.ofList (List.replicate column ' ') ++ "^"]
  | _, _ => [heading]

end Error

end Reckon
