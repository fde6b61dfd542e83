import Reckon.Value.Basic

/-!
# Properties

A property path is names joined by points. It is followed name by name: a map
answers its own keys first, and lists, maps and texts answer three names that
tell how much they hold (`size`, `length`, `empty`).

## Main definitions

* `Property.segments`: The names of a path.
* `Property.step`: One name.
* `Property.get`: A whole path.
* `Property.Error`: Why a path leads nowhere.
-/

namespace Reckon

namespace Property

/-- Why a path leads nowhere. -/
inductive Error where
  /-- The value has no property of this name. -/
  | noProperty (property kindName : String)
  /-- Null has no properties. -/
  | nullTarget (property : String)
  /-- A name of the path is empty. -/
  | emptySegment (path : String)
deriving DecidableEq, Repr

/-- The wording of a property error. -/
def Error.message : Error → String
  | noProperty property kindName => "no property `" ++ property ++ "` on " ++ kindName
  | nullTarget property => "cannot read property `" ++ property ++ "` of null"
  | emptySegment path => "empty segment in property path `" ++ path ++ "`"

/-- A text cut at its points. There is one part more than there are points. -/
def segments : List Char → List (List Char)
  | [] => [[]]
  | c :: cs =>
    if c = '.' then [] :: segments cs
    else
      match segments cs with
      | [] => [[c]]
      | part :: parts => (c :: part) :: parts

/-- How much a collection or a text holds. -/
def count? : Value → Option Nat
  | .list items => some items.length
  | .map entries => some entries.length
  | .str s => some s.length
  | _ => none

/-- The property of a name that every collection and text has. -/
def derived? (name : String) (target : Value) : Option Value :=
  match count? target with
  | none => none
  | some n =>
    if name = "size" ∨ name = "length" then some (.ofCount n)
    else if name = "empty" then some (.bool (n == 0))
    else none

/-- The entry of a map under a name. -/
def own? (name : String) : Value → Option Value
  | .map entries => Value.entry? entries name
  | _ => none

/-- The property of one name. -/
def step (name : String) (target : Value) : Except Error Value :=
  match own? name target <|> derived? name target with
  | some value => .ok value
  | none =>
    match target with
    | .null => .error (.nullTarget name)
    | _ => .error (.noProperty name target.kindName)

/-- The value at the end of a path. -/
def get (path : String) (target : Value) : Except Error Value :=
  (segments path.toList).foldlM (fun value part =>
    if part.isEmpty then .error (.emptySegment path)
    else step (String.ofList part) value) target

end Property

end Reckon
