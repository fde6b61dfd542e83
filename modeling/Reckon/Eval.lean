import Reckon.Config
import Reckon.Error
import Reckon.Text.Cut
import Reckon.Text.Offset
import Reckon.Variables

/-!
# Evaluations

An evaluation reads and changes variables and comes to a value or an error. The
variables are kept either way: what was assigned before an error stays
assigned.

## Main definitions

* `Eval`: Evaluations.
* `Eval.fail`: The evaluation that fails.
* `Eval.locate`, `Eval.lift`: Placing the errors of an evaluation.
* `Env`: What an evaluation reads and does not change.
* `Env.resolve`: The value of a path.
-/

namespace Reckon

/-- Evaluations, which change variables and may fail. -/
abbrev Eval (α : Type) := ExceptT Error (StateM Variables) α

namespace Eval

variable {α : Type}

/-- The outcome of an evaluation from given variables, with the variables it
    leaves. -/
def outcome (m : Eval α) (vs : Variables) : Except Error α × Variables :=
  (ExceptT.run m).run vs

/-- An evaluation from its outcomes. -/
def ofOutcome (f : Variables → Except Error α × Variables) : Eval α :=
  ExceptT.mk (fun vs => f vs)

/-- The evaluation that fails without touching the variables. -/
def fail (cause : Cause) : Eval α :=
  throw (Error.of cause)

/-- A result that does not depend on variables. -/
def ofExcept (r : Except Cause α) : Eval α :=
  match r with
  | .ok a => pure a
  | .error cause => fail cause

/-- The same evaluation with its error changed. -/
def mapError (f : Error → Error) (m : Eval α) : Eval α :=
  ofOutcome fun vs =>
    match m.outcome vs with
    | (.ok a, vs) => (.ok a, vs)
    | (.error e, vs) => (.error (f e), vs)

/-- The same evaluation, whose error is placed at an offset of a text unless it
    already has a place. -/
def locate (expr : String) (cursor : Nat) (m : Eval α) : Eval α :=
  m.mapError (·.located expr cursor)

/-- The same evaluation on a text that starts at an offset of another. -/
def lift (offset : Nat) (m : Eval α) : Eval α :=
  m.mapError (·.lifted offset)

/-- Looking up a variable. -/
def resolve (name : String) : Eval (Option Value) :=
  ofOutcome fun vs =>
    let (value, vs) := vs.resolve name
    (.ok value, vs)

/-- Storing a value in a variable. -/
def assign (name : String) (value : Value) : Eval Unit :=
  ofOutcome fun vs => (.ok (), vs.assign name value)

end Eval

/-- What an evaluation reads and does not change. -/
structure Env where
  /-- The value in which names that are no variables are looked up. -/
  context : Value
  /-- The value that the expression is evaluated for. -/
  self : Value
deriving Inhabited

namespace Env

/-- The environment of a context that is also what is evaluated for. -/
def ofContext (context : Value) : Env := ⟨context, context⟩

/-- The value at the end of a property path. -/
def property (path : String) (target : Value) : Eval Value :=
  match Property.get path target with
  | .ok value => pure value
  | .error error => throw (Error.ofProperty error)

/-- The value of a path. If its first name is `this`, the rest is a path from
    what the expression is evaluated for. If it is a variable, the rest is a
    path from its value. Otherwise the whole path is one from the context. -/
def resolve (env : Env) (path : String) : Eval Value :=
  match Text.cutAt '.' path.toList with
  | (['t', 'h', 'i', 's'], some rest) => property (String.ofList rest) env.self
  | (name, rest) => do
    match ← Eval.resolve (String.ofList name), rest with
    | some value, none => return value
    | some value, some rest => property (String.ofList rest) value
    | none, _ =>
      match Property.get path env.context with
      | .ok value => return value
      | .error _ => Eval.fail (.unresolved path)

end Env

end Reckon
