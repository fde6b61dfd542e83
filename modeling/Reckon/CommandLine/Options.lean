import Reckon.Config
import Reckon.Text.Blank
import Reckon.Text.Cut

/-!
# Options of the Evaluation Command

What the evaluation command is asked to do: an expression, three switches, a
rounding mode, and variables bound to the values of expressions. Switches and
options may stand anywhere among the arguments. A binding is an argument of its
own after `--set`, or follows it after an equals sign.

## Main definitions

* `Options`: What the command is asked to do.
* `Argument`: What a single argument means.
* `Options.parse`: The options that arguments stand for.
* `Options.Error`: Why arguments stand for none.
* `Options.config`: The configuration that options ask for.
-/

namespace Reckon

/-- What the evaluation command is asked to do. -/
structure Options where
  expr : String
  booleanMode : Bool := false
  returnDecimal : Bool := false
  /-- The name of a rounding mode, as it was given. -/
  rounding : Option String := none
  /-- Names with the expressions whose values they are bound to, in order. -/
  bindings : List (String × String) := []
  compile : Bool := false
deriving DecidableEq, Repr, Inhabited

namespace Options

/-- Why arguments stand for no options. -/
inductive Error where
  | unknownRounding (mode : String)
  | missingBinding
  | notBinding (text : String)
  | unknownOption (argument : String)
  | unexpectedArgument (argument : String)
  | missingExpression
deriving DecidableEq, Repr

/-- The wording of an error. -/
def Error.message : Error → String
  | unknownRounding mode => "unknown rounding mode `" ++ mode ++ "`"
  | missingBinding => "`--set` needs a `name=expr` argument"
  | notBinding text => "binding `" ++ text ++ "` is not `name=expr`"
  | unknownOption argument => "unknown option `" ++ argument ++ "`"
  | unexpectedArgument argument => "unexpected argument `" ++ argument ++ "`"
  | missingExpression => "missing expression"

/-- A name and an expression, divided by the first equals sign. Blanks around
    the name are dropped; neither may be missing. -/
def binding? (text : String) : Except Error (String × String) :=
  match Text.cutAt '=' text.toList with
  | (name, some expr) =>
    let name := Text.trim name
    if name.isEmpty || Text.allBlank expr then .error (.notBinding text)
    else .ok (String.ofList name, String.ofList expr)
  | (_, none) => .error (.notBinding text)

end Options

/-- What a single argument means. -/
inductive Argument where
  | booleanMode
  | returnDecimal
  | compile
  | rounding (mode : String)
  /-- The next argument is a binding. -/
  | set
  | binding (text : String)
  | unknown
  | plain
deriving DecidableEq, Repr

namespace Argument

/-- What an argument means. -/
def of (argument : String) : Argument :=
  if argument = "--bool" then booleanMode
  else if argument = "--decimal" then returnDecimal
  else if argument = "--compile" ∨ argument = "-c" then compile
  else
    match Text.after? "--rounding=".toList argument.toList with
    | some mode => rounding (String.ofList mode)
    | none =>
      if argument = "--set" then set
      else
        match Text.after? "--set=".toList argument.toList with
        | some text => binding (String.ofList text)
        | none => if "--".toList.isPrefixOf argument.toList then unknown else plain

end Argument

namespace Options

/-- The options with one more binding. -/
def bind (o : Options) (binding : String × String) : Options :=
  { o with bindings := o.bindings ++ [binding] }

/-- The options that arguments add to options `o`, where `expr` is the
    expression if it was already given. -/
def parseFrom (o : Options) (expr : Option String) : List String → Except Error Options
  | [] =>
    match expr with
    | some expr => .ok { o with expr := expr }
    | none => .error .missingExpression
  | argument :: rest =>
    match Argument.of argument with
    | .booleanMode => parseFrom { o with booleanMode := true } expr rest
    | .returnDecimal => parseFrom { o with returnDecimal := true } expr rest
    | .compile => parseFrom { o with compile := true } expr rest
    | .rounding mode =>
      if (Rounding.ofName? mode).isNone then .error (.unknownRounding mode)
      else parseFrom { o with rounding := some mode } expr rest
    | .set =>
      match rest with
      | [] => .error .missingBinding
      | text :: rest =>
        match binding? text with
        | .error error => .error error
        | .ok binding => parseFrom (o.bind binding) expr rest
    | .binding text =>
      match binding? text with
      | .error error => .error error
      | .ok binding => parseFrom (o.bind binding) expr rest
    | .unknown => .error (.unknownOption argument)
    | .plain =>
      match expr with
      | none => parseFrom o (some argument) rest
      | some _ => .error (.unexpectedArgument argument)

/-- The options that arguments stand for. -/
def parse (arguments : List String) : Except Error Options :=
  parseFrom { expr := "" } none arguments

/-- The configuration that options ask for. -/
def config (o : Options) : Config :=
  let config : Config := { booleanMode := o.booleanMode, returnDecimal := o.returnDecimal }
  match o.rounding.bind Rounding.ofName? with
  | some mode => { config with rounding := mode }
  | none => config

end Options

end Reckon
