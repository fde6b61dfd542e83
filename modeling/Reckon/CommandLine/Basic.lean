import Reckon.CommandLine.Listing
import Reckon.CommandLine.Options
import Reckon.Engine

/-!
# The Command Line

Two commands: one evaluates an expression, the other lists its tokens. Results
go to standard output, reports to standard error, and a command that fails ends
with code 1.

Variables bound on the command line are evaluated one after the other, with the
default configuration, each seeing those before it.

## Main definitions

* `CommandLine.Output`: What a command writes, and its exit code.
* `CommandLine.run`: The output of a command line.
-/

namespace Reckon

namespace CommandLine

/-- What a command writes, and its exit code. -/
structure Output where
  code : Nat
  stdout : String
  stderr : String
deriving DecidableEq, Repr, Inhabited

/-- Lines as text, each with an end of line. -/
def lines (ls : List String) : String :=
  String.join (ls.map (· ++ "\n"))

/-- The output of a command that succeeds. -/
def success (ls : List String) : Output := ⟨0, lines ls, ""⟩

/-- The output of a command that fails. -/
def failure (ls : List String) : Output := ⟨1, "", lines ls⟩

/-- The general help. -/
def usage : List String := [
  "Tern expression engine",
  "",
  "Usage: tern <command> [args]",
  "",
  "Commands:",
  "  eval <expr> [options]   Evaluate an expression and print its value",
  "  tokens <expr>           Print the compiled token map of an expression",
  "  help                    Show this message",
  "  version                 Show version information",
  "",
  "Set RUST_LOG=tern_eval=debug to trace reduction."]

/-- The help for the evaluation command. -/
def evalUsage : List String := [
  "Usage: tern eval <expression> [options]",
  "",
  "Options:",
  "  --bool                Coerce the result to a boolean",
  "  --decimal             Keep decimal results unnarrowed",
  "  --rounding=<mode>     Division rounding: up, down, ceiling, floor,",
  "                        half-up, half-down (default), half-even",
  "  --set <name>=<expr>   Bind a variable to the value of an expression",
  "  --compile             Compile to a token map before evaluating"]

/-- The environment of an expression on the command line. -/
def env : Env := .ofContext .null

/-- The variables that bindings set up, or the name whose expression fails with
    its error. -/
def bindAll : List (String × String) → Variables → Except (String × Error) Variables
  | [], vs => .ok vs
  | (name, expr) :: bindings, vs =>
    match ((Engine.ofConfig {}).eval env expr).2.outcome vs with
    | (.ok value, vs) => bindAll bindings { vs with globals := vs.globals.insert name value }
    | (.error error, _) => .error (name, error)

/-- The outcome of the expression that options ask for. -/
def evaluate (o : Options) (vs : Variables) : Except Error Value :=
  let engine := Engine.ofConfig o.config
  if o.compile then
    let (engine, program) := engine.compile o.expr
    match program with
    | .ok program => ((engine.execute env program).outcome vs).1
    | .error error => .error error
  else ((engine.eval env o.expr).2.outcome vs).1

/-- The output of the evaluation command. -/
def eval (arguments : List String) : Output :=
  match Options.parse arguments with
  | .error error => failure (["error: " ++ error.message, ""] ++ evalUsage)
  | .ok o =>
    match bindAll o.bindings (.ofGlobals .empty) with
    | .error (name, error) => failure (error.report ("in binding `" ++ name ++ "`"))
    | .ok vs =>
      match evaluate o vs with
      | .ok value => success [value.text]
      | .error error => failure (error.report "")

/-- The output of the listing command. -/
def tokens (expr : String) : Output :=
  match Program.compile expr with
  | .ok program => success (program.listing 0)
  | .error error => failure (error.report "")

/-- The output of a command line. -/
def run : List String → Output
  | [] => success usage
  | "eval" :: arguments => eval arguments
  | "tokens" :: arguments =>
    match arguments with
    | [] => failure ["Usage: tern tokens <expression>"]
    | expr :: _ => tokens expr
  | "help" :: _ | "--help" :: _ | "-h" :: _ => success usage
  | "version" :: _ | "--version" :: _ | "-V" :: _ => success ["tern 0.1.0"]
  | command :: _ => ⟨1, lines usage, lines ["Unknown command: " ++ command, ""]⟩

end CommandLine

end Reckon
