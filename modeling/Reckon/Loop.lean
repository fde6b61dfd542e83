import Reckon.Engine

/-!
# Loops

A loop has a header of three parts, divided by semicolons: what is done first,
a condition, and what is done after each round. The condition must not be
missing; the other parts and the body may be. The header is read as tokens, so
a semicolon inside a text or a bracket does not divide it.

A loop runs in a scope of its own, which is gone when it ends: names it is the
first to assign stay inside, names that were known before are changed outside.
Its value is null.

Nothing bounds the number of rounds. A run is therefore asked for with the
number of rounds it may take, and has no outcome if it needs more.

## Main definitions

* `Loop`: A loop, with its parts as programs.
* `Loop.splitHeader`: The parts of a header.
* `Loop.compile`: The loop of a header and a body.
* `Loop.run`: The outcome of a loop.
-/

namespace Reckon

/-- A loop. -/
structure Loop where
  first : Option Program
  condition : Program
  after : Option Program
  body : Option Program
deriving Inhabited

namespace Loop

/-- The characters from one byte offset up to another. -/
def slice (cs : List Char) (start stop : Nat) : List Char :=
  match Text.dropBytes start cs, Text.dropBytes stop cs with
  | some tail, some rest => Text.upTo tail rest
  | _, _ => []

/-- A text from byte `start` on, cut at spans that lie behind it in order. -/
def cutAt (cs : List Char) (start : Nat) : List Span → List (List Char)
  | [] => [(Text.dropBytes start cs).getD []]
  | span :: spans => slice cs start span.start :: cutAt cs span.stop spans

/-- Whether a token ends a statement. -/
def isDivider (t : Token String) : Bool :=
  t.operator? == some .endOfStatement

/-- The parts of a header. -/
def splitHeader (header : String) : Except Error (List String) :=
  match Token.readAll? header with
  | .error fault => .error ((Error.ofFault fault).located header 0)
  | .ok tokens =>
    let dividers := (tokens.filter isDivider).map Token.span
    .ok ((cutAt header.toList 0 dividers).map String.ofList)

/-- The program of a part that may be missing. -/
def compilePart (text : String) : Except Error (Option Program) :=
  if Text.allBlank text.toList then .ok none else some <$> Program.compile text

/-- The loop of a header and a body. -/
def compile (header body : String) : Except Error Loop := do
  match ← splitHeader header with
  | [first, condition, after] =>
    -- The condition is the one part of a header that has to be there.
    if Text.allBlank condition.toList then throw (Error.of (.illFormed .headerCondition))
    let first ← compilePart first
    let condition ← Program.compile condition
    let after ← compilePart after
    let body ← compilePart body
    return ⟨first, condition, after, body⟩
  | parts => throw (Error.of (.illFormed (.headerParts parts.length)))

/-- Running a part that may be missing. -/
def runPart (config : Config) (env : Env) : Option Program → Eval Unit
  | none => return ()
  | some program => do
    let _ ← program.run config env

/-- Whether another round follows. -/
def test (config : Config) (env : Env) (l : Loop) : Eval Bool := do
  match ← l.condition.run config env with
  | .bool b => return b
  | v => Eval.fail (.mismatch (.loopCondition v.kindName))

/-- One round, if another one follows: whether it did. -/
def round (config : Config) (env : Env) (l : Loop) : Eval Bool := do
  if ← l.test config env then
    runPart config env l.body
    runPart config env l.after
    return true
  else return false

/-- The outcome of the rounds of a loop, or `none` if there are more than
    `rounds` of them. -/
def iterate (config : Config) (env : Env) (l : Loop) (rounds : Nat) (vs : Variables) :
    Option (Except Error Value × Variables) :=
  match (l.round config env).outcome vs with
  | (.error e, vs) => some (.error e, vs)
  | (.ok false, vs) => some (.ok .null, vs)
  | (.ok true, vs) =>
    match rounds with
    | 0 => none
    | rounds + 1 => iterate config env l rounds vs

/-- The outcome of a loop, or `none` if it has more than `rounds` rounds. -/
def run (config : Config) (env : Env) (l : Loop) (rounds : Nat) (vs : Variables) :
    Option (Except Error Value × Variables) :=
  let ended : Option (Except Error Value × Variables) :=
    -- The loop opens a scope of its own, which is left however the loop ends.
    match (runPart config env l.first).outcome vs.push with
    | (.error e, vs) => some (.error e, vs)
    | (.ok _, vs) => iterate config env l rounds vs
  ended.map fun (result, vs) => (result, vs.pop)

end Loop

end Reckon
