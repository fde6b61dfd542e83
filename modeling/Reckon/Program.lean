import Reckon.Interpret

/-!
# Programs

A program is an expression whose text has been read once and for all: its
tokens, in which groups and the elements of lists are programs again. Running a
program reads no text, and runs the same pass that interpreting its text would.

Compiling reads the whole text, groups and elements included, and fails where
any of it has no tokens or a fault. Errors are placed in the outermost text.

## Main definitions

* `Program`: A text that has been read.
* `Program.compile`: The program of a text.
* `Program.runNested`, `Program.run`: The value of a program.
* `Program.text`: How a program is shown.

## Theorems

* `Program.sizeOf_lt_of_mem_nodes`: Programs inside a program are smaller.
-/

namespace Reckon

/-- A text that has been read, down to the expressions inside its tokens. -/
structure Program where
  source : String
  nodes : List (Token Program)
deriving Inhabited

namespace Program

/-- A program as it is shown: its tokens, with single spaces between them. -/
def text (p : Program) : String :=
  " ".intercalate (p.nodes.map fun t => (t.map source).text)

/-- An expression inside an operand is smaller than the operand. -/
theorem sizeOf_lt_of_mem_operand {o : Operand Program} {p : Program} (h : p ∈ o.nested) :
    sizeOf p < sizeOf o := by
  cases o with
  | group inner =>
    simp only [Operand.nested, List.mem_singleton] at h
    subst h
    simp only [Operand.group.sizeOf_spec]; omega
  | list elements =>
    have := List.sizeOf_lt_of_mem h
    simp only [Operand.nested] at this
    simp only [Operand.list.sizeOf_spec]; omega
  | literal => simp [Operand.nested] at h
  | identifier => simp [Operand.nested] at h
  | self => simp [Operand.nested] at h

/-- An expression inside a token is smaller than the token. -/
theorem sizeOf_lt_of_mem_token {t : Token Program} {p : Program} (h : p ∈ t.nested) :
    sizeOf p < sizeOf t := by
  obtain ⟨kind, span, negated⟩ := t
  cases kind with
  | operand o =>
    have := sizeOf_lt_of_mem_operand (o := o) h
    simp only [Token.mk.sizeOf_spec, Token.Kind.operand.sizeOf_spec]; omega
  | operator => simp [Token.nested, Token.Kind.nested] at h
  | assign => simp [Token.nested, Token.Kind.nested] at h

/-- Programs inside a program are smaller. -/
theorem sizeOf_lt_of_mem_nodes {p : Program} {t : Token Program} (ht : t ∈ p.nodes) :
    ∀ q ∈ t.nested, sizeOf q < sizeOf p := by
  intro q hq
  have h₁ := sizeOf_lt_of_mem_token hq
  have h₂ := List.sizeOf_lt_of_mem ht
  obtain ⟨source, nodes⟩ := p
  simp only [Program.mk.sizeOf_spec]
  simp only at h₂
  omega

/-- Programs smaller than a program. -/
abbrev Within (p : Program) := { q : Program // sizeOf q < sizeOf p }

/-- A program as a reading that has been finished. -/
def toReading (p : Program) : Reading Program := ⟨p.nodes, .finished false⟩

/-- The reading of a program, whose tokens hold smaller programs. -/
def read (p : Program) : Reading (Within p) :=
  p.toReading.attach fun _ h => sizeOf_lt_of_mem_nodes h

/-- The value of a pass over the tokens of a program, given how to evaluate the
    programs inside it. -/
def runWith (config : Config) (env : Env) (p : Program) (eval : Within p → Eval Value) :
    Eval Value :=
  Pass.run ⟨fun q => q.1.source, eval⟩ config.rounding env p.source p.read

/-- The value of a program inside another. -/
def runNested (config : Config) (env : Env) (p : Program) : Eval Value :=
  config.coerceNested <$> runWith config env p fun inner => runNested config env inner.1
termination_by sizeOf p
decreasing_by exact inner.2

/-- The value of a whole program. -/
def run (config : Config) (env : Env) (p : Program) : Eval Value :=
  config.coerceWhole <$> runWith config env p fun inner => runNested config env inner.1

section Compile

variable {α : Type}

/-- An expression at byte `offset` of `source`, compiled. Its errors are placed
    in `source`. -/
def compileAt (source : String) (compile : α → Except Error Program) (offset : Nat) (inner : α) :
    Except Error Program :=
  (compile inner).mapError fun e => (e.lifted offset).located source offset

/-- The elements of a list compiled, of which the first is looked for in
    `source` from byte `start` on. -/
def compileElements (source : String) (textOf : α → String)
    (compile : α → Except Error Program) : Nat → List α → Except Error (List Program)
  | _, [] => .ok []
  | start, element :: elements => do
    let text := textOf element
    -- Each element is looked for behind the one before it.
    let offset := Text.offsetOf source.toList start text.toList
    let program ← compileAt source compile offset element
    let programs ←
      compileElements source textOf compile (offset + text.utf8ByteSize) elements
    return program :: programs

/-- An operand compiled, where what is inside its bracket starts at byte
    `inside`. -/
def compileOperand (source : String) (textOf : α → String) (compile : α → Except Error Program)
    (inside : Nat) : Operand α → Except Error (Operand Program)
  | .literal value => .ok (.literal value)
  | .identifier path => .ok (.identifier path)
  | .self => .ok .self
  | .group inner => do
    let offset := Text.offsetOf source.toList inside (textOf inner).toList
    return .group (← compileAt source compile offset inner)
  | .list elements =>
    return .list (← compileElements source textOf compile inside elements)

/-- A token compiled. -/
def compileToken (source : String) (textOf : α → String) (compile : α → Except Error Program)
    (t : Token α) : Except Error (Token Program) := do
  match t.kind with
  | .operator op => return ⟨.operator op, t.span, t.negated⟩
  | .operand o =>
    let o ← compileOperand source textOf compile (t.span.start + 1) o
    return ⟨.operand o, t.span, t.negated⟩
  | .assign target => return ⟨.assign target, t.span, t.negated⟩

/-- The program of some tokens of `source`, whose reading may have ended with a
    fault. -/
def ofTokens (source : String) (ending : Reading.End) (nodes : List (Token Program)) :
    Except Error Program :=
  match ending with
  | .fault fault => .error ((Error.ofFault fault).located source fault.pos)
  | .finished _ =>
    -- Marks alone have no token, so their text is as empty as a blank one.
    if nodes.isEmpty then .error ((Error.of .nothingToDo).located source 0)
    else .ok ⟨source, nodes⟩

end Compile

/-- The program of a text. -/
def compile (text : String) : Except Error Program := do
  let reading := Interpret.read text
  let nodes ← reading.tokens.mapM (compileToken text Subtype.val fun inner => compile inner.1)
  ofTokens text reading.ending nodes
termination_by text.length
decreasing_by exact inner.2

end Program

end Reckon
