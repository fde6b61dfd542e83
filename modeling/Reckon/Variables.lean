import Reckon.Value.Basic

/-!
# Variables

Variables live in scopes. The outermost scope belongs to whoever asks for an
evaluation; a loop opens a scope of its own inside it. A name means its binding
in the innermost scope that has one. Assigning to a name changes that binding,
and a name that no scope knows is bound in the innermost scope.

Every use of the outermost scope is recorded, in order: which names were looked
up there and which values were stored. Assigning from an inner scope first asks
whether the outer scope knows the name, and that question is a look-up.

## Main definitions

* `Bindings`: Names with their values, each name once.
* `Access`: One use of the outermost scope.
* `Variables`: Scopes, and the uses of the outermost one.
* `Variables.lookup?`, `Variables.isResolvable`: What a name means, and whether it
  means anything.
* `Variables.resolve`, `Variables.assign`: Looking up and storing.

## Theorems

* `Bindings.find?_insert`: What is found after a value was stored.
-/

namespace Reckon

/-- Names with their values, each name once. -/
structure Bindings where
  entries : List (String × Value)
deriving Inhabited

namespace Bindings

/-- No bindings. -/
def empty : Bindings := ⟨[]⟩

/-- The value of a name. -/
def find? (b : Bindings) (name : String) : Option Value :=
  b.entries.lookup name

/-- Whether a name is bound. -/
def contains (b : Bindings) (name : String) : Bool :=
  (b.find? name).isSome

/-- The number of bound names. -/
def size (b : Bindings) : Nat := b.entries.length

/-- Entries with a value stored under a name, in the place of the name's former
    value if it had one. -/
def store (name : String) (value : Value) : List (String × Value) → List (String × Value)
  | [] => [(name, value)]
  | (n, v) :: es => if name = n then (name, value) :: es else (n, v) :: store name value es

/-- The bindings with a value stored under a name. -/
def insert (b : Bindings) (name : String) (value : Value) : Bindings :=
  ⟨store name value b.entries⟩

/-- A stored value is found, and what is found under other names stays. -/
theorem lookup_store (name other : String) (value : Value) (entries : List (String × Value)) :
    (store name value entries).lookup other =
      if other = name then some value else entries.lookup other := by
  induction entries with
  | nil =>
    by_cases h : other = name
    · simp [store, h]
    · simp [store, List.lookup_cons, h, beq_false_of_ne h]
  | cons entry es ih =>
    obtain ⟨n, v⟩ := entry
    -- An entry of the same name is replaced where it stands, any other is passed by.
    by_cases hn : name = n
    · subst hn
      by_cases h : other = name
      · simp [store, h]
      · simp [store, List.lookup_cons, h, beq_false_of_ne h]
    · by_cases h : other = n
      · subst h
        simp [store, hn, Ne.symm hn]
      · simp [store, hn, List.lookup_cons, beq_false_of_ne h, ih]

/-- What is found after a value was stored under a name. -/
theorem find?_insert (b : Bindings) (name other : String) (value : Value) :
    (b.insert name value).find? other = if other = name then some value else b.find? other :=
  lookup_store name other value b.entries

/-- Bindings from entries, of which a later one replaces an earlier one of the
    same name. -/
def ofList (entries : List (String × Value)) : Bindings :=
  entries.foldl (fun b entry => b.insert entry.1 entry.2) empty

end Bindings

/-- One use of the outermost scope. -/
inductive Access where
  | read (name : String)
  | write (name : String) (value : Value)
deriving Inhabited

/-- Scopes, and the uses of the outermost one. -/
structure Variables where
  /-- The inner scopes, innermost first. -/
  locals : List Bindings
  /-- The outermost scope. -/
  globals : Bindings
  /-- The uses of the outermost scope, newest first. -/
  accesses : List Access
deriving Inhabited

namespace Variables

/-- The outermost scope alone, not yet used. -/
def ofGlobals (globals : Bindings) : Variables := ⟨[], globals, []⟩

/-- The value of a name in the innermost of some scopes that has one. -/
def localIn? (name : String) : List Bindings → Option Value
  | [] => none
  | scope :: scopes =>
    match scope.find? name with
    | some value => some value
    | none => localIn? name scopes

/-- What a name means. -/
def lookup? (vs : Variables) (name : String) : Option Value :=
  match localIn? name vs.locals with
  | some value => some value
  | none => vs.globals.find? name

/-- Whether some scope has a name. The scopes are asked from the inside out. -/
def isResolvable (vs : Variables) (name : String) : Bool :=
  vs.locals.any (·.contains name) || vs.globals.contains name

/-- The variables after a look-up, which is recorded if it gets as far as the
    outermost scope. -/
def afterRead (vs : Variables) (name : String) : Variables :=
  match localIn? name vs.locals with
  | some _ => vs
  | none => { vs with accesses := .read name :: vs.accesses }

/-- Looking up a name. -/
def resolve (vs : Variables) (name : String) : Option Value × Variables :=
  (vs.lookup? name, vs.afterRead name)

/-- Storing a value in the outermost scope. -/
def assignGlobal (vs : Variables) (name : String) (value : Value) : Variables :=
  { vs with
    globals := vs.globals.insert name value
    accesses := .write name value :: vs.accesses }

/-- The variables with one more inner scope. -/
def opened (scope : Bindings) (vs : Variables) : Variables :=
  { vs with locals := scope :: vs.locals }

/-- Storing a value under a name, given the inner scopes as a list of their
    own. A scope that does not have the name asks the scopes around it whether
    they do. -/
def assignIn (name : String) (value : Value) : List Bindings → Variables → Variables
  | [], vs => { vs with locals := [] }.assignGlobal name value
  | scope :: scopes, vs =>
    if scope.contains name then { vs with locals := scope.insert name value :: scopes }
    else
      let outer := { vs with locals := scopes }.afterRead name
      if (outer.lookup? name).isSome then (assignIn name value scopes outer).opened scope
      else outer.opened (scope.insert name value)

/-- Storing a value under a name. -/
def assign (vs : Variables) (name : String) (value : Value) : Variables :=
  assignIn name value vs.locals vs

/-- Opening an empty inner scope. -/
def push (vs : Variables) : Variables :=
  vs.opened .empty

/-- Leaving the innermost scope. -/
def pop (vs : Variables) : Variables :=
  { vs with locals := vs.locals.tail }

/-- Binding a name in the innermost scope, whatever the others have. -/
def declare (vs : Variables) (name : String) (value : Value) : Variables :=
  match vs.locals with
  | [] => vs.assignGlobal name value
  | scope :: scopes => { vs with locals := scope.insert name value :: scopes }

/-- The value of a name in the innermost inner scope. -/
def local? (vs : Variables) (name : String) : Option Value :=
  match vs.locals with
  | [] => none
  | scope :: _ => scope.find? name

end Variables

end Reckon
