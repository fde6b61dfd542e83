import Reckon.CommandLine.Options
import Reckon.Proofs.Contents

/-!
# Options Written as Arguments

What the evaluation command is asked to do can be written in many ways. Switches and
options may stand before the expression or behind it, a binding may be an argument of its
own behind `--set` or follow it behind an equals sign, and two words stand for the same
switch. A way of writing is a list of parts, each of which is one argument or two
(`Options.Part`), and the arguments are those of the parts one after the other.

Which part an argument belongs to is decided from left to right. The first argument of a
part tells what kind of part it is (`Options.Part.of_first`), and the argument behind `--set`
is never asked what it would mean by itself. So the parts can be told from the arguments
(`Options.Part.arguments_injective`), although an expression in a binding may look like an
option, and a name is divided from it by the first equals sign of several.

Reading the arguments is going through the parts, each of which says its own
(`Options.parseFrom_parts`). Parts say something about different options, unless they are
bindings, and these are kept in order. So the options do not depend on how the parts are
ordered otherwise (`Options.parse_arranged`).

## Main definitions

* `Options.Bindable`: A name and an expression that can be written as a binding.
* `Options.Part`: Arguments that belong together.
* `Options.Part.Readable`: A part that is read as what it is.
* `Options.Writable`: Options that can be written as arguments.
* `Options.Arranged`: A way of writing options, in any order.

## Theorems

* `Options.Part.of_first`: What the first argument of a part means.
* `Options.Part.arguments_injective`: Arguments have parts in one way only.
* `Options.parseFrom_parts`: Reading arguments is going through their parts.
* `Options.parse_arranged`: Options that are written as arguments are read back.
-/

namespace Reckon

namespace Text

theorem after?_append (start cs : List Char) : after? start (start ++ cs) = some cs := by
  unfold after?
  rw [if_pos (List.isPrefixOf_iff_prefix.mpr (List.prefix_append start cs)), List.drop_left]

theorem after?_eq_none {start cs : List Char} (h : ¬ start <+: cs) : after? start cs = none := by
  unfold after?
  exact if_neg fun hprefix => h (List.isPrefixOf_iff_prefix.mp hprefix)

end Text

namespace Options

/-- A name and an expression that can be written as a binding. -/
structure Bindable (b : String × String) : Prop where
  name_ne : b.1 ≠ ""
  trimmed : Text.Trimmed b.1.toList
  /-- The first equals sign is the one behind the name. -/
  undivided : '=' ∉ b.1.toList
  value : Text.allBlank b.2.toList = false

/-- Arguments that belong together. -/
inductive Part where
  | expr (text : String)
  | booleanMode
  | returnDecimal
  /-- A switch that has a short form. -/
  | compile (short : Bool)
  | rounding (mode : String)
  /-- A binding, in an argument of its own or not. -/
  | binding (apart : Bool) (name value : String)
deriving DecidableEq, Repr

namespace Part

/-- The arguments of a part. -/
def arguments : Part → List String
  | expr text => [text]
  | booleanMode => ["--bool"]
  | returnDecimal => ["--decimal"]
  | compile short => [if short then "-c" else "--compile"]
  | rounding mode => ["--rounding=" ++ mode]
  | binding true name value => ["--set", name ++ "=" ++ value]
  | binding false name value => ["--set=" ++ (name ++ "=" ++ value)]

/-- A part that is read as what it is. -/
def Readable : Part → Prop
  | expr text => text ≠ "-c" ∧ ¬ "--".toList <+: text.toList
  | rounding mode => (Rounding.ofName? mode).isSome
  | binding _ name value => Bindable (name, value)
  | booleanMode | returnDecimal | compile _ => True

/-- The expression that a part is. -/
def expr? : Part → Option String
  | expr text => some text
  | _ => none

/-- The rounding mode that a part asks for. -/
def mode? : Part → Option String
  | rounding mode => some mode
  | _ => none

/-- What a part binds to what. -/
def bound? : Part → Option (String × String)
  | binding _ name value => some (name, value)
  | _ => none

/-- Whether a part is the switch for results that are booleans. -/
def asksBoolean : Part → Bool
  | booleanMode => true
  | _ => false

/-- Whether a part is the switch for results that stay decimals. -/
def asksDecimal : Part → Bool
  | returnDecimal => true
  | _ => false

/-- Whether a part is the switch for compiling. -/
def asksCompiled : Part → Bool
  | compile _ => true
  | _ => false

/-- Options to which a part adds its own. -/
def add (o : Options) : Part → Options
  | expr _ => o
  | booleanMode => { o with booleanMode := true }
  | returnDecimal => { o with returnDecimal := true }
  | compile _ => { o with compile := true }
  | rounding mode => { o with rounding := some mode }
  | binding _ name value => o.bind (name, value)

/-- What the first argument of a part means. -/
def first : Part → Argument
  | expr _ => .plain
  | booleanMode => .booleanMode
  | returnDecimal => .returnDecimal
  | compile _ => .compile
  | rounding mode => .rounding mode
  | binding true _ _ => .set
  | binding false name value => .binding (name ++ "=" ++ value)

end Part

end Options

namespace Argument

/-- An argument that is no option. -/
theorem of_eq_plain {text : String} (hshort : text ≠ "-c") (h : ¬ "--".toList <+: text.toList) :
    of text = plain := by
  have hne {word : String} (hword : "--".toList <+: word.toList) : text ≠ word := by
    rintro rfl
    exact h hword
  have hnone {start : List Char} (hstart : "--".toList <+: start) :
      Text.after? start text.toList = none :=
    Text.after?_eq_none fun hprefix => h (hstart.trans hprefix)
  -- No named flag and no spelling with an equals sign can match a text that does
  -- not start with two dashes; only the short form of compile does not, and it is excluded.
  unfold of
  rw [if_neg (hne (by decide)), if_neg (hne (by decide)),
    if_neg (not_or.mpr ⟨hne (by decide), hshort⟩), hnone (by decide)]
  simp only
  rw [if_neg (hne (by decide)), hnone (by decide)]
  simp only
  rw [if_neg fun hprefix => h (List.isPrefixOf_iff_prefix.mp hprefix)]

/-- A word that does not start like an option is not the option, whatever comes behind. -/
theorem append_ne {start word : String} (h : ¬ start.toList <+: word.toList) (more : String) :
    start ++ more ≠ word := by
  rintro rfl
  rw [String.toList_append] at h
  exact h (List.prefix_append _ _)

theorem after?_start (start more : String) :
    Text.after? start.toList (start ++ more).toList = some more.toList := by
  rw [String.toList_append, Text.after?_append]

theorem of_rounding (mode : String) : of ("--rounding=" ++ mode) = rounding mode := by
  unfold of
  rw [if_neg (append_ne (by decide) mode), if_neg (append_ne (by decide) mode),
    if_neg (not_or.mpr ⟨append_ne (by decide) mode, append_ne (by decide) mode⟩), after?_start]
  simp only [String.ofList_toList]

theorem of_binding (text : String) : of ("--set=" ++ text) = binding text := by
  have hrounding : ¬ "--rounding=".toList <+: ("--set=" ++ text).toList := by
    rw [String.toList_append]
    simp
  unfold of
  rw [if_neg (append_ne (by decide) text), if_neg (append_ne (by decide) text),
    if_neg (not_or.mpr ⟨append_ne (by decide) text, append_ne (by decide) text⟩),
    Text.after?_eq_none hrounding]
  simp only
  rw [if_neg (append_ne (by decide) text), after?_start]
  simp only [String.ofList_toList]

end Argument

namespace Options

/-- A binding is divided by the equals sign behind its name. -/
theorem binding?_of_bindable {name value : String} (h : Bindable (name, value)) :
    binding? (name ++ "=" ++ value) = .ok (name, value) := by
  have hcut : Text.cutAt '=' (name ++ "=" ++ value).toList = (name.toList, some value.toList) := by
    rw [String.append_assoc, String.toList_append, String.toList_append]
    exact Text.cutAt_append h.undivided _
  have hname : name.toList.isEmpty = false := by
    simpa using h.name_ne
  unfold binding?
  rw [hcut]
  simp only [h.trimmed.trim_eq, hname, h.value, Bool.or_self, Bool.false_eq_true, if_false,
    String.ofList_toList]

namespace Part

/-- A part starts with an argument that tells what it is. -/
theorem of_first {p : Part} (h : p.Readable) :
    ∃ argument more, p.arguments = argument :: more ∧ Argument.of argument = p.first := by
  cases p with
  | expr text => exact ⟨text, [], rfl, Argument.of_eq_plain h.1 h.2⟩
  | booleanMode => exact ⟨_, [], rfl, by decide⟩
  | returnDecimal => exact ⟨_, [], rfl, by decide⟩
  | compile short => exact ⟨_, [], rfl, by cases short <;> decide⟩
  | rounding mode => exact ⟨_, [], rfl, Argument.of_rounding mode⟩
  | binding apart name value =>
      cases apart with
      | true => exact ⟨_, [_], rfl, show Argument.of "--set" = .set by decide⟩
      | false => exact ⟨_, [], rfl, Argument.of_binding _⟩

end Part

/-- Reading the arguments of a part. -/
theorem parseFrom_part {p : Part} (h : p.Readable) (o : Options) (expr : Option String)
    (rest : List String) :
    parseFrom o expr (p.arguments ++ rest) =
      match p.expr?, expr with
      | none, _ => parseFrom (p.add o) expr rest
      | some text, none => parseFrom o (some text) rest
      | some text, some _ => .error (.unexpectedArgument text) := by
  rcases Part.of_first h with ⟨argument, more, harguments, hfirst⟩
  rw [harguments, List.cons_append, parseFrom.eq_def]
  simp only [hfirst]
  -- The first argument fixes the part; what is left is one turn of the reader for each
  -- kind, and only a binding or a mode has to be checked before it is taken.
  cases p with
  | expr text =>
      cases harguments
      cases expr <;> rfl
  | booleanMode | returnDecimal | compile =>
      cases harguments
      rfl
  | rounding mode =>
      cases harguments
      have hmode : (Rounding.ofName? mode).isNone = false := by
        rw [Option.isNone_eq_false_iff]
        exact h
      simp only [Part.first, hmode, Bool.false_eq_true, if_false, Part.expr?, Part.add,
        List.nil_append]
  | binding apart name value =>
      have hbinding := binding?_of_bindable h
      cases apart with
      | true =>
          cases harguments
          simp only [Part.first, List.cons_append, List.nil_append, hbinding, Part.expr?, Part.add]
      | false =>
          cases harguments
          simp only [Part.first, List.nil_append, hbinding, Part.expr?, Part.add]

/-- Reading arguments is going through their parts. There has to be one expression. -/
theorem parseFrom_parts {parts : List Part} (h : ∀ p ∈ parts, p.Readable) (o : Options)
    (expr : Option String) :
    parseFrom o expr (parts.flatMap Part.arguments) =
      match expr.toList ++ parts.filterMap Part.expr? with
      | [] => .error .missingExpression
      | [text] => .ok { parts.foldl Part.add o with expr := text }
      | _ :: text :: _ => .error (.unexpectedArgument text) := by
  -- Options and the expression found so far are carried along the parts.
  induction parts generalizing o expr with
  | nil => cases expr <;> rfl
  | cons p parts ih =>
      have hlater : ∀ q ∈ parts, q.Readable := fun q hq => h q (List.mem_cons_of_mem p hq)
      rw [List.flatMap_cons, parseFrom_part (h p List.mem_cons_self)]
      cases p with
      | expr text =>
          cases expr with
          | none => exact ih hlater o (some text)
          -- A second expression ends the reading, whatever comes behind it.
          | some first => rfl
      | _ => exact ih hlater _ expr

/-- Options that can be written as arguments. -/
structure Writable (o : Options) : Prop where
  expr_ne : o.expr ≠ "-c"
  expr : ¬ "--".toList <+: o.expr.toList
  rounding : ∀ mode ∈ o.rounding, (Rounding.ofName? mode).isSome
  bindings : ∀ b ∈ o.bindings, Bindable b

/-- The parts of a way of writing options, in any order but for the bindings. -/
structure Arranged (o : Options) (parts : List Part) : Prop where
  expr : parts.filterMap Part.expr? = [o.expr]
  booleanMode : parts.countP Part.asksBoolean = o.booleanMode.toNat
  returnDecimal : parts.countP Part.asksDecimal = o.returnDecimal.toNat
  compile : parts.countP Part.asksCompiled = o.compile.toNat
  rounding : parts.filterMap Part.mode? = o.rounding.toList
  bindings : parts.filterMap Part.bound? = o.bindings

/-- The parts of options that can be written are read as what they are. -/
theorem Arranged.readable {o : Options} {parts : List Part} (h : o.Arranged parts)
    (ho : o.Writable) : ∀ p ∈ parts, p.Readable := by
  intro p hp
  -- Each part occurs in the list of its own kind, which the arrangement fixes.
  cases p with
  | expr text =>
      have hmem : text ∈ parts.filterMap Part.expr? := List.mem_filterMap.mpr ⟨_, hp, rfl⟩
      rw [h.expr, List.mem_singleton] at hmem
      subst hmem
      exact ⟨ho.expr_ne, ho.expr⟩
  | booleanMode | returnDecimal | compile => trivial
  | rounding mode =>
      have hmem : mode ∈ parts.filterMap Part.mode? := List.mem_filterMap.mpr ⟨_, hp, rfl⟩
      rw [h.rounding, Option.mem_toList] at hmem
      exact ho.rounding mode hmem
  | binding apart name value =>
      have hmem : (name, value) ∈ parts.filterMap Part.bound? :=
        List.mem_filterMap.mpr ⟨_, hp, rfl⟩
      rw [h.bindings] at hmem
      exact ho.bindings _ hmem

/-- What parts say together, option by option. The last rounding mode counts. -/
theorem foldl_add (parts : List Part) (o : Options) :
    parts.foldl Part.add o =
      { expr := o.expr
        booleanMode := o.booleanMode || parts.any Part.asksBoolean
        returnDecimal := o.returnDecimal || parts.any Part.asksDecimal
        rounding := (parts.filterMap Part.mode?).getLast?.or o.rounding
        bindings := o.bindings ++ parts.filterMap Part.bound?
        compile := o.compile || parts.any Part.asksCompiled } := by
  induction parts generalizing o with
  | nil => simp only [List.foldl_nil, List.any_nil, Bool.or_false, List.filterMap_nil,
      List.getLast?_nil, Option.none_or, List.append_nil]
  | cons p parts ih =>
      rw [List.foldl_cons, ih, List.any_cons, List.any_cons, List.any_cons, List.filterMap_cons,
        List.filterMap_cons]
      -- Every kind of part changes one field, and the others pass through.
      cases p <;> simp only [Part.add, Part.mode?, Part.bound?, Part.asksBoolean, Part.asksDecimal,
        Part.asksCompiled, bind, Bool.false_or, Bool.true_or, Bool.or_true, List.getLast?_cons,
        Option.some_or, Option.or_some, List.append_assoc, List.singleton_append]

/-- Whether something is there that is there once or not at all. -/
theorem any_of_countP {α : Type} {f : α → Bool} {as : List α} {b : Bool}
    (h : as.countP f = b.toNat) : as.any f = b := by
  rw [Bool.eq_iff_iff, List.any_eq_true, ← List.countP_pos_iff, h]
  cases b <;> decide

namespace Part

/-- The part whose binding is written as `text`. -/
def ofBinding? (apart : Bool) (text : String) : Option Part :=
  match Options.binding? text with
  | .ok (name, value) => some (binding apart name value)
  | .error _ => none

/-- The part that arguments start with. -/
def starting? : List String → Option Part
  | [] => none
  | argument :: rest =>
    match Argument.of argument with
    | .booleanMode => some booleanMode
    | .returnDecimal => some returnDecimal
    | .compile => some (compile (argument = "-c"))
    | .rounding mode => some (rounding mode)
    | .set => rest.head?.bind (ofBinding? true)
    | .binding text => ofBinding? false text
    | .unknown => none
    | .plain => some (expr argument)

theorem starting?_arguments {p : Part} (h : p.Readable) (rest : List String) :
    starting? (p.arguments ++ rest) = some p := by
  rcases of_first h with ⟨argument, more, harguments, hfirst⟩
  rw [harguments, List.cons_append, starting?]
  simp only [hfirst]
  cases p with
  | expr text =>
      cases harguments
      rfl
  | booleanMode | returnDecimal | rounding => rfl
  | compile short =>
      cases harguments
      -- Which of the two spellings was used is seen from the argument itself.
      have hshort : decide ((if short then "-c" else "--compile") = "-c") = short := by
        cases short <;> decide
      exact congrArg (fun short => some (compile short)) hshort
  | binding apart name value =>
      have hbinding : ofBinding? apart (name ++ "=" ++ value) =
          some (binding apart name value) := by
        rw [ofBinding?, binding?_of_bindable h]
      cases apart <;> cases harguments
      · exact hbinding
      · exact hbinding

/-- Arguments have parts in one way only. -/
theorem arguments_injective {parts parts' : List Part} (h : ∀ p ∈ parts, p.Readable)
    (h' : ∀ p ∈ parts', p.Readable) (heq : parts.flatMap arguments = parts'.flatMap arguments) :
    parts = parts' := by
  have hstart {p : Part} (hp : p.Readable) (ps : List Part) :
      starting? ((p :: ps).flatMap arguments) = some p :=
    starting?_arguments hp _
  -- Both lists start with the part that the arguments start with, so that part can be
  -- taken off the arguments on both sides.
  induction parts generalizing parts' with
  | nil =>
      cases parts' with
      | nil => rfl
      | cons q qs =>
          have hq := hstart (h' q List.mem_cons_self) qs
          rw [← heq] at hq
          cases hq
  | cons p ps ih =>
      have hp := hstart (h p List.mem_cons_self) ps
      cases parts' with
      | nil =>
          rw [heq] at hp
          cases hp
      | cons q qs =>
          rw [heq, hstart (h' q List.mem_cons_self) qs] at hp
          cases hp
          have hrest := List.append_cancel_left heq
          rw [ih (fun r hr => h r (List.mem_cons_of_mem _ hr))
            (fun r hr => h' r (List.mem_cons_of_mem _ hr)) hrest]

end Part

/-- Options that are written as arguments, in whatever order, are read back, and there is no
    other way of reading the arguments. -/
theorem parse_arranged (o : Options) (ho : o.Writable) (parts : List Part)
    (h : o.Arranged parts) :
    parse (parts.flatMap Part.arguments) = .ok o ∧
      ∀ parts', (∀ p ∈ parts', p.Readable) →
        parts'.flatMap Part.arguments = parts.flatMap Part.arguments → parts' = parts := by
  refine ⟨?_, fun parts' h' heq => Part.arguments_injective h' (h.readable ho) heq⟩
  rw [parse, parseFrom_parts (h.readable ho), foldl_add, Option.toList_none, List.nil_append,
    h.expr, any_of_countP h.booleanMode, any_of_countP h.returnDecimal, any_of_countP h.compile,
    h.rounding, h.bindings]
  cases o with
  | mk expr booleanMode returnDecimal rounding bindings compile =>
      cases rounding <;> simp

/-- Between the parts of this command line there are an expression that looks like an option,
    and one with an equals sign in it. -/
theorem parse_arranged_options :
    let o : Options :=
      { expr := "a > 1", booleanMode := true, rounding := some "half_up",
        bindings := [("a", "--set"), ("b", " 'x' == c")], compile := true }
    let parts : List Part :=
      [.booleanMode, .expr "a > 1", .binding true "a" "--set", .compile true,
        .binding false "b" " 'x' == c", .rounding "half_up"]
    o.Writable ∧ o.Arranged parts ∧
      parse ["--bool", "a > 1", "--set", "a=--set", "-c", "--set=b= 'x' == c",
        "--rounding=half_up"] = .ok o := by
  intro o parts
  have htrimmed {c : Char} (hc : Text.isBlank c = false) : Text.Trimmed [c] :=
    ⟨fun _ hd => Option.some.inj hd ▸ hc, fun _ hd => Option.some.inj hd ▸ hc⟩
  have ho : o.Writable := by
    refine ⟨by decide, by decide, by decide, fun b hb => ?_⟩
    rcases List.mem_pair.mp hb with rfl | rfl
    · exact ⟨by decide, htrimmed (c := 'a') (by decide), by decide, by decide⟩
    · exact ⟨by decide, htrimmed (c := 'b') (by decide), by decide, by decide⟩
  have hparts : o.Arranged parts := ⟨rfl, rfl, rfl, rfl, rfl, rfl⟩
  exact ⟨ho, hparts, (parse_arranged o ho parts hparts).1⟩

end Options

end Reckon
