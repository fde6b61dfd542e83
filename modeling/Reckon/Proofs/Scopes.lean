import Mathlib.Data.Nat.Find
import Reckon.Variables

/-!
# Scopes inside Scopes

Variables are a chain of scopes, of which any number may be open. Every question about
a name is settled by one of them: the innermost scope that has the name
(`Scopes.HeldAt`). That scope says what the name means and is the one that an
assignment changes; only a name that no scope has is bound in the innermost scope of
all (`Scopes.store`).

What is done between opening a scope and leaving it therefore reaches the scopes around
it through assignments only, and of these only through the ones whose name is held
outside and not inside. They are listed by `Variables.outward`. Leaving the scope gives
back the scopes around it as they were found, with these assignments made in order
(`Variables.restored_of_block`): what was shadowed means again what it meant.

## Main definitions

* `Variables.scopes`: All scopes, innermost first.
* `Scopes.binding?`: What a scope has for a name.
* `Scopes.HeldAt`, `Scopes.Free`: Which scope a name belongs to.
* `Scopes.store`: Storing a value under a name.
* `Scopes.Confined`: Scopes in which nothing but values has changed.
* `Scopes.Written`: Values stored under names that some scope has.
* `Variables.Change`: What can be done to scopes.
* `Variables.Block`: What can be done between opening a scope and leaving it.
* `Variables.outward`: The assignments that reach the scopes around.
* `Variables.Lawful`: The laws of scopes.

## Theorems

* `Scopes.drop_store`: What storing a value does to the outer ones of some scopes.
* `Variables.lookup?_eq_binding?`: What a name means.
* `Variables.scopes_assign`: An assignment changes one binding of one scope.
* `Variables.restored_of_block`: What leaving a scope gives back.
* `Variables.lawful_performAll`: The laws hold after any sequence of changes.
-/

namespace Reckon

namespace Bindings

variable {b : Bindings} {name : String}

theorem find?_eq_none_iff : b.find? name = none ↔ b.contains name = false := by
  rw [contains, Option.isSome_eq_false_iff, Option.isNone_iff_eq_none]

end Bindings

/-- Scopes, the innermost first. -/
abbrev Scopes := List Bindings

namespace Scopes

variable {ss : Scopes} {name : String} {i : Nat}

/-- What scope `i` has for a name, where scope 0 is the innermost one. -/
def binding? (ss : Scopes) (i : Nat) (name : String) : Option Value :=
  ss[i]?.bind (·.find? name)

/-- Scope `i` is the innermost one that has a name. -/
structure HeldAt (ss : Scopes) (name : String) (i : Nat) : Prop where
  holds : binding? ss i name ≠ none
  inner : ∀ j < i, binding? ss j name = none

/-- No scope has a name. -/
def Free (ss : Scopes) (name : String) : Prop := ∀ i, binding? ss i name = none

/-- The innermost scope that has a name. -/
def holder? (name : String) (ss : Scopes) : Option Nat :=
  ss.findIdx? (·.contains name)

/-- Storing a value under a name: in the innermost scope that has the name, or else in
    the innermost scope of all. -/
def store (name : String) (value : Value) (ss : Scopes) : Scopes :=
  ss.modify ((holder? name ss).getD 0) (·.insert name value)

theorem binding?_cons_zero (b : Bindings) (ss : Scopes) (name : String) :
    binding? (b :: ss) 0 name = b.find? name := rfl

theorem binding?_drop (k : Nat) (ss : Scopes) (i : Nat) (name : String) :
    binding? (ss.drop k) i name = binding? ss (k + i) name := by
  rw [binding?, List.getElem?_drop, binding?]

/-- A scope that has something for a name is one of the scopes. -/
theorem lt_length_of_binding? (h : binding? ss i name ≠ none) : i < ss.length := by
  by_contra hlen
  rw [binding?, List.getElem?_eq_none (Nat.le_of_not_lt hlen)] at h
  exact h rfl

/-- A name belongs to one scope, or to none. -/
theorem heldAt_or_free (ss : Scopes) (name : String) : (∃ i, HeldAt ss name i) ∨ Free ss name := by
  by_cases h : ∃ i, binding? ss i name ≠ none
  · -- Of the scopes that have the name, the one found first is the innermost.
    classical
    refine Or.inl ⟨Nat.find h, Nat.find_spec h, fun j hj => ?_⟩
    exact not_not.mp (Nat.find_min h hj)
  · exact Or.inr fun i => not_not.mp fun hi => h ⟨i, hi⟩

theorem HeldAt.unique {j : Nat} (hi : HeldAt ss name i) (hj : HeldAt ss name j) : i = j := by
  rcases Nat.lt_trichotomy i j with hlt | heq | hlt
  · exact absurd (hj.inner i hlt) hi.holds
  · exact heq
  · exact absurd (hi.inner j hlt) hj.holds

theorem holder?_cons (name : String) (b : Bindings) (ss : Scopes) :
    holder? name (b :: ss) =
      if b.contains name then some 0 else (holder? name ss).map (· + 1) := by
  rw [holder?, List.findIdx?_cons]
  rfl

/-- The innermost scope that has a name is found. -/
theorem holder?_eq_some_iff : holder? name ss = some i ↔ HeldAt ss name i := by
  -- The innermost scope is looked at first; places further out move by one.
  induction ss generalizing i with
  | nil =>
      constructor
      · intro h
        cases h
      · intro h
        exact absurd rfl h.holds
  | cons b ss ih =>
      rw [holder?_cons]
      by_cases hb : b.contains name = true
      · have hfound : binding? (b :: ss) 0 name ≠ none := by
          intro hnone
          rw [binding?_cons_zero, Bindings.find?_eq_none_iff, hb] at hnone
          cases hnone
        have hzero : HeldAt (b :: ss) name 0 := ⟨hfound, fun j hj => absurd hj (Nat.not_lt_zero j)⟩
        rw [if_pos hb, Option.some.injEq]
        exact ⟨fun h => h ▸ hzero, fun h => hzero.unique h⟩
      · have hnone : binding? (b :: ss) 0 name = none := by
          rw [binding?_cons_zero, Bindings.find?_eq_none_iff, Bool.eq_false_iff]
          exact hb
        rw [if_neg hb, Option.map_eq_some_iff]
        constructor
        · rintro ⟨j, hj, rfl⟩
          rcases ih.mp hj with ⟨hholds, hinner⟩
          refine ⟨hholds, fun k hk => ?_⟩
          cases k with
          | zero => exact hnone
          | succ k => exact hinner k (by omega)
        · intro h
          cases i with
          | zero => exact absurd hnone h.holds
          | succ i =>
              exact ⟨i, ih.mpr ⟨h.holds, fun k hk => h.inner (k + 1) (by omega)⟩, rfl⟩

theorem holder?_eq_none_iff : holder? name ss = none ↔ Free ss name := by
  rcases heldAt_or_free ss name with ⟨i, hi⟩ | hfree
  · rw [holder?_eq_some_iff.mpr hi]
    constructor
    · intro h
      cases h
    · intro h
      exact absurd (h i) hi.holds
  · refine ⟨fun _ => hfree, fun _ => ?_⟩
    cases hholder : holder? name ss with
    | none => rfl
    | some i => exact absurd (hfree i) (holder?_eq_some_iff.mp hholder).holds

/-- What the scopes have for a name after a value was stored in one of them. -/
theorem binding?_modify (ss : Scopes) (i : Nat) (hi : i < ss.length) (name : String)
    (value : Value) (j : Nat) (other : String) :
    binding? (ss.modify i (·.insert name value)) j other =
      if j = i ∧ other = name then some value else binding? ss j other := by
  unfold binding?
  rw [List.getElem?_modify]
  by_cases hij : i = j
  · subst hij
    rw [List.getElem?_eq_getElem hi]
    simp only [Option.map_eq_map, Option.map_some, Option.bind_some, if_true, true_and]
    exact Bindings.find?_insert _ _ _ _
  · rw [if_neg fun h => hij h.1.symm]
    simp only [hij, if_false, Option.map_eq_map, Option.map_id']

theorem length_store (name : String) (value : Value) (ss : Scopes) :
    (store name value ss).length = ss.length := by
  rw [store, List.length_modify]

/-- Storing a value under a name changes one binding: that of the scope to which the
    name belongs. -/
theorem binding?_store_of_heldAt (h : HeldAt ss name i) (value : Value) (j : Nat)
    (other : String) :
    binding? (store name value ss) j other =
      if j = i ∧ other = name then some value else binding? ss j other := by
  rw [store, holder?_eq_some_iff.mpr h]
  exact binding?_modify ss i (lt_length_of_binding? h.holds) name value j other

/-- If the name belongs to no scope, the innermost one gets a new binding. -/
theorem binding?_store_of_free (h : Free ss name) (hne : ss ≠ []) (value : Value) (j : Nat)
    (other : String) :
    binding? (store name value ss) j other =
      if j = 0 ∧ other = name then some value else binding? ss j other := by
  rw [store, holder?_eq_none_iff.mpr h]
  exact binding?_modify ss 0 (List.length_pos_iff.mpr hne) name value j other

/-- Storing a value changes one binding: in the scope to which the name belongs, or else
    in the innermost scope of all. -/
theorem exists_store (hne : ss ≠ []) (name : String) (value : Value) :
    ∃ i, (HeldAt ss name i ∨ Free ss name ∧ i = 0) ∧
      ∀ j other, binding? (store name value ss) j other =
        if j = i ∧ other = name then some value else binding? ss j other := by
  rcases heldAt_or_free ss name with ⟨i, hi⟩ | hfree
  · exact ⟨i, Or.inl hi, binding?_store_of_heldAt hi value⟩
  · exact ⟨0, Or.inr ⟨hfree, rfl⟩, binding?_store_of_free hfree hne value⟩

/-- The name belongs to the scope in which the value was stored. -/
theorem exists_heldAt_store (hne : ss ≠ []) (name : String) (value : Value) :
    ∃ i, HeldAt (store name value ss) name i ∧
      binding? (store name value ss) i name = some value := by
  rcases exists_store hne name value with ⟨i, hi, hbinding⟩
  have hvalue : binding? (store name value ss) i name = some value := by
    rw [hbinding, if_pos ⟨rfl, rfl⟩]
  refine ⟨i, ⟨by rw [hvalue]; exact Option.some_ne_none value, fun j hj => ?_⟩, hvalue⟩
  rw [hbinding, if_neg fun h => absurd h.1 (Nat.ne_of_lt hj)]
  rcases hi with hi | ⟨hfree, rfl⟩
  · exact hi.inner j hj
  · exact absurd hj (Nat.not_lt_zero j)

theorem binding?_store_of_ne {other : String} (hne : ss ≠ []) (h : other ≠ name) (value : Value)
    (j : Nat) : binding? (store name value ss) j other = binding? ss j other := by
  rcases exists_store hne name value with ⟨i, _, hbinding⟩
  rw [hbinding, if_neg fun heq => h heq.2]

/-- Whether a name belongs to one of the scopes from scope `k` outward. -/
def heldFrom (k : Nat) (name : String) (ss : Scopes) : Bool :=
  (holder? name ss).any (k ≤ ·)

theorem heldFrom_eq_true_iff {k : Nat} :
    heldFrom k name ss = true ↔ ∃ i, k ≤ i ∧ HeldAt ss name i := by
  rw [heldFrom, Option.any_eq_true]
  constructor
  · rintro ⟨i, hi, hk⟩
    exact ⟨i, of_decide_eq_true hk, holder?_eq_some_iff.mp hi⟩
  · rintro ⟨i, hk, hi⟩
    exact ⟨i, holder?_eq_some_iff.mpr hi, decide_eq_true hk⟩

theorem HeldAt.drop {k : Nat} (h : HeldAt ss name i) (hk : k ≤ i) :
    HeldAt (ss.drop k) name (i - k) := by
  refine ⟨?_, fun j hj => ?_⟩
  · rw [binding?_drop, Nat.add_sub_cancel' hk]
    exact h.holds
  · rw [binding?_drop]
    exact h.inner (k + j) (by omega)

/-- What is stored reaches the scopes from scope `k` outward only if the name belongs to
    one of them, and then it is stored there as it would be without the others. -/
theorem drop_store {k : Nat} (hk : 0 < k) (name : String) (value : Value) (ss : Scopes) :
    (store name value ss).drop k =
      if heldFrom k name ss then store name value (ss.drop k) else ss.drop k := by
  rcases heldAt_or_free ss name with ⟨i, hi⟩ | hfree
  · have hholder := holder?_eq_some_iff.mpr hi
    simp only [store, heldFrom, hholder, Option.getD_some, Option.any_some, decide_eq_true_eq]
    by_cases hki : k ≤ i
    · rw [if_pos hki, holder?_eq_some_iff.mpr (hi.drop hki), Option.getD_some]
      refine List.ext_getElem? fun j => ?_
      rw [List.getElem?_drop, List.getElem?_modify, List.getElem?_modify, List.getElem?_drop]
      have hiff : i = k + j ↔ i - k = j := by omega
      simp only [hiff]
    · -- The name belongs to a scope further inside.
      rw [if_neg hki]
      refine List.ext_getElem? fun j => ?_
      rw [List.getElem?_drop, List.getElem?_modify, List.getElem?_drop]
      simp only [show i ≠ k + j by omega, if_false, Option.map_eq_map, Option.map_id']
  · -- The new binding is in the innermost scope, which is not one of these.
    rw [store, heldFrom, holder?_eq_none_iff.mpr hfree]
    simp only [Option.getD_none, Option.any_none, Bool.false_eq_true, if_false]
    refine List.ext_getElem? fun j => ?_
    rw [List.getElem?_drop, List.getElem?_modify, List.getElem?_drop]
    simp only [show 0 ≠ k + j by omega, if_false, Option.map_eq_map, Option.map_id']

/-- Scopes of which nothing but the values of some names has changed. -/
structure Confined (names : String → Prop) (ss ss' : Scopes) : Prop where
  length_eq : ss'.length = ss.length
  isSome_eq : ∀ i name, (binding? ss' i name).isSome = (binding? ss i name).isSome
  kept : ∀ i name, ¬ names name → binding? ss' i name = binding? ss i name

section Confined

variable {names : String → Prop} {ss' ss'' : Scopes}

theorem confined_refl (names : String → Prop) (ss : Scopes) : Confined names ss ss :=
  ⟨rfl, fun _ _ => rfl, fun _ _ _ => rfl⟩

theorem Confined.trans (h : Confined names ss ss') (h' : Confined names ss' ss'') :
    Confined names ss ss'' := by
  refine ⟨h'.length_eq.trans h.length_eq, fun i name => ?_, fun i name hname => ?_⟩
  · exact (h'.isSome_eq i name).trans (h.isSome_eq i name)
  · exact (h'.kept i name hname).trans (h.kept i name hname)

/-- Storing a value under a name that a scope has changes only the value of the name. -/
theorem HeldAt.confined_store (h : HeldAt ss name i) (hname : names name) (value : Value) :
    Confined names ss (store name value ss) := by
  refine ⟨length_store name value ss, fun j other => ?_, fun j other hother => ?_⟩
  · rw [binding?_store_of_heldAt h]
    by_cases hj : j = i ∧ other = name
    · obtain ⟨rfl, rfl⟩ := hj
      rw [if_pos ⟨rfl, rfl⟩, Option.isSome_some, eq_comm, Option.isSome_iff_ne_none]
      exact h.holds
    · rw [if_neg hj]
  · rw [binding?_store_of_heldAt h, if_neg]
    rintro ⟨rfl, rfl⟩
    exact hother hname

/-- The same names belong to scopes of which only values have changed. -/
theorem Confined.free_iff (h : Confined names ss ss') : Free ss' name ↔ Free ss name := by
  have hnone : ∀ i, binding? ss' i name = none ↔ binding? ss i name = none := by
    intro i
    rw [← Option.isNone_iff_eq_none, ← Option.isNone_iff_eq_none, ← Option.not_isSome,
      ← Option.not_isSome, h.isSome_eq]
  exact forall_congr' hnone

end Confined

/-- Values stored one after the other, each under a name that some scope has. -/
inductive Written : Scopes → List (String × Value) → Scopes → Prop
  | nil (ss : Scopes) : Written ss [] ss
  | cons {ss ss' : Scopes} {name : String} {i : Nat} (value : Value)
      {writes : List (String × Value)} :
      HeldAt ss name i → Written (store name value ss) writes ss' →
      Written ss ((name, value) :: writes) ss'

section Written

variable {ss' ss'' : Scopes} {writes more : List (String × Value)}

theorem Written.append (h : Written ss writes ss') (h' : Written ss' more ss'') :
    Written ss (writes ++ more) ss'' := by
  induction h with
  | nil => exact h'
  | cons value hi _ ih => exact .cons value hi (ih h')

theorem Written.confined {names : String → Prop} (h : Written ss writes ss')
    (hnames : ∀ name value, (name, value) ∈ writes → names name) : Confined names ss ss' := by
  induction h with
  | nil => exact confined_refl names _
  | cons value hi _ ih =>
      have hfirst := hi.confined_store (hnames _ value List.mem_cons_self) value
      exact hfirst.trans (ih fun name v hmem => hnames name v (List.mem_cons_of_mem _ hmem))

theorem Written.not_free (h : Written ss writes ss') {value : Value}
    (hmem : (name, value) ∈ writes) : ¬ Free ss name := by
  intro hfree
  induction h with
  | nil => cases hmem
  | @cons ss ss' other i v writes hi _ ih =>
      rcases List.mem_cons.mp hmem with heq | hmem
      · cases heq
        exact hi.holds (hfree i)
      · -- Storing a value has not bound the name anywhere.
        have hconfined : Confined (fun _ => True) ss (store other v ss) :=
          hi.confined_store trivial v
        exact ih hmem (hconfined.free_iff.mpr hfree)

end Written

end Scopes

namespace Variables

variable {vs : Variables} {name : String}

/-- All scopes, the innermost first and the outermost last. -/
def scopes (vs : Variables) : Scopes := vs.locals ++ [vs.globals]

theorem scopes_ne_nil (vs : Variables) : vs.scopes ≠ [] :=
  List.append_ne_nil_of_right_ne_nil _ (List.cons_ne_nil _ _)

theorem length_scopes (vs : Variables) : vs.scopes.length = vs.locals.length + 1 := by
  rw [scopes, List.length_append, List.length_singleton]

theorem scopes_opened (scope : Bindings) (vs : Variables) :
    (vs.opened scope).scopes = scope :: vs.scopes := rfl

theorem scopes_afterRead (vs : Variables) (name : String) :
    (vs.afterRead name).scopes = vs.scopes := by
  unfold afterRead
  split <;> rfl

/-- A name means what the scope to which it belongs has for it. -/
theorem lookup?_eq_binding? (vs : Variables) (name : String) :
    vs.lookup? name =
      (Scopes.holder? name vs.scopes).bind fun i => Scopes.binding? vs.scopes i name := by
  obtain ⟨locals, globals, accesses⟩ := vs
  unfold lookup? scopes
  simp only
  -- Local scopes are tried one after another, and the globals stand behind the last one.
  induction locals with
  | nil =>
      rw [List.nil_append, Scopes.holder?_cons, localIn?]
      by_cases hglobal : globals.contains name = true
      · rw [if_pos hglobal, Option.bind_some, Scopes.binding?_cons_zero]
      · rw [if_neg hglobal]
        exact Bindings.find?_eq_none_iff.mpr (Bool.eq_false_iff.mpr hglobal)
  | cons scope locals ih =>
      rw [List.cons_append, Scopes.holder?_cons, localIn?]
      by_cases hscope : scope.contains name = true
      · rw [if_pos hscope, Option.bind_some, Scopes.binding?_cons_zero]
        obtain ⟨value, hvalue⟩ := Option.isSome_iff_exists.mp hscope
        rw [hvalue]
      · have hnone := Bindings.find?_eq_none_iff.mpr (Bool.eq_false_iff.mpr hscope)
        rw [if_neg hscope, hnone, Option.bind_map]
        exact ih

theorem lookup?_of_heldAt {i : Nat} (h : vs.scopes.HeldAt name i) :
    vs.lookup? name = vs.scopes.binding? i name := by
  rw [lookup?_eq_binding?, Scopes.holder?_eq_some_iff.mpr h, Option.bind_some]

theorem lookup?_of_free (h : vs.scopes.Free name) : vs.lookup? name = none := by
  rw [lookup?_eq_binding?, Scopes.holder?_eq_none_iff.mpr h, Option.bind_none]

theorem lookup?_eq_none_iff : vs.lookup? name = none ↔ vs.scopes.Free name := by
  constructor
  · intro h
    rcases vs.scopes.heldAt_or_free name with ⟨i, hi⟩ | hfree
    · rw [lookup?_of_heldAt hi] at h
      exact absurd h hi.holds
    · exact hfree
  · exact lookup?_of_free

/-- Some scope has a name if and only if the name means anything. -/
theorem isResolvable_eq (vs : Variables) (name : String) :
    vs.isResolvable name = (vs.lookup? name).isSome := by
  obtain ⟨locals, globals, accesses⟩ := vs
  unfold isResolvable lookup?
  simp only
  induction locals with
  | nil => rfl
  | cons scope locals ih =>
      rw [List.any_cons, localIn?, Bool.or_assoc, ih, Bindings.contains]
      cases scope.find? name <;> rfl

theorem scopes_assignIn (name : String) (value : Value) (locals : List Bindings)
    (vs : Variables) :
    (assignIn name value locals vs).scopes = Scopes.store name value (locals ++ [vs.globals]) := by
  -- The scopes are asked from the inside out, and each asks those around it first.
  induction locals generalizing vs with
  | nil =>
      rw [List.nil_append, Scopes.store, Scopes.holder?_cons]
      by_cases hglobal : vs.globals.contains name = true
      · rw [if_pos hglobal]
        rfl
      · rw [if_neg hglobal]
        rfl
  | cons scope locals ih =>
      rw [assignIn, List.cons_append, Scopes.store, Scopes.holder?_cons]
      by_cases hscope : scope.contains name = true
      · rw [if_pos hscope, if_pos hscope]
        rfl
      · rw [if_neg hscope, if_neg hscope]
        generalize houter : ({ vs with locals := locals } : Variables).afterRead name = outer
        have hscopes : outer.scopes = locals ++ [vs.globals] := by
          rw [← houter, scopes_afterRead]
          rfl
        have hglobals : outer.globals = vs.globals := by
          have hlast := congrArg List.getLast? hscopes
          simpa only [scopes, List.getLast?_concat, Option.some.injEq] using hlast
        rw [← hscopes]
        rcases outer.scopes.heldAt_or_free name with ⟨i, hi⟩ | hfree
        · have hsome : (outer.lookup? name).isSome = true := by
            rw [Option.isSome_iff_ne_none, lookup?_of_heldAt hi]
            exact hi.holds
          rw [if_pos hsome, scopes_opened, ih, hglobals, ← hscopes, Scopes.store,
            Scopes.holder?_eq_some_iff.mpr hi]
          rfl
        · have hnone : ¬ (outer.lookup? name).isSome = true := by
            rw [lookup?_of_free hfree]
            exact Bool.false_ne_true
          rw [if_neg hnone, scopes_opened, Scopes.holder?_eq_none_iff.mpr hfree]
          rfl

/-- An assignment changes one binding of one scope. -/
theorem scopes_assign (vs : Variables) (name : String) (value : Value) :
    (vs.assign name value).scopes = Scopes.store name value vs.scopes :=
  scopes_assignIn name value vs.locals vs

/-- A name means the same where all scopes have the same for it. -/
theorem lookup?_congr {vs' : Variables}
    (h : ∀ i, vs'.scopes.binding? i name = vs.scopes.binding? i name) :
    vs'.lookup? name = vs.lookup? name := by
  rcases vs.scopes.heldAt_or_free name with ⟨i, hi⟩ | hfree
  · have hi' : vs'.scopes.HeldAt name i :=
      ⟨by rw [h]; exact hi.holds, fun j hj => (h j).trans (hi.inner j hj)⟩
    rw [lookup?_of_heldAt hi, lookup?_of_heldAt hi', h]
  · have hfree' : vs'.scopes.Free name := fun i => (h i).trans (hfree i)
    rw [lookup?_of_free hfree, lookup?_of_free hfree']

/-- What a name means after a value was stored. -/
theorem lookup?_assign (vs : Variables) (name other : String) (value : Value) :
    (vs.assign name value).lookup? other =
      if other = name then some value else vs.lookup? other := by
  by_cases h : other = name
  · subst h
    rcases Scopes.exists_heldAt_store vs.scopes_ne_nil other value with ⟨i, hi, hvalue⟩
    rw [← scopes_assign] at hi hvalue
    rw [if_pos rfl, lookup?_of_heldAt hi, hvalue]
  · rw [if_neg h]
    refine lookup?_congr fun i => ?_
    rw [scopes_assign]
    exact Scopes.binding?_store_of_ne vs.scopes_ne_nil h value i

theorem scopes_push (vs : Variables) : vs.push.scopes = .empty :: vs.scopes := rfl

theorem scopes_pop (h : 1 < vs.scopes.length) : vs.pop.scopes = vs.scopes.drop 1 := by
  obtain ⟨locals, globals, accesses⟩ := vs
  cases locals with
  | nil => exact absurd h (Nat.lt_irrefl 1)
  | cons scope locals => rfl

theorem scopes_declare (vs : Variables) (name : String) (value : Value) :
    (vs.declare name value).scopes = vs.scopes.modify 0 (·.insert name value) := by
  obtain ⟨locals, globals, accesses⟩ := vs
  cases locals with
  | nil => rfl
  | cons scope locals => rfl

/-- What can be done to scopes. -/
inductive Change where
  | declare (name : String) (value : Value)
  | assign (name : String) (value : Value)
  | push
  | pop

/-- The scopes after a change. -/
def perform (vs : Variables) : Change → Variables
  | .declare name value => vs.declare name value
  | .assign name value => vs.assign name value
  | .push => vs.push
  | .pop => vs.pop

/-- The scopes after some changes, one after the other. -/
def performAll (vs : Variables) (changes : List Change) : Variables :=
  changes.foldl perform vs

theorem performAll_cons (vs : Variables) (change : Change) (changes : List Change) :
    vs.performAll (change :: changes) = (vs.perform change).performAll changes := rfl

theorem performAll_append (vs : Variables) (changes more : List Change) :
    vs.performAll (changes ++ more) = (vs.performAll changes).performAll more :=
  List.foldl_append

/-- What can be done between opening a scope and leaving it. The scopes that are opened
    in between are left in between. -/
inductive Block : List Change → Prop
  | nil : Block []
  | declare (name : String) (value : Value) {changes : List Change} :
      Block changes → Block (.declare name value :: changes)
  | assign (name : String) (value : Value) {changes : List Change} :
      Block changes → Block (.assign name value :: changes)
  | scope {inner changes : List Change} :
      Block inner → Block changes → Block (.push :: (inner ++ .pop :: changes))

/-- The assignments that reach the `n` outermost scopes, oldest first: those whose name
    belongs to one of them when they are made. -/
def outward (n : Nat) : Variables → List Change → List (String × Value)
  | _, [] => []
  | vs, .assign name value :: changes =>
    if vs.scopes.heldFrom (vs.scopes.length - n) name then
      (name, value) :: outward n (vs.assign name value) changes
    else outward n (vs.assign name value) changes
  | vs, change :: changes => outward n (vs.perform change) changes

theorem outward_append (n : Nat) (vs : Variables) (changes more : List Change) :
    outward n vs (changes ++ more) =
      outward n vs changes ++ outward n (vs.performAll changes) more := by
  -- Only an assignment is recorded, and whether it goes outwards depends on the variables
  -- before it.
  induction changes generalizing vs with
  | nil => rfl
  | cons change changes ih =>
      cases change with
      | assign name value =>
          rw [List.cons_append, outward, outward, ih, performAll_cons, perform]
          split <;> rfl
      | declare | push | pop =>
          rw [List.cons_append, outward, outward, ih]
          · rfl
          · exact fun _ _ => Change.noConfusion
          · exact fun _ _ => Change.noConfusion

/-- Values stored under names, one after the other. -/
def assignAll (vs : Variables) (writes : List (String × Value)) : Variables :=
  writes.foldl (fun vs write => vs.assign write.1 write.2) vs

theorem assignAll_cons (vs : Variables) (write : String × Value) (writes : List (String × Value)) :
    vs.assignAll (write :: writes) = (vs.assign write.1 write.2).assignAll writes := rfl

theorem scopes_assignAll {ss : Scopes} {writes : List (String × Value)}
    (h : Scopes.Written vs.scopes writes ss) : (vs.assignAll writes).scopes = ss := by
  generalize hscopes : vs.scopes = scopes at h
  induction h generalizing vs with
  | nil => exact hscopes
  | cons value _ _ ih =>
      rw [assignAll_cons]
      refine ih ?_
      rw [scopes_assign, hscopes]

/-- A name means what was stored under it last. -/
theorem lookup?_assignAll (vs : Variables) (writes : List (String × Value)) (name : String) :
    (vs.assignAll writes).lookup? name = (writes.reverse.lookup name).or (vs.lookup? name) := by
  -- Of several writes to one name the last one counts, hence the reversed list.
  induction writes generalizing vs with
  | nil => rfl
  | cons write writes ih =>
      rw [assignAll_cons, ih, lookup?_assign, List.reverse_cons, List.lookup_append]
      cases writes.reverse.lookup name with
      | some value => rfl
      | none =>
          rw [Option.none_or, Option.none_or, List.lookup_cons, List.lookup_nil]
          by_cases h : name = write.1
          · rw [if_pos h, h, beq_self_eq_true]
            rfl
          · rw [if_neg h, beq_false_of_ne h]
            rfl

/-- Between opening a scope and leaving it, nothing but assignments reaches the scopes
    around it. -/
theorem written_of_block {changes : List Change} (hblock : Block changes) {k n : Nat} (hk : 0 < k)
    (hlen : vs.scopes.length = k + n) :
    (vs.performAll changes).scopes.length = k + n ∧
      Scopes.Written (vs.scopes.drop k) (outward n vs changes)
        ((vs.performAll changes).scopes.drop k) := by
  induction hblock generalizing vs k with
  | nil => exact ⟨hlen, .nil _⟩
  | declare name value _ ih =>
      have hscopes := vs.scopes_declare name value
      have hdrop : (vs.declare name value).scopes.drop k = vs.scopes.drop k := by
        rw [hscopes, List.drop_modify_of_lt _ _ _ _ hk]
      have hlen' : (vs.declare name value).scopes.length = k + n := by
        rw [hscopes, List.length_modify, hlen]
      have hrest := ih hk hlen'
      rwa [hdrop] at hrest
  | assign name value _ ih =>
      have hscopes := vs.scopes_assign name value
      have hdrop := Scopes.drop_store hk name value vs.scopes
      have hlen' : (vs.assign name value).scopes.length = k + n := by
        rw [hscopes, Scopes.length_store, hlen]
      have hrest := ih hk hlen'
      rw [← hscopes] at hdrop
      refine ⟨hrest.1, ?_⟩
      rw [outward, hlen, Nat.add_sub_cancel]
      by_cases hheld : vs.scopes.heldFrom k name = true
      · rw [if_pos hheld] at hdrop ⊢
        rw [hdrop] at hrest
        rcases Scopes.heldFrom_eq_true_iff.mp hheld with ⟨i, hi, hheldAt⟩
        exact .cons value (hheldAt.drop hi) hrest.2
      · rw [if_neg hheld] at hdrop ⊢
        rw [hdrop] at hrest
        exact hrest.2
  | @scope inner changes _ _ ihinner ih =>
      -- Inside, one more scope is not one of the outermost ones.
      have hpushed : vs.push.scopes.length = k + 1 + n := by
        rw [scopes_push, List.length_cons, hlen]
        omega
      have hinner := ihinner (Nat.succ_pos k) hpushed
      have hpop : (vs.push.performAll inner).pop.scopes =
          (vs.push.performAll inner).scopes.drop 1 := by
        refine scopes_pop ?_
        rw [hinner.1]
        omega
      have hpopped : (vs.push.performAll inner).pop.scopes.length = k + n := by
        rw [hpop, List.length_drop, hinner.1]
        omega
      have hrest := ih hk hpopped
      rw [hpop, List.drop_drop, Nat.add_comm 1 k] at hrest
      have hall : vs.performAll (.push :: (inner ++ .pop :: changes)) =
          (vs.push.performAll inner).pop.performAll changes := by
        rw [performAll_cons, performAll_append]
        rfl
      have houtward : outward n vs (.push :: (inner ++ .pop :: changes)) =
          outward n vs.push inner ++ outward n (vs.push.performAll inner).pop changes := by
        rw [outward, outward_append, outward]
        · rfl
        · exact fun _ _ => Change.noConfusion
        · exact fun _ _ => Change.noConfusion
      rw [hall, houtward]
      exact ⟨hrest.1, hinner.2.append hrest.2⟩

/-- What leaving a scope gives back, where `writes` are the assignments that went through
    the scope: the scopes around it with these assignments made in order. -/
structure Restored (vs vs' : Variables) (writes : List (String × Value)) : Prop where
  scopes_eq : vs'.scopes = (vs.assignAll writes).scopes
  isResolvable_eq : ∀ name, vs'.isResolvable name = vs.isResolvable name
  held : ∀ write ∈ writes, vs.isResolvable write.1 = true
  written : ∀ name, vs'.lookup? name = (writes.reverse.lookup name).or (vs.lookup? name)
  kept : ∀ i name, (∀ value, (name, value) ∉ writes) →
    vs'.scopes.binding? i name = vs.scopes.binding? i name

theorem isResolvable_eq_true_iff : vs.isResolvable name = true ↔ ¬ vs.scopes.Free name := by
  rw [isResolvable_eq, Option.isSome_iff_ne_none, ne_eq, lookup?_eq_none_iff]

/-- Where only values have changed, the same names mean something. -/
theorem isResolvable_congr {names : String → Prop} {vs' : Variables}
    (h : Scopes.Confined names vs.scopes vs'.scopes) (name : String) :
    vs'.isResolvable name = vs.isResolvable name := by
  rw [Bool.eq_iff_iff, isResolvable_eq_true_iff, isResolvable_eq_true_iff, h.free_iff]

/-- Leaving a scope gives back the scopes around it as they were, but for the assignments
    that went through the scope. -/
theorem restored_of_block (vs : Variables) {changes : List Change} (hblock : Block changes) :
    vs.Restored (vs.performAll (.push :: (changes ++ [.pop])))
      (outward vs.scopes.length vs.push changes) := by
  have hlen : vs.push.scopes.length = 1 + vs.scopes.length := by
    rw [scopes_push, List.length_cons, Nat.add_comm]
  rcases written_of_block hblock Nat.one_pos hlen with ⟨hafter, hwritten⟩
  -- Leaving the block takes off the scope that it began with.
  have hleft : (vs.performAll (.push :: (changes ++ [.pop]))).scopes =
      (vs.push.performAll changes).scopes.drop 1 := by
    have hlocal : 1 < (vs.push.performAll changes).scopes.length := by
      rw [hafter, length_scopes]
      omega
    rw [performAll_cons, performAll_append]
    exact scopes_pop hlocal
  -- From here on only the scopes matter and not the changes that led to them.
  generalize vs.performAll (.push :: (changes ++ [.pop])) = left at hleft
  generalize outward vs.scopes.length vs.push changes = writes at hwritten
  rw [scopes_push, List.drop_one, List.tail_cons, ← hleft] at hwritten
  have hconfined : Scopes.Confined (fun name => ∃ value, (name, value) ∈ writes) vs.scopes
      left.scopes :=
    hwritten.confined fun name value hmem => ⟨value, hmem⟩
  have hscopes := (scopes_assignAll hwritten).symm
  constructor
  · exact hscopes
  · exact isResolvable_congr hconfined
  · intro write hmem
    exact isResolvable_eq_true_iff.mpr (hwritten.not_free hmem)
  · intro name
    rw [← lookup?_assignAll]
    exact lookup?_congr fun i => by rw [hscopes]
  · intro i name hname
    exact hconfined.kept i name fun ⟨value, hmem⟩ => hname value hmem

/-- The laws of scopes: what looking a name up, asking for it, storing a value under it
    and leaving a scope come to. -/
structure Lawful (vs : Variables) : Prop where
  /-- A name means its binding in the innermost scope that has it. -/
  resolve_of_heldAt : ∀ name i, vs.scopes.HeldAt name i →
    (vs.resolve name).1 = vs.scopes.binding? i name
  /-- A name that no scope has means nothing. -/
  resolve_of_free : ∀ name, vs.scopes.Free name → (vs.resolve name).1 = none
  /-- Looking a name up changes no binding. -/
  scopes_resolve : ∀ name, (vs.resolve name).2.scopes = vs.scopes
  isResolvable_iff : ∀ name, vs.isResolvable name = true ↔ ∃ value, (vs.resolve name).1 = some value
  /-- An assignment changes one binding: in the innermost scope that has the name or, if
      none has it, in the innermost scope of all. -/
  assign_one : ∀ name value, (vs.assign name value).scopes.length = vs.scopes.length ∧
    ∃ i, (vs.scopes.HeldAt name i ∨ vs.scopes.Free name ∧ i = 0) ∧
      ∀ j other, (vs.assign name value).scopes.binding? j other =
        if j = i ∧ other = name then some value else vs.scopes.binding? j other
  /-- Afterwards the name means the value, and every other name what it meant before. -/
  resolve_assign : ∀ name value other, ((vs.assign name value).resolve other).1 =
    if other = name then some value else (vs.resolve other).1
  /-- Leaving a scope gives back what it shadowed, with the assignments that went through
      it. -/
  leave : ∀ block, Block block →
    vs.Restored (vs.performAll (.push :: (block ++ [.pop])))
      (outward vs.scopes.length vs.push block)

/-- The laws of scopes hold after any changes, however many scopes they have left open. -/
theorem lawful_performAll (vs : Variables) (changes : List Change) :
    (vs.performAll changes).Lawful := by
  -- The laws hold of every state of the variables, so also of one that was reached.
  generalize vs.performAll changes = vs
  constructor
  · intro name i hi
    exact lookup?_of_heldAt hi
  · intro name hfree
    exact lookup?_of_free hfree
  · intro name
    exact vs.scopes_afterRead name
  · intro name
    rw [vs.isResolvable_eq, Option.isSome_iff_exists]
    rfl
  · intro name value
    rw [scopes_assign]
    exact ⟨Scopes.length_store name value vs.scopes,
      Scopes.exists_store vs.scopes_ne_nil name value⟩
  · intro name value other
    exact vs.lookup?_assign name other value
  · intro block hblock
    exact vs.restored_of_block hblock

end Variables

end Reckon
