import Mathlib.Data.List.Forall2
import Reckon.Operation

/-!
# Paths of Properties

A path is followed name by name, and nothing is carried along but the value it has led
to. So a path that is two paths with a point between them leads where the second one
leads from the end of the first (`Property.get_append`), whatever the names mean on the
way: a key of a map, or how much a collection or a text holds.

A projection follows one path from every item of a list and succeeds if all of them lead
somewhere. Two projections one after another look at every item twice, the second time
from where the first one has led, and which item fails first may not be the same. But
whether one fails is the same, and so is the list if none does: it has one value for every
item, in their order (`Operator.apply_projection`).

## Main definitions

* `Property.Leads`: Where some names lead from a value.

## Theorems

* `Property.segments_append`: The names of two paths with a point between them.
* `Property.get_eq_ok_iff`: A path leads where its names do.
* `Property.get_append`: Two paths one after another.
* `Operation.project_eq_push_iff`: What a projection comes to.
* `Operator.apply_projection`: Paths compose, and projections do.
-/

namespace Reckon

namespace Property

theorem segments_ne_nil (cs : List Char) : segments cs ≠ [] := by
  cases cs with
  | nil => simp [segments]
  | cons c cs =>
      unfold segments
      by_cases hc : c = '.'
      · simp [hc]
      · cases segments cs <;> simp [hc]

/-- Two paths with a point between them have the names of both. -/
theorem segments_append (p q : List Char) :
    segments (p ++ '.' :: q) = segments p ++ segments q := by
  induction p with
  | nil => rfl
  | cons c p ih =>
      simp only [List.cons_append, segments, ih]
      by_cases hc : c = '.'
      · simp only [if_pos hc, List.cons_append]
      · simp only [if_neg hc]
        -- The letter goes to the first name of the first path, and there is one.
        cases hnames : segments p with
        | nil => exact absurd hnames (segments_ne_nil p)
        | cons name names => rfl

/-- Some names lead from one value to another, one name at a time. No name is empty. -/
inductive Leads : List (List Char) → Value → Value → Prop where
  | here {value : Value} : Leads [] value value
  | along {name : List Char} {names : List (List Char)} {target next value : Value} :
      name ≠ [] → step (String.ofList name) target = .ok next →
      Leads names next value → Leads (name :: names) target value

/-- The first names lead somewhere, and the others go on from there. -/
theorem leads_append {names more : List (List Char)} {target value : Value} :
    Leads (names ++ more) target value ↔
      ∃ mid, Leads names target mid ∧ Leads more mid value := by
  -- The value in the middle is where the first names have led.
  induction names generalizing target with
  | nil =>
      constructor
      · intro h
        exact ⟨target, .here, h⟩
      · rintro ⟨mid, ⟨⟩, h⟩
        exact h
  | cons name names ih =>
      constructor
      · rintro (_ | ⟨hname, hstep, h⟩)
        rcases ih.mp h with ⟨mid, hnames, hmore⟩
        exact ⟨mid, .along hname hstep hnames, hmore⟩
      · rintro ⟨mid, _ | ⟨hname, hstep, hnames⟩, hmore⟩
        exact .along hname hstep (ih.mpr ⟨mid, hnames, hmore⟩)

/-- A path leads where its names do. The path itself is only ever named in an error. -/
theorem get_eq_ok_iff {path : String} {target value : Value} :
    get path target = .ok value ↔ Leads (segments path.toList) target value := by
  unfold get
  generalize segments path.toList = names
  induction names generalizing target with
  | nil =>
      constructor
      · intro h
        cases h
        exact .here
      · rintro ⟨⟩
        rfl
  | cons name names ih =>
      rw [List.foldlM_cons]
      by_cases hname : name = []
      · -- An empty name stops both.
        rw [if_pos (List.isEmpty_iff.mpr hname)]
        constructor
        · intro h
          cases h
        · rintro (_ | ⟨hne, _, _⟩)
          exact absurd hname hne
      · rw [if_neg (by rwa [List.isEmpty_iff])]
        cases hstep : step (String.ofList name) target with
        | error e =>
            constructor
            · intro h
              cases h
            · rintro (_ | ⟨_, hok, _⟩)
              cases hstep.symm.trans hok
        | ok next =>
            constructor
            · intro h
              exact .along hname hstep (ih.mp h)
            · rintro (_ | ⟨_, hok, h⟩)
              cases hstep.symm.trans hok
              exact ih.mpr h

/-- Two paths with a point between them lead where the second one leads from the end of
    the first. -/
theorem get_append {p q : String} {target value : Value} :
    get (p ++ "." ++ q) target = .ok value ↔
      ∃ mid, get p target = .ok mid ∧ get q mid = .ok value := by
  have hnames : segments (p ++ "." ++ q).toList = segments p.toList ++ segments q.toList := by
    rw [String.toList_append, String.toList_append, List.append_assoc]
    exact segments_append p.toList q.toList
  simp only [get_eq_ok_iff, hnames]
  exact leads_append

end Property

namespace Operation

/-- A list is gone through without an error exactly if no item has one, and then there is
    one result for every item, in their order. -/
theorem mapM_eq_ok_iff {α β ε : Type} {f : α → Except ε β} {items : List α}
    {values : List β} :
    items.mapM f = .ok values ↔
      List.Forall₂ (fun item value => f item = .ok value) items values := by
  induction items generalizing values with
  | nil =>
      rw [List.mapM_nil, List.forall₂_nil_left_iff]
      constructor
      · intro h
        cases h
        rfl
      · rintro rfl
        rfl
  | cons item items ih =>
      rw [List.mapM_cons, List.forall₂_cons_left_iff]
      -- The first failure ends the whole, before the items behind it are looked at.
      cases hitem : f item with
      | error e =>
          constructor
          · intro h
            cases h
          · rintro ⟨value, rest, hok, _⟩
            cases hok
      | ok value =>
          cases hrest : items.mapM f with
          | error e =>
              constructor
              · intro h
                cases h
              · rintro ⟨_, rest, _, h, _⟩
                cases hrest.symm.trans (ih.mpr h)
          | ok rest =>
              constructor
              · intro h
                cases h
                exact ⟨value, rest, rfl, ih.mp hrest, rfl⟩
              · rintro ⟨_, rest', ⟨⟩, h, rfl⟩
                cases hrest.symm.trans (ih.mpr h)
                rfl

/-- Two relations between the members of lists, one after the other. -/
theorem forall₂_comp {α β γ : Type} {r : α → β → Prop} {s : β → γ → Prop} {as : List α}
    {cs : List γ} :
    List.Forall₂ (fun a c => ∃ b, r a b ∧ s b c) as cs ↔
      ∃ bs, List.Forall₂ r as bs ∧ List.Forall₂ s bs cs := by
  constructor
  · intro h
    induction h with
    | nil => exact ⟨[], .nil, .nil⟩
    | cons hhead _ ih =>
        rcases hhead with ⟨b, hr, hs⟩
        rcases ih with ⟨bs, hrs, hss⟩
        exact ⟨b :: bs, .cons hr hrs, .cons hs hss⟩
  · rintro ⟨bs, hr, hs⟩
    induction hr generalizing cs with
    | nil =>
        cases hs
        exact .nil
    | cons hhead _ ih =>
        rcases hs with _ | ⟨hs, hss⟩
        exact .cons ⟨_, hhead, hs⟩ (ih hss)

/-- A projection over a list succeeds exactly if the path leads somewhere from every item,
    and comes to the list of where it leads. -/
theorem project_eq_push_iff {path result : Value} {items : List Value} :
    project path (.list items) = .push result ↔
      ∃ values, result = .list values ∧
        List.Forall₂ (fun item value => Property.get path.text item = .ok value) items values := by
  simp only [project]
  -- The operator gives up with its first failing item, and then pushes nothing.
  cases hitems : items.mapM (Property.get path.text) with
  | error e =>
      constructor
      · intro h
        cases h
      · rintro ⟨values, _, h⟩
        cases hitems.symm.trans (mapM_eq_ok_iff.mpr h)
  | ok values =>
      constructor
      · intro h
        cases h
        exact ⟨values, rfl, mapM_eq_ok_iff.mp hitems⟩
      · rintro ⟨values', rfl, h⟩
        cases hitems.symm.trans (mapM_eq_ok_iff.mpr h)
        rfl

end Operation

namespace Operator

/-- Paths compose, and so do projections. Two paths with a point between them lead where
    the second one leads from the end of the first. A projection of `p` over a projection of
    `q` over a list comes to something exactly if the projection of `q.p` does, and then to
    the same: one value for every item, in their order. -/
theorem apply_projection (p q : String) (rounding : Rounding) :
    (∀ target value, Property.get (p ++ "." ++ q) target = .ok value ↔
      ∃ mid, Property.get p target = .ok mid ∧ Property.get q mid = .ok value) ∧
    (∀ items result,
      (∃ inner, projection.apply (.str q) (.list items) rounding = .push inner ∧
        projection.apply (.str p) inner rounding = .push result) ↔
      projection.apply (.str (q ++ "." ++ p)) (.list items) rounding = .push result) ∧
    (∀ items result,
      projection.apply (.str (q ++ "." ++ p)) (.list items) rounding = .push result ↔
      ∃ values, result = .list values ∧
        List.Forall₂ (fun item value => Property.get (q ++ "." ++ p) item = .ok value)
          items values) := by
  refine ⟨fun target value => Property.get_append, fun items result => ?_,
    fun items result => Operation.project_eq_push_iff⟩
  have hpath : projection.apply (.str (q ++ "." ++ p)) (.list items) rounding = .push result ↔
      ∃ values, result = .list values ∧ List.Forall₂ (fun item value =>
        ∃ mid, Property.get q item = .ok mid ∧ Property.get p mid = .ok value) items values := by
    simp only [← Property.get_append]
    exact Operation.project_eq_push_iff
  simp only [hpath, Operation.forall₂_comp]
  constructor
  · rintro ⟨inner, hinner, hresult⟩
    -- What the inner projection comes to is a list, so the outer one applies.
    rcases Operation.project_eq_push_iff.mp hinner with ⟨mids, rfl, hmids⟩
    rcases Operation.project_eq_push_iff.mp hresult with ⟨values, rfl, hvalues⟩
    exact ⟨values, rfl, mids, hmids, hvalues⟩
  · rintro ⟨values, rfl, mids, hmids, hvalues⟩
    exact ⟨.list mids, Operation.project_eq_push_iff.mpr ⟨mids, rfl, hmids⟩,
      Operation.project_eq_push_iff.mpr ⟨values, rfl, hvalues⟩⟩

end Operator

end Reckon
