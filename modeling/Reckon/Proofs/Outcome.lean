import Reckon.Eval

/-!
# Outcomes of Evaluations

An evaluation is known by its outcome from every choice of variables: a value
or an error, and the variables it leaves. The laws here say what the outcome of
a compound evaluation is, so that what is proved about evaluations never has to
look into how they are represented.

Two questions come up again and again. Whether a sequence of evaluations comes
to a value is answered by `outcome_bind_eq_ok`, which splits the sequence where
the first part ends. Whether everything an evaluation can come to has some
property, whatever the variables, is `Ensures`: one property for its values and
one for its errors. It is closed under sequencing (`ensures_bind`), which is
how a property of single steps becomes a property of runs.

## Main definitions

* `Eval.Matches`, `Eval.Agrees`: The same outcome, but for the place of an error.
* `Eval.yield`: What an evaluation comes to, errors left out.
* `Eval.Ensures`: Every value and every error of an evaluation is as described.

## Theorems

* `Eval.ext_outcome`: Evaluations with the same outcomes are the same.
* `Eval.outcome_bind`: The outcome of a sequence.
* `Eval.outcome_bind_eq_ok`: A sequence that comes to a value, taken apart.
* `Eval.outcome_locate_eq_ok`: Placing errors leaves values alone.
* `Eval.outcome_bind_congr`: Sequences whose parts agree where they are run.
* `Eval.agrees_bind`: Sequences whose parts agree.
* `Eval.ensures_bind`: What a sequence ensures.
* `Eval.mapError_bind`, `Eval.mapError_congr`: Changing the errors of an evaluation.
-/

namespace Reckon

namespace Eval

variable {α β : Type}

@[simp] theorem outcome_pure (a : α) (vs : Variables) :
    (pure a : Eval α).outcome vs = (.ok a, vs) := rfl

@[simp] theorem outcome_ofOutcome (f : Variables → Except Error α × Variables)
    (vs : Variables) : (ofOutcome f).outcome vs = f vs := rfl

@[simp] theorem ofExcept_ok (a : α) : (ofExcept (.ok a) : Eval α) = pure a := rfl

@[simp] theorem ofExcept_error (cause : Cause) :
    (ofExcept (.error cause) : Eval α) = fail cause := rfl

/-- A result that does not depend on variables leaves them alone. -/
theorem outcome_ofExcept_eq_ok (r : Except Cause α) (a : α) (vs vs' : Variables) :
    (ofExcept r).outcome vs = (.ok a, vs') ↔ r = .ok a ∧ vs = vs' := by
  cases r with
  | error cause =>
      constructor
      · intro h
        cases h
      · rintro ⟨h, _⟩
        cases h
  | ok b =>
      simp only [ofExcept_ok, outcome_pure, Prod.mk.injEq, Except.ok.injEq]

@[simp] theorem outcome_assign (name : String) (value : Value) (vs : Variables) :
    (assign name value).outcome vs = (.ok (), vs.assign name value) := rfl

/-- Evaluations with the same outcomes are the same. -/
theorem ext_outcome {m m' : Eval α} (h : ∀ vs, m.outcome vs = m'.outcome vs) : m = m' :=
  funext h

/-- The outcome of a sequence: that of its second part, run on what the first
    part came to and left, unless the first part fails. -/
theorem outcome_bind (m : Eval α) (f : α → Eval β) (vs : Variables) :
    (m >>= f).outcome vs =
      match m.outcome vs with
      | (.ok a, vs') => (f a).outcome vs'
      | (.error e, vs') => (.error e, vs') := by
  -- Only here is an evaluation taken for what it is, a result on top of a state.
  have h : (m >>= f).outcome vs =
      (ExceptT.bindCont f (m.outcome vs).1 : StateM Variables _).run (m.outcome vs).2 := rfl
  rw [h]
  rcases m.outcome vs with ⟨_ | _, _⟩ <;> rfl

theorem outcome_bind_of_ok (m : Eval α) (f : α → Eval β) (a : α) (vs vs' : Variables)
    (h : m.outcome vs = (.ok a, vs')) : (m >>= f).outcome vs = (f a).outcome vs' := by
  rw [outcome_bind, h]

/-- A sequence that comes to a value, taken apart where its first part ends. -/
theorem outcome_bind_eq_ok (m : Eval α) (f : α → Eval β) (b : β) (vs vs' : Variables) :
    (m >>= f).outcome vs = (.ok b, vs') ↔
      ∃ a mid, m.outcome vs = (.ok a, mid) ∧ (f a).outcome mid = (.ok b, vs') := by
  rw [outcome_bind]
  rcases m.outcome vs with ⟨e | a, mid⟩
  · constructor
    · intro h
      cases h
    · rintro ⟨a, mid', h, _⟩
      cases h
  · constructor
    · intro h
      exact ⟨a, mid, rfl, h⟩
    · rintro ⟨a', mid', h, hf⟩
      cases h
      exact hf

/-- Sequences agree from some variables if their first parts do, and their
    second parts wherever the first part can lead to. -/
theorem outcome_bind_congr (m m' : Eval α) (f f' : α → Eval β) (vs : Variables)
    (hm : m.outcome vs = m'.outcome vs)
    (hf : ∀ a mid, m.outcome vs = (.ok a, mid) → (f a).outcome mid = (f' a).outcome mid) :
    (m >>= f).outcome vs = (m' >>= f').outcome vs := by
  rw [outcome_bind, outcome_bind, ← hm]
  rcases h : m.outcome vs with ⟨e | a, mid⟩
  · rfl
  · exact hf a mid h

theorem outcome_map (f : α → β) (m : Eval α) (vs : Variables) :
    (f <$> m).outcome vs = ((m.outcome vs).1.map f, (m.outcome vs).2) := by
  rw [← bind_pure_comp, outcome_bind]
  rcases m.outcome vs with ⟨_ | _, _⟩ <;> rfl

theorem outcome_mapError (f : Error → Error) (m : Eval α) (vs : Variables) :
    (m.mapError f).outcome vs = ((m.outcome vs).1.mapError f, (m.outcome vs).2) := by
  unfold mapError
  rw [outcome_ofOutcome]
  rcases m.outcome vs with ⟨_ | _, _⟩ <;> rfl

@[simp] theorem mapError_pure (f : Error → Error) (a : α) :
    (pure a : Eval α).mapError f = pure a := rfl

/-- Changing the error and changing the value do not get in each other's way. -/
theorem mapError_map (f : Error → Error) (g : α → β) (m : Eval α) :
    (g <$> m).mapError f = g <$> m.mapError f := by
  refine ext_outcome fun vs => ?_
  rw [outcome_mapError, outcome_map, outcome_map, outcome_mapError]
  rcases m.outcome vs with ⟨e | a, vs'⟩ <;> rfl

/-- Changing the error of a sequence is changing that of its parts. -/
theorem mapError_bind (f : Error → Error) (m : Eval α) (g : α → Eval β) :
    (m >>= g).mapError f = m.mapError f >>= fun a => (g a).mapError f := by
  refine ext_outcome fun vs => ?_
  rw [outcome_mapError, outcome_bind, outcome_bind, outcome_mapError]
  rcases m.outcome vs with ⟨e | a, vs'⟩
  · rfl
  · exact (outcome_mapError f (g a) vs').symm

theorem mapError_mapError (f g : Error → Error) (m : Eval α) :
    (m.mapError f).mapError g = m.mapError fun e => g (f e) := by
  refine ext_outcome fun vs => ?_
  rw [outcome_mapError, outcome_mapError, outcome_mapError]
  rcases m.outcome vs with ⟨e | a, vs'⟩ <;> rfl

/-- Changing the error of an evaluation leaves its values alone. -/
theorem outcome_mapError_eq_ok (f : Error → Error) (m : Eval α) (a : α) (vs vs' : Variables) :
    (m.mapError f).outcome vs = (.ok a, vs') ↔ m.outcome vs = (.ok a, vs') := by
  rw [outcome_mapError]
  rcases m.outcome vs with ⟨e | b, mid⟩
  · constructor <;> intro h <;> cases h
  · rfl

/-- Placing the error of an evaluation leaves its values alone. -/
theorem outcome_locate_eq_ok (m : Eval α) (expr : String) (cursor : Nat) (a : α)
    (vs vs' : Variables) :
    (m.locate expr cursor).outcome vs = (.ok a, vs') ↔ m.outcome vs = (.ok a, vs') :=
  outcome_mapError_eq_ok _ m a vs vs'

/-- Placed evaluations agree from where the evaluations do. -/
theorem outcome_mapError_congr (f : Error → Error) (m m' : Eval α) (vs : Variables)
    (h : m.outcome vs = m'.outcome vs) :
    (m.mapError f).outcome vs = (m'.mapError f).outcome vs := by
  rw [outcome_mapError, outcome_mapError, h]

/-- Outcomes that leave the same variables, with related values or with errors
    of the same cause. Where an error is placed does not matter. -/
inductive Matches (R : α → β → Prop) :
    Except Error α × Variables → Except Error β × Variables → Prop
  | ok {a : α} {b : β} {vs : Variables} : R a b → Matches R (.ok a, vs) (.ok b, vs)
  | error {e e' : Error} {vs : Variables} : e.cause = e'.cause →
      Matches R (.error e, vs) (.error e', vs)

/-- Evaluations whose outcomes match, whatever the variables. -/
def Agrees (R : α → β → Prop) (m : Eval α) (m' : Eval β) : Prop :=
  ∀ vs, Matches R (m.outcome vs) (m'.outcome vs)

section Agrees

variable {γ δ : Type} {R : α → β → Prop} {S : γ → δ → Prop}

theorem agrees_refl (m : Eval α) : m.Agrees Eq m := by
  intro vs
  rcases m.outcome vs with ⟨e | a, vs'⟩
  · exact .error rfl
  · exact .ok rfl

/-- Matching outcomes of which the first is a value. -/
theorem Matches.exists_ok {a : α} {vs : Variables} {r : Except Error β × Variables}
    (h : Matches R (.ok a, vs) r) : ∃ b, r = (.ok b, vs) ∧ R a b := by
  cases h with
  | ok hab => exact ⟨_, rfl, hab⟩

/-- Evaluations that agree on the value itself come to the same values. -/
theorem Agrees.of_ok {m m' : Eval α} (h : m.Agrees Eq m') {a : α} {vs vs' : Variables}
    (hm : m.outcome vs = (.ok a, vs')) : m'.outcome vs = (.ok a, vs') := by
  have hvs := h vs
  rw [hm] at hvs
  rcases hvs.exists_ok with ⟨b, hb, rfl⟩
  exact hb

theorem Agrees.symm {m m' : Eval α} (h : m.Agrees Eq m') : m'.Agrees Eq m := by
  intro vs
  have hvs := h vs
  generalize m.outcome vs = r at hvs
  generalize m'.outcome vs = r' at hvs
  cases hvs with
  | ok hab => exact .ok hab.symm
  | error he => exact .error he.symm

theorem Matches.trans {r : Except Error α × Variables} {r₁ r₂ : Except Error β × Variables}
    (h : Matches R r r₁) (h' : Matches Eq r₁ r₂) : Matches R r r₂ := by
  cases h with
  | ok hab =>
      rcases h'.exists_ok with ⟨c, rfl, rfl⟩
      exact .ok hab
  | error he =>
      cases h' with
      | error he' => exact .error (he.trans he')

theorem Agrees.trans {m : Eval α} {m₁ m₂ : Eval β} (h : m.Agrees R m₁) (h' : m₁.Agrees Eq m₂) :
    m.Agrees R m₂ :=
  fun vs => (h vs).trans (h' vs)

theorem agrees_bind {m : Eval α} {m' : Eval β} {f : α → Eval γ} {f' : β → Eval δ}
    (hm : m.Agrees R m') (hf : ∀ a b, R a b → (f a).Agrees S (f' b)) :
    (m >>= f).Agrees S (m' >>= f') := by
  intro vs
  have hvs := hm vs
  rw [outcome_bind, outcome_bind]
  generalize m.outcome vs = r at hvs
  generalize m'.outcome vs = r' at hvs
  cases hvs with
  | ok hab => exact hf _ _ hab _
  | error he => exact .error he

/-- Evaluations that agree still do if their errors are placed. -/
theorem agrees_mapError {m : Eval α} {m' : Eval β} (h : m.Agrees R m') {f f' : Error → Error}
    (hf : ∀ e, (f e).cause = e.cause) (hf' : ∀ e, (f' e).cause = e.cause) :
    (m.mapError f).Agrees R (m'.mapError f') := by
  intro vs
  have hvs := h vs
  rw [outcome_mapError, outcome_mapError]
  generalize m.outcome vs = r at hvs
  generalize m'.outcome vs = r' at hvs
  cases hvs with
  | ok hab => exact .ok hab
  | error he =>
      refine .error ?_
      rw [hf, hf', he]

theorem agrees_locate {m : Eval α} {m' : Eval β} (h : m.Agrees R m') (expr expr' : String)
    (cursor cursor' : Nat) : (m.locate expr cursor).Agrees R (m'.locate expr' cursor') :=
  agrees_mapError h (fun _ => rfl) fun _ => rfl

theorem agrees_lift {m : Eval α} {m' : Eval β} (h : m.Agrees R m') (offset offset' : Nat) :
    (m.lift offset).Agrees R (m'.lift offset') :=
  agrees_mapError h (fun _ => rfl) fun _ => rfl

/-- Matching outcomes still match if the same is done to their values. -/
theorem Matches.map {r r' : Except Error α × Variables} (h : Matches Eq r r') (f : α → β) :
    Matches Eq (r.1.map f, r.2) (r'.1.map f, r'.2) := by
  cases h with
  | ok hab => exact .ok (congrArg f hab)
  | error he => exact .error he

theorem Matches.mapError_cause {r r' : Except Error α × Variables} (h : Matches Eq r r') :
    r.1.mapError Error.cause = r'.1.mapError Error.cause := by
  cases h with
  | ok hab => rw [hab]
  | error he => exact congrArg Except.error he

end Agrees

/-- Whatever the variables, the value of an evaluation is as `Q` says, and its
    error as `E` says. -/
def Ensures (m : Eval α) (Q : α → Prop) (E : Error → Prop) : Prop :=
  ∀ vs, match (m.outcome vs).1 with
    | .ok a => Q a
    | .error e => E e

section Ensures

variable {Q : α → Prop} {R : β → Prop} {E F : Error → Prop}

/-- Every evaluation ensures nothing. -/
theorem ensures_true (m : Eval α) : m.Ensures (fun _ => True) fun _ => True := by
  intro vs
  split <;> trivial

theorem ensures_pure (a : α) (h : Q a) : (pure a : Eval α).Ensures Q E :=
  fun _ => h

theorem ensures_throw (e : Error) (h : E e) : (throw e : Eval α).Ensures Q E :=
  fun _ => h

theorem ensures_fail (cause : Cause) (h : E (Error.of cause)) :
    (fail cause : Eval α).Ensures Q E :=
  fun _ => h

theorem ensures_ofExcept (r : Except Cause α) (hok : ∀ a, r = .ok a → Q a)
    (herror : ∀ cause, r = .error cause → E (Error.of cause)) : (ofExcept r).Ensures Q E := by
  cases r with
  | error cause => exact ensures_fail cause (herror cause rfl)
  | ok a => exact ensures_pure a (hok a rfl)

theorem ensures_assign (name : String) (value : Value) :
    (assign name value).Ensures (fun _ => True) E :=
  fun _ => trivial

/-- An evaluation ensures what follows from what it ensures of its values. -/
theorem Ensures.mono {Q' : α → Prop} {m : Eval α} (h : m.Ensures Q E) (hQ : ∀ a, Q a → Q' a) :
    m.Ensures Q' E := by
  intro vs
  have hvs := h vs
  rcases hm : m.outcome vs with ⟨e | a, vs'⟩
  · rw [hm] at hvs
    exact hvs
  · rw [hm] at hvs
    exact hQ a hvs

/-- An evaluation ensures what follows from what it ensures of its errors. -/
theorem Ensures.mono_error {m : Eval α} (h : m.Ensures Q E) (hE : ∀ e, E e → F e) :
    m.Ensures Q F := by
  intro vs
  have hvs := h vs
  rcases hm : m.outcome vs with ⟨e | a, vs'⟩
  · rw [hm] at hvs
    exact hE e hvs
  · rw [hm] at hvs
    exact hvs

/-- Evaluations that agree, the first of which ensures something of its values. -/
theorem Agrees.and_ensures {S : α → β → Prop} {m : Eval α} {m' : Eval β} (h : m.Agrees S m')
    (hm : m.Ensures Q E) : m.Agrees (fun a b => S a b ∧ Q a) m' := by
  intro vs
  have hvs := h vs
  have hmvs := hm vs
  generalize m.outcome vs = r at hvs hmvs
  generalize m'.outcome vs = r' at hvs
  cases hvs with
  | ok hab => exact .ok ⟨hab, hmvs⟩
  | error he => exact .error he

/-- An evaluation ensures of its values all that it ensures of them one by one. -/
theorem ensures_and {Q' : α → Prop} {m : Eval α} (h : m.Ensures Q E) (h' : m.Ensures Q' E) :
    m.Ensures (fun a => Q a ∧ Q' a) E := by
  intro vs
  have hvs := h vs
  have hvs' := h' vs
  rcases hm : m.outcome vs with ⟨e | a, vs'⟩
  · rw [hm] at hvs
    exact hvs
  · rw [hm] at hvs hvs'
    exact ⟨hvs, hvs'⟩

/-- What a value is like if its evaluation ensures something of it. -/
theorem Ensures.of_ok {m : Eval α} (h : m.Ensures Q E) {a : α} {vs vs' : Variables}
    (hm : m.outcome vs = (.ok a, vs')) : Q a := by
  have := h vs
  rw [hm] at this
  exact this

/-- What an error is like if its evaluation ensures something of it. -/
theorem Ensures.of_error {m : Eval α} (h : m.Ensures Q E) {e : Error} {vs vs' : Variables}
    (hm : m.outcome vs = (.error e, vs')) : E e := by
  have := h vs
  rw [hm] at this
  exact this

/-- A sequence ensures what its second part does on every value of the first,
    if both raise the same kind of errors. -/
theorem ensures_bind {m : Eval α} {f : α → Eval β} (hm : m.Ensures Q E)
    (hf : ∀ a, Q a → (f a).Ensures R E) : (m >>= f).Ensures R E := by
  intro vs
  have hvs := hm vs
  rw [outcome_bind]
  rcases hout : m.outcome vs with ⟨e | a, vs'⟩
  · rw [hout] at hvs
    exact hvs
  · rw [hout] at hvs
    exact hf a hvs vs'

theorem ensures_map {m : Eval α} {f : α → β} (h : m.Ensures (fun a => R (f a)) E) :
    (f <$> m).Ensures R E := by
  rw [← bind_pure_comp]
  exact ensures_bind h fun a ha => ensures_pure (f a) ha

/-- Changes of the error that come to the same on the errors that there are. -/
theorem mapError_congr {m : Eval α} {f g : Error → Error} (h : m.Ensures Q fun e => f e = g e) :
    m.mapError f = m.mapError g := by
  refine ext_outcome fun vs => ?_
  rw [outcome_mapError, outcome_mapError]
  rcases hm : m.outcome vs with ⟨e | a, vs'⟩
  · exact congrArg (fun e => (Except.error e, vs')) (h.of_error hm)
  · rfl

/-- Errors that a change leaves alone. -/
theorem mapError_eq_self {m : Eval α} {f : Error → Error} (h : m.Ensures Q fun e => f e = e) :
    m.mapError f = m := by
  rw [mapError_congr (g := id) h]
  refine ext_outcome fun vs => ?_
  rw [outcome_mapError]
  rcases m.outcome vs with ⟨e | a, vs'⟩ <;> rfl

theorem ensures_mapError {m : Eval α} {f : Error → Error} (h : m.Ensures Q E)
    (hf : ∀ e, E e → F (f e)) : (m.mapError f).Ensures Q F := by
  intro vs
  have hvs := h vs
  rw [outcome_mapError]
  rcases hm : m.outcome vs with ⟨e | a, vs'⟩
  · rw [hm] at hvs
    exact hf e hvs
  · rw [hm] at hvs
    exact hvs

end Ensures

end Eval

end Reckon
