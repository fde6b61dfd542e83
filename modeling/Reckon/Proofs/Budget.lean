import Reckon.Proofs.Ending
import Reckon.Proofs.Exchange
import Reckon.Proofs.Reading

/-!
# How Often Operands are Regrouped

A pass counts its regroupings, and none is begun once one has been counted. But
a regrouping is counted only after its right operand was read. If that operand
is an assignment, the statement that is assigned is read in the meantime, and
may begin a regrouping of its own.

So the count is not bounded by `maxRegroupings`. What bounds it is the number of
assignments that stand to the right of an operator (`embedded`), each of which
may add one, and the byte that it is kept in. Both bounds are met: for any number
of assignments there are tokens with which all of them add one, up to the largest
count, and beyond it the same tokens overflow (`Pass.settle_nestedAssignments`,
`Pass.settle_overflow`). What stays below `maxRegroupings` is how often the operands
of one statement are regrouped.

The invariant is about what a pass may still come to (`Pass.load`): the
regroupings that were counted, those that wait for an assignment, and one more
that has begun or may begin. A token adds to that only if it is an assignment
that becomes the right operand of a regrouping.

## Main definitions

* `embedded`: How many assignments stand to the right of an operator.
* `Pass.load`: The regroupings of a pass, begun or counted.

## Theorems

* `Pass.feed_load`: Only an embedded assignment adds to the load.
* `Pass.after_load`: What a run can add.
* `Pass.settle_overflow`: Where one more can not be counted.
* `Pass.regroupings_le_embedded`: How often operands are regrouped.
-/

namespace Reckon

open Eval

variable {α : Type}

/-- Whether a token of this kind takes the right one of two operands that do not
    fit, with what comes next. -/
def Token.Kind.takes (kind : Token.Kind α) : Bool :=
  match kind with
  | .operator op => !op.isStructural
  | _ => false

/-- Whether a token of this kind starts an assignment. -/
def Token.Kind.isAssign (kind : Token.Kind α) : Bool :=
  match kind with
  | .assign _ => true
  | _ => false

/-- How many of some tokens start an assignment to the right of an operator.
    `right` is whether there is an operator in front of the first one. -/
def embedded (right : Bool) : List (Token α) → Nat
  | [] => 0
  | t :: ts => (if right && t.kind.isAssign then 1 else 0) + embedded t.kind.takes ts

/-- Whether a value that goes to this place completes a regrouping. -/
def Slot.regroups : Slot → Bool
  | .regrouped _ _ _ _ => true
  | _ => false

/-- Whether the right operand of a regrouping comes next. -/
def Expecting.regroupsRight : Expecting → Bool
  | .regroupRight _ _ _ _ => true
  | _ => false

namespace Pass

/-- The assignments among some that are the right operand of a regrouping. -/
def waits (outer : List Assignment) : Nat :=
  outer.countP fun a => a.slot.regroups

theorem waits_cons (a : Assignment) (outer : List Assignment) :
    waits (a :: outer) = waits outer + if a.slot.regroups then 1 else 0 :=
  List.countP_cons

/-- A regrouping that has begun, or may begin because none was counted. -/
def due (begun : Bool) (regroupings : Nat) : Nat :=
  if begun then 1 else maxRegroupings - regroupings

theorem due_true (n : Nat) : due true n = 1 := rfl

theorem due_false (n : Nat) : due false n = 1 - n := rfl

theorem due_false_le (begun : Bool) (n : Nat) : due false n ≤ due begun n := by
  cases begun with
  | true =>
      rw [due_true, due_false]
      omega
  | false => exact Nat.le_refl _

theorem due_le (begun : Bool) (n : Nat) :
    due begun n ≤ (if begun then 1 else 0) + due false n := by
  cases begun with
  | true => exact Nat.le_add_right _ _
  | false => exact Nat.le_add_left _ _

/-- The regroupings that a pass has counted, that wait for an assignment, and that
    it has begun or may begin. -/
def load (p : Pass) : Nat :=
  p.regroupings + waits p.outer + due p.expecting.regroups p.regroupings

theorem regroupings_le_load (p : Pass) : p.regroupings ≤ p.load := by
  unfold load
  omega

/-- A pass with a load of at most `n` that does not await the right operand of a
    regrouping, and whose count fits its width. -/
structure AtMost (n : Nat) (p : Pass) : Prop where
  load_le : p.load ≤ n
  right : p.expecting.regroupsRight = false
  count_le : p.regroupings ≤ countLimit

theorem AtMost.mono {n m : Nat} {p : Pass} (h : p.AtMost n) (hle : n ≤ m) : p.AtMost m :=
  ⟨Nat.le_trans h.load_le hle, h.right, h.count_le⟩

/-- Turning to what begins no regrouping adds nothing. -/
theorem load_le_of_eq {p q : Pass} (houter : q.outer = p.outer)
    (hcount : q.regroupings = p.regroupings) (hexp : q.expecting.regroups = false) :
    q.load ≤ p.load := by
  have hdue := due_false_le p.expecting.regroups p.regroupings
  unfold load
  rw [houter, hcount, hexp]
  omega

/-- Working off a stack begins a regrouping only if none was counted. -/
theorem atMost_of_reduce {rounding : Rounding} {regrouping : Bool} {p q : Pass} {s : Stack}
    (hcount : p.regroupings ≤ countLimit) (h : p.reduce rounding regrouping s = .ok q) :
    q.AtMost (p.regroupings + waits p.outer + due false p.regroupings) := by
  unfold reduce at h
  split at h
  · cases h
  · cases h
    exact ⟨Nat.le_refl _, rfl, hcount⟩
  · split at h
    · cases h
    next hnone =>
      cases h
      refine ⟨?_, rfl, hcount⟩
      -- Waiting for the right operand of a regrouping is allowed only before any was made.
      have hzero : p.regroupings = 0 := by
        simp only [Bool.or_eq_true, decide_eq_true_eq, not_or, Nat.not_le] at hnone
        exact Nat.lt_one_iff.mp hnone.2
      simp only [load, withStack, Expecting.regroups, hzero, due_true, due_false, Nat.sub_zero,
        Nat.le_refl]

/-- Putting a value in its place completes a regrouping, or begins one only if
    none was counted. -/
theorem atMost_of_place {rounding : Rounding} {p q : Pass} {slot : Slot} {v : Value}
    (hcount : p.regroupings ≤ countLimit) (h : p.place rounding slot v = .ok q) :
    q.AtMost (p.regroupings + waits p.outer + due slot.regroups p.regroupings) := by
  cases slot with
  | first =>
      cases h
      exact ⟨Nat.le_refl _, rfl, hcount⟩
  | right op => exact atMost_of_reduce hcount h
  | regrouped op left right next =>
      rcases place_regrouped_eq_ok h with ⟨hlt, hreduce⟩
      have hcounted : p.counted.regroupings ≤ countLimit := hlt
      -- The slot was counted as one regrouping to come, and now it is one that was made.
      refine (atMost_of_reduce hcounted hreduce).mono ?_
      simp only [regroupings_counted, due_false, Slot.regroups, due_true]
      change p.regroupings + 1 + waits p.outer + _ ≤ _
      omega

/-- Handing a value outward adds nothing. -/
theorem atMost_of_handed (frame : Frame) (expecting : Expecting) {rounding : Rounding}
    {regroupings : Nat} {a : Assignment} {outer : List Assignment} {closed : Bool} {v : Value}
    {q : Pass} (hcount : regroupings ≤ countLimit)
    (h : (⟨{ a.frame with closed := closed }, .statement, outer, regroupings⟩ : Pass).place
      rounding a.slot v = .ok q) :
    q.AtMost (⟨frame, expecting, a :: outer, regroupings⟩ : Pass).load := by
  refine (atMost_of_place hcount h).mono ?_
  have hslot := due_le a.slot.regroups regroupings
  have hdue := due_false_le expecting.regroups regroupings
  simp only [load, waits_cons]
  omega

theorem settle_atMost (rounding : Rounding) (frame : Frame) (expecting : Expecting)
    (regroupings : Nat) (outer : List Assignment) (n : Nat)
    (h : AtMost n ⟨frame, expecting, outer, regroupings⟩) :
    (settle rounding frame expecting regroupings outer).Ensures (AtMost n) fun _ => True := by
  -- The load does not grow while open assignments close, one after another.
  induction outer generalizing frame expecting regroupings with
  | nil =>
      unfold settle
      split
      · split
        · exact ensures_fail _ trivial
        · exact ensures_pure _
            ⟨Nat.le_trans (load_le_of_eq rfl rfl rfl) h.load_le, rfl, h.count_le⟩
      · exact ensures_pure _ h
  | cons a outer ih =>
      unfold settle
      split
      · refine handed_ensures (Q := fun q => q.AtMost n ∧ q.outer = outer) frame a.target _ _
          (ensures_true _) (fun v => ?_) fun q hq => ?_
        · refine ensures_ofExcept _ (fun q hq => ?_) fun _ _ => trivial
          exact ⟨(atMost_of_handed frame .statement h.count_le hq).mono h.load_le,
            (placed_of_place hq).outer_eq⟩
        · rcases hq with ⟨hatMost, rfl⟩
          exact ih _ _ _ hatMost
      · exact ensures_pure _ h

theorem operand_atMost (rounding : Rounding) (p : Pass) (slot : Slot) (value : Eval Value)
    (n : Nat) (hcount : p.regroupings ≤ countLimit)
    (h : p.regroupings + waits p.outer + due slot.regroups p.regroupings ≤ n) :
    (p.operand rounding slot value).Ensures (AtMost n) fun _ => True := by
  refine ensures_bind (ensures_true _) fun v _ => ?_
  refine ensures_bind (ensures_ofExcept _ (fun q hq => atMost_of_place hcount hq)
    fun _ _ => trivial) fun q hq => ?_
  exact settle_atMost rounding _ _ _ _ n (hq.mono h)

/-- An operand or an assignment goes to a place that completes a regrouping only
    where the right operand of one is awaited. -/
theorem regroups_of_slot? {p : Pass} {slot : Slot} (h : p.slot? = some slot) :
    p.expecting.regroups = slot.regroups ∧ p.ready.regroupings = p.regroupings ∧
      p.ready.outer = p.outer := by
  unfold slot? at h
  unfold ready
  -- The slot is read off what the pass waits for, so the two agree case by case.
  split at h
  next hexp =>
    rw [hexp]
    split at h
    · cases h
    · cases h
      exact ⟨rfl, rfl, rfl⟩
  next hexp =>
    rw [hexp]
    cases h
    exact ⟨rfl, rfl, rfl⟩
  next hexp =>
    rw [hexp]
    cases h
    exact ⟨rfl, rfl, rfl⟩
  next hexp =>
    rw [hexp]
    cases h
    exact ⟨rfl, rfl, rfl⟩
  next => cases h

/-- A turn adds nothing where no regrouping has begun. -/
theorem Turn.atMost {p q : Pass} (ht : Turn p q) (hcount : p.regroupings ≤ countLimit)
    (hexp : p.expecting.regroups = false) : q.AtMost p.load := by
  -- Only a turn that waits for the operand of a regrouping could add to the load, and the
  -- pass was not waiting for the right side of one.
  cases ht with
  | stay =>
      refine ⟨Nat.le_refl _, ?_, hcount⟩
      cases hp : p.expecting with
      | regroupRight =>
          rw [hp] at hexp
          cases hexp
      | _ => rfl
  | regroup hp _ =>
      rw [hp] at hexp
      cases hexp
  | @target slot name hslot =>
      rcases regroups_of_slot? hslot with ⟨hregroups, hready, houter⟩
      have hstatement : Expecting.statement.regroups = false := rfl
      refine ⟨?_, rfl, hready ▸ hcount⟩
      simp only [load, Pass.target, waits_cons, hready, houter, ← hregroups, hexp, hstatement,
        Bool.false_eq_true, if_false, Nat.add_zero, Nat.le_refl]
  | _ => exact ⟨load_le_of_eq rfl rfl rfl, rfl, hcount⟩

/-- A token where no regrouping has begun adds nothing. -/
theorem feed_atMost (rounding : Rounding) (p : Pass) (kind : Token.Kind α) (shown : String)
    (value : Operand α → Eval Value) (hcount : p.regroupings ≤ countLimit)
    (hexp : p.expecting.regroups = false) :
    (p.feed rounding kind shown value).Ensures (AtMost p.load) fun _ => True := by
  have hcases := feed_cases rounding p kind shown value
  generalize p.feed rounding kind shown value = m at hcases
  cases hcases with
  | turn ht => exact ensures_pure _ (ht.atMost hcount hexp)
  | refuse _ => exact ensures_fail _ trivial
  | take hslot _ =>
      -- A value fills the slot: what was still due there is paid.
      rcases regroups_of_slot? hslot with ⟨hregroups, hready, houter⟩
      refine operand_atMost rounding _ _ _ _ (hready ▸ hcount) ?_
      rw [hready, houter, ← hregroups]
      exact Nat.le_refl _
  | close _ _ => exact settle_atMost rounding _ _ _ _ _ ⟨load_le_of_eq rfl rfl rfl, rfl, hcount⟩

/-- Only an assignment to the right of an operator adds to the load, and only such
    an operator makes a pass await the right operand of a regrouping. -/
theorem feed_load (rounding : Rounding) (p : Pass) (kind : Token.Kind α) (shown : String)
    (value : Operand α → Eval Value) (hcount : p.regroupings ≤ countLimit) :
    (p.feed rounding kind shown value).Ensures
      (fun q => q.load ≤ p.load + (if p.expecting.regroupsRight && kind.isAssign then 1 else 0) ∧
        (q.expecting.regroupsRight = true → kind.takes = true) ∧ q.regroupings ≤ countLimit)
      fun _ => True := by
  have hmono {n : Nat} (q : Pass) (hq : q.AtMost p.load) :
      q.load ≤ p.load + n ∧ (q.expecting.regroupsRight = true → kind.takes = true) ∧
        q.regroupings ≤ countLimit :=
    ⟨Nat.le_add_right_of_le hq.load_le,
      fun hright => absurd hright (by rw [hq.right]; exact Bool.false_ne_true), hq.count_le⟩
  cases hexp : p.expecting with
  | regroup op left right =>
      simp only [feed, hexp]
      split
      next next hkind =>
        rw [Token.Kind.eq_operator_of_operator? hkind]
        split
        · exact ensures_fail _ trivial
        next hnext =>
          refine ensures_pure _ ⟨?_, fun _ => ?_, hcount⟩
          · simp only [load, hexp, Expecting.regroups, Nat.le_add_right]
          · simpa only [Token.Kind.takes, Bool.not_eq_true', Bool.not_eq_true] using hnext
      · exact ensures_fail _ trivial
  | regroupRight op left right next =>
      have hload : p.load = p.regroupings + waits p.outer + 1 := by
        simp only [load, hexp, Expecting.regroups, due_true]
      simp only [feed, hexp]
      cases kind with
      | operator op' => exact ensures_fail _ trivial
      | operand o =>
          refine (operand_atMost rounding p _ _ p.load hcount ?_).mono hmono
          rw [hload]
          exact Nat.le_refl _
      | assign name =>
          -- The regrouping waits, and the frame that starts may begin another one.
          refine ensures_pure _ ⟨?_, fun hright => absurd hright Bool.false_ne_true, hcount⟩
          have hdue : due false p.regroupings ≤ 1 := Nat.sub_le _ _
          simp only [load, Pass.target, waits_cons, Slot.regroups, if_true, Expecting.regroups,
            Expecting.regroupsRight, Token.Kind.isAssign, Bool.and_self] at hload ⊢
          omega
  | _ =>
      refine (feed_atMost rounding p kind shown value hcount ?_).mono hmono
      rw [hexp]
      rfl

/-- What a run adds to the load is at most the number of assignments to the right
    of an operator, and its count fits its width throughout. -/
theorem after_load (nested : Nested α) (rounding : Rounding) (env : Env) (source : String)
    (p : Pass) (right : Bool) (ts : List (Token α))
    (hright : p.expecting.regroupsRight = true → right = true)
    (hcount : p.regroupings ≤ countLimit) :
    (after nested rounding env source p ts).Ensures
      (fun q => q.load ≤ p.load + embedded right ts ∧ q.regroupings ≤ countLimit)
      fun _ => True := by
  -- Whether the token before is one that a regrouping takes is carried along with the load.
  induction ts generalizing p right with
  | nil => exact ensures_pure p ⟨Nat.le_refl _, hcount⟩
  | cons t ts ih =>
      rw [after_cons]
      have hstep : (p.step nested rounding env source t).Ensures _ fun _ => True :=
        ensures_mapError (feed_load rounding p t.kind _ _ hcount) fun _ _ => trivial
      refine ensures_bind hstep fun q hq => ?_
      refine (ih q t.kind.takes hq.2.1 hq.2.2).mono fun r hr => ⟨?_, hr.2⟩
      -- The next token adds to the load only if it opens an assignment right where the operand
      -- of a regrouping is awaited, and then the text counts it as embedded.
      have hfirst : (if p.expecting.regroupsRight && t.kind.isAssign then 1 else 0) ≤
          if right && t.kind.isAssign then 1 else 0 := by
        cases hp : p.expecting.regroupsRight with
        | true => exact Nat.le_of_eq (by rw [hright hp])
        | false => exact Nat.zero_le _
      have hload := hq.1
      have hlater := hr.1
      simp only [embedded]
      omega

theorem regroupings_atEnd (p : Pass) (leftover : Bool) :
    (p.atEnd leftover).regroupings = p.regroupings := by
  unfold atEnd
  split
  · split <;> rfl
  · rfl

theorem load_atEnd_le (p : Pass) (leftover : Bool) : (p.atEnd leftover).load ≤ p.load := by
  unfold atEnd
  split
  · split
    · exact load_le_of_eq rfl rfl rfl
    · exact Nat.le_refl _
  · exact Nat.le_refl _

/-- Values that are handed outward at the end add nothing. -/
theorem Ends.load_le {rounding : Rounding} {p q : Pass} {vs vs' : Variables}
    (hcount : p.regroupings ≤ countLimit) (h : p.Ends rounding vs q vs') :
    q.load ≤ p.load ∧ q.regroupings ≤ countLimit := by
  refine h.invariant (I := fun r => r.load ≤ p.load ∧ r.regroupings ≤ countLimit)
    (fun r r' a outer v hr houter hplace => ?_) ⟨Nat.le_refl _, hcount⟩
  obtain ⟨frame, expecting, _, regroupings⟩ := r
  subst houter
  have hatMost := atMost_of_handed frame expecting hr.2 hplace
  exact ⟨Nat.le_trans hatMost.load_le hr.1, hatMost.count_le⟩

/-- The tokens of `1 * '' #`. The operands of `*` do not fit, and `#` takes the
    right one. -/
def takingTokens (α : Type) : List (Token α) :=
  [⟨.operand (.literal (.int 1)), ⟨0, 1⟩, false⟩, ⟨.operator .mul, ⟨2, 3⟩, false⟩,
    ⟨.operand (.literal (.str "")), ⟨4, 6⟩, false⟩, ⟨.operator .strAppend, ⟨7, 8⟩, false⟩]

/-- The tokens of `1 * '' # 1;`, with `n` assignments one inside the other:
    `1 * '' # x = 1 * '' # x = 1;` and so on. -/
def nestedTokens (α : Type) : Nat → List (Token α)
  | 0 =>
    takingTokens α ++ [⟨.operand (.literal (.int 1)), ⟨9, 10⟩, false⟩,
      ⟨.operator .endOfStatement, ⟨10, 11⟩, false⟩]
  | n + 1 => takingTokens α ++ ⟨.assign "x", ⟨9, 12⟩, false⟩ :: nestedTokens α n

theorem embedded_nestedTokens (n : Nat) : embedded false (nestedTokens α n) = n := by
  induction n with
  | zero => rfl
  | succ n ih =>
      simp only [nestedTokens, takingTokens, List.cons_append, List.nil_append, embedded,
        Token.Kind.takes, Token.Kind.isAssign, Operator.isStructural, Bool.and_false,
        Bool.not_false, Bool.and_self, Bool.false_eq_true, if_false, if_true, Nat.zero_add, ih]
      exact Nat.add_comm 1 n

/-- The assignment of `1 * '' # x =`. -/
def nestedAssignment : Assignment where
  target := "x"
  slot := .regrouped .mul (.decimal ⟨1, 0⟩) (.str "") .strAppend
  frame := { seen := true }

/-- A frame that has come to one. -/
def oneFrame : Frame where
  stack := [.value (.decimal ⟨1, 0⟩)]
  seen := true
  regrouped := 1

theorem after_takingTokens (nested : Nested α) (rounding : Rounding) (env : Env)
    (source : String) (outer : List Assignment) (ts : List (Token α)) :
    after nested rounding env source ⟨{}, .statement, outer, 0⟩ (takingTokens α ++ ts) =
      after nested rounding env source
        ⟨{ seen := true }, .regroupRight .mul (.decimal ⟨1, 0⟩) (.str "") .strAppend, outer, 0⟩
        ts := by
  have htaking : after nested rounding env source ⟨{}, .statement, outer, 0⟩
      (takingTokens α) =
      pure ⟨{ seen := true }, .regroupRight .mul (.decimal ⟨1, 0⟩) (.str "") .strAppend, outer,
        0⟩ := by
    cases outer <;> with_unfolding_all rfl
  rw [after_append, htaking, pure_bind]

/-- The value one that goes back to such an assignment completes its regrouping, if one
    more can be counted. -/
theorem place_nestedAssignment (rounding : Rounding) (outer : List Assignment) {m : Nat}
    (hm : m < countLimit) :
    (⟨{ nestedAssignment.frame with closed := true }, .statement, outer, m⟩ : Pass).place rounding
      nestedAssignment.slot (.decimal ⟨1, 0⟩) =
        .ok ⟨{ oneFrame with closed := true }, .statement, outer, m + 1⟩ := by
  rw [nestedAssignment, place_regrouped hm]
  with_unfolding_all rfl

/-- The innermost value completes the innermost regrouping. -/
theorem step_one (nested : Nested α) (rounding : Rounding) (env : Env) (source : String)
    (outer : List Assignment) :
    step nested rounding env source
      ⟨{ seen := true }, .regroupRight .mul (.decimal ⟨1, 0⟩) (.str "") .strAppend, outer, 0⟩
      ⟨.operand (.literal (.int 1)), ⟨9, 10⟩, false⟩ = pure ⟨oneFrame, .statement, outer, 1⟩ := by
  cases outer <;> with_unfolding_all rfl

section NestedTokens

variable (rounding : Rounding)

/-- The end of the innermost of such assignments, with one handed to the next one. -/
theorem settle_nestedAssignments_succ (n m : Nat) (vs : Variables) :
    (settle rounding { oneFrame with closed := true } .statement m
      (List.replicate (n + 1) nestedAssignment)).outcome vs =
        (do
          let q ← ofExcept ((⟨{ nestedAssignment.frame with closed := true }, .statement,
            List.replicate n nestedAssignment, m⟩ : Pass).place rounding nestedAssignment.slot
              (.decimal ⟨1, 0⟩))
          settle rounding q.frame q.expecting q.regroupings
            (List.replicate n nestedAssignment)).outcome (vs.assign "x" (.decimal ⟨1, 0⟩)) := by
  have hassigned : ({ oneFrame with closed := true } : Frame).assigned nestedAssignment.target =
      .ok (.decimal ⟨1, 0⟩) := rfl
  simp only [List.replicate_succ, settle, hassigned, ofExcept_ok, pure_bind,
    outcome_bind_of_ok _ _ _ _ _ (outcome_assign _ _ _)]
  rfl

/-- Every one of such assignments adds a regrouping to the count while it can. -/
theorem settle_nestedAssignments {n m : Nat} (hle : m + n ≤ countLimit) (vs : Variables) :
    ∃ q vs', (settle rounding { oneFrame with closed := true } .statement m
      (List.replicate n nestedAssignment)).outcome vs = (.ok q, vs') ∧ q.regroupings = m + n := by
  induction n generalizing m vs with
  | zero => exact ⟨_, _, rfl, rfl⟩
  | succ n ih =>
      rcases ih (m := m + 1) (by omega) (vs.assign "x" (.decimal ⟨1, 0⟩)) with ⟨q, vs', hq, hcount⟩
      refine ⟨q, vs', ?_, by omega⟩
      rw [settle_nestedAssignments_succ rounding, place_nestedAssignment rounding _ (by omega),
        ofExcept_ok, pure_bind]
      exact hq

/-- One assignment too many fails, with the values stored that came before. -/
theorem settle_overflow {n m : Nat} (hm : m ≤ countLimit) (hlt : countLimit < m + n)
    (vs : Variables) :
    ∃ vs', (settle rounding { oneFrame with closed := true } .statement m
      (List.replicate n nestedAssignment)).outcome vs =
        (.error (.of (.failure .overflow)), vs') := by
  induction n generalizing m vs with
  | zero => exact absurd hm (Nat.not_le.mpr hlt)
  | succ n ih =>
      rw [settle_nestedAssignments_succ]
      -- Either there is room to count one more, or this is the regrouping that overflows.
      rcases Nat.lt_or_ge m countLimit with hcount | hcount
      · rw [place_nestedAssignment rounding _ hcount, ofExcept_ok, pure_bind]
        exact ih hcount (by omega) _
      · rw [nestedAssignment, place_regrouped_of_le hcount]
        exact ⟨_, rfl⟩

/-- What such tokens come to is what becomes of the value of the innermost assignment. -/
theorem after_nestedTokens (nested : Nested α) (env : Env) (source : String) (n k : Nat)
    (vs : Variables) :
    (after nested rounding env source
      ⟨{}, .statement, List.replicate k nestedAssignment, 0⟩ (nestedTokens α n)).outcome vs =
        ((settle rounding { oneFrame with closed := true } .statement 1
          (List.replicate (k + n) nestedAssignment)).locate source 11).outcome vs := by
  -- Each round opens one more assignment inside the regrouping that waits.
  induction n generalizing k with
  | zero =>
      rw [nestedTokens, after_takingTokens, after_cons, step_one, pure_bind, after_cons]
      exact congrArg (outcome · vs) (bind_pure _)
  | succ n ih =>
      rw [nestedTokens, after_takingTokens, after_cons, Nat.add_left_comm k n 1,
        ← Nat.add_comm (k + 1) n]
      exact ih (k + 1)

end NestedTokens

/-- However a run goes and ends, operands are regrouped at most once in each of its
    frames, and in all of them together at most once more often than there are
    assignments to the right of an operator. So they are regrouped at most once if
    there are none. For any number of assignments there are tokens for which this
    bound is met, as long as the count fits its byte. Where it does not fit, the same
    tokens fail, because the count overflows. -/
theorem regroupings_le_embedded (nested : Nested α) (rounding : Rounding) (env : Env)
    (source : String) :
    (∀ (ts : List (Token α)) (leftover : Bool) (p q : Pass) (vs mid vs' : Variables),
      (after nested rounding env source start ts).outcome vs = (.ok p, mid) →
      (p.atEnd leftover).Ends rounding mid q vs' →
        q.regroupings ≤ maxRegroupings + embedded false ts ∧ q.regroupings ≤ countLimit ∧
          ∀ f ∈ q.frames, f.regrouped ≤ maxRegroupings) ∧
    ∀ n, ∃ ts : List (Token α), embedded false ts = n ∧ ∀ vs,
      (maxRegroupings + n ≤ countLimit → ∃ p vs',
        (after nested rounding env source start ts).outcome vs = (.ok p, vs') ∧
          p.regroupings = maxRegroupings + n) ∧
      (countLimit < maxRegroupings + n → ∃ e vs',
        (after nested rounding env source start ts).outcome vs = (.error e, vs') ∧
          e.cause = .failure .overflow) := by
  refine ⟨fun ts leftover p q vs mid vs' hp hends => ?_,
    fun n => ⟨nestedTokens α n, embedded_nestedTokens n, fun vs => ?_⟩⟩
  · -- The load bounds the regroupings made so far together with those that are due.
    have hrun : p.load ≤ start.load + embedded false ts ∧ p.regroupings ≤ countLimit :=
      (after_load nested rounding env source start false ts nofun (Nat.zero_le _)).of_ok hp
    have hcount : (p.atEnd leftover).regroupings ≤ countLimit :=
      p.regroupings_atEnd leftover ▸ hrun.2
    have hshaped : q.Shaped := hends.shaped ((shaped_of_after hp).atEnd leftover)
    rcases hends.load_le hcount with ⟨hload, hlimit⟩
    refine ⟨?_, hlimit, fun f hf => ?_⟩
    · have hend := Nat.le_trans hload (load_atEnd_le p leftover)
      exact Nat.le_trans (Nat.le_trans q.regroupings_le_load hend) hrun.1
    · rcases hshaped.of_mem_frames hf with ⟨n, hf'⟩
      exact hf'.regrouped_le
  · -- All assignments of the chain close at once behind its last value, each counting one.
    have hafter : (after nested rounding env source start (nestedTokens α n)).outcome vs = _ :=
      after_nestedTokens rounding nested env source n 0 vs
    rw [Nat.zero_add] at hafter
    refine ⟨fun hle => ?_, fun hlt => ?_⟩
    · rcases settle_nestedAssignments rounding hle vs with ⟨q, vs', hq, hcount⟩
      exact ⟨q, vs', hafter.trans ((outcome_locate_eq_ok _ source 11 _ _ _).mpr hq), hcount⟩
    · have hone : 1 ≤ countLimit := by decide
      rcases settle_overflow rounding hone hlt vs with ⟨vs', hq⟩
      refine ⟨(Error.of (.failure .overflow)).located source 11, vs', hafter.trans ?_, rfl⟩
      rw [locate, outcome_mapError, hq]
      rfl

/-- The tokens of `5 - '' # x = 5 - '' # 1`. -/
def twiceTokens : List (Token String) :=
  [⟨.operand (.literal (.int 5)), ⟨0, 1⟩, false⟩, ⟨.operator .sub, ⟨2, 3⟩, false⟩,
    ⟨.operand (.literal (.str "")), ⟨4, 6⟩, false⟩, ⟨.operator .strAppend, ⟨7, 8⟩, false⟩,
    ⟨.assign "x", ⟨9, 12⟩, false⟩,
    ⟨.operand (.literal (.int 5)), ⟨13, 14⟩, false⟩, ⟨.operator .sub, ⟨15, 16⟩, false⟩,
    ⟨.operand (.literal (.str "")), ⟨17, 19⟩, false⟩, ⟨.operator .strAppend, ⟨20, 21⟩, false⟩,
    ⟨.operand (.literal (.int 1)), ⟨22, 23⟩, false⟩]

/-- The pass after these tokens: one regrouping was counted, and one waits. -/
def twicePass : Pass where
  frame := { stack := [.value (.decimal ⟨4, 0⟩)], seen := true, regrouped := 1 }
  outer :=
    [⟨"x", .regrouped .sub (.decimal ⟨5, 0⟩) (.str "") .strAppend, { seen := true }⟩]
  regroupings := 1

/-- In `5 - '' # x = 5 - '' # 1` operands are regrouped twice. -/
theorem regroupings_le_embedded_two :
    Token.read "5 - '' # x = 5 - '' # 1" = ⟨twiceTokens, .finished false⟩ ∧
    (after (Interpret.evaluator {} ⟨.null, .null⟩) .halfDown ⟨.null, .null⟩
      "5 - '' # x = 5 - '' # 1" start twiceTokens).outcome (.ofGlobals .empty) =
        (.ok twicePass, .ofGlobals .empty) ∧
    ∃ q, (twicePass.atEnd false).Ends .halfDown (.ofGlobals .empty) q
        ((Variables.ofGlobals .empty).assign "x" (.decimal ⟨4, 0⟩)) ∧
      q.regroupings = 2 ∧ q.regroupings ≤ maxRegroupings + embedded false twiceTokens := by
  have hread : Token.read "5 - '' # x = 5 - '' # 1" = ⟨twiceTokens, .finished false⟩ := by
    rw [Token.read_eq 24 (by decide)]
    rfl
  have hafter : (after (Interpret.evaluator {} ⟨.null, .null⟩) .halfDown ⟨.null, .null⟩
      "5 - '' # x = 5 - '' # 1" start twiceTokens).outcome (.ofGlobals .empty) =
        (.ok twicePass, .ofGlobals .empty) := by
    with_unfolding_all rfl
  have hplace : (⟨{ seen := true }, .statement, [], 1⟩ : Pass).place .halfDown
      (.regrouped .sub (.decimal ⟨5, 0⟩) (.str "") .strAppend) (.decimal ⟨4, 0⟩) =
        .ok ⟨{ stack := [.value (.decimal ⟨1, 0⟩)], seen := true, regrouped := 1 }, .statement, [],
          2⟩ := by
    with_unfolding_all rfl
  have hends : (twicePass.atEnd false).Ends .halfDown (.ofGlobals .empty) _
      ((Variables.ofGlobals .empty).assign "x" (.decimal ⟨4, 0⟩)) :=
    .handed rfl rfl rfl hplace (.here _ _)
  exact ⟨hread, hafter, _, hends, rfl,
    ((regroupings_le_embedded _ _ _ _).1 _ false _ _ _ _ _ hafter hends).1⟩

end Pass

end Reckon
