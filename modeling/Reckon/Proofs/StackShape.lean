import Reckon.Program
import Reckon.Proofs.Collapse
import Reckon.Proofs.Operand
import Reckon.Proofs.Run

/-!
# The Shape of the Stack

Every stack that a pass works with alternates between values and operators, and
stays small. This is an invariant of the whole pass, not of the frame that
happens to be innermost: the frames around it wait in the middle of a
statement, some of them in the middle of a regrouping, and have to be in shape
when a value comes back to them.

What makes the invariant go through is what a slot may be found on
(`Slot.Fits`). A right operand comes on top of a value and under an operator
that is no junction, so that working it off leaves the stack as short as it
was. A regrouping is only started on an empty stack, because a frame that has
not regrouped yet never holds more than one entry; and it is started at most
once in a frame, because the budget of the pass is spent afterwards. The five
entries of a regrouping are therefore the most that a frame can be left with,
and an operator and its right operand on top of them are seven.

## Main definitions

* `Frame.Shaped`: A stack that alternates, no longer than its history allows.
* `Slot.Fits`, `Expecting.Fits`: What a frame that waits is like.
* `Pass.Shaped`: The invariant of a pass.
* `Slot.pushed`: A stack with a value put in its place.
* `Pass.Holds`: The stacks that a pass holds until it reads its next token.

## Theorems

* `Pass.feed_ensures`: A token keeps the invariant.
* `Pass.after_ensures`: A run keeps it.
* `Pass.run_ensures`: A run does not end in a malformed stack.
* `Interpret.nested_ensures`, `Program.runNested_ensures`: Nor does any run
  inside it.
* `Pass.stack_shape`: Every stack alternates and has at most seven entries.
-/

namespace Reckon

open Eval

/-- A frame whose stack alternates and is no longer than its regroupings
    explain, of which there is at most one. `budget` is how often operands were
    regrouped in the whole pass. -/
structure Frame.Shaped (f : Frame) (budget : Nat) : Prop where
  alternates : f.stack.Alternates
  length_le : f.stack.length ≤ 1 + 4 * f.regrouped
  regrouped_le : f.regrouped ≤ maxRegroupings
  spent : f.regrouped ≤ budget

theorem Frame.Shaped.mono {f : Frame} {m n : Nat} (h : f.Shaped m) (hmn : m ≤ n) : f.Shaped n :=
  ⟨h.alternates, h.length_le, h.regrouped_le, Nat.le_trans h.spent hmn⟩

/-- A frame with its stack exchanged for one that is no longer. -/
theorem Frame.Shaped.withStack {f : Frame} {n : Nat} (h : f.Shaped n) {s : Stack}
    (halt : s.Alternates) (hlen : s.length ≤ f.stack.length) :
    ({ f with stack := s } : Frame).Shaped n :=
  ⟨halt, Nat.le_trans hlen h.length_le, h.regrouped_le, h.spent⟩

/-- The marks of a frame say nothing about its shape. -/
theorem Frame.Shaped.marked {f : Frame} {n : Nat} (h : f.Shaped n) {closed seen : Bool} :
    ({ f with closed := closed, seen := seen } : Frame).Shaped n :=
  ⟨h.alternates, h.length_le, h.regrouped_le, h.spent⟩

/-- What the frame is like in which a value is awaited. -/
def Slot.Fits (f : Frame) : Slot → Prop
  | .first => f.stack.length % 2 = 0
  | .right op => f.stack.length % 2 = 1 ∧ op ≠ .and ∧ op ≠ .or
  | .regrouped _ _ _ _ => f.stack = [] ∧ f.regrouped = 0

theorem Slot.Fits.marked {f : Frame} {slot : Slot} (h : slot.Fits f) {closed seen : Bool} :
    slot.Fits { f with closed := closed, seen := seen } := by
  cases slot <;> exact h

/-- What the frame is like in which a token is awaited. -/
def Expecting.Fits (f : Frame) : Expecting → Prop
  | .right op => Slot.Fits f (.right op)
  | .regroup op l r => Slot.Fits f (.regrouped op l r op)
  | .regroupRight op l r next => Slot.Fits f (.regrouped op l r next)
  | _ => True

namespace Pass

/-- Every frame of a pass is in shape, and waits as a frame may wait. -/
structure Shaped (p : Pass) : Prop where
  frame : p.frame.Shaped p.regroupings
  expecting : p.expecting.Fits p.frame
  outer : ∀ a ∈ p.outer, a.frame.Shaped p.regroupings ∧ a.slot.Fits a.frame

theorem shaped_start : start.Shaped :=
  ⟨⟨trivial, Nat.zero_le _, Nat.zero_le _, Nat.zero_le _⟩, trivial, fun _ ha => nomatch ha⟩

/-- What is left over at the end of the tokens may empty the stack. -/
theorem Shaped.atEnd {p : Pass} (h : p.Shaped) (leftover : Bool) :
    (p.atEnd leftover).Shaped := by
  unfold Pass.atEnd
  split
  · split
    · exact ⟨h.frame.withStack trivial (Nat.zero_le _), trivial, h.outer⟩
    · exact h
  · exact h

/-- A cause that lies in the values does not blame the layout of a stack. -/
theorem ne_malformed_of_category {cause : Cause} (h : cause.category ≠ .compile) :
    cause ≠ .illFormed .malformed := by
  rintro rfl
  exact h rfl

/-- A pass that takes an operand is in shape, and so is the place for it. -/
theorem shaped_ready {p : Pass} {slot : Slot} (h : p.Shaped) (hslot : p.slot? = some slot) :
    p.ready.frame.Shaped p.ready.regroupings ∧ slot.Fits p.ready.frame ∧
      ∀ a ∈ p.ready.outer, a.frame.Shaped p.ready.regroupings ∧ a.slot.Fits a.frame := by
  have hexpecting := h.expecting
  unfold ready
  unfold slot? at hslot
  split at hslot
  next hexp =>
    -- A statement takes an operand only where no value is on top of its stack.
    simp only [hexp]
    rcases hst : p.frame.stack with _ | ⟨v | op, below⟩
    · simp only [hst, Option.some.injEq] at hslot
      subst hslot
      exact ⟨h.frame, by simp only [Slot.Fits, hst, List.length_nil], h.outer⟩
    · simp only [hst, reduceCtorEq] at hslot
    · simp only [hst, Option.some.injEq] at hslot
      subst hslot
      have halt := h.frame.alternates
      rw [hst] at halt
      have hodd := halt.1
      refine ⟨h.frame, ?_, h.outer⟩
      simp only [Slot.Fits, hst, List.length_cons]
      omega
  next hexp =>
    -- Another statement starts, on a stack that was emptied.
    simp only [hexp]
    cases hslot
    exact ⟨h.frame.withStack trivial (Nat.zero_le _), rfl, h.outer⟩
  next op hexp =>
    simp only [hexp]
    cases hslot
    rw [hexp] at hexpecting
    exact ⟨h.frame, hexpecting, h.outer⟩
  next op left right next hexp =>
    simp only [hexp]
    cases hslot
    rw [hexp] at hexpecting
    exact ⟨h.frame, hexpecting, h.outer⟩
  next => cases hslot

/-- A turn keeps every frame in shape. -/
theorem Turn.shaped {p q : Pass} (ht : Turn p q) (h : p.Shaped) : q.Shaped := by
  cases ht with
  | stay => exact h
  | restart _ => exact ⟨h.frame.withStack trivial (Nat.zero_le _), trivial, h.outer⟩
  | drop _ hst =>
      have halt := h.frame.alternates
      rw [hst] at halt
      refine ⟨h.frame.withStack halt.2 ?_, trivial, h.outer⟩
      simp only [hst, List.length_cons]
      omega
  | @await v below op _ hst hop =>
      have halt := h.frame.alternates
      rw [hst] at halt
      have heven := halt.1
      refine ⟨h.frame, ⟨?_, ?_, ?_⟩, h.outer⟩
      · simp only [hst, List.length_cons]
        omega
      · rintro rfl
        cases hop
      · rintro rfl
        cases hop
  | skip _ _ => exact ⟨h.frame, trivial, h.outer⟩
  | skipBranch _ _ => exact ⟨h.frame.withStack trivial (Nat.zero_le _), trivial, h.outer⟩
  | nest _ => exact ⟨h.frame, trivial, h.outer⟩
  | resume _ => exact ⟨h.frame, trivial, h.outer⟩
  | regroup hexp _ =>
      have hexpecting := h.expecting
      rw [hexp] at hexpecting
      exact ⟨h.frame, hexpecting, h.outer⟩
  | target hslot =>
      -- The frame that waits for the assigned value joins the ones around it.
      rcases shaped_ready h hslot with ⟨hframe, hfits, houter⟩
      refine ⟨⟨trivial, Nat.zero_le _, Nat.zero_le _, Nat.zero_le _⟩, trivial, fun a ha => ?_⟩
      rcases List.mem_cons.mp ha with rfl | ha
      · exact ⟨hframe, hfits⟩
      · exact houter a ha

/-- What is missing at the end of the tokens is not a matter of layout. -/
theorem missing?_ne_malformed (expecting : Expecting) (cause : Cause)
    (h : missing? expecting = some cause) : cause ≠ .illFormed .malformed := by
  unfold missing? at h
  split at h
  all_goals cases h
  all_goals simp only [ne_eq, Cause.illFormed.injEq, reduceCtorEq, not_false_eq_true]

section Invariant

-- `E` holds of every error that has no place, unless it blames the layout of a
-- stack.
variable {α : Type} {E : Error → Prop}
  (hE : ∀ cause, cause ≠ .illFormed .malformed → E (Error.of cause))

include hE

/-- Working off a stack of the innermost frame. What is left over after it is
    stuck has to be short enough for a regrouping, if there may be one. -/
theorem reduce_ensures (rounding : Rounding) (regrouping : Bool) (p : Pass) (s : Stack) (n : Nat)
    (hw : Stack.Within n (s.collapse rounding)) (hn : n ≤ 1 + 4 * p.frame.regrouped)
    (hle : p.frame.regrouped ≤ maxRegroupings) (hspent : p.frame.regrouped ≤ p.regroupings)
    (houter : ∀ a ∈ p.outer, a.frame.Shaped p.regroupings ∧ a.slot.Fits a.frame) :
    (ofExcept (p.reduce rounding regrouping s)).Ensures (fun q => q.Shaped ∧ q.outer = p.outer)
      E := by
  unfold reduce
  rcases hc : s.collapse rounding with cause | s' | ⟨op, left, right, below⟩
  · rw [hc] at hw
    exact ensures_fail cause (hE cause hw)
  · rw [hc] at hw
    rcases hw with ⟨halt, _, hlen⟩
    exact ensures_pure _ ⟨⟨⟨halt, Nat.le_trans hlen hn, hle, hspent⟩, trivial, houter⟩, rfl⟩
  · rw [hc] at hw
    rcases hw with ⟨halt, _, hlen⟩
    by_cases hreg : (regrouping || decide (maxRegroupings ≤ p.regroupings)) = true
    · simp only [hreg, if_true]
      exact ensures_fail _ (hE _ Cause.noConfusion)
    · have hnone : p.regroupings < maxRegroupings := by
        simp only [Bool.or_eq_true, decide_eq_true_eq, not_or, Nat.not_le] at hreg
        exact hreg.2
      simp only [hreg, if_false, Bool.false_eq_true]
      -- Nothing was regrouped yet, so the stack held one value and is empty now.
      have hzero : p.frame.regrouped = 0 := by simp only [maxRegroupings] at hnone; omega
      have hnil : below = [] := List.eq_nil_of_length_eq_zero (by omega)
      subst hnil
      exact ensures_pure _ ⟨⟨⟨halt, Nat.zero_le _, hle, hspent⟩, ⟨rfl, hzero⟩, houter⟩, rfl⟩

/-- Putting a value in its place keeps every frame in shape. -/
theorem place_ensures (rounding : Rounding) (p : Pass) (slot : Slot) (v : Value)
    (hframe : p.frame.Shaped p.regroupings) (hslot : slot.Fits p.frame)
    (houter : ∀ a ∈ p.outer, a.frame.Shaped p.regroupings ∧ a.slot.Fits a.frame) :
    (ofExcept (p.place rounding slot v)).Ensures (fun q => q.Shaped ∧ q.outer = p.outer) E := by
  cases slot with
  | first =>
      have heven : p.frame.stack.length % 2 = 0 := hslot
      have hlen := hframe.length_le
      refine ensures_pure _ ⟨⟨⟨⟨heven, hframe.alternates⟩, ?_, hframe.regrouped_le, hframe.spent⟩,
        trivial, houter⟩, rfl⟩
      simp only [withStack, List.length_cons]
      omega
  | right op =>
      -- No junction, so nothing is put back: the stack is as short as it was.
      rcases hslot with ⟨hodd, hand, hor⟩
      exact reduce_ensures hE rounding false p _ _
        (Stack.collapse_pushed rounding op v _ hand hor hframe.alternates hodd)
        hframe.length_le hframe.regrouped_le hframe.spent houter
  | regrouped op left right next =>
      -- Five entries on an empty stack, and the only regrouping of this frame.
      rcases hslot with ⟨hnil, hzero⟩
      have hwork : Stack.Workable
          (.op next :: .value v :: .value right :: .op op :: .value left :: p.frame.stack) := by
        refine Or.inr ⟨next, v, _, rfl, ?_⟩
        simp only [hnil, Stack.Alternates, List.length_cons, List.length_nil, and_true]
      have hspent := hframe.spent
      rcases Nat.lt_or_ge p.regroupings countLimit with hcount | hcount
      case inr =>
        rw [place_regrouped_of_le hcount]
        exact ensures_fail _ (hE _ Cause.noConfusion)
      rw [place_regrouped hcount]
      refine reduce_ensures hE rounding true _ _ _ (Stack.collapse_workable rounding _ hwork)
        ?_ ?_ ?_ fun a ha => ⟨(houter a ha).1.mono (Nat.le_succ _), (houter a ha).2⟩
      · simp only [regrouped_counted, hnil, hzero, List.length_cons, List.length_nil]
        omega
      · simp only [regrouped_counted, hzero, maxRegroupings, Nat.zero_add, Nat.le_refl]
      · simp only [regrouped_counted, regroupings_counted]
        omega

/-- A frame that has not come down to a value to be stored is incomplete. -/
theorem assigned_ensures (f : Frame) (target : String) :
    (ofExcept (f.assigned target)).Ensures (fun _ => True) E := by
  unfold Frame.assigned
  split
  · exact ensures_pure _ trivial
  all_goals
    exact ensures_fail _ (hE _ (Cause.illFormed_ne_malformed Problem.noConfusion))

/-- Handing the value of a frame to the one around it keeps that one and all
    others in shape, whether it is then closed or not. -/
theorem handed_shaped {β : Type} {R : β → Prop} {expecting : Expecting} (rounding : Rounding)
    (frame : Frame) (a : Assignment) (outer : List Assignment) (regroupings : Nat)
    {closed : Bool} (k : Pass → Eval β)
    (h : Shaped ⟨frame, expecting, a :: outer, regroupings⟩)
    (hk : ∀ p, Shaped ⟨p.frame, p.expecting, outer, p.regroupings⟩ → (k p).Ensures R E) :
    (do
      let v ← ofExcept (frame.assigned a.target)
      Eval.assign a.target v
      let p ← ofExcept (Pass.place rounding
        ⟨{ a.frame with closed := closed }, .statement, outer, regroupings⟩ a.slot v)
      k p).Ensures R E := by
  -- The frame that takes the value was kept in shape while it waited, and so was its slot.
  rcases h.outer a List.mem_cons_self with ⟨hframe, hfits⟩
  have hrest : ∀ b ∈ outer, b.frame.Shaped regroupings ∧ b.slot.Fits b.frame :=
    fun b hb => h.outer b (List.mem_cons_of_mem _ hb)
  refine handed_ensures frame a.target _ k (assigned_ensures hE frame a.target)
    (fun v => place_ensures hE rounding ⟨_, .statement, outer, regroupings⟩ a.slot v
      hframe.marked hfits.marked hrest) fun p hp => ?_
  rcases hp with ⟨hshaped, houter⟩
  refine hk p ⟨hshaped.frame, hshaped.expecting, ?_⟩
  rw [← houter]
  exact hshaped.outer

/-- Handing values outward keeps every frame in shape. -/
theorem settle_ensures (rounding : Rounding) (frame : Frame) (expecting : Expecting)
    (regroupings : Nat) (outer : List Assignment)
    (h : Shaped ⟨frame, expecting, outer, regroupings⟩) :
    (settle rounding frame expecting regroupings outer).Ensures Shaped E := by
  induction outer generalizing frame expecting regroupings with
  | nil =>
      -- The outermost frame keeps its value.
      unfold settle
      split
      · split
        · exact ensures_fail _ (hE _ (Cause.illFormed_ne_malformed Problem.noConfusion))
        · exact ensures_pure _ ⟨⟨h.frame.alternates, h.frame.length_le, h.frame.regrouped_le,
            h.frame.spent⟩, trivial, h.outer⟩
      · exact ensures_pure _ h
  | cons a outer ih =>
      unfold settle
      split
      · exact handed_shaped hE rounding frame a outer regroupings _ h fun p hp => ih _ _ _ hp
      · exact ensures_pure _ h

/-- The end of a statement keeps every frame in shape. -/
theorem close_ensures (rounding : Rounding) (p : Pass) (h : p.Shaped) :
    (p.close rounding).Ensures Shaped E :=
  settle_ensures hE rounding _ _ _ _ ⟨h.frame.marked, trivial, h.outer⟩

/-- Every token keeps every frame in shape. -/
theorem feed_ensures (rounding : Rounding) (p : Pass) (kind : Token.Kind α) (shown : String)
    (value : Operand α → Eval Value) (h : p.Shaped)
    (hvalue : ∀ o, kind = .operand o → (value o).Ensures (fun _ => True) E) :
    (p.feed rounding kind shown value).Ensures Shaped E := by
  have hcases := feed_cases rounding p kind shown value
  generalize p.feed rounding kind shown value = m at hcases
  cases hcases with
  | turn ht => exact ensures_pure _ (ht.shaped h)
  | refuse hcause => exact ensures_fail _ (hE _ hcause)
  | @take slot o hslot hk =>
      -- An operand is placed in a frame that its slot fits, and then the pass settles.
      rcases shaped_ready h hslot with ⟨hframe, hfits, houter⟩
      refine ensures_bind (hvalue o hk) fun v _ => ?_
      refine ensures_bind (place_ensures hE rounding p.ready slot v hframe hfits houter)
        fun q hq => ?_
      exact settle_ensures hE rounding _ _ _ _ hq.1
  | close _ _ => exact close_ensures hE rounding p h

/-- The end of a run blames no stack for its layout. -/
theorem finish_ensures (rounding : Rounding) (frame : Frame) (expecting : Expecting)
    (regroupings : Nat) (outer : List Assignment)
    (h : Shaped ⟨frame, expecting, outer, regroupings⟩) :
    (finish rounding frame expecting regroupings outer).Ensures (fun _ => True) E := by
  -- The assignments still open finish one by one, from the inside out.
  induction outer generalizing frame expecting regroupings with
  | nil =>
      unfold finish
      split
      next cause hc => exact ensures_fail _ (hE cause (missing?_ne_malformed _ cause hc))
      next =>
        unfold Frame.result
        split
        · exact ensures_fail _ (hE _ Cause.noConfusion)
        · split
          · exact ensures_pure _ trivial
          · exact ensures_fail _ (hE _ (Cause.illFormed_ne_malformed Problem.noConfusion))
          · exact ensures_pure _ trivial
  | cons a outer ih =>
      unfold finish
      split
      next cause hc => exact ensures_fail _ (hE cause (missing?_ne_malformed _ cause hc))
      next => exact handed_shaped hE rounding frame a outer regroupings _ h fun p hp => ih _ _ _ hp

end Invariant

/-- The pass after a value was put in its place is in shape. -/
theorem shaped_of_place {rounding : Rounding} {p q : Pass} {slot : Slot} {v : Value}
    (hframe : p.frame.Shaped p.regroupings) (hfits : slot.Fits p.frame)
    (houter : ∀ a ∈ p.outer, a.frame.Shaped p.regroupings ∧ a.slot.Fits a.frame)
    (h : p.place rounding slot v = .ok q) : q.Shaped :=
  ((place_ensures (E := fun _ => True) (fun _ _ => trivial) rounding p slot v hframe hfits
    houter).of_ok ((outcome_ofExcept_eq_ok _ _ (.ofGlobals .empty) _).mpr ⟨h, rfl⟩)).1

section Runs

-- `P` holds of every cause but that one. A run raises it only if something inside
-- it does.
variable {α : Type} {P : Cause → Prop} (hP : ∀ cause, cause ≠ .illFormed .malformed → P cause)

include hP

/-- The operands of a token raise no complaint about the layout of a stack if
    the expressions inside it raise none. -/
theorem value_ensures (nested : Nested α) (env : Env) (source : String) (t : Token α)
    (h : ∀ a ∈ t.nested, (nested.eval a).Ensures (fun _ => True) fun e => P e.cause) (o : Operand α)
    (ho : t.kind = .operand o) :
    (t.value nested env source o).Ensures (fun _ => True) fun e => P e.cause := by
  refine t.value_ensures nested env source o (fun _ hc =>
    hP _ (ne_malformed_of_category hc)) fun a ha => h a ?_
  unfold Token.nested
  rw [ho]
  exact ha

/-- A run keeps every frame in shape. -/
theorem after_ensures (nested : Nested α) (rounding : Rounding) (env : Env) (source : String)
    (p : Pass) (ts : List (Token α)) (h : p.Shaped)
    (hnested : ∀ t ∈ ts, ∀ a ∈ t.nested,
      (nested.eval a).Ensures (fun _ => True) fun e => P e.cause) :
    (after nested rounding env source p ts).Ensures Shaped fun e => P e.cause := by
  refine after_invariant nested rounding env source p ts h fun t ht q hq => ?_
  have hvalue := value_ensures hP nested env source t (hnested t ht)
  exact ensures_mapError (feed_ensures hP rounding q t.kind _ _ hq hvalue) fun _ he => he

theorem stop_ensures (rounding : Rounding) (p : Pass) (ending : Reading.End) (h : p.Shaped) :
    (p.stop rounding ending).Ensures (fun _ => True) fun e => P e.cause := by
  unfold stop
  split
  next fault =>
    exact ensures_throw _ (hP _ (Cause.illFormed_ne_malformed Problem.noConfusion))
  next leftover => exact finish_ensures hP rounding _ _ _ _ (h.atEnd leftover)

/-- No run ends in a malformed stack, unless one inside it does. -/
theorem run_ensures (nested : Nested α) (rounding : Rounding) (env : Env) (source : String)
    (reading : Reading α)
    (h : ∀ t ∈ reading.tokens, ∀ a ∈ t.nested,
      (nested.eval a).Ensures (fun _ => True) fun e => P e.cause) :
    (run nested rounding env source reading).Ensures (fun _ => True) fun e => P e.cause := by
  unfold run
  rw [runFrom_eq]
  refine ensures_bind (after_ensures hP nested rounding env source start _ shaped_start h)
    fun q hq => ?_
  exact ensures_mapError (stop_ensures hP rounding q _ hq) fun _ he => he

end Runs

end Pass

/-- The value of an expression inside another never ends in a malformed
    stack. -/
theorem Interpret.nested_ensures (config : Config) (env : Env) (text : String) :
    (Interpret.nested config env text).Ensures (fun _ => True)
      fun e => e.cause ≠ .illFormed .malformed := by
  -- The recursion is on the texts inside the text, which are shorter.
  fun_induction Interpret.nested config env text with
  | case1 text hblank => exact ensures_fail _ Cause.noConfusion
  | case2 text hblank ih =>
      exact ensures_map (Pass.run_ensures (fun _ h => h) _ config.rounding env text _
        fun _ _ a _ => ih a)

theorem Program.runNested_ensures (config : Config) (env : Env) (p : Program) :
    (Program.runNested config env p).Ensures (fun _ => True)
      fun e => e.cause ≠ .illFormed .malformed := by
  fun_induction Program.runNested config env p with
  | case1 p ih =>
      exact ensures_map (Pass.run_ensures (fun _ h => h) _ config.rounding env p.source _
        fun _ _ a _ => ih a)

/-- A stack with a value put in its place, before it is worked off. -/
def Slot.pushed (v : Value) (stack : Stack) : Slot → Stack
  | .first => .value v :: stack
  | .right o => .op o :: .value v :: stack
  | .regrouped o l r next => .op next :: .value v :: .value r :: .op o :: .value l :: stack

namespace Pass

/-- The frames of a pass, from the inside out. -/
def frames (p : Pass) : List Frame :=
  p.frame :: p.outer.map Assignment.frame

/-- The frames of a pass that wait for a value, with the slots it goes to: those
    around the innermost one, and the innermost one itself if an operand may
    come next. -/
def waiting (p : Pass) : List (Frame × Slot) :=
  match p.slot? with
  | some slot => (p.ready.frame, slot) :: p.outer.map fun a => (a.frame, a.slot)
  | none => p.outer.map fun a => (a.frame, a.slot)

/-- The stacks that a frame of a pass may hold from the token read last to the
    next one: its own, and where it waits for a value all that it goes through
    when the value comes, entry by entry. -/
inductive Holds (rounding : Rounding) (p : Pass) : Stack → Prop
  | between {f : Frame} : f ∈ p.frames → Holds rounding p f.stack
  | pushing {f : Frame} {slot : Slot} {v : Value} {s : Stack} : (f, slot) ∈ p.waiting →
      s <:+ slot.pushed v f.stack → Holds rounding p s
  | reducing {f : Frame} {slot : Slot} {v : Value} {s : Stack} : (f, slot) ∈ p.waiting →
      slot ≠ .first → Stack.Passes rounding (slot.pushed v f.stack) s → Holds rounding p s

theorem Shaped.of_mem_frames {p : Pass} (h : p.Shaped) {f : Frame} (hf : f ∈ p.frames) :
    ∃ n, f.Shaped n := by
  rcases List.mem_cons.mp hf with rfl | hf
  · exact ⟨_, h.frame⟩
  · rcases List.mem_map.mp hf with ⟨a, ha, rfl⟩
    exact ⟨_, (h.outer a ha).1⟩

/-- A frame that waits for a value is in shape, and so is the place for it. -/
theorem Shaped.of_mem_waiting {p : Pass} (h : p.Shaped) {f : Frame} {slot : Slot}
    (hmem : (f, slot) ∈ p.waiting) : (∃ n, f.Shaped n) ∧ slot.Fits f := by
  -- What waits is the open frame with its slot, or an assignment around it.
  have hrest : (f, slot) ∈ p.outer.map (fun a => (a.frame, a.slot)) →
      (∃ n, f.Shaped n) ∧ slot.Fits f := by
    intro hm
    rcases List.mem_map.mp hm with ⟨a, ha, heq⟩
    cases heq
    exact ⟨⟨_, (h.outer a ha).1⟩, (h.outer a ha).2⟩
  unfold waiting at hmem
  split at hmem
  next slot' hslot =>
    rcases List.mem_cons.mp hmem with heq | hm
    · cases heq
      rcases shaped_ready h hslot with ⟨hframe, hfits, _⟩
      exact ⟨⟨_, hframe⟩, hfits⟩
    · exact hrest hm
  next => exact hrest hmem

/-- A value makes a stack at most seven entries high. -/
theorem length_pushed_le {f : Frame} {n : Nat} {slot : Slot} (v : Value) (h : f.Shaped n)
    (hslot : slot.Fits f) : (slot.pushed v f.stack).length ≤ 7 := by
  have hlen := h.length_le
  have hle := h.regrouped_le
  simp only [maxRegroupings] at hle
  cases slot with
  | first =>
      simp only [Slot.pushed, List.length_cons]
      omega
  | right op =>
      simp only [Slot.pushed, List.length_cons]
      omega
  | regrouped op left right next => simp only [Slot.pushed, hslot.1, List.length_cons,
      List.length_nil, Nat.reduceAdd, Nat.reduceLeDiff]

theorem Shaped.length_le_of_holds {p : Pass} (h : p.Shaped) {rounding : Rounding} {s : Stack}
    (hs : p.Holds rounding s) : s.length ≤ 7 := by
  cases hs with
  | @between f hf =>
      rcases h.of_mem_frames hf with ⟨n, hf'⟩
      have hlen := hf'.length_le
      have hle := hf'.regrouped_le
      simp only [maxRegroupings] at hle
      omega
  | @pushing f slot v s hmem hsuffix =>
      rcases h.of_mem_waiting hmem with ⟨⟨n, hf⟩, hfits⟩
      exact Nat.le_trans hsuffix.length_le (length_pushed_le v hf hfits)
  | @reducing f slot v s hmem _ hpasses =>
      rcases h.of_mem_waiting hmem with ⟨⟨n, hf⟩, hfits⟩
      exact Nat.le_trans (Stack.length_le_of_passes hpasses) (length_pushed_le v hf hfits)

/-- Whatever the tokens are and however operands are evaluated, every stack of
    a pass that is about to read a token alternates between values and operators
    with a value at the bottom, and has at most one entry unless operands were
    regrouped on it, which happens at most once; and no stack ever has more than
    seven entries. No text and no program fails because values and operators do
    not alternate. -/
theorem stack_shape :
    (∀ (α : Type) (nested : Nested α) (rounding : Rounding) (env : Env) (source : String)
      (ts : List (Token α)) (vs vs' : Variables) (p : Pass),
      (after nested rounding env source start ts).outcome vs = (.ok p, vs') →
        (∀ f ∈ p.frames, f.stack.Alternates ∧ f.regrouped ≤ 1 ∧
          (f.regrouped = 0 → f.stack.length ≤ 1)) ∧
        ∀ s, p.Holds rounding s → s.length ≤ 7) ∧
    (∀ (config : Config) (env : Env) (text : String) (vs vs' : Variables) (e : Error),
      (Interpret.whole config env text).outcome vs = (.error e, vs') →
        e.cause ≠ .illFormed .malformed) ∧
    ∀ (config : Config) (env : Env) (program : Program) (vs vs' : Variables) (e : Error),
      (program.run config env).outcome vs = (.error e, vs') →
        e.cause ≠ .illFormed .malformed := by
  refine ⟨fun α nested rounding env source ts vs vs' p hp => ?_, ?_, ?_⟩
  · -- Whatever expressions inside tokens raise, the frames are in shape.
    have hshaped : p.Shaped :=
      (after_ensures (P := fun _ => True) (fun _ _ => trivial) nested rounding env source start ts
        shaped_start fun _ _ _ _ => ensures_true _).of_ok hp
    refine ⟨fun f hf => ?_, fun s hs => hshaped.length_le_of_holds hs⟩
    -- The bound on the stack depends on how often the frame was regrouped.
    rcases hshaped.of_mem_frames hf with ⟨n, hf'⟩
    refine ⟨hf'.alternates, hf'.regrouped_le, fun hzero => ?_⟩
    have hlen := hf'.length_le
    rw [hzero] at hlen
    exact hlen
  · intro config env text vs vs' e he
    have hrun := run_ensures (fun _ h => h) ⟨Subtype.val, fun inner : Interpret.Within text =>
      Interpret.nested config env inner.1⟩ config.rounding env text (Interpret.read text)
      fun _ _ a _ => Interpret.nested_ensures config env a.1
    exact (ensures_map (R := fun _ => True) hrun).of_error he
  · intro config env program vs vs' e he
    have hrun := run_ensures (fun _ h => h) ⟨fun q => q.1.source, fun inner : program.Within =>
      Program.runNested config env inner.1⟩ config.rounding env program.source program.read
      fun _ _ a _ => Program.runNested_ensures config env a.1
    exact (ensures_map (R := fun _ => True) hrun).of_error he

/-- The tokens of `true - 'a' || 'b' #`. -/
def regroupedTokens : List (Token String) :=
  [⟨.operand (.literal (.bool true)), ⟨0, 4⟩, false⟩, ⟨.operator .sub, ⟨5, 6⟩, false⟩,
    ⟨.operand (.literal (.str "a")), ⟨7, 10⟩, false⟩, ⟨.operator .or, ⟨11, 13⟩, false⟩,
    ⟨.operand (.literal (.str "b")), ⟨14, 17⟩, false⟩, ⟨.operator .strAppend, ⟨18, 19⟩, false⟩]

/-- The pass after these tokens: the operands of `-` were regrouped, and the
    junction has put its own back. -/
def regroupedPass : Pass where
  frame :=
    { stack := [.value (.str "b"), .op .or, .value (.str "a"), .op .sub, .value (.bool true)]
      seen := true
      regrouped := 1 }
  expecting := .right .strAppend
  regroupings := 1

/-- The bounds are met. After `true - 'a' || 'b' #` five entries are left, and
    the next value makes them seven. -/
theorem stack_shape_regrouped :
    (after ⟨id, fun _ => pure .null⟩ .halfDown ⟨.null, .null⟩ "true - 'a' || 'b' #" start
      regroupedTokens).outcome (.ofGlobals .empty) = (.ok regroupedPass, .ofGlobals .empty) ∧
    (∀ f ∈ regroupedPass.frames, f.stack.Alternates ∧ f.regrouped ≤ 1 ∧
      (f.regrouped = 0 → f.stack.length ≤ 1)) ∧
    (∃ s, regroupedPass.Holds .halfDown s ∧ s.length = 7) ∧
    ∀ s, regroupedPass.Holds .halfDown s → s.length ≤ 7 := by
  have hrun : (after ⟨id, fun _ => pure .null⟩ .halfDown ⟨.null, .null⟩ "true - 'a' || 'b' #" start
      regroupedTokens).outcome (.ofGlobals .empty) = (.ok regroupedPass, .ofGlobals .empty) := by
    with_unfolding_all rfl
  have hshape := stack_shape.1 _ _ _ _ _ _ _ _ _ hrun
  have hwaiting : (regroupedPass.frame, Slot.right .strAppend) ∈ regroupedPass.waiting :=
    List.mem_cons_self
  refine ⟨hrun, hshape.1, ?_, hshape.2⟩
  exact ⟨_, .pushing (v := .null) hwaiting (List.suffix_refl _), rfl⟩

end Pass

end Reckon
