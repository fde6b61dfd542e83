import Reckon.Proofs.Statement
import Reckon.Proofs.Unseen

/-!
# Statements That Start Over

After a condition that holds, and at the start of the branch of one that does
not, a pass is back where it started, except that an operand has been read in its
outermost frame. Only a run that ends right there can tell: without an operand
it has nothing to do.

`Pass.marked` notes that an operand was read. Reading tokens commutes with it
(`Pass.after_marked`), as nothing that a token does depends on the note; and at
the end the note makes no difference if an operand was read anyway
(`Pass.stop_marked`). So what tokens do to a statement that starts over is what
they do at the start.

## Main definitions

* `Pass.marked`: The same pass, an operand having been read.

## Theorems

* `Pass.feed_marked`: A token does to a marked pass what it does to the pass.
* `Pass.after_marked`: So do any number of tokens.
* `Pass.stop_marked`: A mark that is there already makes no difference.
-/

namespace Reckon

variable {α : Type}

/-- A frame as one that has read an operand, if no other one is around it. -/
def Frame.markIn (f : Frame) : List Assignment → Frame
  | [] => { f with seen := true }
  | _ :: _ => f

/-- The same frames, the outermost one of which has read an operand. -/
def markOuter : List Assignment → List Assignment
  | [] => []
  | a :: outer => { a with frame := a.frame.markIn outer } :: markOuter outer

theorem Frame.markIn_cons (f : Frame) (a : Assignment) (outer : List Assignment) :
    f.markIn (a :: outer) = f := rfl

theorem markOuter_cons (a : Assignment) (outer : List Assignment) :
    markOuter (a :: outer) = { a with frame := a.frame.markIn outer } :: markOuter outer := rfl

namespace Pass

/-- The same pass, the outermost frame of which has read an operand. -/
def marked (p : Pass) : Pass :=
  ⟨p.frame.markIn p.outer, p.expecting, markOuter p.outer, p.regroupings⟩

theorem marked_stack (p : Pass) : p.marked.frame.stack = p.frame.stack := by
  obtain ⟨frame, expecting, outer, regroupings⟩ := p
  cases outer <;> rfl

theorem marked_outer_isEmpty (p : Pass) : p.marked.outer.isEmpty = p.outer.isEmpty := by
  obtain ⟨frame, expecting, outer, regroupings⟩ := p
  cases outer <;> rfl

theorem marked_withStack (p : Pass) (s : Stack) :
    p.marked.withStack s = (p.withStack s).marked := by
  obtain ⟨frame, expecting, outer, regroupings⟩ := p
  cases outer <;> rfl

theorem marked_closed (frame : Frame) (outer : List Assignment) (closed : Bool) :
    { frame.markIn outer with closed := closed } =
      ({ frame with closed := closed } : Frame).markIn outer := by
  cases outer <;> rfl

theorem reduce_marked (rounding : Rounding) (regrouping : Bool) (p : Pass) (s : Stack) :
    p.marked.reduce rounding regrouping s = (p.reduce rounding regrouping s).map marked := by
  simp only [reduce, marked_withStack]
  rcases s.collapse rounding with cause | s' | ⟨op, left, right, below⟩
  · rfl
  · rfl
  · have hcount : p.marked.regroupings = p.regroupings := rfl
    simp only [hcount]
    split
    · rfl
    · rfl

theorem marked_counted (p : Pass) : p.marked.counted = p.counted.marked := by
  obtain ⟨frame, expecting, outer, regroupings⟩ := p
  cases outer <;> rfl

theorem place_marked (rounding : Rounding) (p : Pass) (slot : Slot) (v : Value) :
    p.marked.place rounding slot v = (p.place rounding slot v).map marked := by
  cases slot with
  | first =>
      obtain ⟨frame, expecting, outer, regroupings⟩ := p
      cases outer <;> rfl
  | right op =>
      simp only [place, marked_stack, reduce_marked]
  | regrouped op left right next =>
      have hregroupings : p.marked.regroupings = p.regroupings := rfl
      simp only [place, marked_stack, marked_counted, hregroupings, reduce_marked]
      split <;> rfl

theorem settle_marked (rounding : Rounding) (frame : Frame) (expecting : Expecting)
    (regroupings : Nat) (outer : List Assignment) :
    settle rounding (frame.markIn outer) expecting regroupings (markOuter outer) =
      marked <$> settle rounding frame expecting regroupings outer := by
  induction outer generalizing frame expecting regroupings with
  | nil =>
      obtain ⟨stack, closed, seen, regrouped⟩ := frame
      cases closed with
      | false => cases expecting <;> rfl
      | true =>
          cases expecting with
          | statement =>
              simp only [settle, Frame.markIn, markOuter]
              split <;> rfl
          | _ => rfl
  | cons a outer ih =>
      obtain ⟨stack, closed, seen, regrouped⟩ := frame
      cases closed with
      | false => cases expecting <;> rfl
      | true =>
          cases expecting with
          | statement =>
              simp only [Frame.markIn_cons, markOuter_cons, settle, map_bind]
              refine bind_congr fun v => bind_congr fun _ => ?_
              -- The value goes to a marked frame, which changes nothing but the mark.
              have hplace := place_marked rounding
                ⟨{ a.frame with closed := true }, .statement, outer, regroupings⟩ a.slot v
              simp only [marked, ← marked_closed] at hplace
              rw [hplace]
              cases hq : place rounding
                ⟨{ a.frame with closed := true }, .statement, outer, regroupings⟩ a.slot v with
              | error cause => rfl
              | ok q =>
                  have houter : q.outer = outer := (placed_of_place hq).outer_eq
                  subst houter
                  exact ih _ _ _
          | _ => rfl

theorem close_marked (rounding : Rounding) (p : Pass) :
    p.marked.close rounding = marked <$> p.close rounding := by
  have hclosed := marked_closed p.frame p.outer true
  exact (congrArg (settle rounding · .statement p.regroupings (markOuter p.outer)) hclosed).trans
    (settle_marked rounding _ _ _ _)

theorem operand_marked (rounding : Rounding) (p : Pass) (slot : Slot) (value : Eval Value) :
    p.marked.operand rounding slot value = marked <$> p.operand rounding slot value := by
  unfold operand
  simp only [map_bind]
  refine bind_congr fun v => ?_
  rw [place_marked]
  cases p.place rounding slot v with
  | error cause => rfl
  | ok q => exact settle_marked rounding _ _ _ _

/-- No token sees the mark. -/
theorem unseen_marked : Unseen marked where
  expecting_eq _ := rfl
  stack_eq := marked_stack
  withStack_eq := marked_withStack
  expect_eq _ _ := rfl
  target_eq _ _ _ := rfl
  place_eq := place_marked

/-- A token does to a marked pass what it does to the pass. -/
theorem feed_marked (rounding : Rounding) (p : Pass) (kind : Token.Kind α) (shown : String)
    (value : Operand α → Eval Value) :
    p.marked.feed rounding kind shown value = marked <$> p.feed rounding kind shown value :=
  unseen_marked.feed kind shown value (fun q _ slot m => operand_marked rounding q slot m)
    fun _ q => ⟨q.marked_outer_isEmpty, close_marked rounding q⟩

theorem step_marked (nested : Nested α) (rounding : Rounding) (env : Env) (source : String)
    (p : Pass) (t : Token α) :
    p.marked.step nested rounding env source t =
      marked <$> p.step nested rounding env source t := by
  unfold step
  rw [feed_marked]
  exact Eval.mapError_map _ _ _

/-- Tokens do to a marked pass what they do to the pass. -/
theorem after_marked (nested : Nested α) (rounding : Rounding) (env : Env) (source : String)
    (p : Pass) (ts : List (Token α)) :
    after nested rounding env source p.marked ts =
      marked <$> after nested rounding env source p ts := by
  induction ts generalizing p with
  | nil => rfl
  | cons t ts ih =>
      rw [after_cons, after_cons, step_marked, bind_map_left, map_bind]
      exact bind_congr fun q => ih q

/-- A mark that is there already makes no difference at the end. -/
theorem finish_marked (rounding : Rounding) (frame : Frame) (expecting : Expecting)
    (regroupings : Nat) (outer : List Assignment) (hseen : outer = [] → frame.seen = true)
    (houter : OuterBegun outer) :
    finish rounding (frame.markIn outer) expecting regroupings (markOuter outer) =
      finish rounding frame expecting regroupings outer := by
  -- The mark stands in the outermost frame, which is reached last.
  induction outer generalizing frame expecting regroupings with
  | nil =>
      obtain ⟨stack, closed, seen, regrouped⟩ := frame
      cases hseen rfl
      rfl
  | cons a outer ih =>
      simp only [Frame.markIn_cons, markOuter_cons, finish]
      split
      · rfl
      · refine bind_congr fun v => bind_congr fun _ => ?_
        have hplace := place_marked rounding
          ⟨{ a.frame with closed := false }, .statement, outer, regroupings⟩ a.slot v
        simp only [marked, ← marked_closed] at hplace
        rw [hplace]
        -- The frame that took the value is the outermost one now, or has one around it still.
        cases hq : place rounding
          ⟨{ a.frame with closed := false }, .statement, outer, regroupings⟩ a.slot v with
        | error cause => rfl
        | ok q =>
            have hplaced := placed_of_place hq
            have hqouter : q.outer = outer := hplaced.outer_eq
            subst hqouter
            exact ih _ _ _ (fun _ => hplaced.seen_of_imp (houter a List.mem_cons_self))
              fun b hb => houter b (List.mem_cons_of_mem _ hb)

theorem stop_marked (rounding : Rounding) {p : Pass} (h : p.Begun) (hstarted : p.Started)
    (hexp : p.expecting ≠ .another) (leftover leftover' : Bool) :
    p.marked.stop rounding (.finished leftover) = p.stop rounding (.finished leftover') := by
  have hmarked : p.marked.expecting ≠ .another := hexp
  simp only [stop, atEnd_of_ne_another hexp, atEnd_of_ne_another hmarked]
  exact finish_marked rounding _ _ _ _ hstarted h.outer

end Pass

end Reckon
