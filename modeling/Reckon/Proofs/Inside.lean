import Reckon.Proofs.Closing
import Reckon.Proofs.ShortCircuit
import Reckon.Proofs.Unseen

/-!
# Statements Inside Assignments

The value of an assignment is read in a frame of its own, and until its
statement ends nothing in that frame looks further out. A statement inside
assignments is therefore read as it is alone (`Pass.after_inside`). At its end it
first hands outward what it hands outward alone, and then the assignments around
it come in turn (`Pass.unwind_inside`).

## Main definitions

* `Pass.inside`: The same pass with more assignments around it.

## Theorems

* `Pass.feed_inside`: A token that ends no statement, inside assignments.
* `Pass.after_inside`: Tokens without an end of statement, inside assignments.
* `Pass.unwind_inside`: The end of the tokens, inside assignments.
* `Pass.Ends.inside`: The passes that it goes through.
* `Pass.outcome_feed_end`: An end of statement, where the end of the tokens would
  come to a value.
-/

namespace Reckon

open Eval

variable {α : Type}

namespace Pass

/-- The same pass with more assignments around it. -/
def inside (more : List Assignment) (p : Pass) : Pass :=
  { p with outer := p.outer ++ more }

theorem reduce_inside (more : List Assignment) (rounding : Rounding) (regrouping : Bool) (p : Pass)
    (s : Stack) :
    (p.inside more).reduce rounding regrouping s =
      (p.reduce rounding regrouping s).map (inside more) := by
  have hcount : (p.inside more).regroupings = p.regroupings := rfl
  unfold reduce
  rcases s.collapse rounding with cause | s' | ⟨op, left, right, below⟩
  · rfl
  · rfl
  · simp only [hcount]
    split <;> rfl

theorem place_inside (more : List Assignment) (rounding : Rounding) (p : Pass) (slot : Slot)
    (v : Value) :
    (p.inside more).place rounding slot v = (p.place rounding slot v).map (inside more) := by
  cases slot with
  | first => rfl
  | right op => exact reduce_inside more rounding false p _
  | regrouped op left right next =>
      have hcounted : (p.inside more).counted = p.counted.inside more := rfl
      have hregroupings : (p.inside more).regroupings = p.regroupings := rfl
      simp only [place, hcounted, hregroupings, reduce_inside]
      split <;> rfl

/-- No token sees the assignments further out. -/
theorem unseen_inside (more : List Assignment) : Unseen (inside more) where
  expecting_eq _ := rfl
  stack_eq _ := rfl
  withStack_eq _ _ := rfl
  expect_eq _ _ := rfl
  target_eq _ _ _ := rfl
  place_eq := place_inside more

/-- In a frame that no end of statement has closed, an operand goes no further. -/
theorem operand_inside (more : List Assignment) (rounding : Rounding) (p : Pass) (slot : Slot)
    (value : Eval Value) (h : p.frame.closed = false) :
    (p.inside more).operand rounding slot value =
      inside more <$> p.operand rounding slot value := by
  have hinside : (p.inside more).frame.closed = false := h
  rw [operand_of_not_closed rounding p slot value h,
    operand_of_not_closed rounding (p.inside more) slot value hinside, map_bind]
  refine bind_congr fun v => ?_
  rw [place_inside]
  cases p.place rounding slot v <;> rfl

/-- A token that ends no statement is read inside assignments as it is alone. -/
theorem feed_inside (more : List Assignment) (rounding : Rounding) (p : Pass)
    (kind : Token.Kind α) (shown : String) (value : Operand α → Eval Value)
    (h : p.frame.closed = false) (hkind : kind.operator? ≠ some .endOfStatement) :
    (p.inside more).feed rounding kind shown value =
      inside more <$> p.feed rounding kind shown value :=
  (unseen_inside more).feed kind shown value
    (fun q hq slot m => operand_inside more rounding q slot m (hq.trans h))
    fun hend => absurd (congrArg Token.Kind.operator? hend) hkind

/-- Tokens without an end of statement are read inside assignments as they are
    alone. -/
theorem after_inside (more : List Assignment) (nested : Nested α) (rounding : Rounding) (env : Env)
    (source : String) (p : Pass) (ts : List (Token α)) (h : p.Open) (hts : Unended ts) :
    after nested rounding env source (p.inside more) ts =
      inside more <$> after nested rounding env source p ts := by
  induction ts generalizing p with
  | nil => rfl
  | cons t ts ih =>
      have ht := hts t List.mem_cons_self
      have hstep : (p.inside more).step nested rounding env source t =
          inside more <$> p.step nested rounding env source t := by
        unfold step
        rw [feed_inside more rounding p t.kind _ _ h.closed ht]
        exact mapError_map _ _ _
      rw [after_cons, after_cons, hstep, bind_map_left, map_bind]
      -- The statement is still open when the other tokens are read.
      refine ext_outcome fun vs => outcome_bind_congr _ _ _ _ vs rfl fun q mid hq => ?_
      have hensures : (p.step nested rounding env source t).Ensures Open fun _ => True :=
        ensures_mapError (feed_open rounding p t.kind _ _ h ht) fun _ _ => trivial
      have hrest := ih q (hensures.of_ok hq) fun u hu => hts u (List.mem_cons_of_mem t hu)
      exact congrArg (outcome · mid) hrest

/-- Inside assignments, the end of the tokens goes through the same passes. -/
theorem Ends.inside {rounding : Rounding} {p q : Pass} {vs vs' : Variables}
    (h : p.Ends rounding vs q vs') (more : List Assignment) :
    (p.inside more).Ends rounding vs (q.inside more) vs' := by
  induction h with
  | here => exact .here _ _
  | @handed p q r a outer v vs vs' houter hmissing hassigned hplace _ ih =>
      refine .handed (q := q.inside more) (congrArg (· ++ more) houter) hmissing hassigned ?_ ih
      have hinside := place_inside more rounding
        ⟨{ a.frame with closed := false }, .statement, outer, p.regroupings⟩ a.slot v
      rw [hplace] at hinside
      exact hinside

/-- Where the end of the tokens would lead to a frame with one value, an end of
    statement leads to that frame as well, to go on from there. -/
theorem outcome_feed_end {rounding : Rounding} {p r : Pass} {v : Value} {vs vs' : Variables}
    (hexp : p.expecting ≠ .another) (hends : p.Ends rounding vs r vs') (hnil : r.outer = [])
    (hmissing : missing? r.expecting = none) (hst : r.frame.stack = [.value v]) (shown : String)
    (value : Operand α → Eval Value) :
    (p.feed rounding (.operator .endOfStatement) shown value).outcome vs =
      (.ok ⟨{ r.frame with closed := false }, .another, [], r.regroupings⟩, vs') := by
  have hlen : r.frame.stack.length ≤ 1 := by
    rw [hst]
    exact Nat.le_refl 1
  have hread := feed_endRead rounding p shown value hexp
  generalize p.feed rounding (.operator .endOfStatement) shown value = m at hread
  cases hread with
  | closed hcloses =>
      exact ((outcome_close_eq_another rounding p _ vs vs' hcloses.missing?_eq_none).mpr
        ⟨r, hends, hnil, hmissing, hlen, rfl⟩).1
  | skipped _ houter hnone =>
      -- The frame that holds the value is the one that is there already.
      rcases hends.eq_of_outer_nil houter with ⟨rfl, _⟩
      exact absurd hst (hnone v [])
  | refused hrefused =>
      exfalso
      rcases hrefused with hne | ⟨_, houter, hnone⟩
      · exact hne (hends.missing?_eq_none hmissing)
      · cases hends with
        | here => exact houter hnil
        | handed _ _ hassigned _ _ => exact hnone _ _ (stack_of_assigned hassigned)

end Pass

end Reckon
