import Reckon.Proofs.Finding
import Reckon.Proofs.Places
import Reckon.Proofs.Shifting

/-!
# Evaluating a Text with Something around It

A text that stands inside another one, with something before and behind it, is
evaluated as it is by itself. The two evaluations look up and store the same and
come to the same values. Only the places of errors differ: an error of the inner
text names that text and counts from its start, and one of the outer text names
the outer text and counts from there (`Error.relocated`).

So the evaluations are equal up to a change of the error, and that equation goes
through the definitions from the operand to the run. An error takes one of two
ways. It has no place when the pass raises it, and is placed at the end of a
token, which stands further on in the outer text. Or it comes out of an expression
inside an operand and is moved by the offset at which that was found, and the
search finds it further on as well, because it begins further on and stops no later
than the inner text ends (`Text.offsetOf_moved`). Nothing that a pass raises by
itself has a place (`Pass.feed_mapError`), which is why the two ways are all there
is.

## Main definitions

* `Error.relocated`: An error of a text, as one of a text around it.

## Theorems

* `Text.offsetOf_moved`: Where a text is found, in a text with something around it.
* `Token.value_relocated`: The operand of a token.
* `Pass.feed_mapError`: A pass leaves the errors of its operands alone.
* `Pass.run_relocated`: A run over tokens further on.
-/

namespace Reckon

open Eval Text

variable {α β : Type}

namespace Error

/-- An error of a text, as one of the text `source` in which that text starts at
    byte `k`. What is not known of its place stays unknown. -/
def relocated (source : String) (k : Nat) (e : Error) : Error :=
  ⟨e.cause, e.expr.map fun _ => source, e.cursor.map (· + k)⟩

variable {source : String} {k n : Nat}

theorem relocated_lifted (e : Error) :
    (e.lifted n).relocated source k = e.lifted (n + k) := by
  simp only [relocated, lifted, Option.map_none, Option.map_some, Nat.add_assoc]

theorem relocated_located (inner : String) (e : Error) :
    (e.located inner n).relocated source k = (e.relocated source k).located source (n + k) := by
  rcases e with ⟨cause, expr, cursor⟩
  cases expr <;> cases cursor <;> rfl

end Error

namespace Eval

variable {source : String} {k n : Nat}

/-- Moving an error outward, and then further. -/
theorem lift_relocated (m : Eval α) :
    (m.lift n).mapError (.relocated source k) = m.lift (n + k) := by
  rw [lift, mapError_mapError]
  exact congrArg m.mapError (funext Error.relocated_lifted)

/-- Placing an error in a text, and then in the text around it. -/
theorem locate_relocated (inner : String) (m : Eval α) :
    (m.locate inner n).mapError (.relocated source k) =
      (m.mapError (.relocated source k)).locate source (n + k) := by
  rw [locate, locate, mapError_mapError, mapError_mapError]
  exact congrArg m.mapError (funext (Error.relocated_located inner))

end Eval

namespace Text

/-- What is found starts with what was looked for, and is not longer than the
    text. -/
theorem prefix_of_seek {needle cs found : List Char} (h : seek needle cs = some found) :
    needle <+: found ∧ found.length ≤ cs.length := by
  -- The search goes on behind a place where the needle does not start.
  induction cs with
  | nil =>
      rw [seek] at h
      split at h
      next hempty =>
        cases h
        rw [List.isEmpty_iff.mp hempty]
        exact ⟨List.prefix_refl [], Nat.le_refl _⟩
      next => cases h
  | cons c cs ih =>
      rw [seek] at h
      split at h
      next hstarts =>
        cases h
        exact ⟨List.isPrefixOf_iff_prefix.mp hstarts, Nat.le_refl _⟩
      next =>
        rcases ih h with ⟨hstarts, hlen⟩
        exact ⟨hstarts, Nat.le_succ_of_le hlen⟩

/-- What is found in a text is found if the text goes on. -/
theorem seek_append_of_some {needle cs found : List Char} (h : seek needle cs = some found)
    (more : List Char) : seek needle (cs ++ more) = some (found ++ more) := by
  induction cs with
  | nil =>
      rcases prefix_of_seek h with ⟨hstarts, hlen⟩
      rw [List.eq_nil_of_length_eq_zero (Nat.le_zero.mp hlen)] at hstarts ⊢
      rw [List.prefix_nil.mp hstarts]
      exact seek_self [] more
  | cons c cs ih =>
      rcases prefix_of_seek h with ⟨hstarts, hlen⟩
      rw [seek] at h
      rw [List.cons_append, seek]
      split at h
      next hhere =>
        cases h
        rw [if_pos]
        · rfl
        · rw [List.isPrefixOf_iff_prefix] at hhere ⊢
          exact hhere.trans (List.prefix_append (c :: cs) more)
      next hnot =>
        rw [if_neg, ih h]
        rw [List.isPrefixOf_iff_prefix] at hnot ⊢
        -- An occurrence that begins here would not reach into what follows.
        have hshort : needle.length ≤ (c :: cs).length := Nat.le_trans hstarts.length_le hlen
        exact fun hhere =>
          hnot (List.prefix_of_prefix_length_le hhere (List.prefix_append _ more) hshort)

/-- What is left of a text is left of a text with something around it, and what
    stands behind it. -/
theorem TailAt.around {cs tail : List Char} {n : Nat} (h : TailAt cs n tail)
    (lead trail : List Char) :
    TailAt (lead ++ (cs ++ trail)) (n + width lead) (tail ++ trail) := by
  rcases h with ⟨before, rfl, rfl⟩
  refine ⟨lead ++ before, ?_, ?_⟩
  · simp only [List.append_assoc]
  · rw [width_append, Nat.add_comm]

/-- A text inside another one is found where it was, if something is put around
    the other one. -/
theorem offsetOf_moved {cs part lead trail : List Char} {parts : List (List Char)} {start : Nat}
    (h : Holds cs start (part :: parts)) :
    offsetOf (lead ++ (cs ++ trail)) (start + width lead) part =
      offsetOf cs start part + width lead := by
  rcases h (List.cons_ne_nil part parts) with ⟨tail, htail, before, after, rfl, _⟩
  rcases seek_append part before after with ⟨before', after', hseek, heq, _⟩
  simp only [offsetOf, htail.dropBytes_eq, (htail.around lead trail).dropBytes_eq, hseek,
    seek_append_of_some hseek trail, width_append]
  omega

end Text

section Around

variable {nested : Nested α} {env : Env} {source source' : String} {lead trail : List Char}
  (hsource : source'.toList = lead ++ (source.toList ++ trail))

include hsource

theorem Operand.elementValues_relocated {start : Nat} {elements : List α}
    (hholds : Holds source.toList start ((elements.map nested.text).map String.toList)) :
    elementValues nested source' (start + width lead) elements =
      (elementValues nested source start elements).mapError (.relocated source' (width lead)) := by
  induction elements generalizing start with
  | nil => rfl
  | cons a as ih =>
      -- Each element is found at its old place, moved by the text in front.
      have hoffset : offsetOf source'.toList (start + width lead) (nested.text a).toList =
          offsetOf source.toList start (nested.text a).toList + width lead := by
        rw [hsource]
        exact offsetOf_moved hholds
      rcases hholds.find with ⟨after, _, hrest⟩
      rw [width_toList] at hrest
      simp only [elementValues, hoffset]
      rw [mapError_bind, lift_relocated]
      refine bind_congr fun v => ?_
      rw [mapError_bind, Nat.add_right_comm, ih hrest]
      rfl

theorem Operand.value_relocated {inside : Nat} {o : Operand α}
    (hholds : Holds source.toList inside ((o.nested.map nested.text).map String.toList)) :
    o.value nested env source' (inside + width lead) =
      (o.value nested env source inside).mapError (.relocated source' (width lead)) := by
  -- Only groups and lists evaluate a text inside, and so can carry a place in their errors.
  cases o with
  | literal value => rfl
  | identifier path =>
      exact (mapError_eq_self (Env.resolve_ensures (fun _ _ => rfl) env path)).symm
  | self => rfl
  | group inner =>
      simp only [value]
      rw [lift_relocated, hsource]
      exact congrArg (nested.eval inner).lift (offsetOf_moved hholds)
  | list elements =>
      have helements : elementValues nested source' (inside + width lead) elements = _ :=
        elementValues_relocated hsource hholds
      simp only [value]
      rw [mapError_bind, helements]
      rfl

/-- The operand of a token that stands in a text, in a text around that one. -/
theorem Token.value_relocated {t : Token α} {o : Operand α}
    (ht : (t.map nested.text).Stands source.toList) (ho : t.kind = .operand o) :
    (t.shift (width lead)).value nested env source' o =
      (t.value nested env source o).mapError (.relocated source' (width lead)) := by
  have hvalue : o.value nested env source' (t.span.start + 1 + width lead) = _ :=
    Operand.value_relocated hsource (ht.holds ho)
  unfold Token.value Token.shift
  rw [mapError_bind, ← hvalue, Nat.add_right_comm]
  refine bind_congr fun v => ?_
  split
  · exact (mapError_eq_self (Operand.inverse_ensures (fun _ _ => rfl) v)).symm
  · rfl

end Around

namespace Pass

section Raised

variable {E : Error → Prop} (hE : ∀ cause, E (Error.of cause))

include hE

theorem ofExcept_raises (r : Except Cause α) : (ofExcept r).Ensures (fun _ => True) E :=
  ensures_ofExcept r (fun _ _ => trivial) fun cause _ => hE cause

/-- The errors of handing values outward have no place. -/
theorem settle_raises (rounding : Rounding) (frame : Frame) (expecting : Expecting)
    (regroupings : Nat) (outer : List Assignment) :
    (settle rounding frame expecting regroupings outer).Ensures (fun _ => True) E := by
  -- Closing an assignment raises what storing and placing a value can raise.
  induction outer generalizing frame expecting regroupings with
  | nil =>
      unfold settle
      split
      · split
        · exact ensures_fail _ (hE _)
        · exact ensures_pure _ trivial
      · exact ensures_pure _ trivial
  | cons a outer ih =>
      unfold settle
      split
      · exact handed_ensures frame a.target _ _ (ofExcept_raises hE _)
          (fun v => ofExcept_raises hE _) fun q _ => ih _ _ _
      · exact ensures_pure _ trivial

/-- The errors of the end of the tokens have no place. -/
theorem finish_raises (rounding : Rounding) (frame : Frame) (expecting : Expecting)
    (regroupings : Nat) (outer : List Assignment) :
    (finish rounding frame expecting regroupings outer).Ensures (fun _ => True) E := by
  induction outer generalizing frame expecting regroupings with
  | nil =>
      unfold finish
      split
      · exact ensures_fail _ (hE _)
      · exact ofExcept_raises hE _
  | cons a outer ih =>
      unfold finish
      split
      · exact ensures_fail _ (hE _)
      · exact handed_ensures frame a.target _ _ (ofExcept_raises hE _)
          (fun v => ofExcept_raises hE _) fun q _ => ih _ _ _

/-- A token for which no operand is evaluated raises only errors without a place. -/
theorem feed_raises (rounding : Rounding) (p : Pass) (kind : Token.Kind α) (shown : String)
    (value : Operand α → Eval Value) (h : ∀ o, kind = .operand o → p.slot? = none) :
    (p.feed rounding kind shown value).Ensures (fun _ => True) E := by
  have hcases := feed_cases rounding p kind shown value
  generalize p.feed rounding kind shown value = m at hcases
  cases hcases with
  | turn => exact ensures_pure _ trivial
  | refuse => exact ensures_fail _ (hE _)
  | @take slot o hslot hk =>
      rw [h o hk] at hslot
      cases hslot
  | close => exact settle_raises hE rounding _ _ _ _

end Raised

variable {f : Error → Error}

/-- What a pass raises by itself has no place, so a change that leaves such errors
    alone changes only those of an operand. -/
theorem feed_mapError (hf : ∀ cause, f (Error.of cause) = Error.of cause) (rounding : Rounding)
    (p : Pass) (kind : Token.Kind α) (shown : String) (value : Operand α → Eval Value) :
    (p.feed rounding kind shown value).mapError f =
      p.feed rounding kind shown fun o => (value o).mapError f := by
  -- An error is changed only if it came from the value of an operand: where one is taken,
  -- and nowhere else, that value is asked for.
  by_cases hk : ∃ o slot, kind = .operand o ∧ p.slot? = some slot
  · rcases hk with ⟨o, slot, rfl, hslot⟩
    rw [feed_operand rounding p slot o shown _ hslot, feed_operand rounding p slot o shown _ hslot,
      operand, mapError_bind]
    refine bind_congr fun v => ?_
    rw [mapError_bind, mapError_eq_self (ofExcept_raises hf _)]
    exact bind_congr fun q => mapError_eq_self (settle_raises hf rounding _ _ _ _)
  · have hnone : ∀ o, kind = .operand o → p.slot? = none := by
      intro o ho
      cases hslot : p.slot? with
      | none => rfl
      | some slot => exact absurd ⟨o, slot, ho, hslot⟩ hk
    rw [mapError_eq_self (feed_raises hf rounding p kind shown value hnone)]
    refine ext_outcome fun vs => feed_congr rounding p kind shown _ _ vs fun o ho hslot => ?_
    rw [hnone o ho] at hslot
    cases hslot

/-- The end of the last of some tokens further on. -/
theorem lastStop_shift (k cursor : Nat) (ts : List (Token α)) :
    lastStop (cursor + k) (ts.map (Token.shift k)) = lastStop cursor ts + k := by
  induction ts generalizing cursor with
  | nil => rfl
  | cons t ts ih => exact ih t.span.stop

section Around

variable {nested : Nested α} {rounding : Rounding} {env : Env} {source source' : String}
  {lead trail : List Char} (hsource : source'.toList = lead ++ (source.toList ++ trail))

include hsource

/-- A token further on, in a text around the one that it stands in. -/
theorem step_relocated (p : Pass) {t : Token α} (ht : (t.map nested.text).Stands source.toList) :
    p.step nested rounding env source' (t.shift (width lead)) =
      (p.step nested rounding env source t).mapError (.relocated source' (width lead)) := by
  unfold step
  rw [locate_relocated, feed_mapError fun _ => rfl]
  refine congrArg (locate source' (t.span.stop + width lead)) ?_
  refine ext_outcome fun vs => feed_congr rounding p t.kind _ _ _ vs fun o ho _ => ?_
  rw [Token.value_relocated hsource ht ho]

theorem after_relocated (p : Pass) {ts : List (Token α)}
    (hts : ∀ t ∈ ts, (t.map nested.text).Stands source.toList) :
    after nested rounding env source' p (ts.map (Token.shift (width lead))) =
      (after nested rounding env source p ts).mapError (.relocated source' (width lead)) := by
  induction ts generalizing p with
  | nil => rfl
  | cons t ts ih =>
      rw [List.map_cons, after_cons, after_cons, mapError_bind,
        step_relocated hsource p (hts t List.mem_cons_self)]
      exact bind_congr fun q => ih q fun u hu => hts u (List.mem_cons_of_mem _ hu)

/-- A run over tokens further on, of which there are some. Without any, the end of
    the tokens would be at the start of both texts. -/
theorem run_relocated {ts : List (Token α)} {leftover : Bool}
    (hts : ∀ t ∈ ts, (t.map nested.text).Stands source.toList) (hne : ts ≠ []) :
    run nested rounding env source' ⟨ts.map (Token.shift (width lead)), .finished leftover⟩ =
      (run nested rounding env source ⟨ts, .finished leftover⟩).mapError
        (.relocated source' (width lead)) := by
  have hlast : lastStop 0 (ts.map (Token.shift (width lead))) = lastStop 0 ts + width lead := by
    cases ts with
    | nil => exact absurd rfl hne
    | cons t ts => exact lastStop_shift (width lead) t.span.stop ts
  unfold run
  rw [runFrom_eq, runFrom_eq, mapError_bind, after_relocated hsource start hts]
  refine bind_congr fun q => ?_
  rw [locate_relocated, hlast]
  -- What the end of a pass raises has no place yet, so there is nothing to move.
  refine congrArg (locate source' _) ?_
  exact (mapError_eq_self (finish_raises (fun _ => rfl) rounding _ _ _ _)).symm

end Around

end Pass

end Reckon
