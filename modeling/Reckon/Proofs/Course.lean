import Reckon.Proofs.Pulling
import Reckon.Proofs.Run

/-!
# A Reducer Beside a Pass

A reducer pulls its tokens one by one, and a pass reads all of them. When the
reducer has come to some point, the pass has come to a point of its own, from which
it still has to read the tokens that are left. What the two have in common there is
the *course* (`Course`): the source and the settings, and the outcome that the pass
comes to in the end. The outcome stays the same wherever they are. Only the way that
is left to it gets shorter, and this way is what the statements here are about
(`Course.Continues`).

The assignments that a pass keeps in a list are reducers here, each waiting for the
one inside it. The statement of the innermost one is the frame of the pass. How often
the operands of this frame were regrouped is not known to the reducer. The pass does
not need it either, so it may be any number `k`.

When a reducer is done, one of two things is so (`Course.Ends`). The reducer of an
assignment has left the rest of the tokens to the reducer around it. The outermost
one has none left.

## Main definitions

* `Reducer.pass`: The pass that has come as far as a reducer.
* `Course`: What a reducer and a pass have in common.
* `Course.Continues`: The pass comes to its outcome with the tokens that are left.
* `Course.Proceeds`, `Course.Ends`: Where a reducer goes on, and where it is done.

## Theorems

* `Course.Continues.leads_ofEval`: What both of them evaluate.
* `Course.Continues.leads_next`: A token that is pulled by one and taken by the other.
* `Course.ends_of_stop`: The end of the tokens.
-/

namespace Reckon

open Eval

/-- The operand to the right of an operator, and the place that a pass has for it. -/
inductive Expecting.Wants (op : Operator) : Expecting → Slot → Prop
  | right : Wants op (.right op) (.right op)
  | regrouped {op' : Operator} {left right : Value} :
      Wants op (.regroupRight op' left right op) (.regrouped op' left right op)

namespace Reducer

variable {σ α : Type}

/-- The statement of a reducer as a frame, whose operands were regrouped `k` times. -/
def frame (r : Reducer) (k : Nat) : Frame := ⟨r.stack, r.closed, r.seen, k⟩

/-- A pass that has come as far as a reducer. -/
def pass (r : Reducer) (k : Nat) (expecting : Expecting) (outer : List Assignment) : Pass :=
  ⟨r.frame k, expecting, outer, r.retries⟩

/-- A reducer whose statement has these assignments around it. -/
structure Within (r : Reducer) (outer : List Assignment) : Prop where
  assigns_eq : r.assigns = !outer.isEmpty
  lookahead_eq : r.lookahead = false

theorem Within.withStack {r : Reducer} {outer : List Assignment} (h : r.Within outer)
    (stack : Stack) : ({ r with stack } : Reducer).Within outer :=
  ⟨h.assigns_eq, h.lookahead_eq⟩

end Reducer

/-- What a reducer and a pass have in common, and what the pass comes to. -/
structure Course (σ α : Type) where
  src : Source σ α
  /-- The source as it was before the first token was pulled. -/
  first : σ
  nested : Nested α
  rounding : Rounding
  env : Env
  ending : Reading.End
  outcome : Except Error Value × Variables

namespace Course

variable {σ α β : Type} (c : Course σ α)

/-- An evaluation whose error is placed at the end of the token that was pulled last. -/
def located (s : σ) (m : Eval β) : Eval β :=
  m.locate c.src.expr (c.src.cursor s)

/-- The pass goes on with the tokens that are left. -/
def going (p : Pass) (s : σ) (ts : List (Token α)) : Eval Value :=
  Pass.runFrom c.nested c.rounding c.env c.src.expr c.ending (c.src.cursor s) p ts

/-- The pass takes a token that was pulled, and goes on. -/
def feeding (p : Pass) (t : Token α) (s : σ) (ts : List (Token α)) : Eval Value :=
  c.located s (p.feed c.rounding t.kind (Reducer.shown c.nested t)
    (t.value c.nested c.env c.src.expr)) >>= fun q => c.going q s ts

/-- The pass ends its statement if that is closed, and goes on. -/
def settling (p : Pass) (s : σ) (ts : List (Token α)) : Eval Value :=
  c.located s (Pass.settle c.rounding p.frame p.expecting p.regroupings p.outer) >>= fun q =>
    c.going q s ts

/-- The pass puts a value in its place, and goes on. -/
def putting (p : Pass) (slot : Slot) (v : Value) (s : σ) (ts : List (Token α)) : Eval Value :=
  c.located s (Eval.ofExcept (p.place c.rounding slot v)) >>= fun q => c.settling q s ts

/-- The pass works off a stack, and goes on as after a value was put in its place. -/
def reducing (p : Pass) (regrouping : Bool) (stack : Stack) (s : σ) (ts : List (Token α)) :
    Eval Value :=
  c.located s (Eval.ofExcept (p.reduce c.rounding regrouping stack)) >>= fun q =>
    c.settling q s ts

/-- Operands that do not fit fail the pass, or wait there for the next operator. -/
def sticking (p : Pass) (regrouping : Bool) (op : Operator) (left right : Value) (s : σ)
    (ts : List (Token α)) : Eval Value :=
  c.located s (Eval.ofExcept
    (if regrouping || maxRegroupings ≤ p.regroupings then
      .error (.incompatible op left.kindName right.kindName)
    else .ok { p with expecting := .regroup op left right })) >>= fun q => c.settling q s ts

/-- The value of an assignment is stored, and handed to the statement around it. -/
def handing (r : Reducer) (a : Assignment) (outer : List Assignment) (s : σ)
    (ts : List (Token α)) : Eval Value :=
  c.located s (Eval.ofExcept ((r.frame 0).assigned a.target)) >>= fun v =>
    c.located s (Eval.assign a.target v) >>= fun _ =>
      c.putting ⟨{ a.frame with closed := r.closed }, .statement, outer, r.retries⟩ a.slot v s ts

/-- Tokens have been pulled one by one so far. -/
def Reached (s : σ) : Prop :=
  ∃ pulled, c.src.Pulls c.first pulled s

/-- With what is left, of which there are fewer than `n` tokens, the pass comes to its
    outcome. -/
def Continues (n : Nat) (rest : σ → List (Token α) → Eval Value) (s : σ) (vs : Variables) :
    Prop :=
  c.Reached s ∧
    ∃ ts, c.src.Yields s ts c.ending ∧ ts.length < n ∧ (rest s ts).outcome vs = c.outcome

/-- The outcome is this error, placed where the reducer has come to. -/
def Fails (e : Error) (s : σ) (vs : Variables) : Prop :=
  c.outcome = (.error (e.located c.src.expr (c.src.cursor s)), vs)

/-- The reducer goes on with the next token as the pass does. -/
def Proceeds (n : Nat) (outer : List Assignment) (r : Reducer) (s : σ) (vs : Variables) : Prop :=
  r.Within outer ∧ r.closed = false ∧
    ∃ k, c.Continues n (c.going (r.pass k .statement outer)) s vs

/-- The reducer awaits the right operand of an operator as the pass does. -/
def Awaits (n : Nat) (outer : List Assignment) (op : Operator) (r : Reducer) (s : σ)
    (vs : Variables) : Prop :=
  r.Within outer ∧ r.closed = false ∧
    ∃ k, c.Continues n (c.going (r.pass k (.right op) outer)) s vs

/-- The statement ends if it is closed, in the reducer as in the pass. -/
def Settles (n : Nat) (outer : List Assignment) (r : Reducer) (s : σ) (vs : Variables) : Prop :=
  r.Within outer ∧ ∃ k, c.Continues n (c.settling (r.pass k .statement outer)) s vs

/-- The reducer is done. Outside of assignments this is only so where no token is left,
    and the pass comes to its result. The reducer of an assignment leaves the rest to the
    statement around it. -/
def Ends (n : Nat) (outer : List Assignment) (r : Reducer) (s : σ) (vs : Variables) : Prop :=
  match outer with
  | [] => c.Reached s ∧ c.src.next? s = .ok none ∧
      (c.located s (Eval.ofExcept r.result)).outcome vs = c.outcome
  | a :: outer => c.Continues n (c.handing r a outer) s vs

/-- What a signal says of a reducer. -/
def Signals (n : Nat) (outer : List Assignment) (falls : Reducer → σ → Variables → Prop) :
    Signal × Reducer → σ → Variables → Prop
  | (.abort, r) => c.Ends n outer r
  | (.proceed, r) => c.Proceeds n outer r
  | (.fallthrough, r) => falls r

/-- A value for a place in the pass, and the reducer that has found it. -/
def Puts (n : Nat) (outer : List Assignment) (slot : Slot) (k : Nat) (r : Reducer) :
    Value × Reducer → σ → Variables → Prop :=
  fun (v, r') s vs => (∃ retries closed, r' = { r with retries, closed }) ∧
    c.Continues n (c.putting (r'.pass k .statement outer) slot v) s vs

/-- A token that the reducer has pulled and the pass takes, where `stops` is what is so if
    there is none. -/
def Takes (n : Nat) (p : Pass) (stops : σ → Variables → Prop) :
    Option (Token α) → σ → Variables → Prop
  | none => stops
  | some t => fun s vs => (∀ name, t.kind = .assign name → t.negated = false) ∧
      c.Continues n (c.feeding p t) s vs

variable {c} {n : Nat} {p q : Pass} {t : Token α} {s : σ} {vs : Variables} {r : Reducer}
  {outer : List Assignment} {k : Nat} {slot : Slot}

section Steps

variable {f : β → σ → List (Token α) → Eval Value}

theorem Continues.mono {rest : σ → List (Token α) → Eval Value} {m : Nat}
    (h : c.Continues n rest s vs) (hle : n ≤ m) : c.Continues m rest s vs := by
  rcases h with ⟨hreached, ts, hyields, hlt, hrest⟩
  exact ⟨hreached, ts, hyields, Nat.lt_of_lt_of_le hlt hle, hrest⟩

/-- An evaluation that both of them do. -/
theorem Continues.leads_ofEval {m : Eval β}
    (h : c.Continues n (fun s ts => c.located s m >>= fun b => f b s ts) s vs) :
    (Pulling.ofEval m : Pulling σ β).Leads s vs (fun b => c.Continues n (f b)) c.Fails := by
  rcases h with ⟨hreached, ts, hyields, hlt, hrest⟩
  simp only [outcome_bind, located, locate, outcome_mapError] at hrest
  refine Pulling.leads_ofEval (fun b vs' hm => ⟨hreached, ts, hyields, hlt, ?_⟩) fun e vs' hm => ?_
  · rwa [hm] at hrest
  · rw [hm] at hrest
    exact hrest.symm

theorem Continues.of_pure {b : β}
    (h : c.Continues n (fun s ts => c.located s (pure b) >>= fun b => f b s ts) s vs) :
    c.Continues n (f b) s vs :=
  h.leads_ofEval

theorem Continues.of_fail {cause : Cause}
    (h : c.Continues n (fun s ts => c.located s (Eval.fail cause : Eval β) >>= fun b => f b s ts)
      s vs) : c.Fails (Error.of cause) s vs :=
  h.leads_ofEval

theorem Continues.of_ok {x : Except Cause β} {b : β} (hx : x = .ok b)
    (h : c.Continues n (fun s ts => c.located s (Eval.ofExcept x) >>= fun b => f b s ts) s vs) :
    c.Continues n (f b) s vs := by
  subst hx
  exact h.of_pure

theorem Continues.of_error {x : Except Cause β} {cause : Cause} (hx : x = .error cause)
    (h : c.Continues n (fun s ts => c.located s (Eval.ofExcept x) >>= fun b => f b s ts) s vs) :
    c.Fails (Error.of cause) s vs := by
  subst hx
  exact h.of_fail

theorem Continues.of_settle
    (hsettle : Pass.settle c.rounding p.frame p.expecting p.regroupings p.outer = pure q)
    (h : c.Continues n (c.settling p) s vs) : c.Continues n (c.going q) s vs := by
  unfold settling at h
  rw [hsettle] at h
  exact h.of_pure

theorem Continues.of_settle_fail {cause : Cause}
    (hsettle : Pass.settle c.rounding p.frame p.expecting p.regroupings p.outer =
      Eval.fail cause) (h : c.Continues n (c.settling p) s vs) : c.Fails (Error.of cause) s vs := by
  unfold settling at h
  rw [hsettle] at h
  exact h.of_fail

/-- A token that changes nothing but the pass. -/
theorem Continues.of_feed_pure (h : c.Continues n (c.feeding p t) s vs)
    (hfeed : p.feed c.rounding t.kind (Reducer.shown c.nested t)
      (t.value c.nested c.env c.src.expr) = pure q) : c.Continues n (c.going q) s vs := by
  unfold feeding at h
  rw [hfeed] at h
  exact h.of_pure

/-- A token that ends the statement. -/
theorem Continues.of_feed_close {e : Expecting}
    (h : c.Continues n (c.feeding (r.pass k e outer) t) s vs)
    (hfeed : (r.pass k e outer).feed c.rounding t.kind (Reducer.shown c.nested t)
      (t.value c.nested c.env c.src.expr) = (r.pass k e outer).close c.rounding) :
    c.Continues n (c.settling ({ r with closed := true }.pass k .statement outer)) s vs := by
  unfold feeding at h
  rw [hfeed] at h
  exact h

/-- A token that is refused. -/
theorem Continues.of_feed_fail {cause : Cause} (h : c.Continues n (c.feeding p t) s vs)
    (hfeed : p.feed c.rounding t.kind (Reducer.shown c.nested t)
      (t.value c.nested c.env c.src.expr) = Eval.fail cause) : c.Fails (Error.of cause) s vs := by
  unfold feeding at h
  rw [hfeed] at h
  exact h.of_fail

end Steps

/-- The next token is pulled by the reducer and taken by the pass. If there is none, the
    pass stops. -/
theorem Continues.leads_next {m : Nat} {stops : σ → Variables → Prop}
    (h : c.Continues m (c.going p) s vs) (hle : m ≤ n + 1)
    (hstops : c.Reached s → c.src.next? s = .ok none → c.ending = .finished (c.src.hasMore s) →
      (c.located s (p.stop c.rounding c.ending)).outcome vs = c.outcome → stops s vs) :
    (Pulling.next c.src).Leads s vs (c.Takes n p stops) c.Fails := by
  -- Pulling a token moves it from what is left to what was pulled; the run of the pass
  -- over what was left starts with the same token.
  rcases h with ⟨hreached, ts, hyields, hlt, hrest⟩
  refine Pulling.leads_next hyields (fun fault hnil hending => ?_) (fun hnil hnext hending => ?_)
    fun t ts' s' hts hnext hcursor hplain hyields' => ?_
  · rw [hnil, going, Pass.runFrom, hending] at hrest
    exact hrest.symm
  · rw [hnil] at hrest
    exact hstops hreached hnext hending hrest
  · rw [hts, List.length_cons] at hlt
    rcases hreached with ⟨pulled, hpulled⟩
    refine ⟨hplain, ⟨_, hpulled.append_one hnext⟩, ts', hyields', by omega, ?_⟩
    rw [hts, going, Pass.runFrom, ← hcursor] at hrest
    exact hrest

/-- Where something is missing at the end of the tokens, the pass fails there. -/
theorem fails_of_missing? {cause : Cause} (hcause : Pass.missing? p.expecting = some cause)
    (hending : c.ending = .finished (c.src.hasMore s))
    (hstop : (c.located s (p.stop c.rounding c.ending)).outcome vs = c.outcome) :
    c.Fails (Error.of cause) s vs := by
  have hexp : p.expecting ≠ .another := fun hexp => by rw [hexp] at hcause; cases hcause
  have hfail : p.stop c.rounding c.ending = Eval.fail cause := by
    rw [hending, Pass.stop, Pass.atEnd_of_ne_another hexp]
    cases houter : p.outer <;> simp only [Pass.finish, hcause]
  rw [hfail] at hstop
  exact hstop.symm

/-- With no turns left there are no tokens left to be read, and no pass either. -/
theorem Continues.elim {rest : σ → List (Token α) → Eval Value} {P : Prop}
    (h : c.Continues 0 rest s vs) : P := by
  rcases h with ⟨_, ts, _, hlt, _⟩
  exact absurd hlt (Nat.not_lt_zero _)

/-- What a value in its place makes of a pass does not depend on what the pass expects. -/
theorem place_pass (rounding : Rounding) (e : Expecting) (v : Value) :
    (r.pass k e outer).place rounding slot v =
      (r.pass k .statement outer).place rounding slot v := by
  cases slot <;> rfl

/-- What follows on a value in its place depends on what such places have in common. -/
theorem place_bind_congr {rounding : Rounding} {v : Value} {f g : Pass → Eval β}
    (h : ∀ q, Pass.Placed slot p q → f q = g q) :
    (Eval.ofExcept (p.place rounding slot v) >>= f) =
      Eval.ofExcept (p.place rounding slot v) >>= g := by
  cases hplace : p.place rounding slot v with
  | error cause => rfl
  | ok q => exact h q (Pass.placed_of_place hplace)

/-- A reducer that finds no token left. In the pass, the assignments that are still being
    read end there. -/
theorem ends_of_stop {e : Expecting} (hmissing : Pass.missing? e = none) (hexp : e ≠ .another)
    (hclosed : r.closed = false) (hreached : c.Reached s) (hnext : c.src.next? s = .ok none)
    (hending : c.ending = .finished (c.src.hasMore s))
    (hstop : (c.located s ((r.pass k e outer).stop c.rounding c.ending)).outcome vs = c.outcome) :
    c.Ends (n + 1) outer r s vs := by
  -- The pass stands at the end of the text with nothing missing, so all it does is to
  -- finish, with the scopes of the open assignments still to close.
  have hfinish : (r.pass k e outer).stop c.rounding c.ending =
      Pass.finish c.rounding (r.frame k) e r.retries outer := by
    rw [hending, Pass.stop, Pass.atEnd_of_ne_another hexp]
    rfl
  -- Without an assignment around it the pass gives its value; else the value is handed
  -- to the frame of the innermost one, which goes on with no token left.
  cases outer with
  | nil =>
      rw [Pass.finish, hmissing] at hfinish
      rw [hfinish] at hstop
      exact ⟨hreached, hnext, hstop⟩
  | cons a outer =>
      have hhanding : (r.pass k e (a :: outer)).stop c.rounding c.ending = (do
          let v ← Eval.ofExcept ((r.frame 0).assigned a.target)
          Eval.assign a.target v
          let q ← Eval.ofExcept (Pass.place c.rounding
            ⟨{ a.frame with closed := r.closed }, .statement, outer, r.retries⟩ a.slot v)
          let q ← Pass.settle c.rounding q.frame q.expecting q.regroupings q.outer
          q.stop c.rounding c.ending) := by
        rw [hfinish, Pass.finish, hmissing, hclosed]
        refine bind_congr fun v => bind_congr fun _ => place_bind_congr fun q hq => ?_
        rw [Pass.settle_of_not_closed _ _ _ _ _ hq.closed_eq, pure_bind, hending, Pass.stop,
          Pass.atEnd_of_ne_another hq.ne_another, hq.outer_eq]
      rw [hhanding] at hstop
      simp only [located, locate, mapError_bind] at hstop
      have hyields : c.src.Yields s [] c.ending := hending ▸ .nothing hnext
      exact ⟨hreached, [], hyields, Nat.succ_pos n, hstop⟩

theorem Ends.mono {m : Nat} (h : c.Ends n outer r s vs) (hle : n ≤ m) :
    c.Ends m outer r s vs := by
  cases outer with
  | nil => exact h
  | cons a outer => exact Continues.mono h hle

theorem Signals.mono {m : Nat} {falls : Reducer → σ → Variables → Prop}
    {signal : Signal × Reducer}
    (h : c.Signals n outer falls signal s vs) (hle : n ≤ m) :
    c.Signals m outer falls signal s vs := by
  rcases signal with ⟨_ | _ | _, r⟩
  · exact Ends.mono h hle
  · rcases h with ⟨hwithin, hclosed, k, hgoing⟩
    exact ⟨hwithin, hclosed, k, hgoing.mono hle⟩
  · exact h

end Course

end Reckon
