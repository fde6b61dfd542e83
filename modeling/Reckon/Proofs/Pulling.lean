import Reckon.Proofs.Joining
import Reckon.Proofs.Outcome
import Reckon.Reducer

/-!
# What Pulling Tokens Leads To

Pulling tokens changes variables and the source, may fail, and leaves both of them
even then. What it leads to is stated with one condition for where it comes to a
value and one for where it fails (`Pulling.Leads`), and follows along a sequence
from one part to the next (`Pulling.leads_bind`).

A source hands out tokens one by one, and no more than these are ever known of it.
Still they are those that it has to hand out, one after the other, up to where it
has none left or fails (`Source.Yields`). For a text they are its reading
(`Source.yields_ofText`). An assignment is never negated there, which is why a pass
need not look whether it is.

## Main definitions

* `Pulling.Leads`: What pulling tokens leads to.
* `Source.Yields`: The tokens that a source has to hand out.
* `Source.Pulls`: Tokens pulled from a source.

## Theorems

* `Pulling.leads_bind`: A sequence leads where its parts do.
* `Pulling.leads_next`: Pulling a token.
* `Source.yields_ofText`: The tokens of a text.
-/

namespace Reckon

namespace Pulling

variable {σ α β γ : Type} {s : σ} {vs : Variables}

/-- Pulling from `s`, from `vs`, leads to a value with what is left as `Q` says, or
    fails with what is left as `E` says. -/
def Leads (m : Pulling σ α) (s : σ) (vs : Variables) (Q : α → σ → Variables → Prop)
    (E : Error → σ → Variables → Prop) : Prop :=
  match m.outcome s vs with
  | ((.ok a, s), vs) => Q a s vs
  | ((.error e, s), vs) => E e s vs

/-- The outcome of a sequence: that of its second part, on what the first part leaves,
    unless the first part fails. -/
theorem outcome_bind (m : Pulling σ α) (f : α → Pulling σ β) (s : σ) (vs : Variables) :
    (m >>= f).outcome s vs =
      match m.outcome s vs with
      | ((.ok a, s), vs) => (f a).outcome s vs
      | ((.error e, s), vs) => ((.error e, s), vs) := by
  have h : (m >>= f).outcome s vs =
      ((ExceptT.bindCont f (m.outcome s vs).1.1 :
        StateT σ (StateM Variables) _).run (m.outcome s vs).1.2).run (m.outcome s vs).2 := rfl
  rw [h]
  rcases m.outcome s vs with ⟨⟨_ | _, _⟩, _⟩ <;> rfl

variable {Q : α → σ → Variables → Prop} {R : β → σ → Variables → Prop}
  {E : Error → σ → Variables → Prop}

theorem leads_pure {a : α} (h : Q a s vs) : (pure a : Pulling σ α).Leads s vs Q E := h

theorem leads_fail {cause : Cause} (h : E (Error.of cause) s vs) :
    (fail cause : Pulling σ α).Leads s vs Q E := h

/-- Pulling leads to what follows from where it leads. -/
theorem Leads.mono {m : Pulling σ α} {Q' : α → σ → Variables → Prop} (h : m.Leads s vs Q E)
    (hQ : ∀ a s vs, Q a s vs → Q' a s vs) : m.Leads s vs Q' E := by
  unfold Leads at h ⊢
  generalize m.outcome s vs = o at h ⊢
  rcases o with ⟨⟨e | a, s'⟩, vs'⟩
  · exact h
  · exact hQ a s' vs' h

/-- A sequence leads where its second part does from wherever the first part leads. -/
theorem leads_bind {m : Pulling σ α} {f : α → Pulling σ β} (hm : m.Leads s vs Q E)
    (hf : ∀ a s vs, Q a s vs → (f a).Leads s vs R E) : (m >>= f).Leads s vs R E := by
  unfold Leads at hm ⊢
  rw [outcome_bind]
  generalize m.outcome s vs = o at hm ⊢
  rcases o with ⟨⟨e | a, s'⟩, vs'⟩
  · exact hm
  · exact hf a s' vs' hm

/-- An evaluation pulls nothing. -/
theorem leads_ofEval {m : Eval α}
    (hok : ∀ a vs', m.outcome vs = (.ok a, vs') → Q a s vs')
    (herror : ∀ e vs', m.outcome vs = (.error e, vs') → E e s vs') :
    (ofEval m : Pulling σ α).Leads s vs Q E := by
  have h : (ofEval m : Pulling σ α).outcome s vs = (((m.outcome vs).1, s), (m.outcome vs).2) := rfl
  unfold Leads
  rw [h]
  rcases hm : m.outcome vs with ⟨e | a, vs'⟩
  · exact herror e vs' hm
  · exact hok a vs' hm

theorem leads_get {Q : σ → σ → Variables → Prop} (h : Q s s vs) :
    (get : Pulling σ σ).Leads s vs Q E := h

theorem outcome_locate (src : Source σ γ) (m : Pulling σ α) (s : σ) (vs : Variables) :
    (locate src m).outcome s vs =
      match m.outcome s vs with
      | ((.error e, s), vs) => ((.error (e.located src.expr (src.cursor s)), s), vs)
      | ((.ok a, s), vs) => ((.ok a, s), vs) := rfl

/-- An error is placed where the source has come to. -/
theorem leads_locate {src : Source σ γ} {m : Pulling σ α} {F : Error → σ → Variables → Prop}
    (h : m.Leads s vs Q E)
    (hE : ∀ e s vs, E e s vs → F (e.located src.expr (src.cursor s)) s vs) :
    (locate src m).Leads s vs Q F := by
  unfold Leads at h ⊢
  rw [outcome_locate]
  generalize m.outcome s vs = o at h ⊢
  rcases o with ⟨⟨e | a, s'⟩, vs'⟩
  · exact hE e s' vs' h
  · exact h

theorem leads_hasMore {src : Source σ γ} {Q : Bool → σ → Variables → Prop}
    (h : Q (src.hasMore s) s vs) : (hasMore src).Leads s vs Q E := h

end Pulling

namespace Source

variable {σ α : Type} {src : Source σ α} {s : σ} {ts : List (Token α)} {ending : Reading.End}

/-- The tokens that a source has left to hand out, and how they end. It can tell that
    there are any, and where each of them ends. -/
inductive Yields (src : Source σ α) : σ → List (Token α) → Reading.End → Prop
  | fault {s : σ} {fault : Token.Fault} : src.next? s = .error fault →
      Yields src s [] (.fault fault)
  | nothing {s : σ} : src.next? s = .ok none → Yields src s [] (.finished (src.hasMore s))
  | token {s s' : σ} {t : Token α} {ts : List (Token α)} {ending : Reading.End} :
      src.next? s = .ok (some (t, s')) → src.hasMore s = true → src.cursor s' = t.span.stop →
      (∀ name, t.kind = .assign name → t.negated = false) → Yields src s' ts ending →
      Yields src s (t :: ts) ending

/-- Tokens pulled from a source one after the other, and what is left of it then. -/
inductive Pulls (src : Source σ α) : σ → List (Token α) → σ → Prop
  | nothing (s : σ) : Pulls src s [] s
  | next {s s₁ s' : σ} {t : Token α} {ts : List (Token α)} :
      src.next? s = .ok (some (t, s₁)) → Pulls src s₁ ts s' → Pulls src s (t :: ts) s'

/-- One more token is pulled. -/
theorem Pulls.append_one {s' s'' : σ} {t : Token α} (h : src.Pulls s ts s')
    (hnext : src.next? s' = .ok (some (t, s''))) : src.Pulls s (ts ++ [t]) s'' := by
  induction h with
  | nothing => exact .next hnext (.nothing _)
  | next hfirst _ ih => exact .next hfirst (ih hnext)

/-- Where nothing is left to be pulled, all tokens that there were have been pulled. -/
theorem Pulls.eq_of_yields {s' : σ} {us : List (Token α)} (h : src.Pulls s us s')
    (hnone : src.next? s' = .ok none) (hyields : src.Yields s ts ending) :
    us = ts ∧ ending = .finished (src.hasMore s') := by
  -- Both walks take the same tokens as long as there are any, since the source decides
  -- what comes next; the one that pulled stops where the source has no token left.
  induction h generalizing ts with
  | nothing =>
      cases hyields with
      | fault hnext => cases hnone.symm.trans hnext
      | nothing => exact ⟨rfl, rfl⟩
      | token hnext => cases hnone.symm.trans hnext
  | next hfirst _ ih =>
      cases hyields with
      | fault hnext => cases hfirst.symm.trans hnext
      | nothing hnext => cases hfirst.symm.trans hnext
      | token hnext _ _ _ hlater =>
          cases hfirst.symm.trans hnext
          rcases ih hnone hlater with ⟨rfl, hending⟩
          exact ⟨rfl, hending⟩

/-- No assignment that is handed out is negated. -/
theorem Yields.negated_eq_false (h : src.Yields s ts ending) :
    ∀ t ∈ ts, ∀ name, t.kind = .assign name → t.negated = false := by
  induction h with
  | fault => exact List.forall_mem_nil _
  | nothing => exact List.forall_mem_nil _
  | token _ _ _ hplain _ ih =>
      intro t ht
      rcases List.mem_cons.mp ht with rfl | ht
      · exact hplain
      · exact ih t ht

end Source

namespace Pulling

variable {σ α : Type} {src : Source σ α} {s : σ} {vs : Variables} {ts : List (Token α)}
  {ending : Reading.End} {Q : Option (Token α) → σ → Variables → Prop}
  {E : Error → σ → Variables → Prop}

theorem outcome_next (src : Source σ α) (s : σ) (vs : Variables) :
    (next src).outcome s vs =
      match src.next? s with
      | .error fault => ((.error (Error.ofFault fault), s), vs)
      | .ok none => ((.ok none, s), vs)
      | .ok (some (t, s)) => ((.ok (some t), s), vs) := rfl

/-- Pulling a token, if there is one to hand out. -/
theorem leads_next (h : src.Yields s ts ending)
    (hfault : ∀ fault, ts = [] → ending = .fault fault → E (Error.ofFault fault) s vs)
    (hnothing : ts = [] → src.next? s = .ok none → ending = .finished (src.hasMore s) →
      Q none s vs)
    (htoken : ∀ t ts' s', ts = t :: ts' → src.next? s = .ok (some (t, s')) →
      src.cursor s' = t.span.stop → (∀ name, t.kind = .assign name → t.negated = false) →
      src.Yields s' ts' ending → Q (some t) s' vs) :
    (next src).Leads s vs Q E := by
  unfold Leads
  rw [outcome_next]
  -- What the source yields from here fixes what one pull does: the three ways in which
  -- a list of tokens starts or ends.
  cases h with
  | fault hnext =>
      rw [hnext]
      exact hfault _ rfl rfl
  | nothing hnext =>
      rw [hnext]
      exact hnothing rfl hnext rfl
  | token hnext _ hcursor hplain hlater =>
      rw [hnext]
      exact htoken _ _ _ rfl hnext hcursor hplain hlater

end Pulling

namespace Reader

/-- Only operands are negated. -/
theorem negated_of_nextFrom {wantsOperand negated : Bool} {first : Option Nat} {offset : Nat}
    {tail : List Char} {t : Token String} {r : Reader}
    (h : nextFrom wantsOperand negated first offset tail = .ok (some (t, r))) :
    (t.negated && t.kind.wantsOperand) = false := by
  fun_induction nextFrom wantsOperand negated first offset tail with
  | case4 _ _ _ _ _ _ _ _ ih => exact ih h
  | case7 _ _ _ _ _ _ _ _ _ _ hnegated =>
      cases h
      exact Bool.not_eq_true _ ▸ hnegated
  | _ => cases h

/-- Where a token comes next, more than blanks is left. -/
theorem hasMore_of_next? {r r' : Reader} {t : Token String} (h : r.next? = .ok (some (t, r'))) :
    r.hasMore = true := by
  rw [hasMore, Bool.not_eq_true']
  refine Bool.eq_false_iff.mpr fun hblank => ?_
  have hwide := (next?_eq_some.mp h).1
  rw [wide?, nextFrom_eq] at hwide
  split at hwide
  next => cases hwide
  next => cases hwide
  next p hp => exact Lexeme.next?_ne_some_of_allBlank hblank p hp

end Reader

/-- The tokens of a text are those that its reader has to hand out. -/
theorem Source.yields_ofText (text : String) (r : Reader) :
    (ofText text).Yields r r.tokens r.steps.2 := by
  -- Along the reader's own recursion, which stops at a fault or at the end of the text.
  fun_induction Reader.steps r with
  | case1 r fault hr =>
      rw [(Reader.tokens_of_error hr).1]
      exact .fault hr
  | case2 r hr =>
      rw [(Reader.tokens_of_none hr).1]
      exact .nothing hr
  | case3 r t r' hr later ending heq ih =>
      rw [(Reader.tokens_of_some hr).1]
      rw [heq] at ih
      have hwide := (Reader.next?_eq_some.mp hr).1
      -- The reader stands right behind the token it gave, and a target has no mark.
      refine .token hr (Reader.hasMore_of_next? hr) (Reader.offset_of_nextFrom hwide)
        (fun name hname => ?_) ih
      have hnegated := Reader.negated_of_nextFrom hwide
      rw [hname] at hnegated
      exact (Bool.and_true _).symm.trans hnegated

/-- Every token takes at least one character of the text. -/
theorem Reader.length_tokens_le (r : Reader) : r.tokens.length ≤ r.tail.length := by
  fun_induction Reader.steps r with
  | case1 r fault hr =>
      rw [(Reader.tokens_of_error hr).1]
      exact Nat.zero_le _
  | case2 r hr =>
      rw [(Reader.tokens_of_none hr).1]
      exact Nat.zero_le _
  | case3 r t r' hr later ending heq ih =>
      rw [(Reader.tokens_of_some hr).1]
      exact Nat.lt_of_le_of_lt ih (Reader.length_next?_lt hr).1

/-- Tokens that were read before are handed out as they are. -/
theorem Source.yields_ofTokens {α : Type} (text : String) (cursor : Nat) {ts : List (Token α)}
    (h : ∀ t ∈ ts, ∀ name, t.kind = .assign name → t.negated = false) :
    (ofTokens text).Yields (ts, cursor) ts (.finished false) := by
  induction ts generalizing cursor with
  | nil => exact .nothing rfl
  | cons t ts ih =>
      exact .token rfl rfl rfl (h t List.mem_cons_self)
        (ih t.span.stop fun u hu => h u (List.mem_cons_of_mem t hu))

end Reckon
