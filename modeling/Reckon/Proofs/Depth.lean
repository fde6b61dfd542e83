import Reckon.Proofs.Shrinking
import Reckon.Proofs.Target
import Reckon.Proofs.Tiling
import Reckon.Proofs.Uses

/-!
# How Deep Passes Nest

A pass starts for each expression inside a token, and for the value of each assignment. Two
things are spent on the way: an expression inside a token is shorter than the text around it,
and the pass over the value of an assignment shares the tokens of its text with the pass around
it. The target of an assignment is one of these tokens, so no such pass starts without a token
being read (`Pass.feed_opens`), and behind the target it reads another one, or the value is
missing (`Pass.readsAssignment`).

Both can be counted in bytes. A target has two bytes at least, as its equals sign is one of
them, and so have the brackets around an expression. What stands inside a token stands behind
the targets that were read before it. The bytes of the text are therefore enough for all passes
that are open at a time, with two for each of them but the first (`OpenPasses.le`).

That the text of `OpenPasses` is the one that its tokens were read from is a hypothesis
(`Token.Faithful`), so that texts and programs are dealt with at once.

## Main definitions

* `Token.least`, `Token.Laid`: The bytes of tokens, one behind the other.
* `Pass.Opens`: What one token does to the assignments that are being read.
* `Pass.backTo`: Reading to the end of an assignment.
* `Pass.ReadsAssignment`: The pass over the value of an assignment.
* `OpenPasses`: The passes that have started and not ended.

## Theorems

* `Token.laid_of_read`: The tokens of a text stand one behind the other.
* `Pass.feed_opens`: A pass over the value of an assignment starts with its target.
* `Pass.after_outer_le`: The assignments that are being read, in bytes.
* `Pass.readsAssignment`: The tokens of an assignment.
* `OpenPasses.le`: The passes that are open at a time.
* `nesting_bounded`: Compiling and evaluating come to an end.
-/

namespace Reckon

open Eval Text

variable {α β : Type}

section Layout

/-- The bytes that a token has at least. The target of an assignment comes with its equals
    sign. -/
def Token.least (t : Token α) : Nat :=
  match t.kind with
  | .assign _ => 2
  | _ => 1

theorem Token.least_pos (t : Token α) : 0 < t.least := by
  unfold least
  split <;> decide

/-- Tokens that stand one behind the other from byte `n` on. -/
def Token.Laid : Nat → List (Token α) → Prop
  | _, [] => True
  | n, t :: ts => n ≤ t.span.start ∧ t.span.start + t.least ≤ t.span.stop ∧ Laid t.span.stop ts

theorem Token.least_map (f : α → β) (t : Token α) : (t.map f).least = t.least := by
  rcases t with ⟨_ | _ | _, span, negated⟩ <;> rfl

/-- Where tokens stand does not depend on the expressions inside them. -/
theorem Token.laid_map (f : α → β) {n : Nat} {ts : List (Token α)} :
    Laid n (ts.map (Token.map f)) ↔ Laid n ts := by
  induction ts generalizing n with
  | nil => exact Iff.rfl
  | cons t ts ih =>
      rw [List.map_cons, Laid, Laid, least_map, ih]
      exact Iff.rfl

/-- The tokens behind some others stand behind the last of them. -/
theorem Token.Laid.append {n : Nat} {ts us : List (Token α)} (h : Laid n (ts ++ us)) :
    Laid n ts ∧ Laid (Pass.lastStop n ts) us := by
  induction ts generalizing n with
  | nil => exact ⟨trivial, h⟩
  | cons t ts ih =>
      rcases ih h.2.2 with ⟨hts, hus⟩
      exact ⟨⟨h.1, h.2.1, hts⟩, hus⟩

open Lexeme (Placed)

/-- A target is a path and, behind it, an equals sign. -/
theorem Token.Piece.two_le_of_assign {source tail : List Char} {offset : Nat} {p : Placed}
    {wantsOperand : Bool} {piece : Piece} {name : String} (h : TailAt source offset tail)
    (hp : Lexeme.next? offset tail = .ok (some p)) (hpiece : of p wantsOperand = .ok piece)
    (hkind : piece.kind = .assign name) : p.start + 2 ≤ piece.stop := by
  rcases exists_taken h hp hpiece with ⟨more, hmore, hstop⟩
  obtain ⟨kind, stop, after⟩ := piece
  cases hkind
  rcases path_of_assign hpiece with ⟨_, _, _, q, hq, _, rfl⟩
  rcases Lexeme.exists_spacing_of_next? (Lexeme.next?_of_peek? hq) with ⟨lead, htail, _, hne⟩
  have hpos := width_pos (Lexeme.exists_spacing_of_next? hp).choose_spec.2.2
  have hpos' := width_pos hne
  rw [hmore, ← List.append_assoc] at htail
  rw [List.append_cancel_right htail, width_append, width_append] at hstop
  simp only at hstop ⊢
  omega

/-- A piece has as many bytes as its token has at least. -/
theorem Token.Piece.least_le {source tail : List Char} {offset : Nat} {p : Placed}
    {wantsOperand : Bool} {piece : Piece} (h : TailAt source offset tail)
    (hp : Lexeme.next? offset tail = .ok (some p)) (hpiece : of p wantsOperand = .ok piece)
    (start : Nat) (negated : Bool) :
    p.start + (⟨piece.kind, ⟨start, piece.stop⟩, negated⟩ : Token String).least ≤ piece.stop := by
  unfold least
  split
  next hkind => exact two_le_of_assign h hp hpiece hkind
  next =>
    rcases exists_taken h hp hpiece with ⟨more, _, hstop⟩
    have hpos := width_pos (Lexeme.exists_spacing_of_next? hp).choose_spec.2.2
    rw [hstop, width_append]
    omega

/-- The next token has as many bytes as it has at least. -/
theorem Reader.least_le_of_nextFrom {source tail : List Char} {offset : Nat}
    {wantsOperand negated : Bool} {first : Option Nat} {t : Token String} {r : Reader}
    (h : TailAt source offset tail) (hfirst : ∀ n ∈ first, n ≤ offset)
    (hnext : nextFrom wantsOperand negated first offset tail = .ok (some (t, r))) :
    t.span.start + t.least ≤ t.span.stop := by
  -- Exclamation marks that were read stand before the lexeme.
  have hgetD {p : Placed} {offset : Nat} {first : Option Nat} (hfirst : ∀ n ∈ first, n ≤ offset)
      (hp : offset ≤ p.start) : first.getD p.start ≤ p.start := by
    cases first with
    | none => exact Nat.le_refl _
    | some n => exact (hfirst n rfl).trans hp
  fun_induction nextFrom wantsOperand negated first offset tail with
  | case1 => cases hnext
  | case2 => cases hnext
  | case3 => cases hnext
  | case4 negated first offset tail p hp start hbang ih =>
      rcases Lexeme.exists_lead h hp with ⟨lead, _, _, _, hstart⟩
      have hle := hgetD hfirst (p := p) (by omega)
      refine ih (Lexeme.stands_of_next? h hp).stop (fun n hn => ?_) hnext
      rw [Option.mem_some] at hn
      rw [← hn, Lexeme.Placed.stop]
      exact hle.trans (Nat.le_add_right _ _)
  | case5 => cases hnext
  | case6 => cases hnext
  | case7 negated first offset tail p hp start hbang piece hpiece hnegated =>
      cases hnext
      rcases Lexeme.exists_lead h hp with ⟨lead, _, _, _, hstart⟩
      have hle := hgetD hfirst (p := p) (by omega)
      have hleast := Token.Piece.least_le h hp hpiece start negated
      exact (Nat.add_le_add_right hle _).trans hleast

/-- The tokens of a reader stand one behind the other. -/
theorem Reader.laid_of_steps {source : List Char} {r : Reader} (h : TailAt source r.offset r.tail) :
    Token.Laid r.offset (r.steps.1.map Prod.fst) := by
  have hstands := next?_stands h
  -- Each token starts where the one before stops or later, and has its least size.
  fun_induction steps r with
  | case1 => trivial
  | case2 => trivial
  | case3 r t r' hr later ending heq ih =>
      rw [hr] at hstands
      have hlater := ih hstands.2 (next?_stands hstands.2)
      rcases exists_taken_of_nextFrom h (next?_eq_some.mp hr).1 with ⟨gap, _, _, _, _, hspan, _⟩
      have hleast := least_le_of_nextFrom h (fun _ hn => by cases hn)
        (next?_eq_some.mp hr).1
      rw [heq] at hlater
      refine ⟨?_, hleast, ?_⟩
      · rw [hspan]
        exact Nat.le_add_right _ _
      · rw [hspan]
        exact hlater

/-- Each token takes one byte at least. -/
theorem Token.Laid.length_le {n : Nat} {ts : List (Token α)} (h : Laid n ts) :
    n + ts.length ≤ Pass.lastStop n ts := by
  induction ts generalizing n with
  | nil => exact Nat.le_refl n
  | cons t ts ih =>
      rcases h with ⟨hstart, hleast, hts⟩
      have hlater : t.span.stop + ts.length ≤ Pass.lastStop n (t :: ts) := ih hts
      have hpos := t.least_pos
      rw [List.length_cons]
      omega

/-- Tokens end within the text that they were read from. -/
theorem Token.lastStop_le {text : String} {ts : List (Token String)}
    (h : ∀ t ∈ ts, t ∈ (read text).tokens) : Pass.lastStop 0 ts ≤ text.utf8ByteSize := by
  rw [← width_toList]
  rcases List.eq_nil_or_concat ts with rfl | ⟨front, t, rfl⟩
  · exact Nat.zero_le _
  · have ht : t ∈ (read text).tokens := h t (by rw [List.concat_eq_append]; simp)
    rw [Pass.lastStop, List.concat_eq_append, List.foldl_append]
    exact (stands_of_mem_read ht).stop.le_width

theorem Token.laid_of_read (text : String) : Laid 0 (read text).tokens :=
  Reader.laid_of_steps (r := .start text.toList) (tailAt_zero _)

/-- A text has no more tokens than bytes. -/
theorem Token.length_read_le (text : String) : (read text).tokens.length ≤ text.utf8ByteSize := by
  have hlength := (laid_of_read text).length_le
  rw [Nat.zero_add] at hlength
  exact hlength.trans (lastStop_le fun _ ht => ht)

end Layout

namespace Pass

section Steps

/-- The end of a statement ends assignments, and starts none. -/
theorem settle_outer_le (rounding : Rounding) (frame : Frame) (expecting : Expecting)
    (regroupings : Nat) (outer : List Assignment) :
    (settle rounding frame expecting regroupings outer).Ensures
      (fun q => q.outer.length ≤ outer.length) fun _ => True := by
  -- Settling closes assignments and opens none.
  induction outer generalizing frame expecting regroupings with
  | nil =>
      unfold settle
      split
      · split
        · exact ensures_fail _ trivial
        · exact ensures_pure _ (Nat.le_refl _)
      · exact ensures_pure _ (Nat.le_refl _)
  | cons a outer ih =>
      unfold settle
      split
      · exact handed_ensures (Q := fun _ => True) frame a.target _ _ (ensures_true _)
          (fun _ => ensures_true _) fun q _ =>
            (ih _ _ _).mono fun r hr => hr.trans (Nat.le_succ _)
      · exact ensures_pure _ (Nat.le_refl _)

theorem length_outer_target (p : Pass) (slot : Slot) (name : String) :
    (p.ready.target slot name).outer.length = p.outer.length + 1 := by
  rw [target, List.length_cons, outer_ready]

/-- The pass `q` comes from `p` by a token of the kind `kind`: it reads as many assignments as
    `p` at most, or one that the token is the target of. -/
def Opens (p : Pass) (kind : Token.Kind α) (q : Pass) : Prop :=
  q.outer.length ≤ p.outer.length ∨
    ∃ slot name, p.slot? = some slot ∧ kind = .assign name ∧ q = p.ready.target slot name

/-- A token starts one assignment at most, and none unless it is the target of one. -/
theorem feed_opens (rounding : Rounding) (p : Pass) (kind : Token.Kind α) (shown : String)
    (value : Operand α → Eval Value) :
    (p.feed rounding kind shown value).Ensures (p.Opens kind) fun _ => True := by
  have hcases := feed_cases rounding p kind shown value
  generalize p.feed rounding kind shown value = m at hcases
  cases hcases with
  | turn hturn houter =>
      refine ensures_pure _ ?_
      -- Of all turns only that of a target starts an assignment.
      cases hturn with
      | target hslot =>
          rcases houter with heq | ⟨a, hkind, heq⟩
          · exact Or.inl (by rw [heq])
          · cases (List.cons.inj heq).1
            exact Or.inr ⟨_, _, hslot, hkind, rfl⟩
      | _ => exact Or.inl (Nat.le_refl _)
  | refuse _ => exact ensures_fail _ trivial
  | take _ _ =>
      refine ensures_bind (ensures_true _) fun v _ => ?_
      refine ensures_bind (Q := fun q => q.outer = p.outer) ?_ fun q hq => ?_
      · exact ensures_ofExcept _
          (fun q hplace => (placed_of_place hplace).outer_eq.trans p.outer_ready) fun _ _ => trivial
      · exact (settle_outer_le rounding _ _ _ _).mono fun r hr => Or.inl (hq ▸ hr)
  | close _ _ => exact (settle_outer_le rounding _ _ _ _).mono fun r hr => Or.inl hr

variable (nested : Nested α) (rounding : Rounding) (env : Env) (source : String)

theorem step_opens (p : Pass) (t : Token α) :
    (p.step nested rounding env source t).Ensures (p.Opens t.kind) fun _ => True :=
  ensures_mapError (feed_opens rounding p t.kind _ _) fun _ _ => trivial

theorem Opens.le_least {p q : Pass} {t : Token α} (h : p.Opens t.kind q) :
    q.outer.length + 1 ≤ p.outer.length + t.least ∧ t.least ≤ 2 := by
  unfold Token.least
  rcases h with hle | ⟨slot, name, _, hkind, rfl⟩
  · split <;> omega
  · rw [hkind, length_outer_target]
    exact ⟨Nat.le_refl _, Nat.le_refl _⟩

/-- The assignments that are being read have had two bytes each. -/
theorem after_outer_le {n : Nat} {p : Pass} (h : 2 * p.outer.length ≤ n) {ts : List (Token α)}
    (hts : Token.Laid n ts) :
    (after nested rounding env source p ts).Ensures
      (fun q => 2 * q.outer.length ≤ lastStop n ts) fun _ => True := by
  induction ts generalizing n p with
  | nil => exact ensures_pure _ h
  | cons t ts ih =>
      rcases hts with ⟨hstart, hstop, hts⟩
      rw [after_cons]
      refine ensures_bind (step_opens nested rounding env source p t) fun q hq => ?_
      have hleast := hq.le_least
      have hq' : 2 * q.outer.length ≤ t.span.stop := by omega
      exact ih hq' hts

end Steps

section Assignments

variable (nested : Nested α) (rounding : Rounding) (env : Env) (source : String)

/-- Reading tokens until `depth` assignments at most are being read, or no token is left. What
    comes of it is the pass, and the tokens that it leaves. -/
def backTo (depth : Nat) (p : Pass) : List (Token α) → Eval (Pass × List (Token α))
  | [] => pure (p, [])
  | t :: ts =>
    if p.outer.length ≤ depth then pure (p, t :: ts)
    else p.step nested rounding env source t >>= fun q => backTo depth q ts

/-- Reading all tokens is reading some, and then those that are left. -/
theorem after_eq_backTo (depth : Nat) (p : Pass) (ts : List (Token α)) :
    after nested rounding env source p ts =
      backTo nested rounding env source depth p ts >>= fun r =>
        after nested rounding env source r.1 r.2 := by
  induction ts generalizing p with
  | nil => rfl
  | cons t ts ih =>
      unfold backTo
      split
      · rfl
      · rw [after_cons, bind_assoc]
        exact bind_congr fun q => ih q

/-- The tokens that were read come before those that are left. With more than `depth`
    assignments at the start, the first token is one of those that were read. -/
theorem backTo_ensures (depth : Nat) (p : Pass) (ts : List (Token α)) :
    (backTo nested rounding env source depth p ts).Ensures
      (fun r => (r.1.outer.length ≤ depth ∨ r.2 = []) ∧
        ∃ own, ts = own ++ r.2 ∧ (depth < p.outer.length → ts ≠ [] → own ≠ []))
      fun _ => True := by
  induction ts generalizing p with
  | nil => exact ensures_pure _ ⟨Or.inr rfl, [], rfl, fun _ h => absurd rfl h⟩
  | cons t ts ih =>
      unfold backTo
      split
      next hle => exact ensures_pure _ ⟨Or.inl hle, [], rfl, fun hlt => absurd hle hlt.not_ge⟩
      next =>
        refine ensures_bind (ensures_true _) fun q _ => (ih q).mono fun r hr => ?_
        rcases hr with ⟨hend, own, rfl, _⟩
        exact ⟨hend, t :: own, rfl, fun _ _ => List.cons_ne_nil _ _⟩

/-- How a pass `p` reads an assignment to `name`, whose target `t` comes next and is followed by
    the tokens `ts`: the value of the assignment is read from `ts`. -/
structure ReadsAssignment (p : Pass) (t : Token α) (ts : List (Token α)) (slot : Slot)
    (name : String) : Prop where
  /-- The target is read. One more assignment is being read after it. -/
  target : p.step nested rounding env source t = pure (p.ready.target slot name) ∧
    (p.ready.target slot name).outer.length = p.outer.length + 1
  /-- The value is read next, and what is around the assignment then goes on. -/
  after_eq : after nested rounding env source p (t :: ts) =
    backTo nested rounding env source p.outer.length (p.ready.target slot name) ts >>= fun r =>
      after nested rounding env source r.1 r.2
  /-- The value has a token of its own if there is any. -/
  reads : (backTo nested rounding env source p.outer.length (p.ready.target slot name) ts).Ensures
    (fun r => (r.1.outer.length ≤ p.outer.length ∨ r.2 = []) ∧
      ∃ own, ts = own ++ r.2 ∧ (ts ≠ [] → own ≠ [])) fun _ => True
  /-- If there is none, the value is missing. -/
  fails : ts = [] → ∀ ending cursor,
    ∃ e, runFrom nested rounding env source ending cursor p (t :: ts) = throw e

theorem readsAssignment {p : Pass} {t : Token α} {slot : Slot} {name : String}
    (hslot : p.slot? = some slot) (hkind : t.kind = .assign name) (ts : List (Token α)) :
    p.ReadsAssignment nested rounding env source t ts slot name := by
  have hstep : p.step nested rounding env source t = pure (p.ready.target slot name) := by
    unfold step
    rw [hkind, feed_assign rounding p slot name _ _ hslot]
    rfl
  have hlength := length_outer_target p slot name
  refine ⟨⟨hstep, hlength⟩, ?_, ?_, ?_⟩
  · rw [after_cons, hstep, pure_bind]
    exact after_eq_backTo nested rounding env source _ _ ts
  · refine (backTo_ensures nested rounding env source _ _ ts).mono fun r hr => ?_
    rcases hr with ⟨hend, own, hown, hne⟩
    exact ⟨hend, own, hown, hne (hlength ▸ Nat.lt_succ_self _)⟩
  · -- With nothing behind the target, the run can only stop.
    rintro rfl ending cursor
    rw [runFrom_eq, after_cons, hstep, pure_bind, after_nil, pure_bind]
    cases ending with
    | fault fault => exact ⟨_, rfl⟩
    | finished leftover => exact ⟨_, rfl⟩

end Assignments

end Pass

section Open

/-- Evaluating `a` from `vs` comes to a moment at which `n` passes have started and not ended:
    the one over `a`, those of the assignments that are being read in it, and those of an
    expression inside it. -/
inductive OpenPasses (nested : Nested α) (rounding : Rounding) (env : Env)
    (tokens : α → List (Token α)) : α → Variables → Nat → Prop
  | reading {a : α} {vs mid : Variables} {ts us : List (Token α)} {p : Pass} :
      tokens a = ts ++ us →
      (Pass.after nested rounding env (nested.text a) .start ts).outcome vs = (.ok p, mid) →
      OpenPasses nested rounding env tokens a vs (p.outer.length + 1)
  | inside {a b : α} {vs mid vs' : Variables} {ts us : List (Token α)} {t : Token α}
      {o : Operand α} {p : Pass} {n : Nat} :
      tokens a = ts ++ t :: us →
      (Pass.after nested rounding env (nested.text a) .start ts).outcome vs = (.ok p, mid) →
      p.slot?.isSome → t.kind = .operand o → nested.Visits o.nested mid b vs' →
      OpenPasses nested rounding env tokens b vs' n →
      OpenPasses nested rounding env tokens a vs (p.outer.length + 1 + n)

variable {nested : Nested α} {rounding : Rounding} {env : Env} {tokens : α → List (Token α)}
  {a : α}

/-- The expressions inside an expression are those that its text is read to hold. -/
def Token.Faithful (nested : Nested α) (tokens : α → List (Token α)) (P : α → Prop) : Prop :=
  ∀ a, P a → (tokens a).map (Token.map nested.text) = (Token.read (nested.text a)).tokens ∧
    ∀ t ∈ tokens a, ∀ b ∈ t.nested, P b

/-- The tokens read so far have room for the assignments that are being read, and the tokens
    to come stand behind them. -/
theorem OpenPasses.room {vs mid : Variables} {ts us : List (Token α)} {p : Pass}
    (hread : (tokens a).map (Token.map nested.text) = (Token.read (nested.text a)).tokens)
    (htokens : tokens a = ts ++ us)
    (hafter : (Pass.after nested rounding env (nested.text a) .start ts).outcome vs =
      (.ok p, mid)) :
    2 * p.outer.length ≤ Pass.lastStop 0 ts ∧
      Pass.lastStop 0 ts ≤ (nested.text a).utf8ByteSize ∧ Token.Laid (Pass.lastStop 0 ts) us := by
  have hlaid := Token.laid_of_read (nested.text a)
  rw [← hread, Token.laid_map, htokens] at hlaid
  -- The tokens read so far give a bound on the assignments that they opened, and those
  -- still to come are laid behind them.
  rcases hlaid.append with ⟨hts, hus⟩
  refine ⟨?_, ?_, hus⟩
  · exact (Pass.after_outer_le nested rounding env (nested.text a) (p := .start)
      (Nat.zero_le 0) hts).of_ok hafter
  · rw [← Pass.lastStop_map nested.text]
    refine Token.lastStop_le fun t ht => ?_
    rw [← hread, htokens, List.map_append]
    exact List.mem_append_left _ ht

/-- No more passes are open than half the bytes of the text, and one. -/
theorem OpenPasses.le {P : α → Prop} (hP : Token.Faithful nested tokens P) {vs : Variables}
    {n : Nat} (h : OpenPasses nested rounding env tokens a vs n) (ha : P a) :
    n ≤ (nested.text a).utf8ByteSize / 2 + 1 := by
  -- The induction is on the expressions that are open, the innermost first.
  induction h with
  | reading htokens hafter =>
      rcases room (hP _ ha).1 htokens hafter with ⟨hroom, hsize, _⟩
      omega
  | @inside a b vs mid vs' ts us t o p n htokens hafter _ hkind hvisits _ ih =>
      rcases hP a ha with ⟨hread, hclosed⟩
      rcases room hread htokens hafter with ⟨hroom, _, hus⟩
      have ht : t ∈ tokens a := htokens ▸ List.mem_append_right ts List.mem_cons_self
      have hb : b ∈ t.nested := by
        rw [Token.nested, hkind]
        exact hvisits.mem
      -- The text inside the token stands behind the assignments that are being read.
      have hmap : t.map nested.text ∈ (Token.read (nested.text a)).tokens := by
        rw [← hread]
        exact List.mem_map_of_mem ht
      have hinside : nested.text b ∈ (t.map nested.text).nested := by
        rw [Token.nested_map]
        exact List.mem_map_of_mem hb
      have hencloses := Token.encloses_of_mem_read hmap _ hinside
      have hstart : Pass.lastStop 0 ts ≤ t.span.start := hus.1
      have hshorter : (nested.text b).utf8ByteSize + 2 ≤ t.span.stop - t.span.start :=
        hencloses.shorter
      have hstop : t.span.stop ≤ (nested.text a).utf8ByteSize := hencloses.stop_le
      have hn := ih (hclosed t ht b hb)
      omega

end Open

theorem Interpret.faithful_tokens (config : Config) (env : Env) :
    Token.Faithful (evaluator config env) tokens fun _ => True := by
  intro text _
  have hid : Token.map (id : String → String) = id := funext fun t => Token.map_id t
  exact ⟨(congrArg (List.map · (tokens text)) hid).trans (List.map_id _), fun _ _ _ _ => trivial⟩

theorem Program.faithful_nodes (config : Config) (env : Env) :
    Token.Faithful (evaluator config env) nodes fun p => compile p.source = .ok p :=
  fun _ hp => ⟨(compiledFrom_compile hp).nodes_eq, (compiledFrom_compile hp).nested⟩

/-- The texts inside the tokens of a text stand inside them, and compiling and evaluating go from
    texts to the texts inside. So they come to an end, at most half the bytes of the text and one
    levels down. No more passes are open at any time. Each pass reads as many tokens as its text
    has, one after the other, and the passes over the values of assignments share them: such a
    pass begins with the target and has a token of its own behind it, if there is any. -/
theorem nesting_bounded (text : String) :
    (∀ t ∈ (Token.read text).tokens, ∀ s ∈ t.nested, t.Encloses text s) ∧
    (∀ bottom,
      Program.compileWith^[text.utf8ByteSize / 2 + 1] bottom text = Program.compile text) ∧
    (∀ config env,
      (∀ bottom, Interpret.wholeWith config env
          ((Interpret.nestedWith config env)^[text.utf8ByteSize / 2] bottom) text =
        Interpret.whole config env text) ∧
      (∀ vs n, OpenPasses (Interpret.evaluator config env) config.rounding env Interpret.tokens
          text vs n → n ≤ text.utf8ByteSize / 2 + 1) ∧
      ∀ p, Program.compile text = .ok p →
        (∀ bottom, Program.wholeWith config env
            ((Program.nestedWith config env)^[text.utf8ByteSize / 2] bottom) p =
          p.run config env) ∧
        ∀ vs n, OpenPasses (Program.evaluator config env) config.rounding env Program.nodes
          p vs n → n ≤ text.utf8ByteSize / 2 + 1) ∧
    (Token.read text).tokens.length ≤ text.utf8ByteSize ∧
    ∀ (α : Type) (nested : Nested α) (rounding : Rounding) (env : Env) (p : Pass) (t : Token α),
      (p.step nested rounding env text t).Ensures (p.Opens t.kind) (fun _ => True) ∧
      ∀ slot name, p.slot? = some slot → t.kind = .assign name →
        ∀ ts, p.ReadsAssignment nested rounding env text t ts slot name := by
  refine ⟨fun t ht => Token.encloses_of_mem_read ht,
    fun bottom => Program.iterate_compileWith bottom text, fun config env => ⟨?_, ?_, ?_⟩,
    Token.length_read_le text, fun α nested rounding env p t => ⟨?_, ?_⟩⟩
  · exact fun bottom => Interpret.iterate_wholeWith config env bottom text
  · exact fun vs n h => h.le (Interpret.faithful_tokens config env) trivial
  · intro p hp
    -- A program keeps the text it was compiled from, so its bound is that of the text.
    have hsource := Program.source_of_compile hp
    refine ⟨fun bottom => Program.iterate_wholeWith config env bottom hp, fun vs n h => ?_⟩
    rw [← hsource] at hp ⊢
    exact h.le (Program.faithful_nodes config env) hp
  · exact Pass.step_opens nested rounding env text p t
  · exact fun slot name hslot hkind ts =>
      Pass.readsAssignment nested rounding env text hslot hkind ts

/-- In `x = [y = 2]` an assignment is read inside a list, and the list inside an assignment. So
    four passes are open before the token `2`. -/
theorem nesting_bounded_list :
    (∃ t ∈ (Token.read "x = [y = 2]").tokens, "y = 2" ∈ t.nested ∧
      t.Encloses "x = [y = 2]" "y = 2") ∧
    (∃ p, Program.compile "x = [y = 2]" = .ok p ∧ ∀ bottom, Program.wholeWith {} ⟨.null, .null⟩
        ((Program.nestedWith {} ⟨.null, .null⟩)^["x = [y = 2]".utf8ByteSize / 2] bottom) p =
      p.run {} ⟨.null, .null⟩) ∧
    (OpenPasses (Interpret.evaluator {} ⟨.null, .null⟩) ({} : Config).rounding ⟨.null, .null⟩
        Interpret.tokens "x = [y = 2]" (.ofGlobals .empty) 4 ∧
      4 ≤ "x = [y = 2]".utf8ByteSize / 2 + 1) ∧
    Pass.start.ReadsAssignment (Interpret.evaluator {} ⟨.null, .null⟩) .halfDown ⟨.null, .null⟩
      "x = [y = 2]" ⟨.assign "x", ⟨0, 3⟩, false⟩
      [⟨.operand (.list ["y = 2"]), ⟨4, 11⟩, false⟩] .first "x" := by
  have hread : Token.read "x = [y = 2]" =
      ⟨[⟨.assign "x", ⟨0, 3⟩, false⟩, ⟨.operand (.list ["y = 2"]), ⟨4, 11⟩, false⟩],
        .finished false⟩ := by
    rw [Token.read_eq 12 (by decide)]
    with_unfolding_all rfl
  have hinner : Token.read "y = 2" =
      ⟨[⟨.assign "y", ⟨0, 3⟩, false⟩, ⟨.operand (.literal (.int 2)), ⟨4, 5⟩, false⟩],
        .finished false⟩ := by
    rw [Token.read_eq 6 (by decide)]
    rfl
  have helement : Program.compile "y = 2" = .ok ⟨"y = 2",
      [⟨.assign "y", ⟨0, 3⟩, false⟩, ⟨.operand (.literal (.int 2)), ⟨4, 5⟩, false⟩]⟩ := by
    rw [Program.compile_eq, hinner]
    rfl
  have hcompile : ∃ p, Program.compile "x = [y = 2]" = .ok p := by
    rw [Program.compile_eq, hread]
    simp only [List.mapM_cons, Program.compileToken, Program.compileOperand,
      Program.compileElements, Program.compileAt, id, helement]
    exact ⟨_, rfl⟩
  have hopen : OpenPasses (Interpret.evaluator {} ⟨.null, .null⟩) ({} : Config).rounding
      ⟨.null, .null⟩ Interpret.tokens "x = [y = 2]" (.ofGlobals .empty) 4 := by
    have houter : Interpret.tokens "x = [y = 2]" = [⟨.assign "x", ⟨0, 3⟩, false⟩] ++
        [⟨.operand (.list ["y = 2"]), ⟨4, 11⟩, false⟩] := congrArg Reading.tokens hread
    have htokens : Interpret.tokens "y = 2" = [⟨.assign "y", ⟨0, 3⟩, false⟩] ++
        [⟨.operand (.literal (.int 2)), ⟨4, 5⟩, false⟩] := congrArg Reading.tokens hinner
    have hlater : OpenPasses (Interpret.evaluator {} ⟨.null, .null⟩) ({} : Config).rounding
        ⟨.null, .null⟩ Interpret.tokens "y = 2" (.ofGlobals .empty) 2 :=
      .reading (p := Pass.start.target .first "y") htokens rfl
    exact .inside (p := Pass.start.target .first "x") houter rfl rfl rfl .head hlater
  rcases nesting_bounded "x = [y = 2]" with ⟨hencloses, _, hlevels, _, hassignments⟩
  rcases hlevels {} ⟨.null, .null⟩ with ⟨_, hbound, hprograms⟩
  rcases hcompile with ⟨p, hp⟩
  refine ⟨?_, ⟨p, hp, (hprograms p hp).1⟩, ⟨hopen, hbound _ _ hopen⟩, ?_⟩
  · rw [hread] at hencloses ⊢
    refine ⟨_, List.mem_cons_of_mem _ List.mem_cons_self, List.mem_cons_self, ?_⟩
    exact hencloses _ (List.mem_cons_of_mem _ List.mem_cons_self) _ List.mem_cons_self
  · exact (hassignments String _ .halfDown ⟨.null, .null⟩ .start _).2 .first "x" rfl rfl _

end Reckon
