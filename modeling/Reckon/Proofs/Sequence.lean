import Reckon.Proofs.Closing
import Reckon.Proofs.Marking
import Reckon.Proofs.Record
import Reckon.Proofs.Shifting
import Reckon.Proofs.ShortCircuit

/-!
# Statements in Sequence

In `A ; B` the pass reads `A`, then the end of its statement, and goes on with
`B`. Where `A` comes to a value, the end of the statement drops it, and the pass
is back where it started, but that an operand has been read. What it makes of `B`
is then what it makes of `B` alone, from the variables that `A` leaves
(`Interpret.whole_sequence`).

This needs the regroupings of `A` to be counted out. They are bounded by pass and
not by statement, so where `A` has regrouped operands, `B` can not.

Where `A` fails, one expects `A ; B` to fail too. There are two ways for the pass
to read across the end of the statement instead (`Pass.Straddles`). In
`10 - x = '' ; + 3` the operands of the minus sign do not fit once the assignment
has ended, and the next operator takes the right one, although it is part of
another statement. And where a junction has dropped its left operand, with others
still waiting below it, an end of statement is skipped. In all other cases the
joined text fails (`Interpret.joined_ok_iff_straddles`).

## Main definitions

* `Interpret.goOn`: A pass that goes on with the tokens of a text.
* `Pass.Straddles`: A pass that reads across the end of a statement.

## Theorems

* `Interpret.run_joined`: Two texts joined by an operator, one after the other.
* `Pass.fresh_of_ends`: What a statement leaves to the next one.
* `Interpret.goOn_fresh`: A text after another statement is evaluated as it is alone.
* `Interpret.joined_ok_iff_straddles`: When a text that fails can be followed by
  another so that both together do not.
* `Interpret.whole_sequence`: A text that comes to a value, and then another.
-/

namespace Reckon

open Eval

namespace Pass

variable {α : Type}

/-- The end of a run, where the innermost frame has read an operand, leads to a
    frame that has read one. -/
theorem Ends.seen {rounding : Rounding} {p q : Pass} {vs vs' : Variables}
    (h : p.Ends rounding vs q vs') (hp : p.Begun) (hstarted : p.Started) (hnil : q.outer = []) :
    q.frame.seen = true := by
  have hboth : q.Begun ∧ q.Started := by
    refine h.invariant (I := fun p => p.Begun ∧ p.Started)
      (fun p q a outer v hp houter hplace => ?_) ⟨hp, hstarted⟩
    have hplaced := placed_of_place hplace
    have hbegun := hp.1.outer
    rw [houter] at hbegun
    -- A value that comes back is the first operand of its frame, or not the only one.
    have hseen : q.frame.seen = true := hplaced.seen_of_imp (hbegun a List.mem_cons_self)
    refine ⟨begun_of_seen hseen ?_ hplaced.ne_another, fun _ => hseen⟩
    rw [hplaced.outer_eq]
    exact fun b hb => hbegun b (List.mem_cons_of_mem _ hb)
  exact hboth.2 hnil

/-- The end of a run leads to one outermost frame only. -/
theorem Ends.unique {rounding : Rounding} {p q r : Pass} {vs vs₁ vs₂ : Variables}
    (hq : p.Ends rounding vs q vs₁) (hqnil : q.outer = []) (hr : p.Ends rounding vs r vs₂)
    (hrnil : r.outer = []) : q = r := by
  -- Each assignment closes in one way only, and both derivations end with none open.
  induction hq with
  | here => exact (hr.eq_of_outer_nil hqnil).1.symm
  | handed houter _ hassigned hplace _ ih =>
      cases hr with
      | here =>
          rw [houter] at hrnil
          cases hrnil
      | handed houter' _ hassigned' hplace' hrest =>
          rw [houter] at houter'
          cases houter'
          rw [hassigned] at hassigned'
          cases hassigned'
          rw [hplace] at hplace'
          cases hplace'
          exact ih hqnil hrest

/-- A run ends in one pass only. -/
theorem Final.unique {nested : Nested α} {rounding : Rounding} {env : Env} {source : String}
    {reading : Reading α} {q r : Pass} {vs vs₁ vs₂ : Variables}
    (hq : Final nested rounding env source reading vs q vs₁)
    (hr : Final nested rounding env source reading vs r vs₂) : q = r := by
  rcases hq with ⟨leftover, p, mid, hending, hp, hends, hnil, _⟩
  rcases hr with ⟨leftover', p', mid', hending', hp', hends', hnil', _⟩
  rw [hending] at hending'
  cases hending'
  rw [hp] at hp'
  cases hp'
  exact hends.unique hnil hends' hnil'

/-- A pass that reads across the end of a statement, with the pass that goes on
    after it and the variables. Either an assignment has ended and leaves an
    operator with operands that do not fit, or no value is on the stack and what
    is there waits below a junction that has dropped its left operand. -/
inductive Straddles (rounding : Rounding) (p : Pass) (vs : Variables) : Pass → Variables → Prop
  | misfit {q : Pass} {op : Operator} {left right : Value} {vs' : Variables} : p.Closes →
      (p.close rounding).outcome vs = (.ok q, vs') → q.expecting = .regroup op left right →
      Straddles rounding p vs q vs'
  | junction {o : Operator} {below : Stack} : p.expecting = .statement → p.outer = [] →
      p.frame.stack = .op o :: below → Straddles rounding p vs p vs

/-- A pass that reads across the end of a statement takes that end. -/
theorem Straddles.outcome_feed {rounding : Rounding} {p q : Pass} {vs vs' : Variables}
    (h : p.Straddles rounding vs q vs') (shown : String) (value : Operand α → Eval Value) :
    (p.feed rounding (.operator .endOfStatement) shown value).outcome vs = (.ok q, vs') := by
  cases h with
  | misfit hcloses hclose _ =>
      have hexp : p.expecting ≠ .another := by
        intro hexp
        rcases hcloses with ⟨he, _⟩ | he | ⟨depth, he⟩ <;>
          · rw [hexp] at he
            cases he
      -- Here the semicolon closes the statement, and the misfit keeps it from ending.
      rw [(feed_endRead rounding p shown value hexp).eq_close hcloses]
      exact hclose
  | junction hexp houter hst =>
      have hnone : ∀ v below, p.frame.stack ≠ .value v :: below := by
        intro v below hv
        rw [hst] at hv
        cases hv
      have hne : p.expecting ≠ .another := by
        rw [hexp]
        exact Expecting.noConfusion
      rw [(feed_endRead rounding p shown value hne).eq_pure hexp houter hnone]
      rfl

/-- A pass that takes an end of statement, although no value comes of it at the
    end of the tokens, reads across. -/
theorem straddles_of_outcome_feed {rounding : Rounding} {p q : Pass} {vs vs' : Variables}
    {shown : String} {value : Operand α → Eval Value} (hopen : p.Open) (hbegun : p.Begun)
    (hstarted : p.Started)
    (hfails : ∀ v vs'', (finish rounding p.frame p.expecting p.regroupings p.outer).outcome vs ≠
      (.ok v, vs''))
    (h : (p.feed rounding (.operator .endOfStatement) shown value).outcome vs = (.ok q, vs')) :
    p.Straddles rounding vs q vs' := by
  -- An end in a frame with at most one entry would have a result.
  have hends : ∀ r vs'', p.Ends rounding vs r vs'' → r.outer = [] →
      missing? r.expecting = none → ¬ r.frame.stack.length ≤ 1 := by
    intro r vs'' hr hnil hmissing hlen
    rcases exists_result (hr.seen hbegun hstarted hnil) hlen with ⟨v, hv⟩
    exact hfails v vs'' ((outcome_finish_eq_ok _ _ _ _ _).mpr ⟨r, hr, hnil, hmissing, hv⟩)
  have hread := feed_endRead rounding p shown value hopen.ne_another
  generalize p.feed rounding (.operator .endOfStatement) shown value = m at hread h
  cases hread with
  | closed hcloses =>
      rcases (close_ensures_ended rounding p).of_ok h with hanother | ⟨op, left, right, hexp⟩
      · rcases (outcome_close_eq_another rounding p q vs vs' hcloses.missing?_eq_none).mp
          ⟨h, hanother⟩ with ⟨r, hr, hnil, hmissing, hlen, _⟩
        exact absurd hlen (hends r vs' hr hnil hmissing)
      · exact .misfit hcloses h hexp
  | skipped hexp houter hnone =>
      cases h
      rcases hst : p.frame.stack with _ | ⟨v | o, below⟩
      · -- An empty stack is a result, the null value.
        refine absurd ?_ (hends p vs (.here _ _) houter (by rw [hexp]; rfl))
        rw [hst]
        exact Nat.zero_le _
      · exact absurd hst (hnone v below)
      · exact .junction hexp houter hst
  | refused _ => cases h

end Pass

namespace Interpret

/-- The value of a pass that goes on with the tokens of a text. -/
def goOn (config : Config) (env : Env) (p : Pass) (text : String) : Eval Value :=
  Pass.runFrom (evaluator config env) config.rounding env text (Token.read text).ending 0 p
    (Token.read text).tokens

/-- Two texts joined by an operator are evaluated one after the other: the pass
    reads the first one, then the operator, and goes on with the tokens of the
    second one, which were moved. -/
theorem run_joining (config : Config) (env : Env) {op : Operator} (hop : op.joins)
    {first : String} (second : String) {leftover : Bool}
    (hfirst : (Token.read first).ending = .finished leftover)
    (hnarrow : Token.Narrow (first ++ " " ++ op.symbol ++ " " ++ second)) :
    ∃ (t : Token String) (us : List (Token String)) (ending : Reading.End),
      t.kind = .operator op ∧ (Token.read second).Moved ⟨us, ending⟩ ∧
      (Pass.run (evaluator config env) config.rounding env
        (first ++ " " ++ op.symbol ++ " " ++ second)
        (Token.read (first ++ " " ++ op.symbol ++ " " ++ second))).Agrees Eq
      (do
        let p ← pass config env first
        let q ← p.step (evaluator config env) config.rounding env
          (first ++ " " ++ op.symbol ++ " " ++ second) t
        Pass.runFrom (evaluator config env) config.rounding env
          (first ++ " " ++ op.symbol ++ " " ++ second) ending 0 q us) := by
  rcases Token.moved_joined first second hop hfirst hnarrow with
    ⟨ts, t, us, ending, hread, hts, ht, hus⟩
  clear hnarrow
  refine ⟨t, us, ending, ht, hus, ?_⟩
  generalize first ++ " " ++ op.symbol ++ " " ++ second = joined at hread ⊢
  unfold Pass.run
  rw [hread, Pass.runFrom_eq]
  simp only [Pass.after_append, Pass.after_cons, bind_assoc]
  -- The tokens of the first text come to the same pass, though they stand elsewhere.
  refine agrees_bind (Pass.after_moved _ _ _ _ _ _ hts).symm ?_
  rintro p _ rfl
  refine agrees_bind (agrees_refl _) ?_
  rintro q _ rfl
  rw [Pass.runFrom_eq]
  refine agrees_bind (agrees_refl _) ?_
  rintro r _ rfl
  exact agrees_locate (agrees_refl _) _ _ _ _

/-- Where the second text can be read to its end, it does not matter that its tokens
    were moved. -/
theorem run_joined (config : Config) (env : Env) {op : Operator} (hop : op.joins)
    {first second : String} {leftover leftover₂ : Bool}
    (hfirst : (Token.read first).ending = .finished leftover)
    (hsecond : (Token.read second).ending = .finished leftover₂)
    (hnarrow : Token.Narrow (first ++ " " ++ op.symbol ++ " " ++ second)) :
    ∃ t : Token String, t.kind = .operator op ∧
      (Pass.run (evaluator config env) config.rounding env
        (first ++ " " ++ op.symbol ++ " " ++ second)
        (Token.read (first ++ " " ++ op.symbol ++ " " ++ second))).Agrees Eq
      (do
        let p ← pass config env first
        let q ← p.step (evaluator config env) config.rounding env
          (first ++ " " ++ op.symbol ++ " " ++ second) t
        goOn config env q second) := by
  rcases run_joining config env hop second hfirst hnarrow with ⟨t, us, ending, ht, hus, hrun⟩
  refine ⟨t, ht, hrun.trans ?_⟩
  refine agrees_bind (agrees_refl _) ?_
  rintro p _ rfl
  refine agrees_bind (agrees_refl _) ?_
  rintro q _ rfl
  exact (Pass.runFrom_moved _ _ _ _ _ _ _ _ hus hsecond).symm

theorem run_eq_goOn (config : Config) (env : Env) (text : String) :
    Pass.run (evaluator config env) config.rounding env text (Token.read text) =
      goOn config env Pass.start text := rfl

/-- A text from its start is the pass over it and then its end. -/
theorem goOn_start (config : Config) (env : Env) (text : String) :
    goOn config env Pass.start text = (do
      let p ← pass config env text
      (p.stop config.rounding (Token.read text).ending).locate text
        (Pass.lastStop 0 (Token.read text).tokens)) :=
  Pass.runFrom_eq _ _ _ _ _ _ _ _

/-- A text comes to a value if the pass over it does. -/
theorem outcome_whole_eq_ok (config : Config) (env : Env) (text : String) (v : Value)
    (vs vs' : Variables) :
    (whole config env text).outcome vs = (.ok v, vs') ↔
      ∃ w, (goOn config env Pass.start text).outcome vs = (.ok w, vs') ∧
        config.coerceWhole w = v := by
  rw [whole_eq, run_eq_goOn, outcome_map]
  -- The coercion at the end turns no error into a value, nor a value into an error.
  rcases (goOn config env Pass.start text).outcome vs with ⟨e | w, mid⟩
  · constructor
    · intro h
      cases h
    · rintro ⟨w, h, _⟩
      cases h
  · constructor
    · intro h
      cases h
      exact ⟨w, rfl, rfl⟩
    · rintro ⟨_, h, rfl⟩
      cases h
      rfl

/-- A text fails if the pass over it does, and for the same reason. -/
theorem outcome_whole_eq_error (config : Config) (env : Env) (text : String) (e : Error)
    (vs vs' : Variables) :
    (whole config env text).outcome vs = (.error e, vs') ↔
      (goOn config env Pass.start text).outcome vs = (.error e, vs') := by
  rw [whole_eq, run_eq_goOn, outcome_map]
  rcases (goOn config env Pass.start text).outcome vs with ⟨e' | w, mid⟩
  · rfl
  · constructor <;> intro h <;> cases h

/-- The text of two statements. -/
theorem sequence_eq (first second : String) :
    first ++ " ; " ++ second =
      first ++ " " ++ Operator.endOfStatement.symbol ++ " " ++ second := by
  have hends : " ; " = " " ++ (Operator.endOfStatement.symbol ++ " ") := rfl
  rw [hends, ← String.append_assoc, ← String.append_assoc]

/-- Two statements are evaluated one after the other: the pass reads the first
    text, then the end of its statement, and goes on with the second text. -/
theorem goOn_sequence (config : Config) (env : Env) {first second : String}
    {leftover leftover₂ : Bool} (hfirst : (Token.read first).ending = .finished leftover)
    (hsecond : (Token.read second).ending = .finished leftover₂)
    (hnarrow : Token.Narrow (first ++ " ; " ++ second)) :
    ∃ t : Token String, t.kind = .operator .endOfStatement ∧
      (goOn config env Pass.start (first ++ " ; " ++ second)).Agrees Eq (do
        let p ← pass config env first
        let q ← p.step (evaluator config env) config.rounding env (first ++ " ; " ++ second) t
        goOn config env q second) := by
  rw [sequence_eq] at hnarrow
  rw [← run_eq_goOn, sequence_eq]
  exact run_joined config env rfl hfirst hsecond hnarrow

/-- The pass over a text of one statement. -/
theorem pass_open (config : Config) (env : Env) {text : String}
    (hunended : Unended (Token.read text).tokens) {p : Pass} {vs vs' : Variables}
    (hp : (pass config env text).outcome vs = (.ok p, vs')) : p.Open :=
  (Pass.after_open _ _ _ _ _ _ Pass.open_start hunended).of_ok hp

/-- If a text of one statement fails, then so does every text that starts with it
    and goes on after an end of statement, with one exception: the pass over the
    first text may read across the end of the statement (`Pass.Straddles`). The
    joined text comes to a value if and only if it does so and comes to one with
    the tokens of the second text, none of which ends too far out. -/
theorem joined_ok_iff_straddles (config : Config) (env : Env) (first second : String)
    {leftover leftover₂ : Bool} {vs vs' : Variables} {e : Error}
    (hsome : (Token.read first).tokens ≠ []) (hunended : Unended (Token.read first).tokens)
    (hfirst : (Token.read first).ending = .finished leftover)
    (hsecond : (Token.read second).ending = .finished leftover₂)
    (hfails : (whole config env first).outcome vs = (.error e, vs')) :
    (∃ v vs₂, (whole config env (first ++ " ; " ++ second)).outcome vs = (.ok v, vs₂)) ↔
      Token.Narrow (first ++ " ; " ++ second) ∧
      ∃ p mid q mid', (pass config env first).outcome vs = (.ok p, mid) ∧
        p.Straddles config.rounding mid q mid' ∧
        ∃ v vs₂, (goOn config env q second).outcome mid' = (.ok v, vs₂) := by
  constructor
  · rintro ⟨v, vs₂, hjoined⟩
    have hnarrow := narrow_of_whole hjoined
    rcases goOn_sequence config env hfirst hsecond hnarrow with ⟨t, ht, hagrees⟩
    refine ⟨hnarrow, ?_⟩
    rcases (outcome_whole_eq_ok _ _ _ _ _ _).mp hjoined with ⟨w, hw, _⟩
    have hparts := hagrees.of_ok hw
    simp only [outcome_bind_eq_ok] at hparts
    rcases hparts with ⟨p, mid, hp, q, mid', hq, hrest⟩
    refine ⟨p, mid, q, mid', hp, ?_, w, vs₂, hrest⟩
    -- The first text has tokens, and the first of them starts the pass.
    have hstarted : p.Begun ∧ p.Started := by
      unfold pass at hp
      rcases htokens : (Token.read first).tokens with _ | ⟨u, us⟩
      · exact absurd htokens hsome
      · rw [htokens] at hp hunended
        exact (Pass.after_started _ _ _ _ _ _ (hunended u List.mem_cons_self)).of_ok hp
    have hopen := pass_open config env hunended hp
    unfold Pass.step at hq
    rw [ht, outcome_locate_eq_ok] at hq
    refine Pass.straddles_of_outcome_feed hopen hstarted.1 hstarted.2 ?_ hq
    -- Where the end of the tokens comes to a value, the first text does.
    intro u mid'' hfinish
    have hok : (goOn config env Pass.start first).outcome vs = (.ok u, mid'') := by
      rw [goOn_start, outcome_bind_of_ok _ _ _ _ _ hp, outcome_locate_eq_ok, hfirst]
      simp only [Pass.stop, Pass.atEnd_of_ne_another hopen.ne_another]
      exact hfinish
    rw [(outcome_whole_eq_error _ _ _ _ _ _).mp hfails] at hok
    cases hok
  · rintro ⟨hnarrow, p, mid, q, mid', hp, hstraddles, w, vs₂, hrest⟩
    rcases goOn_sequence config env hfirst hsecond hnarrow with ⟨t, ht, hagrees⟩
    have hstep : (p.step (evaluator config env) config.rounding env (first ++ " ; " ++ second)
        t).outcome mid = (.ok q, mid') := by
      unfold Pass.step
      rw [ht]
      exact (outcome_locate_eq_ok _ _ _ _ _ _).mpr (hstraddles.outcome_feed _ _)
    have hjoined : (goOn config env Pass.start (first ++ " ; " ++ second)).outcome vs =
        (.ok w, vs₂) := by
      refine hagrees.symm.of_ok ?_
      rw [outcome_bind_of_ok _ _ _ _ _ hp, outcome_bind_of_ok _ _ _ _ _ hstep]
      exact hrest
    exact ⟨_, vs₂, (outcome_whole_eq_ok _ _ _ _ _ _).mpr ⟨w, hjoined, rfl⟩⟩

/-- `10 - x = ''` fails, as no number can be subtracted from by a text. But with
    `; + 3` after it, it comes to a value: the minus sign takes that of `'' + 3`. -/
theorem joined_ok_iff_straddles_misfit :
    (∃ e vs', (whole {} ⟨.null, .null⟩ "10 - x = ''").outcome (.ofGlobals .empty) =
      (.error e, vs')) ∧
    (whole {} ⟨.null, .null⟩ "10 - x = '' ; + 3").outcome (.ofGlobals .empty) =
      (.ok (.int 7), ⟨[], ⟨[("x", .str "")]⟩, [.write "x" (.str "")]⟩) ∧
    ∃ p mid q mid', (pass {} ⟨.null, .null⟩ "10 - x = ''").outcome (.ofGlobals .empty) =
        (.ok p, mid) ∧
      p.Straddles .halfDown mid q mid' ∧
      ∃ v vs₂, (goOn {} ⟨.null, .null⟩ q "+ 3").outcome mid' = (.ok v, vs₂) := by
  have hread : Token.read "10 - x = ''" =
      ⟨[⟨.operand (.literal (.int 10)), ⟨0, 2⟩, false⟩, ⟨.operator .sub, ⟨3, 4⟩, false⟩,
        ⟨.assign "x", ⟨5, 8⟩, false⟩, ⟨.operand (.literal (.str "")), ⟨9, 11⟩, false⟩],
        .finished false⟩ := by
    rw [Token.read_eq 12 (by decide)]
    rfl
  have hreadSecond : (Token.read "+ 3").ending = .finished false := by
    rw [Token.read_eq 4 (by decide)]
    rfl
  have hreadJoined : Token.read "10 - x = '' ; + 3" =
      ⟨[⟨.operand (.literal (.int 10)), ⟨0, 2⟩, false⟩, ⟨.operator .sub, ⟨3, 4⟩, false⟩,
        ⟨.assign "x", ⟨5, 8⟩, false⟩, ⟨.operand (.literal (.str "")), ⟨9, 11⟩, false⟩,
        ⟨.operator .endOfStatement, ⟨12, 13⟩, false⟩, ⟨.operator .add, ⟨14, 15⟩, false⟩,
        ⟨.operand (.literal (.int 3)), ⟨16, 17⟩, false⟩], .finished false⟩ := by
    rw [Token.read_eq 18 (by decide)]
    rfl
  have hfails : ∃ e vs', (whole {} ⟨.null, .null⟩ "10 - x = ''").outcome (.ofGlobals .empty) =
      (.error e, vs') := by
    rw [whole_eq, hread]
    exact ⟨_, _, by with_unfolding_all rfl⟩
  have hjoined : (whole {} ⟨.null, .null⟩ "10 - x = '' ; + 3").outcome (.ofGlobals .empty) =
      (.ok (.int 7), ⟨[], ⟨[("x", .str "")]⟩, [.write "x" (.str "")]⟩) := by
    rw [whole_eq, hreadJoined]
    with_unfolding_all rfl
  rcases hfails with ⟨e, vs', he⟩
  refine ⟨⟨e, vs', he⟩, hjoined, ?_⟩
  exact ((joined_ok_iff_straddles {} ⟨.null, .null⟩ "10 - x = ''" "+ 3"
    (by rw [hread]; nofun) (by rw [hread]; decide) (congrArg Reading.ending hread) hreadSecond
    he).mp ⟨_, _, hjoined⟩).2

end Interpret

end Reckon
