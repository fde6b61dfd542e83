import Reckon.Engine
import Reckon.Proofs.ShortCircuit

/-!
# Coercing a Result

What becomes of the value of an expression is decided at its very end. A whole
decimal is narrowed to an integer unless the configuration keeps it, and the
value of a whole expression becomes a boolean where results are booleans. The
two do not get in each other's way: narrowing changes how a number is written
and not whether it is zero, so a value stands for the same boolean before and
after it (`Value.truth_narrow`), and a value that has been narrowed stays as it
is (`Value.narrow_narrow`).

The expressions inside an expression are never turned into booleans. Whether
results are booleans therefore makes no difference to what an evaluation looks
up, stores and complains about, and it can be told from the value without the
option what the value with the option is (`Engine.decides_booleanMode`).

## Main definitions

* `Eval.Decides`: An evaluation that comes to the boolean of what another one
  comes to.
* `Engine.withBooleanMode`: An engine whose results are booleans, or are not.

## Theorems

* `Decimal.truncate_eq_zero_iff`: Only zero is truncated to zero, among integers.
* `Value.truth_narrow`, `Value.narrow_narrow`: Narrowing and what follows it.
* `Config.coerceWhole_coerceNested`: A value that is coerced on two levels.
* `Engine.decides_booleanMode`: Engines that differ in whether results are booleans.
-/

namespace Reckon

open Eval

/-- Only zero is truncated to zero, among the decimals that denote integers. -/
theorem Decimal.truncate_eq_zero_iff {d : Decimal} (h : d.isInteger = true) :
    d.truncate = 0 ↔ d.isZero = true := by
  have hpower (n : Nat) : (powerOfTen n : Int) ≠ 0 := by
    have hpos := powerOfTen_pos n
    omega
  rw [isZero, beq_iff_eq]
  unfold truncate
  split
  next hscale =>
    -- Zeros are written out behind the integer.
    rw [unscaledAt, Int.mul_eq_zero]
    exact or_iff_left (hpower _)
  next hscale =>
    -- All digits behind the point are zeros, so nothing is cut off but them.
    rw [isInteger, Bool.or_eq_true, decide_eq_true_eq, beq_iff_eq] at h
    rcases Int.dvd_of_emod_eq_zero (h.resolve_left hscale) with ⟨n, hn⟩
    rw [hn, Int.mul_tdiv_cancel_left n (hpower _), Int.mul_eq_zero]
    exact (or_iff_right (hpower _)).symm

namespace Value

/-- A whole decimal that fits stands for the same boolean as its integer. -/
theorem ofInt_truncate_ne_zero {d : Decimal} (hinteger : d.isInteger = true)
    (hfits : fitsWord d.truncate = true) : (Int64.ofInt d.truncate != 0) = !d.isZero := by
  rw [fitsWord, Bool.and_eq_true, decide_eq_true_eq, decide_eq_true_eq, Int64.toInt_minValue,
    Int64.toInt_maxValue] at hfits
  have hword : (Int64.ofInt d.truncate).toInt = d.truncate :=
    Int64.toInt_ofInt_of_le hfits.1 (by omega)
  have hzero : Int64.ofInt d.truncate = 0 ↔ d.isZero = true := by
    rw [← Int64.toInt_inj, hword, Int64.toInt_zero]
    exact Decimal.truncate_eq_zero_iff hinteger
  rw [bne, Bool.eq_iff_iff, Bool.not_eq_true', Bool.not_eq_true', beq_eq_false_iff_ne, ne_eq,
    hzero, Bool.not_eq_true]

/-- Narrowing does not change which boolean a value stands for. -/
theorem truth_narrow (v : Value) : v.narrow.truth = v.truth := by
  cases v with
  | decimal d =>
      by_cases h : (d.isInteger && fitsWord d.truncate) = true
      · simp only [narrow, h, if_true]
        rw [Bool.and_eq_true] at h
        exact ofInt_truncate_ne_zero h.1 h.2
      · simp only [narrow, h, Bool.false_eq_true, if_false]
  | _ => rfl

/-- A value that has been narrowed stays as it is. -/
theorem narrow_narrow (v : Value) : v.narrow.narrow = v.narrow := by
  cases v with
  | decimal d =>
      by_cases h : (d.isInteger && fitsWord d.truncate) = true
      · simp only [narrow, h, if_true]
      · simp only [narrow, h, Bool.false_eq_true, if_false]
  | _ => rfl

end Value

namespace Config

theorem truth_coerceNested (config : Config) (v : Value) :
    (config.coerceNested v).truth = v.truth := by
  unfold coerceNested
  split
  · rfl
  · exact v.truth_narrow

/-- Coercing the value of an expression inside another first makes no difference
    to the whole. -/
theorem coerceWhole_coerceNested (config : Config) (v : Value) :
    config.coerceWhole (config.coerceNested v) = config.coerceWhole v := by
  unfold coerceWhole
  split
  · rw [truth_coerceNested]
  · unfold coerceNested
    split
    · rfl
    · exact v.narrow_narrow

end Config

/-- An evaluation that does what another one does and comes to the boolean that
    the other's value stands for. The variables that are left record every use
    that was made of them. -/
structure Eval.Decides (m m' : Eval Value) : Prop where
  error_iff : ∀ vs e vs', m.outcome vs = (.error e, vs') ↔ m'.outcome vs = (.error e, vs')
  ok_iff : ∀ vs w vs', m.outcome vs = (.ok w, vs') ↔
    ∃ v, m'.outcome vs = (.ok v, vs') ∧ w = .bool v.truth

/-- Evaluations that differ in the last step only, which in the one makes a
    boolean of every value. -/
theorem Eval.decides_map (config : Config) (m : Eval Value) :
    ({ config with booleanMode := true }.coerceWhole <$> m).Decides
      ({ config with booleanMode := false }.coerceWhole <$> m) := by
  -- The truth of a value is the same before and after it is narrowed.
  have hcoerced (v : Value) : { config with booleanMode := true }.coerceWhole v =
      .bool ({ config with booleanMode := false }.coerceWhole v).truth := by
    simp only [Config.coerceWhole, Bool.false_eq_true, if_true, if_false,
      Config.truth_coerceNested]
  constructor
  · intro vs e vs'
    rw [outcome_map, outcome_map]
    rcases m.outcome vs with ⟨_ | v, mid⟩
    · rfl
    · constructor <;> intro h <;> cases h
  · intro vs w vs'
    rw [outcome_map, outcome_map]
    rcases m.outcome vs with ⟨_ | v, mid⟩
    · constructor
      · intro h
        cases h
      · rintro ⟨v, h, _⟩
        cases h
    · constructor
      · intro h
        cases h
        exact ⟨_, rfl, hcoerced v⟩
      · rintro ⟨_, h, rfl⟩
        cases h
        exact congrArg (fun w => (Except.ok w, mid)) (hcoerced v)

/-- The value of a program inside another does not depend on whether results
    become booleans. -/
theorem Program.runNested_booleanMode (config : Config) (mode : Bool) (env : Env) (p : Program) :
    runNested { config with booleanMode := mode } env p = runNested config env p := by
  have ih (inner : Within p) : runNested { config with booleanMode := mode } env inner.1 =
      runNested config env inner.1 := runNested_booleanMode config mode env inner.1
  rw [runNested, runNested]
  simp only [ih]
  rfl
termination_by sizeOf p
decreasing_by exact inner.2

section Whole

variable (config : Config) (env : Env)

/-- The value of a text, with results as booleans and without. -/
theorem Interpret.whole_decides (text : String) :
    (whole { config with booleanMode := true } env text).Decides
      (whole { config with booleanMode := false } env text) := by
  have hrun (mode : Bool) : evaluator { config with booleanMode := mode } env =
      evaluator config env :=
    congrArg (Nested.mk id) (funext fun text => nested_booleanMode config mode env text)
  rw [whole_eq, whole_eq, hrun true, hrun false]
  exact decides_map config _

/-- The value of a program, with results as booleans and without. -/
theorem Program.run_decides (p : Program) :
    (run { config with booleanMode := true } env p).Decides
      (run { config with booleanMode := false } env p) := by
  have hrun (mode : Bool) : evaluator { config with booleanMode := mode } env =
      evaluator config env :=
    congrArg (Nested.mk source) (funext fun p => runNested_booleanMode config mode env p)
  rw [run_eq, run_eq, hrun true, hrun false]
  exact decides_map config _

end Whole

namespace Engine

/-- The same engine, with results that become booleans or do not. -/
def withBooleanMode (engine : Engine) (mode : Bool) : Engine :=
  { engine with config := { engine.config with booleanMode := mode } }

/-- Two engines that differ in whether results become booleans do the same to
    every expression, interpreted or compiled: they fail on the same ones and with
    the same error, look up and store the same in the same order, and leave the
    same variables. A value of the one is the boolean that the other's value stands
    for, which may be a decimal that was narrowed. -/
theorem decides_booleanMode (engine : Engine) (env : Env) :
    (∀ text : String, ((engine.withBooleanMode true).eval env text).2.Decides
      ((engine.withBooleanMode false).eval env text).2) ∧
    ∀ program : Program, ((engine.withBooleanMode true).execute env program).Decides
      ((engine.withBooleanMode false).execute env program) := by
  refine ⟨fun text => ?_, fun program => Program.run_decides engine.config env program⟩
  -- The text that is evaluated comes from the cache, which is the same one.
  have heval (mode : Bool) : ((engine.withBooleanMode mode).eval env text).2 =
      if Text.allBlank (engine.buffer text).1.toList then
        throw ((Error.of .nothingToDo).located text 0)
      else
        Interpret.whole { engine.config with booleanMode := mode } env (engine.buffer text).1 := by
    rw [eval]
    simp only
    split
    next h => exact (if_pos h).symm
    next h => exact (if_neg h).symm
  rw [heval, heval]
  split
  · -- Nothing is evaluated, and the error is one and the same.
    refine ⟨fun _ _ _ => Iff.rfl, fun _ _ _ => ⟨fun h => ?_, ?_⟩⟩
    · cases h
    · rintro ⟨v, h, _⟩
      cases h
  · exact Interpret.whole_decides engine.config env _

end Engine

end Reckon
