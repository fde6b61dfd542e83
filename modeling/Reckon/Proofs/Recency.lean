import Mathlib.Data.Finset.Card
import Mathlib.Data.List.DropRight
import Mathlib.Data.List.Nodup
import Reckon.Proofs.Places
import Reckon.Proofs.Trimming

/-!
# Which Texts a Cache Knows

A cache that is asked for texts, one after the other, and cleared now and then, knows
a text exactly if the text was asked for since it was last cleared, and fewer different
texts than it may hold were asked for in the meantime (`Cache.Recalled`). Neither the
answers nor what is evaluated depend on any of that: a text that is known gets the
answer that it would get if it were not.

What is said about a cache here is said of the calls that led to it. Of these calls only
the texts since the last clearing matter, and of a text that was asked for more than once
only the last time. Ordered by that (`Cache.byRecency`), the texts that are kept are the
first ones, as many as the cache holds. A text that is asked for goes to the front of the
order whether it was known or not, and this is the invariant (`Cache.Recent`).

How many texts come before a given one in the order is how many different ones were asked
for since it was, and this turns the place of a text in the cache into a fact about calls.

## Main definitions

* `Cache.Call`, `Cache.after`: Calls, and the cache that they lead to.
* `Cache.requests`: The texts asked for since the last clearing.
* `Cache.Recalled`: The texts that a cache should know.
* `Cache.byRecency`: Texts in the order in which they were last asked for.
* `Cache.Recent`: A cache that holds the first texts in this order.
* `Cache.Transparent`: What a cache does, told from the calls that led to it.

## Theorems

* `Cache.take_filter_take`: The front of the order, without the text that is asked for.
* `Cache.mem_take_byRecency`: The texts at the front of the order.
* `Cache.Recent.perform`: A call keeps the invariant.
* `Cache.recent_after`: So do any number of calls.
* `Cache.transparent_after`: What a cache answers, counts and holds after any calls.
-/

namespace Reckon

namespace Cache

/-- What can be done with a cache: asking for a text, and clearing it. -/
inductive Call where
  | buffer (text : String)
  | clear
deriving DecidableEq, Repr

/-- Whether a call asks for a text. -/
def Call.isRequest : Call → Bool
  | .buffer _ => true
  | .clear => false

/-- The cache after a call. -/
def perform (c : Cache) : Call → Cache
  | .buffer text => (c.buffer text).2
  | .clear => c.clear

/-- A cache for a number of texts, after a sequence of calls. -/
def after (capacity : Nat) (calls : List Call) : Cache :=
  calls.foldl perform (ofCapacity capacity)

/-- The texts asked for after one more call, the newest first. -/
def Call.follow (texts : List String) : Call → List String
  | .buffer text => text :: texts
  | .clear => []

/-- The texts asked for since the last clearing, the newest first. A text that was asked
    for more than once occurs more than once. -/
def requests (calls : List Call) : List String :=
  calls.foldl Call.follow []

/-- Whether a text is among those asked for, and fewer than `m` different ones were asked
    for since it was for the last time. -/
def Recalled (m : Nat) (texts : List String) (text : String) : Prop :=
  text ∈ texts ∧ (texts.takeWhile (· != text)).toFinset.card < m

instance (m : Nat) (texts : List String) (text : String) : Decidable (Recalled m texts text) :=
  inferInstanceAs (Decidable (_ ∧ _))

/-- A text without the blanks at its end: nothing else is missing, and none is left. -/
structure TrimmedTo (text form : String) : Prop where
  blanks : ∃ blanks, text.toList = form.toList ++ blanks ∧ ∀ c ∈ blanks, Text.isBlank c = true
  last : ∀ c ∈ form.toList.getLast?, Text.isBlank c = false

theorem trimmedTo_trimmed (text : String) : TrimmedTo text (trimmed text) := by
  -- Trimming from the end is the library's function on reversed runs, which cuts the text
  -- into what is kept and the blanks behind it.
  have hform : (trimmed text).toList = text.toList.rdropWhile Text.isBlank := by
    rw [trimmed, String.toList_ofList, Text.trimEnd_eq_rdropWhile]
  constructor
  · refine ⟨text.toList.rtakeWhile Text.isBlank, ?_, fun c hc => List.mem_rtakeWhile_imp hc⟩
    rw [hform, List.rdropWhile_append_rtakeWhile]
  · intro c hc
    rw [hform, Option.mem_def] at hc
    rcases List.getLast?_eq_some_iff.mp hc with ⟨before, hbefore⟩
    have hne : text.toList.rdropWhile Text.isBlank ≠ [] := by
      rw [hbefore]
      exact List.concat_ne_nil c before
    have hlast := List.rdropWhile_last_not Text.isBlank text.toList hne
    rw [Bool.not_eq_true] at hlast
    simpa only [hbefore, List.getLast_concat] using hlast

section Order

variable {α : Type} [DecidableEq α]

/-- Texts without repetitions, in the order in which they were last asked for. -/
def byRecency : List α → List α
  | [] => []
  | a :: as => a :: (byRecency as).filter (· != a)

variable {as : List α} {a : α} {n : Nat}

theorem mem_byRecency : a ∈ byRecency as ↔ a ∈ as := by
  induction as with
  | nil => rfl
  | cons b as ih =>
      by_cases hab : a = b
      · simp [byRecency, hab]
      · simp [byRecency, hab, ih]

theorem nodup_byRecency (as : List α) : (byRecency as).Nodup := by
  induction as with
  | nil => exact List.nodup_nil
  | cons b as ih =>
      rw [byRecency, List.nodup_cons]
      refine ⟨?_, ih.filter _⟩
      simp

theorem length_byRecency (as : List α) : (byRecency as).length = as.toFinset.card := by
  rw [← List.toFinset_card_of_nodup (nodup_byRecency as)]
  congr 1
  ext a
  simp only [List.mem_toFinset, mem_byRecency]

/-- Leaving out a text does not leave out another one, so the search for that ends where it
    did. -/
theorem takeWhile_filter {b : α} (h : b ≠ a) (l : List α) :
    (l.filter (· != b)).takeWhile (· != a) = (l.takeWhile (· != a)).filter (· != b) := by
  induction l with
  | nil => rfl
  | cons c l ih =>
      by_cases hcb : c = b
      · subst hcb
        simp [h, ih]
      · by_cases hca : c = a
        · subst hca
          simp [hcb]
        · simp [hcb, hca, ih]

/-- What comes before `a` in the order is what was asked for since `a` was. -/
theorem mem_takeWhile_byRecency {b : α} :
    b ∈ (byRecency as).takeWhile (· != a) ↔ b ∈ as.takeWhile (· != a) := by
  induction as with
  | nil => rfl
  | cons c as ih =>
      by_cases hc : c = a
      · simp [byRecency, hc]
      · by_cases hb : b = c
        · simp [byRecency, hc, hb]
        · simp [byRecency, hc, hb, takeWhile_filter hc, ih]

/-- The first texts of a list are those that fewer texts come before. -/
theorem mem_take_iff_takeWhile {l : List α} :
    a ∈ l.take n ↔ a ∈ l ∧ (l.takeWhile (· != a)).length < n := by
  induction l generalizing n with
  | nil => simp
  | cons b l ih =>
      cases n with
      | zero => simp
      | succ n =>
          by_cases hb : b = a
          · simp [hb]
          · have hab : a ≠ b := fun h => hb h.symm
            simp [hb, hab, ih]

/-- The first `n` texts of the order are those with fewer than `n` different ones asked for
    since. -/
theorem mem_take_byRecency :
    a ∈ (byRecency as).take n ↔ a ∈ as ∧ (as.takeWhile (· != a)).toFinset.card < n := by
  have hnodup : ((byRecency as).takeWhile (· != a)).Nodup :=
    (nodup_byRecency as).sublist (List.takeWhile_sublist _)
  have hsame : ((byRecency as).takeWhile (· != a)).toFinset =
      (as.takeWhile (· != a)).toFinset := by
    ext b
    simp only [List.mem_toFinset, mem_takeWhile_byRecency]
  rw [mem_take_iff_takeWhile, mem_byRecency, ← List.toFinset_card_of_nodup hnodup, hsame]

/-- Where a text is taken out of the first `n + 1` texts of a list, the first `n` of what is
    left are those of the whole list without the text. -/
theorem take_filter_take {l : List α} (h : l.Nodup) (a : α) (n : Nat) :
    ((l.take (n + 1)).filter (· != a)).take n = (l.filter (· != a)).take n := by
  induction l generalizing n with
  | nil => rfl
  | cons b l ih =>
      rcases List.nodup_cons.mp h with ⟨hb, hl⟩
      by_cases hba : b = a
      · -- No text occurs twice, so nothing else is taken out.
        subst hba
        have hkeep (l' : List α) (hl' : ∀ c ∈ l', c ∈ l) : l'.filter (· != b) = l' := by
          rw [List.filter_eq_self]
          intro c hc
          rw [bne_iff_ne]
          rintro rfl
          exact hb (hl' c hc)
        simp [hkeep l fun _ => id, hkeep (l.take n) fun _ => List.mem_of_mem_take]
      · cases n with
        | zero => simp
        | succ n => simp [hba, ih hl n]

end Order

/-- A cache for `m` texts that holds the first ones of those that were asked for, in the
    order in which they were last asked for, and their trimmed forms. -/
structure Recent (m : Nat) (texts : List String) (c : Cache) : Prop where
  capacity_eq : c.capacity = m
  keys_eq : c.entries.map Prod.fst = (byRecency texts).take m
  faithful : c.Faithful

section Steps

variable {m : Nat} {texts : List String} {c : Cache} {text : String}

theorem recent_ofCapacity (capacity : Nat) :
    Recent (max capacity 1) [] (ofCapacity capacity) :=
  ⟨rfl, (List.take_nil).symm, faithful_ofCapacity capacity⟩

theorem isSome_lookup_iff {entries : List (String × String)} :
    (entries.lookup text).isSome = true ↔ text ∈ entries.map Prod.fst := by
  simp only [List.lookup_isSome_iff, List.mem_map, beq_iff_eq, @eq_comm _ text]

/-- The texts that are kept after one was asked for, known or not. -/
theorem keys_buffer (hlength : c.entries.length ≤ c.capacity) :
    (c.buffer text).2.entries.map Prod.fst =
      (text :: (c.entries.map Prod.fst).filter (· != text)).take c.capacity := by
  unfold buffer
  cases hlookup : c.entries.lookup text with
  | some form =>
      -- The text leaves its place, and there is room for it at the front.
      have hmem : text ∈ c.entries.map Prod.fst := by
        rw [← isSome_lookup_iff, hlookup]
        rfl
      have hfewer : ((c.entries.map Prod.fst).filter (· != text)).length <
          (c.entries.map Prod.fst).length := by
        refine List.length_filter_lt_length_iff_exists.mpr ⟨text, hmem, ?_⟩
        simp
      rw [List.length_map] at hfewer
      rw [List.take_of_length_le (by rw [List.length_cons]; omega)]
      simp [List.filter_map, Function.comp_def]
  | none =>
      have hmem : text ∉ c.entries.map Prod.fst := by
        rw [← isSome_lookup_iff, hlookup]
        simp
      have hkeep : (c.entries.map Prod.fst).filter (· != text) = c.entries.map Prod.fst := by
        rw [List.filter_eq_self]
        intro key hkey
        rw [bne_iff_ne]
        rintro rfl
        exact hmem hkey
      rw [hkeep]
      simp [List.map_take]

theorem Recent.length_le (h : Recent m texts c) : c.entries.length ≤ c.capacity := by
  have hlength := congrArg List.length h.keys_eq
  rw [List.length_map, List.length_take] at hlength
  rw [h.capacity_eq]
  omega

/-- Asking for a text keeps the invariant. -/
theorem Recent.buffer (h : Recent m texts c) (hm : 0 < m) (text : String) :
    Recent m (text :: texts) (c.buffer text).2 := by
  have hcapacity : (c.buffer text).2.capacity = c.capacity := by
    unfold Cache.buffer
    split <;> rfl
  refine ⟨hcapacity.trans h.capacity_eq, ?_, (h.faithful.buffer text).2⟩
  rcases Nat.exists_eq_succ_of_ne_zero hm.ne' with ⟨n, rfl⟩
  rw [keys_buffer h.length_le, h.capacity_eq, h.keys_eq, byRecency,
    List.take_succ_cons, List.take_succ_cons, take_filter_take (nodup_byRecency texts)]

/-- A call keeps the invariant. -/
theorem Recent.perform (h : Recent m texts c) (hm : 0 < m) (call : Call) :
    Recent m (call.follow texts) (c.perform call) := by
  cases call with
  | buffer text => exact h.buffer hm text
  | clear => exact ⟨h.capacity_eq, (List.take_nil).symm, nofun⟩

/-- The invariant holds after any calls. -/
theorem recent_after (capacity : Nat) (calls : List Call) :
    Recent (max capacity 1) (requests calls) (after capacity calls) := by
  have hm : 0 < max capacity 1 := by omega
  induction calls using List.reverseRecOn with
  | nil => exact recent_ofCapacity capacity
  | append_singleton calls call ih =>
      rw [after, requests, List.foldl_concat, List.foldl_concat]
      exact ih.perform hm call

/-- A text that is asked for is a hit if it is kept and a miss otherwise. -/
theorem counters_buffer (c : Cache) (text : String) :
    ((c.buffer text).2.hits, (c.buffer text).2.misses) =
      if text ∈ c.entries.map Prod.fst then (c.hits + 1, c.misses)
      else (c.hits, c.misses + 1) := by
  unfold buffer
  -- A lookup finds a text exactly when it is among the keys.
  cases hlookup : c.entries.lookup text with
  | some form =>
      have hmem : text ∈ c.entries.map Prod.fst := by
        rw [← isSome_lookup_iff, hlookup]
        rfl
      rw [if_pos hmem]
  | none =>
      have hmem : text ∉ c.entries.map Prod.fst := by
        rw [← isSome_lookup_iff, hlookup]
        simp
      rw [if_neg hmem]

/-- Each call that asks for a text is counted once. -/
theorem hits_add_misses_perform (c : Cache) (call : Call) :
    (c.perform call).hits + (c.perform call).misses =
      c.hits + c.misses + if call.isRequest then 1 else 0 := by
  cases call with
  | clear => rfl
  | buffer text =>
      have hcounters := counters_buffer c text
      split at hcounters
      all_goals
        rw [Prod.mk.injEq] at hcounters
        simp only [perform, Call.isRequest, if_true, hcounters.1, hcounters.2]
        omega

theorem hits_add_misses_after (capacity : Nat) (calls : List Call) :
    (after capacity calls).hits + (after capacity calls).misses =
      calls.countP Call.isRequest := by
  induction calls using List.reverseRecOn with
  | nil => rfl
  | append_singleton calls call ih =>
      rw [after, List.foldl_concat, hits_add_misses_perform, ← after, ih, List.countP_append,
        List.countP_singleton]

end Steps

/-- What a cache for `m` texts does after some calls. -/
structure Transparent (m : Nat) (calls : List Call) (c : Cache) : Prop where
  /-- It answers with the text that was asked for, without the blanks at its end. -/
  answers : ∀ text, TrimmedTo text (c.buffer text).1
  /-- A text is a hit if it was asked for since the last clearing, with fewer than `m`
      different ones since then. Otherwise it is a miss. -/
  counts : ∀ text, ((c.buffer text).2.hits, (c.buffer text).2.misses) =
    if Recalled m (requests calls) text then (c.hits + 1, c.misses) else (c.hits, c.misses + 1)
  /-- Each call that asked for a text is one or the other. -/
  total : c.hits + c.misses = calls.countP Call.isRequest
  /-- Clearing keeps both counters. -/
  cleared : c.clear.hits = c.hits ∧ c.clear.misses = c.misses
  /-- It holds the different texts asked for since the last clearing, as many as it may. -/
  size_eq : c.size = min m (requests calls).toFinset.card
  /-- An engine evaluates and compiles with it as with an empty one, and asks it once. -/
  engine : ∀ (config : Config) (env : Env) (text : String),
    Engine.eval ⟨config, c⟩ env text =
        (⟨config, (c.buffer text).2⟩, ((Engine.ofConfig config).eval env text).2) ∧
      Engine.compile ⟨config, c⟩ text =
        (⟨config, (c.buffer text).2⟩, ((Engine.ofConfig config).compile text).2)

/-- A cache is transparent after any calls: its answers do not depend on them, and whether it
    knows a text, how often it did and how many texts it holds can be told from them. -/
theorem transparent_after (capacity : Nat) (calls : List Call) :
    Transparent (max capacity 1) calls (after capacity calls) := by
  have hrecent := recent_after capacity calls
  refine ⟨fun text => ?_, fun text => ?_, hits_add_misses_after capacity calls, ⟨rfl, rfl⟩, ?_,
    fun config env text => ?_⟩
  · rw [(hrecent.faithful.buffer text).1]
    exact trimmedTo_trimmed text
  · -- The keys are the most recently requested texts, as many as there is room for.
    have hkept : text ∈ (after capacity calls).entries.map Prod.fst ↔
        Recalled (max capacity 1) (requests calls) text := by
      rw [hrecent.keys_eq, mem_take_byRecency, Recalled]
    rw [counters_buffer]
    exact if_congr hkept rfl rfl
  · have hlength := congrArg List.length hrecent.keys_eq
    rwa [List.length_map, List.length_take, length_byRecency] at hlength
  · -- A faithful cache gives the form that a fresh one computes, so results agree.
    have hfresh : (Engine.ofConfig config).cache.Faithful := (Engine.Reached.fresh config).faithful
    refine ⟨?_, ?_⟩
    · rw [Engine.eval_of_faithful hrecent.faithful, Engine.eval_of_faithful hfresh]
      simp only [Engine.ofConfig]
    · rw [Engine.compile_of_faithful hrecent.faithful, Engine.compile_of_faithful hfresh]

/-- A text that is asked for again outlives one that was asked for after it. -/
example :
    let texts := requests [.buffer "1", .buffer "2", .buffer "1", .buffer "3"]
    Recalled 2 texts "1" ∧ ¬ Recalled 2 texts "2" := by
  decide

end Cache

end Reckon
