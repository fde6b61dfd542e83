/-!
# Spans

A span is a range of byte offsets in a text, from its start up to but not
including its end. Spans of tokens count from the start of the expression the
token stands in.

The two ends of a token's span are kept in 32-bit words, which cannot hold every
offset. `Span.narrow?` says which of the two ends does not fit.

## Main definitions

* `Span`: A range of offsets.
* `Span.text`: How a span is written.
* `Span.narrow?`: A span whose ends fit 32 bits.

## Theorems

* `Span.narrow?_eq_ok_iff`: Which spans are narrow.
-/

namespace Reckon

/-- A range of byte offsets. -/
structure Span where
  start : Nat
  stop : Nat
deriving DecidableEq, Repr, Inhabited

namespace Span

/-- The largest offset of a narrow span. -/
def limit : Nat := 0xFFFFFFFF

/-- The empty span at offset zero. -/
def zero : Span := ⟨0, 0⟩

/-- The number of bytes covered. -/
def size (s : Span) : Nat := s.stop - s.start

/-- Whether no byte is covered. -/
def isEmpty (s : Span) : Bool := s.stop ≤ s.start

/-- A span as its two ends. -/
def text (s : Span) : String :=
  toString s.start ++ ".." ++ toString s.stop

/-- Why a range has no narrow span. -/
inductive RangeError where
  | startTooLarge (offset : Nat)
  | stopTooLarge (offset : Nat)
deriving DecidableEq, Repr

/-- The wording of a range error. -/
def RangeError.message : RangeError → String
  | startTooLarge n =>
    "span start " ++ toString n ++ " exceeds u32::MAX (" ++ toString limit ++ ")"
  | stopTooLarge n =>
    "span end " ++ toString n ++ " exceeds u32::MAX (" ++ toString limit ++ ")"

/-- The span of a range whose ends fit 32 bits. Of two ends that do not fit,
    the start is reported. -/
def narrow? (start stop : Nat) : Except RangeError Span :=
  if limit < start then .error (.startTooLarge start)
  else if limit < stop then .error (.stopTooLarge stop)
  else .ok ⟨start, stop⟩

theorem narrow?_eq_ok_iff {start stop : Nat} {s : Span} :
    narrow? start stop = .ok s ↔ start ≤ limit ∧ stop ≤ limit ∧ s = ⟨start, stop⟩ := by
  unfold narrow?
  split
  · next h => exact ⟨nofun, fun ⟨hstart, _⟩ => absurd hstart (Nat.not_le.2 h)⟩
  · next hstart =>
    split
    · next h => exact ⟨nofun, fun ⟨_, hstop, _⟩ => absurd hstop (Nat.not_le.2 h)⟩
    · next hstop =>
      refine ⟨fun h => ?_, fun ⟨_, _, h⟩ => by rw [h]⟩
      cases h
      exact ⟨Nat.not_lt.1 hstart, Nat.not_lt.1 hstop, rfl⟩

end Span

end Reckon
