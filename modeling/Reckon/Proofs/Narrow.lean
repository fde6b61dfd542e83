import Reckon.Proofs.Spans

/-!
# Texts That Spans Can Tell Apart

The ends of a span are 32-bit words. A token that ends further out is not handed
out, and reading stops there with a fault of its own kind, which no lexeme and no
bracket gives rise to (`Reader.wide?_ne_tooLarge`).

Where a text is known to read, so are the spans of its tokens. A text that is put
together from others is longer than they are, though, and may be too long even if
they are not. What is said about such a text is therefore said for the case that
it has no token too far out (`Token.Narrow`). This is the exact condition, and it
holds of every text that is no longer than the limit (`Token.narrow_of_le`).

## Main definitions

* `Reader.Narrow`, `Token.Narrow`: No token to come ends too far out.

## Theorems

* `Reader.Narrow.next?_eq`: Then the next token is what is found.
* `Reader.narrow_of_le`, `Token.narrow_of_le`: Texts up to the limit.
* `Token.narrow_of_finished`: Texts that read.
-/

namespace Reckon

open Text

/-- No lexeme is too far out. -/
theorem Lexeme.next?_ne_tooLarge (offset : Nat) (cs : List Char) (pos : Nat) :
    Lexeme.next? offset cs ≠ .error (.tooLarge pos) := by
  intro h
  unfold Lexeme.next? at h
  simp only at h
  split at h
  · cases h
  · split at h
    · cases h
    · unfold Lexeme.faultAt at h
      split at h <;> cases h

/-- No piece is too far out. -/
theorem Token.Piece.of_ne_tooLarge (p : Lexeme.Placed) (wantsOperand : Bool) (pos : Nat) :
    Token.Piece.of p wantsOperand ≠ .error (.tooLarge pos) := by
  have hbracket (opener closer : Char) (kind : List Char → Token.Kind String) :
      Token.Piece.ofBracket p opener closer kind ≠ .error (.tooLarge pos) := by
    intro h
    unfold Token.Piece.ofBracket at h
    split at h <;> cases h
  intro h
  unfold Token.Piece.of at h
  split at h
  -- Only the two brackets can go wrong at all, besides lexemes that start no token.
  case h_10 | h_11 => exact hbracket _ _ _ h
  all_goals cases h

namespace Reader

theorem nextFrom_ne_tooLarge (wantsOperand negated : Bool) (first : Option Nat) (offset : Nat)
    (tail : List Char) (pos : Nat) :
    nextFrom wantsOperand negated first offset tail ≠ .error (.tooLarge pos) := by
  intro h
  fun_induction nextFrom wantsOperand negated first offset tail with
  | case1 negated first offset tail fault hnext =>
      cases h
      exact Lexeme.next?_ne_tooLarge _ _ _ hnext
  | case4 _ _ _ _ _ _ _ _ ih => exact ih h
  | case5 negated first offset tail p hp hbang fault hpiece =>
      cases h
      exact Token.Piece.of_ne_tooLarge _ _ _ hpiece
  | _ => cases h

/-- The reader behind a token stands where the token ends. -/
theorem offset_of_nextFrom {wantsOperand negated : Bool} {first : Option Nat} {offset : Nat}
    {tail : List Char} {t : Token String} {r : Reader}
    (h : nextFrom wantsOperand negated first offset tail = .ok (some (t, r))) :
    r.offset = t.span.stop := by
  fun_induction nextFrom wantsOperand negated first offset tail with
  | case4 _ _ _ _ _ _ _ _ ih => exact ih h
  | case7 =>
      cases h
      rfl
  | _ => cases h

/-- Only handing out a token finds it too far out. -/
theorem wide?_ne_tooLarge (r : Reader) (pos : Nat) : r.wide? ≠ .error (.tooLarge pos) :=
  nextFrom_ne_tooLarge _ _ _ _ _ _

/-- No token to come ends too far out. -/
def Narrow (r : Reader) : Prop := ∀ pos, r.steps.2 ≠ .fault (.tooLarge pos)

section Narrow

variable {r r' : Reader} {t : Token String} {source : List Char}

/-- Where no token ends too far out, the next one is what is found. -/
theorem Narrow.next?_eq (h : r.Narrow) : r.next? = r.wide? := by
  rcases hwide : r.wide? with fault | _ | ⟨t, r'⟩
  · exact next?_of_error hwide
  · exact next?_of_none hwide
  · by_cases hspan : t.span.start ≤ Span.limit ∧ t.span.stop ≤ Span.limit
    · exact next?_of_le hwide hspan.1 hspan.2
    · refine absurd ?_ (h t.span.start)
      rw [steps_eq, next?_of_not_le hwide hspan]

/-- None of the tokens after the next one does. -/
theorem Narrow.later (h : r.Narrow) (hwide : r.wide? = .ok (some (t, r'))) : r'.Narrow := by
  intro pos
  have hr := h pos
  rwa [steps_eq, h.next?_eq, hwide] at hr

theorem narrow_of_finished {leftover : Bool} (h : r.steps.2 = .finished leftover) : r.Narrow := by
  intro pos
  rw [h]
  exact nofun

/-- In a text within the limit the next token is what is found. -/
theorem next?_eq_of_le (h : TailAt source r.offset r.tail) (hle : width source ≤ Span.limit) :
    r.next? = r.wide? := by
  have hwide := wide?_stands h
  rcases hfound : r.wide? with fault | _ | ⟨t, r'⟩
  · exact next?_of_error hfound
  · exact next?_of_none hfound
  · rw [hfound] at hwide
    exact next?_of_le hfound (Nat.le_trans hwide.1.start.le_width hle)
      (Nat.le_trans hwide.1.stop.le_width hle)

/-- In a text within the limit no token ends too far out. -/
theorem narrow_of_le (h : TailAt source r.offset r.tail) (hle : width source ≤ Span.limit) :
    r.Narrow := by
  have hnext := next?_eq_of_le h hle
  -- The readers that follow stand in the same text.
  fun_induction steps r with
  | case1 r fault hr =>
      intro pos hpos
      rw [hnext] at hr
      rw [steps_eq, hnext, hr] at hpos
      cases hpos
      exact wide?_ne_tooLarge r pos hr
  | case2 r hr => exact narrow_of_finished (congrArg Prod.snd (steps_of_none hr))
  | case3 r t r' hr later ending heq ih =>
      have hstands := wide?_stands h
      rw [← hnext, hr] at hstands
      have hlater := ih hstands.2 (next?_eq_of_le hstands.2 hle)
      intro pos
      rw [steps_eq, hr]
      exact hlater pos

end Narrow

end Reader

namespace Token

variable {text : String}

/-- No token of a text ends too far out. -/
def Narrow (text : String) : Prop := ∀ pos, (read text).ending ≠ .fault (.tooLarge pos)

/-- A text of at most as many bytes as a span can count is narrow. -/
theorem narrow_of_le (h : text.utf8ByteSize ≤ Span.limit) : Narrow text :=
  Reader.narrow_of_le (r := .start text.toList) (tailAt_zero text.toList) (by rwa [width_toList])

/-- A text that reads to its end is narrow. -/
theorem narrow_of_finished {leftover : Bool} (h : (read text).ending = .finished leftover) :
    Narrow text :=
  Reader.narrow_of_finished (r := .start text.toList) h

end Token

end Reckon
