import Reckon.Proofs.Bracketed
import Reckon.Proofs.Joining

/-!
# Reading a Text with Spacing around It

Spacing before a text is not read, and spacing after it changes nothing for the
tokens in it. So a text with spacing around it has the tokens of the text, each
moved by the width of the spacing before it.

Moving is exact here: of every reader, lexeme and token it is said where it is
afterwards (`shift`), and a text with spacing around it reads to its end only if
the text does (`Reader.steps_shift`). The last of these is why the scanners are
gone through once more. What they find they find again if the text goes on; here
it matters as well that they find nothing new. A quote that does not end in the
text does not end in the spacing behind it, and neither does a bracket. Only the
places of faults are left out, as the fault of an exclamation mark that stands
before nothing is at the very end of the text, spacing included.

## Main definitions

* `Shifted`: Results of which the second is the first one, moved.
* `Lexeme.Placed.shift`, `Token.Piece.shift`, `Token.shift`, `Reader.shift`: What
  is moved, with spacing behind the text.

## Theorems

* `Lexeme.scan?_append_spacing`: Spacing behind a text changes no lexeme.
* `Lexeme.next?_shift`, `Token.Piece.of_shift`, `Reader.nextFrom_shift`: What comes
  next, moved.
* `Reader.next?_shift`, `Reader.steps_shift`: The tokens to come, moved, unless one
  then ends too far out.
* `Token.moved_read`: A text read from another place.
* `Token.moved_joined`: A text that follows another one.
-/

namespace Reckon

open Text

section Spacing

variable {e : List Char}

/-- No character that means something to a scanner is in spacing. -/
theorem Spacing.not_mem {c : Char} (he : Spacing e) (hc : isPlain c = false) : c ∉ e := by
  intro hmem
  rw [isPlain_of_isSpacing (he c hmem)] at hc
  cases hc

theorem Spacing.dropWhile_eq (he : Spacing e) : e.dropWhile Lexeme.isSpacing = [] :=
  List.dropWhile_eq_nil_iff.mpr he

end Spacing

namespace Text

variable {e cs : List Char}

/-- A quoted text that does not end does not end in spacing behind it. -/
theorem afterQuote_append_of_none {mayEscape : Char → Bool} {quote : Char} (he : Spacing e)
    (hquote : isQuote quote = true) (h : afterQuote mayEscape quote cs = none) :
    afterQuote mayEscape quote (cs ++ e) = none := by
  refine Option.eq_none_iff_forall_not_mem.mpr fun tail htail => ?_
  rcases afterQuote_eq_some htail with ⟨front, heq, hfront⟩
  rcases exists_of_append_eq heq (he.not_mem (isPlain_of_isQuote hquote)) with ⟨rest, rfl, _⟩
  rw [hfront] at h
  cases h

/-- A bracket that is not closed is not closed by spacing. -/
theorem closerIn_append_of_none {closer : Char} (he : Spacing e)
    (h : closerIn closer 0 cs = none) : closerIn closer 0 (cs ++ e) = none := by
  refine Option.eq_none_iff_forall_not_mem.mpr fun tail htail => ?_
  rcases closes_of_closerIn htail with ⟨inside, after, heq, _, hclose, hinside⟩
  rcases exists_of_append_eq heq (he.not_mem (isPlain_of_isCloser hclose)) with ⟨rest, rfl, _⟩
  rw [Level.closerIn_eq hinside hclose] at h
  cases h

end Text

/-- Results of reading, of which the second is the first one moved by `f`, or both
    are faults. -/
inductive Shifted {α β : Type} (f : α → β) : Except Token.Fault α → Except Token.Fault β → Prop
  | error (fault fault' : Token.Fault) : Shifted f (.error fault) (.error fault')
  | ok (a : α) : Shifted f (.ok a) (.ok (f a))

section Shifted

variable {α β : Type} {f : α → β} {r : Except Token.Fault α} {r' : Except Token.Fault β}

theorem Shifted.eq_ok (h : Shifted f r r') {a : α} (hr : r = .ok a) : r' = .ok (f a) := by
  subst hr
  cases h with
  | ok => rfl

theorem Shifted.exists_error (h : Shifted f r r') {fault : Token.Fault} (hr : r = .error fault) :
    ∃ fault', r' = .error fault' := by
  subst hr
  cases h with
  | error _ fault' => exact ⟨fault', rfl⟩

end Shifted

namespace Lexeme

variable {e cs : List Char}

/-- The first character of a text stays the first one after the text goes on. -/
theorem ne_first_append {c : Char} (hcs : cs ≠ []) (h : ∀ rest, cs = c :: rest → False)
    (rest : List Char) : cs ++ e = c :: rest → False := by
  intro heq
  rcases cs with _ | ⟨d, cs⟩
  · exact hcs rfl
  · cases heq
    exact h cs rfl

theorem ne_first_two_append (he : Loose e) {c d : Char} (hcs : cs ≠ []) (hd : continues d = true)
    (h : ∀ rest, cs = c :: d :: rest → False) (rest : List Char) :
    cs ++ e = c :: d :: rest → False := by
  intro heq
  rcases cs with _ | ⟨c', cs⟩
  · exact hcs rfl
  · rw [List.cons_append, List.cons.injEq] at heq
    rcases heq with ⟨rfl, heq⟩
    exact ne_cons_append he hd (fun rest' heq' => h rest' (by rw [heq'])) rest heq

theorem symbol?_append_of_none (he : Loose e) (hcs : cs ≠ []) (h : symbol? cs = none) :
    symbol? (cs ++ e) = none := by
  unfold symbol? at h
  split at h
  case h_33 =>
    apply symbol?.eq_33
    -- What a symbol goes on with is nothing that stands behind the text.
    all_goals
      intro rest
      first
        | exact ne_first_append hcs (by assumption) _
        | exact ne_first_two_append he hcs rfl (by assumption) _
  all_goals cases h

/-- A text that starts with no lexeme starts with none after it goes on, unless a quoted
    text that does not end in it ends further on. -/
theorem scan?_append_of_none (he : Loose e) (hcs : cs ≠ []) (h : scan? cs = none) :
    scan? (cs ++ e) = none ∨
      ∃ c rest, cs = c :: rest ∧ isQuote c = true ∧ afterQuote mayEscape c rest = none ∧
        scan? (cs ++ e) = (afterQuote mayEscape c (rest ++ e)).map fun tail =>
          (quoted, c :: upTo (rest ++ e) tail, tail) := by
  rcases cs with _ | ⟨c, cs⟩
  · exact absurd rfl hcs
  simp only [scan?, List.cons_append] at h ⊢
  -- Names and numbers always scan, so what fails is an open quote or an unknown sign.
  split at h
  · cases h
  next hname =>
    rw [if_neg hname]
    split at h
    · cases h
    next hdigit =>
      rw [if_neg hdigit]
      split at h
      next hquote =>
        rw [Option.map_eq_none_iff] at h
        rw [if_pos hquote]
        exact Or.inr ⟨c, cs, rfl, hquote, h, rfl⟩
      next hquote =>
        rw [Option.map_eq_none_iff] at h
        rw [if_neg hquote, ← List.cons_append, symbol?_append_of_none he hcs h]
        exact Or.inl rfl

/-- Spacing behind a text changes nothing for the lexeme that the text starts
    with. -/
theorem scan?_append_spacing (he : Spacing e) (hcs : cs ≠ []) :
    scan? (cs ++ e) = (scan? cs).map fun (lexeme, text, tail) => (lexeme, text, tail ++ e) := by
  rcases h : scan? cs with _ | ⟨lexeme, text, tail⟩
  · rcases scan?_append_of_none he.loose hcs h with hnone | ⟨c, rest, _, hquote, hopen, hscan⟩
    · exact hnone
    · rw [hscan, afterQuote_append_of_none he hquote hopen]
      rfl
  · exact scan?_append he.loose h

/-- A lexeme `k` bytes further on, in a text that goes on with `e`. -/
def Placed.shift (k : Nat) (e : List Char) (p : Placed) : Placed :=
  ⟨p.lexeme, p.start + k, p.text, p.tail ++ e⟩

section Placed

variable (k : Nat) (e : List Char) (p : Placed)

@[simp] theorem Placed.lexeme_shift : (p.shift k e).lexeme = p.lexeme := rfl

@[simp] theorem Placed.start_shift : (p.shift k e).start = p.start + k := rfl

@[simp] theorem Placed.text_shift : (p.shift k e).text = p.text := rfl

@[simp] theorem Placed.tail_shift : (p.shift k e).tail = p.tail ++ e := rfl

@[simp] theorem Placed.stop_shift : (p.shift k e).stop = p.stop + k :=
  Nat.add_right_comm _ _ _

end Placed

/-- The next lexeme of a text that was moved and has spacing behind it. -/
theorem next?_shift (he : Spacing e) (k offset : Nat) (cs : List Char) :
    Shifted (Option.map (Placed.shift k e)) (next? offset cs) (next? (offset + k) (cs ++ e)) := by
  -- Spacing behind the text joins the spacing in front of the end, and nothing else.
  rcases hbody : cs.dropWhile isSpacing with _ | ⟨c, body⟩
  · have hbody' : (cs ++ e).dropWhile isSpacing = [] := by
      rw [List.dropWhile_append, hbody]
      exact he.dropWhile_eq
    rw [next?_eq_none.mpr hbody, next?_eq_none.mpr hbody']
    exact .ok none
  · have hc : ¬ isSpacing c = true := by
      have hhead := List.head?_dropWhile_not isSpacing cs
      rw [hbody] at hhead
      exact Bool.eq_false_iff.mp hhead
    have hbody' : (cs ++ e).dropWhile isSpacing = c :: body ++ e := by
      rw [List.dropWhile_append, hbody]
      rfl
    have htake : (cs ++ e).takeWhile isSpacing = cs.takeWhile isSpacing := by
      conv_lhs => rw [← List.takeWhile_append_dropWhile (p := isSpacing) (l := cs)]
      rw [hbody, List.append_assoc, List.takeWhile_append_of_pos fun _ => List.mem_takeWhile_imp,
        List.cons_append, List.takeWhile_cons_of_neg hc, List.append_nil]
    have hscan := scan?_append_spacing he (List.cons_ne_nil c body)
    unfold next?
    simp only [hbody, hbody', htake]
    rw [List.cons_append] at hscan ⊢
    simp only [hscan]
    rcases scan? (c :: body) with _ | ⟨lexeme, text, tail⟩
    · exact .error _ _
    · simp only [Option.map_some, Nat.add_right_comm offset k]
      exact .ok (some _)

/-- What a token sees after itself. -/
theorem peek?_shift (he : Spacing e) (k offset : Nat) (cs : List Char) :
    peek? (offset + k) (cs ++ e) = (peek? offset cs).map (Placed.shift k e) := by
  have h := next?_shift he k offset cs
  unfold peek?
  generalize next? offset cs = r at h
  generalize next? (offset + k) (cs ++ e) = r' at h
  cases h with
  | error fault fault' => rfl
  | ok found => rfl

end Lexeme

namespace Token

namespace Piece

open Lexeme (Placed)

variable {e : List Char}

/-- A piece `k` bytes further on, in a text that goes on with `e`. -/
def shift (k : Nat) (e : List Char) (piece : Piece) : Piece :=
  ⟨piece.kind, piece.stop + k, piece.tail ++ e⟩

theorem ofPlaced_shift (k : Nat) (e : List Char) (p : Placed) (kind : Kind String) :
    ofPlaced (p.shift k e) kind = (ofPlaced p kind).shift k e := by
  simp only [ofPlaced, shift, Placed.stop_shift, Placed.tail_shift]

theorem ofPath_shift (he : Spacing e) (k : Nat) (p : Placed) :
    ofPath (p.shift k e) = (ofPath p).shift k e := by
  unfold ofPath
  simp only
  rw [p.text_shift, p.stop_shift, p.tail_shift, Lexeme.peek?_shift he, Option.filter_map,
    Option.any_map]
  simp only [ofPlaced_shift, Function.comp_def, Placed.lexeme_shift, Placed.text_shift]
  -- What a path becomes depends on its text and on the next lexeme, both of which are the
  -- same with spacing behind.
  split
  · rfl
  · split
    next q' hq' =>
      rcases Option.map_eq_some_iff.mp hq' with ⟨q, hq, rfl⟩
      simp only [hq, ofPlaced_shift]
    next hnone =>
      rw [Option.map_eq_none_iff] at hnone
      simp only [hnone]
      split
      · rfl
      · split <;> rfl

theorem ofMinus_shift (he : Spacing e) (k : Nat) (p : Placed) (wantsOperand : Bool) :
    ofMinus (p.shift k e) wantsOperand = (ofMinus p wantsOperand).shift k e := by
  unfold ofMinus
  rw [p.stop_shift, p.tail_shift, Lexeme.peek?_shift he, Option.filter_map]
  simp only [ofPlaced_shift, Function.comp_def, Placed.lexeme_shift]
  split
  next q' hq' =>
    rcases Option.map_eq_some_iff.mp hq' with ⟨q, hq, rfl⟩
    simp only [hq, Placed.text_shift, ofPlaced_shift]
  next hnone =>
    rw [Option.map_eq_none_iff] at hnone
    simp only [hnone]

theorem ofBracket_shift (he : Spacing e) (k : Nat) (p : Placed) (opener closer : Char)
    (kind : List Char → Kind String) :
    Shifted (shift k e) (ofBracket p opener closer kind)
      (ofBracket (p.shift k e) opener closer kind) := by
  unfold ofBracket
  rw [p.tail_shift, p.stop_shift]
  -- A bracket that is left open stays open, since spacing has no closer in it.
  rcases hclose : closerIn closer 0 p.tail with _ | ⟨_ | ⟨c, tail⟩⟩
  · rw [closerIn_append_of_none he hclose]
    exact .error _ _
  · rcases closes_of_closerIn hclose with ⟨_, _, _, hnil, _⟩
    cases hnil
  · rw [closerIn_append e hclose]
    simp only [List.cons_append]
    rw [← List.cons_append, upTo_append, Nat.add_right_comm p.stop k,
      Nat.add_right_comm (p.stop + _) k]
    exact .ok _

/-- The piece that starts with a lexeme which was moved. -/
theorem of_shift (he : Spacing e) (k : Nat) (p : Placed) (wantsOperand : Bool) :
    Shifted (shift k e) (of p wantsOperand) (of (p.shift k e) wantsOperand) := by
  unfold of
  simp only [Placed.lexeme_shift, Placed.text_shift, ofPlaced_shift, ofPath_shift he,
    ofMinus_shift he]
  split
  case h_10 => exact ofBracket_shift he k p _ _ _
  case h_11 => exact ofBracket_shift he k p _ _ _
  case h_12 | h_13 | h_14 | h_15 | h_16 => exact .error _ _
  all_goals exact .ok _

end Piece

/-- A token `k` bytes further on. -/
def shift {α : Type} (k : Nat) (t : Token α) : Token α :=
  ⟨t.kind, ⟨t.span.start + k, t.span.stop + k⟩, t.negated⟩

end Token

namespace Reader

variable {e : List Char} {r : Reader}

/-- A reader `k` bytes further on, in a text that goes on with `e`. -/
def shift (k : Nat) (e : List Char) (r : Reader) : Reader :=
  ⟨r.tail ++ e, r.offset + k, r.wantsOperand⟩

/-- The next token of a text that was moved and has spacing behind it. -/
theorem nextFrom_shift (he : Spacing e) (k : Nat) (wantsOperand negated : Bool)
    (first : Option Nat) (offset : Nat) (tail : List Char) :
    Shifted (Option.map fun (t, r) => (t.shift k, r.shift k e))
      (nextFrom wantsOperand negated first offset tail)
      (nextFrom wantsOperand negated (first.map (· + k)) (offset + k) (tail ++ e)) := by
  -- One case for each way the reader goes on; marks are the only one that recurses.
  fun_induction nextFrom wantsOperand negated first offset tail with
  | case1 negated first offset tail fault hnext =>
      rcases (Lexeme.next?_shift he k offset tail).exists_error hnext with ⟨fault', hnext'⟩
      rw [nextFrom_eq, hnext']
      exact .error _ _
  | case2 first offset tail hnext =>
      rw [nextFrom_eq, (Lexeme.next?_shift he k offset tail).eq_ok hnext]
      exact .error _ _
  | case3 negated first offset tail hnext hnegated =>
      rw [nextFrom_eq, (Lexeme.next?_shift he k offset tail).eq_ok hnext]
      simp only [Option.map_none, hnegated, Bool.false_eq_true, if_false]
      exact .ok none
  | case4 negated first offset tail p hp start hbang ih =>
      rw [nextFrom_of_bang ((Lexeme.next?_shift he k offset tail).eq_ok hp) hbang]
      simp only [Lexeme.Placed.start_shift, Lexeme.Placed.stop_shift, Lexeme.Placed.tail_shift,
        Option.getD_map (· + k)]
      exact ih
  | case5 negated first offset tail p hp hbang fault hpiece =>
      have hnext := (Lexeme.next?_shift he k offset tail).eq_ok hp
      rcases (Token.Piece.of_shift he k p wantsOperand).exists_error hpiece with ⟨fault', hpiece'⟩
      rw [nextFrom_eq, hnext]
      simp only [Option.map_some, Lexeme.Placed.lexeme_shift, hbang, if_false, hpiece']
      exact .error _ _
  | case6 negated first offset tail p hp start hbang piece hpiece hnegated =>
      have hnext := (Lexeme.next?_shift he k offset tail).eq_ok hp
      have hpiece' := (Token.Piece.of_shift he k p wantsOperand).eq_ok hpiece
      rw [nextFrom_eq, hnext]
      simp only [Option.map_some, Lexeme.Placed.lexeme_shift, hbang, if_false, hpiece',
        Token.Piece.shift, hnegated, if_true]
      exact .error _ _
  | case7 negated first offset tail p hp start hbang piece hpiece hnegated =>
      have hnext := (Lexeme.next?_shift he k offset tail).eq_ok hp
      have hpiece' := (Token.Piece.of_shift he k p wantsOperand).eq_ok hpiece
      rw [nextFrom_eq, hnext]
      simp only [Option.map_some, Lexeme.Placed.lexeme_shift, hbang, if_false, hpiece',
        Token.Piece.shift, hnegated, Bool.false_eq_true, Lexeme.Placed.start_shift,
        Option.getD_map (· + k)]
      exact .ok (some _)

theorem hasMore_shift (he : Spacing e) (k : Nat) (r : Reader) :
    (r.shift k e).hasMore = r.hasMore := by
  have hblank := he.allBlank
  unfold Text.allBlank at hblank
  simp only [hasMore, shift, Text.allBlank, List.all_append, hblank, Bool.and_true]

/-- The same for a token that is handed out. If it is not too far out after it was
    moved, it was not before. -/
theorem next?_shift (he : Spacing e) (k : Nat) (hnarrow : (r.shift k e).Narrow) :
    Shifted (Option.map fun (t, r) => (t.shift k, r.shift k e)) r.next? (r.shift k e).next? := by
  have hwide : Shifted (Option.map fun (t, r) => (t.shift k, r.shift k e)) r.wide?
      (r.shift k e).wide? := nextFrom_shift he k r.wantsOperand false none r.offset r.tail
  rw [hnarrow.next?_eq]
  rcases hfound : r.wide? with fault | _ | ⟨t, r₁⟩
  · rcases hwide.exists_error hfound with ⟨fault', hfault'⟩
    rw [next?_of_error hfound, hfault']
    exact .error _ _
  · rw [next?_of_none hfound, hwide.eq_ok hfound]
    exact .ok none
  · have hwide' := hwide.eq_ok hfound
    have hspan := (next?_eq_some.mp (hnarrow.next?_eq.trans hwide')).2
    rw [next?_of_le hfound (Nat.le_trans (Nat.le_add_right _ k) hspan.1)
      (Nat.le_trans (Nat.le_add_right _ k) hspan.2), hwide']
    exact .ok (some _)

/-- The tokens of a text that was moved and has spacing behind it are those of the
    text, moved, and it is read to its end just when the text is. -/
theorem steps_shift (he : Spacing e) (k : Nat) (r : Reader) (hnarrow : (r.shift k e).Narrow) :
    (r.shift k e).tokens = r.tokens.map (Token.shift k) ∧
      ∀ leftover, (r.shift k e).steps.2 = .finished leftover ↔ r.steps.2 = .finished leftover := by
  have hnext := next?_shift he k hnarrow
  fun_induction steps r with
  | case1 r fault hr =>
      rcases hnext.exists_error hr with ⟨fault', hr'⟩
      rw [(tokens_of_error hr').1, (tokens_of_error hr').2, (tokens_of_error hr).1]
      exact ⟨rfl, fun _ => iff_of_false Reading.End.noConfusion Reading.End.noConfusion⟩
  | case2 r hr =>
      have hr' : (r.shift k e).next? = .ok none := hnext.eq_ok hr
      rw [(tokens_of_none hr').1, (tokens_of_none hr').2, hasMore_shift he, (tokens_of_none hr).1]
      exact ⟨rfl, fun _ => Iff.rfl⟩
  | case3 r t r₁ hr later ending hlater ih =>
      have hr' : (r.shift k e).next? = .ok (some (t.shift k, r₁.shift k e)) := hnext.eq_ok hr
      -- The reader left behind the first token still fits, so the induction goes on from it.
      have hnarrow₁ := hnarrow.later (next?_eq_some.mp hr').1
      rcases ih hnarrow₁ (next?_shift he k hnarrow₁) with ⟨htokens, hending⟩
      rw [hlater] at hending
      rw [(tokens_of_some hr').1, (tokens_of_some hr').2, (tokens_of_some hr).1, htokens]
      exact ⟨rfl, hending⟩

end Reader

namespace Token

theorem same_shift {α : Type} (k : Nat) (t : Token α) : t.Same (t.shift k) := ⟨rfl, rfl⟩

/-- A text is read from another place as it is from its start. -/
theorem moved_read (text : String) (offset : Nat)
    (hnarrow : (⟨text.toList, offset, true⟩ : Reader).Narrow) :
    (read text).Moved ⟨(⟨text.toList, offset, true⟩ : Reader).tokens,
      (⟨text.toList, offset, true⟩ : Reader).steps.2⟩ := by
  have hreader : (⟨text.toList, offset, true⟩ : Reader) =
      (Reader.start text.toList).shift offset [] := by
    simp only [Reader.shift, Reader.start, List.append_nil, Nat.zero_add]
  rw [hreader] at hnarrow
  rcases Reader.steps_shift (List.forall_mem_nil _) offset _ hnarrow with ⟨htokens, hending⟩
  rw [hreader, htokens]
  refine ⟨?_, hending⟩
  rw [List.forall₂_map_right_iff]
  exact List.forall₂_same.mpr fun t _ => same_shift offset t

/-- Two texts joined by an operator are read as the first, the operator, and the
    second moved. -/
theorem moved_joined (first second : String) {op : Operator} (hop : op.joins) {leftover : Bool}
    (hfirst : (read first).ending = .finished leftover)
    (hnarrow : Narrow (first ++ " " ++ op.symbol ++ " " ++ second)) :
    ∃ ts t us ending, read (first ++ " " ++ op.symbol ++ " " ++ second) = ⟨ts ++ t :: us, ending⟩ ∧
      List.Forall₂ Same (read first).tokens ts ∧ t.kind = .operator op ∧
      (read second).Moved ⟨us, ending⟩ := by
  rcases read_joining first second hop hfirst hnarrow with ⟨ts, t, offset, hread, hts, ht⟩
  unfold Narrow at hnarrow
  rw [hread] at hnarrow
  exact ⟨ts, t, _, _, hread, hts, ht, moved_read second offset hnarrow⟩

end Token

end Reckon
