import Reckon.Text.Bracket
import Reckon.Token.Lexeme
import Reckon.Value.Coercion

/-!
# Reading Tokens

A reader stands in a text and knows whether an operand or an operator comes
next. Five rules turn lexemes into tokens:

* A minus sign directly before a number belongs to the number where an operand
  comes next.
* A bracket and everything up to its closer is one token. Its inside is cut out
  as text, to be read on its own.
* A path followed by a single equals sign is the target of an assignment.
* A path followed by the word `in` is the name of a property, hence a text.
* Exclamation marks invert the operand they stand before, and may stand before
  nothing else if their number is odd.

A token is handed out only if its span is narrow (`Span.narrow?`). One that ends
further out is a fault where it starts.

The texts inside a token are shorter than the text it was read from
(`Token.length_lt_of_mem_read`), so reading them in turn comes to an end.

## Main definitions

* `Reader`: A place in a text.
* `Reader.wide?`: The next token, with a span of any size.
* `Reader.next?`: The next token, and the reader after it.
* `Reader.steps`: All tokens to come, each with the reader after it.
* `Reading`: The tokens of a text and how they end.
* `Token.read`: The reading of a text.

## Theorems

* `Reader.length_next?_lt`: Every token takes part of the text.
* `Token.length_lt_of_mem_read`: Nested texts are shorter.
-/

namespace Reckon

open Text

/-- The value of a number literal: an integer if it has no point and fits, a
    decimal otherwise. -/
def Value.ofNumeral (cs : List Char) : Value :=
  match Decimal.ofNumberText? cs with
  | some d => if d.scale = 0 then narrow (decimal d) else decimal d
  | none => str (String.ofList cs)

/-- A token without its place: its kind, the offset just past it, and what
    follows it. -/
structure Token.Piece where
  kind : Token.Kind String
  stop : Nat
  tail : List Char

namespace Token.Piece

open Lexeme (Placed)

/-- A piece made of one lexeme. -/
def ofPlaced (p : Placed) (kind : Kind String) : Piece := ⟨kind, p.stop, p.tail⟩

/-- The piece that a word makes. Operators written as words come first, then
    the two meanings that depend on the next lexeme, then type names. -/
def ofPath (p : Placed) : Piece :=
  let path := String.ofList p.text
  let simple := !p.text.contains '.'
  match if simple then Operator.ofKeyword? path else none with
  | some op => ofPlaced p (.operator op)
  | none =>
    let next := Lexeme.peek? p.stop p.tail
    match next.filter fun q => q.lexeme == .equals with
    | some q => ofPlaced q (.assign path)
    | none =>
      if next.any fun q => q.lexeme == .path && q.text == ['i', 'n'] then
        ofPlaced p (.operand (.literal (.str path)))
      else
        match if simple then TypeName.ofName? path else none with
        | some t => ofPlaced p (.operand (.literal (.type t)))
        | none => ofPlaced p (.operand (.identifier path))

/-- The piece that a minus sign makes. -/
def ofMinus (p : Placed) (wantsOperand : Bool) : Piece :=
  match (Lexeme.peek? p.stop p.tail).filter fun q =>
      wantsOperand && (q.lexeme == .integer || q.lexeme == .decimal) with
  | some q => ofPlaced q (.operand (.literal (Value.ofNumeral ('-' :: q.text))))
  | none => ofPlaced p (.operator .sub)

/-- The piece that an opening bracket makes, given what its inside becomes. -/
def ofBracket (p : Placed) (opener closer : Char) (kind : List Char → Kind String) :
    Except Fault Piece :=
  match closerIn closer 0 p.tail with
  | some (c :: tail) =>
    let inside := upTo p.tail (c :: tail)
    .ok ⟨kind inside, p.stop + width inside + c.utf8Size, tail⟩
  | _ => .error (.unclosed opener p.start)

/-- The group that the inside of a pair of parentheses becomes. -/
def group (inside : List Char) : Kind String :=
  .operand (.group (String.ofList (trim inside)))

/-- The list that the inside of a pair of square brackets becomes. -/
def list (inside : List Char) : Kind String :=
  .operand (.list ((elements inside).map String.ofList))

/-- The piece that starts with a lexeme. -/
def of (p : Placed) (wantsOperand : Bool) : Except Fault Piece :=
  match p.lexeme with
  | .boolean b => .ok (ofPlaced p (.operand (.literal (.bool b))))
  | .null => .ok (ofPlaced p (.operand (.literal .null)))
  | .self => .ok (ofPlaced p (.operand .self))
  | .integer | .decimal => .ok (ofPlaced p (.operand (.literal (Value.ofNumeral p.text))))
  | .quoted =>
    let inside := (p.text.drop 1).dropLast
    .ok (ofPlaced p (.operand (.literal (.str (String.ofList (unescape inside))))))
  | .path => .ok (ofPath p)
  | .operator .sub => .ok (ofMinus p wantsOperand)
  | .operator op => .ok (ofPlaced p (.operator op))
  | .openParen => ofBracket p '(' ')' group
  | .openBracket => ofBracket p '[' ']' list
  | .bang | .equals | .closeParen | .closeBracket | .comma =>
    .error (.unexpected p.start (String.ofList p.text))

/-- Every text inside a piece is no longer than `n`, and neither is what
    follows the piece. -/
def Within (n : Nat) (piece : Piece) : Prop :=
  piece.tail.length ≤ n ∧ ∀ s ∈ piece.kind.nested, s.length ≤ n

theorem within_ofPlaced {n : Nat} {p : Placed} {kind : Kind String} (ht : p.tail.length ≤ n)
    (hk : kind.nested = []) : (ofPlaced p kind).Within n :=
  ⟨ht, by simp [ofPlaced, hk]⟩

theorem within_ofPath (p : Placed) : (ofPath p).Within p.tail.length := by
  unfold ofPath
  simp only
  split
  · exact within_ofPlaced (Nat.le_refl _) rfl
  · split
    · next q hq =>
      have := Lexeme.length_peek?_lt (Option.filter_eq_some_iff.1 hq).1
      exact within_ofPlaced (Nat.le_of_lt this) rfl
    · split
      · exact within_ofPlaced (Nat.le_refl _) rfl
      · split <;> exact within_ofPlaced (Nat.le_refl _) rfl

theorem within_ofMinus (p : Placed) (wantsOperand : Bool) :
    (ofMinus p wantsOperand).Within p.tail.length := by
  unfold ofMinus
  split
  · next q hq =>
    have := Lexeme.length_peek?_lt (Option.filter_eq_some_iff.1 hq).1
    exact within_ofPlaced (Nat.le_of_lt this) rfl
  · exact within_ofPlaced (Nat.le_refl _) rfl

theorem within_ofBracket {p : Placed} {opener closer : Char} {kind : List Char → Kind String}
    {piece : Piece} (hk : ∀ inside, ∀ s ∈ (kind inside).nested, s.length ≤ inside.length)
    (h : ofBracket p opener closer kind = .ok piece) : piece.Within p.tail.length := by
  unfold ofBracket at h
  split at h
  · next c tail hc =>
    have hlen := length_closerIn_le hc
    cases h
    refine ⟨?_, fun s hs => Nat.le_trans (hk _ s hs) (length_upTo_le _ _)⟩
    simp only [List.length_cons] at hlen
    simp only
    omega
  · cases h

theorem within_of {p : Placed} {wantsOperand : Bool} {piece : Piece}
    (h : of p wantsOperand = .ok piece) : piece.Within p.tail.length := by
  unfold of at h
  split at h
  -- a path, which may take the equals sign after it
  case h_7 => cases h; exact within_ofPath p
  -- a minus sign, which may take the number after it
  case h_8 => cases h; exact within_ofMinus p wantsOperand
  -- parentheses and square brackets, the only tokens with texts inside
  case h_10 =>
    refine within_ofBracket (fun inside s hs => ?_) h
    simp only [group, Kind.nested, Operand.nested, List.mem_singleton] at hs
    subst hs
    simpa using length_trim_le inside
  case h_11 =>
    refine within_ofBracket (fun inside s hs => ?_) h
    simp only [list, Kind.nested, Operand.nested, List.mem_map] at hs
    obtain ⟨part, hpart, rfl⟩ := hs
    simpa using length_le_of_mem_elements hpart
  -- lexemes that start no token
  case h_12 | h_13 | h_14 | h_15 | h_16 => cases h
  all_goals cases h; exact within_ofPlaced (Nat.le_refl _) rfl

end Token.Piece

/-- A place in a text: what follows, its byte offset, and whether an operand
    comes next. -/
structure Reader where
  tail : List Char
  offset : Nat
  wantsOperand : Bool

namespace Reader

/-- A reader at the start of a text. -/
def start (cs : List Char) : Reader := ⟨cs, 0, true⟩

/-- Whether anything but blanks follows. -/
def hasMore (r : Reader) : Bool := !allBlank r.tail

/-- The token that starts at or after the reader's place, where exclamation
    marks before it have been read: `negated` if their number is odd, and
    `first` if the token starts with one. -/
def nextFrom (wantsOperand negated : Bool) (first : Option Nat) (offset : Nat)
    (tail : List Char) : Except Token.Fault (Option (Token String × Reader)) :=
  match _found : Lexeme.next? offset tail with
  | .error fault => .error fault
  | .ok none => if negated then .error (.unexpected (offset + width tail) "!") else .ok none
  | .ok (some p) =>
    let start := first.getD p.start
    -- Each mark turns the sign around, and the token starts at the first of them.
    if p.lexeme = .bang then nextFrom wantsOperand (!negated) (some start) p.stop p.tail
    else
      match Token.Piece.of p wantsOperand with
      | .error fault => .error fault
      | .ok piece =>
        -- Operators can not be negated. Two marks before one cancel each other out.
        if negated && piece.kind.wantsOperand then .error (.unexpected start "!")
        else
          .ok (some (⟨piece.kind, ⟨start, piece.stop⟩, negated⟩,
            ⟨piece.tail, piece.stop, piece.kind.wantsOperand⟩))
termination_by tail.length
decreasing_by exact Lexeme.length_next?_lt _found

/-- The next token, however far out it ends, and the reader after it; `none` where
    there is none. -/
def wide? (r : Reader) : Except Token.Fault (Option (Token String × Reader)) :=
  nextFrom r.wantsOperand false none r.offset r.tail

/-- What was found, if it is no token whose span is not narrow. -/
def narrowed : Option (Token String × Reader) → Except Token.Fault (Option (Token String × Reader))
  | none => .ok none
  | some (t, r) =>
    match Span.narrow? t.span.start t.span.stop with
    | .error _ => .error (.tooLarge t.span.start)
    | .ok span => .ok (some ({ t with span }, r))

/-- The next token, and the reader after it; `none` where there is none. -/
def next? (r : Reader) : Except Token.Fault (Option (Token String × Reader)) :=
  r.wide? >>= narrowed

theorem length_nextFrom_lt {wantsOperand negated : Bool} {first : Option Nat} {offset : Nat}
    {tail : List Char} {t : Token String} {r : Reader}
    (h : nextFrom wantsOperand negated first offset tail = .ok (some (t, r))) :
    r.tail.length < tail.length ∧ ∀ s ∈ t.nested, s.length < tail.length := by
  fun_induction nextFrom wantsOperand negated first offset tail with
  | case1 => cases h
  | case2 => cases h
  | case3 => cases h
  | case4 negated first offset tail p hp start hb ih =>
    -- A mark was read, so what is left is shorter already.
    have hlt := Lexeme.length_next?_lt hp
    obtain ⟨hr, hs⟩ := ih h
    exact ⟨Nat.lt_trans hr hlt, fun s hmem => Nat.lt_trans (hs s hmem) hlt⟩
  | case5 => cases h
  | case6 => cases h
  | case7 negated first offset tail p hp start hb piece hpiece =>
    have hlt := Lexeme.length_next?_lt hp
    obtain ⟨hr, hs⟩ := Token.Piece.within_of hpiece
    cases h
    exact ⟨Nat.lt_of_le_of_lt hr hlt, fun s hmem => Nat.lt_of_le_of_lt (hs s hmem) hlt⟩

/-- A token with a narrow span is handed out as it was found. -/
theorem narrowed_of_le {t : Token String} (r : Reader) (hstart : t.span.start ≤ Span.limit)
    (hstop : t.span.stop ≤ Span.limit) : narrowed (some (t, r)) = .ok (some (t, r)) := by
  simp only [narrowed, Span.narrow?_eq_ok_iff.2 ⟨hstart, hstop, rfl⟩]

/-- A token whose span is not narrow is a fault where it starts. -/
theorem narrowed_of_not_le {t : Token String} (r : Reader)
    (h : ¬(t.span.start ≤ Span.limit ∧ t.span.stop ≤ Span.limit)) :
    narrowed (some (t, r)) = .error (.tooLarge t.span.start) := by
  cases hspan : Span.narrow? t.span.start t.span.stop with
  | error e => simp only [narrowed, hspan]
  | ok span =>
    obtain ⟨hstart, hstop, _⟩ := Span.narrow?_eq_ok_iff.1 hspan
    exact absurd ⟨hstart, hstop⟩ h

theorem narrowed_eq_some {found : Option (Token String × Reader)} {t : Token String} {r : Reader} :
    narrowed found = .ok (some (t, r)) ↔
      found = some (t, r) ∧ t.span.start ≤ Span.limit ∧ t.span.stop ≤ Span.limit := by
  rcases found with _ | ⟨t', r'⟩
  · exact ⟨nofun, fun h => nomatch h.1⟩
  · by_cases hspan : t'.span.start ≤ Span.limit ∧ t'.span.stop ≤ Span.limit
    · rw [narrowed_of_le r' hspan.1 hspan.2, Except.ok.injEq]
      refine ⟨fun h => ⟨h, ?_⟩, fun h => h.1⟩
      cases h
      exact hspan
    · rw [narrowed_of_not_le r' hspan]
      refine ⟨nofun, fun ⟨heq, hnarrow⟩ => ?_⟩
      cases heq
      exact absurd hnarrow hspan

/-- The next token is the one that is found, if its span is narrow. -/
theorem next?_eq_some {r r' : Reader} {t : Token String} :
    r.next? = .ok (some (t, r')) ↔
      r.wide? = .ok (some (t, r')) ∧ t.span.start ≤ Span.limit ∧ t.span.stop ≤ Span.limit := by
  unfold next?
  rcases r.wide? with fault | found
  · exact ⟨nofun, fun h => nomatch h.1⟩
  · exact narrowed_eq_some.trans (and_congr_left' (by rw [Except.ok.injEq]))

/-- Every token takes part of the text, and the texts inside it are shorter. -/
theorem length_next?_lt {r r' : Reader} {t : Token String} (h : r.next? = .ok (some (t, r'))) :
    r'.tail.length < r.tail.length ∧ ∀ s ∈ t.nested, s.length < r.tail.length :=
  length_nextFrom_lt (next?_eq_some.1 h).1

end Reader

/-- How the tokens of a text end. -/
inductive Reading.End where
  /-- No token is left. What is left of the text is spacing, unless `leftover`
      says otherwise: exclamation marks in pairs, before nothing. -/
  | finished (leftover : Bool)
  /-- The rest of the text has no token at its start. -/
  | fault (fault : Token.Fault)
deriving DecidableEq, Repr, Inhabited

namespace Reader

/-- All tokens to come, each with the reader after it, and how they end. -/
def steps (r : Reader) : List (Token String × Reader) × Reading.End :=
  match _found : r.next? with
  | .error fault => ([], .fault fault)
  | .ok none => ([], .finished r.hasMore)
  | .ok (some (t, r')) =>
    let (later, ending) := r'.steps
    ((t, r') :: later, ending)
termination_by r.tail.length
decreasing_by exact (length_next?_lt _found).1

theorem length_lt_of_mem_steps {r : Reader} {step : Token String × Reader}
    (h : step ∈ r.steps.1) : ∀ s ∈ step.1.nested, s.length < r.tail.length := by
  fun_induction steps r with
  | case1 => cases h
  | case2 => cases h
  | case3 r t r' hr later ending heq ih =>
    obtain ⟨hlt, hs⟩ := length_next?_lt hr
    rcases List.mem_cons.1 h with rfl | h
    · exact hs
    · exact fun s hmem => Nat.lt_trans (ih (by simpa [heq] using h) s hmem) hlt

end Reader

/-- The tokens of a text, and how they end. -/
structure Reading (α : Type) where
  tokens : List (Token α)
  ending : Reading.End
deriving Inhabited

namespace Reading

variable {α : Type}

/-- The same reading, each of whose tokens holds expressions with a fact about
    them. -/
def attach {P : α → Prop} (r : Reading α) (h : ∀ t ∈ r.tokens, ∀ a ∈ t.nested, P a) :
    Reading { a // P a } :=
  ⟨r.tokens.pmap (fun t ht => t.attach ht) h, r.ending⟩

end Reading

namespace Token

/-- The reading of a text: its tokens up to its end or the first fault. -/
def read (text : String) : Reading String :=
  let (steps, ending) := (Reader.start text.toList).steps
  ⟨steps.map Prod.fst, ending⟩

/-- The tokens of a text, if the whole of it can be read. -/
def readAll? (text : String) : Except Fault (List (Token String)) :=
  let reading := read text
  match reading.ending with
  | .finished _ => .ok reading.tokens
  | .fault fault => .error fault

/-- The texts inside a token are shorter than the text it was read from. -/
theorem length_lt_of_mem_read {text : String} {t : Token String}
    (h : t ∈ (read text).tokens) : ∀ s ∈ t.nested, s.length < text.length := by
  simp only [read, List.mem_map] at h
  obtain ⟨step, hstep, rfl⟩ := h
  simpa only [Reader.start, String.length_toList] using Reader.length_lt_of_mem_steps hstep

end Token

end Reckon
