import Reckon.Proofs.Moving
import Reckon.Proofs.Narrow

/-!
# Reading Joined Texts

If a text can be read to its end, it is read in the same way when another text
follows it, with a space between them. Only two tokens look at what comes after
them, a path and a minus sign, and at the end of the first text they look at
the start of the second one. A text that starts with an operator, or with an
exclamation mark, gives them nothing to take. The operators that join texts
here are the ones that a value may come before and another statement, or the
rest of this one, after: `&&`, `||` and `;`.

Where tokens stand is another matter, as the second text is moved by the first
one. What is said here about tokens therefore leaves their places out
(`Token.Same`). It matters in one way only: a joined text may be so long that its
tokens end too far out, though those of its parts do not (`Token.Narrow`).

## Main definitions

* `Lexeme.Parting`: A text that gives the last token before it nothing to take.
* `Operator.joins`: The operators that join texts.
* `joiningText`: A joining operator and a second text, to follow a first one.

## Theorems

* `Token.Piece.of_append`: The piece that starts with a lexeme.
* `Reader.nextFrom_append`, `Reader.nextFrom_append_of`: The next token.
* `Reader.steps_append`: All tokens of a text that goes on.
* `Reader.steps_moved`: A text read from another place.
* `Token.read_joining`, `Token.read_joined`: Two texts joined by an operator.
-/

namespace Reckon

open Text

namespace Lexeme

/-- A lexeme that no token before it takes. -/
def Parts (lexeme : Lexeme) : Prop := lexeme = .bang ∨ ∃ op, lexeme = .operator op

/-- A text that can follow another one without giving its last token anything
    to take: it is blank, or starts with an operator or with a mark. -/
structure Parting (e : List Char) : Prop where
  loose : Loose e
  next?_eq : ∀ offset, next? offset e = .ok none ∨
    ∃ p, next? offset e = .ok (some p) ∧ p.lexeme.Parts

theorem parting_nil : Parting [] :=
  ⟨apart_nil.loose, fun _ => Or.inl rfl⟩

/-- A lexeme that no token takes is no equals sign, no word and no number. -/
theorem Parts.leaves {q : Placed} (h : q.lexeme.Parts) (wantsOperand : Bool) :
    (q.lexeme == .equals) = false ∧ (q.lexeme == .path && q.text == ['i', 'n']) = false ∧
      (wantsOperand && (q.lexeme == .integer || q.lexeme == .decimal)) = false := by
  rcases h with hbang | ⟨op, hop⟩
  · rw [hbang]
    exact ⟨rfl, rfl, Bool.and_false _⟩
  · rw [hop]
    exact ⟨rfl, rfl, Bool.and_false _⟩

/-- Whether a lexeme comes next, or nothing, or a fault, does not depend on the place. -/
theorem next?_ne_error_of_moved {offset : Nat} {cs : List Char}
    (h : ∀ fault, next? offset cs ≠ .error fault) (offset' : Nat) (fault : Token.Fault) :
    next? offset' cs ≠ .error fault := by
  intro hnext
  rcases hfound : next? offset cs with fault' | _ | p
  · exact h fault' hfound
  · rw [next?_eq_none.mpr (next?_eq_none.mp hfound)] at hnext
    cases hnext
  · rcases next?_append apart_nil.loose hfound offset' with ⟨p', hp', _⟩
    rw [List.append_nil, hnext] at hp'
    cases hp'

theorem peek?_of_ok {offset : Nat} {cs : List Char} {found : Option Placed}
    (h : next? offset cs = .ok found) : peek? offset cs = found := by
  unfold peek?
  rw [h]

/-- A fault after a token is not for the token to see. -/
theorem peek?_of_error {offset : Nat} {cs : List Char} {fault : Token.Fault}
    (h : next? offset cs = .error fault) : peek? offset cs = none := by
  unfold peek?
  rw [h]

/-- What a token sees after itself: the same lexeme after the text goes on, or
    where there was none at most one that it does not take. -/
theorem peek?_append {e cs : List Char} {offset : Nat} (he : Parting e)
    (h : ∀ fault, next? offset cs ≠ .error fault) (offset' : Nat) :
    (∃ q q', peek? offset cs = some q ∧ peek? offset' (cs ++ e) = some q' ∧ Same e q q') ∨
      peek? offset cs = none ∧
        ∀ q', peek? offset' (cs ++ e) = some q' → q'.lexeme.Parts := by
  -- With no lexeme left in the text the next one is the first of what is appended.
  rcases hnext : next? offset cs with fault | _ | q
  · exact absurd hnext (h fault)
  · refine Or.inr ⟨peek?_of_ok hnext, fun q' hq' => ?_⟩
    rcases he.next?_eq 0 with hnone | ⟨p, hp, hparts⟩
    · have hbody : (cs ++ e).dropWhile isSpacing = [] := by
        rw [List.dropWhile_append, next?_eq_none.mp hnext]
        exact next?_eq_none.mp hnone
      rw [peek?_of_ok (next?_eq_none.mpr hbody)] at hq'
      cases hq'
    · rcases next?_append_of_none hnext hp offset' with ⟨p', hp', hsame⟩
      rw [peek?_of_ok hp'] at hq'
      cases hq'
      rwa [Parts, hsame.lexeme_eq]
  · rcases next?_append he.loose hnext offset' with ⟨q', hq', hsame⟩
    exact Or.inl ⟨q, q', peek?_of_ok hnext, peek?_of_ok hq', hsame⟩

end Lexeme

namespace Token.Piece

open Lexeme (Placed Parting)

/-- What a piece is and what follows it, without its place. -/
structure Same (e : List Char) (piece piece' : Piece) : Prop where
  kind_eq : piece'.kind = piece.kind
  tail_eq : piece'.tail = piece.tail ++ e

/-- A piece that ends with the lexeme `p`, or with the one behind it. -/
def Looks (p : Placed) (piece : Piece) : Prop :=
  (∃ kind, piece = ofPlaced p kind) ∨
    ∃ q kind, Lexeme.peek? p.stop p.tail = some q ∧ piece = ofPlaced q kind

theorem looks_ofPath (p : Placed) : Looks p (ofPath p) := by
  unfold ofPath
  simp only
  split
  · exact Or.inl ⟨_, rfl⟩
  · split
    next q hq => exact Or.inr ⟨q, _, (Option.filter_eq_some_iff.mp hq).1, rfl⟩
    next =>
      split
      · exact Or.inl ⟨_, rfl⟩
      · split <;> exact Or.inl ⟨_, rfl⟩

theorem looks_ofMinus (p : Placed) (wantsOperand : Bool) : Looks p (ofMinus p wantsOperand) := by
  unfold ofMinus
  split
  next q hq => exact Or.inr ⟨q, _, (Option.filter_eq_some_iff.mp hq).1, rfl⟩
  next => exact Or.inl ⟨_, rfl⟩

/-- A fault behind the first lexeme of a token would come up again when the next token is
    read. -/
theorem Looks.next?_ne_error {p : Placed} {piece : Piece} (h : Looks p piece)
    (hpiece : ∀ fault, Lexeme.next? piece.stop piece.tail ≠ .error fault) (fault : Fault) :
    Lexeme.next? p.stop p.tail ≠ .error fault := by
  intro hnext
  rcases h with ⟨kind, rfl⟩ | ⟨q, kind, hq, rfl⟩
  · exact hpiece fault hnext
  · rw [Lexeme.peek?_of_error hnext] at hq
    cases hq

theorem ofPath_append {e : List Char} {p p' : Placed} (he : Parting e) (hp : Lexeme.Same e p p')
    (hfault : ∀ fault, Lexeme.next? p.stop p.tail ≠ .error fault) :
    Same e (ofPath p) (ofPath p') := by
  unfold ofPath
  simp only [hp.text_eq, hp.tail_eq]
  cases hop : (if (!p.text.contains '.') = true then
    Operator.ofKeyword? (String.ofList p.text) else none) with
  | some op => exact ⟨rfl, hp.tail_eq⟩
  | none =>
      rcases Lexeme.peek?_append he hfault p'.stop with ⟨q, q', hq, hq', hsame⟩ | ⟨hnone, hparts⟩
      · simp only [hq, hq', Option.filter_some, Option.any_some, hsame.lexeme_eq, hsame.text_eq]
        by_cases hequals : (q.lexeme == .equals) = true
        · simp only [hequals, if_true]
          exact ⟨rfl, hsame.tail_eq⟩
        · simp only [hequals, Bool.false_eq_true, if_false]
          split
          · exact ⟨rfl, hp.tail_eq⟩
          · split <;> exact ⟨rfl, hp.tail_eq⟩
      · -- Nothing follows the path, and afterwards at most what it leaves alone.
        have hnext : (Lexeme.peek? p'.stop (p.tail ++ e)).filter (fun q => q.lexeme == .equals) =
            none ∧ (Lexeme.peek? p'.stop (p.tail ++ e)).any
              (fun q => q.lexeme == .path && q.text == ['i', 'n']) = false := by
          rcases hq' : Lexeme.peek? p'.stop (p.tail ++ e) with _ | q'
          · exact ⟨rfl, rfl⟩
          · rcases (hparts q' hq').leaves true with ⟨hequals, hin, _⟩
            simp only [Option.filter_some, Option.any_some, hequals, hin, Bool.false_eq_true,
              if_false, and_self]
        simp only [hnone, hnext, Option.filter_none, Option.any_none, Bool.false_eq_true, if_false]
        split <;> exact ⟨rfl, hp.tail_eq⟩

theorem ofMinus_append {e : List Char} {p p' : Placed} (wantsOperand : Bool) (he : Parting e)
    (hp : Lexeme.Same e p p') (hfault : ∀ fault, Lexeme.next? p.stop p.tail ≠ .error fault) :
    Same e (ofMinus p wantsOperand) (ofMinus p' wantsOperand) := by
  unfold ofMinus
  simp only [hp.tail_eq]
  rcases Lexeme.peek?_append he hfault p'.stop with ⟨q, q', hq, hq', hsame⟩ | ⟨hnone, hparts⟩
  · simp only [hq, hq', Option.filter_some, hsame.lexeme_eq]
    by_cases htakes : (wantsOperand && (q.lexeme == .integer || q.lexeme == .decimal)) = true
    · simp only [htakes, if_true, hsame.text_eq]
      exact ⟨rfl, hsame.tail_eq⟩
    · simp only [htakes, Bool.false_eq_true, if_false]
      exact ⟨rfl, hp.tail_eq⟩
  · -- What parts the texts is no number that the sign could belong to.
    have hnext : (Lexeme.peek? p'.stop (p.tail ++ e)).filter (fun q =>
        wantsOperand && (q.lexeme == .integer || q.lexeme == .decimal)) = none := by
      rcases hq' : Lexeme.peek? p'.stop (p.tail ++ e) with _ | q'
      · rfl
      · simp only [Option.filter_some, ((hparts q' hq').leaves wantsOperand).2.2,
          Bool.false_eq_true, if_false]
    simp only [hnone, hnext, Option.filter_none]
    exact ⟨rfl, hp.tail_eq⟩

theorem ofBracket_append {e : List Char} {p p' : Placed} {opener closer : Char}
    {kind : List Char → Kind String} {piece : Piece} (hp : Lexeme.Same e p p')
    (h : ofBracket p opener closer kind = .ok piece) :
    ∃ piece', ofBracket p' opener closer kind = .ok piece' ∧ Same e piece piece' := by
  unfold ofBracket at h ⊢
  split at h
  next c tail hclose =>
    cases h
    rw [hp.tail_eq, closerIn_append e hclose]
    simp only [List.cons_append]
    refine ⟨_, rfl, ?_, rfl⟩
    simp only [← List.cons_append, upTo_append]
  next => cases h

/-- The piece that starts with a lexeme is the same after the text goes on,
    unless a fault comes next. -/
theorem of_append {e : List Char} {p p' : Placed} {wantsOperand : Bool} {piece : Piece}
    (he : Parting e) (hp : Lexeme.Same e p p') (h : of p wantsOperand = .ok piece)
    (hfault : ∀ fault, Lexeme.next? piece.stop piece.tail ≠ .error fault) :
    ∃ piece', of p' wantsOperand = .ok piece' ∧ Same e piece piece' := by
  unfold of at h ⊢
  rw [hp.lexeme_eq]
  split at h
  -- a path, which may look at the lexeme after it
  case h_7 =>
    cases h
    exact ⟨_, rfl, ofPath_append he hp ((looks_ofPath p).next?_ne_error hfault)⟩
  -- a minus sign, which may look at the lexeme after it
  case h_8 =>
    cases h
    exact ⟨_, rfl, ofMinus_append wantsOperand he hp
      ((looks_ofMinus p wantsOperand).next?_ne_error hfault)⟩
  -- parentheses and square brackets
  case h_10 => exact ofBracket_append hp h
  case h_11 => exact ofBracket_append hp h
  -- lexemes that start no token
  case h_12 | h_13 | h_14 | h_15 | h_16 => cases h
  all_goals
    cases h
    refine ⟨_, rfl, ?_, hp.tail_eq⟩
    simp only [ofPlaced, hp.text_eq]

end Token.Piece

namespace Reader

open Lexeme (Parting)

/-- A reader in a text that goes on with `e`, without its place. -/
structure Same (e : List Char) (r r' : Reader) : Prop where
  tail_eq : r'.tail = r.tail ++ e
  wantsOperand_eq : r'.wantsOperand = r.wantsOperand

/-- The next token of a text is the next one after the text goes on, if the piece
    that it is made of is. -/
theorem nextFrom_append_of {e : List Char} (he : Loose e) {wantsOperand negated : Bool}
    {first : Option Nat} {offset : Nat} {tail : List Char} {t : Token String} {r : Reader}
    (h : nextFrom wantsOperand negated first offset tail = .ok (some (t, r)))
    (hof : ∀ p p', Lexeme.Same e p p' →
      Token.Piece.of p wantsOperand = .ok ⟨t.kind, r.offset, r.tail⟩ →
      ∃ piece', Token.Piece.of p' wantsOperand = .ok piece' ∧
        Token.Piece.Same e ⟨t.kind, r.offset, r.tail⟩ piece')
    (first' : Option Nat) (offset' : Nat) :
    ∃ t' r', nextFrom wantsOperand negated first' offset' (tail ++ e) = .ok (some (t', r')) ∧
      Token.Same t t' ∧ Same e r r' := by
  -- The recursion is on the exclamation marks in front of the token.
  fun_induction nextFrom wantsOperand negated first offset tail generalizing first' offset' with
  | case1 => cases h
  | case2 => cases h
  | case3 => cases h
  | case4 negated first offset tail p hp start hbang ih =>
      rcases Lexeme.next?_append he hp offset' with ⟨p', hp', hsame⟩
      rw [nextFrom_of_bang hp' (hsame.lexeme_eq.trans hbang), hsame.tail_eq]
      exact ih h _ _
  | case5 => cases h
  | case6 => cases h
  | case7 negated first offset tail p hp start hbang piece hpiece hneg =>
      cases h
      rcases Lexeme.next?_append he hp offset' with ⟨p', hp', hsame⟩
      rcases hof p p' hsame hpiece with ⟨piece', hpiece', hsame'⟩
      rw [nextFrom_eq, hp']
      simp only [hsame.lexeme_eq, hbang, if_false, hpiece', hsame'.kind_eq, hneg]
      exact ⟨_, _, rfl, ⟨rfl, rfl⟩, ⟨hsame'.tail_eq, rfl⟩⟩

theorem nextFrom_append {e : List Char} (he : Parting e) {wantsOperand negated : Bool}
    {first : Option Nat} {offset : Nat} {tail : List Char} {t : Token String} {r : Reader}
    (h : nextFrom wantsOperand negated first offset tail = .ok (some (t, r)))
    (hfault : ∀ fault, Lexeme.next? r.offset r.tail ≠ .error fault) (first' : Option Nat)
    (offset' : Nat) :
    ∃ t' r', nextFrom wantsOperand negated first' offset' (tail ++ e) = .ok (some (t', r')) ∧
      Token.Same t t' ∧ Same e r r' :=
  nextFrom_append_of he.loose h
    (fun _ _ hsame hpiece => Token.Piece.of_append he hsame hpiece hfault) first' offset'

/-- Where no token is left of a text, the next token is that of what follows.
    Exclamation marks that are left over come in pairs, and change nothing but
    its place. -/
theorem nextFrom_append_of_none {e : List Char} (he : Loose e) {wantsOperand negated : Bool}
    {first : Option Nat} {offset : Nat} {tail : List Char}
    (h : nextFrom wantsOperand negated first offset tail = .ok none) (first' : Option Nat)
    (offset' : Nat) :
    ∃ first₂ offset₂ blanks, Lexeme.next? 0 blanks = .ok none ∧
      nextFrom wantsOperand negated first' offset' (tail ++ e) =
        nextFrom wantsOperand false first₂ offset₂ (blanks ++ e) := by
  fun_induction nextFrom wantsOperand negated first offset tail generalizing first' offset' with
  | case1 => cases h
  | case2 => cases h
  | case3 negated first offset tail hnone hneg =>
      -- All marks are read and only spacing is left, in front of what follows.
      have hblank : Lexeme.next? 0 tail = .ok none :=
        Lexeme.next?_eq_none.mpr (Lexeme.next?_eq_none.mp hnone)
      rw [Bool.not_eq_true] at hneg
      rw [hneg]
      exact ⟨first', offset', tail, hblank, rfl⟩
  | case4 negated first offset tail p hp start hbang ih =>
      rcases Lexeme.next?_append he hp offset' with ⟨p', hp', hsame⟩
      rw [nextFrom_of_bang hp' (hsame.lexeme_eq.trans hbang), hsame.tail_eq]
      exact ih h _ _
  | case5 => cases h
  | case6 => cases h
  | case7 => cases h

/-- The tokens to come. -/
def tokens (r : Reader) : List (Token String) := r.steps.1.map Prod.fst

theorem tokens_of_some {r r' : Reader} {t : Token String} (h : r.next? = .ok (some (t, r'))) :
    r.tokens = t :: r'.tokens ∧ r.steps.2 = r'.steps.2 := by
  unfold tokens
  rw [steps_eq, h]
  exact ⟨rfl, rfl⟩

theorem tokens_of_none {r : Reader} (h : r.next? = .ok none) :
    r.tokens = [] ∧ r.steps.2 = .finished r.hasMore := by
  unfold tokens
  rw [steps_of_none h]
  exact ⟨rfl, rfl⟩

theorem tokens_of_error {r : Reader} {fault : Token.Fault} (h : r.next? = .error fault) :
    r.tokens = [] ∧ r.steps.2 = .fault fault := by
  unfold tokens
  rw [steps_eq, h]
  exact ⟨rfl, rfl⟩

/-- A reading that comes to its end meets no fault on the way. -/
theorem next?_ne_error_of_finished {r : Reader} {leftover : Bool}
    (h : r.steps.2 = .finished leftover) (fault : Token.Fault) :
    Lexeme.next? r.offset r.tail ≠ .error fault := by
  intro hnext
  have hwide : r.wide? = .error fault := by rw [wide?, nextFrom_eq, hnext]
  rw [steps_eq, next?_of_error hwide] at h
  cases h

/-- A text that is read to its end is read in the same way after it goes on:
    the same tokens come first, and then what comes at the end of the text. -/
theorem steps_append {e : List Char} (he : Parting e) {r : Reader} {leftover : Bool}
    (hend : r.steps.2 = .finished leftover) {r' : Reader} (hr : Same e r r')
    (hnarrow : r'.Narrow) :
    ∃ ts q q', List.Forall₂ Token.Same r.tokens ts ∧ r'.tokens = ts ++ q'.tokens ∧
      r'.steps.2 = q'.steps.2 ∧ q.next? = .ok none ∧ Same e q q' ∧ q'.Narrow ∧
      q.hasMore = leftover := by
  -- The recursion is on the tokens of the text.
  fun_induction steps r generalizing r' with
  | case1 r fault hr => cases hend
  | case2 r hnone =>
      cases hend
      rw [(tokens_of_none hnone).1]
      exact ⟨[], r, r', .nil, rfl, rfl, hnone, hr, hnarrow, rfl⟩
  | case3 r t r₁ hnext later ending hlater ih =>
      have hend₁ : r₁.steps.2 = .finished leftover := by
        rw [hlater]
        exact hend
      rcases nextFrom_append he (next?_eq_some.mp hnext).1 (next?_ne_error_of_finished hend₁) none
        r'.offset with ⟨t', r₁', hwide', ht, hr₁⟩
      rw [← hr.wantsOperand_eq, ← hr.tail_eq] at hwide'
      rcases ih hend₁ hr₁ (hnarrow.later hwide') with ⟨ts, q, q', hts, htokens, hending, hnone, hq⟩
      rcases tokens_of_some (hnarrow.next?_eq.trans hwide') with ⟨htokens', hending'⟩
      refine ⟨t' :: ts, q, q', ?_, ?_, hending'.trans hending, hnone, hq⟩
      · rw [(tokens_of_some hnext).1]
        exact .cons ht hts
      · rw [htokens', htokens]
        rfl

/-- Where no token is left, none is left elsewhere. -/
theorem next?_moved_of_none {r r' : Reader} (h : r.next? = .ok none) (hr : Same [] r r') :
    r'.next? = .ok none := by
  rcases nextFrom_append_of_none Lexeme.parting_nil.loose (next?_eq_none.mp h) none r'.offset
    with ⟨first, offset, blanks, hblanks, hwide⟩
  rw [← hr.wantsOperand_eq, ← hr.tail_eq] at hwide
  refine next?_of_none ?_
  rw [wide?, hwide, nextFrom_eq, List.append_nil]
  have hblanks' : Lexeme.next? offset blanks = .ok none :=
    Lexeme.next?_eq_none.mpr (Lexeme.next?_eq_none.mp hblanks)
  rw [hblanks']
  rfl

/-- A text read from another place has the same tokens, and as much is left of it. -/
theorem steps_moved {r r' : Reader} {leftover : Bool} (hend : r.steps.2 = .finished leftover)
    (hr : Same [] r r') (hnarrow : r'.Narrow) :
    List.Forall₂ Token.Same r.tokens r'.tokens ∧ r'.steps.2 = .finished leftover := by
  rcases steps_append Lexeme.parting_nil hend hr hnarrow with
    ⟨ts, q, q', hts, htokens, hending, hnone, hq, _, hmore⟩
  have hnone' := next?_moved_of_none hnone hq
  have hmore' : q'.hasMore = leftover := by
    rw [← hmore, hasMore, hasMore, hq.tail_eq, List.append_nil]
  rw [(tokens_of_none hnone').1, List.append_nil] at htokens
  rw [htokens, hending, (tokens_of_none hnone').2, hmore']
  exact ⟨hts, rfl⟩

/-- Spacing in front of a text is not read. -/
theorem nextFrom_spacing {lead : List Char} (hlead : Spacing lead) (wantsOperand negated : Bool)
    (first : Option Nat) (offset : Nat) (tail : List Char) :
    nextFrom wantsOperand negated first offset (lead ++ tail) =
      nextFrom wantsOperand negated first (offset + width lead) tail := by
  have hnext : Lexeme.next? offset (lead ++ tail) = Lexeme.next? (offset + width lead) tail := by
    unfold Lexeme.next?
    simp only [List.dropWhile_append_of_pos hlead, List.takeWhile_append_of_pos hlead,
      width_append, Nat.add_assoc]
  rw [nextFrom_eq, nextFrom_eq, hnext, width_append, Nat.add_assoc]

theorem next?_spacing {lead : List Char} (hlead : Spacing lead) (wantsOperand : Bool)
    (offset : Nat) (tail : List Char) :
    (⟨lead ++ tail, offset, wantsOperand⟩ : Reader).next? =
      (⟨tail, offset + width lead, wantsOperand⟩ : Reader).next? :=
  congrArg (· >>= narrowed) (nextFrom_spacing hlead wantsOperand false none offset tail)

theorem steps_spacing {lead : List Char} (hlead : Spacing lead) (wantsOperand : Bool)
    (offset : Nat) (tail : List Char) :
    (⟨lead ++ tail, offset, wantsOperand⟩ : Reader).steps =
      (⟨tail, offset + width lead, wantsOperand⟩ : Reader).steps := by
  have hmore : (⟨lead ++ tail, offset, wantsOperand⟩ : Reader).hasMore =
      (⟨tail, offset + width lead, wantsOperand⟩ : Reader).hasMore := by
    have hblank := hlead.allBlank
    unfold Text.allBlank at hblank
    simp only [hasMore, Text.allBlank, List.all_append, hblank, Bool.true_and]
  rw [steps_eq, next?_spacing hlead, hmore, ← steps_eq]

theorem steps_space (wantsOperand : Bool) (offset : Nat) (tail : List Char) :
    (⟨' ' :: tail, offset, wantsOperand⟩ : Reader).steps =
      (⟨tail, offset + 1, wantsOperand⟩ : Reader).steps := by
  have hlead : Spacing [' '] := List.forall_mem_singleton.mpr rfl
  exact steps_spacing hlead wantsOperand offset tail

end Reader

theorem Token.read_eq_start (text : String) :
    read text = ⟨(Reader.start text.toList).tokens, (Reader.start text.toList).steps.2⟩ := rfl

/-- A text that reads to its end has all of its tokens read. -/
theorem Token.readAll?_eq_ok_iff {text : String} {ts : List (Token String)} :
    readAll? text = .ok ts ↔ (Reader.start text.toList).tokens = ts ∧
      ∃ leftover, (Reader.start text.toList).steps.2 = .finished leftover := by
  rw [readAll?, read_eq_start]
  rcases (Reader.start text.toList).steps.2 with leftover | fault
  · simp only [Except.ok.injEq, Reading.End.finished.injEq, exists_eq', and_true]
  · simp only [reduceCtorEq, exists_false, and_false]

/-- The operators that join two texts. -/
def Operator.joins : Operator → Bool
  | .and | .or | .endOfStatement => true
  | _ => false

/-- The text that joins a second expression to a first one by an operator. -/
def joiningText (op : Operator) (second : List Char) : List Char :=
  ' ' :: (op.symbol.toList ++ ' ' :: second)

theorem next?_joiningText {op : Operator} (hop : op.joins) (offset : Nat) (second : List Char) :
    Lexeme.next? offset (joiningText op second) =
      .ok (some ⟨.operator op, offset + 1, op.symbol.toList, ' ' :: second⟩) := by
  rw [Lexeme.next?_eq_some]
  cases op with
  | and | or | endOfStatement => exact ⟨rfl, rfl⟩
  | _ => cases hop

/-- A text that a joining operator follows is left as it is. -/
theorem parting_joiningText {op : Operator} (hop : op.joins) (second : List Char) :
    Lexeme.Parting (joiningText op second) :=
  ⟨(apart_cons _).loose,
    fun offset => Or.inr ⟨_, next?_joiningText hop offset second, Or.inr ⟨op, rfl⟩⟩⟩

/-- Where no token is left of the first text, the joining operator is next. -/
theorem Reader.next?_joining {op : Operator} (hop : op.joins) {second : List Char}
    {q q' : Reader} (hnone : q.next? = .ok none) (hq : Same (joiningText op second) q q')
    (hnarrow : q'.Narrow) :
    ∃ t offset, t.kind = .operator op ∧
      q'.next? = .ok (some (t, ⟨' ' :: second, offset, true⟩)) := by
  -- The reader was content at the end of the first text, so no mark is waiting.
  rcases nextFrom_append_of_none (parting_joiningText hop second).loose (next?_eq_none.mp hnone)
    none q'.offset with ⟨first, offset, blanks, hblanks, hwide⟩
  rcases Lexeme.next?_append_of_none hblanks (next?_joiningText hop 0 second) offset with
    ⟨p', hp', hsame⟩
  have hpiece : Token.Piece.of p' q.wantsOperand =
      .ok (Token.Piece.ofPlaced p' (.operator op)) := by
    unfold Token.Piece.of
    rw [hsame.lexeme_eq]
    cases op with
    | and | or | endOfStatement => rfl
    | _ => cases hop
  have hbang : p'.lexeme ≠ .bang := by
    rw [hsame.lexeme_eq]
    exact Lexeme.noConfusion
  refine ⟨⟨.operator op, ⟨first.getD p'.start, p'.stop⟩, false⟩, p'.stop, rfl, ?_⟩
  rw [hnarrow.next?_eq, wide?, hq.tail_eq, hq.wantsOperand_eq, hwide, nextFrom_eq, hp']
  simp only [hbang, if_false, hpiece, Bool.false_and, Bool.false_eq_true]
  rw [Token.Piece.ofPlaced, hsame.tail_eq, List.append_nil]
  rfl

/-- Two texts joined by an operator are read as the first, the operator, and what a
    reader finds who starts in the second where it stands. -/
theorem Token.read_joining (first second : String) {op : Operator} (hop : op.joins)
    {leftover : Bool} (hfirst : (read first).ending = .finished leftover)
    (hnarrow : Narrow (first ++ " " ++ op.symbol ++ " " ++ second)) :
    ∃ ts t offset, read (first ++ " " ++ op.symbol ++ " " ++ second) =
        ⟨ts ++ t :: (⟨second.toList, offset, true⟩ : Reader).tokens,
          (⟨second.toList, offset, true⟩ : Reader).steps.2⟩ ∧
      List.Forall₂ Same (read first).tokens ts ∧ t.kind = .operator op := by
  have htext : (first ++ " " ++ op.symbol ++ " " ++ second).toList =
      first.toList ++ joiningText op second.toList := by
    simp only [String.toList_append, joiningText, List.append_assoc]
    rfl
  have hstart : Reader.Same (joiningText op second.toList) (Reader.start first.toList)
      (Reader.start (first ++ " " ++ op.symbol ++ " " ++ second).toList) :=
    ⟨htext, rfl⟩
  -- The first text is read to its end, then the operator, then the second text from there.
  rcases Reader.steps_append (parting_joiningText hop second.toList) hfirst hstart hnarrow with
    ⟨ts, q, q', hts, htokens, hending, hnone, hq, hnarrow', _⟩
  rcases Reader.next?_joining hop hnone hq hnarrow' with ⟨t, offset, ht, hnext⟩
  rcases Reader.tokens_of_some hnext with ⟨htokens', hending'⟩
  have hspace := Reader.steps_space true offset second.toList
  refine ⟨ts, t, offset + 1, ?_, hts, ht⟩
  rw [read_eq_start, htokens, hending, htokens', hending', hspace]
  simp only [Reader.tokens, hspace]

/-- Two texts joined by an operator are read as the first, the operator and the
    second. -/
theorem Token.read_joined (first second : String) {op : Operator} (hop : op.joins)
    {leftover leftover₂ : Bool} (hfirst : (read first).ending = .finished leftover)
    (hsecond : (read second).ending = .finished leftover₂)
    (hnarrow : Narrow (first ++ " " ++ op.symbol ++ " " ++ second)) :
    ∃ ts t us, read (first ++ " " ++ op.symbol ++ " " ++ second) =
        ⟨ts ++ t :: us, .finished leftover₂⟩ ∧
      List.Forall₂ Same (read first).tokens ts ∧ t.kind = .operator op ∧
      List.Forall₂ Same (read second).tokens us := by
  rcases read_joining first second hop hfirst hnarrow with ⟨ts, t, offset, hread, hts, ht⟩
  have hmoved : Reader.Same [] (Reader.start second.toList) ⟨second.toList, offset, true⟩ :=
    ⟨(List.append_nil _).symm, rfl⟩
  -- No token of the second text is too far out, as they are tokens of the joined one.
  have hnarrow₂ : (⟨second.toList, offset, true⟩ : Reader).Narrow := by
    unfold Narrow at hnarrow
    rwa [hread] at hnarrow
  rcases Reader.steps_moved hsecond hmoved hnarrow₂ with ⟨hus, hleftover⟩
  rw [hleftover] at hread
  exact ⟨ts, t, _, hread, hts, ht, hus⟩

end Reckon
