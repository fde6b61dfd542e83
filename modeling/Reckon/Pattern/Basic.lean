import Reckon.Pattern.CharSet

/-!
# Patterns

Regular expressions over characters: sets of characters, conditions on a place,
sequences, alternatives, repetitions and groups. A pattern matches stretches of a
text, given by the places where they begin and end. There is no preference among
matches, since a pattern is only ever asked whether it matches at all.

`Pattern.Matches` says which stretches a pattern matches, rule by rule. The
search that decides it is in `Pattern.Search`.

## Main definitions

* `Condition`: Conditions on the place between two characters.
* `Pattern`: Patterns.
* `Pattern.Matches`: The stretches of a text that a pattern matches.
-/

namespace Reckon

/-- A condition on the place between two characters, of which either may be
    missing. -/
inductive Condition where
  /-- The start of the text. -/
  | textStart
  /-- The end of the text. -/
  | textEnd
  /-- The start of a line, where a line feed ends a line. -/
  | lineStart
  /-- The end of a line, where a line feed ends a line. -/
  | lineEnd
  /-- The start of a line, where a line feed, a carriage return, or the pair of
      them ends a line. -/
  | returnLineStart
  /-- The end of a line, where a line feed, a carriage return, or the pair of them
      ends a line. -/
  | returnLineEnd
  /-- A word starts or ends. -/
  | wordEdge (alphabet : Alphabet)
  /-- No word starts or ends. -/
  | noWordEdge (alphabet : Alphabet)
  | wordStart (alphabet : Alphabet)
  | wordEnd (alphabet : Alphabet)
  /-- No word character comes before. -/
  | noWordBefore (alphabet : Alphabet)
  /-- No word character comes after. -/
  | noWordAfter (alphabet : Alphabet)
deriving DecidableEq, Repr, Inhabited

namespace Condition

/-- Whether there is a word character. -/
def isWord (alphabet : Alphabet) (c : Option Char) : Bool := c.any alphabet.word.contains

/-- Whether a condition holds between two characters. The place inside a pair of
    carriage return and line feed neither starts nor ends a line. -/
def holds (condition : Condition) (before after : Option Char) : Bool :=
  match condition with
  | textStart => before.isNone
  | textEnd => after.isNone
  | lineStart => before.all (· == '\n')
  | lineEnd => after.all (· == '\n')
  | returnLineStart =>
    before.all fun c => c == '\n' || (c == '\r' && after != some '\n')
  | returnLineEnd =>
    after.all fun c => c == '\r' || (c == '\n' && before != some '\r')
  | wordEdge alphabet => isWord alphabet before != isWord alphabet after
  | noWordEdge alphabet => isWord alphabet before == isWord alphabet after
  | wordStart alphabet => !isWord alphabet before && isWord alphabet after
  | wordEnd alphabet => isWord alphabet before && !isWord alphabet after
  | noWordBefore alphabet => !isWord alphabet before
  | noWordAfter alphabet => !isWord alphabet after

/-- The character before a place of a text. -/
def before? (text : List Char) (i : Nat) : Option Char :=
  match i with
  | 0 => none
  | i + 1 => text[i]?

/-- Whether a condition holds at a place of a text. -/
def holdsAt (condition : Condition) (text : List Char) (i : Nat) : Bool :=
  condition.holds (before? text i) text[i]?

end Condition

/-- A pattern. -/
inductive Pattern where
  | empty
  | set (s : CharSet)
  | at (condition : Condition)
  | cat (a b : Pattern)
  | alt (a b : Pattern)
  /-- A pattern repeated at least `least` times, and at most `most` times where
      that is given. -/
  | times (body : Pattern) (least : Nat) (most : Option Nat)
  /-- A pattern in parentheses, with the number of the group where it captures. -/
  | group (number : Option Nat) (body : Pattern)
deriving DecidableEq, Repr, Inhabited

namespace Pattern

/-- The stretch of `text` from place `i` to place `j` matches a pattern. Places
    are counted in characters. -/
inductive Matches (text : List Char) : Pattern → Nat → Nat → Prop where
  | empty {i : Nat} : i ≤ text.length → Matches text .empty i i
  | set {s : CharSet} {i : Nat} {c : Char} :
      text[i]? = some c → s.contains c = true → Matches text (.set s) i (i + 1)
  | at {condition : Condition} {i : Nat} :
      i ≤ text.length → condition.holdsAt text i = true → Matches text (.at condition) i i
  | cat {a b : Pattern} {i j k : Nat} :
      Matches text a i j → Matches text b j k → Matches text (.cat a b) i k
  | altLeft {a b : Pattern} {i j : Nat} : Matches text a i j → Matches text (.alt a b) i j
  | altRight {a b : Pattern} {i j : Nat} : Matches text b i j → Matches text (.alt a b) i j
  /-- No further repetition is needed. -/
  | done {body : Pattern} {most : Option Nat} {i : Nat} :
      i ≤ text.length → Matches text (.times body 0 most) i i
  /-- One repetition, and as many more as are still needed and allowed. -/
  | again {body : Pattern} {least : Nat} {most : Option Nat} {i j k : Nat} :
      most ≠ some 0 → Matches text body i j →
      Matches text (.times body (least - 1) (most.map (· - 1))) j k →
      Matches text (.times body least most) i k
  /-- Parentheses change nothing about what matches. -/
  | group {number : Option Nat} {body : Pattern} {i j : Nat} :
      Matches text body i j → Matches text (.group number body) i j

/-- Some stretch of a text matches a pattern. -/
def Occurs (p : Pattern) (text : List Char) : Prop :=
  ∃ i j, Matches text p i j

/-- The whole of a text matches a pattern. -/
def MatchesWhole (p : Pattern) (text : List Char) : Prop :=
  Matches text p 0 text.length

end Pattern

end Reckon
