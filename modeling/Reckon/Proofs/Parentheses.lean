import Reckon.Proofs.Coercing
import Reckon.Proofs.Readable
import Reckon.Proofs.Relocating

/-!
# Parentheses around an Expression

A text that reads to its end may be put in parentheses. It is then one token, a
group that holds the text without the blanks at its ends (`Token.read_parenthesized`),
and what it comes to is what the text comes to (`Interpret.whole_parenthesized`):
the same value or an error of the same cause, with the same uses of the variables.

Three things have to meet for this. The scanner that looks for the closing bracket
has to find the one that was added, and it does because the text closes what it
opens. The text in the group has lost its blanks, and its tokens are those of the
text, moved (`Token.read_trim`); so are its errors. And a value that was coerced as
that of an expression inside another is coerced once more as that of the whole,
which makes no difference to it.

Errors are placed one byte further on, behind the bracket. There is one exception.
A text without tokens is an error at its start, and the start that counts is that
of the text in the group, so the blanks before it count as well.

## Main definitions

* `parenthesized`: A text in parentheses.
* `parenthesesShift`: How much further on its errors are placed.

## Theorems

* `Token.read_trim`: The tokens of a text without the blanks at its ends.
* `Token.read_parenthesized`: A text in parentheses is one token.
* `Interpret.run_trim`: A run over a text and one over the trimmed text.
* `Interpret.whole_parenthesized`: What a text in parentheses comes to.
-/

namespace Reckon

open Eval Text

/-- A text in parentheses. -/
def parenthesized (text : String) : String := "(" ++ text ++ ")"

/-- How many bytes further on an error is placed if a text with these tokens is put
    in parentheses. Only where there are no tokens does it matter that the text in
    the group does not start with blanks. -/
def parenthesesShift (text : String) (tokens : List (Token String)) : Nat :=
  1 + if tokens.isEmpty then width (leading text.toList) else 0

theorem toList_parenthesized (text : String) :
    (parenthesized text).toList = '(' :: (text.toList ++ [')']) := by
  simp only [parenthesized, String.toList_append]
  rfl

theorem utf8ByteSize_parenthesized (text : String) :
    (parenthesized text).utf8ByteSize = text.utf8ByteSize + 2 := by
  rw [← width_toList, toList_parenthesized, width_cons, width_append, width_toList]
  exact Nat.add_comm 1 (text.utf8ByteSize + 1)

namespace Token

variable {text : String} {leftover : Bool}

/-- The tokens of a text that reads to its end are those of the text without the
    blanks at its ends, moved by the blanks at the start. -/
theorem read_trim (h : (read text).ending = .finished leftover) :
    (read (String.ofList (trim text.toList))).ending = .finished leftover ∧
      (read text).tokens = (read (String.ofList (trim text.toList))).tokens.map
        (shift (width (leading text.toList))) := by
  -- Read from the start, the text is the trimmed one moved by the blanks in front of it.
  have hsteps : (Reader.start text.toList).steps =
      ((Reader.start (trim text.toList)).shift (width (leading text.toList))
        (trailing text.toList)).steps := by
    conv_lhs => rw [← leading_trim_trailing text.toList]
    exact Reader.steps_spacing (spacing_leading h) true 0 _
  have hend : (Reader.start text.toList).steps.2 = .finished leftover := h
  rw [hsteps] at hend
  rcases Reader.steps_shift (spacing_trailing h) (width (leading text.toList))
    (Reader.start (trim text.toList)) (Reader.narrow_of_finished hend) with ⟨htokens, hending⟩
  unfold read
  rw [String.toList_ofList]
  refine ⟨(hending leftover).mp hend, ?_⟩
  simp only [hsteps]
  exact htokens

theorem exists_read_of_readAll? {tokens : List (Token String)} (h : readAll? text = .ok tokens) :
    ∃ leftover, read text = ⟨tokens, .finished leftover⟩ := by
  unfold readAll? at h
  simp only at h
  split at h
  next leftover hending =>
    cases h
    exact ⟨leftover, by rw [← hending]⟩
  next => cases h

/-- A text that closes the brackets that it opens is one token if it is put in
    parentheses, unless that makes it too long for the span of a token. -/
theorem read_parenthesized (h : Level text.toList) :
    read (parenthesized text) =
      if text.utf8ByteSize + 2 ≤ Span.limit then
        ⟨[⟨.operand (.group (String.ofList (trim text.toList))), ⟨0, text.utf8ByteSize + 2⟩,
          false⟩], .finished false⟩
      else ⟨[], .fault (.tooLarge 0)⟩ := by
  have hnext : Lexeme.next? 0 (parenthesized text).toList =
      .ok (some ⟨.openParen, 0, ['('], text.toList ++ [')']⟩) := by
    rw [toList_parenthesized, Lexeme.next?_eq_some]
    exact ⟨rfl, rfl⟩
  -- The closer that is found is the one that was added.
  have hpiece : Piece.of ⟨.openParen, 0, ['('], text.toList ++ [')']⟩ true =
      .ok ⟨Piece.group text.toList, 1 + width text.toList + 1, []⟩ :=
    Piece.ofBracket_of_level Piece.group h rfl rfl
  have hstop : 1 + width text.toList + 1 = text.utf8ByteSize + 2 := by
    rw [width_toList]
    omega
  rw [read_of_piece hnext Lexeme.noConfusion hpiece, hstop]
  simp only [Nat.zero_le, true_and]
  rfl

end Token

namespace Pass

variable {α : Type}

/-- A run over no tokens has nothing to do. -/
theorem run_nil (nested : Nested α) (rounding : Rounding) (env : Env) (source : String)
    (leftover : Bool) :
    run nested rounding env source ⟨[], .finished leftover⟩ =
      throw ((Error.of .nothingToDo).located source 0) :=
  rfl

end Pass

/-- An error of a text in a group, lifted out of it, or seen as one of the text
    around it and then as one of that text in parentheses. -/
theorem Error.PlacedIn.lifted_located {e : Error} {inner : String} (he : e.PlacedIn inner)
    (source text : String) (k stop : Nat) :
    (e.lifted (1 + k)).located source stop =
      ⟨(e.relocated text k).cause, some source, (e.relocated text k).cursor.map (· + 1)⟩ := by
  rcases e with ⟨cause, expr, cursor⟩
  rcases he.cursor with ⟨n, hn, _⟩
  cases hn
  simp only [lifted, located, relocated, Option.getD_some, Option.getD_none, Option.map_some,
    Nat.add_comm 1, Nat.add_assoc]

namespace Interpret

variable {config : Config} {env : Env} {text : String}

/-- An expression without tokens is an error at its start, be it blank or not. -/
theorem nested_of_nil {leftover : Bool} (h : Token.read text = ⟨[], .finished leftover⟩) (n : Nat) :
    (nested config env text).lift n = throw ⟨.nothingToDo, none, some n⟩ := by
  have hthrow : (throw ⟨.nothingToDo, none, some (0 + n)⟩ : Eval Value) =
      throw ⟨.nothingToDo, none, some n⟩ := by
    rw [Nat.zero_add]
  rw [nested_eq, ← hthrow]
  split
  · rfl
  · rw [h, Pass.run_nil]
    rfl

/-- A text in parentheses comes to what the group does. -/
theorem whole_parenthesized_eq {leftover : Bool}
    (h : (Token.read text).ending = .finished leftover)
    (hle : text.utf8ByteSize + 2 ≤ Span.limit) :
    whole config env (parenthesized text) =
      config.coerceWhole <$> ((nested config env (String.ofList (trim text.toList))).lift
        (1 + width (leading text.toList))).locate (parenthesized text) (text.utf8ByteSize + 2) := by
  have htail : TailAt (parenthesized text).toList 1 ([] ++ (text.toList ++ [')'])) :=
    ⟨['('], toList_parenthesized text, rfl⟩
  have hoffset : offsetOf (parenthesized text).toList (0 + 1)
      (String.ofList (trim text.toList)).toList = 1 + width (leading text.toList) := by
    rw [String.toList_ofList]
    exact offsetOf_trim htail (clear_nil _ _)
  rw [whole_eq, Token.read_parenthesized (Token.level_of_finished h), if_pos hle,
    Pass.run_operand _ _ _ _ rfl, Token.value_of_not_negated _ _ _ rfl, ← hoffset]
  rfl

/-- A text without tokens, in parentheses, is an error at the start of the text in
    the group. -/
theorem whole_parenthesized_of_nil {leftover : Bool}
    (h : Token.read text = ⟨[], .finished leftover⟩) (hle : text.utf8ByteSize + 2 ≤ Span.limit) :
    whole config env (parenthesized text) =
      throw ⟨.nothingToDo, some (parenthesized text), some (1 + width (leading text.toList))⟩ := by
  rcases Token.read_trim (congrArg Reading.ending h) with ⟨hending, htokens⟩
  rw [h] at htokens
  have htrim : Token.read (String.ofList (trim text.toList)) = ⟨[], .finished leftover⟩ := by
    rw [← hending, ← List.map_eq_nil_iff.mp htokens.symm]
  rw [whole_parenthesized_eq (congrArg Reading.ending h) hle, nested_of_nil htrim]
  rfl

/-- A run over a text that reads to its end and has tokens is one over the trimmed
    text, whose errors are moved. -/
theorem run_trim (config : Config) (env : Env) {leftover : Bool}
    (h : (Token.read text).ending = .finished leftover) (hne : (Token.read text).tokens ≠ []) :
    (Token.read (String.ofList (trim text.toList))).tokens ≠ [] ∧
      Pass.run (evaluator config env) config.rounding env text (Token.read text) =
        (Pass.run (evaluator config env) config.rounding env (String.ofList (trim text.toList))
          (Token.read (String.ofList (trim text.toList)))).mapError
          (.relocated text (width (leading text.toList))) := by
  have haround : text.toList = leading text.toList ++
      ((String.ofList (trim text.toList)).toList ++ trailing text.toList) := by
    rw [String.toList_ofList, leading_trim_trailing]
  rcases Token.read_trim h with ⟨hending, htokens⟩
  generalize String.ofList (trim text.toList) = inner at *
  have hinner : (Token.read inner).tokens ≠ [] := by
    intro hnil
    rw [hnil] at htokens
    exact hne htokens
  have hread : Token.read inner = ⟨(Token.read inner).tokens, .finished leftover⟩ := by
    rw [← hending]
  -- The tokens are those of the trimmed text, each moved by the same width.
  have hmoved : Token.read text = ⟨(Token.read inner).tokens.map
      (Token.shift (width (leading text.toList))), .finished leftover⟩ := by
    rw [← h, ← htokens]
  refine ⟨hinner, ?_⟩
  rw [hmoved, hread]
  refine Pass.run_relocated haround (fun t ht => ?_) hinner
  rw [evaluator, Token.map_id]
  exact Token.stands_of_mem_read ht

/-- A text with tokens, in parentheses, comes to what it comes to by itself. Its
    errors are one byte further on. -/
theorem whole_parenthesized_of_ne_nil {leftover : Bool}
    (h : (Token.read text).ending = .finished leftover) (hne : (Token.read text).tokens ≠ [])
    (hle : text.utf8ByteSize + 2 ≤ Span.limit) :
    whole config env (parenthesized text) =
      (whole config env text).mapError fun e =>
        ⟨e.cause, some (parenthesized text), e.cursor.map (· + 1)⟩ := by
  rcases run_trim config env h hne with ⟨hinner, hrun⟩
  have hblank : ¬ allBlank (String.ofList (trim text.toList)).toList = true :=
    fun hblank => hinner (Token.tokens_read_of_allBlank hblank)
  rw [whole_parenthesized_eq h hle, nested_eq, if_neg hblank, whole_eq config env text, hrun, lift,
    locate, mapError_map, mapError_map, mapError_map, mapError_mapError, mapError_mapError,
    Functor.map_map]
  simp only [Config.coerceWhole_coerceNested]
  refine congrArg (config.coerceWhole <$> ·) (mapError_congr (Q := fun _ => True) ?_)
  -- The errors of the text in the group have a place, which is moved in both cases.
  refine (run_placed config env fun s _ => nested_within config env s).mono_error fun e he => ?_
  exact he.lifted_located (parenthesized text) text (width (leading text.toList))
    (text.utf8ByteSize + 2)

/-- A text that reads to its end is transparent to parentheses. In parentheses it
    is one token, a group that holds the text without the blanks at its ends. That
    comes to what the text comes to: to the same value, however it is coerced, or to
    an error of the same cause, and it looks up and stores the same in the same order
    and leaves the same variables. An error is about the text in parentheses, and is
    placed one byte further on, except where there are no tokens: there it is placed
    at the start of the text in the group. All this is if the text in parentheses is
    not too long for the span of a token. If it is, it is not read, and the error is
    at its start. -/
theorem whole_parenthesized (config : Config) (env : Env) {text : String}
    {tokens : List (Token String)} (h : Token.readAll? text = .ok tokens) :
    (text.utf8ByteSize + 2 ≤ Span.limit →
      Token.readAll? (parenthesized text) =
          .ok [⟨.operand (.group (String.ofList (trim text.toList))), ⟨0, text.utf8ByteSize + 2⟩,
            false⟩] ∧
        whole config env (parenthesized text) =
          (whole config env text).mapError fun e =>
            ⟨e.cause, some (parenthesized text),
              e.cursor.map (· + parenthesesShift text tokens)⟩) ∧
    (Span.limit < text.utf8ByteSize + 2 →
      Token.readAll? (parenthesized text) = .error (.tooLarge 0) ∧
        whole config env (parenthesized text) =
          throw ⟨.illFormed (.fault (.tooLarge 0)), some (parenthesized text), some 0⟩) := by
  rcases Token.exists_read_of_readAll? h with ⟨leftover, hread⟩
  have hending : (Token.read text).ending = .finished leftover := congrArg Reading.ending hread
  have hlevel := Token.level_of_finished hending
  refine ⟨fun hle => ⟨?_, ?_⟩, fun hlt => ?_⟩
  · rw [Token.readAll?, Token.read_parenthesized hlevel, if_pos hle]
  · cases tokens with
    | nil =>
        rw [whole_parenthesized_of_nil hread hle, whole_eq, hread, Pass.run_nil]
        -- An empty text has no token, and its error stands at its start.
        have hshift : 0 + parenthesesShift text [] = 1 + width (leading text.toList) :=
          Nat.zero_add _
        rw [← hshift]
        rfl
    | cons t ts =>
        have hne : (Token.read text).tokens ≠ [] := by
          rw [hread]
          exact List.cons_ne_nil t ts
        exact whole_parenthesized_of_ne_nil hending hne hle
  · have hlong : Token.read (parenthesized text) = ⟨[], .fault (.tooLarge 0)⟩ := by
      rw [Token.read_parenthesized hlevel, if_neg (Nat.not_le.mpr hlt)]
    rw [Token.readAll?, whole_eq, hlong]
    exact ⟨rfl, rfl⟩

/-- In `( ')' - )` the bracket that is quoted does not close the group, and the error
    at byte 6 of ` ')' - ` is placed at byte 7. -/
theorem whole_parenthesized_quoted :
    Token.readAll? (parenthesized " ')' - ") =
        .ok [⟨.operand (.group "')' -"), ⟨0, 9⟩, false⟩] ∧
      whole {} ⟨.null, .null⟩ (parenthesized " ')' - ") =
        throw ⟨.illFormed (.missingAfter .sub), some "( ')' - )", some 7⟩ := by
  have hread : Token.read " ')' - " =
      ⟨[⟨.operand (.literal (.str ")")), ⟨1, 4⟩, false⟩, ⟨.operator .sub, ⟨5, 6⟩, false⟩],
        .finished false⟩ := by
    rw [Token.read_eq 8 (by decide)]
    with_unfolding_all rfl
  have hwhole : whole {} ⟨.null, .null⟩ " ')' - " =
      throw ⟨.illFormed (.missingAfter .sub), some " ')' - ", some 6⟩ := by
    rw [whole_eq, hread]
    with_unfolding_all rfl
  have hall : Token.readAll? " ')' - " = .ok
      [⟨.operand (.literal (.str ")")), ⟨1, 4⟩, false⟩, ⟨.operator .sub, ⟨5, 6⟩, false⟩] := by
    rw [Token.readAll?, hread]
  have hparenthesized := (whole_parenthesized {} ⟨.null, .null⟩ hall).1 (by decide)
  rw [hwhole] at hparenthesized
  exact ⟨hparenthesized.1, hparenthesized.2⟩

/-- The blanks in front of two exclamation marks are not in the group, so the error
    at the start of ` !!` is placed two bytes further on in `( !!)`, and not one. -/
theorem whole_parenthesized_marks :
    Token.readAll? " !!" = .ok [] ∧
      whole {} ⟨.null, .null⟩ (parenthesized " !!") ≠
        (whole {} ⟨.null, .null⟩ " !!").mapError fun e =>
          ⟨e.cause, some (parenthesized " !!"), e.cursor.map (· + 1)⟩ := by
  have hread : Token.read " !!" = ⟨[], .finished true⟩ := by
    rw [Token.read_eq 4 (by decide)]
    with_unfolding_all rfl
  refine ⟨by rw [Token.readAll?, hread], fun h => ?_⟩
  rw [whole_parenthesized_of_nil hread (by decide), whole_eq, hread, Pass.run_nil] at h
  have houtcome := congrArg (fun m => (m.outcome (.ofGlobals .empty)).1) h
  cases houtcome

end Interpret

end Reckon
