import Reckon.Pattern.Flags

/-!
# Escapes in Patterns

What a backslash and the characters after it stand for: a character, a class of
characters, or a condition on a place.

* `\d`, `\s` and `\w` are classes, and in capitals their complements;
* `\p` with a letter, or with a name in braces, is the class of the characters that
  have a property, and `\P` its complement;
* `\b`, `\B`, `\<`, `\>` and `\b` with a name in braces are conditions on words,
  `\A` and `\z` are the ends of the text;
* `\x`, `\u` and `\U` give a code point in two, four or eight hexadecimal digits,
  or in any number of them in braces;
* six letters stand for control characters, and every ASCII character that is
  neither a letter nor a digit stands for itself.

## Main definitions

* `Pattern.Escape`: What an escape stands for.
* `Pattern.escape?`: Reads an escape.
-/

namespace Reckon

namespace Pattern

/-- What an escape stands for. -/
inductive Escape where
  | literal (c : Char)
  | set (s : CharSet)
  | at (condition : Condition)
deriving Inhabited

/-- The value of a hexadecimal digit. -/
def hexValue? (c : Char) : Option Nat :=
  if c.isDigit then some (c.toNat - '0'.toNat)
  else if 'a' ≤ c && c ≤ 'f' then some (c.toNat - 'a'.toNat + 10)
  else if 'A' ≤ c && c ≤ 'F' then some (c.toNat - 'A'.toNat + 10)
  else none

/-- The number that a row of one or more hexadecimal digits stands for. -/
def hexNumber? (cs : List Char) : Option Nat :=
  if cs.isEmpty then none
  else cs.foldlM (fun n c => (hexValue? c).map (16 * n + ·)) 0

/-- The character with a given code point, if it has one. -/
def scalar? (n : Nat) : Option Char :=
  if n.isValidChar then some (Char.ofNat n) else none

/-- A given number of characters, and what follows them. What is skipped may
    stand after each of them. -/
def characters? (flags : Flags) : Nat → List Char → Option (List Char × List Char)
  | 0, cs => some ([], cs)
  | _ + 1, [] => none
  | n + 1, c :: cs =>
    (characters? flags n (flags.skip cs)).map fun (taken, rest) => (c :: taken, rest)

/-- The character that a code point in hexadecimal digits stands for: `digits`
    of them, or any number in braces. Two digits are the value of a byte where
    the alphabet is ASCII. -/
def hexEscape? (flags : Flags) (digits : Nat) (cs : List Char) :
    Option (Escape × List Char) :=
  match flags.skip cs with
  | '\x7b' :: cs =>
    match flags.take (fun c => (hexValue? c).isSome) (flags.skip cs) with
    | (number, '\x7d' :: tail) =>
      (hexNumber? number).bind fun n => (scalar? n).map fun c => (.literal c, tail)
    | _ => none
  | cs =>
    (characters? flags digits cs).bind fun (number, tail) =>
      (hexNumber? number).bind fun n =>
        (scalar? n).bind fun c =>
          if digits = 2 && !flags.admits c then none else some (.literal c, tail)

/-- The condition that a backslash and `b` stand for, with what follows. A name
    in braces makes the condition one-sided. -/
def wordEdge? (flags : Flags) (cs : List Char) : Option (Escape × List Char) :=
  match cs with
  | '\x7b' :: body =>
    match flags.take (fun c => c.isAlpha || c == '-') (flags.skip body) with
    | ([], _) => some (.at (.wordEdge flags.alphabet), cs)
    | (name, '\x7d' :: tail) =>
      match String.ofList name with
      | "start" => some (.at (.wordStart flags.alphabet), tail)
      | "end" => some (.at (.wordEnd flags.alphabet), tail)
      | "start-half" => some (.at (.noWordBefore flags.alphabet), tail)
      | "end-half" => some (.at (.noWordAfter flags.alphabet), tail)
      | _ => none
    | _ => none
  | _ => some (.at (.wordEdge flags.alphabet), cs)

/-- The parts of a text before and after a mark of one or more characters; `none`
    if the mark does not occur. -/
def splitAt? (mark : List Char) : List Char → Option (List Char × List Char)
  | [] => none
  | c :: cs =>
    if mark.isPrefixOf (c :: cs) then some ([], (c :: cs).drop mark.length)
    else (splitAt? mark cs).map fun (before, after) => (c :: before, after)

/-- The property that a text in braces stands for: a name, or a name and a value.
    The sign between these makes no difference. -/
def property? (text : List Char) : Option Text.CharProperty :=
  match splitAt? ['!', '='] text <|> splitAt? [':'] text <|> splitAt? ['='] text with
  | some (name, value) => Text.CharProperty.ofValue? (Text.looseName name) (Text.looseName value)
  | none => Text.CharProperty.ofName? (Text.looseName text)

/-- The class of a property, or its complement. There are properties in Unicode
    only. -/
def propertyClass? (flags : Flags) (negated : Bool) (cs : List Char) :
    Option (Escape × List Char) :=
  let class? (text tail : List Char) : Option (Escape × List Char) :=
    match flags.alphabet with
    | .ascii => none
    | .unicode =>
      (property? text).bind fun p =>
        (flags.complIf? negated (flags.close (.property p))).map fun s => (.set s, tail)
  match flags.skip cs with
  | [] => none
  | '\x7b' :: cs =>
    match flags.take (· != '\x7d') (flags.skip cs) with
    | (text, '\x7d' :: tail) => class? text tail
    | _ => none
  | c :: tail => class? [c] tail

/-- The control character that a letter stands for after a backslash. -/
def control? : Char → Option Char
  | 'a' => some '\x07'
  | 'f' => some '\x0c'
  | 't' => some '\t'
  | 'n' => some '\n'
  | 'r' => some '\r'
  | 'v' => some '\x0b'
  | _ => none

/-- What a backslash and what follows it stand for, with what follows that. -/
def escape? (flags : Flags) : List Char → Option (Escape × List Char)
  | [] => none
  | c :: cs =>
    let class? (negated : Bool) (s : CharSet) : Option (Escape × List Char) :=
      (flags.complIf? negated s).map fun s => (.set s, cs)
    match c with
    | 'd' => class? false flags.alphabet.digit
    | 'D' => class? true flags.alphabet.digit
    | 's' => class? false flags.alphabet.space
    | 'S' => class? true flags.alphabet.space
    | 'w' => class? false flags.alphabet.word
    | 'W' => class? true flags.alphabet.word
    | 'p' => propertyClass? flags false cs
    | 'P' => propertyClass? flags true cs
    | 'x' => hexEscape? flags 2 cs
    | 'u' => hexEscape? flags 4 cs
    | 'U' => hexEscape? flags 8 cs
    | 'A' => some (.at .textStart, cs)
    | 'z' => some (.at .textEnd, cs)
    | 'b' => wordEdge? flags cs
    | 'B' => some (.at (.noWordEdge flags.alphabet), cs)
    | '<' => some (.at (.wordStart flags.alphabet), cs)
    | '>' => some (.at (.wordEnd flags.alphabet), cs)
    | _ =>
      if c.toNat < 0x80 && !c.isAlphanum then some (.literal c, cs)
      else (control? c).map fun d => (.literal d, cs)

end Pattern

end Reckon
