import Reckon.Pattern.Basic
import Reckon.Text.Utf8Range

/-!
# Simplified Patterns

A pattern as a search automaton is built from it. Notation that makes no
difference is gone: sequences are flat and hold no empty part, neighbouring
characters are one literal text, alternatives of single characters are one set,
and what all alternatives begin with stands before them once.

`Shape.of` simplifies from the inside out. The functions that build a shape from
smaller ones (`Shape.append`, `Shape.either`, `Shape.repeated`) keep it
simplified.

## Main definitions

* `Shape`: Simplified patterns.
* `Shape.minLength`, `Shape.maxLength`: The least and the greatest number of bytes
  in a match.
* `Shape.either`: Alternatives.
* `Shape.of`: The simplified form of a pattern.
-/

namespace Reckon

/-- A simplified pattern. -/
inductive Shape where
  | empty
  /-- Characters one after another, at least one. -/
  | literal (text : List Char)
  /-- One character of a set, which has no members or several. -/
  | set (points : Text.RangeSet)
  | at (condition : Condition)
  /-- A part that is no sequence itself, and the rest of the sequence. -/
  | cat (first rest : Shape)
  /-- An alternative that has no alternatives itself, and the other ones. -/
  | alt (first rest : Shape)
  | times (body : Shape) (least : Nat) (most : Option Nat)
  /-- A group that captures. -/
  | capture (number : Nat) (body : Shape)
deriving DecidableEq, Repr, Inhabited

namespace Shape

/-- The number of bytes that encode a text. -/
def byteLength (text : List Char) : Nat :=
  text.foldr (fun c n => Text.Utf8.byteCount c.toNat + n) 0

/-- The sum of two lengths, if there are both. -/
def addLengths (a b : Option Nat) : Option Nat :=
  a.bind fun a => b.map fun b => a + b

/-- The least number of bytes in a match; `none` if nothing matches. -/
def minLength : Shape → Option Nat
  | empty => some 0
  | literal text => some (byteLength text)
  | set points => points.head?.map fun range => Text.Utf8.byteCount range.1
  | .at _ => some 0
  | cat a b => addLengths a.minLength b.minLength
  | alt a b => a.minLength.bind fun a => b.minLength.map fun b => min a b
  | times body least _ => body.minLength.map (· * least)
  | capture _ body => body.minLength

/-- The greatest number of bytes in a match; `none` if nothing matches or there is
    no bound. -/
def maxLength : Shape → Option Nat
  | empty => some 0
  | literal text => some (byteLength text)
  | set points => points.getLast?.map fun range => Text.Utf8.byteCount range.2
  | .at _ => some 0
  | cat a b => addLengths a.maxLength b.maxLength
  | alt a b => a.maxLength.bind fun a => b.maxLength.map fun b => max a b
  | times body _ most => body.maxLength.bind fun length => most.map fun most => length * most
  | capture _ body => body.maxLength

/-- One character of a set. A set of one character is that character. -/
def ofPoints (points : Text.RangeSet) : Shape :=
  match points with
  | [(first, last)] => if first = last then literal [Char.ofNat first] else set points
  | _ => set points

/-- The parts of a sequence. -/
def parts : Shape → List Shape
  | empty => []
  | cat a b => a :: b.parts
  | s => [s]

/-- A part in front of a sequence. Neighbouring literals become one. -/
def cons : Shape → Shape → Shape
  | s, empty => s
  | literal t, literal u => literal (t ++ u)
  | literal t, cat (literal u) rest => cat (literal (t ++ u)) rest
  | s, rest => cat s rest

/-- One sequence after another. -/
def append (a b : Shape) : Shape := a.parts.foldr cons b

/-- The sequence of some parts. -/
def ofParts (parts : List Shape) : Shape := parts.foldr cons empty

/-- The alternatives of a shape, itself if it has none. -/
def alternatives : Shape → List Shape
  | alt a b => a :: b.alternatives
  | s => [s]

/-- The shape that has some alternatives. -/
def ofAlternatives : List Shape → Shape
  | [] => set []
  | [s] => s
  | s :: rest => alt s (ofAlternatives rest)

/-- The one character that a shape is, as a set. -/
def character? : Shape → Option Text.RangeSet
  | literal [c] => some [(c.toNat, c.toNat)]
  | _ => none

/-- The set that a shape is one character of. -/
def points? : Shape → Option Text.RangeSet
  | set points => some points
  | _ => none

/-- The union of the sets that all of some shapes stand for; `none` if one of them
    stands for no set. -/
def unite? (read : Shape → Option Text.RangeSet) (shapes : List Shape) :
    Option Text.RangeSet :=
  (shapes.mapM read).map fun sets => sets.foldr Text.RangeSet.union []

/-- The longest list that two lists begin with. -/
def commonStart : List Shape → List Shape → List Shape
  | a :: as, b :: bs => if a = b then a :: commonStart as bs else []
  | _, _ => []

/-- The parts of a sequence of two or more. -/
def sequenceParts : Shape → List Shape
  | cat a b => a :: b.parts
  | _ => []

/-- The parts that all of some sequences begin with. -/
def sharedStart : List Shape → List Shape
  | [] => []
  | s :: rest => rest.foldl (fun start t => commonStart start t.sequenceParts) s.sequenceParts

/-- The set that alternatives stand for together, where all are single characters
    or all are sets. -/
def united? (shapes : List Shape) : Option Text.RangeSet :=
  unite? character? shapes <|> unite? points? shapes

/-- Alternatives with no common start. -/
def choose (shapes : List Shape) : Shape :=
  match united? shapes with
  | some points => ofPoints points
  | none => ofAlternatives shapes

/-- Alternatives, with what they all begin with put in front. What is left of
    them then has no common start. -/
def either (shapes : List Shape) : Shape :=
  match shapes.flatMap alternatives with
  | [s] => s
  | flat =>
    let start := sharedStart flat
    if start.isEmpty || (united? flat).isSome then choose flat
    else
      let rests := flat.map fun s => ofParts (s.sequenceParts.drop start.length)
      append (ofParts start) (choose (rests.flatMap alternatives))

/-- A repetition. What matches no character need not be repeated more than once,
    and repetition once changes nothing. -/
def repeated (body : Shape) (least : Nat) (most : Option Nat) : Shape :=
  let (least, most) :=
    if body.maxLength = some 0 then (min least 1, some (min (most.getD 1) 1)) else (least, most)
  if most = some 0 then empty
  else if least = 1 ∧ most = some 1 then body
  else times body least most

/-- The simplified forms of the alternatives of a pattern. -/
def forms : Pattern → List Shape
  | .empty => [empty]
  | .set s => [ofPoints s.points]
  | .at condition => [.at condition]
  | .cat a b => [append (either (forms a)) (either (forms b))]
  | .alt a b => either (forms a) :: forms b
  | .times body least most => [repeated (either (forms body)) least most]
  | .group none body => [either (forms body)]
  | .group (some number) body => [capture number (either (forms body))]

/-- The simplified form of a pattern. -/
def of (p : Pattern) : Shape := either (forms p)

end Shape

end Reckon
