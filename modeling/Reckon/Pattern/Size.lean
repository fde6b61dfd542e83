import Reckon.Pattern.Shape

/-!
# Sizes of Search Automata

How many bytes the automaton that searches for a pattern takes. The automaton
reads bytes. A repetition with a count is written out, so a short notation can
stand for a large automaton, and a pattern whose automaton is too large is refused
before any text is looked at.

Every state takes `stateSize` bytes. A state from which the automaton can go on in
several ways without reading takes `branchSize` more for each of them, and a state
that tells ranges of bytes apart `rangeSize` more for each range. A pattern is
searched for in two directions: forward, where the places of groups are noted, and
backward, where they are not. Sets of characters are laid out differently for
the two.

## Main definitions

* `Shape.Direction`: The directions.
* `Shape.size`: The size of the automaton of a shape on its own.
* `Shape.automatonSize`: The size of the whole automaton.
* `Pattern.fits`: Whether the automata of a pattern are small enough.
-/

namespace Reckon

namespace Shape

/-- The direction in which a text is read. -/
inductive Direction where
  | forward
  | backward
deriving DecidableEq, Repr, Inhabited

/-- The bytes that a state takes. -/
def stateSize : Nat := 32

/-- The bytes that a way on without reading takes. -/
def branchSize : Nat := 4

/-- The bytes that a range takes in a state that tells several apart. -/
def rangeSize : Nat := 8

/-- A sum. -/
def total (sizes : List Nat) : Nat := sizes.foldr (· + ·) 0

/-- Sequences grouped by their first member, where equal ones stand together; each
    group without that member. -/
def tails {α : Type} [DecidableEq α] (sequences : List (List α)) : List (List (List α)) :=
  (sequences.splitBy fun s t => s.head? = t.head?).map fun group => group.map (·.drop 1)

/-- The states that read some sequences of byte ranges in order, none of them
    longer than `depth`. A state is told by what it still has to read. -/
def readers (depth : Nat) (sequences : List (List Text.ByteRange)) :
    List (List (List Text.ByteRange)) :=
  match depth with
  | 0 => []
  | depth + 1 =>
    if sequences.all (·.isEmpty) then []
    else sequences :: (tails sequences).flatMap (readers depth)

/-- The number of different starts of some sequences, none of them longer than
    `depth`. -/
def startCount {α : Type} [DecidableEq α] (depth : Nat) (sequences : List (List α)) : Nat :=
  match depth with
  | 0 => 0
  | depth + 1 =>
    total ((tails (sequences.filter (!·.isEmpty))).map fun group => 1 + startCount depth group)

/-- The size for one character of a set. ASCII characters are read in one state.
    For others a forward automaton shares states that have the same left to read,
    and a backward one shares states that have read the same. -/
def setSize (direction : Direction) (points : Text.RangeSet) : Nat :=
  if points.all fun range => range.2 < 0x80 then 2 * stateSize + rangeSize * points.length
  else
    let sequences := points.flatMap fun range => Text.Utf8.encodings range.1 range.2
    match direction with
    | .forward =>
      let sizes := (readers 4 sequences).eraseDups.map fun state =>
        stateSize + rangeSize * (tails state).length
      stateSize + total sizes
    | .backward =>
      2 * stateSize + stateSize * startCount 4 sequences + branchSize * sequences.length

/-- The texts that a word list has after each of the bytes it begins with. -/
def follow {α : Type} [DecidableEq α] (words : List (List α)) : List (List (List α)) :=
  (words.filterMap (·.head?)).eraseDups.map fun first =>
    words.filterMap fun word => if word.head? = some first then some (word.drop 1) else none

/-- The words between those that are empty. -/
def betweenEmpty {α : Type} : List (List α) → List (List (List α))
  | [] => [[]]
  | [] :: words => [] :: betweenEmpty words
  | word :: words =>
    match betweenEmpty words with
    | [] => [[word]]
    | chunk :: chunks => (word :: chunk) :: chunks

/-- The size of a tree that tells words apart byte by byte, none of them longer
    than `depth`, without the place where they all end. A word that ends inside the
    tree parts what was added before it from what comes after. -/
def treeSize {α : Type} [DecidableEq α] (depth : Nat) (words : List (List α)) : Nat :=
  match depth with
  | 0 => 0
  | depth + 1 =>
    if words.all (·.isEmpty) then 0
    else
      -- Of words that end before any other was added, the first one counts.
      let ended := words.takeWhile (·.isEmpty)
      let chunks := betweenEmpty (ended.take 1 ++ words.drop ended.length)
      let read := (chunks.map follow).filter (!·.isEmpty)
      let sizes := read.map fun groups =>
        (if groups.length = 1 then stateSize else stateSize + rangeSize * groups.length) +
          total (groups.map (treeSize depth))
      stateSize + branchSize * (read.length + (chunks.length - 1)) + total sizes

/-- The bytes of a text in the order in which they are read. -/
def bytes (direction : Direction) (text : List Char) : List UInt8 :=
  let all := text.flatMap String.utf8EncodeChar
  match direction with
  | .forward => all
  | .backward => all.reverse

/-- The text that a shape is. -/
def text? : Shape → Option (List Char)
  | literal text => some text
  | _ => none

/-- The size of alternatives, given the sizes of each. Texts share what they begin
    with. -/
def alternativesSize (direction : Direction) (shapes : List Shape) (sizes : List Nat) : Nat :=
  match sizes, shapes.mapM text? with
  | [size], _ => size
  | _, some texts =>
    let words := texts.map (bytes direction)
    let depth := words.foldr (fun word n => max word.length n) 0
    stateSize + treeSize (depth + 1) words
  | _, none => 2 * stateSize + branchSize * sizes.length + total sizes

/-- The size of a repetition, given that of what is repeated and whether this
    reads at least one byte. -/
def timesSize (size : Nat) (reads : Bool) (least : Nat) (most : Option Nat) : Nat :=
  match least, most with
  | 0, some 1 => 2 * stateSize + 2 * branchSize + size
  | 0, none =>
    if reads then stateSize + 2 * branchSize + size
    else 3 * stateSize + 4 * branchSize + size
  | _, none => least * size + stateSize + 2 * branchSize
  | _, some most =>
    if least = most then least * size
    else
      (if least = 0 then stateSize else least * size) + stateSize +
        (most - least) * (stateSize + 2 * branchSize + size)

/-- The sizes of the alternatives of a shape. -/
def sizes (direction : Direction) : Shape → List Nat
  | empty => [stateSize]
  | literal text => [stateSize * byteLength text]
  | set points => [setSize direction points]
  | .at _ => [stateSize]
  | cat a b =>
    [alternativesSize direction a.alternatives (sizes direction a) +
      alternativesSize direction b.alternatives (sizes direction b)]
  | alt a b => alternativesSize direction a.alternatives (sizes direction a) :: sizes direction b
  | times body least most =>
    let size := alternativesSize direction body.alternatives (sizes direction body)
    [timesSize size (body.minLength.any (0 < ·)) least most]
  | capture _ body =>
    let size := alternativesSize direction body.alternatives (sizes direction body)
    match direction with
    | .forward => [2 * stateSize + size]
    | .backward => [size]

/-- The size of the automaton of a shape on its own. -/
def size (direction : Direction) (s : Shape) : Nat :=
  alternativesSize direction s.alternatives (s.sizes direction)

/-- Whether every match begins with a check for the start of the text. -/
def startsAtTextStart : Shape → Bool
  | .at condition => condition = .textStart
  | cat a b => a.startsAtTextStart || (a.maxLength = some 0 && b.startsAtTextStart)
  | alt a b => a.startsAtTextStart && b.startsAtTextStart
  | times body least _ => 0 < least && body.startsAtTextStart
  | capture _ body => body.startsAtTextStart
  | _ => false

/-- Whether every match ends with a check for the end of the text. -/
def endsAtTextEnd : Shape → Bool
  | .at condition => condition = .textEnd
  | cat a b => b.endsAtTextEnd || (b.maxLength = some 0 && a.endsAtTextEnd)
  | alt a b => a.endsAtTextEnd && b.endsAtTextEnd
  | times body least _ => 0 < least && body.endsAtTextEnd
  | capture _ body => body.endsAtTextEnd
  | _ => false

/-- The size of the whole automaton. Where a match may begin at any place, a loop
    that reads any byte comes first. -/
def automatonSize (direction : Direction) (s : Shape) : Nat :=
  let anchored := match direction with
    | .forward => s.startsAtTextStart
    | .backward => s.endsAtTextEnd
  let start := if anchored then stateSize
    else timesSize (2 * stateSize + rangeSize) true 0 none
  let noted := match direction with
    | .forward => 2 * stateSize
    | .backward => 0
  start + noted + s.size direction + stateSize

end Shape

namespace Pattern

/-- The greatest size of an automaton: ten mebibytes. -/
def sizeLimit : Nat := 10 * 1048576

/-- Whether the automata of a pattern are small enough. -/
def fits (p : Pattern) : Bool :=
  let shape := Shape.of p
  shape.automatonSize .forward ≤ sizeLimit && shape.automatonSize .backward ≤ sizeLimit

end Pattern

end Reckon
