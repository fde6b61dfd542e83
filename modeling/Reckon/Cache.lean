import Reckon.Text.Blank

/-!
# The Expression Cache

A cache keeps the trimmed form of texts that were asked for, under the text as
it was written. It holds a limited number of them, at least one; when it is
full, the one that was not asked for the longest gives way.

Entries are kept in the order in which they were last asked for, so that the
newest come first and the one that gives way is the last.

## Main definitions

* `Cache`: The entries and the counters.
* `Cache.buffer`: The trimmed form of a text.
* `Cache.clear`: Forgetting all texts.
-/

namespace Reckon

/-- Texts with their trimmed forms, and how often a text was known. -/
structure Cache where
  /-- The number of texts that may be kept. -/
  capacity : Nat
  /-- The texts kept, with their trimmed forms, the newest first. -/
  entries : List (String × String) := []
  hits : Nat := 0
  misses : Nat := 0
deriving DecidableEq, Repr, Inhabited

namespace Cache

/-- An empty cache for a number of texts, which is raised to one if it is zero. -/
def ofCapacity (capacity : Nat) : Cache := { capacity := max capacity 1 }

/-- The capacity of the cache that engines share. -/
def sharedCapacity : Nat := 1024

/-- The number of texts kept. -/
def size (c : Cache) : Nat := c.entries.length

/-- A text without the blanks at its end. -/
def trimmed (text : String) : String := String.ofList (Text.trimEnd text.toList)

/-- The trimmed form of a text, and the cache after it was asked for. -/
def buffer (c : Cache) (text : String) : String × Cache :=
  match c.entries.lookup text with
  | some form =>
    let others := c.entries.filter fun entry => entry.1 != text
    (form, { c with entries := (text, form) :: others, hits := c.hits + 1 })
  | none =>
    let form := trimmed text
    let entries := ((text, form) :: c.entries).take c.capacity
    (form, { c with entries := entries, misses := c.misses + 1 })

/-- The cache without its texts. The counters stay. -/
def clear (c : Cache) : Cache := { c with entries := [] }

end Cache

end Reckon
