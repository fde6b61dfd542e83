import Reckon.Decimal.Rounding

/-!
# Configuration

What an engine can be told: whether every result becomes a boolean, how
division rounds, whether whole decimals stay decimals, and where the texts of
expressions are kept.

## Main definitions

* `Config`: The settings, whose defaults are the default settings.
* `CacheMode`: Where texts are kept.
-/

namespace Reckon

/-- Where an engine keeps the texts of expressions. -/
inductive CacheMode where
  /-- In a cache of its own, of a given capacity. -/
  | own (capacity : Nat)
  /-- In the one cache that all engines of this mode share. -/
  | shared
deriving DecidableEq, Repr, Inhabited

/-- The capacity of an engine's own cache. -/
def CacheMode.defaultCapacity : Nat := 256

/-- The settings of an engine. -/
structure Config where
  /-- Whether every result becomes a boolean. -/
  booleanMode : Bool := false
  /-- How division rounds. -/
  rounding : Rounding := .halfDown
  /-- Whether whole decimals stay decimals. -/
  returnDecimal : Bool := false
  cache : CacheMode := .own CacheMode.defaultCapacity
deriving DecidableEq, Repr, Inhabited

end Reckon
