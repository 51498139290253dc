import StructuredLog.Proofs.Capture.DefaultHint
import StructuredLog.Proofs.Capture.Pruned
import StructuredLog.Proofs.Capture.TextLimit

/-!
The keys of dictionaries. Keys of the built-in scalar types are kept as they are, but for one thing:
texts that are destructured are shortened, which can make two of them the same. Nothing else makes
keys meet, so that a dictionary has each key once, and finds each value by its key, exactly where no
two texts among its keys are shortened to the same.
-/

namespace StructuredLog

namespace Scalar

end Scalar

namespace Value

end Value

namespace Capture

namespace Converter

section Keys

variable (c : Converter α)

variable {c} {hint : Hint} {s s' : Scalar}

variable {h : Host α} {a : α}

end Keys

/-! ### Entries of a dictionary -/

section Entries

variable {c : Converter α} {h : Host α} {a : α} {hint : Hint} {levels depth : Nat}
variable {key : α × α → Scalar} {entries : List (α × α)}

variable {nested : Nested α} {es : List (Scalar × Value)}

end Entries

end Converter

end Capture

end StructuredLog
