import Storefront.Proofs.FollowCut
import Storefront.Proofs.FollowText
import Storefront.Proofs.Genuine

/-!
The front end never gets stuck. A text has a fault, or the machine cuts it to a list that ends with
the only mark and whose whole numbers are in range; and on every such list the machine reads a
procedure or an expression to the end, or to the fault that the readers find. Its calls and rounds
are nested no deeper than a fixed multiple of the length.
-/

namespace Storefront.Script.Cursor

end Storefront.Script.Cursor
