import Storefront.Guard.Catalog

/-!
Guards as conjunctions. A guard is tried as a whole first; failing that, an `&&` at its top is split
and both sides are taken apart in the same way. All parts must be understood, or the guard is not.
-/

namespace Storefront.Guard

open Storefront.Script

/-- The reason why a guard is not understood. -/
inductive GuardFault where
  /-- No shape accepts a part of it. -/
  | unknown
  /-- A part of it is understood and would have to be negated. -/
  | noComplement (missing : NoComplement)
  deriving DecidableEq, Repr

/-- The missing complement that a fault tells of. -/
def GuardFault.missing? : GuardFault → Option NoComplement
  | unknown => none
  | noComplement missing => some missing

/-- The conditions that a guard asks for, from left to right. -/
def decompose (catalog : Catalog) (guard : Expr) : Except GuardFault (List Condition) :=
  match catalog.recognize guard with
  | .ok (some condition) => .ok [condition]
  | .error missing => .error (.noComplement missing)
  | .ok none =>
    match guard with
    | .binary .and left right => do
      let first ← decompose catalog left
      let second ← decompose catalog right
      .ok (first ++ second)
    | _ => .error .unknown

end Storefront.Guard
