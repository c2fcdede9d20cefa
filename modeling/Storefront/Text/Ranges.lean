/-!
Sets of characters given as ascending ranges of code points. Every character class that reaches
beyond ASCII is such a table of a published Unicode property.
-/

namespace Storefront.Text

/-- Ranges of code points, both ends included. -/
abbrev Ranges := List (Nat × Nat)

/-- Whether a character lies in one of the ranges. -/
def Ranges.covers (ranges : Ranges) (c : Char) : Bool :=
  ranges.any fun range => decide (range.1 ≤ c.toNat) && decide (c.toNat ≤ range.2)

/-- The ranges with both neighbours in order: each ends before the next one starts. -/
def Ranges.ascending : Ranges → Bool
  | [] => true
  | [range] => decide (range.1 ≤ range.2)
  | range :: next :: rest =>
    decide (range.1 ≤ range.2) && decide (range.2 < next.1) && ascending (next :: rest)

end Storefront.Text
