import Storefront.Report.Text

/-!
The report in figures: a line for each shop, and one for all of them.
-/

namespace Storefront.Report

open Storefront.Stock Storefront.Survey

/-- A text with blanks before it, so that it has at least the given width. -/
def alignRight (width : Nat) (text : String) : String :=
  "".pushn ' ' (width - text.length) ++ text

/-- The line of a shop. -/
def shopFigures (shop : Shop) : String :=
  "shop " ++ alignRight 3 (toString shop.id) ++ ": " ++
    alignRight 3 (toString shop.items.length) ++ " items (" ++
    toString (shop.items.countP fun item => !item.conditions.isEmpty) ++ " conditional)"

/-- The line of all shops together. -/
def totalFigures (outcome : Outcome) : String :=
  "total: " ++ toString outcome.directory.size ++ " shops, " ++
    toString outcome.directory.itemCount ++ " items, " ++
    toString (outcome.count .error) ++ " errors, " ++
    toString (outcome.count .warning) ++ " warnings"

/-- The report in figures. -/
def summary (outcome : Outcome) : String :=
  joinLines (outcome.directory.shops.map shopFigures ++ [totalFigures outcome])

end Storefront.Report
