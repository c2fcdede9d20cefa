import Storefront.Survey.Dispatch

/-!
The report in words: every shop with its items and their conditions, one to a line and indented by
level; the diagnostics, one to a line, after an empty line if there are any; and the counts.
-/

namespace Storefront.Report

open Storefront.Guard Storefront.Stock Storefront.Survey

/-- The line of a condition. -/
def conditionLine (condition : Condition) : String := "    " ++ condition.text

/-- The lines of an item. -/
def itemLines (item : Item) : List String :=
  ("  Item " ++ toString item.id) :: item.conditions.map conditionLine

/-- The lines of a shop. -/
def shopLines (shop : Shop) : List String :=
  ("Shop " ++ toString shop.id) :: shop.items.flatMap itemLines

/-- A number of things; the word stands for one of them. -/
def counted (count : Nat) (word : String) : String :=
  toString count ++ " " ++ word ++ if count = 1 then "" else "s"

/-- The line of the counts. -/
def countLine (outcome : Outcome) : String :=
  ", ".intercalate [counted outcome.directory.size "shop",
    counted outcome.directory.itemCount "item", counted outcome.diagnostics.length "diagnostic"]

/-- The lines of a report in words. -/
def textLines (outcome : Outcome) : List String :=
  outcome.directory.shops.flatMap shopLines ++
    (if outcome.diagnostics.isEmpty then [] else "" :: outcome.diagnostics.map Diagnostic.text) ++
    ["", countLine outcome]

/-- Lines, each with its end. -/
def joinLines (lines : List String) : String := String.join (lines.map (· ++ "\n"))

/-- The report in words. -/
def text (outcome : Outcome) : String := joinLines (textLines outcome)

end Storefront.Report
