import Storefront.Guard.Catalog
import Storefront.Report.Summary

/-!
Listings of what is known beforehand: the tags and their complements, and the shapes of guards.
-/

namespace Storefront.Report

open Storefront.Guard

/-- The line of a tag: its code, its name, and its complement after a mark. -/
def tagLine (tag : Tag) : String :=
  alignRight 5 (toString tag.code) ++ "  " ++ tag.name ++
    match tag.complement? with
    | some complement => "  !" ++ complement.name
    | none => ""

/-- The lines of all tags, in ascending order of their codes. -/
def tagLines : List String :=
  (Tag.all.mergeSort fun first second => first.code ≤ second.code).map tagLine

/-- The line of a shape. -/
def shapeLine (shape : Shape) : String := shape.entry.tag.name ++ ": " ++ shape.entry.pattern

/-- The lines of the shapes of a catalog, in the order in which they are tried. -/
def shapeLines (catalog : Catalog) : List String := catalog.map shapeLine

end Storefront.Report
