import Storefront.Survey.Dispatch

/-!
The report as a JSON document: the shops, the diagnostics, and about them the digest of the
directory and the counts.
-/

namespace Storefront.Report

open Storefront.Stock Storefront.Survey

/-- The version of the document's form. -/
def version : String := "0.1.0"

/-- What the document says about the rest of it. -/
def metadata (outcome : Outcome) : Json :=
  .obj [("version", .str version), ("digest", .str outcome.directory.digest),
    ("shop_count", .int outcome.directory.size),
    ("item_count", .int outcome.directory.itemCount),
    ("error_count", .int (outcome.count .error)),
    ("warning_count", .int (outcome.count .warning))]

/-- The value of an outcome. -/
def documentJson (outcome : Outcome) : Json :=
  .obj [("metadata", metadata outcome), ("shops", .arr (outcome.directory.shops.map Shop.toJson)),
    ("diagnostics", .arr (outcome.diagnostics.map Diagnostic.toJson))]

/-- The report as a document. -/
def document (outcome : Outcome) : String := (documentJson outcome).indented 0 ++ "\n"

end Storefront.Report
