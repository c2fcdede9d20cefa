import Storefront.Report.Document
import Storefront.Report.Summary

/-!
The forms that a report may take, and their names.
-/

namespace Storefront.Report

open Storefront.Survey

/-- A form of a report. -/
inductive Format where
  | text | json | summary
  deriving DecidableEq, Repr

namespace Format

/-- Every form. -/
def all : List Format := [text, json, summary]

/-- The name of a form. -/
def name : Format → String
  | text => "text"
  | json => "json"
  | summary => "summary"

/-- The form of a name. -/
def ofName? (name : String) : Option Format := all.find? fun format => format.name == name

theorem mem_all (format : Format) : format ∈ all := by cases format <;> decide

/-- Reports an outcome. -/
def report : Format → Outcome → String
  | text => Report.text
  | json => document
  | summary => Report.summary

end Format

end Storefront.Report
