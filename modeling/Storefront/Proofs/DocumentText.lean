import Storefront.Proofs.DirectoryText
import Storefront.Report.Document

/-!
The document says what a survey found. Read back as JSON, it has the shops of the directory in the
order of their ids and the diagnostics in theirs, each with all that it is made of, and the counts
about them are those of the shops, of the items and of the diagnostics that stand in it.

Numbers are read back as long as 64 bits hold them, which the ids and the numbers of conditions do
by their type, and how many shops, items and diagnostics there are because they are in memory.
-/

namespace Storefront

open Json Stock

/-! ### Directories -/

namespace Stock.Directory

variable {directory : Directory}

theorem InRange.shops (inRange : directory.InRange) :
    ∀ shop ∈ directory.shops, AllFit shop.numbers :=
  List.forall_mem_map.mpr fun entry member => (inRange entry member).2

/-- The ids of the shops ascend, if each stands under its own. -/
theorem Keyed.ascending (keyed : directory.Keyed) :
    directory.shops.Pairwise fun first second => first.id < second.id := by
  refine List.pairwise_map.mpr (directory.ascending.imp_of_mem fun member later below => ?_)
  rwa [keyed_iff_entries.mp keyed _ member, keyed_iff_entries.mp keyed _ later]

theorem size_eq (directory : Directory) : directory.size = directory.shops.length :=
  (List.length_map _).symm

theorem itemCount_eq (directory : Directory) :
    directory.itemCount = (directory.shops.flatMap Shop.items).length := by
  rw [itemCount]
  induction directory.shops with
  | nil => rfl
  | cons shop rest inductionHypothesis =>
    rw [List.map_cons, List.foldr_cons, inductionHypothesis, List.flatMap_cons, List.length_append]
    rfl

end Stock.Directory

namespace Survey

/-! ### Diagnostics -/

/-- The severity of a name. -/
def Severity.ofName? (name : String) : Option Severity :=
  [info, warning, error].find? fun severity => severity.name == name

theorem Severity.ofName?_name (severity : Severity) : ofName? severity.name = some severity := by
  cases severity <;> rfl

/-- The kind of a name in JSON. -/
def DiagnosticKind.ofJsonName? (name : String) : Option DiagnosticKind :=
  all.find? fun kind => kind.jsonName == name

theorem DiagnosticKind.ofJsonName?_jsonName (kind : DiagnosticKind) :
    ofJsonName? kind.jsonName = some kind := by
  cases kind <;> decide

namespace Diagnostic

variable {diagnostic : Diagnostic}

/-- The diagnostic of a value. -/
def ofJson? (json : Json) : Option Diagnostic := do
  let fields ← json.fields? ["kind", "severity", "shop", "construct", "message"]
  some (.ofSeverity
    (← fields.required? "kind" fun value => value.asName?.bind DiagnosticKind.ofJsonName?)
    (← fields.required? "severity" fun value => value.asName?.bind Severity.ofName?)
    (← fields.optional? "shop" asInt?)
    (← fields.required? "construct" asText?) (← fields.required? "message" asText?))

theorem isPlain_toJson (fit : AllFit diagnostic.shop.toList) :
    diagnostic.toJson.isPlain = true := by
  obtain ⟨kind, shop, construct, message⟩ := diagnostic
  cases shop with
  | none => exact isPlain_obj ["kind", "severity", "construct", "message"] rfl (by decide) (by simp)
  | some shop =>
    obtain ⟨fits, -⟩ := allFit_cons.mp fit
    exact isPlain_obj ["kind", "severity", "shop", "construct", "message"] rfl (by decide)
      (by simp [fits])

theorem ofJson?_toJson (fit : AllFit diagnostic.shop.toList) :
    ofJson? diagnostic.toJson = some diagnostic := by
  obtain @⟨kind, shop, construct, message, ⟨severity⟩⟩ := diagnostic
  have onKind := DiagnosticKind.ofJsonName?_jsonName kind
  have onSeverity := Severity.ofName?_name severity
  cases shop with
  | none =>
    refine bind_some (fields?_obj ["kind", "severity", "construct", "message"] _ rfl (by decide)) ?_
    exact bind_some onKind (bind_some onSeverity
      (bind_some rfl (bind_some rfl (bind_some rfl rfl))))
  | some shop =>
    obtain ⟨fits, -⟩ := allFit_cons.mp fit
    have onShop : asInt? (.int shop) = some shop := asInt?_int fits
    refine bind_some
      (fields?_obj ["kind", "severity", "shop", "construct", "message"] _ rfl (by decide)) ?_
    exact bind_some onKind (bind_some onSeverity
      (bind_some (optional?_present rfl Json.noConfusion onShop)
        (bind_some rfl (bind_some rfl rfl))))

end Diagnostic

/-! ### Outcomes -/

/-- An outcome as 64 bits hold it: every number in it, and how much there is of everything. -/
structure Outcome.InRange (outcome : Outcome) : Prop where
  directory : outcome.directory.InRange
  size : fitsInt outcome.directory.size = true
  itemCount : fitsInt outcome.directory.itemCount = true
  diagnostics : ∀ diagnostic ∈ outcome.diagnostics, AllFit diagnostic.shop.toList
  diagnosticCount : fitsInt outcome.diagnostics.length = true

/-- How many diagnostics are of a severity is no more than how many there are. -/
theorem Outcome.InRange.count {outcome : Outcome} (inRange : outcome.InRange)
    (severity : Severity) : fitsInt (outcome.count severity) = true := by
  have most : outcome.count severity ≤ outcome.diagnostics.length := List.countP_le_length
  have fits := inRange.diagnosticCount
  simp only [fitsInt, Bool.and_eq_true, decide_eq_true_eq] at fits ⊢
  omega

end Survey

namespace Report

open Survey

/-! ### Documents -/

/-- What a document says. -/
structure Document where
  version : String
  digest : String
  shopCount : Int
  itemCount : Int
  errorCount : Int
  warningCount : Int
  shops : List Shop
  diagnostics : List Diagnostic

namespace Document

/-- The document of a value. -/
def ofJson? (json : Json) : Option Document := do
  let fields ← json.fields? ["metadata", "shops", "diagnostics"]
  let about ← fields.required? "metadata" fun value => value.fields?
    ["version", "digest", "shop_count", "item_count", "error_count", "warning_count"]
  some ⟨← about.required? "version" asText?, ← about.required? "digest" asText?,
    ← about.required? "shop_count" asInt?, ← about.required? "item_count" asInt?,
    ← about.required? "error_count" asInt?, ← about.required? "warning_count" asInt?,
    ← fields.required? "shops" fun value => value.asList? Shop.ofJson?,
    ← fields.required? "diagnostics" fun value => value.asList? Diagnostic.ofJson?⟩

/-- The document of a text. -/
def ofText? (text : String) : Option Document := (Json.parse? text).bind ofJson?

/-- What is said of an outcome. -/
def ofOutcome (outcome : Outcome) : Document where
  version := Report.version
  digest := outcome.directory.digest
  shopCount := outcome.directory.size
  itemCount := outcome.directory.itemCount
  errorCount := outcome.count .error
  warningCount := outcome.count .warning
  shops := outcome.directory.shops
  diagnostics := outcome.diagnostics

variable {outcome : Outcome}

theorem isPlain_metadata (inRange : outcome.InRange) : (metadata outcome).isPlain = true := by
  refine isPlain_obj
    ["version", "digest", "shop_count", "item_count", "error_count", "warning_count"] rfl
    (by decide) ?_
  simp [inRange.size, inRange.itemCount, inRange.count]

theorem isPlain_documentJson (inRange : outcome.InRange) :
    (documentJson outcome).isPlain = true := by
  have shops := isPlain_map fun shop member => isPlain_shop (inRange.directory.shops shop member)
  have diagnostics := isPlain_map fun diagnostic member =>
    Diagnostic.isPlain_toJson (inRange.diagnostics diagnostic member)
  refine isPlain_obj ["metadata", "shops", "diagnostics"] rfl (by decide) ?_
  simp [isPlain_metadata inRange, shops, diagnostics]

/-- What a document says is what is said of the outcome. -/
theorem ofJson?_documentJson (inRange : outcome.InRange) :
    ofJson? (documentJson outcome) = some (ofOutcome outcome) := by
  have size : asInt? (.int outcome.directory.size) = some outcome.directory.size :=
    asInt?_int inRange.size
  have itemCount : asInt? (.int outcome.directory.itemCount) = some outcome.directory.itemCount :=
    asInt?_int inRange.itemCount
  have count (severity : Severity) :
      asInt? (.int (outcome.count severity)) = some (outcome.count severity) :=
    asInt?_int (inRange.count severity)
  have shops : asList? Shop.ofJson? (.arr (outcome.directory.shops.map Shop.toJson)) =
      some outcome.directory.shops :=
    asList?_map fun shop member => ofJson?_shop (inRange.directory.shops shop member)
  have diagnostics : asList? Diagnostic.ofJson?
      (.arr (outcome.diagnostics.map Diagnostic.toJson)) = some outcome.diagnostics :=
    asList?_map fun diagnostic member =>
      Diagnostic.ofJson?_toJson (inRange.diagnostics diagnostic member)
  refine bind_some (fields?_obj ["metadata", "shops", "diagnostics"] _ rfl (by decide)) ?_
  refine bind_some (fields?_obj
    ["version", "digest", "shop_count", "item_count", "error_count", "warning_count"] _ rfl
    (by decide)) ?_
  exact bind_some rfl (bind_some rfl (bind_some (required?_present rfl size)
    (bind_some (required?_present rfl itemCount)
      (bind_some (required?_present rfl (count .error))
        (bind_some (required?_present rfl (count .warning))
          (bind_some shops (bind_some diagnostics rfl)))))))

theorem ofText?_document (inRange : outcome.InRange) :
    ofText? (document outcome) = some (ofOutcome outcome) :=
  bind_some (parse?_indented (isPlain_documentJson inRange)) (ofJson?_documentJson inRange)

end Document

/-- The document of shops that were put together, and of any diagnostics, is read back with these
shops in ascending order of their ids and with these diagnostics; and it counts the shops, the items
and the diagnostics that stand in it. -/
theorem document_read_back (shops : List Shop) (diagnostics : List Diagnostic)
    (inRange : Outcome.InRange ⟨.ofShops shops, diagnostics⟩) :
    ∃ read, Document.ofText? (document ⟨.ofShops shops, diagnostics⟩) = some read ∧
      read.shops = (Directory.ofShops shops).shops ∧
      read.shops.Pairwise (fun first second => first.id < second.id) ∧
      read.diagnostics = diagnostics ∧
      read.shopCount = read.shops.length ∧
      read.itemCount = (read.shops.flatMap Shop.items).length ∧
      read.errorCount = read.diagnostics.countP (fun found => found.severity = .error) ∧
      read.warningCount = read.diagnostics.countP (fun found => found.severity = .warning) := by
  have ascending := (Directory.keyed_ofShops shops).ascending
  refine ⟨_, Document.ofText?_document inRange, rfl, ascending, rfl, ?_, ?_, rfl, rfl⟩
  · exact congrArg Nat.cast (Directory.size_eq _)
  · exact congrArg Nat.cast (Directory.itemCount_eq _)

/-- Diagnostics with characters that must be escaped, and one that is graver than its kind. -/
def oddDiagnostics : List Diagnostic :=
  [⟨.unrecognizedGuard, some (-7), "a\"b\\c\x01\x1f\n\t", "\x7f\u00e9\u2028"⟩,
    .ofSeverity .excludedShop .error none "" ",\n  ]"]

theorem document_read_back_odd : ∃ read,
    Document.ofText? (document ⟨.ofShops Directory.extremes, oddDiagnostics⟩) = some read ∧
      read.shops.map Shop.id = [1, 3] ∧ read.diagnostics = oddDiagnostics ∧ read.shopCount = 2 ∧
      read.itemCount = 2 ∧ read.errorCount = 1 ∧ read.warningCount = 1 := by
  have inRange : Outcome.InRange ⟨.ofShops Directory.extremes, oddDiagnostics⟩ :=
    ⟨Directory.inRange_ofShops (by decide), by decide, by decide, by decide, by decide⟩
  obtain ⟨read, found, shops, -, diagnostics, shopCount, itemCount, errors, warnings⟩ :=
    document_read_back Directory.extremes oddDiagnostics inRange
  rw [diagnostics] at errors warnings
  rw [shops] at shopCount itemCount
  exact ⟨read, found, by rw [shops]; rfl, diagnostics, shopCount, itemCount, errors, warnings⟩

end Report

end Storefront
