import Mathlib.Data.List.Forall2
import Storefront.CommandLine.Session
import Storefront.Proofs.Branching
import Storefront.Proofs.Notes

/-!
Why no survey reports an error. The only grave diagnostic is about the table of complements: it is
made where a tag is to be negated whose partner has a code that disagrees. The codes of the table
agree throughout, so a tag that cannot be negated has no partner at all, and where a condition is
negated its code turns into the bitwise complement. Each place that negates conditions or makes a
diagnostic is followed back to this fact about the table.
-/

namespace Storefront.Guard

open Storefront.Script

/-! ### Negated conditions -/

/-- One condition negates another: the codes of their tags are each other's bitwise complement, and
their numbers are the same. -/
structure Negates (negation condition : Condition) : Prop where
  code : negation.tag.code = ~~~condition.tag.code
  param1 : negation.param1 = condition.param1
  param2 : negation.param2 = condition.param2

theorem negates_of_invert {condition negation : Condition}
    (inverts : condition.invert = .ok negation) : Negates negation condition := by
  unfold Condition.invert at inverts
  split at inverts
  · next complement found =>
    rw [Tag.complement?_eq_partner?] at found
    obtain rfl := Except.ok.inj inverts
    exact ⟨Tag.code_of_partner? found, rfl, rfl⟩
  · cases inverts

/-- A condition that cannot be negated has a tag without partner. -/
theorem partner?_of_invert {condition : Condition} {missing : NoComplement}
    (fails : condition.invert = .error missing) : missing.tag.partner? = none := by
  unfold Condition.invert at fails
  split at fails
  · cases fails
  · next alone =>
    rw [Tag.complement?_eq_partner?] at alone
    obtain rfl := Except.error.inj fails
    exact alone

/-! ### Negated guards -/

variable {catalog : Catalog}

/-- The condition of a guard with a leading `!` negates the one that is found under it. -/
theorem negates_of_recognize {operand : Expr} {negation : Condition}
    (recognized : catalog.recognize (.unary .not operand) = .ok (some negation)) :
    ∃ condition, catalog.lookup operand.stripParens = some condition ∧
      Negates negation condition := by
  unfold Catalog.recognize at recognized
  simp only [Catalog.unnegated, if_true] at recognized
  split at recognized
  · cases recognized
  · next condition found =>
    refine ⟨condition, found, ?_⟩
    cases inverts : condition.invert with
    | error missing =>
      rw [inverts] at recognized
      cases recognized
    | ok inverted =>
      rw [inverts] at recognized
      obtain rfl := Option.some.inj (Except.ok.inj recognized)
      exact negates_of_invert inverts

theorem partner?_of_recognize {guard : Expr} {missing : NoComplement}
    (fails : catalog.recognize guard = .error missing) : missing.tag.partner? = none := by
  unfold Catalog.recognize at fails
  dsimp only at fails
  split at fails
  · cases fails
  · next condition _ =>
    split at fails
    · cases inverts : condition.invert with
      | ok inverted =>
        rw [inverts] at fails
        cases fails
      | error found =>
        rw [inverts] at fails
        obtain rfl := Except.error.inj fails
        exact partner?_of_invert inverts
    · cases fails

/-- A guard that is not understood for want of a complement has met a tag without partner. -/
theorem partner?_of_decompose {guard : Expr} {fault : GuardFault}
    (fails : decompose catalog guard = .error fault) :
    ∀ missing ∈ fault.missing?, missing.tag.partner? = none := by
  fun_induction decompose catalog guard generalizing fault with
  | case1 guard condition recognized => cases fails
  | case2 guard missing refused =>
    obtain rfl := Except.error.inj fails
    rintro _ ⟨⟩
    exact partner?_of_recognize refused
  | case3 left right unrecognized onLeft onRight =>
    cases first : decompose catalog left with
    | error leftFault =>
      rw [first] at fails
      obtain rfl := Except.error.inj fails
      exact onLeft first
    | ok conditions =>
      rw [first] at fails
      cases second : decompose catalog right with
      | error rightFault =>
        rw [second] at fails
        obtain rfl := Except.error.inj fails
        exact onRight second
      | ok others =>
        rw [second] at fails
        cases fails
  | case4 guard unrecognized notAnd =>
    obtain rfl := Except.error.inj fails
    exact fun _ none => nomatch none

end Storefront.Guard

namespace Storefront.Survey

open Storefront.Guard Storefront.Script Storefront.Stock Storefront.CommandLine

/-! ### Diagnostics that are no errors -/

/-- A diagnostic is no error, and not about the table of complements. -/
def Diagnostic.Harmless (diagnostic : Diagnostic) : Prop :=
  diagnostic.kind ≠ .contractViolation ∧ diagnostic.severity ≠ .error

theorem severity_ne_error {kind : DiagnosticKind} (ordinary : kind ≠ .contractViolation) :
    kind.severity ≠ .error := by
  cases kind with
  | contractViolation => exact absurd rfl ordinary
  | _ => exact nofun

namespace Walk

variable {walk : Walk}

theorem harmless_diagnostic (kind : DiagnosticKind) (ordinary : kind ≠ .contractViolation)
    (construct message : String) : (walk.diagnostic kind construct message).Harmless :=
  ⟨ordinary, severity_ne_error ordinary⟩

theorem harmless_noteInversion {missing : NoComplement} (alone : missing.tag.partner? = none)
    (construct : String) : (walk.noteInversion construct missing).Harmless := by
  have kind : inversionKind missing = .failedInversion := by rw [inversionKind, alone]
  rw [noteInversion, kind]
  exact harmless_diagnostic .failedInversion nofun construct _

theorem harmless_rangeItems {stmt : Stmt} {range : Range} {diagnostic : Diagnostic}
    (fails : walk.rangeItems stmt range = .error diagnostic) : diagnostic.Harmless := by
  rw [rangeItems_error fails]
  exact harmless_diagnostic .malformedBound nofun _ _

theorem harmless_of_noting {stmt : Stmt} {diagnostic : Diagnostic}
    (noting : Noting walk stmt diagnostic) : diagnostic.Harmless := by
  cases noting with
  | guard member =>
    rcases mem_guardNotes member with ⟨fault, unknown, missing, isMissing, rfl⟩ | rfl
    · exact harmless_noteInversion (partner?_of_decompose unknown missing isMissing) _
    · exact harmless_diagnostic .unrecognizedGuard nofun _ _
  | inversion member =>
    obtain ⟨pushed, missing, fails, rfl⟩ := mem_inversionNotes member
    exact harmless_noteInversion (partner?_of_invert fails) _
  | label _ _ unknown member =>
    rcases mem_of_label_error unknown member with
      rfl | ⟨fault, unknown, missing, isMissing, rfl⟩ | rfl
    · exact harmless_diagnostic .unrecognizedLabel nofun _ _
    · exact harmless_noteInversion (partner?_of_decompose unknown missing isMissing) _
    · exact harmless_diagnostic .unrecognizedLabel nofun _ _
  | uncounted | unchecked _ => exact harmless_diagnostic .unrecognizedLoop nofun _ _
  | unbounded _ => exact harmless_diagnostic .malformedBound nofun _ _
  | range fails => exact harmless_rangeItems fails
  | filling fails =>
    rcases filledItems_error fails with rfl | ⟨name, bound, -, rfl | rfl | ⟨range, tooMany⟩⟩
    · exact harmless_diagnostic .unrecognizedLoop nofun _ _
    · exact harmless_diagnostic .malformedBound nofun _ _
    · exact harmless_diagnostic .malformedBound nofun _ _
    · exact harmless_rangeItems tooMany

end Walk

/-! ### Surveys -/

theorem harmless_of_sectionNoting {catalog : Catalog} {settings : Settings} {part : SwitchSection}
    {diagnostic : Diagnostic} (noting : SectionNoting catalog settings part diagnostic) :
    diagnostic.Harmless := by
  cases noting with
  | skipped refused =>
    rcases shopOfLabels_error refused with ⟨label, -, rfl | ⟨id, rfl⟩⟩ | rfl <;>
      exact ⟨nofun, nofun⟩
  | walk noted =>
    obtain ⟨stmt, -, ofStmt⟩ := noted
    exact Walk.harmless_of_noting ofStmt
  | duplicate shop => exact ⟨nofun, nofun⟩

theorem harmless_of_surveyWith (catalog : Catalog) (settings : Settings) (body : List Stmt) :
    ∀ diagnostic ∈ (surveyWith catalog settings body).diagnostics, diagnostic.Harmless := by
  intro diagnostic member
  rcases noting_of_surveyWith catalog settings body diagnostic member with
    rfl | ⟨parts, -, part, -, noting⟩
  · exact ⟨nofun, nofun⟩
  · exact harmless_of_sectionNoting noting

theorem hasErrors_eq_false {outcome : Outcome}
    (harmless : ∀ diagnostic ∈ outcome.diagnostics, diagnostic.Harmless) :
    outcome.hasErrors = false := by
  have none : outcome.count .error = 0 := by
    rw [Outcome.count, List.countP_eq_zero]
    intro diagnostic member isError
    exact (harmless diagnostic member).2 (of_decide_eq_true isError)
  rw [Outcome.hasErrors, none]
  rfl

/-- The conditions of the other side of a branch negate those of its guard that can be negated. -/
theorem negates_inverted (conditions : List Condition) :
    List.Forall₂ Negates (Walk.inverted conditions)
      (conditions.filter fun condition => condition.invert.isOk) := by
  induction conditions with
  | nil => exact .nil
  | cons condition rest inductionHypothesis =>
    rw [Walk.inverted, List.filterMap_cons, List.filter_cons]
    cases inverts : condition.invert with
    | error missing => exact inductionHypothesis
    | ok negation => exact .cons (negates_of_invert inverts) inductionHypothesis

/-- A survey reports no error, and no disagreement in the table of complements: a session ends with
code 0 even if errors count. Wherever a condition is negated, for a guard with a leading `!` or for
the other side of a branch, its code turns into the bitwise complement and its numbers stay. -/
theorem surveyWith_reports_no_error (catalog : Catalog) (settings : Settings) (body : List Stmt) :
    (∀ diagnostic ∈ (surveyWith catalog settings body).diagnostics,
        diagnostic.kind ≠ .contractViolation ∧ diagnostic.severity ≠ .error) ∧
      (surveyWith catalog settings body).hasErrors = false ∧
      (∀ arguments, exitCode arguments (surveyWith catalog settings body) = 0) ∧
      (∀ operand negation, catalog.recognize (.unary .not operand) = .ok (some negation) →
        ∃ condition, catalog.lookup operand.stripParens = some condition ∧
          Negates negation condition) ∧
      ∀ conditions, List.Forall₂ Negates (Walk.inverted conditions)
        (conditions.filter fun condition => condition.invert.isOk) := by
  have harmless := harmless_of_surveyWith catalog settings body
  have noErrors := hasErrors_eq_false harmless
  refine ⟨harmless, noErrors, fun arguments => ?_, fun _ _ => negates_of_recognize,
    negates_inverted⟩
  rw [exitCode, noErrors, Bool.and_false]
  rfl

/-- A catalog that understands Christmas too, which cannot be negated. -/
def festiveCatalog : Catalog :=
  ⟨entry .christmas "(ident xMas)", .node "ident" [.symbol "xMas"]⟩ :: dayWalk.catalog

/-- A shop with items for hard mode at Christmas, and for any other day. -/
def festiveBody : List Stmt :=
  [.switch (.ident "type") [.mk [.case (.int 1)]
    [.branch (.binary .and hardModeGuard (.ident "xMas")) (registering 1) (some (registering 2)),
      .branch (.unary .not (.ident "xMas")) (registering 3) none]]]

/-- Christmas is met twice where it would have to be negated. That is noted, and is no error. -/
theorem festive_survey_reports_no_error :
    (surveyWith festiveCatalog .standard festiveBody).diagnostics.map Diagnostic.kind =
        [.failedInversion, .failedInversion, .unrecognizedGuard] ∧
      exitCode { Arguments.none with flags := [.failOnError] }
        (surveyWith festiveCatalog .standard festiveBody) = 0 ∧
      Negates (.plain .preHardmode) (.plain .hardmode) := by
  obtain ⟨-, -, endsWell, -, negated⟩ :=
    surveyWith_reports_no_error festiveCatalog .standard festiveBody
  refine ⟨by decide +kernel, endsWell _, ?_⟩
  have sides : List.Forall₂ Negates [.plain .preHardmode] [.plain .hardmode] :=
    negated [.plain .hardmode]
  cases sides with
  | cons negates _ => exact negates

end Storefront.Survey
