import Storefront.Proofs.Sections

/-!
Where diagnostics come from. Every diagnostic of a walk is the note of one statement: of a branch
whose guard is not understood or cannot be negated, of a nested switch with a label that is not
understood, or of a loop that stands for no range of items. The statement stands somewhere in the
procedure, so what holds of the notes of all statements holds of all diagnostics. A survey adds a
diagnostic of its own for a section that sets up no shop, for a number that is taken, and for a
procedure without shops.
-/

namespace Storefront.Script

/-! ### Statements within statements -/

mutual

/-- A statement and all statements within it. -/
def Stmt.nodes : Stmt → List Stmt
  | .block body => .block body :: nodesOf body
  | .branch condition whenTrue none => .branch condition whenTrue none :: whenTrue.nodes
  | .branch condition whenTrue (some whenFalse) =>
    .branch condition whenTrue (some whenFalse) :: (whenTrue.nodes ++ whenFalse.nodes)
  | .switch scrutinee sections => .switch scrutinee sections :: nodesOfSections sections
  | .forLoop init condition step body => .forLoop init condition step body :: body.nodes
  | .whileLoop condition body => .whileLoop condition body :: body.nodes
  | .doWhile body condition => .doWhile body condition :: body.nodes
  | .foreach type name iterated body => .foreach type name iterated body :: body.nodes
  | stmt => [stmt]

/-- The nodes of statements one after the other. -/
def nodesOf : List Stmt → List Stmt
  | [] => []
  | stmt :: rest => stmt.nodes ++ nodesOf rest

/-- The nodes of the sections of a switch. -/
def nodesOfSections : List SwitchSection → List Stmt
  | [] => []
  | .mk _ body :: rest => nodesOf body ++ nodesOfSections rest

end

theorem Stmt.mem_nodes_self (stmt : Stmt) : stmt ∈ stmt.nodes := by
  cases stmt with
  | branch condition whenTrue whenFalse =>
    cases whenFalse <;> exact List.mem_cons_self
  | _ => exact List.mem_cons_self

end Storefront.Script

namespace Storefront.Survey

open Storefront.Guard Storefront.Script Storefront.Stock

/-! ### The notes of one statement -/

/-- A diagnostic that a walk makes of a statement by itself. -/
inductive Noting (walk : Walk) : Stmt → Diagnostic → Prop where
  | guard {condition : Expr} {whenTrue : Stmt} {whenFalse : Option Stmt} {diagnostic : Diagnostic}
      (member : diagnostic ∈ walk.guardNotes condition) :
      Noting walk (.branch condition whenTrue whenFalse) diagnostic
  | inversion {condition : Expr} {whenTrue whenFalse : Stmt} {diagnostic : Diagnostic}
      (member : diagnostic ∈ walk.inversionNotes condition) :
      Noting walk (.branch condition whenTrue (some whenFalse)) diagnostic
  | label {scrutinee value : Expr} {sections : List SwitchSection} {part : SwitchSection}
      {diagnostics : List Diagnostic} {diagnostic : Diagnostic} (partMember : part ∈ sections)
      (valueMember : value ∈ part.caseValues)
      (unknown : walk.label scrutinee value = .error diagnostics)
      (member : diagnostic ∈ diagnostics) : Noting walk (.switch scrutinee sections) diagnostic
  | uncounted {init : Option ForInit} {condition : Option Expr} {step : List Expr} {body : Stmt} :
      Noting walk (.forLoop init condition step body)
        (walk.diagnostic .unrecognizedLoop (Stmt.forLoop init condition step body).header
          "loop is not a counting loop over literal bounds; skipped")
  | unbounded {init : Option ForInit} {condition : Option Expr} {step : List Expr} {body : Stmt}
      {reason : String} (shape : loopShape init condition step = .malformed reason) :
      Noting walk (.forLoop init condition step body)
        (walk.diagnostic .malformedBound (Stmt.forLoop init condition step body).header reason)
  | unchecked {init : Option ForInit} {condition : Option Expr} {step : List Expr} {body : Stmt}
      {name : String} {range : Range}
      (shape : loopShape init condition step = .counting name range) :
      Noting walk (.forLoop init condition step body)
        (walk.diagnostic .unrecognizedLoop (Stmt.forLoop init condition step body).header
          ("inventory scan has no `inventory[" ++ name ++ "].type == <id>` check"))
  | range {init : Option ForInit} {condition : Option Expr} {step : List Expr} {body : Stmt}
      {range : Range} {diagnostic : Diagnostic}
      (fails : walk.rangeItems (.forLoop init condition step body) range = .error diagnostic) :
      Noting walk (.forLoop init condition step body) diagnostic
  | filling {before : List Stmt} {condition : Expr} {body : Stmt} {diagnostic : Diagnostic}
      (fails : walk.filledItems before (.whileLoop condition body) condition =
        .error diagnostic) :
      Noting walk (.whileLoop condition body) diagnostic

namespace Walk

/-! ### What a note says -/

section

variable {walk : Walk} {condition : Expr} {diagnostic : Diagnostic}

theorem mem_noteMissing {construct : String} {fault : GuardFault}
    (member : diagnostic ∈ walk.noteMissing construct fault) :
    ∃ missing ∈ fault.missing?, diagnostic = walk.noteInversion construct missing := by
  rw [noteMissing, Option.mem_toList] at member
  obtain ⟨missing, isMissing, rfl⟩ := Option.map_eq_some_iff.mp member
  exact ⟨missing, isMissing, rfl⟩

/-- The note of a branch is about a part of its guard that cannot be negated, or about the guard. -/
theorem mem_guardNotes (member : diagnostic ∈ walk.guardNotes condition) :
    (∃ fault, decompose walk.catalog condition = .error fault ∧ ∃ missing ∈ fault.missing?,
        diagnostic = walk.noteInversion (branchText condition) missing) ∨
      diagnostic = walk.diagnostic .unrecognizedGuard (branchText condition)
        "guard matches no known condition; body visited without it" := by
  unfold guardNotes at member
  split at member
  · cases member
  · next fault unknown =>
    rcases List.mem_append.mp member with inMissing | isLast
    · exact Or.inl ⟨fault, unknown, mem_noteMissing inMissing⟩
    · exact Or.inr (List.mem_singleton.mp isLast)

/-- The note of the other side of a branch is about a condition that cannot be negated. -/
theorem mem_inversionNotes (member : diagnostic ∈ walk.inversionNotes condition) :
    ∃ pushed missing, Condition.invert pushed = .error missing ∧
      diagnostic = walk.noteInversion ("else of " ++ branchText condition) missing := by
  obtain ⟨missing, isMissing, rfl⟩ := List.mem_map.mp member
  obtain ⟨pushed, -, fails⟩ := List.mem_filterMap.mp isMissing
  refine ⟨pushed, missing, ?_, rfl⟩
  unfold missing? at fails
  split at fails
  · cases fails
  · next found inverts =>
    obtain rfl := Option.some.inj fails
    exact inverts

/-- The note of a label tells that it is no number, or is about its guard as for a branch. -/
theorem mem_of_label_error {scrutinee value : Expr} {diagnostics : List Diagnostic}
    (unknown : walk.label scrutinee value = .error diagnostics)
    (member : diagnostic ∈ diagnostics) :
    diagnostic = walk.diagnostic .unrecognizedLabel ("case " ++ value.text)
        "case label is not an integer literal" ∨
      (∃ fault, decompose walk.catalog (labelGuard scrutinee value) = .error fault ∧
        ∃ missing ∈ fault.missing?,
          diagnostic = walk.noteInversion ("case " ++ value.text) missing) ∨
      diagnostic = walk.diagnostic .unrecognizedLabel (labelGuard scrutinee value).text
        "case matches no known condition" := by
  unfold label at unknown
  split at unknown
  · obtain rfl := Except.error.inj unknown
    exact Or.inl (List.mem_singleton.mp member)
  · cases understanding : decompose walk.catalog (labelGuard scrutinee value) with
    | ok conditions =>
      rw [understanding] at unknown
      cases unknown
    | error fault =>
      rw [understanding] at unknown
      obtain rfl := Except.error.inj unknown
      rcases List.mem_append.mp member with inMissing | isLast
      · exact Or.inr (Or.inl ⟨fault, rfl, mem_noteMissing inMissing⟩)
      · exact Or.inr (Or.inr (List.mem_singleton.mp isLast))

theorem rangeItems_error {stmt : Stmt} {range : Range}
    (fails : walk.rangeItems stmt range = .error diagnostic) :
    diagnostic = walk.diagnostic .malformedBound stmt.header ("range of " ++
      toString range.count ++ " exceeds the unroll limit of " ++
        toString walk.settings.maxUnroll) := by
  unfold rangeItems at fails
  split at fails
  · exact (Except.error.inj fails).symm
  · cases fails

/-- A loop with a condition alone is no loop over items, or its bounds are not understood. -/
theorem filledItems_error {before : List Stmt} {stmt : Stmt}
    (fails : walk.filledItems before stmt condition = .error diagnostic) :
    diagnostic = walk.diagnostic .unrecognizedLoop stmt.header
        "while loop is not an accumulation loop; skipped" ∨
      ∃ name bound, fillingGuard? walk.settings condition = some (name, bound) ∧
        (diagnostic = walk.diagnostic .malformedBound stmt.header
            "upper bound is not an integer literal" ∨
          diagnostic = walk.diagnostic .malformedBound stmt.header
            ("no single `" ++ name ++ "` declaration with an integer literal initializer") ∨
          ∃ range, walk.rangeItems stmt range = .error diagnostic) := by
  unfold filledItems at fails
  split at fails
  · exact Or.inl (Except.error.inj fails).symm
  · next name bound fills =>
    refine Or.inr ⟨name, bound, fills, ?_⟩
    split at fails
    · exact Or.inl (Except.error.inj fails).symm
    · exact Or.inr (Or.inl (Except.error.inj fails).symm)
    · exact Or.inr (Or.inr ⟨_, fails⟩)

end

/-! ### Every diagnostic is a note -/

/-- Some statement among those given has made a diagnostic. -/
def Noted (walk : Walk) (stmts : List Stmt) (diagnostic : Diagnostic) : Prop :=
  ∃ stmt ∈ stmts, Noting walk stmt diagnostic

variable {walk : Walk}

theorem Noted.mono {stmts more : List Stmt} {diagnostic : Diagnostic}
    (noted : walk.Noted stmts diagnostic) (subset : stmts ⊆ more) :
    walk.Noted more diagnostic := by
  obtain ⟨stmt, member, noting⟩ := noted
  exact ⟨stmt, subset member, noting⟩

theorem Noted.here {stmt : Stmt} {diagnostic : Diagnostic} (noting : Noting walk stmt diagnostic) :
    walk.Noted stmt.nodes diagnostic := ⟨stmt, stmt.mem_nodes_self, noting⟩

section

variable {Env : Type} {enter : Env → Frame → Env}

theorem mem_notes_unrolling {source : Stmt} {place : Env} {outcome : Except Diagnostic (List Int)}
    {diagnostic : Diagnostic}
    (member : diagnostic ∈ (Findings.unrolling source place outcome).notes) :
    outcome = .error diagnostic := by
  cases outcome with
  | ok ids => exact absurd member List.not_mem_nil
  | error found => rw [List.mem_singleton.mp member]

/-- A diagnostic of a section is one of its labels, or one of the statements within it. -/
theorem mem_notes_throughLabels {scrutinee : Expr} {inside : Env → Findings Env} {active : Env}
    {values : List Expr} {diagnostic : Diagnostic}
    (member : diagnostic ∈ (walk.throughLabels enter scrutinee inside active values).notes) :
    (∃ value ∈ values, ∃ diagnostics, walk.label scrutinee value = .error diagnostics ∧
        diagnostic ∈ diagnostics) ∨
      ∃ reached, diagnostic ∈ (inside reached).notes := by
  have ofLabels (found : diagnostic ∈ (Findings.concat
      (values.map (walk.throughLabel enter scrutinee inside active))).notes) :
      (∃ value ∈ values, ∃ diagnostics, walk.label scrutinee value = .error diagnostics ∧
          diagnostic ∈ diagnostics) ∨
        ∃ reached, diagnostic ∈ (inside reached).notes := by
    rw [Findings.notes_concat, List.flatMap_map] at found
    obtain ⟨value, valueMember, inPart⟩ := List.mem_flatMap.mp found
    unfold throughLabel at inPart
    split at inPart
    · exact Or.inr ⟨_, inPart⟩
    · next diagnostics unknown => exact Or.inl ⟨value, valueMember, diagnostics, unknown, inPart⟩
  unfold throughLabels at member
  dsimp only at member
  split at member
  · exact ofLabels member
  · rcases List.mem_append.mp member with inLabels | plainly
    · exact ofLabels inLabels
    · exact Or.inr ⟨active, plainly⟩

mutual

/-- A diagnostic that is found in a statement is the note of a statement within it. -/
theorem stmt_noted (before : List Stmt) (active : Env) : ∀ (stmt : Stmt) (diagnostic : Diagnostic),
    diagnostic ∈ (walk.stmt enter before active stmt).notes → walk.Noted stmt.nodes diagnostic
  | .block body, diagnostic, member =>
    (stmts_noted [] active body diagnostic member).mono (List.subset_cons_self _ _)
  | .decl _, _, member | .expr _, _, member => absurd member List.not_mem_nil
  | .branch condition whenTrue whenFalse, diagnostic, member => by
    rw [stmt, Findings.notes_append, Findings.notes_append, List.append_assoc] at member
    rcases List.mem_append.mp member with ofGuard | within
    · exact Noted.here (.guard ofGuard)
    · rcases List.mem_append.mp within with inTrue | inFalse
      · refine (stmt_noted [] _ whenTrue diagnostic inTrue).mono ?_
        cases whenFalse with
        | none => exact List.subset_cons_self _ _
        | some whenFalse => exact List.subset_cons_of_subset _ (List.subset_append_left _ _)
      · cases whenFalse with
        | none => exact absurd inFalse List.not_mem_nil
        | some whenFalse =>
          rw [otherwise, Findings.notes_append] at inFalse
          rcases List.mem_append.mp inFalse with ofInversion | inStmt
          · exact Noted.here (.inversion ofInversion)
          · exact (stmt_noted [] _ whenFalse diagnostic inStmt).mono
              (List.subset_cons_of_subset _ (List.subset_append_right _ _))
  | .switch scrutinee parts, diagnostic, member => by
    rcases sections_noted scrutinee active parts diagnostic member with ofLabel | inStmt
    · obtain ⟨part, partMember, value, valueMember, diagnostics, unknown, isNote⟩ := ofLabel
      exact Noted.here (.label partMember valueMember unknown isNote)
    · exact inStmt.mono (List.subset_cons_self _ _)
  | .forLoop init condition step body, diagnostic, member => by
    rw [stmt] at member
    split at member
    · exact Noted.here (List.mem_singleton.mp member ▸ .uncounted)
    · next reason shape => exact Noted.here (List.mem_singleton.mp member ▸ .unbounded shape)
    · next name range shape =>
      split at member
      · split at member
        · next found scans =>
          exact (scan_noted name [] active body found scans diagnostic member).mono
            (List.subset_cons_self _ _)
        · exact Noted.here (List.mem_singleton.mp member ▸ .unchecked shape)
      · exact Noted.here (.range (mem_notes_unrolling member))
  | .whileLoop condition body, diagnostic, member =>
    Noted.here (.filling (mem_notes_unrolling member))
  | .doWhile body condition, diagnostic, member => by
    rw [stmt, Findings.notes_append] at member
    rcases List.mem_append.mp member with inBody | inCondition
    · exact (stmt_noted [] active body diagnostic inBody).mono (List.subset_cons_self _ _)
    · exact absurd inCondition List.not_mem_nil
  | .foreach type name iterated body, diagnostic, member => by
    rw [stmt, Findings.notes_append] at member
    rcases List.mem_append.mp member with inIterated | inBody
    · exact absurd inIterated List.not_mem_nil
    · exact (stmt_noted [] active body diagnostic inBody).mono (List.subset_cons_self _ _)
  | .returnValue (some _), _, member => absurd member List.not_mem_nil
  | .returnValue none, _, member | .breakOut, _, member | .continueLoop, _, member
  | .empty, _, member => absurd member List.not_mem_nil

theorem stmts_noted (before : List Stmt) (active : Env) :
    ∀ (body : List Stmt) (diagnostic : Diagnostic),
      diagnostic ∈ (walk.stmts enter before active body).notes →
        walk.Noted (nodesOf body) diagnostic
  | [], _, member => absurd member List.not_mem_nil
  | first :: rest, diagnostic, member => by
    rw [stmts, Findings.notes_append] at member
    rcases List.mem_append.mp member with inFirst | inRest
    · exact (stmt_noted before active first diagnostic inFirst).mono
        (List.subset_append_left _ _)
    · exact (stmts_noted _ active rest diagnostic inRest).mono (List.subset_append_right _ _)

/-- A diagnostic that is found in the sections of a switch is one of a label, or the note of a
statement within them. -/
theorem sections_noted (scrutinee : Expr) (active : Env) :
    ∀ (parts : List SwitchSection) (diagnostic : Diagnostic),
      diagnostic ∈ (walk.sections enter scrutinee active parts).notes →
        (∃ part ∈ parts, ∃ value ∈ part.caseValues, ∃ diagnostics,
          walk.label scrutinee value = .error diagnostics ∧ diagnostic ∈ diagnostics) ∨
        walk.Noted (nodesOfSections parts) diagnostic
  | [], _, member => absurd member List.not_mem_nil
  | .mk labels body :: rest, diagnostic, member => by
    rw [sections, Findings.notes_append] at member
    rcases List.mem_append.mp member with inPart | inRest
    · rcases mem_notes_throughLabels inPart with ofLabel | ⟨reached, inBody⟩
      · exact Or.inl ⟨.mk labels body, List.mem_cons_self, ofLabel⟩
      · exact Or.inr ((stmts_noted [] reached body diagnostic inBody).mono
          (List.subset_append_left _ _))
    · refine (sections_noted scrutinee active rest diagnostic inRest).imp ?_ fun noted =>
        noted.mono (List.subset_append_right _ _)
      rintro ⟨part, partMember, ofLabel⟩
      exact ⟨part, List.mem_cons_of_mem _ partMember, ofLabel⟩

/-- A diagnostic that a scan finds is the note of a statement that it has searched. -/
theorem scan_noted (name : String) (passed : List Passage) (active : Env) :
    ∀ (stmt : Stmt) (found : Findings Env),
      walk.scan enter name passed active stmt = some found →
        ∀ diagnostic ∈ found.notes, walk.Noted stmt.nodes diagnostic
  | .block body, found, scans, diagnostic, member =>
    (scanAll_noted name passed active body found scans diagnostic member).mono
      (List.subset_cons_self _ _)
  | .branch condition whenTrue whenFalse, found, scans, diagnostic, member => by
    have inTrue (noted : walk.Noted whenTrue.nodes diagnostic) :
        walk.Noted (Stmt.branch condition whenTrue whenFalse).nodes diagnostic := by
      refine noted.mono ?_
      cases whenFalse with
      | none => exact List.subset_cons_self _ _
      | some whenFalse => exact List.subset_cons_of_subset _ (List.subset_append_left _ _)
    rw [scan] at scans
    split at scans
    · obtain rfl := Option.some.inj scans
      exact inTrue (stmt_noted [] _ whenTrue diagnostic member)
    · split at scans
      · next scansTrue =>
        obtain rfl := Option.some.inj scans
        exact inTrue (scan_noted name _ active whenTrue _ scansTrue diagnostic member)
      · cases whenFalse with
        | none => cases scans
        | some whenFalse =>
          exact (scan_noted name _ active whenFalse found scans diagnostic member).mono
            (List.subset_cons_of_subset _ (List.subset_append_right _ _))
  | .switch scrutinee parts, found, scans, diagnostic, member =>
    (scanSections_noted name scrutinee passed active parts found scans diagnostic member).mono
      (List.subset_cons_self _ _)
  | .forLoop _ _ _ body, found, scans, diagnostic, member =>
    (scan_noted name _ active body found scans diagnostic member).mono (List.subset_cons_self _ _)
  | .whileLoop _ body, found, scans, diagnostic, member
  | .doWhile body _, found, scans, diagnostic, member
  | .foreach _ _ _ body, found, scans, diagnostic, member =>
    (scan_noted name passed active body found scans diagnostic member).mono
      (List.subset_cons_self _ _)
  | .decl _, _, scans, _, _ | .expr _, _, scans, _, _ | .breakOut, _, scans, _, _
  | .continueLoop, _, scans, _, _ | .returnValue _, _, scans, _, _ | .empty, _, scans, _, _ => by
    cases scans

theorem scanAll_noted (name : String) (passed : List Passage) (active : Env) :
    ∀ (body : List Stmt) (found : Findings Env),
      walk.scanAll enter name passed active body = some found →
        ∀ diagnostic ∈ found.notes, walk.Noted (nodesOf body) diagnostic
  | [], _, scans, _, _ => by cases scans
  | first :: rest, found, scans, diagnostic, member => by
    rw [scanAll] at scans
    split at scans
    · next scansFirst =>
      obtain rfl := Option.some.inj scans
      exact (scan_noted name passed active first _ scansFirst diagnostic member).mono
        (List.subset_append_left _ _)
    · exact (scanAll_noted name passed active rest found scans diagnostic member).mono
        (List.subset_append_right _ _)

theorem scanSections_noted (name : String) (scrutinee : Expr) (passed : List Passage)
    (active : Env) : ∀ (parts : List SwitchSection) (found : Findings Env),
      walk.scanSections enter name scrutinee passed active parts = some found →
        ∀ diagnostic ∈ found.notes, walk.Noted (nodesOfSections parts) diagnostic
  | [], _, scans, _, _ => by cases scans
  | .mk labels body :: rest, found, scans, diagnostic, member => by
    rw [scanSections] at scans
    split at scans
    · next scansBody =>
      obtain rfl := Option.some.inj scans
      exact (scanAll_noted name _ active body _ scansBody diagnostic member).mono
        (List.subset_append_left _ _)
    · exact (scanSections_noted name scrutinee passed active rest found scans diagnostic
        member).mono (List.subset_append_right _ _)

end

end

/-! ### The diagnostics of a run -/

theorem notes_run (walk : Walk) (body : List Stmt) :
    (walk.run body).2 = (walk.stmts walk.push [] [] body).notes := by
  have gathered : walk.visitAll [] body walk.start =
      walk.start.gather (walk.stmts walk.push [] [] body) :=
    walk.visitAll_gathers [] body walk.start
  show (walk.visitAll [] body walk.start).notes = _
  rw [gathered]
  exact List.nil_append _

/-- Every diagnostic of a walk is the note of a statement of the procedure. -/
theorem noted_of_run (walk : Walk) (body : List Stmt) :
    ∀ diagnostic ∈ (walk.run body).2, walk.Noted (nodesOf body) diagnostic := by
  rw [notes_run]
  exact stmts_noted [] [] body

end Walk

/-! ### The diagnostics of a survey -/

/-- A diagnostic that a survey makes of a section. -/
inductive SectionNoting (catalog : Catalog) (settings : Settings) (part : SwitchSection) :
    Diagnostic → Prop where
  | skipped {diagnostic : Diagnostic}
      (refused : shopOfLabels settings part.labels = .error diagnostic) :
      SectionNoting catalog settings part diagnostic
  | walk {id : Int} {diagnostic : Diagnostic}
      (noted : (Walk.mk catalog settings id).Noted (nodesOf part.body) diagnostic) :
      SectionNoting catalog settings part diagnostic
  | duplicate (shop : Shop) : SectionNoting catalog settings part (Outcome.duplicate shop)

section

variable {catalog : Catalog} {settings : Settings}

/-- A section without a shop has not exactly one label, or one that is no number, or one that is
excluded. -/
theorem shopOfLabels_error {labels : List CaseLabel} {diagnostic : Diagnostic}
    (refused : shopOfLabels settings labels = .error diagnostic) :
    (∃ label, labels = [.case label] ∧
        (diagnostic = ⟨.skippedSection, none, "case " ++ label.text,
            "dispatch label is not an integer literal"⟩ ∨
          ∃ id, diagnostic = ⟨.excludedShop, some id, "case " ++ toString id,
            "shop id is excluded by configuration"⟩)) ∨
      diagnostic = ⟨.skippedSection, none, " ".intercalate (labels.map labelText),
        "dispatch section needs exactly one case label"⟩ := by
  unfold shopOfLabels at refused
  split at refused
  · next label =>
    refine Or.inl ⟨label, rfl, ?_⟩
    split at refused
    · exact Or.inl (Except.error.inj refused).symm
    · next id _ =>
      split at refused
      · exact Or.inr ⟨id, (Except.error.inj refused).symm⟩
      · cases refused
  · exact Or.inr (Except.error.inj refused).symm

theorem shopOfLabels_of_surveySection {part : SwitchSection} {skipped : Diagnostic}
    (refused : surveySection catalog settings part = .error skipped) :
    shopOfLabels settings part.labels = .error skipped := by
  obtain ⟨labels, body⟩ := part
  rw [surveySection] at refused
  cases chosen : shopOfLabels settings labels with
  | ok id =>
    rw [chosen] at refused
    cases refused
  | error found =>
    rw [chosen] at refused
    rw [SwitchSection.labels_mk, chosen, Except.error.inj refused]

/-- A diagnostic for a section that follows others is made of that section. -/
theorem noting_of_sectionNotes {earlier : List SwitchSection} {part : SwitchSection} :
    ∀ diagnostic ∈ sectionNotes catalog settings earlier part,
      SectionNoting catalog settings part diagnostic := by
  intro diagnostic member
  rcases @surveySection_cases catalog settings earlier part with
    ⟨id, -, -, notes⟩ | ⟨-, skipped, refused, notes⟩
  · rw [notes] at member
    rcases List.mem_append.mp member with ofWalk | repeated
    · exact .walk ((Walk.mk catalog settings id).noted_of_run part.body diagnostic ofWalk)
    · split at repeated
      · exact List.mem_singleton.mp repeated ▸ .duplicate _
      · exact absurd repeated List.not_mem_nil
  · rw [notes] at member
    exact .skipped (List.mem_singleton.mp member ▸ shopOfLabels_of_surveySection refused)

theorem noting_of_notesAfter {parts : List SwitchSection} :
    ∀ (earlier : List SwitchSection) (diagnostic : Diagnostic),
      diagnostic ∈ notesAfter catalog settings earlier parts →
        ∃ part ∈ parts, SectionNoting catalog settings part diagnostic := by
  induction parts with
  | nil => exact fun _ _ member => absurd member List.not_mem_nil
  | cons first rest inductionHypothesis =>
    intro earlier diagnostic member
    rw [notesAfter] at member
    rcases List.mem_append.mp member with ofFirst | ofRest
    · exact ⟨first, List.mem_cons_self, noting_of_sectionNotes diagnostic ofFirst⟩
    · obtain ⟨part, partMember, noting⟩ := inductionHypothesis _ diagnostic ofRest
      exact ⟨part, List.mem_cons_of_mem first partMember, noting⟩

/-- Every diagnostic of a survey is made of a section of the dispatching switch, or says that there
is no such switch. -/
theorem noting_of_surveyWith (catalog : Catalog) (settings : Settings) (body : List Stmt) :
    ∀ diagnostic ∈ (surveyWith catalog settings body).diagnostics, diagnostic = noDispatch ∨
      ∃ parts, dispatch? body = some parts ∧
        ∃ part ∈ parts, SectionNoting catalog settings part diagnostic := by
  intro diagnostic member
  rw [surveyWith] at member
  cases dispatches : dispatch? body with
  | none =>
    rw [dispatches] at member
    exact Or.inl (List.mem_singleton.mp member)
  | some parts =>
    rw [dispatches] at member
    have surveyed : Surveyed catalog settings parts _ := surveyed_empty.foldl parts
    exact Or.inr ⟨parts, rfl, noting_of_notesAfter [] diagnostic (surveyed.diagnostics ▸ member)⟩

end

end Storefront.Survey
