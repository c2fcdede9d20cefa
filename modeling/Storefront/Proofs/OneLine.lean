import Storefront.Proofs.Notes
import Storefront.Proofs.Unbroken

/-!
Diagnostics in one line. A diagnostic names a construct by its text, which is that of an expression,
of a label or of the head of a statement, and the message beside it may name a variable or a tag.
Every diagnostic of a survey is the note of a statement of the procedure, and so is made of texts
that stay in one line if the procedure was read from a script.
-/

namespace Storefront.Script

/-! ### Statements within statements -/

mutual

/-- What a statement within a statement holds is held by the whole. -/
theorem contents_of_mem_nodes : ∀ {stmt node : Stmt}, node ∈ stmt.nodes →
    node.contents ⊆ stmt.contents
  | .block body, _, member => by
    rcases List.mem_cons.mp member with rfl | within
    · exact List.Subset.refl _
    · exact contents_of_mem_nodesOf within
  | .branch condition whenTrue none, _, member => by
    rcases List.mem_cons.mp member with rfl | within
    · exact List.Subset.refl _
    · exact List.subset_cons_of_subset _ (contents_of_mem_nodes within)
  | .branch condition whenTrue (some whenFalse), _, member => by
    rcases List.mem_cons.mp member with rfl | within
    · exact List.Subset.refl _
    · refine List.subset_cons_of_subset _ ?_
      rcases List.mem_append.mp within with inTrue | inFalse
      · exact List.subset_append_of_subset_left _ (contents_of_mem_nodes inTrue)
      · exact List.subset_append_of_subset_right _ (contents_of_mem_nodes inFalse)
  | .switch scrutinee sections, _, member => by
    rcases List.mem_cons.mp member with rfl | within
    · exact List.Subset.refl _
    · exact List.subset_cons_of_subset _ (contents_of_mem_nodesOfSections within)
  | .forLoop init condition step body, _, member => by
    rcases List.mem_cons.mp member with rfl | within
    · exact List.Subset.refl _
    · refine List.subset_append_of_subset_right _ (List.subset_append_of_subset_right _ ?_)
      exact List.subset_append_of_subset_right _ (contents_of_mem_nodes within)
  | .whileLoop condition body, _, member => by
    rcases List.mem_cons.mp member with rfl | within
    · exact List.Subset.refl _
    · exact List.subset_cons_of_subset _ (contents_of_mem_nodes within)
  | .doWhile body condition, _, member => by
    rcases List.mem_cons.mp member with rfl | within
    · exact List.Subset.refl _
    · exact List.subset_append_of_subset_left _ (contents_of_mem_nodes within)
  | .foreach type name iterated body, _, member => by
    rcases List.mem_cons.mp member with rfl | within
    · exact List.Subset.refl _
    · refine List.subset_cons_of_subset _ (List.subset_cons_of_subset _ ?_)
      exact List.subset_cons_of_subset _ (contents_of_mem_nodes within)
  | .decl _, _, member | .expr _, _, member | .breakOut, _, member | .continueLoop, _, member
  | .returnValue _, _, member | .empty, _, member => by
    rw [List.mem_singleton.mp member]
    exact List.Subset.refl _

theorem contents_of_mem_nodesOf : ∀ {body : List Stmt} {node : Stmt}, node ∈ nodesOf body →
    node.contents ⊆ contentsOf body
  | [], _, member => absurd member List.not_mem_nil
  | first :: rest, _, member => by
    rcases List.mem_append.mp member with inFirst | inRest
    · exact List.subset_append_of_subset_left _ (contents_of_mem_nodes inFirst)
    · exact List.subset_append_of_subset_right _ (contents_of_mem_nodesOf inRest)

theorem contents_of_mem_nodesOfSections : ∀ {sections : List SwitchSection} {node : Stmt},
    node ∈ nodesOfSections sections → node.contents ⊆ contentsOfSections sections
  | [], _, member => absurd member List.not_mem_nil
  | .mk labels body :: rest, _, member => by
    refine List.subset_append_of_subset_right _ ?_
    rcases List.mem_append.mp member with inBody | inRest
    · exact List.subset_append_of_subset_left _ (contents_of_mem_nodesOf inBody)
    · exact List.subset_append_of_subset_right _ (contents_of_mem_nodesOfSections inRest)

end

/-- What a section of a switch holds: the values of its labels, and its statements. -/
theorem contents_of_mem_sections {sections : List SwitchSection} {part : SwitchSection}
    (member : part ∈ sections) :
    part.labels.flatMap CaseLabel.contents ++ contentsOf part.body ⊆
      contentsOfSections sections := by
  induction sections with
  | nil => exact absurd member List.not_mem_nil
  | cons first rest inductionHypothesis =>
    obtain ⟨labels, body⟩ := first
    rw [contentsOfSections, ← List.append_assoc]
    rcases List.mem_cons.mp member with rfl | later
    · exact List.subset_append_left _ _
    · exact List.subset_append_of_subset_right _ (inductionHypothesis later)

theorem expr_mem_contents_of_caseValues {part : SwitchSection} {value : Expr}
    (member : value ∈ part.caseValues) :
    .expr value ∈ part.labels.flatMap CaseLabel.contents := by
  obtain ⟨label, labelMember, isValue⟩ := List.mem_filterMap.mp member
  refine List.mem_flatMap.mpr ⟨label, labelMember, ?_⟩
  rw [CaseLabel.contents, isValue]
  exact List.mem_cons_self

end Storefront.Script

namespace Storefront.Survey

open Storefront.Guard Storefront.Script Storefront.Stock Storefront.Text

/-! ### Diagnostics -/

/-- What a diagnostic is about and why are both told in one line. -/
structure Diagnostic.OneLine (diagnostic : Diagnostic) : Prop where
  construct : Unbroken diagnostic.construct
  message : Unbroken diagnostic.message

theorem oneLine_mk (kind : DiagnosticKind) (shop : Option Int) {construct message : String}
    (onConstruct : Unbroken construct) (onMessage : Unbroken message) :
    (Diagnostic.mk kind shop construct message).OneLine := ⟨onConstruct, onMessage⟩

theorem Diagnostic.OneLine.text {diagnostic : Diagnostic} (oneLine : diagnostic.OneLine) :
    Unbroken diagnostic.text := by
  have letter : Unbroken diagnostic.severity.letter := by
    cases diagnostic.severity <;> decide
  have kind : Unbroken diagnostic.kind.name := by
    cases diagnostic.kind <;> decide
  have construct : Unbroken
      (if diagnostic.construct.isEmpty then "" else " [" ++ diagnostic.construct ++ "]") := by
    split
    · exact unbroken_empty
    · exact ((by decide : Unbroken " [").append oneLine.construct).append (by decide)
  refine Unbroken.append (Unbroken.append (Unbroken.append (Unbroken.append (Unbroken.append
    (Unbroken.append ?_ letter) (by decide)) kind) (by decide)) oneLine.message) construct
  cases diagnostic.shop with
  | none => decide
  | some shop =>
    exact ((by decide : Unbroken "shop ").append (unbroken_toString shop)).append (by decide)

namespace Walk

variable {walk : Walk}

theorem unbroken_branchText {condition : Expr} (onCondition : Unbroken condition.text) :
    Unbroken (branchText condition) :=
  ((by decide : Unbroken "if (").append onCondition).append (by decide)

theorem oneLine_rangeItems {stmt : Stmt} (onHeader : Unbroken stmt.header) {range : Range}
    {diagnostic : Diagnostic} (fails : walk.rangeItems stmt range = .error diagnostic) :
    diagnostic.OneLine := by
  rw [rangeItems_error fails]
  refine oneLine_mk _ _ onHeader ?_
  exact (((by decide : Unbroken "range of ").append (unbroken_toString _)).append
    (by decide)).append (unbroken_toString_nat _)

/-- The variable of a loop that fills slots is a word of its condition. -/
theorem word_of_fillingGuard? {settings : Settings} {condition bound : Expr} {name : String}
    (fills : fillingGuard? settings condition = some (name, bound)) :
    .word name ∈ condition.words := by
  unfold fillingGuard? at fills
  split at fills
  · next counted _ _ _ =>
    split at fills
    · obtain ⟨found, isName, same⟩ := Option.map_eq_some_iff.mp fills
      obtain rfl := (Prod.mk.inj same).1
      cases counted with
      | ident text =>
        obtain rfl := Option.some.inj isName
        exact List.mem_append_left _ (List.mem_append_left _ List.mem_cons_self)
      | _ => cases isName
    · cases fills
  · cases fills

/-- Why a counting loop stands for no range is told in one line. -/
theorem unbroken_reason {init : Option ForInit} {condition : Option Expr} {step : List Expr}
    {reason : String} (shape : loopShape init condition step = .malformed reason) :
    Unbroken reason := by
  unfold loopShape at shape
  split at shape
  · cases shape
  · split at shape
    · cases shape
    · split at shape
      · split at shape
        · obtain rfl := LoopShape.malformed.inj shape
          decide +kernel
        · obtain rfl := LoopShape.malformed.inj shape
          decide +kernel
        · cases shape
      · cases shape

/-- The variable that a loop counts is declared at its start. -/
theorem name_of_loopShape {init : Option ForInit} {condition : Option Expr} {step : List Expr}
    {name : String} {range : Range} (shape : loopShape init condition step = .counting name range) :
    .name name ∈ init.toList.flatMap ForInit.contents := by
  unfold loopShape at shape
  split at shape
  · cases shape
  · next declarator declares =>
    split at shape
    · cases shape
    · split at shape
      · split at shape
        · cases shape
        · cases shape
        · obtain ⟨rfl, -⟩ := LoopShape.counting.inj shape
          unfold loopVariable? at declares
          split at declares
          · obtain rfl := Option.some.inj declares
            exact List.mem_append_left _ (List.mem_cons_of_mem _ List.mem_cons_self)
          · cases declares
      · cases shape

/-- Every diagnostic of a statement is told in one line, if the statement is made of the words of a
script. -/
theorem oneLine_of_noting {stmt : Stmt} {diagnostic : Diagnostic}
    (noting : Noting walk stmt diagnostic) (genuine : AllGenuine stmt.contents) :
    diagnostic.OneLine := by
  have onHeader := Stmt.unbroken_header genuine
  cases noting with
  | @guard condition whenTrue whenFalse _ member =>
    have construct : Unbroken (branchText condition) := unbroken_branchText (by
      cases whenFalse <;> exact unbroken_text_of_cons genuine)
    rcases mem_guardNotes member with ⟨fault, -, missing, -, rfl⟩ | rfl
    · exact oneLine_mk _ _ construct missing.unbroken_message
    · exact oneLine_mk _ _ construct (by decide +kernel)
  | inversion member =>
    obtain ⟨pushed, missing, -, rfl⟩ := mem_inversionNotes member
    exact oneLine_mk _ _ ((by decide : Unbroken "else of ").append
      (unbroken_branchText (unbroken_text_of_cons genuine))) missing.unbroken_message
  | @label scrutinee value sections part diagnostics _ partMember valueMember unknown member =>
    have inPart := List.mem_append_left (contentsOf part.body)
      (expr_mem_contents_of_caseValues valueMember)
    have inSections := contents_of_mem_sections partMember inPart
    have onValue := Script.unbroken_text value (genuine _ (List.mem_cons_of_mem _ inSections))
    have caseText : Unbroken ("case " ++ value.text) :=
      (by decide : Unbroken "case ").append onValue
    have guardText : Unbroken (labelGuard scrutinee value).text :=
      ((((unbroken_text_of_cons genuine).append (by decide)).append
        BinaryOp.eq.unbroken_symbol).append (by decide)).append onValue
    rcases mem_of_label_error unknown member with rfl | ⟨fault, -, missing, -, rfl⟩ | rfl
    · exact oneLine_mk _ _ caseText (by decide +kernel)
    · exact oneLine_mk _ _ caseText missing.unbroken_message
    · exact oneLine_mk _ _ guardText (by decide +kernel)
  | uncounted => exact oneLine_mk _ _ onHeader (by decide +kernel)
  | unbounded shape => exact oneLine_mk _ _ onHeader (unbroken_reason shape)
  | unchecked shape =>
    have onName := unbroken_word
      (genuine _ (List.mem_append_left _ (name_of_loopShape shape)) _ List.mem_cons_self)
    exact oneLine_mk _ _ onHeader
      (((by decide +kernel : Unbroken "inventory scan has no `inventory[").append onName).append
        (by decide))
  | range fails => exact oneLine_rangeItems onHeader fails
  | filling fails =>
    rcases filledItems_error fails with rfl | ⟨name, bound, fills, rfl | rfl | ⟨range, tooMany⟩⟩
    · exact oneLine_mk _ _ onHeader (by decide +kernel)
    · exact oneLine_mk _ _ onHeader (by decide +kernel)
    · have onName := unbroken_word
        (genuine _ List.mem_cons_self _ (word_of_fillingGuard? fills))
      exact oneLine_mk _ _ onHeader
        (((by decide : Unbroken "no single `").append onName).append (by decide +kernel))
    · exact oneLine_rangeItems onHeader tooMany

end Walk

/-! ### Surveys -/

theorem unbroken_labelText {label : CaseLabel} (genuine : AllGenuine label.contents) :
    Unbroken (labelText label) := by
  cases label with
  | default => decide
  | case value =>
    exact ((by decide : Unbroken "case ").append (unbroken_text_of_cons genuine)).append
      (by decide)

theorem oneLine_of_sectionNoting {catalog : Catalog} {settings : Settings} {part : SwitchSection}
    (onLabels : AllGenuine (part.labels.flatMap CaseLabel.contents))
    (onBody : AllGenuine (contentsOf part.body)) {diagnostic : Diagnostic}
    (noting : SectionNoting catalog settings part diagnostic) : diagnostic.OneLine := by
  cases noting with
  | skipped refused =>
    rcases shopOfLabels_error refused with ⟨label, isLabel, rfl | ⟨id, rfl⟩⟩ | rfl
    · rw [isLabel] at onLabels
      exact oneLine_mk _ _ ((by decide : Unbroken "case ").append
        (unbroken_text_of_cons onLabels)) (by decide +kernel)
    · exact oneLine_mk _ _ ((by decide : Unbroken "case ").append (unbroken_toString id))
        (by decide +kernel)
    · refine oneLine_mk _ _ (.intercalate (by decide) fun text member => ?_) (by decide +kernel)
      obtain ⟨label, labelMember, rfl⟩ := List.mem_map.mp member
      exact unbroken_labelText fun content inLabel =>
        onLabels content (List.mem_flatMap.mpr ⟨label, labelMember, inLabel⟩)
  | walk noted =>
    obtain ⟨stmt, member, ofStmt⟩ := noted
    exact Walk.oneLine_of_noting ofStmt fun content inStmt =>
      onBody content (contents_of_mem_nodesOf member inStmt)
  | duplicate shop =>
    refine ⟨(by decide : Unbroken "case ").append (unbroken_toString shop.id), ?_⟩
    exact ((by decide +kernel : Unbroken "shop already defined; dropping ").append
      (unbroken_toString_nat _)).append (by decide)

mutual

theorem contents_of_dispatchIn? : ∀ {stmt : Stmt} {sections : List SwitchSection},
    dispatchIn? stmt = some sections → contentsOfSections sections ⊆ stmt.contents
  | .switch scrutinee parts, _, found => by
    obtain rfl := Option.some.inj found
    exact List.subset_cons_self _ _
  | .block body, _, found => contents_of_dispatch? found
  | .decl _, _, found | .expr _, _, found | .branch _ _ _, _, found | .forLoop _ _ _ _, _, found
  | .whileLoop _ _, _, found | .doWhile _ _, _, found | .foreach _ _ _ _, _, found
  | .breakOut, _, found | .continueLoop, _, found | .returnValue _, _, found
  | .empty, _, found => by cases found

/-- What the sections of the dispatching switch hold is held by the procedure. -/
theorem contents_of_dispatch? : ∀ {body : List Stmt} {sections : List SwitchSection},
    dispatch? body = some sections → contentsOfSections sections ⊆ contentsOf body
  | [], _, found => by cases found
  | first :: rest, _, found => by
    rw [dispatch?] at found
    split at found
    · next inFirst =>
      obtain rfl := Option.some.inj found
      exact List.subset_append_of_subset_left _ (contents_of_dispatchIn? inFirst)
    · exact List.subset_append_of_subset_right _ (contents_of_dispatch? found)

end

/-- Every diagnostic of a survey is told in one line, if the procedure is made of the words of a
script. -/
theorem oneLine_of_surveyWith (catalog : Catalog) (settings : Settings) {body : List Stmt}
    (genuine : AllGenuine (contentsOf body)) :
    ∀ diagnostic ∈ (surveyWith catalog settings body).diagnostics, diagnostic.OneLine := by
  intro diagnostic member
  rcases noting_of_surveyWith catalog settings body diagnostic member with
    rfl | ⟨parts, dispatches, part, partMember, noting⟩
  · exact ⟨unbroken_empty, by decide +kernel⟩
  · have inBody {content : Content} (inPart : content ∈ part.labels.flatMap CaseLabel.contents ++
        contentsOf part.body) : content.Genuine :=
      genuine content
        (contents_of_dispatch? dispatches (contents_of_mem_sections partMember inPart))
    exact oneLine_of_sectionNoting (fun _ onLabel => inBody (List.mem_append_left _ onLabel))
      (fun _ onBody => inBody (List.mem_append_right _ onBody)) noting

end Storefront.Survey
