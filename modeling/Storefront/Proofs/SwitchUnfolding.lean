import Storefront.Proofs.Entries
import Storefront.Proofs.GuardRemoval
import Storefront.Proofs.Notes
import Storefront.Proofs.SlotTest

/-!
A nested switch means the branches that it stands for. Unfolding a switch makes a block of it. In
the place of a section stands a branch for each of its labels that is understood, with the
statements of the section in it, or these statements alone if no label is understood. Unfolding a
procedure unfolds every switch in it, also those within the sections of others.

A walk finds the same items in an unfolded procedure. The new branches could mislead only a scan of
the inventory, which looks for a branch with a test. But a test is never understood as a guard, so
no new branch has one. A scan may meet the statements of a section several times now. It takes the
first test that it meets, and that is the one in the first of the copies.
-/

namespace Storefront.Survey

open Storefront.Guard Storefront.Script Storefront.Stock

/-! ### Unfolding -/

namespace Walk

section

variable (walk : Walk)

/-- The branches that a section stands for, or its statements alone if no label is understood. -/
def sectionBranches (scrutinee : Expr) (values : List Expr) (body : List Stmt) : List Stmt :=
  match values.filter (walk.understands scrutinee) with
  | [] => [.block body]
  | understood => understood.map fun value =>
    .branch (labelGuard scrutinee value) (.block body) none

mutual

/-- A statement with all switches in it unfolded. -/
def unfoldStmt : Stmt → Stmt
  | .block body => .block (unfoldStmts body)
  | .branch condition whenTrue whenFalse =>
    .branch condition (unfoldStmt whenTrue) (unfoldOtherwise whenFalse)
  | .switch scrutinee sections => .block (unfoldSections scrutinee sections)
  | .forLoop init condition step body => .forLoop init condition step (unfoldStmt body)
  | .whileLoop condition body => .whileLoop condition (unfoldStmt body)
  | .doWhile body condition => .doWhile (unfoldStmt body) condition
  | .foreach type name iterated body => .foreach type name iterated (unfoldStmt body)
  | .decl declared => .decl declared
  | .expr evaluated => .expr evaluated
  | .returnValue value => .returnValue value
  | .breakOut => .breakOut
  | .continueLoop => .continueLoop
  | .empty => .empty

/-- The other side of a branch with all switches in it unfolded. -/
def unfoldOtherwise : Option Stmt → Option Stmt
  | none => none
  | some whenFalse => some (unfoldStmt whenFalse)

/-- Statements with all switches in them unfolded. -/
def unfoldStmts : List Stmt → List Stmt
  | [] => []
  | first :: rest => unfoldStmt first :: unfoldStmts rest

/-- What stands in the place of the sections of a switch. -/
def unfoldSections (scrutinee : Expr) : List SwitchSection → List Stmt
  | [] => []
  | .mk labels body :: rest =>
    walk.sectionBranches scrutinee (labels.filterMap CaseLabel.value?) (unfoldStmts body) ++
      unfoldSections scrutinee rest

end

end

end Walk

/-! ### What is found -/

/-- The items among findings. -/
def Findings.items (found : Findings (List Condition)) : List Item := found.offers.map Offer.item

namespace Findings

@[simp] theorem items_none : (none : Findings (List Condition)).items = [] := rfl

@[simp] theorem items_append (first second : Findings (List Condition)) :
    (first ++ second).items = first.items ++ second.items := List.map_append

@[simp] theorem items_note (diagnostics : List Diagnostic) :
    (note diagnostics : Findings (List Condition)).items = [] := rfl

@[simp] theorem items_offering (source : Stmt) (active : List Condition) (ids : List Int) :
    (offering source active ids).items = ids.map fun id => ⟨id, active⟩ := by
  rw [items, offering, List.map_map]
  rfl

/-- The items of a loop do not depend on the statement that is named as their source. -/
theorem items_unrolling (source other : Stmt) (active : List Condition)
    (outcome : Except Diagnostic (List Int)) :
    (unrolling source active outcome).items = (unrolling other active outcome).items := by
  cases outcome with
  | ok ids => exact (items_offering source active ids).trans (items_offering other active ids).symm
  | error diagnostic => rfl

/-- Searches for the same items both find nothing, or both find these items. -/
theorem searches_alike {found? other? : Option (Findings (List Condition))}
    (same : found?.map items = other?.map items) :
    found? = Option.none ∧ other? = Option.none ∨
      ∃ found other, found? = some found ∧ other? = some other ∧ found.items = other.items := by
  cases found? with
  | none => exact Or.inl ⟨rfl, Option.map_eq_none_iff.mp same.symm⟩
  | some found =>
    obtain ⟨other, searched, sameItems⟩ := Option.map_eq_some_iff.mp same.symm
    exact Or.inr ⟨found, other, rfl, searched, sameItems.symm⟩

end Findings

namespace Walk

variable {walk : Walk}

/-! ### One section -/

/-- A section with labels that are understood becomes branches on their guards. -/
theorem sectionBranches_eq {scrutinee : Expr} {values : List Expr}
    (some : values.filter (walk.understands scrutinee) ≠ []) (body : List Stmt) :
    walk.sectionBranches scrutinee values body =
      ((values.filter (walk.understands scrutinee)).map (labelGuard scrutinee)).map fun guard =>
        .branch guard (.block body) none := by
  rw [sectionBranches, List.map_map]
  split
  · next none => exact absurd none some
  · rfl

/-- A section without labels that are understood becomes its statements alone. -/
theorem sectionBranches_eq_block {scrutinee : Expr} {values : List Expr}
    (none : values.filter (walk.understands scrutinee) = []) (body : List Stmt) :
    walk.sectionBranches scrutinee values body = [.block body] := by
  rw [sectionBranches, none]

/-- A section is entered by each label that is understood. -/
theorem entries_labels_eq {scrutinee : Expr} {values : List Expr}
    (some : values.filter (walk.understands scrutinee) ≠ []) :
    walk.entries (.labels scrutinee values) =
      (values.filter (walk.understands scrutinee)).map fun value => [.label scrutinee value] := by
  rw [entries]
  split
  · next none => exact absurd none some
  · rfl

/-- The guard of a label that is understood sets the conditions that the label sets. -/
theorem conditionsOf_labelGuard {scrutinee value : Expr}
    (understood : walk.understands scrutinee value = true) :
    walk.conditionsOf (.whenTrue (labelGuard scrutinee value)) =
      walk.conditionsOf (.label scrutinee value) := by
  have literal := (Bool.and_eq_true_iff.mp understood).1
  rw [conditionsOf, conditionsOf, label, if_neg (by simp [Option.isSome_iff_ne_none.mp literal])]
  cases decompose walk.catalog (labelGuard scrutinee value) <;> rfl

/-- Branches without another side, one after the other, offer what is found in each. -/
theorem items_branches (before : List Stmt) (active : List Condition) (body : List Stmt)
    (guards : List Expr) :
    (walk.stmts walk.push before active
        (guards.map fun guard => .branch guard (.block body) none)).items =
      guards.flatMap fun guard =>
        (walk.stmts walk.push [] (walk.push active (.whenTrue guard)) body).items := by
  induction guards generalizing before with
  | nil => rfl
  | cons guard rest inductionHypothesis =>
    rw [List.map_cons, stmts, Findings.items_append, inductionHypothesis, List.flatMap_cons, stmt,
      Findings.items_append, Findings.items_append, Findings.items_note, stmt, otherwise,
      Findings.items_none, List.nil_append, List.append_nil]

/-- The branches of a section offer what the section offers. -/
theorem items_sectionBranches (before : List Stmt) (scrutinee : Expr) (active : List Condition)
    (values : List Expr) {body unfolded : List Stmt}
    (same : ∀ active, (walk.stmts walk.push [] active unfolded).items =
      (walk.stmts walk.push [] active body).items) :
    (walk.stmts walk.push before active (walk.sectionBranches scrutinee values unfolded)).items =
      (walk.throughLabels walk.push scrutinee (fun active => walk.stmts walk.push [] active body)
        active values).items := by
  have entered : (walk.throughLabels walk.push scrutinee
      (fun active => walk.stmts walk.push [] active body) active values).items =
      (walk.entries (.labels scrutinee values)).flatMap fun taken =>
        (walk.stmts walk.push [] (taken.foldl walk.push active) body).items := by
    rw [Findings.items, offers_throughLabels, List.map_flatMap]
    rfl
  rw [entered]
  by_cases none : values.filter (walk.understands scrutinee) = []
  · rw [sectionBranches_eq_block none, entries, none, List.flatMap_singleton, stmts,
      Findings.items_append, stmt, same]
    exact List.append_nil _
  · rw [sectionBranches_eq none, entries_labels_eq none, items_branches, List.flatMap_map,
      List.flatMap_map]
    refine List.flatMap_congr fun value member => ?_
    rw [same, List.foldl_cons, List.foldl_nil, push, push,
      conditionsOf_labelGuard (List.mem_filter.mp member).2]

/-! ### Scans -/

section

variable {Env : Type} {enter : Env → Frame → Env}

theorem scanAll_cons (name : String) (passed : List Passage) (active : Env) (first : Stmt)
    (rest : List Stmt) :
    walk.scanAll enter name passed active (first :: rest) =
      (walk.scan enter name passed active first).or
        (walk.scanAll enter name passed active rest) := by
  rw [scanAll]
  cases walk.scan enter name passed active first <;> rfl

theorem scanAll_append (name : String) (passed : List Passage) (active : Env)
    (body later : List Stmt) :
    walk.scanAll enter name passed active (body ++ later) =
      (walk.scanAll enter name passed active body).or
        (walk.scanAll enter name passed active later) := by
  induction body with
  | nil => rfl
  | cons first rest inductionHypothesis =>
    rw [List.cons_append, scanAll_cons, scanAll_cons, inductionHypothesis, Option.or_assoc]

theorem scanSections_cons (name : String) (scrutinee : Expr) (passed : List Passage)
    (active : Env) (labels : List CaseLabel) (body : List Stmt) (rest : List SwitchSection) :
    walk.scanSections enter name scrutinee passed active (.mk labels body :: rest) =
      (walk.scanAll enter name
          (passed ++ [.labels scrutinee (labels.filterMap CaseLabel.value?)]) active body).or
        (walk.scanSections enter name scrutinee passed active rest) := by
  rw [scanSections]
  cases walk.scanAll enter name
    (passed ++ [.labels scrutinee (labels.filterMap CaseLabel.value?)]) active body <;> rfl

/-- Both sides of a branch without a test are searched. -/
theorem scan_branch {name : String} {condition : Expr}
    (noTest : checkedItem? name condition = none) (passed : List Passage) (active : Env)
    (whenTrue : Stmt) (whenFalse : Option Stmt) :
    walk.scan enter name passed active (.branch condition whenTrue whenFalse) =
      (walk.scan enter name (passed ++ [.whenTrue condition]) active whenTrue).or
        (walk.scanOtherwise enter name (passed ++ [.whenFalse condition]) active whenFalse) := by
  rw [scan, noTest]
  dsimp only
  cases walk.scan enter name (passed ++ [.whenTrue condition]) active whenTrue <;> rfl

end

/-- A scan finds the same in all copies of a body. Branches without a test that hold the copies are
searched one after the other, so what is found is what the first copy holds. -/
theorem scan_branches {name : String} {active : List Condition} {body : List Stmt}
    {found? : Option (List Item)}
    (same : ∀ passed, (walk.scanAll walk.push name passed active body).map Findings.items = found?)
    {guards : List Expr} (noTest : ∀ guard ∈ guards, checkedItem? name guard = none)
    (some : guards ≠ []) (passed : List Passage) :
    (walk.scanAll walk.push name passed active
        (guards.map fun guard => .branch guard (.block body) none)).map Findings.items = found? := by
  induction guards with
  | nil => exact absurd rfl some
  | cons guard rest inductionHypothesis =>
    obtain ⟨here, later⟩ := List.forall_mem_cons.mp noTest
    rw [List.map_cons, scanAll_cons, scan_branch here, scan, scanOtherwise, Option.or_none,
      Option.map_or, same]
    -- What is not in the first copy is in none of the others.
    cases rest with
    | nil => exact Option.or_none
    | cons next others =>
      rw [inductionHypothesis later (List.cons_ne_nil next others), Option.or_self]

/-- Whether no test is understood as a guard. -/
def TestsUnknown (walk : Walk) : Prop :=
  ∀ name guard item, checkedItem? name guard = some item →
    (decompose walk.catalog guard).isOk = false

/-- A scan finds in the branches of a section what it finds in the section. -/
theorem scan_sectionBranches (unknown : walk.TestsUnknown) {name : String}
    {active : List Condition} {unfolded : List Stmt} {found? : Option (List Item)}
    (same : ∀ passed,
      (walk.scanAll walk.push name passed active unfolded).map Findings.items = found?)
    (scrutinee : Expr) (values : List Expr) (passed : List Passage) :
    (walk.scanAll walk.push name passed active
        (walk.sectionBranches scrutinee values unfolded)).map Findings.items = found? := by
  by_cases none : values.filter (walk.understands scrutinee) = []
  · rw [sectionBranches_eq_block none, scanAll_cons, scan, scanAll, Option.or_none, same]
  · rw [sectionBranches_eq none]
    refine scan_branches same (fun guard member => ?_) (mt List.map_eq_nil_iff.mp none) passed
    obtain ⟨value, valueMember, rfl⟩ := List.mem_map.mp member
    have understood := (Bool.and_eq_true_iff.mp (List.mem_filter.mp valueMember).2).2
    -- A guard that is understood is no test.
    refine Option.eq_none_iff_forall_ne_some.mpr fun item tested => ?_
    exact Bool.noConfusion (understood.symm.trans (unknown name _ item tested))

/-! ### Everything unfolded -/

/-- Unfolding leaves the declarations as they are. -/
theorem declares?_unfoldStmt (name : String) (stmt : Stmt) :
    declares? name (walk.unfoldStmt stmt) = declares? name stmt := by
  cases stmt <;> rfl

mutual

/-- An unfolded statement is found to offer what the statement offers. -/
theorem items_unfoldStmt (unknown : walk.TestsUnknown) {before other : List Stmt}
    (same : ∀ name, other.filterMap (declares? name) = before.filterMap (declares? name))
    (active : List Condition) :
    ∀ stmt : Stmt, (walk.stmt walk.push other active (walk.unfoldStmt stmt)).items =
      (walk.stmt walk.push before active stmt).items
  | .block body => items_unfoldStmts unknown (fun _ => rfl) active body
  | .branch condition whenTrue whenFalse => by
    rw [unfoldStmt, stmt, stmt, Findings.items_append, Findings.items_append,
      Findings.items_append, Findings.items_append,
      items_unfoldStmt unknown (fun _ => rfl) _ whenTrue,
      items_unfoldOtherwise unknown condition _ whenFalse]
  | .switch scrutinee sections => items_unfoldSections unknown scrutinee [] active sections
  | .forLoop init condition step body => by
    rw [unfoldStmt, stmt, stmt]
    cases loopShape init condition step with
    | unrecognized => rfl
    | malformed reason => rfl
    | counting name range =>
      dsimp only
      split
      · rcases Findings.searches_alike (items_unfoldScan unknown name active body [] []) with
          ⟨nothing, nothingToo⟩ | ⟨found, foundToo, searched, searchedToo, sameItems⟩
        · rw [nothing, nothingToo]
          rfl
        · rw [searched, searchedToo]
          exact sameItems
      · exact Findings.items_unrolling _ _ _ _
  | .whileLoop condition body => by
    rw [stmt_of_same_declarations same]
    exact Findings.items_unrolling _ _ _ _
  | .doWhile body condition | .foreach type name iterated body => by
    rw [unfoldStmt, stmt, stmt, Findings.items_append, Findings.items_append,
      items_unfoldStmt unknown (fun _ => rfl) active body, Findings.items_offering,
      Findings.items_offering]
  | .decl _ | .expr _ | .breakOut | .continueLoop | .empty => rfl
  | .returnValue value => by cases value <;> rfl
termination_by structural stmt => stmt

theorem items_unfoldOtherwise (unknown : walk.TestsUnknown) (condition : Expr)
    (active : List Condition) :
    ∀ stmt? : Option Stmt,
      (walk.otherwise walk.push condition active (walk.unfoldOtherwise stmt?)).items =
        (walk.otherwise walk.push condition active stmt?).items
  | none => rfl
  | some whenFalse => by
    rw [unfoldOtherwise, otherwise, otherwise, Findings.items_append, Findings.items_append,
      items_unfoldStmt unknown (fun _ => rfl) active whenFalse]
termination_by structural stmt? => stmt?

/-- Unfolded statements are found to offer what the statements offer. -/
theorem items_unfoldStmts (unknown : walk.TestsUnknown) {before other : List Stmt}
    (same : ∀ name, other.filterMap (declares? name) = before.filterMap (declares? name))
    (active : List Condition) :
    ∀ body : List Stmt, (walk.stmts walk.push other active (walk.unfoldStmts body)).items =
      (walk.stmts walk.push before active body).items
  | [] => rfl
  | first :: rest => by
    have sameLater (name : String) :
        (walk.unfoldStmt first :: other).filterMap (declares? name) =
          (first :: before).filterMap (declares? name) := by
      rw [List.filterMap_cons, List.filterMap_cons, declares?_unfoldStmt, same]
    rw [unfoldStmts, stmts, stmts, Findings.items_append, Findings.items_append,
      items_unfoldStmt unknown same, items_unfoldStmts unknown sameLater]
termination_by structural body => body

/-- What stands in the place of sections is found to offer what they offer. -/
theorem items_unfoldSections (unknown : walk.TestsUnknown) (scrutinee : Expr)
    (before : List Stmt) (active : List Condition) :
    ∀ parts : List SwitchSection,
      (walk.stmts walk.push before active (walk.unfoldSections scrutinee parts)).items =
        (walk.sections walk.push scrutinee active parts).items
  | [] => rfl
  | .mk labels body :: rest => by
    rw [unfoldSections, sections, stmts_append, Findings.items_append, Findings.items_append,
      items_unfoldSections unknown scrutinee _ active rest,
      items_sectionBranches _ _ _ _ fun active =>
        items_unfoldStmts unknown (fun _ => rfl) active body]
termination_by structural parts => parts

/-- A scan finds in an unfolded statement what it finds in the statement. The constructs that it has
passed on the way are others, but the items do not depend on them. -/
theorem items_unfoldScan (unknown : walk.TestsUnknown) (name : String)
    (active : List Condition) :
    ∀ (stmt : Stmt) (passed other : List Passage),
      (walk.scan walk.push name other active (walk.unfoldStmt stmt)).map Findings.items =
        (walk.scan walk.push name passed active stmt).map Findings.items
  | .block body, passed, other => items_unfoldScanAll unknown name active body passed other
  | .branch condition whenTrue whenFalse, passed, other => by
    rw [unfoldStmt]
    cases tested : checkedItem? name condition with
    | some item =>
      rw [scan, scan, tested]
      exact congrArg some (items_unfoldStmt unknown (fun _ => rfl) _ whenTrue)
    | none =>
      rw [scan_branch tested, scan_branch tested, Option.map_or, Option.map_or,
        items_unfoldScan unknown name active whenTrue,
        items_unfoldScanOtherwise unknown name active whenFalse]
  | .switch scrutinee parts, passed, other =>
    items_unfoldScanSections unknown name scrutinee active parts passed other
  | .forLoop _ _ _ body, _, _ => items_unfoldScan unknown name active body _ _
  | .whileLoop _ body, passed, other => items_unfoldScan unknown name active body passed other
  | .doWhile body _, passed, other => items_unfoldScan unknown name active body passed other
  | .foreach _ _ _ body, passed, other => items_unfoldScan unknown name active body passed other
  | .decl _, _, _ | .expr _, _, _ | .breakOut, _, _ | .continueLoop, _, _ | .returnValue _, _, _
  | .empty, _, _ => rfl

theorem items_unfoldScanOtherwise (unknown : walk.TestsUnknown) (name : String)
    (active : List Condition) :
    ∀ (stmt? : Option Stmt) (passed other : List Passage),
      (walk.scanOtherwise walk.push name other active (walk.unfoldOtherwise stmt?)).map
          Findings.items =
        (walk.scanOtherwise walk.push name passed active stmt?).map Findings.items
  | none, _, _ => rfl
  | some whenFalse, passed, other =>
    items_unfoldScan unknown name active whenFalse passed other

theorem items_unfoldScanAll (unknown : walk.TestsUnknown) (name : String)
    (active : List Condition) :
    ∀ (body : List Stmt) (passed other : List Passage),
      (walk.scanAll walk.push name other active (walk.unfoldStmts body)).map Findings.items =
        (walk.scanAll walk.push name passed active body).map Findings.items
  | [], _, _ => rfl
  | first :: rest, passed, other => by
    rw [unfoldStmts, scanAll_cons, scanAll_cons, Option.map_or, Option.map_or,
      items_unfoldScan unknown name active first passed other,
      items_unfoldScanAll unknown name active rest passed other]

theorem items_unfoldScanSections (unknown : walk.TestsUnknown) (name : String)
    (scrutinee : Expr) (active : List Condition) :
    ∀ (parts : List SwitchSection) (passed other : List Passage),
      (walk.scanAll walk.push name other active (walk.unfoldSections scrutinee parts)).map
          Findings.items =
        (walk.scanSections walk.push name scrutinee passed active parts).map Findings.items
  | [], _, _ => rfl
  | .mk labels body :: rest, passed, other => by
    have searched (passedTo : List Passage) :=
      items_unfoldScanAll unknown name active body
        (passed ++ [.labels scrutinee (labels.filterMap CaseLabel.value?)]) passedTo
    rw [unfoldSections, scanAll_append, scanSections_cons, Option.map_or, Option.map_or,
      scan_sectionBranches unknown searched,
      items_unfoldScanSections unknown name scrutinee active rest passed other]

end

/-! ### No switch is left -/

end Walk

/-- Whether a statement is a switch. -/
def isSwitch : Stmt → Bool
  | .switch _ _ => true
  | _ => false

/-- Whether there is no switch among statements. -/
def NoSwitch (nodes : List Stmt) : Prop := ∀ node ∈ nodes, isSwitch node = false

theorem noSwitch_cons {first : Stmt} {rest : List Stmt} :
    NoSwitch (first :: rest) ↔ isSwitch first = false ∧ NoSwitch rest := List.forall_mem_cons

theorem noSwitch_append {nodes others : List Stmt} :
    NoSwitch (nodes ++ others) ↔ NoSwitch nodes ∧ NoSwitch others := List.forall_mem_append

theorem noSwitch_nil : NoSwitch [] := List.forall_mem_nil _

theorem noSwitch_nodesOf {body : List Stmt} (each : ∀ stmt ∈ body, NoSwitch stmt.nodes) :
    NoSwitch (nodesOf body) := by
  induction body with
  | nil => exact noSwitch_nil
  | cons first rest inductionHypothesis =>
    obtain ⟨here, later⟩ := List.forall_mem_cons.mp each
    exact noSwitch_append.mpr ⟨here, inductionHypothesis later⟩

theorem noSwitch_nodesOf_append {body later : List Stmt} (first : NoSwitch (nodesOf body))
    (rest : NoSwitch (nodesOf later)) : NoSwitch (nodesOf (body ++ later)) := by
  induction body with
  | nil => exact rest
  | cons stmt others inductionHypothesis =>
    obtain ⟨here, within⟩ := noSwitch_append.mp first
    exact noSwitch_append.mpr ⟨here, inductionHypothesis within⟩

namespace Walk

variable {walk : Walk}

/-- The branches of a section hold the statements of the section. -/
theorem noSwitch_sectionBranches (scrutinee : Expr) (values : List Expr) {body : List Stmt}
    (none : NoSwitch (nodesOf body)) :
    NoSwitch (nodesOf (walk.sectionBranches scrutinee values body)) := by
  have alone : NoSwitch (Stmt.block body).nodes := noSwitch_cons.mpr ⟨rfl, none⟩
  refine noSwitch_nodesOf fun stmt member => ?_
  by_cases nothing : values.filter (walk.understands scrutinee) = []
  · rw [sectionBranches_eq_block nothing] at member
    rw [List.mem_singleton.mp member]
    exact alone
  · rw [sectionBranches_eq nothing] at member
    obtain ⟨guard, -, rfl⟩ := List.mem_map.mp member
    exact noSwitch_cons.mpr ⟨rfl, alone⟩

mutual

theorem noSwitch_unfoldStmt : ∀ stmt : Stmt, NoSwitch (walk.unfoldStmt stmt).nodes
  | .block body => noSwitch_cons.mpr ⟨rfl, noSwitch_unfoldStmts body⟩
  | .branch _ whenTrue none => noSwitch_cons.mpr ⟨rfl, noSwitch_unfoldStmt whenTrue⟩
  | .branch _ whenTrue (some whenFalse) =>
    noSwitch_cons.mpr ⟨rfl, noSwitch_append.mpr
      ⟨noSwitch_unfoldStmt whenTrue, noSwitch_unfoldStmt whenFalse⟩⟩
  | .switch scrutinee parts => noSwitch_cons.mpr ⟨rfl, noSwitch_unfoldSections scrutinee parts⟩
  | .forLoop _ _ _ body | .whileLoop _ body | .doWhile body _ | .foreach _ _ _ body =>
    noSwitch_cons.mpr ⟨rfl, noSwitch_unfoldStmt body⟩
  | .decl _ | .expr _ | .breakOut | .continueLoop | .returnValue _ | .empty =>
    noSwitch_cons.mpr ⟨rfl, noSwitch_nil⟩

theorem noSwitch_unfoldStmts : ∀ body : List Stmt, NoSwitch (nodesOf (walk.unfoldStmts body))
  | [] => noSwitch_nil
  | first :: rest => noSwitch_append.mpr ⟨noSwitch_unfoldStmt first, noSwitch_unfoldStmts rest⟩

theorem noSwitch_unfoldSections (scrutinee : Expr) :
    ∀ parts : List SwitchSection, NoSwitch (nodesOf (walk.unfoldSections scrutinee parts))
  | [] => noSwitch_nil
  | .mk labels body :: rest =>
    noSwitch_nodesOf_append
      (noSwitch_sectionBranches scrutinee (labels.filterMap CaseLabel.value?)
        (noSwitch_unfoldStmts body))
      (noSwitch_unfoldSections scrutinee rest)

end

/-! ### What a procedure offers -/

/-- With the built-in table no test is understood as a guard. -/
theorem testsUnknown_builtin (settings : Settings) (shop : Int) :
    (Walk.mk builtinCatalog settings shop).TestsUnknown := by
  intro name guard item tested
  show (decompose builtinCatalog guard).isOk = false
  rw [decompose_of_checkedItem? tested]
  rfl

/-- Unfolding all nested switches of a procedure, however deep they stand, leaves none, and with the
built-in table the procedure offers the same items in the same order and under the same
conditions. -/
theorem items_run_unfoldStmts (settings : Settings) (shop : Int) (body : List Stmt) :
    NoSwitch (nodesOf ((Walk.mk builtinCatalog settings shop).unfoldStmts body)) ∧
      ((Walk.mk builtinCatalog settings shop).run
          ((Walk.mk builtinCatalog settings shop).unfoldStmts body)).1.items =
        ((Walk.mk builtinCatalog settings shop).run body).1.items := by
  refine ⟨noSwitch_unfoldStmts body, ?_⟩
  rw [items_run_push, items_run_push]
  exact items_unfoldStmts (testsUnknown_builtin settings shop) (fun _ => rfl) [] body

end Walk

end Storefront.Survey
