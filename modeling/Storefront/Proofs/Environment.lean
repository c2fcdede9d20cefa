import Storefront.Survey.Walk

/-!
The walk with an environment in the place of the stack. A construct that may set conditions is a
frame. Entering a frame makes a new environment, which is handed down to the statements within the
construct and to nothing else; what is found there is a value. What an environment is and what
entering a frame does to it are left open: it may be the list of the conditions that hold, or the
list of the frames themselves.

The walk only hands environments down. A function that turns the environments of one kind into those
of another kind, and respects the entering of frames, therefore does the same to everything found.
-/

namespace Storefront.Survey

open Storefront.Guard Storefront.Script Storefront.Stock

/-! ### Frames -/

/-- A construct on the way from a scan of the inventory down to its test for an item. -/
inductive Passage where
  | whenTrue (condition : Expr)
  | whenFalse (condition : Expr)
  /-- A section of a nested switch, with the values of its labels. -/
  | labels (scrutinee : Expr) (values : List Expr)
  /-- Another loop over the inventory, which counts the variable. -/
  | scan (name : String)

/-- A construct that a walk enters and that may set conditions for the statements within it. -/
inductive Frame where
  | whenTrue (condition : Expr)
  | whenFalse (condition : Expr)
  /-- A section of a nested switch, by way of one of its labels. -/
  | label (scrutinee value : Expr)
  /-- A scan of the inventory, the constructs between it and its test, and the item of the test. -/
  | scan (passed : List Passage) (item : Int)

/-- The conditions that were understood, none if they were not. -/
def understood {Fault : Type} : Except Fault (List Condition) → List Condition
  | .ok conditions => conditions
  | .error _ => []

/-- The conditions that a frame sets. -/
def Walk.conditionsOf (walk : Walk) : Frame → List Condition
  | .whenTrue condition => understood (decompose walk.catalog condition)
  | .whenFalse condition => inverted (understood (decompose walk.catalog condition))
  | .label scrutinee value => understood (walk.label scrutinee value)
  | .scan _ item => [carries item]

/-- The conditions that hold within a frame. -/
def Walk.push (walk : Walk) (active : List Condition) (frame : Frame) : List Condition :=
  active ++ walk.conditionsOf frame

/-! ### Findings -/

/-- An item on offer, the statement that registers it, and the environment of that statement. -/
structure Offer (Env : Type) where
  id : Int
  source : Stmt
  place : Env

/-- The same offer in another environment. -/
def Offer.map {Env Other : Type} (turn : Env → Other) (offer : Offer Env) : Offer Other :=
  { offer with place := turn offer.place }

/-- The item of an offer whose environment is the conditions that hold. -/
def Offer.item (offer : Offer (List Condition)) : Item := ⟨offer.id, offer.place⟩

/-- What a part of a procedure was found to offer, and what was not understood in it. -/
structure Findings (Env : Type) where
  offers : List (Offer Env)
  notes : List Diagnostic

namespace Findings

variable {Env Other : Type}

/-- Nothing found. -/
def none : Findings Env := ⟨[], []⟩

/-- The findings of one part and then of another. -/
protected def append (first second : Findings Env) : Findings Env :=
  ⟨first.offers ++ second.offers, first.notes ++ second.notes⟩

instance : Append (Findings Env) := ⟨Findings.append⟩

/-- The findings of parts one after the other. -/
def concat (parts : List (Findings Env)) : Findings Env := parts.foldr (· ++ ·) none

/-- Diagnostics alone. -/
def note (diagnostics : List Diagnostic) : Findings Env := ⟨[], diagnostics⟩

/-- Items that one statement registers. -/
def offering (source : Stmt) (place : Env) (ids : List Int) : Findings Env :=
  ⟨ids.map fun id => ⟨id, source, place⟩, []⟩

/-- The items that a loop stands for, or why it stands for none. -/
def unrolling (source : Stmt) (place : Env) : Except Diagnostic (List Int) → Findings Env
  | .ok ids => offering source place ids
  | .error diagnostic => note [diagnostic]

/-- The same findings in other environments. -/
def map (turn : Env → Other) (found : Findings Env) : Findings Other :=
  ⟨found.offers.map (Offer.map turn), found.notes⟩

@[simp] theorem offers_append (first second : Findings Env) :
    (first ++ second).offers = first.offers ++ second.offers := rfl

@[simp] theorem notes_append (first second : Findings Env) :
    (first ++ second).notes = first.notes ++ second.notes := rfl

theorem offers_concat (parts : List (Findings Env)) :
    (concat parts).offers = parts.flatMap offers := by
  induction parts with
  | nil => rfl
  | cons first rest inductionHypothesis =>
    rw [List.flatMap_cons, ← inductionHypothesis]
    rfl

theorem notes_concat (parts : List (Findings Env)) :
    (concat parts).notes = parts.flatMap notes := by
  induction parts with
  | nil => rfl
  | cons first rest inductionHypothesis =>
    rw [List.flatMap_cons, ← inductionHypothesis]
    rfl

theorem append_assoc (first second third : Findings Env) :
    first ++ second ++ third = first ++ (second ++ third) := by
  show Findings.mk _ _ = Findings.mk _ _
  rw [offers_append, notes_append, List.append_assoc, List.append_assoc]
  rfl

@[simp] theorem map_none (turn : Env → Other) : (none : Findings Env).map turn = none := rfl

@[simp] theorem map_append (turn : Env → Other) (first second : Findings Env) :
    (first ++ second).map turn = first.map turn ++ second.map turn := by
  show Findings.mk _ _ = Findings.mk _ _
  rw [offers_append, List.map_append]
  rfl

@[simp] theorem map_concat (turn : Env → Other) (parts : List (Findings Env)) :
    (concat parts).map turn = concat (parts.map (map turn)) := by
  induction parts with
  | nil => rfl
  | cons first rest inductionHypothesis =>
    rw [List.map_cons, concat, List.foldr_cons, map_append]
    exact congrArg (first.map turn ++ ·) inductionHypothesis

/-- What is offered in another environment is an offer turned to it. -/
theorem exists_of_mem_map {turn : Env → Other} {found : Findings Env} {offer : Offer Other}
    (member : offer ∈ (found.map turn).offers) : ∃ alone ∈ found.offers, offer = alone.map turn := by
  obtain ⟨alone, aloneMember, same⟩ := List.mem_map.mp member
  exact ⟨alone, aloneMember, same.symm⟩

@[simp] theorem map_note (turn : Env → Other) (diagnostics : List Diagnostic) :
    (note diagnostics : Findings Env).map turn = note diagnostics := rfl

@[simp] theorem map_offering (turn : Env → Other) (source : Stmt) (place : Env)
    (ids : List Int) :
    (offering source place ids).map turn = offering source (turn place) ids := by
  simp only [map, offering, List.map_map]
  rfl

@[simp] theorem map_unrolling (turn : Env → Other) (source : Stmt) (place : Env)
    (outcome : Except Diagnostic (List Int)) :
    (unrolling source place outcome).map turn = unrolling source (turn place) outcome := by
  cases outcome with
  | ok ids => exact map_offering turn source place ids
  | error diagnostic => rfl

end Findings

/-! ### The walk -/

namespace Walk

section Walking

variable {Env : Type} (walk : Walk) (enter : Env → Frame → Env)

/-- The diagnostics for a branch if its guard is not understood. -/
def guardNotes (condition : Expr) : List Diagnostic :=
  match decompose walk.catalog condition with
  | .ok _ => []
  | .error fault => walk.noteGuard condition fault

/-- The diagnostics for the other side of a branch. -/
def inversionNotes (condition : Expr) : List Diagnostic :=
  walk.noteInverted condition (understood (decompose walk.catalog condition))

/-- What a section is found to hold by way of one of its labels. -/
def throughLabel (scrutinee : Expr) (inside : Env → Findings Env) (active : Env) (value : Expr) :
    Findings Env :=
  match walk.label scrutinee value with
  | .ok _ => inside (enter active (.label scrutinee value))
  | .error diagnostics => .note diagnostics

/-- What a section is found to hold by way of all of its labels, or of none if none is
understood. -/
def throughLabels (scrutinee : Expr) (inside : Env → Findings Env) (active : Env)
    (values : List Expr) : Findings Env :=
  let found := Findings.concat (values.map (walk.throughLabel enter scrutinee inside active))
  if values.any fun value => (walk.label scrutinee value).isOk then found
  else found ++ inside active

/-- The variable of a loop over the inventory. -/
def scanned? (init : Option ForInit) (condition : Option Expr) (step : List Expr) :
    Option String :=
  match loopShape init condition step with
  | .counting name range =>
    if range.start = 0 && walk.settings.isInventoryBound range.stop then some name else none
  | _ => none

/-- The passage through a counting loop; a loop that does not run over the inventory sets no
conditions. -/
def loopPassage (init : Option ForInit) (condition : Option Expr) (step : List Expr) :
    List Passage :=
  ((walk.scanned? init condition step).map Passage.scan).toList

mutual

/-- What a statement is found to hold. -/
def stmt (before : List Stmt) (active : Env) : Stmt → Findings Env
  | .block body => stmts [] active body
  | .decl declared =>
    .offering (.decl declared) active (registrationsOfDecl walk.settings declared)
  | .expr evaluated =>
    .offering (.expr evaluated) active (registrations walk.settings evaluated)
  | .branch condition whenTrue whenFalse =>
    .note (walk.guardNotes condition) ++ stmt [] (enter active (.whenTrue condition)) whenTrue ++
      otherwise condition (enter active (.whenFalse condition)) whenFalse
  | .switch scrutinee parts => sections scrutinee active parts
  | .forLoop init condition step body =>
    match loopShape init condition step with
    | .unrecognized =>
      .note [walk.diagnostic .unrecognizedLoop (Stmt.forLoop init condition step body).header
        "loop is not a counting loop over literal bounds; skipped"]
    | .malformed reason =>
      .note [walk.diagnostic .malformedBound (Stmt.forLoop init condition step body).header reason]
    | .counting name range =>
      if range.start = 0 && walk.settings.isInventoryBound range.stop then
        match scan name [] active body with
        | some found => found
        | none =>
          .note [walk.diagnostic .unrecognizedLoop (Stmt.forLoop init condition step body).header
            ("inventory scan has no `inventory[" ++ name ++ "].type == <id>` check")]
      else
        .unrolling (.forLoop init condition step body) active
          (walk.rangeItems (.forLoop init condition step body) range)
  | .whileLoop condition body =>
    .unrolling (.whileLoop condition body) active
      (walk.filledItems before (.whileLoop condition body) condition)
  | .doWhile body condition =>
    stmt [] active body ++
      .offering (.doWhile body condition) active (registrations walk.settings condition)
  | .foreach type name iterated body =>
    .offering (.foreach type name iterated body) active (registrations walk.settings iterated) ++
      stmt [] active body
  | .returnValue (some value) =>
    .offering (.returnValue (some value)) active (registrations walk.settings value)
  | .returnValue none | .breakOut | .continueLoop | .empty => .none

/-- What the other side of a branch is found to hold. -/
def otherwise (condition : Expr) (active : Env) : Option Stmt → Findings Env
  | none => .none
  | some whenFalse => .note (walk.inversionNotes condition) ++ stmt [] active whenFalse

/-- What statements are found to hold, one after the other. -/
def stmts (before : List Stmt) (active : Env) : List Stmt → Findings Env
  | [] => .none
  | first :: rest => stmt before active first ++ stmts (first :: before) active rest

/-- What the sections of a nested switch are found to hold. -/
def sections (scrutinee : Expr) (active : Env) : List SwitchSection → Findings Env
  | [] => .none
  | .mk labels body :: rest =>
    walk.throughLabels enter scrutinee (fun active => stmts [] active body) active
        (labels.filterMap CaseLabel.value?) ++
      sections scrutinee active rest

/-- What the first test for an item in the slot of a variable guards, and is found to hold. `passed`
holds the constructs between the scan and the statement. -/
def scan (name : String) (passed : List Passage) (active : Env) : Stmt → Option (Findings Env)
  | .block body => scanAll name passed active body
  | .branch condition whenTrue whenFalse =>
    match checkedItem? name condition with
    | some item => some (stmt [] (enter active (.scan passed item)) whenTrue)
    | none =>
      match scan name (passed ++ [.whenTrue condition]) active whenTrue with
      | some found => some found
      | none => scanOtherwise name (passed ++ [.whenFalse condition]) active whenFalse
  | .switch scrutinee parts => scanSections name scrutinee passed active parts
  | .forLoop init condition step body =>
    scan name (passed ++ walk.loopPassage init condition step) active body
  | .whileLoop _ body => scan name passed active body
  | .doWhile body _ => scan name passed active body
  | .foreach _ _ _ body => scan name passed active body
  | .decl _ | .expr _ | .breakOut | .continueLoop | .returnValue _ | .empty => none

/-- Searches the other side of a branch. -/
def scanOtherwise (name : String) (passed : List Passage) (active : Env) :
    Option Stmt → Option (Findings Env)
  | none => none
  | some whenFalse => scan name passed active whenFalse

/-- Searches statements one after the other. -/
def scanAll (name : String) (passed : List Passage) (active : Env) :
    List Stmt → Option (Findings Env)
  | [] => none
  | first :: rest =>
    match scan name passed active first with
    | some found => some found
    | none => scanAll name passed active rest

/-- Searches the sections of a switch one after the other. -/
def scanSections (name : String) (scrutinee : Expr) (passed : List Passage) (active : Env) :
    List SwitchSection → Option (Findings Env)
  | [] => none
  | .mk labels body :: rest =>
    match scanAll name (passed ++ [.labels scrutinee (labels.filterMap CaseLabel.value?)]) active
        body with
    | some found => some found
    | none => scanSections name scrutinee passed active rest

end

end Walking

/-! ### Environments of another kind -/

/-- Whether a function on environments respects the entering of frames. -/
def Respects {Env Other : Type} (enter : Env → Frame → Env) (enterOther : Other → Frame → Other)
    (turn : Env → Other) : Prop :=
  ∀ active frame, turn (enter active frame) = enterOther (turn active) frame

section Turning

variable {Env Other : Type} (walk : Walk) {enter : Env → Frame → Env}
  {enterOther : Other → Frame → Other} {turn : Env → Other}

theorem throughLabel_map (respects : Respects enter enterOther turn) (scrutinee : Expr)
    (inside : Env → Findings Env) (insideOther : Other → Findings Other)
    (same : ∀ active, (inside active).map turn = insideOther (turn active)) (active : Env)
    (value : Expr) :
    (walk.throughLabel enter scrutinee inside active value).map turn =
      walk.throughLabel enterOther scrutinee insideOther (turn active) value := by
  unfold throughLabel
  cases walk.label scrutinee value with
  | ok conditions => rw [same, respects]
  | error diagnostics => exact Findings.map_note turn diagnostics

theorem throughLabels_map (respects : Respects enter enterOther turn) (scrutinee : Expr)
    (inside : Env → Findings Env) (insideOther : Other → Findings Other)
    (same : ∀ active, (inside active).map turn = insideOther (turn active)) (active : Env)
    (values : List Expr) :
    (walk.throughLabels enter scrutinee inside active values).map turn =
      walk.throughLabels enterOther scrutinee insideOther (turn active) values := by
  have each : (Findings.map turn) ∘ walk.throughLabel enter scrutinee inside active =
      walk.throughLabel enterOther scrutinee insideOther (turn active) :=
    funext (walk.throughLabel_map respects scrutinee inside insideOther same active)
  unfold throughLabels
  split
  · rw [Findings.map_concat, List.map_map, each]
  · rw [Findings.map_append, Findings.map_concat, List.map_map, each, same]

mutual

/-- What a statement is found to hold in another environment. -/
theorem stmt_map (respects : Respects enter enterOther turn) (before : List Stmt)
    (active : Env) :
    ∀ stmt : Stmt, (walk.stmt enter before active stmt).map turn =
      walk.stmt enterOther before (turn active) stmt
  | .block body => stmts_map respects [] active body
  | .decl _ => Findings.map_offering _ _ _ _
  | .expr _ => Findings.map_offering _ _ _ _
  | .branch condition whenTrue whenFalse => by
    rw [stmt, stmt, Findings.map_append, Findings.map_append, stmt_map respects,
      otherwise_map respects, respects, respects, Findings.map_note]
  | .switch scrutinee parts => sections_map respects scrutinee active parts
  | .forLoop init condition step body => by
    rw [stmt, stmt]
    cases loopShape init condition step with
    | unrecognized => rfl
    | malformed reason => rfl
    | counting name range =>
      dsimp only
      split
      · rw [← scan_map respects name [] active body]
        cases walk.scan enter name [] active body <;> rfl
      · exact Findings.map_unrolling _ _ _ _
  | .whileLoop _ _ => Findings.map_unrolling _ _ _ _
  | .doWhile body condition | .foreach type name iterated body => by
    rw [stmt, stmt, Findings.map_append, stmt_map respects, Findings.map_offering]
  | .returnValue (some _) => Findings.map_offering _ _ _ _
  | .returnValue none | .breakOut | .continueLoop | .empty => rfl

theorem otherwise_map (respects : Respects enter enterOther turn) (condition : Expr)
    (active : Env) :
    ∀ stmt? : Option Stmt, (walk.otherwise enter condition active stmt?).map turn =
      walk.otherwise enterOther condition (turn active) stmt?
  | none => rfl
  | some whenFalse => by
    rw [otherwise, otherwise, Findings.map_append, stmt_map respects, Findings.map_note]

/-- What statements are found to hold in another environment. -/
theorem stmts_map (respects : Respects enter enterOther turn) (before : List Stmt)
    (active : Env) :
    ∀ body : List Stmt, (walk.stmts enter before active body).map turn =
      walk.stmts enterOther before (turn active) body
  | [] => rfl
  | first :: rest => by
    rw [stmts, stmts, Findings.map_append, stmt_map respects, stmts_map respects]

theorem sections_map (respects : Respects enter enterOther turn) (scrutinee : Expr)
    (active : Env) :
    ∀ parts : List SwitchSection, (walk.sections enter scrutinee active parts).map turn =
      walk.sections enterOther scrutinee (turn active) parts
  | [] => rfl
  | .mk labels body :: rest => by
    rw [sections, sections, Findings.map_append, sections_map respects,
      walk.throughLabels_map respects scrutinee (fun active => walk.stmts enter [] active body)
        (fun active => walk.stmts enterOther [] active body)
        fun active => stmts_map respects [] active body]

theorem scan_map (respects : Respects enter enterOther turn) (name : String)
    (passed : List Passage) (active : Env) :
    ∀ stmt : Stmt, (walk.scan enter name passed active stmt).map (Findings.map turn) =
      walk.scan enterOther name passed (turn active) stmt
  | .block body => scanAll_map respects name passed active body
  | .branch condition whenTrue whenFalse => by
    rw [scan, scan]
    cases checkedItem? name condition with
    | some item =>
      rw [Option.map_some, stmt_map respects, respects]
    | none =>
      rw [← scan_map respects name (passed ++ [Passage.whenTrue condition]) active whenTrue]
      cases walk.scan enter name (passed ++ [Passage.whenTrue condition]) active whenTrue with
      | some found => rfl
      | none => exact scanOtherwise_map respects name _ active whenFalse
  | .switch scrutinee parts => scanSections_map respects name scrutinee passed active parts
  | .forLoop _ _ _ body => scan_map respects name _ active body
  | .whileLoop _ body => scan_map respects name passed active body
  | .doWhile body _ => scan_map respects name passed active body
  | .foreach _ _ _ body => scan_map respects name passed active body
  | .decl _ | .expr _ | .breakOut | .continueLoop | .returnValue _ | .empty => rfl

theorem scanOtherwise_map (respects : Respects enter enterOther turn) (name : String)
    (passed : List Passage) (active : Env) :
    ∀ stmt? : Option Stmt, (walk.scanOtherwise enter name passed active stmt?).map
        (Findings.map turn) =
      walk.scanOtherwise enterOther name passed (turn active) stmt?
  | none => rfl
  | some whenFalse => scan_map respects name passed active whenFalse

theorem scanAll_map (respects : Respects enter enterOther turn) (name : String)
    (passed : List Passage) (active : Env) :
    ∀ body : List Stmt, (walk.scanAll enter name passed active body).map (Findings.map turn) =
      walk.scanAll enterOther name passed (turn active) body
  | [] => rfl
  | first :: rest => by
    rw [scanAll, scanAll, ← scan_map respects name passed active first]
    cases walk.scan enter name passed active first with
    | some found => rfl
    | none => exact scanAll_map respects name passed active rest

theorem scanSections_map (respects : Respects enter enterOther turn) (name : String)
    (scrutinee : Expr) (passed : List Passage) (active : Env) :
    ∀ parts : List SwitchSection,
      (walk.scanSections enter name scrutinee passed active parts).map (Findings.map turn) =
        walk.scanSections enterOther name scrutinee passed (turn active) parts
  | [] => rfl
  | .mk labels body :: rest => by
    rw [scanSections, scanSections, ← scanAll_map respects name _ active body]
    cases walk.scanAll enter name
        (passed ++ [.labels scrutinee (labels.filterMap CaseLabel.value?)]) active body with
    | some found => rfl
    | none => exact scanSections_map respects name scrutinee passed active rest

end

end Turning

end Walk

end Storefront.Survey
