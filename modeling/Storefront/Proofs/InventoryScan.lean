import Storefront.Proofs.Branching
import Storefront.Proofs.LoopRanges
import Storefront.Proofs.Notes
import Storefront.Proofs.SlotTest

/-!
Scans of the inventory. A loop that counts from zero to the number of slots is taken for a scan. It
is not visited like other loops. In its body, with all statements within it in the order in which
they are written, the first branch is looked for that tests the slot of the loop's variable. What
this branch guards is visited once, under one more condition, and nothing else of the body is
visited at all. If there is no such branch, nothing is offered and one diagnostic is left.

Of the head of the loop only the variable counts, and that it is a scan.
-/

namespace Storefront.Survey

open Storefront.Guard Storefront.Pattern Storefront.Script Storefront.Stock

/-! ### The first test -/

/-- A branch tests whether the slot of a variable holds an item, and guards a statement by it. -/
inductive Tests (name : String) (item : Int) (guarded : Stmt) : Stmt → Prop where
  | branch {player : Expr} {whenFalse : Option Stmt} (known : player ∈ localPlayers) :
      Tests name item guarded (.branch (inventoryTest player name item) guarded whenFalse)

/-- No statement tests the slot of a variable. -/
def NoTest (name : String) (nodes : List Stmt) : Prop :=
  ∀ node ∈ nodes, ∀ item guarded, ¬ Tests name item guarded node

/-- The first statement that tests the slot of a variable tests for an item, and guards a statement
by it. -/
def FirstTest (name : String) (nodes : List Stmt) (item : Int) (guarded : Stmt) : Prop :=
  ∃ earlier test later, nodes = earlier ++ test :: later ∧ Tests name item guarded test ∧
    NoTest name earlier

/-- The item that a statement tests for in the slot of a variable, and what it guards. -/
def tested? (name : String) : Stmt → Option (Int × Stmt)
  | .branch condition whenTrue _ =>
    (Walk.checkedItem? name condition).map fun item => (item, whenTrue)
  | _ => none

section

variable {name : String} {item : Int} {guarded : Stmt} {nodes : List Stmt}

theorem tested?_eq_some_iff {node : Stmt} :
    tested? name node = some (item, guarded) ↔ Tests name item guarded node := by
  constructor
  · intro found
    unfold tested? at found
    split at found
    · obtain ⟨item', checked, same⟩ := Option.map_eq_some_iff.mp found
      cases same
      obtain ⟨player, known, rfl⟩ := checkedItem?_eq_some_iff.mp checked
      exact .branch known
    · cases found
  · rintro ⟨known⟩
    rw [tested?, checkedItem?_eq_some_iff.mpr ⟨_, known, rfl⟩]
    rfl

theorem tested?_eq_none_iff {node : Stmt} :
    tested? name node = none ↔ ∀ item guarded, ¬ Tests name item guarded node := by
  rw [Option.eq_none_iff_forall_ne_some]
  constructor
  · exact fun none item guarded tests => none _ (tested?_eq_some_iff.mpr tests)
  · exact fun none found same => none found.1 found.2 (tested?_eq_some_iff.mp same)

theorem findSome?_tested?_eq_some_iff :
    nodes.findSome? (tested? name) = some (item, guarded) ↔ FirstTest name nodes item guarded := by
  rw [List.findSome?_eq_some_iff]
  simp only [tested?_eq_some_iff, tested?_eq_none_iff]
  rfl

theorem findSome?_tested?_eq_none_iff :
    nodes.findSome? (tested? name) = none ↔ NoTest name nodes := by
  rw [List.findSome?_eq_none_iff]
  simp only [tested?_eq_none_iff]
  rfl

/-- There is a first test, or no test at all. -/
theorem firstTest_or_noTest (name : String) (nodes : List Stmt) :
    (∃ item guarded, FirstTest name nodes item guarded) ∨ NoTest name nodes := by
  cases found : nodes.findSome? (tested? name) with
  | some found' => exact Or.inl ⟨_, _, findSome?_tested?_eq_some_iff.mp found⟩
  | none => exact Or.inr (findSome?_tested?_eq_none_iff.mp found)

end

namespace Walk

variable (walk : Walk)

/-! ### The search -/

/-- Visits what a test guards, under the condition that the player carries the item. -/
def visitTested (found : Int × Stmt) : Walker → Walker :=
  Walker.within [carries found.1] (walk.visit [] found.2)

mutual

/-- The search finds the first test among a statement and all statements within it. -/
theorem visitCheck_eq (name : String) : ∀ stmt : Stmt,
    walk.visitCheck name stmt = (stmt.nodes.findSome? (tested? name)).map walk.visitTested
  | .block body => by
    rw [visitCheck, Stmt.nodes, List.findSome?_cons, visitCheckAll_eq name body]
    rfl
  | .branch condition whenTrue none => by
    rw [visitCheck, Stmt.nodes, List.findSome?_cons, tested?]
    cases checkedItem? name condition with
    | some item => rfl
    | none =>
      dsimp only [Option.map_none]
      rw [← visitCheck_eq name whenTrue]
      cases walk.visitCheck name whenTrue <;> rfl
  | .branch condition whenTrue (some whenFalse) => by
    rw [visitCheck, Stmt.nodes, List.findSome?_cons, tested?]
    cases checkedItem? name condition with
    | some item => rfl
    | none =>
      dsimp only [Option.map_none]
      rw [List.findSome?_append, Option.map_or, ← visitCheck_eq name whenTrue,
        ← visitCheck_eq name whenFalse]
      cases walk.visitCheck name whenTrue <;> rfl
  | .switch scrutinee sections => by
    rw [visitCheck, Stmt.nodes, List.findSome?_cons, visitCheckSections_eq name sections]
    rfl
  | .forLoop _ _ _ body | .whileLoop _ body | .doWhile body _ | .foreach _ _ _ body => by
    rw [visitCheck, Stmt.nodes, List.findSome?_cons, visitCheck_eq name body]
    rfl
  | .decl _ | .expr _ | .breakOut | .continueLoop | .returnValue _ | .empty => rfl

theorem visitCheckAll_eq (name : String) : ∀ body : List Stmt,
    walk.visitCheckAll name body = ((nodesOf body).findSome? (tested? name)).map walk.visitTested
  | [] => rfl
  | first :: rest => by
    rw [visitCheckAll, nodesOf, List.findSome?_append, Option.map_or,
      ← visitCheck_eq name first, ← visitCheckAll_eq name rest]
    cases walk.visitCheck name first <;> rfl

theorem visitCheckSections_eq (name : String) : ∀ parts : List SwitchSection,
    walk.visitCheckSections name parts =
      ((nodesOfSections parts).findSome? (tested? name)).map walk.visitTested
  | [] => rfl
  | .mk labels body :: rest => by
    rw [visitCheckSections, nodesOfSections, List.findSome?_append, Option.map_or,
      ← visitCheckAll_eq name body, ← visitCheckSections_eq name rest]
    cases walk.visitCheckAll name body <;> rfl

end

/-! ### Visiting a scan -/

theorem conditions_visit (before : List Stmt) (stmt : Stmt) (walker : Walker) :
    (walk.visit before stmt walker).conditions = walker.conditions := by
  rw [walk.visit_gathers before stmt walker, Walker.conditions_gather]

/-- The conditions on the stack are those of before after what a test guards. -/
theorem visitTested_eq (item : Int) (guarded : Stmt) (walker : Walker) :
    walk.visitTested (item, guarded) walker =
      { walk.visit [] guarded
          { walker with conditions := walker.conditions ++ [carries item] } with
        conditions := walker.conditions } := by
  rw [visitTested, Walker.within, conditions_visit, List.take_left]

/-- The diagnostic for a scan without a test. -/
def noteScan (name : String) (scan : Stmt) : Diagnostic :=
  walk.diagnostic .unrecognizedLoop scan.header
    ("inventory scan has no `inventory[" ++ name ++ "].type == <id>` check")

variable {walk}

/-- A scan visits what the first test guards, or leaves a diagnostic. -/
theorem visit_of_counts (before : List Stmt) {name : String} {bound : Int} {closed : Bool}
    {init : Option ForInit} {condition : Option Expr} {step : List Expr} (body : Stmt)
    (counts : Counts name ⟨0, bound, closed⟩ init condition step)
    (configured : bound ∈ walk.settings.inventorySlotCounts) (walker : Walker) :
    walk.visit before (.forLoop init condition step body) walker =
      match body.nodes.findSome? (tested? name) with
      | some found => walk.visitTested found walker
      | none => walker.note [walk.noteScan name (.forLoop init condition step body)] := by
  have scans : ((0 : Int) = 0 && walk.settings.isInventoryBound bound) = true :=
    Bool.and_eq_true_iff.mpr ⟨rfl, List.contains_iff_mem.mpr configured⟩
  rw [visit, loopShape_eq_counting_iff.mpr counts]
  dsimp only
  rw [if_pos scans, visitCheck_eq]
  cases body.nodes.findSome? (tested? name) <;> rfl

/-- A scan of the inventory contributes what a single visit of the statement contributes that the
first test of its body guards, under the conditions on the stack and the condition that the player
carries the item of the test. Without a test it contributes nothing but one diagnostic. Of the head
of the loop only the variable counts: another head that scans the inventory with this variable gives
the same, except that the diagnostic quotes its own loop. -/
theorem visit_inventoryScan (walk : Walk) (before : List Stmt) {name : String} {bound : Int}
    {closed : Bool} {init : Option ForInit} {condition : Option Expr} {step : List Expr}
    (body : Stmt) (walker : Walker)
    (counts : Counts name ⟨0, bound, closed⟩ init condition step)
    (configured : bound ∈ walk.settings.inventorySlotCounts) :
    let scan := Stmt.forLoop init condition step body
    ((∃ item guarded, FirstTest name body.nodes item guarded) ∨ NoTest name body.nodes) ∧
      (∀ item guarded, FirstTest name body.nodes item guarded →
        walk.visit before scan walker =
          { walk.visit [] guarded
              { walker with conditions := walker.conditions ++ [carries item] } with
            conditions := walker.conditions }) ∧
      (NoTest name body.nodes →
        walk.visit before scan walker = walker.note [walk.noteScan name scan]) ∧
      ∀ (otherBefore : List Stmt) (otherBound : Int) (otherClosed : Bool)
        (otherInit : Option ForInit) (otherCondition : Option Expr) (otherStep : List Expr),
        Counts name ⟨0, otherBound, otherClosed⟩ otherInit otherCondition otherStep →
        otherBound ∈ walk.settings.inventorySlotCounts →
        let other := Stmt.forLoop otherInit otherCondition otherStep body
        walk.visit otherBefore other walker = walk.visit before scan walker ∨
          walk.visit otherBefore other walker = walker.note [walk.noteScan name other] ∧
            walk.visit before scan walker = walker.note [walk.noteScan name scan] := by
  intro scan
  have visited := visit_of_counts before body counts configured walker
  refine ⟨firstTest_or_noTest name body.nodes, fun item guarded first => ?_, fun none => ?_, ?_⟩
  · rw [visited, findSome?_tested?_eq_some_iff.mpr first]
    exact walk.visitTested_eq item guarded walker
  · rw [visited, findSome?_tested?_eq_none_iff.mpr none]
  · intro otherBefore otherBound otherClosed otherInit otherCondition otherStep countsToo
      configuredToo other
    have visitedToo := visit_of_counts otherBefore body countsToo configuredToo walker
    -- The search goes by the variable and the body, which both loops share.
    rw [visited, visitedToo]
    cases body.nodes.findSome? (tested? name) with
    | some found => exact Or.inl rfl
    | none => exact Or.inr ⟨rfl, rfl⟩

end Walk

/-- The body of a scan. It tests another variable first, and the right one by night and always. -/
def scannedBody : Stmt :=
  .block [
    .branch night
      (.branch (inventoryTest (.member (.ident "Main") "LocalPlayer") "j" 5) (registering 1)
        (some (.branch (inventoryTest (.member (.ident "Main") "LocalPlayer") "i" 7)
          (registering 2) none)))
      none,
    .branch (inventoryTest (.member (.ident "Main") "LocalPlayer") "i" 9) (registering 3) none]

/-- The first test decides, without the guard around it. -/
theorem visit_scannedBody :
    Counts "i" ⟨0, 54, false⟩ (some (.decl ⟨"int", [⟨"i", some (.int 0)⟩]⟩))
        (some (.binary .lt (.ident "i") (.int 54))) [.unary .postInc (.ident "i")] ∧
      54 ∈ dayWalk.settings.inventorySlotCounts ∧
      FirstTest "i" scannedBody.nodes 7 (registering 2) ∧
      (dayWalk.visit []
          (.forLoop (some (.decl ⟨"int", [⟨"i", some (.int 0)⟩]⟩))
            (some (.binary .lt (.ident "i") (.int 54))) [.unary .postInc (.ident "i")] scannedBody)
          ⟨.empty 1, [.plain .hardmode], []⟩).shop.items =
        [⟨2, [.plain .hardmode, Walk.carries 7]⟩] := by
  have counts : Counts "i" ⟨0, 54, false⟩ (some (.decl ⟨"int", [⟨"i", some (.int 0)⟩]⟩))
      (some (.binary .lt (.ident "i") (.int 54))) [.unary .postInc (.ident "i")] := .below .post
  have configured : (54 : Int) ∈ dayWalk.settings.inventorySlotCounts := by decide
  have first : FirstTest "i" scannedBody.nodes 7 (registering 2) := by
    refine ⟨scannedBody.nodes.take 4, _, _, rfl,
      .branch (List.mem_cons_of_mem _ List.mem_cons_self), fun node member item guarded test => ?_⟩
    cases test
    simp [scannedBody, Stmt.nodes, nodesOf, inventoryTest, night, registering] at member
  obtain ⟨-, visited, -⟩ :=
    dayWalk.visit_inventoryScan [] scannedBody ⟨.empty 1, [.plain .hardmode], []⟩ counts configured
  refine ⟨counts, configured, first, ?_⟩
  rw [visited 7 (registering 2) first]
  decide +kernel

end Storefront.Survey
