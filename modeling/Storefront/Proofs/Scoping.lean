import Storefront.Proofs.Environment

/-!
The stack of conditions is scoped. However deep the constructs nest, a visit leaves the stack as it
found it, keeps everything gathered before it, and adds what the walk with an environment finds when
the stack is the environment. So the stack is a mere prefix of the conditions of every item: it
decides neither which items are found nor what is noted.

The invariant is `Gathers`, which pairs a visit with its findings in every environment. Each part of
the walk keeps it, and a construct that pushes conditions keeps it because the visit within has put
the stack back to the length that the construct cuts it to.
-/

/-- The same item with further conditions in front of its own. -/
def Storefront.Stock.Item.under (conditions : List Storefront.Guard.Condition)
    (item : Storefront.Stock.Item) : Storefront.Stock.Item :=
  { item with conditions := conditions ++ item.conditions }

namespace Storefront.Survey

open Storefront.Guard Storefront.Script Storefront.Stock

/-! ### What a visit adds -/

namespace Walker

/-- The walker with findings added to what it has gathered. -/
def gather (walker : Walker) (found : Findings (List Condition)) : Walker where
  shop := { walker.shop with items := walker.shop.items ++ found.offers.map Offer.item }
  conditions := walker.conditions
  notes := walker.notes ++ found.notes

@[simp] theorem conditions_gather (walker : Walker) (found : Findings (List Condition)) :
    (walker.gather found).conditions = walker.conditions := rfl

@[simp] theorem gather_none (walker : Walker) : walker.gather .none = walker := by
  unfold gather
  simp only [Findings.none, List.map_nil, List.append_nil]

theorem gather_append (walker : Walker) (first second : Findings (List Condition)) :
    walker.gather (first ++ second) = (walker.gather first).gather second := by
  unfold gather
  simp only [Findings.offers_append, Findings.notes_append, List.map_append, List.append_assoc]

theorem note_eq_gather (walker : Walker) (diagnostics : List Diagnostic) :
    walker.note diagnostics = walker.gather (.note diagnostics) := by
  simp only [note, gather, Findings.note, List.map_nil, List.append_nil]

theorem note_nil (walker : Walker) : walker.note [] = walker := by
  rw [note_eq_gather]
  exact gather_none walker

/-- Registering items one by one adds them all under the stack as it is. -/
theorem registerAll_eq_gather (walker : Walker) (source : Stmt) (ids : List Int) :
    walker.registerAll ids = walker.gather (.offering source walker.conditions ids) := by
  induction ids generalizing walker with
  | nil => exact (gather_none walker).symm
  | cons id rest inductionHypothesis =>
    have step : walker.registerAll (id :: rest) = (walker.register id).registerAll rest := rfl
    rw [step, inductionHypothesis]
    simp only [gather, register, Findings.offering, Shop.addItem, List.map_cons, List.map_map,
      List.append_assoc, List.cons_append, List.nil_append, List.append_nil]
    rfl

theorem unroll_eq_gather (walker : Walker) (source : Stmt)
    (outcome : Except Diagnostic (List Int)) :
    walker.unroll outcome = walker.gather (.unrolling source walker.conditions outcome) := by
  cases outcome with
  | ok ids => exact registerAll_eq_gather walker source ids
  | error diagnostic => exact note_eq_gather walker [diagnostic]

/-- A visit gathers findings when, from every stack, it adds what is found in the environment that
the stack is, and changes nothing else. -/
def Gathers (visit : Walker → Walker) (found : List Condition → Findings (List Condition)) : Prop :=
  ∀ walker, visit walker = walker.gather (found walker.conditions)

/-- Searches that gather the same both find nothing, or a visit and what it gathers. -/
theorem searches_cases {walker : Walker} {visit? : Option (Walker → Walker)}
    {found? : Option (Findings (List Condition))}
    (same : visit?.map (· walker) = found?.map walker.gather) :
    (visit? = none ∧ found? = none) ∨
      ∃ visit found, visit? = some visit ∧ found? = some found ∧
        visit walker = walker.gather found := by
  cases visit? with
  | none => exact Or.inl ⟨rfl, Option.map_eq_none_iff.mp same.symm⟩
  | some visit =>
    obtain ⟨found, scanned, gathered⟩ := Option.map_eq_some_iff.mp same.symm
    exact Or.inr ⟨visit, found, rfl, scanned, gathered.symm⟩

/-- Pushing conditions changes the environment of the visit within, and nothing afterwards. -/
theorem Gathers.within {visit : Walker → Walker}
    {found : List Condition → Findings (List Condition)} (gathers : Gathers visit found)
    (pushed : List Condition) :
    Gathers (Walker.within pushed visit) fun active => found (active ++ pushed) := by
  intro walker
  have inside := gathers { walker with conditions := walker.conditions ++ pushed }
  unfold Walker.within
  rw [inside]
  simp only [gather, List.take_left]

end Walker

namespace Walk

open Walker

variable (walk : Walk)

/-! ### Guards -/

theorem push_whenTrue {condition : Expr} {conditions : List Condition}
    (guard : decompose walk.catalog condition = .ok conditions) (active : List Condition) :
    walk.push active (.whenTrue condition) = active ++ conditions := by
  rw [push, conditionsOf, guard, understood]

theorem push_whenFalse {condition : Expr} {conditions : List Condition}
    (guard : decompose walk.catalog condition = .ok conditions) (active : List Condition) :
    walk.push active (.whenFalse condition) = active ++ inverted conditions := by
  rw [push, conditionsOf, guard, understood]

/-- A guard that is not understood sets no conditions on either side. -/
theorem push_of_error {condition : Expr} {fault : GuardFault}
    (guard : decompose walk.catalog condition = .error fault) (active : List Condition) :
    walk.push active (.whenTrue condition) = active ∧
      walk.push active (.whenFalse condition) = active := by
  constructor
  · rw [push, conditionsOf, guard, understood, List.append_nil]
  · rw [push, conditionsOf, guard, understood]
    exact List.append_nil active

/-! ### Sections of a nested switch -/

/-- Entering a section by its labels one after the other adds what is found by way of each. -/
theorem foldl_enterLabel (scrutinee : Expr) {visit : Walker → Walker}
    {found : List Condition → Findings (List Condition)} (gathers : Gathers visit found)
    (values : List Expr) (walker : Walker) (visited : Bool) :
    values.foldl (walk.enterLabel scrutinee visit) (walker, visited) =
      (walker.gather (Findings.concat (values.map
          (walk.throughLabel walk.push scrutinee found walker.conditions))),
        visited || values.any fun value => (walk.label scrutinee value).isOk) := by
  induction values generalizing walker visited with
  | nil =>
    simp only [List.foldl_nil, List.map_nil, Findings.concat, List.foldr_nil, gather_none,
      List.any_nil, Bool.or_false]
  | cons value rest inductionHypothesis =>
    rw [List.foldl_cons, List.map_cons, List.any_cons, Findings.concat, List.foldr_cons,
      gather_append, enterLabel, throughLabel]
    cases entered : walk.label scrutinee value with
    | ok conditions =>
      have pushed : walk.push walker.conditions (.label scrutinee value) =
          walker.conditions ++ conditions := by
        rw [push, conditionsOf, entered, understood]
      rw [inductionHypothesis, gathers.within conditions walker, pushed]
      simp only [Except.isOk, Except.toBool, Bool.true_or, Bool.or_true, conditions_gather]
      rfl
    | error diagnostics =>
      rw [inductionHypothesis, note_eq_gather]
      simp only [Except.isOk, Except.toBool, Bool.false_or, conditions_gather]
      rfl

/-- Entering a section gathers what is found by way of its labels. -/
theorem enterSection_gathers (scrutinee : Expr) {visit : Walker → Walker}
    {found : List Condition → Findings (List Condition)} (gathers : Gathers visit found)
    (values : List Expr) :
    Gathers (walk.enterSection scrutinee visit values)
      fun active => walk.throughLabels walk.push scrutinee found active values := by
  intro walker
  unfold enterSection throughLabels
  rw [walk.foldl_enterLabel scrutinee gathers, Bool.false_or]
  cases values.any fun value => (walk.label scrutinee value).isOk with
  | true => rfl
  | false =>
    show visit _ = walker.gather (_ ++ _)
    rw [gathers, gather_append, conditions_gather]

/-! ### Statements -/

mutual

/-- Visiting a statement gathers what it is found to hold. -/
theorem visit_gathers (before : List Stmt) :
    ∀ stmt : Stmt, Gathers (walk.visit before stmt)
      fun active => walk.stmt walk.push before active stmt
  | .block body => visitAll_gathers [] body
  | .decl declared => fun walker => registerAll_eq_gather walker (.decl declared) _
  | .expr evaluated => fun walker => registerAll_eq_gather walker (.expr evaluated) _
  | .branch condition whenTrue whenFalse => by
    intro walker
    dsimp only
    rw [visit, stmt, gather_append, gather_append, ← note_eq_gather, guardNotes]
    cases guard : decompose walk.catalog condition with
    | ok conditions =>
      dsimp only
      rw [note_nil, walk.push_whenTrue guard, walk.push_whenFalse guard,
        (visit_gathers [] whenTrue).within conditions walker]
      cases whenFalse with
      | none => exact (gather_none _).symm
      | some whenFalse =>
        rw [visitOtherwise, (visit_gathers [] whenFalse).within, otherwise, gather_append,
          inversionNotes, guard, understood, note_eq_gather]
        rfl
    | error fault =>
      obtain ⟨sameTrue, sameFalse⟩ := walk.push_of_error guard walker.conditions
      dsimp only
      rw [sameTrue, sameFalse, visit_gathers [] whenTrue]
      cases whenFalse with
      | none => exact (gather_none _).symm
      | some whenFalse =>
        have silent : walk.inversionNotes condition = [] := by
          rw [inversionNotes, guard, understood]
          rfl
        rw [visitOtherwise, id, visit_gathers [] whenFalse, otherwise, gather_append, silent]
        congr 1
        exact (gather_none _).symm
  | .switch scrutinee parts => visitSections_gathers scrutinee parts
  | .forLoop init condition step body => by
    intro walker
    dsimp only
    rw [visit, stmt]
    cases loopShape init condition step with
    | unrecognized => exact note_eq_gather walker _
    | malformed reason => exact note_eq_gather walker _
    | counting name range =>
      dsimp only
      split
      · rcases searches_cases (visitCheck_gathers name [] body walker) with
          ⟨noVisit, nothing⟩ | ⟨visit, found, visits, scanned, gathered⟩
        · rw [noVisit, nothing]
          exact note_eq_gather walker _
        · rw [visits, scanned]
          exact gathered
      · exact unroll_eq_gather walker _ _
  | .whileLoop condition body => fun walker => unroll_eq_gather walker (.whileLoop condition body) _
  | .doWhile body condition => by
    intro walker
    dsimp only
    rw [visit, stmt, gather_append, visit_gathers [] body,
      registerAll_eq_gather _ (.doWhile body condition)]
    rfl
  | .foreach type name iterated body => by
    intro walker
    dsimp only
    rw [visit, stmt, gather_append, visit_gathers [] body,
      registerAll_eq_gather _ (.foreach type name iterated body)]
    rfl
  | .returnValue (some value) => fun walker =>
    registerAll_eq_gather walker (.returnValue (some value)) _
  | .returnValue none | .breakOut | .continueLoop | .empty => fun walker =>
    (gather_none walker).symm

/-- Visiting statements gathers what they are found to hold. -/
theorem visitAll_gathers (before : List Stmt) :
    ∀ body : List Stmt, Gathers (walk.visitAll before body)
      fun active => walk.stmts walk.push before active body
  | [] => fun walker => (gather_none walker).symm
  | first :: rest => by
    intro walker
    dsimp only
    rw [visitAll, stmts, gather_append, visitAll_gathers (first :: before) rest,
      visit_gathers before first]
    rfl

/-- Visiting the sections of a nested switch gathers what they are found to hold. -/
theorem visitSections_gathers (scrutinee : Expr) :
    ∀ parts : List SwitchSection, Gathers (walk.visitSections scrutinee parts)
      fun active => walk.sections walk.push scrutinee active parts
  | [] => fun walker => (gather_none walker).symm
  | .mk labels body :: rest => by
    intro walker
    dsimp only
    rw [visitSections, sections, gather_append, visitSections_gathers scrutinee rest,
      walk.enterSection_gathers scrutinee (visitAll_gathers [] body)]
    rfl

/-- A scan visits what it is found to hold, if it has a test at all. -/
theorem visitCheck_gathers (name : String) (passed : List Passage) :
    ∀ (stmt : Stmt) (walker : Walker), (walk.visitCheck name stmt).map (· walker) =
      (walk.scan walk.push name passed walker.conditions stmt).map walker.gather
  | .block body, walker => visitCheckAll_gathers name passed body walker
  | .branch condition whenTrue whenFalse, walker => by
    rw [visitCheck, scan]
    cases checkedItem? name condition with
    | some item =>
      exact congrArg some ((visit_gathers [] whenTrue).within [carries item] walker)
    | none =>
      dsimp only
      rcases searches_cases (visitCheck_gathers name (passed ++ [.whenTrue condition]) whenTrue
        walker) with ⟨noVisit, nothing⟩ | ⟨visit, found, visits, scanned, gathered⟩
      · rw [noVisit, nothing]
        exact visitCheckOtherwise_gathers name (passed ++ [.whenFalse condition]) whenFalse walker
      · rw [visits, scanned]
        exact congrArg some gathered
  | .switch scrutinee parts, walker =>
    visitCheckSections_gathers name scrutinee passed parts walker
  | .forLoop _ _ _ body, walker => visitCheck_gathers name _ body walker
  | .whileLoop _ body, walker => visitCheck_gathers name passed body walker
  | .doWhile body _, walker => visitCheck_gathers name passed body walker
  | .foreach _ _ _ body, walker => visitCheck_gathers name passed body walker
  | .decl _, _ | .expr _, _ | .breakOut, _ | .continueLoop, _ | .returnValue _, _ | .empty, _ => rfl

theorem visitCheckOtherwise_gathers (name : String) (passed : List Passage) :
    ∀ (stmt? : Option Stmt) (walker : Walker),
      (walk.visitCheckOtherwise name stmt?).map (· walker) =
        (walk.scanOtherwise walk.push name passed walker.conditions stmt?).map walker.gather
  | none, _ => rfl
  | some whenFalse, walker => visitCheck_gathers name passed whenFalse walker

theorem visitCheckAll_gathers (name : String) (passed : List Passage) :
    ∀ (body : List Stmt) (walker : Walker), (walk.visitCheckAll name body).map (· walker) =
      (walk.scanAll walk.push name passed walker.conditions body).map walker.gather
  | [], _ => rfl
  | first :: rest, walker => by
    rw [visitCheckAll, scanAll]
    rcases searches_cases (visitCheck_gathers name passed first walker) with
      ⟨noVisit, nothing⟩ | ⟨visit, found, visits, scanned, gathered⟩
    · rw [noVisit, nothing]
      exact visitCheckAll_gathers name passed rest walker
    · rw [visits, scanned]
      exact congrArg some gathered

theorem visitCheckSections_gathers (name : String) (scrutinee : Expr) (passed : List Passage) :
    ∀ (parts : List SwitchSection) (walker : Walker),
      (walk.visitCheckSections name parts).map (· walker) =
        (walk.scanSections walk.push name scrutinee passed walker.conditions parts).map
          walker.gather
  | [], _ => rfl
  | .mk labels body :: rest, walker => by
    rw [visitCheckSections, scanSections]
    rcases searches_cases (visitCheckAll_gathers name
      (passed ++ [.labels scrutinee (labels.filterMap CaseLabel.value?)]) body walker) with
      ⟨noVisit, nothing⟩ | ⟨visit, found, visits, scanned, gathered⟩
    · rw [noVisit, nothing]
      exact visitCheckSections_gathers name scrutinee passed rest walker
    · rw [visits, scanned]
      exact congrArg some gathered

end

/-- A walk sets up the shop that it is about. -/
theorem id_run (body : List Stmt) : (walk.run body).1.id = walk.shop := by
  have gathered := walk.visitAll_gathers [] body walk.start
  show (walk.visitAll [] body walk.start).shop.id = walk.shop
  rw [gathered]
  rfl

/-! ### The stack as a prefix -/

/-- Conditions in front of those that hold are in front of them within every frame too. -/
theorem push_respects_append (conditions : List Condition) :
    Respects walk.push walk.push (conditions ++ ·) := by
  intro active frame
  exact (List.append_assoc conditions active (walk.conditionsOf frame)).symm

/-- Conditions that hold from the start are in front of the conditions of every item found. -/
theorem stmts_eq_map_append (active : List Condition) (before body : List Stmt) :
    walk.stmts walk.push before active body =
      (walk.stmts walk.push before [] body).map (active ++ ·) := by
  rw [walk.stmts_map (walk.push_respects_append active), List.append_nil]

theorem item_comp_map (conditions : List Condition) :
    Offer.item ∘ Offer.map (conditions ++ ·) = Item.under conditions ∘ Offer.item := rfl

/-- Visiting statements restores the stack, keeps what was gathered before, and adds the items that
a visit from the empty stack offers, with the stack in front of their conditions, and its
diagnostics. It is the walk with an environment, whose environment is the stack; the environment
has no part in which items are found. -/
theorem visitAll_scoped (body : List Stmt) (walker : Walker) :
    let fresh := walk.visitAll [] body walk.start
    let after := walk.visitAll [] body walker
    after.conditions = walker.conditions ∧
      after.shop.id = walker.shop.id ∧
      after.shop.items = walker.shop.items ++ fresh.shop.items.map (Item.under walker.conditions) ∧
      after.notes = walker.notes ++ fresh.notes ∧
      after = walker.gather (walk.stmts walk.push [] walker.conditions body) ∧
      (walk.stmts walk.push [] walker.conditions body).offers.map Offer.id =
        (walk.stmts walk.push [] [] body).offers.map Offer.id := by
  intro fresh after
  have found := walk.stmts_eq_map_append walker.conditions [] body
  have freshly : fresh = walk.start.gather (walk.stmts walk.push [] [] body) :=
    walk.visitAll_gathers [] body walk.start
  have gathered : after = walker.gather (walk.stmts walk.push [] walker.conditions body) :=
    walk.visitAll_gathers [] body walker
  have freshItems : fresh.shop.items =
      (walk.stmts walk.push [] [] body).offers.map Offer.item := by
    rw [freshly]
    rfl
  refine ⟨?_, ?_, ?_, ?_, gathered, ?_⟩
  · rw [gathered, conditions_gather]
  · rw [gathered]
    rfl
  · rw [gathered, freshItems, found, List.map_map, ← item_comp_map, ← List.map_map]
    rfl
  · rw [gathered, freshly, found]
    rfl
  · rw [found, Findings.map, List.map_map]
    rfl

end Walk

end Storefront.Survey
