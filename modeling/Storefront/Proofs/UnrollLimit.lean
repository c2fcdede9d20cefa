import Mathlib.Data.List.Forall2
import Storefront.Proofs.LoopRanges
import Storefront.Proofs.Multiplicity

/-!
The greatest number of items that one loop may stand for. A walk under a higher limit offers all
that one under a lower limit offers, in the same order and under the same conditions, and it passes
over less. The limit is looked at in one place, where a loop stands for a range: the loop then
offers its items or is noted, and nothing else of the walk depends on which of the two it is.

The two walks note a loop in different words, since the limit is part of the wording. They agree in
the kind of the diagnostic and in what it is about.
-/

namespace Storefront.Survey

open Storefront.Guard Storefront.Script Storefront.Stock

/-- The kind of a diagnostic, and what it is about. -/
def Diagnostic.subject (diagnostic : Diagnostic) : DiagnosticKind × String :=
  (diagnostic.kind, diagnostic.construct)

/-! ### Findings that offer more and pass over less -/

namespace Findings

/-- The second findings have all offers of the first, and the first all notes of the second. -/
structure Grows {Env : Type} (lower higher : Findings Env) : Prop where
  offers : lower.offers.Sublist higher.offers
  notes : (higher.notes.map Diagnostic.subject).Sublist (lower.notes.map Diagnostic.subject)

variable {Env : Type}

theorem Grows.refl (found : Findings Env) : found.Grows found := ⟨.refl _, .refl _⟩

theorem Grows.append {lower higher lowerRest higherRest : Findings Env}
    (first : lower.Grows higher) (rest : lowerRest.Grows higherRest) :
    (lower ++ lowerRest).Grows (higher ++ higherRest) := by
  refine ⟨first.offers.append rest.offers, ?_⟩
  rw [notes_append, notes_append, List.map_append, List.map_append]
  exact first.notes.append rest.notes

theorem Grows.concat {Label : Type} {lower higher : Label → Findings Env}
    (each : ∀ label, (lower label).Grows (higher label)) (labels : List Label) :
    (concat (labels.map lower)).Grows (concat (labels.map higher)) := by
  induction labels with
  | nil => exact .refl _
  | cons label rest inductionHypothesis => exact (each label).append inductionHypothesis

end Findings

open Findings (Grows)

section

variable {Env : Type}

/-- What a search finds grows, and so does what stands for it if it finds nothing. -/
theorem searched_grows {lower higher : Option (Findings Env)} {missing missingToo : Findings Env} :
    Option.Rel Grows lower higher → missing.Grows missingToo →
      Grows (match lower with | some found => found | none => missing)
        (match higher with | some found => found | none => missingToo) := by
  rintro (grows | _) missingGrows
  · exact grows
  · exact missingGrows

/-- A search that goes on elsewhere if it finds nothing. -/
theorem searchedLater_grows {lower higher lowerLater higherLater : Option (Findings Env)} :
    Option.Rel Grows lower higher → Option.Rel Grows lowerLater higherLater →
      Option.Rel Grows (match lower with | some found => some found | none => lowerLater)
        (match higher with | some found => some found | none => higherLater) := by
  rintro (grows | _) later
  · exact .some grows
  · exact later

end

namespace Walk

/-- A walk with another limit. -/
def limited (walk : Walk) (limit : Nat) : Walk :=
  { walk with settings := { walk.settings with maxUnroll := limit } }

section

variable {Env : Type} (walk : Walk) (enter : Env → Frame → Env) {low high : Nat}

/-! ### What does not depend on the limit -/

@[simp] theorem registrations_limited (limit : Nat) (expr : Expr) :
    registrations (walk.limited limit).settings expr = registrations walk.settings expr := by
  rw [registrations_eq_filterMap, registrations_eq_filterMap]
  rfl

@[simp] theorem registrationsOfDecl_limited (limit : Nat) (declared : LocalDecl) :
    registrationsOfDecl (walk.limited limit).settings declared =
      registrationsOfDecl walk.settings declared :=
  List.flatMap_congr fun expr _ => walk.registrations_limited limit expr

theorem push_limited (limit : Nat) : (walk.limited limit).push = walk.push := rfl

/-! ### Loops -/

theorem rangeItems_limited (limit : Nat) (source : Stmt) (range : Range) :
    (walk.limited limit).rangeItems source range =
      if (limit : Int) < range.count then
        .error (walk.diagnostic .malformedBound source.header ("range of " ++
          toString range.count ++ " exceeds the unroll limit of " ++ toString limit))
      else .ok range.toList := rfl

/-- A loop that is unrolled under the lower limit is unrolled under the higher one. -/
theorem rangeItems_grows (raised : low ≤ high) (source : Stmt) (active : Env) (range : Range) :
    Grows (.unrolling source active ((walk.limited low).rangeItems source range))
      (.unrolling source active ((walk.limited high).rangeItems source range)) := by
  rw [rangeItems_limited, rangeItems_limited]
  by_cases tooMany : (high : Int) < range.count
  · have tooManyToo : (low : Int) < range.count := by omega
    rw [if_pos tooMany, if_pos tooManyToo]
    exact ⟨.refl _, .refl _⟩
  · rw [if_neg tooMany]
    split
    · exact ⟨List.nil_sublist _, List.nil_sublist _⟩
    · exact .refl _

theorem filledItems_grows (raised : low ≤ high) (before : List Stmt) (source : Stmt)
    (active : Env) (condition : Expr) :
    Grows (.unrolling source active ((walk.limited low).filledItems before source condition))
      (.unrolling source active ((walk.limited high).filledItems before source condition)) := by
  have sameGuard (limit : Nat) : fillingGuard? (walk.limited limit).settings condition =
      fillingGuard? walk.settings condition := rfl
  rw [filledItems, filledItems, sameGuard, sameGuard]
  cases fillingGuard? walk.settings condition with
  | none => exact .refl _
  | some counted =>
    obtain ⟨name, bound⟩ := counted
    dsimp only
    cases bound.asInt with
    | none => exact .refl _
    | some stop =>
      cases initialValue? name before with
      | none => exact .refl _
      | some start => exact walk.rangeItems_grows raised source active ⟨start, stop, true⟩

/-! ### The walk -/

/-- A section holds more if each visit of it does. -/
theorem throughLabels_grows (scrutinee : Expr) {inside insideMore : Env → Findings Env}
    (each : ∀ active, (inside active).Grows (insideMore active)) (active : Env)
    (values : List Expr) :
    ((walk.limited low).throughLabels enter scrutinee inside active values).Grows
      ((walk.limited high).throughLabels enter scrutinee insideMore active values) := by
  have sameLabels (limit : Nat) : (walk.limited limit).label scrutinee = walk.label scrutinee := rfl
  have labels : (Findings.concat (values.map
        ((walk.limited low).throughLabel enter scrutinee inside active))).Grows
      (Findings.concat (values.map
        ((walk.limited high).throughLabel enter scrutinee insideMore active))) := by
    refine .concat (fun value => ?_) values
    unfold throughLabel
    rw [sameLabels, sameLabels]
    cases walk.label scrutinee value with
    | ok conditions => exact each _
    | error diagnostics => exact .refl _
  unfold throughLabels
  rw [sameLabels, sameLabels]
  split
  · exact labels
  · exact labels.append (each active)

mutual

/-- A statement offers no less under a higher limit, and has no more notes. -/
theorem stmt_grows (raised : low ≤ high) (before : List Stmt) (active : Env) :
    ∀ stmt : Stmt, ((walk.limited low).stmt enter before active stmt).Grows
      ((walk.limited high).stmt enter before active stmt)
  | .block body => stmts_grows raised [] active body
  | .decl declared => by
    rw [stmt, stmt, registrationsOfDecl_limited, registrationsOfDecl_limited]
    exact .refl _
  | .expr evaluated => by
    rw [stmt, stmt, registrations_limited, registrations_limited]
    exact .refl _
  | .branch condition whenTrue whenFalse => by
    rw [stmt, stmt]
    exact (Grows.append (.refl _) (stmt_grows raised [] _ whenTrue)).append
      (otherwise_grows raised condition _ whenFalse)
  | .switch scrutinee parts => sections_grows raised scrutinee active parts
  | .forLoop init condition step body => by
    rw [stmt, stmt]
    cases loopShape init condition step with
    | unrecognized => exact .refl _
    | malformed reason => exact .refl _
    | counting name range =>
      dsimp only
      have sameBound (limit : Nat) : (walk.limited limit).settings.isInventoryBound range.stop =
          walk.settings.isInventoryBound range.stop := rfl
      rw [sameBound, sameBound]
      split
      · exact searched_grows (scan_grows raised name [] active body) (.refl _)
      · exact walk.rangeItems_grows raised _ active range
  | .whileLoop condition body =>
    walk.filledItems_grows raised before (.whileLoop condition body) active condition
  | .doWhile body condition => by
    rw [stmt, stmt, registrations_limited, registrations_limited]
    exact (stmt_grows raised [] active body).append (.refl _)
  | .foreach type name iterated body => by
    rw [stmt, stmt, registrations_limited, registrations_limited]
    exact Grows.append (.refl _) (stmt_grows raised [] active body)
  | .returnValue (some value) => by
    rw [stmt, stmt, registrations_limited, registrations_limited]
    exact .refl _
  | .returnValue none | .breakOut | .continueLoop | .empty => .refl _

theorem otherwise_grows (raised : low ≤ high) (condition : Expr) (active : Env) :
    ∀ stmt? : Option Stmt, ((walk.limited low).otherwise enter condition active stmt?).Grows
      ((walk.limited high).otherwise enter condition active stmt?)
  | none => .refl _
  | some whenFalse => by
    rw [otherwise, otherwise]
    exact Grows.append (.refl _) (stmt_grows raised [] active whenFalse)

/-- Statements offer no less under a higher limit, and have no more notes. -/
theorem stmts_grows (raised : low ≤ high) (before : List Stmt) (active : Env) :
    ∀ body : List Stmt, ((walk.limited low).stmts enter before active body).Grows
      ((walk.limited high).stmts enter before active body)
  | [] => .refl _
  | first :: rest => by
    rw [stmts, stmts]
    exact (stmt_grows raised before active first).append
      (stmts_grows raised (first :: before) active rest)

theorem sections_grows (raised : low ≤ high) (scrutinee : Expr) (active : Env) :
    ∀ parts : List SwitchSection, ((walk.limited low).sections enter scrutinee active parts).Grows
      ((walk.limited high).sections enter scrutinee active parts)
  | [] => .refl _
  | .mk labels body :: rest => by
    rw [sections, sections]
    exact (walk.throughLabels_grows enter scrutinee
      (fun active => stmts_grows raised [] active body) active _).append
      (sections_grows raised scrutinee active rest)

/-- The same test ends a search under both limits. -/
theorem scan_grows (raised : low ≤ high) (name : String) (passed : List Passage) (active : Env) :
    ∀ stmt : Stmt, Option.Rel Grows ((walk.limited low).scan enter name passed active stmt)
      ((walk.limited high).scan enter name passed active stmt)
  | .block body => scanAll_grows raised name passed active body
  | .branch condition whenTrue whenFalse => by
    rw [scan, scan]
    cases checkedItem? name condition with
    | some item => exact .some (stmt_grows raised [] _ whenTrue)
    | none =>
      dsimp only
      exact searchedLater_grows
        (scan_grows raised name (passed ++ [.whenTrue condition]) active whenTrue)
        (scanOtherwise_grows raised name _ active whenFalse)
  | .switch scrutinee parts => scanSections_grows raised name scrutinee passed active parts
  | .forLoop _ _ _ body => scan_grows raised name _ active body
  | .whileLoop _ body => scan_grows raised name passed active body
  | .doWhile body _ => scan_grows raised name passed active body
  | .foreach _ _ _ body => scan_grows raised name passed active body
  | .decl _ | .expr _ | .breakOut | .continueLoop | .returnValue _ | .empty => .none

theorem scanOtherwise_grows (raised : low ≤ high) (name : String) (passed : List Passage)
    (active : Env) :
    ∀ stmt? : Option Stmt,
      Option.Rel Grows ((walk.limited low).scanOtherwise enter name passed active stmt?)
        ((walk.limited high).scanOtherwise enter name passed active stmt?)
  | none => .none
  | some whenFalse => scan_grows raised name passed active whenFalse

theorem scanAll_grows (raised : low ≤ high) (name : String) (passed : List Passage)
    (active : Env) :
    ∀ body : List Stmt,
      Option.Rel Grows ((walk.limited low).scanAll enter name passed active body)
        ((walk.limited high).scanAll enter name passed active body)
  | [] => .none
  | first :: rest => by
    rw [scanAll, scanAll]
    exact searchedLater_grows (scan_grows raised name passed active first)
      (scanAll_grows raised name passed active rest)

theorem scanSections_grows (raised : low ≤ high) (name : String) (scrutinee : Expr)
    (passed : List Passage) (active : Env) :
    ∀ parts : List SwitchSection,
      Option.Rel Grows
        ((walk.limited low).scanSections enter name scrutinee passed active parts)
        ((walk.limited high).scanSections enter name scrutinee passed active parts)
  | [] => .none
  | .mk labels body :: rest => by
    rw [scanSections, scanSections]
    exact searchedLater_grows (scanAll_grows raised name _ active body)
      (scanSections_grows raised name scrutinee passed active rest)

end

end

/-! ### Whole runs -/

/-- Raising the limit only adds items, each with its conditions, and only takes diagnostics away, up
to their wording. -/
theorem run_raised (catalog : Catalog) (settings : Settings) (shop : Int) (body : List Stmt)
    {low high : Nat} (raised : low ≤ high) :
    ((Walk.mk catalog { settings with maxUnroll := low } shop).run body).1.items.Sublist
        ((Walk.mk catalog { settings with maxUnroll := high } shop).run body).1.items ∧
      (((Walk.mk catalog { settings with maxUnroll := high } shop).run body).2.map
          fun diagnostic => (diagnostic.kind, diagnostic.construct)).Sublist
        (((Walk.mk catalog { settings with maxUnroll := low } shop).run body).2.map
          fun diagnostic => (diagnostic.kind, diagnostic.construct)) := by
  let walk : Walk := ⟨catalog, settings, shop⟩
  show ((walk.limited low).run body).1.items.Sublist ((walk.limited high).run body).1.items ∧
    (((walk.limited high).run body).2.map Diagnostic.subject).Sublist
      (((walk.limited low).run body).2.map Diagnostic.subject)
  have grows := walk.stmts_grows walk.push raised [] [] body
  rw [items_run_push, items_run_push, notes_run, notes_run, push_limited, push_limited]
  exact ⟨grows.offers.map Offer.item, grows.notes⟩

end Walk

/-- Three items for each of two phases of the moon, and one more. -/
def moonLoops : List Stmt :=
  [.switch (.ident "moon") [.mk [.case (.int 0), .case (.int 4)] [fiveToSeven]], registering 9]

/-- The loop is too long for a limit of two, and unrolled in both phases under a limit of three. -/
theorem run_raised_moonLoops :
    ((moonWalk.limited 2).run moonLoops).1.items = [⟨9, []⟩] ∧
      ((moonWalk.limited 2).run moonLoops).2.length = 2 ∧
      ((moonWalk.limited 3).run moonLoops).1.items =
        ([5, 6, 7].map fun id => ⟨id, [.plain .moonPhaseFull]⟩) ++
          ([5, 6, 7].map fun id => ⟨id, [.plain .moonPhaseNew]⟩) ++ [⟨9, []⟩] ∧
      ((moonWalk.limited 2).run moonLoops).1.items.Sublist
        ((moonWalk.limited 3).run moonLoops).1.items ∧
      (((moonWalk.limited 3).run moonLoops).2.map
          fun diagnostic => (diagnostic.kind, diagnostic.construct)).Sublist
        (((moonWalk.limited 2).run moonLoops).2.map
          fun diagnostic => (diagnostic.kind, diagnostic.construct)) :=
  ⟨by decide +kernel, by decide +kernel, by decide +kernel,
    Walk.run_raised moonWalk.catalog moonWalk.settings moonWalk.shop moonLoops (by decide)⟩

end Storefront.Survey
