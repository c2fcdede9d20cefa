import Storefront.Guard.Builtin
import Storefront.Guard.Conjunction
import Storefront.Proofs.Outcomes

/-!
A guard as the list of its conjuncts. The `&&` nodes at the top of a guard form a tree whose leaves
are the conjuncts. If no such node is understood as a whole, then decomposing the guard goes through
the conjuncts from left to right: it gives one condition for each of them, or stops at the first one
that is not understood. How the `&&` nodes group the conjuncts makes no difference.

A run that keeps a list of the missing complements met on the way adds at most one to it, since the
first conjunct that is not understood ends the run.
-/

namespace Storefront.Guard

open Storefront.Script

/-! ### The tree of a guard -/

/-- The conjuncts of a guard, from left to right. -/
def conjuncts : Expr → List Expr
  | .binary .and left right => conjuncts left ++ conjuncts right
  | expr => [expr]

/-- The `&&` nodes at the top of a guard, each before those within it. -/
def conjunctions : Expr → List Expr
  | .binary .and left right =>
    .binary .and left right :: (conjunctions left ++ conjunctions right)
  | _ => []

section

variable (catalog : Catalog)

/-- No `&&` node at the top of a guard is understood as a whole. -/
def SplitsFully (guard : Expr) : Prop := ∀ node ∈ conjunctions guard, catalog.lookup node = none

instance (guard : Expr) : Decidable (SplitsFully catalog guard) :=
  inferInstanceAs (Decidable (∀ node ∈ conjunctions guard, catalog.lookup node = none))

/-- A conjunct is understood. -/
def Understood (part : Expr) : Prop := ∃ condition, catalog.recognize part = .ok (some condition)

/-- The missing complement of a conjunct that is understood and would have to be negated. -/
def missingComplement? (part : Expr) : Option NoComplement :=
  match catalog.recognize part with
  | .error missing => some missing
  | .ok _ => none

/-- What a conjunct asks for. -/
def conjunct (part : Expr) : Except GuardFault Condition :=
  match catalog.recognize part with
  | .ok (some condition) => .ok condition
  | .ok none => .error .unknown
  | .error missing => .error (.noComplement missing)

/-! ### A run with a list of failures -/

/-- Decomposes a guard, adding the missing complements met on the way to a list. -/
def decomposeTraced (guard : Expr) (failures : List NoComplement) :
    Option (List Condition) × List NoComplement :=
  match catalog.recognize guard with
  | .ok (some condition) => (some [condition], failures)
  | .error missing => (none, failures ++ [missing])
  | .ok none =>
    match guard with
    | .binary .and left right =>
      match decomposeTraced left failures with
      | (none, failures) => (none, failures)
      | (some first, failures) =>
        match decomposeTraced right failures with
        | (none, failures) => (none, failures)
        | (some second, failures) => (some (first ++ second), failures)
    | _ => (none, failures)

end

/-- How a run ends that was started with some failures: with the conditions if there are any, or
with the missing complement behind the failures if there is one. -/
def reported (failures : List NoComplement) :
    Except GuardFault (List Condition) → Option (List Condition) × List NoComplement
  | .ok conditions => (some conditions, failures)
  | .error fault => (none, failures ++ fault.missing?.toList)

variable {catalog : Catalog} {guard : Expr}

/-- A guard without `&&` at the top is a single conjunct. -/
theorem decompose_of_not_and
    (notAnd : ∀ left right, guard = .binary .and left right → False) :
    decompose catalog guard = (conjunct catalog guard).map fun condition => [condition] := by
  unfold decompose
  rw [conjunct]
  cases catalog.recognize guard with
  | error missing => rfl
  | ok condition? =>
    cases condition? with
    | some condition => rfl
    | none =>
      dsimp only
      split
      · next left right => exact absurd rfl (notAnd left right)
      · rfl

/-- A run with a list of failures ends as the decomposition does. -/
theorem decomposeTraced_eq (failures : List NoComplement) :
    decomposeTraced catalog guard failures = reported failures (decompose catalog guard) := by
  fun_induction conjuncts guard generalizing failures with
  | case1 left right onLeft onRight =>
    unfold decomposeTraced decompose
    cases catalog.recognize (.binary .and left right) with
    | error missing => rfl
    | ok condition? =>
      cases condition? with
      | some condition => rfl
      | none =>
        dsimp only
        rw [onLeft]
        cases decompose catalog left with
        | error fault => rfl
        | ok first =>
          show (match decomposeTraced catalog right failures with
            | (none, failures) => (none, failures)
            | (some second, failures) => (some (first ++ second), failures)) = _
          rw [onRight]
          cases decompose catalog right <;> rfl
  | case2 guard notAnd =>
    rw [decompose_of_not_and notAnd, conjunct]
    unfold decomposeTraced
    cases catalog.recognize guard with
    | error missing => rfl
    | ok condition? =>
      cases condition? with
      | some condition => rfl
      | none =>
        dsimp only
        split
        · next left right => exact absurd rfl (notAnd left right)
        · exact congrArg (Prod.mk none) (List.append_nil failures).symm

/-! ### From left to right -/

theorem splitsFully_and {left right : Expr} :
    SplitsFully catalog (.binary .and left right) ↔
      catalog.lookup (.binary .and left right) = none ∧ SplitsFully catalog left ∧
        SplitsFully catalog right := by
  simp [SplitsFully, conjunctions, or_imp, forall_and]

/-- A guard that splits fully is decomposed conjunct by conjunct. -/
theorem decompose_eq_mapM (splits : SplitsFully catalog guard) :
    decompose catalog guard = (conjuncts guard).mapM (conjunct catalog) := by
  fun_induction conjuncts guard with
  | case1 left right onLeft onRight =>
    obtain ⟨absent, splitsLeft, splitsRight⟩ := splitsFully_and.mp splits
    unfold decompose
    rw [Catalog.recognize_of_lookup_eq_none rfl absent, List.mapM_append, ← onLeft splitsLeft,
      ← onRight splitsRight]
    rfl
  | case2 guard notAnd =>
    rw [decompose_of_not_and notAnd, List.mapM_cons]
    cases conjunct catalog guard <;> rfl

/-- A conjunct asks for a condition if it is understood as that condition. -/
theorem conjunct_eq_ok_iff {part : Expr} {condition : Condition} :
    conjunct catalog part = .ok condition ↔ catalog.recognize part = .ok (some condition) := by
  unfold conjunct
  cases catalog.recognize part with
  | error missing => simp
  | ok condition? => cases condition? <;> simp

/-- A conjunct that is not understood ends the run with its missing complement, if it has one. -/
theorem exists_fault_of_not_understood {part : Expr} (unknown : ¬ Understood catalog part) :
    ∃ fault, conjunct catalog part = .error fault ∧
      fault.missing? = missingComplement? catalog part := by
  unfold conjunct missingComplement?
  cases recognized : catalog.recognize part with
  | error missing => exact ⟨_, rfl, rfl⟩
  | ok condition? =>
    cases condition? with
    | some condition => exact absurd ⟨condition, recognized⟩ unknown
    | none => exact ⟨_, rfl, rfl⟩

/-- All conjuncts are understood, each as the condition at its place. -/
theorem mapM_conjunct_eq_ok_iff {parts : List Expr} {conditions : List Condition} :
    parts.mapM (conjunct catalog) = .ok conditions ↔
      List.Forall₂ (fun part condition => catalog.recognize part = .ok (some condition)) parts
        conditions := by
  simp only [mapM_eq_ok_iff, conjunct_eq_ok_iff]

/-- The first conjunct that is not understood ends the run. -/
theorem mapM_conjunct_eq_error {parts : List Expr} {fault : GuardFault}
    (fails : parts.mapM (conjunct catalog) = .error fault) :
    ∃ before part after, parts = before ++ part :: after ∧
      (∀ earlier ∈ before, Understood catalog earlier) ∧ ¬ Understood catalog part ∧
      fault.missing? = missingComplement? catalog part := by
  induction parts with
  | nil => cases fails
  | cons part rest inductionHypothesis =>
    rw [List.mapM_cons] at fails
    by_cases known : Understood catalog part
    · obtain ⟨condition, recognized⟩ := known
      rw [conjunct_eq_ok_iff.mpr recognized] at fails
      have failsLater : rest.mapM (conjunct catalog) = .error fault := by
        cases later : rest.mapM (conjunct catalog) with
        | ok conditions =>
          rw [later] at fails
          cases fails
        | error other =>
          rw [later] at fails
          exact congrArg Except.error (Except.error.inj fails)
      obtain ⟨before, found, after, rfl, understood, unknown, same⟩ :=
        inductionHypothesis failsLater
      refine ⟨part :: before, found, after, rfl, ?_, unknown, same⟩
      exact List.forall_mem_cons.mpr ⟨⟨condition, recognized⟩, understood⟩
    · obtain ⟨found, isFault, same⟩ := exists_fault_of_not_understood known
      rw [isFault] at fails
      obtain rfl := Except.error.inj fails
      exact ⟨[], part, rest, rfl, nofun, known, same⟩

/-! ### The outcome -/

/-- A run over a guard whose `&&` nodes are not understood as a whole ends as the decomposition
does. It gives conditions exactly when all conjuncts are understood, one for each in their order,
and then leaves the failures as they were. Otherwise it adds at most one failure, the missing
complement of the first conjunct that is not understood. A guard with the same conjuncts, whatever
the grouping, has the same outcome. -/
theorem decomposeTraced_conjuncts (catalog : Catalog) (guard : Expr)
    (splits : SplitsFully catalog guard) (failures : List NoComplement) :
    decomposeTraced catalog guard failures = reported failures (decompose catalog guard) ∧
    (∀ conditions, (decomposeTraced catalog guard failures).1 = some conditions ↔
      List.Forall₂ (fun part condition => catalog.recognize part = .ok (some condition))
        (conjuncts guard) conditions) ∧
    ((decomposeTraced catalog guard failures).1.isSome →
      (decomposeTraced catalog guard failures).2 = failures) ∧
    ((decomposeTraced catalog guard failures).1 = none →
      ∃ before part after, conjuncts guard = before ++ part :: after ∧
        (∀ earlier ∈ before, Understood catalog earlier) ∧ ¬ Understood catalog part ∧
        (decomposeTraced catalog guard failures).2 =
          failures ++ (missingComplement? catalog part).toList) ∧
    ∀ other, SplitsFully catalog other → conjuncts other = conjuncts guard →
      decomposeTraced catalog other failures = decomposeTraced catalog guard failures := by
  have sameRun (other : Expr) (splitsToo : SplitsFully catalog other) :
      decomposeTraced catalog other failures =
        reported failures ((conjuncts other).mapM (conjunct catalog)) := by
    rw [decomposeTraced_eq, decompose_eq_mapM splitsToo]
  refine ⟨decomposeTraced_eq failures, ?_, ?_, ?_, fun other splitsToo same => ?_⟩
  · intro conditions
    rw [sameRun guard splits, ← mapM_conjunct_eq_ok_iff]
    cases (conjuncts guard).mapM (conjunct catalog) <;> simp [reported]
  · rw [sameRun guard splits]
    cases (conjuncts guard).mapM (conjunct catalog) <;> simp [reported]
  · rw [sameRun guard splits]
    cases run : (conjuncts guard).mapM (conjunct catalog) with
    | ok conditions => exact nofun
    | error fault =>
      obtain ⟨before, part, after, split, understood, unknown, same⟩ := mapM_conjunct_eq_error run
      exact fun _ => ⟨before, part, after, split, understood, unknown,
        congrArg (fun missing? : Option NoComplement => failures ++ missing?.toList) same⟩
  · rw [sameRun other splitsToo, sameRun guard splits, same]

/-- The flag of a name. -/
def flag (name : String) : Expr := .member (.ident "Main") name

/-- A catalog of three flags, of which the second has no complement. -/
def flagCatalog : Catalog :=
  [(Tag.hardmode, "hardMode"), (.inSnow, "snow"), (.timeDay, "dayTime")].map fun (tag, name) =>
    ⟨entry tag ("(member (ident :Main) :" ++ name ++ ")"),
      .node "member" [.node "ident" [.symbol "Main"], .symbol name]⟩

/-- Hard mode by day out of the snow. -/
def noSnow : Expr :=
  .binary .and (.binary .and (flag "hardMode") (.unary .not (flag "snow"))) (flag "dayTime")

/-- The same guard with its conjuncts grouped the other way. -/
def noSnowRegrouped : Expr :=
  .binary .and (flag "hardMode") (.binary .and (.unary .not (flag "snow")) (flag "dayTime"))

/-- The snow cannot be negated. That ends the run, and is told once, for both groupings. -/
theorem decomposeTraced_noSnow :
    SplitsFully flagCatalog noSnow ∧ SplitsFully flagCatalog noSnowRegrouped ∧
      decomposeTraced flagCatalog noSnow [⟨.inHive⟩] = (none, [⟨.inHive⟩, ⟨.inSnow⟩]) ∧
      decomposeTraced flagCatalog noSnowRegrouped [⟨.inHive⟩] =
        (none, [⟨.inHive⟩, ⟨.inSnow⟩]) := by
  have splits : SplitsFully flagCatalog noSnow := by decide
  have splitsToo : SplitsFully flagCatalog noSnowRegrouped := by decide
  obtain ⟨ends, -, -, -, regrouped⟩ :=
    decomposeTraced_conjuncts flagCatalog noSnow splits [⟨.inHive⟩]
  have outcome : decomposeTraced flagCatalog noSnow [⟨.inHive⟩] =
      (none, [⟨.inHive⟩, ⟨.inSnow⟩]) := ends
  exact ⟨splits, splitsToo, outcome, (regrouped noSnowRegrouped splitsToo rfl).trans outcome⟩

end Storefront.Guard
