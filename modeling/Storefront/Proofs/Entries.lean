import Storefront.Proofs.Environment

/-!
How the sections of a nested switch are entered. A label counts if it is a literal and the guard
that it stands for is understood. A section is entered by each of its labels that counts, and in one
way without a label if none does. What a walk finds in a section is what it finds each time that the
section is entered.
-/

namespace Storefront.Survey

open Storefront.Guard Storefront.Script Storefront.Stock

namespace Walk

section

variable (walk : Walk)

/-- Whether a label of a nested switch is a literal, and the guard that it stands for is
understood. -/
def understands (scrutinee value : Expr) : Bool :=
  value.asInt.isSome && (decompose walk.catalog (labelGuard scrutinee value)).isOk

theorem isOk_label (scrutinee value : Expr) :
    (walk.label scrutinee value).isOk = walk.understands scrutinee value := by
  unfold label understands
  cases value.asInt with
  | none => rfl
  | some number => cases decompose walk.catalog (labelGuard scrutinee value) <;> rfl

/-- The ways to enter a construct, each with the frames that it sets. -/
def entries : Passage → List (List Frame)
  | .whenTrue condition => [[.whenTrue condition]]
  | .whenFalse condition => [[.whenFalse condition]]
  | .labels scrutinee values =>
    match values.filter (walk.understands scrutinee) with
    | [] => [[]]
    | understood => understood.map fun value => [.label scrutinee value]
  | .scan _ => [[]]

end

section

variable {Env : Type} (walk : Walk) (enter : Env → Frame → Env)

/-- A label leads into its section exactly if it is understood. -/
theorem offers_throughLabel (scrutinee : Expr) (inside : Env → Findings Env) (active : Env)
    (value : Expr) :
    (walk.throughLabel enter scrutinee inside active value).offers =
      if walk.understands scrutinee value then
        (inside (enter active (.label scrutinee value))).offers
      else [] := by
  rw [← isOk_label, throughLabel]
  cases walk.label scrutinee value <;> rfl

/-- The labels of a section lead into it once for each of them that is understood. -/
theorem offers_concat_labels (scrutinee : Expr) (inside : Env → Findings Env) (active : Env)
    (values : List Expr) :
    (Findings.concat (values.map (walk.throughLabel enter scrutinee inside active))).offers =
      (values.filter (walk.understands scrutinee)).flatMap fun value =>
        (inside (enter active (.label scrutinee value))).offers := by
  rw [Findings.offers_concat, List.flatMap_map]
  induction values with
  | nil => rfl
  | cons value rest inductionHypothesis =>
    rw [List.flatMap_cons, inductionHypothesis, offers_throughLabel, List.filter_cons]
    cases walk.understands scrutinee value <;> rfl

/-- A section offers what is found in it each time that it is entered. -/
theorem offers_throughLabels (scrutinee : Expr) (inside : Env → Findings Env) (active : Env)
    (values : List Expr) :
    (walk.throughLabels enter scrutinee inside active values).offers =
      (walk.entries (.labels scrutinee values)).flatMap fun taken =>
        (inside (taken.foldl enter active)).offers := by
  have labelled := walk.offers_concat_labels enter scrutinee inside active values
  unfold throughLabels entries
  simp only [isOk_label]
  cases known : values.filter (walk.understands scrutinee) with
  | nil =>
    have none : (values.any (walk.understands scrutinee)) = false :=
      List.any_eq_false.mpr (List.filter_eq_nil_iff.mp known)
    rw [known] at labelled
    rw [none, if_neg Bool.false_ne_true, Findings.offers_append, labelled]
    exact (List.append_nil _).symm
  | cons value rest =>
    have member : value ∈ values.filter (walk.understands scrutinee) := by
      rw [known]
      exact List.mem_cons_self
    have some : (values.any (walk.understands scrutinee)) = true :=
      List.any_eq_true.mpr ⟨value, List.mem_filter.mp member⟩
    rw [known] at labelled
    rw [some, if_pos rfl, labelled, List.flatMap_map]
    rfl

end

end Walk

end Storefront.Survey
