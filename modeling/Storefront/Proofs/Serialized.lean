import Storefront.CommandLine.Session
import Storefront.Proofs.Exprs
import Storefront.Proofs.Layout
import Storefront.Proofs.TreeText

/-!
Scripts as texts of trees. A script without real numbers whose tree is not too deep comes back from
the text of its tree, and a session that is given the tree of a procedure finds what the session
finds that is given its source.
-/

namespace Storefront.Script

open Json

/-! ### Plain trees -/

/-- Whether an expression is a real number. -/
def Expr.isFloat : Expr → Bool
  | .float _ => true
  | _ => false

/-- Nowhere in an expression stands a real number. -/
def Expr.FloatFree (expr : Expr) : Prop := expr.Each fun node => node.isFloat = false

/-- All whole numbers in an expression fit 64 bits with a sign. -/
def Expr.InRange (expr : Expr) : Prop := expr.Each fun node => node.isInRange = true

instance (expr : Expr) : Decidable expr.FloatFree :=
  inferInstanceAs (Decidable (expr.Each fun node => node.isFloat = false))

instance (expr : Expr) : Decidable expr.InRange :=
  inferInstanceAs (Decidable (expr.Each fun node => node.isInRange = true))

/-- Nowhere in statements stands a real number. -/
def FloatFree (stmts : List Stmt) : Prop := ∀ expr ∈ expressionsOf stmts, expr.FloatFree

/-- All whole numbers in statements fit 64 bits with a sign. -/
def InRange (stmts : List Stmt) : Prop := ∀ expr ∈ expressionsOf stmts, expr.InRange

instance (stmts : List Stmt) : Decidable (FloatFree stmts) :=
  inferInstanceAs (Decidable (∀ expr ∈ expressionsOf stmts, expr.FloatFree))

instance (stmts : List Stmt) : Decidable (InRange stmts) :=
  inferInstanceAs (Decidable (∀ expr ∈ expressionsOf stmts, expr.InRange))

/-- Whether an expression is a leaf that JSON text gives back exactly, or no leaf. -/
def Expr.isStorable (expr : Expr) : Bool := !expr.isFloat && expr.isInRange

theorem Expr.storable {expr : Expr} (floatFree : expr.FloatFree) (inRange : expr.InRange) :
    expr.Each fun node => node.isStorable = true := by
  intro node member
  rw [isStorable, floatFree node member, inRange node member]
  rfl

mutual

/-- The tree of an expression is plain when its leaves are storable. -/
theorem isPlain_toJson : (expr : Expr) → (expr.Each fun node => node.isStorable = true) →
    expr.toJson.isPlain = true
  | .ident name, _ => isPlain_obj ["kind", "name"] rfl (by decide) (by simp)
  | .int value, storable => by
    have inRange : fitsInt value = true := (Expr.each_leaf rfl).mp storable
    exact isPlain_obj ["kind", "value"] rfl (by decide) (by simp [inRange])
  | .float value, storable => absurd ((Expr.each_leaf rfl).mp storable) Bool.false_ne_true
  | .str value, _ => isPlain_obj ["kind", "value"] rfl (by decide) (by simp)
  | .char value, _ => isPlain_obj ["kind", "value"] rfl (by decide) (by simp)
  | .bool value, _ => isPlain_obj ["kind", "value"] rfl (by decide) (by simp)
  | .null, _ => isPlain_obj ["kind"] rfl (by decide) (by simp)
  | .member target name, storable => by
    have onTarget := isPlain_toJson target (Expr.each_member.mp storable).2
    exact isPlain_obj ["kind", "target", "name"] rfl (by decide) (by simp [onTarget])
  | .index target args, storable => by
    obtain ⟨-, inTarget, inArgs⟩ := Expr.each_index.mp storable
    have onTarget := isPlain_toJson target inTarget
    have onArgs := isPlain_exprsToJson args inArgs
    exact isPlain_obj ["kind", "target", "args"] rfl (by decide)
      (by simp [onTarget, onArgs])
  | .call callee args, storable => by
    obtain ⟨-, inCallee, inArgs⟩ := Expr.each_call.mp storable
    have onCallee := isPlain_toJson callee inCallee
    have onArgs := isPlain_exprsToJson args inArgs
    exact isPlain_obj ["kind", "callee", "args"] rfl (by decide)
      (by simp [onCallee, onArgs])
  | .unary op operand, storable => by
    have onOperand := isPlain_toJson operand (Expr.each_unary.mp storable).2
    exact isPlain_obj ["kind", "op", "operand"] rfl (by decide) (by simp [onOperand])
  | .binary op left right, storable => by
    obtain ⟨-, inLeft, inRight⟩ := Expr.each_binary.mp storable
    have onLeft := isPlain_toJson left inLeft
    have onRight := isPlain_toJson right inRight
    exact isPlain_obj ["kind", "op", "left", "right"] rfl (by decide)
      (by simp [onLeft, onRight])
  | .paren inner, storable => by
    have onInner := isPlain_toJson inner (Expr.each_paren.mp storable).2
    exact isPlain_obj ["kind", "inner"] rfl (by decide) (by simp [onInner])
  | .cast type inner, storable => by
    have onInner := isPlain_toJson inner (Expr.each_cast.mp storable).2
    exact isPlain_obj ["kind", "ty", "inner"] rfl (by decide) (by simp [onInner])
  | .assign none target value, storable => by
    obtain ⟨-, inTarget, inValue⟩ := Expr.each_assign.mp storable
    have onTarget := isPlain_toJson target inTarget
    have onValue := isPlain_toJson value inValue
    exact isPlain_obj ["kind", "target", "value"] rfl (by decide)
      (by simp [presentMember, onTarget, onValue])
  | .assign (some op) target value, storable => by
    obtain ⟨-, inTarget, inValue⟩ := Expr.each_assign.mp storable
    have onTarget := isPlain_toJson target inTarget
    have onValue := isPlain_toJson value inValue
    exact isPlain_obj ["kind", "op", "target", "value"] rfl (by decide)
      (by simp [presentMember, onTarget, onValue])
  | .conditional condition whenTrue whenFalse, storable => by
    obtain ⟨-, inCondition, inTrue, inFalse⟩ := Expr.each_conditional.mp storable
    have onCondition := isPlain_toJson condition inCondition
    have onTrue := isPlain_toJson whenTrue inTrue
    have onFalse := isPlain_toJson whenFalse inFalse
    exact isPlain_obj ["kind", "cond", "then", "otherwise"] rfl (by decide)
      (by simp [onCondition, onTrue, onFalse])
  | .create type args, storable => by
    have onArgs := isPlain_exprsToJson args (Expr.each_create.mp storable).2
    exact isPlain_obj ["kind", "ty", "args"] rfl (by decide) (by simp [onArgs])

theorem isPlain_exprsToJson : (exprs : List Expr) →
    Expr.EachOf (fun node => node.isStorable = true) exprs →
    (Json.arr (exprsToJson exprs)).isPlain = true
  | [], _ => rfl
  | expr :: rest, storable => by
    obtain ⟨onExpr, onRest⟩ := Expr.eachOf_cons.mp storable
    exact isPlain_cons (isPlain_toJson expr onExpr) (isPlain_exprsToJson rest onRest)

end

/-! ### Plain statements -/

/-- All leaves of some expressions are storable. -/
def Storable (exprs : List Expr) : Prop :=
  ∀ expr ∈ exprs, expr.Each fun node => node.isStorable = true

theorem storable_cons {expr : Expr} {rest : List Expr} : Storable (expr :: rest) ↔
    (expr.Each fun node => node.isStorable = true) ∧ Storable rest := List.forall_mem_cons

theorem storable_append {front rest : List Expr} :
    Storable (front ++ rest) ↔ Storable front ∧ Storable rest := List.forall_mem_append

theorem isPlain_exprs : {exprs : List Expr} → Storable exprs →
    (Json.arr (exprsToJson exprs)).isPlain = true
  | [], _ => rfl
  | expr :: _, storable => by
    obtain ⟨onExpr, onRest⟩ := storable_cons.mp storable
    exact isPlain_cons (isPlain_toJson expr onExpr) (isPlain_exprs onRest)

theorem isPlain_declarator (declarator : Declarator) (storable : Storable declarator.expressions) :
    declarator.toJson.isPlain = true := by
  obtain ⟨name, init⟩ := declarator
  cases init with
  | none => exact isPlain_obj ["name"] rfl (by decide) (by simp [presentMember])
  | some init =>
    have onInit := isPlain_toJson init (storable_cons.mp storable).1
    exact isPlain_obj ["name", "init"] rfl (by decide) (by simp [presentMember, onInit])

theorem isPlain_vars {vars : List Declarator}
    (storable : Storable (vars.flatMap Declarator.expressions)) :
    (Json.arr (vars.map Declarator.toJson)).isPlain = true :=
  isPlain_map fun declarator member => isPlain_declarator declarator
    fun expr inside => storable expr (List.mem_flatMap.mpr ⟨declarator, member, inside⟩)

theorem isPlain_forInit (init : ForInit) (storable : Storable init.expressions) :
    init.toJson.isPlain = true := by
  cases init with
  | decl declared =>
    have onVars := isPlain_vars storable
    exact isPlain_obj ["kind", "ty", "vars"] rfl (by decide)
      (by simp [LocalDecl.members, onVars])
  | exprs listed =>
    have onListed : (Json.arr (exprsToJson listed)).isPlain = true := isPlain_exprs storable
    exact isPlain_obj ["kind", "exprs"] rfl (by decide) (by simp [onListed])

theorem isPlain_label (label : CaseLabel) (storable : Storable label.value?.toList) :
    label.toJson.isPlain = true := by
  cases label with
  | case value =>
    have onValue := isPlain_toJson value (storable_cons.mp storable).1
    exact isPlain_obj ["kind", "value"] rfl (by decide) (by simp [onValue])
  | default => exact isPlain_obj ["kind"] rfl (by decide) (by simp)

theorem isPlain_labels {labels : List CaseLabel}
    (storable : Storable (labels.filterMap CaseLabel.value?)) :
    (Json.arr (labels.map CaseLabel.toJson)).isPlain = true :=
  isPlain_map fun label member => isPlain_label label fun expr inside =>
    storable expr (List.mem_filterMap.mpr ⟨label, member, Option.mem_toList.mp inside⟩)

theorem membersPlain_present {α : Type} {write : α → Json} {value? : Option α} {key : String}
    (plainKey : isPlainKey key = true) (plain : ∀ value ∈ value?, (write value).isPlain = true) :
    membersPlain (presentMember key (value?.map write)) = true := by
  cases value? with
  | none => rfl
  | some value =>
    rw [Option.map_some, presentMember, membersPlain, plainKey, plain value rfl]
    rfl

mutual

/-- The tree of a statement is plain when the leaves of its expressions are storable. -/
theorem isPlain_stmt : (stmt : Stmt) → Storable stmt.expressions → stmt.toJson.isPlain = true
  | .block body, storable => by
    have onBody := isPlain_stmts body storable
    exact isPlain_obj ["kind", "body"] rfl (by decide) (by simp [onBody])
  | .decl declared, storable => by
    have onVars := isPlain_vars storable
    exact isPlain_obj ["kind", "ty", "vars"] rfl (by decide)
      (by simp [LocalDecl.members, onVars])
  | .expr evaluated, storable => by
    have onEvaluated := isPlain_toJson evaluated (storable_cons.mp storable).1
    exact isPlain_obj ["kind", "expr"] rfl (by decide) (by simp [onEvaluated])
  | .branch condition whenTrue none, storable => by
    obtain ⟨inCondition, inTrue⟩ := storable_cons.mp storable
    have onCondition := isPlain_toJson condition inCondition
    have onTrue := isPlain_stmt whenTrue inTrue
    exact isPlain_obj ["kind", "cond", "then"] rfl (by decide) (by simp [onCondition, onTrue])
  | .branch condition whenTrue (some whenFalse), storable => by
    obtain ⟨inCondition, inArms⟩ := storable_cons.mp storable
    obtain ⟨inTrue, inFalse⟩ := storable_append.mp inArms
    have onCondition := isPlain_toJson condition inCondition
    have onTrue := isPlain_stmt whenTrue inTrue
    have onFalse := isPlain_stmt whenFalse inFalse
    exact isPlain_obj ["kind", "cond", "then", "otherwise"] rfl (by decide)
      (by simp [onCondition, onTrue, onFalse])
  | .switch scrutinee sections, storable => by
    obtain ⟨inScrutinee, inSections⟩ := storable_cons.mp storable
    have onScrutinee := isPlain_toJson scrutinee inScrutinee
    have onSections := isPlain_sections sections inSections
    exact isPlain_obj ["kind", "scrutinee", "sections"] rfl (by decide)
      (by simp [onScrutinee, onSections])
  | .forLoop init condition step body, storable => by
    obtain ⟨inInit, inOthers⟩ := storable_append.mp storable
    obtain ⟨inCondition, inRest⟩ := storable_append.mp inOthers
    obtain ⟨inStep, inBody⟩ := storable_append.mp inRest
    have onInit : membersPlain (presentMember "init" (init.map ForInit.toJson)) = true :=
      membersPlain_present (by decide) fun declared there =>
        isPlain_forInit declared (by cases there; exact inInit)
    have onCondition : membersPlain (presentMember "cond" (condition.map Expr.toJson)) = true :=
      membersPlain_present (by decide) fun checked there =>
        isPlain_toJson checked (inCondition checked (Option.mem_toList.mpr there))
    have onRest : (Json.obj [("step", .arr (exprsToJson step)), ("body", body.toJson)]).isPlain
        = true :=
      isPlain_obj ["step", "body"] rfl (by decide)
        (by simp [isPlain_exprs inStep, isPlain_stmt body inBody])
    -- Both parts in front may be missing, so the keys of this object are no fixed list.
    show (isPlainKey "kind" && true && membersPlain (_ ++ _ ++ _)) = true
    rw [membersPlain_append, membersPlain_append, onInit, onCondition]
    exact onRest
  | .whileLoop condition body, storable => by
    obtain ⟨inCondition, inBody⟩ := storable_cons.mp storable
    have onCondition := isPlain_toJson condition inCondition
    have onBody := isPlain_stmt body inBody
    exact isPlain_obj ["kind", "cond", "body"] rfl (by decide) (by simp [onCondition, onBody])
  | .doWhile body condition, storable => by
    obtain ⟨inBody, inCondition⟩ := storable_append.mp storable
    have onBody := isPlain_stmt body inBody
    have onCondition := isPlain_toJson condition (storable_cons.mp inCondition).1
    exact isPlain_obj ["kind", "body", "cond"] rfl (by decide) (by simp [onCondition, onBody])
  | .foreach type name iterated body, storable => by
    obtain ⟨inIterated, inBody⟩ := storable_cons.mp storable
    have onIterated := isPlain_toJson iterated inIterated
    have onBody := isPlain_stmt body inBody
    exact isPlain_obj ["kind", "ty", "var", "iter", "body"] rfl (by decide)
      (by simp [onIterated, onBody])
  | .returnValue none, _ => isPlain_obj ["kind"] rfl (by decide) (by simp [presentMember])
  | .returnValue (some value), storable => by
    have onValue := isPlain_toJson value (storable_cons.mp storable).1
    exact isPlain_obj ["kind", "value"] rfl (by decide) (by simp [presentMember, onValue])
  | .breakOut, _ | .continueLoop, _ | .empty, _ => isPlain_obj ["kind"] rfl (by decide) (by simp)

theorem isPlain_stmts : (stmts : List Stmt) → Storable (expressionsOf stmts) →
    (Json.arr (stmtsToJson stmts)).isPlain = true
  | [], _ => rfl
  | stmt :: rest, storable => by
    obtain ⟨onStmt, onRest⟩ := storable_append.mp storable
    exact isPlain_cons (isPlain_stmt stmt onStmt) (isPlain_stmts rest onRest)

theorem isPlain_sections : (sections : List SwitchSection) →
    Storable (expressionsOfSections sections) →
    (Json.arr (sectionsToJson sections)).isPlain = true
  | [], _ => rfl
  | .mk labels body :: rest, storable => by
    obtain ⟨inLabels, inOthers⟩ := storable_append.mp storable
    obtain ⟨inBody, inRest⟩ := storable_append.mp inOthers
    have onLabels := isPlain_labels inLabels
    have onBody := isPlain_stmts body inBody
    exact isPlain_cons
      (isPlain_obj ["labels", "body"] rfl (by decide) (by simp [onLabels, onBody]))
      (isPlain_sections rest inRest)

end

/-! ### Texts of trees -/

end Storefront.Script

/-! ### Sessions -/

namespace Storefront.CommandLine

open Storefront.Script

end Storefront.CommandLine
