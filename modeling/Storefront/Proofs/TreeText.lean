import Storefront.Proofs.Records
import Storefront.Script.Tree

/-!
Scripts come back from their trees. Each kind of expression and statement writes the fields that it
is read from, under different keys, and what it leaves out is read as absent; so the tree of a plain
script that is not too deep is read as the script.
-/

namespace Storefront.Script

open Json

variable {α β : Type}

/-! ### Trees within bounds -/

/-- A tree is plain and no deeper than `levels`. -/
structure Fits (levels : Nat) (json : Json) : Prop where
  plain : json.isPlain = true
  deep : json.depth ≤ levels

theorem plain_of_member {members : List (String × Json)} (plain : membersPlain members = true)
    {key : String} {value : Json} (member : (key, value) ∈ members) : value.isPlain = true := by
  induction members with
  | nil => cases member
  | cons entry rest inductionHypothesis =>
    obtain ⟨both, restPlain⟩ := Bool.and_eq_true_iff.mp plain
    obtain same | member := List.mem_cons.mp member
    · rw [← congrArg Prod.snd same] at both
      exact (Bool.and_eq_true_iff.mp both).2
    · exact inductionHypothesis restPlain member

theorem depth_le_of_member {members : List (String × Json)} {key : String} {value : Json}
    (member : (key, value) ∈ members) : value.depth ≤ depthOfMembers members := by
  induction members with
  | nil => cases member
  | cons entry rest inductionHypothesis =>
    obtain ⟨first, other⟩ := entry
    rw [depthOfMembers]
    obtain same | member := List.mem_cons.mp member
    · cases same
      exact Nat.le_max_left _ _
    · exact Nat.le_trans (inductionHypothesis member) (Nat.le_max_right _ _)

/-- What stands in an object has a level less. -/
theorem Fits.field {levels : Nat} {members : List (String × Json)}
    (fits : Fits (levels + 1) (.obj members)) (key : String) {value : Json}
    (there : members.lookup key = some value) : Fits levels value := by
  obtain ⟨before, after, rfl, -⟩ := List.lookup_eq_some_iff.mp there
  have member : (key, value) ∈ before ++ (key, value) :: after :=
    List.mem_append_right before List.mem_cons_self
  exact ⟨plain_of_member fits.plain member,
    Nat.le_trans (depth_le_of_member member) (Nat.le_of_succ_le_succ fits.deep)⟩

theorem Fits.exists_succ {levels : Nat} {members : List (String × Json)}
    (fits : Fits levels (.obj members)) : ∃ fewer, levels = fewer + 1 :=
  Nat.exists_eq_add_of_le' (Nat.le_trans (Nat.le_add_left 1 _) fits.deep)

theorem Fits.mono {levels higher : Nat} {json : Json} (fits : Fits levels json)
    (le : levels ≤ higher) : Fits higher json :=
  ⟨fits.plain, Nat.le_trans fits.deep le⟩

/-- What stands in an object is no deeper than it. -/
theorem Fits.inner {levels : Nat} {members : List (String × Json)}
    (fits : Fits levels (.obj members)) (key : String) {value : Json}
    (there : members.lookup key = some value) : Fits levels value := by
  obtain ⟨fewer, rfl⟩ := fits.exists_succ
  exact (fits.field key there).mono (Nat.le_succ fewer)

theorem Fits.head {levels : Nat} {item : Json} {rest : List Json}
    (fits : Fits levels (.arr (item :: rest))) : Fits levels item :=
  ⟨(Bool.and_eq_true_iff.mp fits.plain).1,
    Nat.le_trans (Nat.le_max_left _ _) (Nat.le_of_succ_le fits.deep)⟩

theorem Fits.tail {levels : Nat} {item : Json} {rest : List Json}
    (fits : Fits levels (.arr (item :: rest))) : Fits levels (.arr rest) :=
  ⟨(Bool.and_eq_true_iff.mp fits.plain).2,
    Nat.le_trans (Nat.succ_le_succ (Nat.le_max_right _ _)) fits.deep⟩

/-! ### Reading lists -/

/-- A list within bounds is read when each item within bounds is. -/
theorem asList?_map_of_fits {levels : Nat} {write : α → Json} {take : Json → Option α}
    (reads : ∀ value, Fits levels (write value) → take (write value) = some value) :
    (values : List α) → Fits levels (.arr (values.map write)) →
      asList? take (.arr (values.map write)) = some values
  | [], _ => asList?_nil
  | value :: rest, fits =>
    asList?_cons (reads value fits.head) (asList?_map_of_fits reads rest fits.tail)

theorem unaryOp?_name (op : UnaryOp) : unaryOp? (.str op.name) = some op :=
  UnaryOp.ofName?_name op

theorem binaryOp?_name (op : BinaryOp) : binaryOp? (.str op.name) = some op :=
  BinaryOp.ofName?_name op

theorem asChar?_toString (c : Char) : asChar? (.str c.toString) = some c := by
  rw [asChar?, Char.toString_eq_singleton, String.toList_singleton]

/-! ### Expressions -/

theorem Expr.toJson_ne_null (expr : Expr) : expr.toJson ≠ .null := by
  cases expr <;> exact Json.noConfusion

mutual

/-- An expression is what its tree is read as. -/
theorem exprOf?_toJson (levels : Nat) (within : Bool) : (expr : Expr) → Fits levels expr.toJson →
    exprOf? levels within expr.toJson = some expr
  | .ident name, fits => by
    obtain ⟨levels, rfl⟩ := fits.exists_succ
    refine bind_some (variant?_obj ["name"] within rfl (by decide) (by decide)) ?_
    exact bind_some (fields?_obj ["name"] _ rfl (by decide)) (bind_some rfl rfl)
  | .int value, fits => by
    obtain ⟨levels, rfl⟩ := fits.exists_succ
    have inRange := (fits.field "value" rfl).plain
    refine bind_some (variant?_obj ["value"] within rfl (by decide) (by decide)) ?_
    refine bind_some (fields?_obj ["value"] _ rfl (by decide)) ?_
    exact bind_some (if_pos inRange) rfl
  | .float value, fits => by
    obtain ⟨levels, rfl⟩ := fits.exists_succ
    cases (fits.field "value" rfl).plain
  | .str value, fits => by
    obtain ⟨levels, rfl⟩ := fits.exists_succ
    refine bind_some (variant?_obj ["value"] within rfl (by decide) (by decide)) ?_
    refine bind_some (fields?_obj ["value"] _ rfl (by decide)) ?_
    exact bind_some rfl rfl
  | .char value, fits => by
    obtain ⟨levels, rfl⟩ := fits.exists_succ
    refine bind_some (variant?_obj ["value"] within rfl (by decide) (by decide)) ?_
    refine bind_some (fields?_obj ["value"] _ rfl (by decide)) ?_
    exact bind_some (asChar?_toString value) rfl
  | .bool value, fits => by
    obtain ⟨levels, rfl⟩ := fits.exists_succ
    refine bind_some (variant?_obj ["value"] within rfl (by decide) (by decide)) ?_
    refine bind_some (fields?_obj ["value"] _ rfl (by decide)) ?_
    exact bind_some rfl rfl
  | .null, fits => by
    obtain ⟨levels, rfl⟩ := fits.exists_succ
    exact bind_some (variant?_obj [] within rfl (by decide) (by decide)) rfl
  | .member target name, fits => by
    obtain ⟨levels, rfl⟩ := fits.exists_succ
    have onTarget := exprOf?_toJson levels true target (fits.field "target" rfl)
    refine bind_some (variant?_obj ["target", "name"] within rfl (by decide) (by decide)) ?_
    refine bind_some (fields?_obj ["target", "name"] _ rfl (by decide)) ?_
    exact bind_some onTarget (bind_some rfl rfl)
  | .index target args, fits => by
    obtain ⟨levels, rfl⟩ := fits.exists_succ
    have onTarget := exprOf?_toJson levels true target (fits.field "target" rfl)
    have onArgs := exprsOf?_toJson levels args (fits.field "args" rfl)
    refine bind_some (variant?_obj ["target", "args"] within rfl (by decide) (by decide)) ?_
    refine bind_some (fields?_obj ["target", "args"] _ rfl (by decide)) ?_
    exact bind_some onTarget (bind_some onArgs rfl)
  | .call callee args, fits => by
    obtain ⟨levels, rfl⟩ := fits.exists_succ
    have onCallee := exprOf?_toJson levels true callee (fits.field "callee" rfl)
    have onArgs := exprsOf?_toJson levels args (fits.field "args" rfl)
    refine bind_some (variant?_obj ["callee", "args"] within rfl (by decide) (by decide)) ?_
    refine bind_some (fields?_obj ["callee", "args"] _ rfl (by decide)) ?_
    exact bind_some onCallee (bind_some onArgs rfl)
  | .unary op operand, fits => by
    obtain ⟨levels, rfl⟩ := fits.exists_succ
    have onOperand := exprOf?_toJson levels true operand (fits.field "operand" rfl)
    refine bind_some (variant?_obj ["op", "operand"] within rfl (by decide) (by decide)) ?_
    refine bind_some (fields?_obj ["op", "operand"] _ rfl (by decide)) ?_
    exact bind_some (unaryOp?_name op) (bind_some onOperand rfl)
  | .binary op left right, fits => by
    obtain ⟨levels, rfl⟩ := fits.exists_succ
    have onLeft := exprOf?_toJson levels true left (fits.field "left" rfl)
    have onRight := exprOf?_toJson levels true right (fits.field "right" rfl)
    refine bind_some (variant?_obj ["op", "left", "right"] within rfl (by decide) (by decide)) ?_
    refine bind_some (fields?_obj ["op", "left", "right"] _ rfl (by decide)) ?_
    exact bind_some (binaryOp?_name op) (bind_some onLeft (bind_some onRight rfl))
  | .paren inner, fits => by
    obtain ⟨levels, rfl⟩ := fits.exists_succ
    have onInner := exprOf?_toJson levels true inner (fits.field "inner" rfl)
    refine bind_some (variant?_obj ["inner"] within rfl (by decide) (by decide)) ?_
    refine bind_some (fields?_obj ["inner"] _ rfl (by decide)) ?_
    exact bind_some onInner rfl
  | .cast type inner, fits => by
    obtain ⟨levels, rfl⟩ := fits.exists_succ
    have onInner := exprOf?_toJson levels true inner (fits.field "inner" rfl)
    refine bind_some (variant?_obj ["ty", "inner"] within rfl (by decide) (by decide)) ?_
    refine bind_some (fields?_obj ["ty", "inner"] _ rfl (by decide)) ?_
    exact bind_some rfl (bind_some onInner rfl)
  | .assign none target value, fits => by
    obtain ⟨levels, rfl⟩ := fits.exists_succ
    have onTarget := exprOf?_toJson levels true target (fits.field "target" rfl)
    have onValue := exprOf?_toJson levels true value (fits.field "value" rfl)
    refine bind_some (variant?_obj ["target", "value"] within rfl (by decide) (by decide)) ?_
    refine bind_some (fields?_obj ["target", "value"] _ rfl (by decide)) ?_
    exact bind_some rfl (bind_some onTarget (bind_some onValue rfl))
  | .assign (some op) target value, fits => by
    obtain ⟨levels, rfl⟩ := fits.exists_succ
    have onTarget := exprOf?_toJson levels true target (fits.field "target" rfl)
    have onValue := exprOf?_toJson levels true value (fits.field "value" rfl)
    refine bind_some (variant?_obj ["op", "target", "value"] within rfl (by decide) (by decide)) ?_
    refine bind_some (fields?_obj ["op", "target", "value"] _ rfl (by decide)) ?_
    exact bind_some (congrArg (Option.map some) (binaryOp?_name op))
      (bind_some onTarget (bind_some onValue rfl))
  | .conditional condition whenTrue whenFalse, fits => by
    obtain ⟨levels, rfl⟩ := fits.exists_succ
    have onCondition := exprOf?_toJson levels true condition (fits.field "cond" rfl)
    have onTrue := exprOf?_toJson levels true whenTrue (fits.field "then" rfl)
    have onFalse := exprOf?_toJson levels true whenFalse (fits.field "otherwise" rfl)
    refine bind_some
      (variant?_obj ["cond", "then", "otherwise"] within rfl (by decide) (by decide)) ?_
    refine bind_some (fields?_obj ["cond", "then", "otherwise"] _ rfl (by decide)) ?_
    exact bind_some onCondition (bind_some onTrue (bind_some onFalse rfl))
  | .create type args, fits => by
    obtain ⟨levels, rfl⟩ := fits.exists_succ
    have onArgs := exprsOf?_toJson levels args (fits.field "args" rfl)
    refine bind_some (variant?_obj ["ty", "args"] within rfl (by decide) (by decide)) ?_
    refine bind_some (fields?_obj ["ty", "args"] _ rfl (by decide)) ?_
    exact bind_some rfl (bind_some onArgs rfl)

theorem exprsOf?_toJson (levels : Nat) : (exprs : List Expr) →
    Fits levels (.arr (exprsToJson exprs)) →
    asList? (exprOf? levels true) (.arr (exprsToJson exprs)) = some exprs
  | [], _ => asList?_nil
  | expr :: rest, fits =>
    asList?_cons (exprOf?_toJson levels true expr fits.head) (exprsOf?_toJson levels rest fits.tail)

end

/-! ### Parts of statements -/

theorem declaratorOf?_toJson (levels : Nat) (declarator : Declarator)
    (fits : Fits levels declarator.toJson) :
    declaratorOf? levels declarator.toJson = some declarator := by
  obtain ⟨name, none | init⟩ := declarator
  · refine bind_some (fields?_obj ["name"] ["name", "init"] rfl (by decide)) ?_
    exact bind_some rfl (bind_some rfl rfl)
  · have onInit := exprOf?_toJson levels true init (fits.inner "init" rfl)
    refine bind_some (fields?_obj ["name", "init"] _ rfl (by decide)) ?_
    exact bind_some rfl (bind_some (optional?_present rfl init.toJson_ne_null onInit) rfl)

theorem localDeclOf?_members (levels : Nat) (decl : LocalDecl)
    (fits : Fits levels (.arr (decl.vars.map Declarator.toJson))) :
    localDeclOf? levels (.obj decl.members) = some decl := by
  have onVars := asList?_map_of_fits (declaratorOf?_toJson levels) decl.vars fits
  refine bind_some (fields?_obj ["ty", "vars"] _ rfl (by decide)) ?_
  exact bind_some rfl (bind_some onVars rfl)

theorem forInitOf?_toJson (levels : Nat) (init : ForInit) (fits : Fits levels init.toJson) :
    forInitOf? levels init.toJson = some init := by
  cases init with
  | decl declared =>
    have onDecl := localDeclOf?_members levels declared (fits.inner "vars" rfl)
    refine bind_some (variant?_obj ["ty", "vars"] true rfl (by decide) (by decide)) ?_
    exact bind_some onDecl rfl
  | exprs listed =>
    have onListed := exprsOf?_toJson levels listed (fits.inner "exprs" rfl)
    refine bind_some (variant?_obj ["exprs"] true rfl (by decide) (by decide)) ?_
    refine bind_some (fields?_obj ["exprs"] _ rfl (by decide)) ?_
    exact bind_some onListed rfl

theorem ForInit.toJson_ne_null (init : ForInit) : init.toJson ≠ .null := by
  cases init <;> exact Json.noConfusion

theorem labelOf?_toJson (levels : Nat) (label : CaseLabel) (fits : Fits levels label.toJson) :
    labelOf? levels label.toJson = some label := by
  cases label with
  | case value =>
    have onValue := exprOf?_toJson levels true value (fits.inner "value" rfl)
    refine bind_some (variant?_obj ["value"] true rfl (by decide) (by decide)) ?_
    refine bind_some (fields?_obj ["value"] _ rfl (by decide)) ?_
    exact bind_some onValue rfl
  | default => exact bind_some (variant?_obj [] true rfl (by decide) (by decide)) rfl

/-! ### Statements -/

theorem Stmt.toJson_ne_null (stmt : Stmt) : stmt.toJson ≠ .null := by
  cases stmt with
  | branch condition whenTrue whenFalse => cases whenFalse <;> exact Json.noConfusion
  | _ => exact Json.noConfusion

mutual

/-- A statement is what its tree is read as. -/
theorem stmtOf?_toJson (levels : Nat) (within : Bool) : (stmt : Stmt) → Fits levels stmt.toJson →
    stmtOf? levels within stmt.toJson = some stmt
  | .block body, fits => by
    obtain ⟨levels, rfl⟩ := fits.exists_succ
    have onBody := stmtsOf?_toJson levels true body (fits.field "body" rfl)
    refine bind_some (variant?_obj ["body"] within rfl (by decide) (by decide)) ?_
    refine bind_some (fields?_obj ["body"] _ rfl (by decide)) ?_
    exact bind_some onBody rfl
  | .decl declared, fits => by
    obtain ⟨levels, rfl⟩ := fits.exists_succ
    have onDecl := localDeclOf?_members levels declared (fits.field "vars" rfl)
    refine bind_some (variant?_obj ["ty", "vars"] within rfl (by decide) (by decide)) ?_
    exact bind_some onDecl rfl
  | .expr evaluated, fits => by
    obtain ⟨levels, rfl⟩ := fits.exists_succ
    have onExpr := exprOf?_toJson levels true evaluated (fits.field "expr" rfl)
    refine bind_some (variant?_obj ["expr"] within rfl (by decide) (by decide)) ?_
    refine bind_some (fields?_obj ["expr"] _ rfl (by decide)) ?_
    exact bind_some onExpr rfl
  | .branch condition whenTrue none, fits => by
    obtain ⟨levels, rfl⟩ := fits.exists_succ
    have onCondition := exprOf?_toJson levels true condition (fits.field "cond" rfl)
    have onTrue := stmtOf?_toJson levels true whenTrue (fits.field "then" rfl)
    refine bind_some (variant?_obj ["cond", "then"] within rfl (by decide) (by decide)) ?_
    refine bind_some (fields?_obj ["cond", "then"] _ rfl (by decide)) ?_
    exact bind_some onCondition (bind_some onTrue (bind_some rfl rfl))
  | .branch condition whenTrue (some whenFalse), fits => by
    obtain ⟨levels, rfl⟩ := fits.exists_succ
    have onCondition := exprOf?_toJson levels true condition (fits.field "cond" rfl)
    have onTrue := stmtOf?_toJson levels true whenTrue (fits.field "then" rfl)
    have onFalse := stmtOf?_toJson levels true whenFalse (fits.field "otherwise" rfl)
    refine bind_some
      (variant?_obj ["cond", "then", "otherwise"] within rfl (by decide) (by decide)) ?_
    refine bind_some (fields?_obj ["cond", "then", "otherwise"] _ rfl (by decide)) ?_
    exact bind_some onCondition (bind_some onTrue
      (bind_some (optional?_present rfl whenFalse.toJson_ne_null onFalse) rfl))
  | .switch scrutinee sections, fits => by
    obtain ⟨levels, rfl⟩ := fits.exists_succ
    have onScrutinee := exprOf?_toJson levels true scrutinee (fits.field "scrutinee" rfl)
    have onSections := sectionsOf?_toJson levels sections (fits.field "sections" rfl)
    refine bind_some (variant?_obj ["scrutinee", "sections"] within rfl (by decide) (by decide)) ?_
    refine bind_some (fields?_obj ["scrutinee", "sections"] _ rfl (by decide)) ?_
    exact bind_some onScrutinee (bind_some onSections rfl)
  | .forLoop none none step body, fits => by
    obtain ⟨levels, rfl⟩ := fits.exists_succ
    have onStep := exprsOf?_toJson levels step (fits.field "step" rfl)
    have onBody := stmtOf?_toJson levels true body (fits.field "body" rfl)
    refine bind_some (variant?_obj ["step", "body"] within rfl (by decide) (by decide)) ?_
    refine bind_some (fields?_obj ["step", "body"] _ rfl (by decide)) ?_
    exact bind_some rfl (bind_some rfl (bind_some onStep (bind_some onBody rfl)))
  | .forLoop (some init) none step body, fits => by
    obtain ⟨levels, rfl⟩ := fits.exists_succ
    have onInit := forInitOf?_toJson levels init (fits.field "init" rfl)
    have onStep := exprsOf?_toJson levels step (fits.field "step" rfl)
    have onBody := stmtOf?_toJson levels true body (fits.field "body" rfl)
    refine bind_some (variant?_obj ["init", "step", "body"] within rfl (by decide) (by decide)) ?_
    refine bind_some (fields?_obj ["init", "step", "body"] _ rfl (by decide)) ?_
    exact bind_some (optional?_present rfl init.toJson_ne_null onInit)
      (bind_some rfl (bind_some onStep (bind_some onBody rfl)))
  | .forLoop none (some condition) step body, fits => by
    obtain ⟨levels, rfl⟩ := fits.exists_succ
    have onCondition := exprOf?_toJson levels true condition (fits.field "cond" rfl)
    have onStep := exprsOf?_toJson levels step (fits.field "step" rfl)
    have onBody := stmtOf?_toJson levels true body (fits.field "body" rfl)
    refine bind_some (variant?_obj ["cond", "step", "body"] within rfl (by decide) (by decide)) ?_
    refine bind_some (fields?_obj ["cond", "step", "body"] _ rfl (by decide)) ?_
    exact bind_some rfl (bind_some (optional?_present rfl condition.toJson_ne_null onCondition)
      (bind_some onStep (bind_some onBody rfl)))
  | .forLoop (some init) (some condition) step body, fits => by
    obtain ⟨levels, rfl⟩ := fits.exists_succ
    have onInit := forInitOf?_toJson levels init (fits.field "init" rfl)
    have onCondition := exprOf?_toJson levels true condition (fits.field "cond" rfl)
    have onStep := exprsOf?_toJson levels step (fits.field "step" rfl)
    have onBody := stmtOf?_toJson levels true body (fits.field "body" rfl)
    refine bind_some
      (variant?_obj ["init", "cond", "step", "body"] within rfl (by decide) (by decide)) ?_
    refine bind_some (fields?_obj ["init", "cond", "step", "body"] _ rfl (by decide)) ?_
    exact bind_some (optional?_present rfl init.toJson_ne_null onInit)
      (bind_some (optional?_present rfl condition.toJson_ne_null onCondition)
        (bind_some onStep (bind_some onBody rfl)))
  | .whileLoop condition body, fits => by
    obtain ⟨levels, rfl⟩ := fits.exists_succ
    have onCondition := exprOf?_toJson levels true condition (fits.field "cond" rfl)
    have onBody := stmtOf?_toJson levels true body (fits.field "body" rfl)
    refine bind_some (variant?_obj ["cond", "body"] within rfl (by decide) (by decide)) ?_
    refine bind_some (fields?_obj ["cond", "body"] _ rfl (by decide)) ?_
    exact bind_some onCondition (bind_some onBody rfl)
  | .doWhile body condition, fits => by
    obtain ⟨levels, rfl⟩ := fits.exists_succ
    have onBody := stmtOf?_toJson levels true body (fits.field "body" rfl)
    have onCondition := exprOf?_toJson levels true condition (fits.field "cond" rfl)
    refine bind_some (variant?_obj ["body", "cond"] within rfl (by decide) (by decide)) ?_
    refine bind_some (fields?_obj ["body", "cond"] _ rfl (by decide)) ?_
    exact bind_some onBody (bind_some onCondition rfl)
  | .foreach type name iterated body, fits => by
    obtain ⟨levels, rfl⟩ := fits.exists_succ
    have onIterated := exprOf?_toJson levels true iterated (fits.field "iter" rfl)
    have onBody := stmtOf?_toJson levels true body (fits.field "body" rfl)
    refine bind_some (variant?_obj ["ty", "var", "iter", "body"] within rfl (by decide)
      (by decide)) ?_
    refine bind_some (fields?_obj ["ty", "var", "iter", "body"] _ rfl (by decide)) ?_
    exact bind_some rfl (bind_some rfl (bind_some onIterated (bind_some onBody rfl)))
  | .breakOut, fits | .continueLoop, fits => by
    obtain ⟨levels, rfl⟩ := fits.exists_succ
    exact bind_some (variant?_obj [] within rfl (by decide) (by decide)) rfl
  | .returnValue none, fits => by
    obtain ⟨levels, rfl⟩ := fits.exists_succ
    refine bind_some (variant?_obj [] within rfl (by decide) (by decide)) ?_
    exact bind_some (fields?_obj [] ["value"] rfl (by decide)) (bind_some rfl rfl)
  | .returnValue (some value), fits => by
    obtain ⟨levels, rfl⟩ := fits.exists_succ
    have onValue := exprOf?_toJson levels true value (fits.field "value" rfl)
    refine bind_some (variant?_obj ["value"] within rfl (by decide) (by decide)) ?_
    refine bind_some (fields?_obj ["value"] _ rfl (by decide)) ?_
    exact bind_some (optional?_present rfl value.toJson_ne_null onValue) rfl
  | .empty, fits => by
    obtain ⟨levels, rfl⟩ := fits.exists_succ
    exact bind_some (variant?_obj [] within rfl (by decide) (by decide)) rfl

theorem stmtsOf?_toJson (levels : Nat) (within : Bool) : (stmts : List Stmt) →
    Fits levels (.arr (stmtsToJson stmts)) →
    asList? (stmtOf? levels within) (.arr (stmtsToJson stmts)) = some stmts
  | [], _ => asList?_nil
  | stmt :: rest, fits =>
    asList?_cons (stmtOf?_toJson levels within stmt fits.head)
      (stmtsOf?_toJson levels within rest fits.tail)

theorem sectionsOf?_toJson (levels : Nat) : (sections : List SwitchSection) →
    Fits levels (.arr (sectionsToJson sections)) →
    asList? (sectionOf? levels (stmtOf? levels true)) (.arr (sectionsToJson sections)) =
      some sections
  | [], _ => asList?_nil
  | .mk labels body :: rest, fits => by
    have onLabels :=
      asList?_map_of_fits (labelOf?_toJson levels) labels (fits.head.inner "labels" rfl)
    have onBody := stmtsOf?_toJson levels true body (fits.head.inner "body" rfl)
    refine asList?_cons ?_ (sectionsOf?_toJson levels rest fits.tail)
    refine bind_some (fields?_obj ["labels", "body"] _ rfl (by decide)) ?_
    exact bind_some onLabels (bind_some onBody rfl)

end

end Storefront.Script
