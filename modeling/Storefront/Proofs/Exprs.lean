import Storefront.Json.Record
import Storefront.Proofs.LocalStmt
import Storefront.Proofs.Precedence

/-!
What statements are made of, and what is known of all of it once statements are read. A statement
holds expressions, and a declaration holds names and types besides. Every reader of statements gets
these from the readers of expressions, names and types, on the tokens that are left at that point;
so a condition that these readers ensure holds throughout a procedure. It holds in particular that
everything is made of words that a text can have, and so that whole numbers fit 64 bits.
-/

namespace Storefront.Script

/-! ### Expressions of statements -/

/-- The first value of a declared variable, if it has one. -/
def Declarator.expressions (declarator : Declarator) : List Expr := declarator.init.toList

/-- The first values of declared variables. -/
def LocalDecl.expressions (decl : LocalDecl) : List Expr := decl.vars.flatMap Declarator.expressions

/-- The expressions in what a counting loop does first. -/
def ForInit.expressions : ForInit → List Expr
  | .decl declared => declared.expressions
  | .exprs listed => listed

mutual

/-- The expressions that stand in a statement, without those within them. -/
def Stmt.expressions : Stmt → List Expr
  | .block body => expressionsOf body
  | .decl declared => declared.expressions
  | .expr evaluated => [evaluated]
  | .branch condition whenTrue none => condition :: whenTrue.expressions
  | .branch condition whenTrue (some whenFalse) =>
    condition :: (whenTrue.expressions ++ whenFalse.expressions)
  | .switch scrutinee sections => scrutinee :: expressionsOfSections sections
  | .forLoop init condition step body =>
    (init.map ForInit.expressions).getD [] ++ (condition.toList ++ (step ++ body.expressions))
  | .whileLoop condition body => condition :: body.expressions
  | .doWhile body condition => body.expressions ++ [condition]
  | .foreach _ _ iterated body => iterated :: body.expressions
  | .returnValue value => value.toList
  | .breakOut | .continueLoop | .empty => []

/-- The expressions that stand in statements one after the other. -/
def expressionsOf : List Stmt → List Expr
  | [] => []
  | stmt :: rest => stmt.expressions ++ expressionsOf rest

/-- The expressions that stand in the sections of a switch. -/
def expressionsOfSections : List SwitchSection → List Expr
  | [] => []
  | .mk labels body :: rest =>
    labels.filterMap CaseLabel.value? ++ (expressionsOf body ++ expressionsOfSections rest)

end

/-! ### Contents of statements -/

/-- Something that a statement holds apart from statements. -/
inductive Content where
  | expr (value : Expr)
  /-- The name of a declared variable. -/
  | name (text : String)
  /-- The type of declared variables. -/
  | type (text : String)

/-- The expression that a content is, if it is one. -/
def Content.expr? : Content → Option Expr
  | .expr value => some value
  | _ => none

/-- The words and literals of a content, from left to right. -/
def Content.words : Content → List Token
  | .expr value => value.words
  | .name text => [.word text]
  | .type text => (typeWords text).map .word

/-- The name of a declared variable, and its first value. -/
def Declarator.contents (declarator : Declarator) : List Content :=
  .name declarator.name :: declarator.init.toList.map .expr

/-- What a declaration holds. -/
def LocalDecl.contents (decl : LocalDecl) : List Content :=
  .type decl.type :: decl.vars.flatMap Declarator.contents

/-- What is held by what a counting loop does first. -/
def ForInit.contents : ForInit → List Content
  | .decl declared => declared.contents
  | .exprs listed => listed.map .expr

/-- The value of a label. -/
def CaseLabel.contents (label : CaseLabel) : List Content := label.value?.toList.map .expr

mutual

/-- What a statement and the statements within it hold. -/
def Stmt.contents : Stmt → List Content
  | .block body => contentsOf body
  | .decl declared => declared.contents
  | .expr evaluated => [.expr evaluated]
  | .branch condition whenTrue none => .expr condition :: whenTrue.contents
  | .branch condition whenTrue (some whenFalse) =>
    .expr condition :: (whenTrue.contents ++ whenFalse.contents)
  | .switch scrutinee sections => .expr scrutinee :: contentsOfSections sections
  | .forLoop init condition step body =>
    init.toList.flatMap ForInit.contents ++
      (condition.toList.map .expr ++ (step.map .expr ++ body.contents))
  | .whileLoop condition body => .expr condition :: body.contents
  | .doWhile body condition => body.contents ++ [.expr condition]
  | .foreach type name iterated body =>
    .type type :: .name name :: .expr iterated :: body.contents
  | .returnValue value => value.toList.map .expr
  | .breakOut | .continueLoop | .empty => []

/-- What statements one after the other hold. -/
def contentsOf : List Stmt → List Content
  | [] => []
  | stmt :: rest => stmt.contents ++ contentsOf rest

/-- What the sections of a switch hold. -/
def contentsOfSections : List SwitchSection → List Content
  | [] => []
  | .mk labels body :: rest =>
    labels.flatMap CaseLabel.contents ++ (contentsOf body ++ contentsOfSections rest)

end

/-! ### The expressions among the contents -/

/-- The expressions among contents, in their order. -/
def exprsIn (contents : List Content) : List Expr := contents.filterMap Content.expr?

theorem exprsIn_append (contents others : List Content) :
    exprsIn (contents ++ others) = exprsIn contents ++ exprsIn others := List.filterMap_append

@[simp] theorem exprsIn_exprs (exprs : List Expr) : exprsIn (exprs.map .expr) = exprs := by
  rw [exprsIn, List.filterMap_map]
  exact List.filterMap_some

theorem exprsIn_flatMap {α : Type} {contents : α → List Content} {exprs : α → List Expr}
    (same : ∀ value, exprsIn (contents value) = exprs value) (values : List α) :
    exprsIn (values.flatMap contents) = values.flatMap exprs := by
  rw [exprsIn, List.filterMap_flatMap]
  exact congrArg (fun each => values.flatMap each) (funext same)

theorem Declarator.exprsIn_contents (declarator : Declarator) :
    exprsIn declarator.contents = declarator.expressions :=
  exprsIn_exprs declarator.init.toList

theorem LocalDecl.exprsIn_contents (decl : LocalDecl) :
    exprsIn decl.contents = decl.expressions :=
  exprsIn_flatMap Declarator.exprsIn_contents decl.vars

theorem ForInit.exprsIn_contents (init : ForInit) : exprsIn init.contents = init.expressions := by
  cases init with
  | decl declared => exact declared.exprsIn_contents
  | exprs listed => exact exprsIn_exprs listed

theorem CaseLabel.exprsIn_contents (label : CaseLabel) :
    exprsIn label.contents = label.value?.toList := exprsIn_exprs label.value?.toList

theorem exprsIn_labels (labels : List CaseLabel) :
    exprsIn (labels.flatMap CaseLabel.contents) = labels.filterMap CaseLabel.value? := by
  rw [exprsIn_flatMap CaseLabel.exprsIn_contents]
  exact (List.filterMap_eq_flatMap_toList _ _).symm

mutual

theorem Stmt.exprsIn_contents : ∀ stmt : Stmt, exprsIn stmt.contents = stmt.expressions
  | .block body => exprsIn_contentsOf body
  | .decl declared => declared.exprsIn_contents
  | .expr _ => rfl
  | .branch condition whenTrue none =>
    congrArg (condition :: ·) whenTrue.exprsIn_contents
  | .branch condition whenTrue (some whenFalse) => by
    rw [Stmt.contents, Stmt.expressions, ← whenTrue.exprsIn_contents,
      ← whenFalse.exprsIn_contents, ← exprsIn_append]
    rfl
  | .switch scrutinee sections => congrArg (scrutinee :: ·) (exprsIn_contentsOfSections sections)
  | .forLoop init condition step body => by
    rw [Stmt.contents, Stmt.expressions, exprsIn_append, exprsIn_append, exprsIn_append,
      exprsIn_flatMap ForInit.exprsIn_contents, exprsIn_exprs, exprsIn_exprs,
      body.exprsIn_contents]
    cases init with
    | none => rfl
    | some init =>
      rw [Option.toList_some, List.flatMap_singleton, Option.map_some, Option.getD_some]
  | .whileLoop condition body => congrArg (condition :: ·) body.exprsIn_contents
  | .doWhile body condition => by
    rw [Stmt.contents, Stmt.expressions, exprsIn_append, body.exprsIn_contents]
    rfl
  | .foreach _ _ iterated body => congrArg (iterated :: ·) body.exprsIn_contents
  | .returnValue value => exprsIn_exprs value.toList
  | .breakOut | .continueLoop | .empty => rfl

theorem exprsIn_contentsOf : ∀ stmts : List Stmt,
    exprsIn (contentsOf stmts) = expressionsOf stmts
  | [] => rfl
  | stmt :: rest => by
    rw [contentsOf, expressionsOf, exprsIn_append, stmt.exprsIn_contents, exprsIn_contentsOf rest]

theorem exprsIn_contentsOfSections : ∀ sections : List SwitchSection,
    exprsIn (contentsOfSections sections) = expressionsOfSections sections
  | [] => rfl
  | .mk labels body :: rest => by
    rw [contentsOfSections, expressionsOfSections, exprsIn_append, exprsIn_append, exprsIn_labels,
      exprsIn_contentsOf body, exprsIn_contentsOfSections rest]

end

section Readers

variable {condition : Content → Prop} {source : Tokens} {lastLine : Nat}

/-- The tokens that are left end the source, and the condition holds of some contents. -/
def Holding (condition : Content → Prop) (source : Tokens) (contents : List Content)
    (rest : Tokens) : Prop :=
  rest <:+ source ∧ ∀ content ∈ contents, condition content

/-- The readers of expressions, names and types ensure a condition, wherever they start in the
source. -/
structure Supplies (condition : Content → Prop) (source : Tokens) (lastLine : Nat) : Prop where
  exprs : ∀ tokens, tokens <:+ source → Ensures (readExpr lastLine tokens)
    fun expr rest => rest <:+ source ∧ condition (.expr expr)
  names : ∀ tokens, tokens <:+ source → Ensures (readName lastLine tokens)
    fun name rest => rest <:+ source ∧ condition (.name name)
  types : ∀ tokens, tokens <:+ source → Ensures (readTypeName lastLine tokens)
    fun type rest => rest <:+ source ∧ condition (.type type)

theorem Local.suffix {α : Type} {met : Bool} {tokens rest : Tokens}
    {again : Tokens → α → Tokens → Prop} {value : α} (run : Local met tokens again value rest)
    (within : tokens <:+ source) : rest <:+ source := by
  obtain ⟨front, rfl, -⟩ := run
  exact (List.suffix_append front rest).trans within

theorem expect_within (token : Token) (what : String) {tokens : Tokens}
    (within : tokens <:+ source) :
    Ensures (expect lastLine token what tokens) fun _ rest => rest <:+ source :=
  (expect_local lastLine lastLine token what tokens).imp fun _ _ run => run.suffix within

theorem readWord_within (word : String) (missing : Fault) {tokens : Tokens}
    (within : tokens <:+ source) :
    Ensures (readWord lastLine word missing tokens) fun _ rest => rest <:+ source :=
  (readWord_local lastLine lastLine word missing tokens).imp fun _ _ run => run.suffix within

theorem within_of_cons {token : Located Token} {rest : Tokens}
    (within : token :: rest <:+ source) : rest <:+ source :=
  (List.suffix_cons token rest).trans within

variable (supplies : Supplies condition source lastLine)

include supplies

theorem readExprs_holding (tokens : Tokens) (within : tokens <:+ source) :
    Ensures (readExprs lastLine tokens) fun exprs =>
      Holding condition source (exprs.map .expr) := by
  rw [readExprs]
  refine (supplies.exprs tokens within).bind fun expr rest fewer onExpr => ?_
  obtain ⟨restWithin, holds⟩ := onExpr
  dsimp only
  split
  · next line afterComma fewer =>
    have shorter : afterComma.length + 1 < tokens.length := fewer
    refine (readExprs_holding afterComma (within_of_cons restWithin)).bind
      fun exprs after _ onExprs => Ensures.ok ⟨onExprs.1, ?_⟩
    exact List.forall_mem_cons.mpr ⟨holds, onExprs.2⟩
  · exact Ensures.ok ⟨restWithin, List.forall_mem_singleton.mpr holds⟩
termination_by tokens.length
decreasing_by omega

theorem readExprList_holding (close : Token) (tokens : Tokens) (within : tokens <:+ source) :
    Ensures (readExprList lastLine close tokens) fun exprs =>
      Holding condition source (exprs.map .expr) := by
  rw [readExprList]
  split
  · exact Ensures.ok ⟨within, List.forall_mem_nil _⟩
  · exact (readExprs_holding supplies tokens within).bind fun _ _ _ onExprs => Ensures.ok onExprs

theorem readInParens_holding (tokens : Tokens) (within : tokens <:+ source) :
    Ensures (readInParens lastLine tokens) fun expr => Holding condition source [.expr expr] := by
  rw [readInParens]
  refine (expect_within _ _ within).bind fun _ _ _ within => ?_
  refine (supplies.exprs _ within).bind fun expr _ _ onExpr => ?_
  exact (expect_within _ _ onExpr.1).bind fun _ _ _ within =>
    Ensures.ok ⟨within, List.forall_mem_singleton.mpr onExpr.2⟩

/-! ### Parts of statements -/

theorem readInit_holding (tokens : Tokens) (within : tokens <:+ source) :
    Ensures (readInit lastLine tokens) fun init =>
      Holding condition source (init.toList.map .expr) := by
  unfold readInit
  split
  · next line rest =>
    exact (supplies.exprs rest (within_of_cons within)).bind fun init _ _ onInit =>
      Ensures.ok ⟨onInit.1, List.forall_mem_singleton.mpr onInit.2⟩
  · exact Ensures.ok ⟨within, List.forall_mem_nil _⟩

theorem readDeclarators_holding (tokens : Tokens) (within : tokens <:+ source) :
    Ensures (readDeclarators lastLine tokens) fun vars =>
      Holding condition source (vars.flatMap Declarator.contents) := by
  rw [readDeclarators]
  refine (supplies.names tokens within).bind fun name afterName fewer₁ onName => ?_
  refine (readInit_holding supplies afterName onName.1).bind fun init rest fewer₂ onInit => ?_
  dsimp only
  split
  · next line afterComma fewer₂ =>
    have shorter : afterComma.length + 1 < afterName.length + 1 := fewer₂
    refine (readDeclarators_holding afterComma (within_of_cons onInit.1)).bind
      fun vars after _ onVars => Ensures.ok ⟨onVars.1, ?_⟩
    exact List.forall_mem_cons.mpr ⟨onName.2, List.forall_mem_append.mpr ⟨onInit.2, onVars.2⟩⟩
  · refine Ensures.ok ⟨onInit.1, List.forall_mem_cons.mpr ⟨onName.2, ?_⟩⟩
    exact List.forall_mem_append.mpr ⟨onInit.2, List.forall_mem_nil _⟩
termination_by tokens.length
decreasing_by omega

theorem readLocalDecl_holding (tokens : Tokens) (within : tokens <:+ source) :
    Ensures (readLocalDecl lastLine tokens) fun decl =>
      Holding condition source decl.contents := by
  rw [readLocalDecl]
  refine (supplies.types tokens within).bind fun type rest _ onType => ?_
  exact (readDeclarators_holding supplies rest onType.1).bind fun vars after _ onVars =>
    Ensures.ok ⟨onVars.1, List.forall_mem_cons.mpr ⟨onType.2, onVars.2⟩⟩

theorem readSimple_holding (tokens : Tokens) (within : tokens <:+ source) :
    Ensures (readSimple lastLine tokens) fun stmt =>
      Holding condition source stmt.contents := by
  rw [readSimple]
  split
  · refine (readLocalDecl_holding supplies tokens within).bind fun decl rest _ onDecl => ?_
    exact (expect_within _ _ onDecl.1).bind fun _ after _ within => Ensures.ok ⟨within, onDecl.2⟩
  · refine (supplies.exprs tokens within).bind fun expr rest _ onExpr => ?_
    exact (expect_within _ _ onExpr.1).bind fun _ after _ within =>
      Ensures.ok ⟨within, List.forall_mem_singleton.mpr onExpr.2⟩

theorem readReturned_holding (tokens : Tokens) (within : tokens <:+ source) :
    Ensures (readReturned lastLine tokens) fun stmt =>
      Holding condition source stmt.contents := by
  unfold readReturned
  split
  · exact Ensures.ok ⟨within_of_cons within, List.forall_mem_nil _⟩
  · refine (supplies.exprs _ within).bind fun value rest _ onValue => ?_
    exact (expect_within _ _ onValue.1).bind fun _ after _ within =>
      Ensures.ok ⟨within, List.forall_mem_singleton.mpr onValue.2⟩

theorem readForInit_holding (tokens : Tokens) (within : tokens <:+ source) :
    Ensures (readForInit lastLine tokens) fun init =>
      Holding condition source (init.toList.flatMap ForInit.contents) := by
  rw [readForInit]
  split
  · exact Ensures.ok ⟨within, List.forall_mem_nil _⟩
  · split
    · exact (readLocalDecl_holding supplies tokens within).bind fun decl rest _ onDecl =>
        Ensures.ok ⟨onDecl.1, List.forall_mem_append.mpr ⟨onDecl.2, List.forall_mem_nil _⟩⟩
    · exact (readExprList_holding supplies .semi tokens within).bind fun exprs rest _ onExprs =>
        Ensures.ok ⟨onExprs.1, List.forall_mem_append.mpr ⟨onExprs.2, List.forall_mem_nil _⟩⟩

theorem readForCondition_holding (tokens : Tokens) (within : tokens <:+ source) :
    Ensures (readForCondition lastLine tokens) fun test =>
      Holding condition source (test.toList.map .expr) := by
  rw [readForCondition]
  split
  · exact Ensures.ok ⟨within, List.forall_mem_nil _⟩
  · exact (supplies.exprs tokens within).bind fun test rest _ onTest =>
      Ensures.ok ⟨onTest.1, List.forall_mem_singleton.mpr onTest.2⟩

theorem readForHead_holding (tokens : Tokens) (within : tokens <:+ source) :
    Ensures (readForHead lastLine tokens) fun head =>
      Holding condition source (head.init.toList.flatMap ForInit.contents ++
        (head.condition.toList.map .expr ++ head.step.map .expr)) := by
  rw [readForHead]
  refine (expect_within _ _ within).bind fun _ afterOpen _ within => ?_
  refine (readForInit_holding supplies afterOpen within).bind fun init rest _ onInit => ?_
  refine (expect_within _ _ onInit.1).bind fun _ afterInit _ within => ?_
  refine (readForCondition_holding supplies afterInit within).bind fun test rest _ onTest => ?_
  refine (expect_within _ _ onTest.1).bind fun _ afterCondition _ within => ?_
  refine (readExprList_holding supplies .rParen afterCondition within).bind
    fun step rest _ onStep => ?_
  refine (expect_within _ _ onStep.1).bind fun _ after _ within => Ensures.ok ⟨within, ?_⟩
  exact List.forall_mem_append.mpr ⟨onInit.2, List.forall_mem_append.mpr ⟨onTest.2, onStep.2⟩⟩

theorem readForeachHead_holding (tokens : Tokens) (within : tokens <:+ source) :
    Ensures (readForeachHead lastLine tokens) fun head =>
      Holding condition source [.type head.type, .name head.name, .expr head.iterated] := by
  rw [readForeachHead]
  refine (expect_within _ _ within).bind fun _ afterOpen _ within => ?_
  refine (supplies.types afterOpen within).bind fun type afterType _ onType => ?_
  refine (supplies.names afterType onType.1).bind fun name afterName _ onName => ?_
  refine (readWord_within _ _ onName.1).bind fun _ afterIn _ within => ?_
  refine (supplies.exprs afterIn within).bind fun iterated rest _ onIterated => ?_
  refine (expect_within _ _ onIterated.1).bind fun _ after _ within => Ensures.ok ⟨within, ?_⟩
  exact List.forall_mem_cons.mpr ⟨onType.2, List.forall_mem_cons.mpr
    ⟨onName.2, List.forall_mem_singleton.mpr onIterated.2⟩⟩

theorem readCase_holding (tokens : Tokens) (within : tokens <:+ source) :
    Ensures (readCase lastLine tokens) fun label =>
      Holding condition source label.contents := by
  rw [readCase]
  refine (supplies.exprs tokens within).bind fun value rest _ onValue => ?_
  dsimp only
  split
  · exact Ensures.faultAt
  · exact (expect_within _ _ onValue.1).bind fun _ after _ within =>
      Ensures.ok ⟨within, List.forall_mem_singleton.mpr onValue.2⟩

theorem readLabel_holding (tokens : Tokens) (within : tokens <:+ source) :
    Ensures (readLabel lastLine tokens) fun label =>
      Holding condition source label.contents := by
  unfold readLabel
  split
  · next line rest =>
    exact (readCase_holding supplies rest (within_of_cons within)).bind fun label after _ onLabel =>
      Ensures.ok onLabel
  · next line rest =>
    exact (expect_within _ _ (within_of_cons within)).bind fun _ after _ within =>
      Ensures.ok ⟨within, List.forall_mem_nil _⟩
  · exact Ensures.faultAt

theorem readLabels_holding (tokens : Tokens) (within : tokens <:+ source) :
    Ensures (readLabels lastLine tokens) fun labels =>
      Holding condition source (labels.flatMap CaseLabel.contents) := by
  rw [readLabels]
  refine (readLabel_holding supplies tokens within).bind fun label rest fewer onLabel => ?_
  dsimp only
  split
  · exact (readLabels_holding rest onLabel.1).bind fun labels after _ onLabels =>
      Ensures.ok ⟨onLabels.1, List.forall_mem_append.mpr ⟨onLabel.2, onLabels.2⟩⟩
  · exact Ensures.ok ⟨onLabel.1,
      List.forall_mem_append.mpr ⟨onLabel.2, List.forall_mem_nil _⟩⟩
termination_by tokens.length
decreasing_by omega

/-! ### Statements -/

-- Some readers of the group below only pass the assumption on to the others.
set_option linter.unusedSectionVars false

mutual

theorem readStmt_holding (tokens : Tokens) (within : tokens <:+ source) :
    Ensures (readStmt lastLine tokens) fun stmt => Holding condition source stmt.contents := by
  have start := Start.of tokens
  -- The three go together: `within` speaks of the tokens, and the measure of what is left does.
  match tokens, start, within with
  | _, .block line rest, within =>
    rw [readStmt]
    exact (readBlock_holding _ rest (within_of_cons within)).bind fun body after _ onBody =>
      Ensures.ok onBody
  | _, .empty line rest, within =>
    rw [readStmt]
    exact Ensures.ok ⟨within_of_cons within, List.forall_mem_nil _⟩
  | _, .branch line rest, within =>
    rw [readStmt]
    exact (readBranch_holding rest (within_of_cons within)).bind fun stmt after _ onStmt =>
      Ensures.ok onStmt
  | _, .switch line rest, within =>
    rw [readStmt]
    exact (readSwitch_holding rest (within_of_cons within)).bind fun stmt after _ onStmt =>
      Ensures.ok onStmt
  | _, .forLoop line rest, within =>
    rw [readStmt]
    refine (readForHead_holding supplies rest (within_of_cons within)).bind
      fun head afterHead _ onHead => ?_
    refine (readStmt_holding afterHead onHead.1).bind fun body after _ onBody =>
      Ensures.ok ⟨onBody.1, ?_⟩
    have both := List.forall_mem_append.mpr ⟨onHead.2, onBody.2⟩
    rwa [List.append_assoc, List.append_assoc] at both
  | _, .foreach line rest, within =>
    rw [readStmt]
    refine (readForeachHead_holding supplies rest (within_of_cons within)).bind
      fun head afterHead _ onHead => ?_
    exact (readStmt_holding afterHead onHead.1).bind fun body after _ onBody =>
      Ensures.ok ⟨onBody.1, List.forall_mem_append.mpr ⟨onHead.2, onBody.2⟩⟩
  | _, .whileLoop line rest, within =>
    rw [readStmt]
    refine (readInParens_holding supplies rest (within_of_cons within)).bind
      fun test afterHead _ onTest => ?_
    exact (readStmt_holding afterHead onTest.1).bind fun body after _ onBody =>
      Ensures.ok ⟨onBody.1, List.forall_mem_append.mpr ⟨onTest.2, onBody.2⟩⟩
  | _, .doWhile line rest, within =>
    rw [readStmt]
    exact (readDoWhile_holding rest (within_of_cons within)).bind fun stmt after _ onStmt =>
      Ensures.ok onStmt
  | _, .breakOut line rest, within | _, .continueLoop line rest, within =>
    rw [readStmt]
    exact (expect_within _ _ (within_of_cons within)).bind fun _ after _ within =>
      Ensures.ok ⟨within, List.forall_mem_nil _⟩
  | _, .returnValue line rest, within =>
    rw [readStmt]
    exact (readReturned_holding supplies rest (within_of_cons within)).bind
      fun stmt after _ onStmt => Ensures.ok onStmt
  | _, .unsupported line word rest other listed, _ =>
    rw [readStmt_otherWord lastLine other, if_pos listed]
    exact Ensures.error
  | tokens, .simple simple, within =>
    rw [readStmt_of_simple lastLine simple]
    exact readSimple_holding supplies tokens within
termination_by tokens.length * 4 + 1
decreasing_by all_goals simp only [List.length_cons] at *; omega

theorem readBranch_holding (tokens : Tokens) (within : tokens <:+ source) :
    Ensures (readBranch lastLine tokens) fun stmt =>
      Holding condition source stmt.contents := by
  rw [readBranch]
  refine (readInParens_holding supplies tokens within).bind fun test afterHead _ onTest => ?_
  refine (readStmt_holding afterHead onTest.1).bind fun whenTrue rest fewer₂ onTrue => ?_
  have upToTrue := List.forall_mem_append.mpr ⟨onTest.2, onTrue.2⟩
  dsimp only
  split
  · next isElse =>
    obtain ⟨line, afterElse, rfl⟩ := next?_eq_some.mp isElse
    have shorter : afterElse.length + 1 < afterHead.length := fewer₂
    refine (readStmt_holding afterElse (within_of_cons onTrue.1)).bind
      fun whenFalse after _ onFalse => Ensures.ok ⟨onFalse.1, ?_⟩
    exact List.forall_mem_append.mpr ⟨upToTrue, onFalse.2⟩
  · exact Ensures.ok ⟨onTrue.1, upToTrue⟩
termination_by tokens.length * 4 + 1
decreasing_by all_goals omega

theorem readDoWhile_holding (tokens : Tokens) (within : tokens <:+ source) :
    Ensures (readDoWhile lastLine tokens) fun stmt =>
      Holding condition source stmt.contents := by
  rw [readDoWhile]
  refine (readStmt_holding tokens within).bind fun body rest _ onBody => ?_
  refine (readWord_within _ _ onBody.1).bind fun _ afterWhile _ within => ?_
  refine (readInParens_holding supplies afterWhile within).bind fun test rest _ onTest => ?_
  exact (expect_within _ _ onTest.1).bind fun _ after _ within =>
    Ensures.ok ⟨within, List.forall_mem_append.mpr ⟨onBody.2, onTest.2⟩⟩
termination_by tokens.length * 4 + 2

theorem readBlock_holding (what : String) (tokens : Tokens) (within : tokens <:+ source) :
    Ensures (readBlock lastLine what tokens) fun body =>
      Holding condition source (contentsOf body) := by
  rw [readBlock]
  refine (readStmts_holding tokens within).bind fun body atClose _ onBody => ?_
  exact (expect_within _ _ onBody.1).bind fun _ after _ within => Ensures.ok ⟨within, onBody.2⟩
termination_by tokens.length * 4 + 3

theorem readStmts_holding (tokens : Tokens) (within : tokens <:+ source) :
    Ensures (readStmts lastLine tokens) fun stmts =>
      Holding condition source (contentsOf stmts) := by
  rw [readStmts]
  split
  · exact Ensures.ok ⟨within, List.forall_mem_nil _⟩
  · exact Ensures.faultAt
  · refine (readStmt_holding tokens within).bind fun stmt rest _ onStmt => ?_
    exact (readStmts_holding rest onStmt.1).bind fun stmts after _ onStmts =>
      Ensures.ok ⟨onStmts.1, List.forall_mem_append.mpr ⟨onStmt.2, onStmts.2⟩⟩
termination_by tokens.length * 4 + 2

theorem readSwitch_holding (tokens : Tokens) (within : tokens <:+ source) :
    Ensures (readSwitch lastLine tokens) fun stmt =>
      Holding condition source stmt.contents := by
  rw [readSwitch]
  refine (readInParens_holding supplies tokens within).bind
    fun scrutinee afterHead _ onScrutinee => ?_
  refine (expect_within _ _ onScrutinee.1).bind fun _ afterOpen _ within => ?_
  refine (readSections_holding afterOpen within).bind fun sections atClose _ onSections => ?_
  exact (expect_within _ _ onSections.1).bind fun _ after _ within =>
    Ensures.ok ⟨within, List.forall_mem_append.mpr ⟨onScrutinee.2, onSections.2⟩⟩
termination_by tokens.length * 4 + 1

theorem readSections_holding (tokens : Tokens) (within : tokens <:+ source) :
    Ensures (readSections lastLine tokens) fun sections =>
      Holding condition source (contentsOfSections sections) := by
  rw [readSections]
  split
  · exact Ensures.ok ⟨within, List.forall_mem_nil _⟩
  · refine (readLabels_holding supplies tokens within).bind fun labels afterLabels _ onLabels => ?_
    refine (readSectionBody_holding afterLabels onLabels.1).bind fun body rest _ onBody => ?_
    refine (readSections_holding rest onBody.1).bind fun sections after _ onSections =>
      Ensures.ok ⟨onSections.1, ?_⟩
    exact List.forall_mem_append.mpr
      ⟨onLabels.2, List.forall_mem_append.mpr ⟨onBody.2, onSections.2⟩⟩
termination_by tokens.length * 4

theorem readSectionBody_holding (tokens : Tokens) (within : tokens <:+ source) :
    Ensures (readSectionBody lastLine tokens) fun stmts =>
      Holding condition source (contentsOf stmts) := by
  rw [readSectionBody]
  split
  · exact Ensures.ok ⟨within, List.forall_mem_nil _⟩
  · split
    · exact Ensures.faultAt
    · refine (readStmt_holding tokens within).bind fun stmt rest _ onStmt => ?_
      exact (readSectionBody_holding rest onStmt.1).bind fun stmts after _ onStmts =>
        Ensures.ok ⟨onStmts.1, List.forall_mem_append.mpr ⟨onStmt.2, onStmts.2⟩⟩
termination_by tokens.length * 4 + 2

end

theorem readToEnd_holding (tokens : Tokens) (within : tokens <:+ source) (stmts : List Stmt)
    (reads : readToEnd lastLine tokens = .ok stmts) :
    ∀ content ∈ contentsOf stmts, condition content := by
  match tokens with
  | [] =>
    rw [readToEnd] at reads
    obtain rfl := Except.ok.inj reads
    exact List.forall_mem_nil _
  | token :: more =>
    rw [readToEnd] at reads
    obtain ⟨⟨stmt, rest, fewer⟩, isStmt, reads⟩ := exists_of_bind reads
    obtain ⟨others, areOthers, reads⟩ := exists_of_bind reads
    obtain rfl := Except.ok.inj reads
    obtain ⟨restWithin, holds⟩ :=
      readStmt_holding supplies (token :: more) within stmt rest ⟨fewer, isStmt⟩
    exact List.forall_mem_append.mpr ⟨holds, readToEnd_holding rest restWithin others areOthers⟩
termination_by tokens.length
decreasing_by exact fewer

end Readers

/-! ### Procedures -/

theorem afterAttributes_suffix (depth : Nat) (tokens : Tokens) :
    afterAttributes depth tokens <:+ tokens := by
  fun_induction afterAttributes depth tokens with
  | case1 line rest inductionHypothesis => exact inductionHypothesis.trans (List.suffix_cons _ _)
  | case2 tokens => exact List.suffix_rfl
  | case3 depth line rest inductionHypothesis =>
    exact inductionHypothesis.trans (List.suffix_cons _ _)
  | case4 depth line rest inductionHypothesis =>
    exact inductionHypothesis.trans (List.suffix_cons _ _)
  | case5 depth token rest noOpen noClose inductionHypothesis =>
    exact inductionHypothesis.trans (List.suffix_cons _ _)
  | case6 depth => exact List.suffix_rfl

theorem afterParameters?_suffix (depth : Nat) (tokens : Tokens) :
    ∀ rest ∈ afterParameters? depth tokens, rest <:+ tokens := by
  fun_induction afterParameters? depth tokens with
  | case1 depth => exact fun _ none => nomatch none
  | case2 depth line more inductionHypothesis =>
    exact fun rest found => (inductionHypothesis rest found).trans (List.suffix_cons _ _)
  | case3 line more =>
    rintro rest ⟨⟩
    exact List.suffix_cons _ _
  | case4 depth line more _ inductionHypothesis =>
    exact fun rest found => (inductionHypothesis rest found).trans (List.suffix_cons _ _)
  | case5 depth token more _ _ _ inductionHypothesis =>
    exact fun rest found => (inductionHypothesis rest found).trans (List.suffix_cons _ _)

/-- What the readers of expressions, names and types ensure holds throughout a procedure. -/
theorem readProcedure_holding {condition : Content → Prop} {lexed : Lexed} {stmts : List Stmt}
    (supplies : Supplies condition lexed.tokens lexed.lastLine)
    (reads : readProcedure lexed = .ok stmts) :
    ∀ content ∈ contentsOf stmts, condition content := by
  have within := afterAttributes_suffix 0 lexed.tokens
  rw [readProcedure] at reads
  split at reads
  · rw [readMethod] at reads
    split at reads
    · cases reads
    · next afterHeader found =>
      have headerWithin := (afterParameters?_suffix 0 _ afterHeader found).trans
        ((List.dropWhile_suffix _).trans within)
      obtain ⟨⟨_, afterOpen, fewer⟩, opens, reads⟩ := exists_of_bind reads
      have openWithin := expect_within .lBrace _ headerWithin () afterOpen ⟨fewer, opens⟩
      obtain ⟨⟨body, after, fewer⟩, isBlock, reads⟩ := exists_of_bind reads
      obtain ⟨⟨⟩, -, same⟩ := exists_of_bind reads
      obtain rfl := Except.ok.inj same
      exact (readBlock_holding supplies _ afterOpen openWithin body after ⟨fewer, isBlock⟩).2
  · exact readToEnd_holding supplies _ within stmts reads

/-! ### Words of a text -/

/-- The words that are taken from tokens are among them. -/
theorem Takes.words_mem {tokens rest : Tokens} {words : List Token}
    (takes : Takes tokens words rest) : ∀ token ∈ words, token ∈ tokens.map Located.value := by
  intro token member
  have isWord : token ∈ wordsIn tokens := takes.inOrder ▸ List.mem_append_left _ member
  exact (List.mem_filter.mp isWord).1

/-- Everything that is read from tokens is made of words that are among them. -/
theorem supplies_words {source : Tokens} (genuine : Genuine source) (lastLine : Nat) :
    Supplies (fun content => ∀ token ∈ content.words, token ∈ source.map Located.value) source
      lastLine where
  exprs tokens within := by
    have ofTokens : Genuine tokens := fun token member => genuine token (within.subset member)
    refine (readExpr_sound lastLine tokens ofTokens).imp fun expr rest sound => ?_
    exact ⟨sound.takes.ends.trans within,
      fun token member => List.map_subset _ within.subset (sound.takes.words_mem token member)⟩
  names tokens within := by
    refine (readName_ensures lastLine tokens).imp fun name rest isName => ?_
    obtain ⟨-, line, rfl⟩ := isName
    refine ⟨(List.suffix_cons _ _).trans within, List.forall_mem_singleton.mpr ?_⟩
    exact List.map_subset _ within.subset List.mem_cons_self
  types tokens within := by
    have ofTokens : Genuine tokens := fun token member => genuine token (within.subset member)
    refine (readTypeName_takes lastLine tokens ofTokens).imp fun type rest takes => ?_
    exact ⟨takes.ends.trans within,
      fun token member => List.map_subset _ within.subset (takes.words_mem token member)⟩

/-- The words of an expression are tokens of its text. -/
theorem parseExpr_words {text : String} {expr : Expr} (parsed : parseExpr text = .ok expr) :
    ∃ lexed, lex text = .ok lexed ∧
      ∀ token ∈ expr.words, token ∈ lexed.tokens.map Located.value := by
  obtain ⟨lexed, lexes, reads⟩ := parseExpr_eq_ok.mp parsed
  have sound := readExpr_sound lexed.lastLine lexed.tokens (genuine_of_lex lexes) expr [] reads
  exact ⟨lexed, lexes, sound.takes.words_mem⟩

/-- The words of what a procedure holds are tokens of its text. -/
theorem parseProcedure_words {text : String} {stmts : List Stmt}
    (parsed : parseProcedure text = .ok stmts) :
    ∃ lexed, lex text = .ok lexed ∧ ∀ content ∈ contentsOf stmts,
      ∀ token ∈ content.words, token ∈ lexed.tokens.map Located.value := by
  obtain ⟨lexed, lexes, reads⟩ := exists_of_bind parsed
  exact ⟨lexed, lexes,
    readProcedure_holding (supplies_words (genuine_of_lex lexes) lexed.lastLine) reads⟩

/-- Everything in a procedure is made of words that a text can have. -/
theorem parseProcedure_genuine {text : String} {stmts : List Stmt}
    (parsed : parseProcedure text = .ok stmts) :
    ∀ content ∈ contentsOf stmts, ∀ token ∈ content.words, token.Genuine := by
  obtain ⟨lexed, lexes, areTokens⟩ := parseProcedure_words parsed
  intro content isContent token isWord
  obtain ⟨located, isToken, rfl⟩ := List.mem_map.mp (areTokens content isContent token isWord)
  exact genuine_of_lex lexes located isToken

mutual

/-- What holds of all words of an expression holds of the words of each of its nodes. -/
theorem Expr.each_words {condition : Token → Prop} :
    (expr : Expr) → (∀ token ∈ expr.words, condition token) →
      expr.Each fun node => ∀ token ∈ node.words, condition token
  | .ident _, holds | .int _, holds | .float _, holds | .str _, holds | .char _, holds
  | .bool _, holds | .null, holds => (each_leaf rfl).mpr holds
  | .member target name, holds =>
    each_member.mpr ⟨holds, target.each_words (List.forall_mem_append.mp holds).1⟩
  | .index target args, holds => by
    obtain ⟨onTarget, onArgs⟩ := List.forall_mem_append.mp holds
    exact each_index.mpr ⟨holds, target.each_words onTarget, eachOf_words args onArgs⟩
  | .call callee args, holds => by
    obtain ⟨onCallee, onArgs⟩ := List.forall_mem_append.mp holds
    exact each_call.mpr ⟨holds, callee.each_words onCallee, eachOf_words args onArgs⟩
  | .unary op operand, holds => each_unary.mpr ⟨holds, operand.each_words holds⟩
  | .binary op left right, holds => by
    obtain ⟨onLeft, onRight⟩ := List.forall_mem_append.mp holds
    exact each_binary.mpr ⟨holds, left.each_words onLeft, right.each_words onRight⟩
  | .paren inner, holds => each_paren.mpr ⟨holds, inner.each_words holds⟩
  | .cast type inner, holds =>
    each_cast.mpr ⟨holds, inner.each_words (List.forall_mem_cons.mp holds).2⟩
  | .assign op target value, holds => by
    obtain ⟨onTarget, onValue⟩ := List.forall_mem_append.mp holds
    exact each_assign.mpr ⟨holds, target.each_words onTarget, value.each_words onValue⟩
  | .conditional guard whenTrue whenFalse, holds => by
    obtain ⟨onGuard, onArms⟩ := List.forall_mem_append.mp holds
    obtain ⟨onTrue, onFalse⟩ := List.forall_mem_append.mp onArms
    exact each_conditional.mpr ⟨holds, guard.each_words onGuard, whenTrue.each_words onTrue,
      whenFalse.each_words onFalse⟩
  | .create type args, holds => by
    have onArgs := (List.forall_mem_append.mp (List.forall_mem_cons.mp holds).2).2
    exact each_create.mpr ⟨holds, eachOf_words args onArgs⟩

theorem Expr.eachOf_words {condition : Token → Prop} :
    (exprs : List Expr) → (∀ token ∈ wordsOf exprs, condition token) →
      EachOf (fun node => ∀ token ∈ node.words, condition token) exprs
  | [], _ => eachOf_nil
  | expr :: rest, holds => by
    obtain ⟨onExpr, onRest⟩ := List.forall_mem_append.mp holds
    exact eachOf_cons.mpr ⟨expr.each_words onExpr, eachOf_words rest onRest⟩

end

/-! ### Whole numbers -/

/-- Whether a whole number fits 64 bits with a sign. -/
def Expr.isInRange : Expr → Bool
  | .int value => Json.fitsInt value
  | _ => true

end Storefront.Script
