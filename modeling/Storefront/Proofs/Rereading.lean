import Mathlib
import Storefront.Proofs.Readers
import Storefront.Proofs.Written

/-!
Reading an expression back from its own text. What stands at each place of a grouped expression is
read by the reader of that place and by no reader before it: an operand behind which nothing is
applied, the left operand of the operator that comes next, a condition in front of its question
mark. So each kind of expression is shown to be read where its tightness puts it, and from there it
is also read at every looser place.
-/

namespace Storefront.Script

open Storefront.Script.Expr

/-! ### Generic calls -/

/-- Whether tokens start with what looks like a call of a generic method behind an operand. -/
def startsGenericCall : Tokens → Bool
  | ⟨_, .dot⟩ :: ⟨_, .word _⟩ :: rest => startsTypeArgument rest
  | _ => false

/-- No tokens look like a call of a generic method. -/
def NoGenericCall (tokens : Tokens) : Prop :=
  ∀ tail, tail <:+ tokens → startsGenericCall tail = false

theorem NoGenericCall.after {front back : Tokens} (none : NoGenericCall (front ++ back)) :
    NoGenericCall back :=
  fun tail ends => none tail (ends.trans (List.suffix_append front back))

theorem NoGenericCall.tail {token : Located Token} {rest : Tokens}
    (none : NoGenericCall (token :: rest)) : NoGenericCall rest :=
  fun tail ends => none tail (ends.trans (List.suffix_cons token rest))

/-! ### The places of an expression -/

variable (lastLine : Nat)

/-- The tokens of an expression on the first line. -/
def Expr.located (expr : Expr) : Tokens := onLine 1 expr.tokens

/-- The expression is read as an operand that more may be applied to. -/
def ReadsAsHead (expr : Expr) : Prop :=
  ∀ rest whole after, NoGenericCall (expr.located ++ rest) →
    Gives (readPostfix lastLine expr rest) whole after →
    Gives (readUnary lastLine (expr.located ++ rest)) whole after

/-- The expression is read as an operand of an operator in front of it or of a cast. -/
def ReadsAsOperand (expr : Expr) : Prop :=
  ∀ rest, NoGenericCall (expr.located ++ rest) → Loose operandTightness rest →
    Gives (readUnary lastLine (expr.located ++ rest)) expr rest

/-- The expression is read as what stands to the left of the operators that come next. -/
def ReadsAsLeft (expr : Expr) : Prop :=
  ∀ least rest whole after, 1 ≤ least → least < expr.tightness →
    NoGenericCall (expr.located ++ rest) → Loose operandTightness rest →
    StopsBelow expr.tightness rest → Gives (readOperators lastLine least expr rest) whole after →
    Gives (readBinary lastLine least (expr.located ++ rest)) whole after

/-- The expression is read where a conditional may stand. -/
def ReadsAsConditional (expr : Expr) : Prop :=
  ∀ rest, NoGenericCall (expr.located ++ rest) → Loose 1 rest →
    Gives (readConditional lastLine (expr.located ++ rest)) expr rest

/-- The expression is read as a whole. -/
def ReadsAsWhole (expr : Expr) : Prop :=
  ∀ rest, NoGenericCall (expr.located ++ rest) → Loose 0 rest →
    Gives (readExpr lastLine (expr.located ++ rest)) expr rest

variable {lastLine}

theorem ReadsAsHead.asOperand {expr : Expr} (reads : ReadsAsHead lastLine expr) :
    ReadsAsOperand lastLine expr :=
  fun rest none loose => reads rest expr rest none (readPostfix_of_loose lastLine loose expr)

theorem ReadsAsOperand.asLeft {expr : Expr} (reads : ReadsAsOperand lastLine expr) :
    ReadsAsLeft lastLine expr := by
  intro least rest whole after _ _ none loose _ continued
  rw [readBinary]
  refine (reads rest none loose).bind fun _ => ?_
  exact continued.bind fun _ => Gives.ok _

/-- An expression is read up to the next operator that is not as tight as those to be read. -/
theorem ReadsAsLeft.asRight {expr : Expr} (reads : ReadsAsLeft lastLine expr) {least : Nat}
    {rest : Tokens} (positive : 1 ≤ least) (tight : least < expr.tightness)
    (none : NoGenericCall (expr.located ++ rest)) (loose : Loose operandTightness rest)
    (stops : StopsBelow least rest) :
    Gives (readBinary lastLine least (expr.located ++ rest)) expr rest := by
  refine reads least rest expr rest positive tight none loose ?_ ?_
  · exact fun token next op isOp => Nat.lt_trans (stops token next op isOp) tight
  · exact readOperators_of_stops lastLine stops expr

theorem ReadsAsLeft.asConditional {expr : Expr} (reads : ReadsAsLeft lastLine expr)
    (tight : 1 < expr.tightness) : ReadsAsConditional lastLine expr := by
  intro rest none loose
  have stops : StopsBelow 1 rest := (loose.mono (by decide)).stopsBelow
  exact readConditional_of_stops
    (reads.asRight (Nat.le_refl 1) tight none (loose.mono (by decide)) stops)
    fun isMark => Nat.lt_irrefl 1 (loose .question isMark 1 rfl)

theorem ReadsAsConditional.asWhole {expr : Expr} (reads : ReadsAsConditional lastLine expr) :
    ReadsAsWhole lastLine expr :=
  fun rest none loose =>
    readExpr_of_stops (reads rest none (loose.mono (by decide)))
      (fun op isSign => Nat.lt_irrefl 0 (loose (.assign op) isSign 0 rfl))
      fun isArrow => Nat.lt_irrefl 0 (loose .arrow isArrow 0 rfl)

/-- The expression is read at every place that it is tight enough for. -/
structure Reads (lastLine : Nat) (expr : Expr) : Prop where
  asHead : operandTightness ≤ expr.tightness → ReadsAsHead lastLine expr
  asOperand : leadingTightness ≤ expr.tightness → ReadsAsOperand lastLine expr
  asLeft : 1 < expr.tightness → ReadsAsLeft lastLine expr
  asConditional : 1 ≤ expr.tightness → ReadsAsConditional lastLine expr
  asWhole : ReadsAsWhole lastLine expr

theorem ReadsAsHead.reads {expr : Expr} (asHead : ReadsAsHead lastLine expr)
    (tight : expr.tightness = operandTightness) : Reads lastLine expr := by
  have tighter : 1 < expr.tightness := tight ▸ (by decide)
  have asConditional := asHead.asOperand.asLeft.asConditional tighter
  exact ⟨fun _ => asHead, fun _ => asHead.asOperand, fun _ => asHead.asOperand.asLeft,
    fun _ => asConditional, asConditional.asWhole⟩

theorem ReadsAsOperand.reads {expr : Expr} (asOperand : ReadsAsOperand lastLine expr)
    (tight : expr.tightness = leadingTightness) : Reads lastLine expr := by
  have tighter : 1 < expr.tightness := tight ▸ (by decide)
  have noHead : ¬ operandTightness ≤ expr.tightness := tight ▸ (by decide)
  have asConditional := asOperand.asLeft.asConditional tighter
  exact ⟨fun head => absurd head noHead, fun _ => asOperand, fun _ => asOperand.asLeft,
    fun _ => asConditional, asConditional.asWhole⟩

theorem ReadsAsLeft.reads {expr : Expr} (asLeft : ReadsAsLeft lastLine expr)
    (tight : 1 < expr.tightness) (loose : expr.tightness < leadingTightness) :
    Reads lastLine expr := by
  have asConditional := asLeft.asConditional tight
  exact ⟨fun head => absurd (Nat.lt_of_le_of_lt head loose) (by decide),
    fun lead => absurd lead (Nat.not_le.mpr loose), fun _ => asLeft, fun _ => asConditional,
    asConditional.asWhole⟩

theorem ReadsAsConditional.reads {expr : Expr} (asConditional : ReadsAsConditional lastLine expr)
    (tight : expr.tightness = 1) : Reads lastLine expr :=
  ⟨fun head => absurd (tight ▸ head) (by decide), fun lead => absurd (tight ▸ lead) (by decide),
    fun left => absurd (tight ▸ left) (by decide), fun _ => asConditional, asConditional.asWhole⟩

theorem ReadsAsWhole.reads {expr : Expr} (asWhole : ReadsAsWhole lastLine expr)
    (tight : expr.tightness = 0) : Reads lastLine expr :=
  ⟨fun head => absurd (tight ▸ head) (by decide), fun lead => absurd (tight ▸ lead) (by decide),
    fun left => absurd (tight ▸ left) (by decide),
    fun conditional => absurd (tight ▸ conditional) (by decide), asWhole⟩

/-! ### Operands -/

/-- What one token stands for alone. -/
theorem readsAsHead_of_primary {expr : Expr} {token : Token} (alone : expr.tokens = [token])
    (noLead : ∀ rest, leadOf (⟨1, token⟩ :: rest) = .operand)
    (primary : ∀ rest, Gives (readPrimary lastLine (⟨1, token⟩ :: rest)) expr rest) :
    ReadsAsHead lastLine expr := by
  intro rest whole after _ applied
  rw [Expr.located, alone, onLine_cons, onLine_nil, List.singleton_append, readUnary, noLead]
  exact (primary rest).bind fun _ => applied.bind fun _ => Gives.ok _

theorem readsAsHead_ident {name : String} (free : isReserved name = false) :
    ReadsAsHead lastLine (.ident name) :=
  readsAsHead_of_primary rfl (fun _ => rfl) fun rest => gives_ident lastLine free 1 rest

theorem readsAsHead_int : (value : Int) → ReadsAsHead lastLine (.int value)
  | .ofNat value => by
    refine readsAsHead_of_primary rfl (fun _ => rfl) fun rest => ?_
    rw [readPrimary.eq_def]
    exact Gives.ok _
  | .negSucc value => by
    intro rest whole after _ applied
    -- The sign becomes part of the number.
    have lead : leadOf ((Expr.int (.negSucc value)).located ++ rest) =
        .negated (.int (.negSucc value)) rest
          (by rw [List.length_append]; exact Nat.lt_add_of_pos_left Nat.two_pos) := rfl
    rw [readUnary, lead]
    exact applied.bind fun _ => Gives.ok _

theorem readsAsHead_bool (value : Bool) : ReadsAsHead lastLine (.bool value) := by
  cases value with
  | true | false =>
    refine readsAsHead_of_primary rfl (fun _ => rfl) fun rest => ?_
    rw [readPrimary.eq_def]
    exact Gives.ok _

theorem readsAsHead_null : ReadsAsHead lastLine .null := by
  refine readsAsHead_of_primary rfl (fun _ => rfl) fun rest => ?_
  rw [readPrimary.eq_def]
  exact Gives.ok _

/-- A parenthesis is no cast when no type name follows it. -/
theorem leadOf_paren {token : Token}
    (noType : ∀ name, token = .word name → isPrimitiveType name = false)
    (line line' : Nat) (rest : Tokens) :
    leadOf (⟨line, .lParen⟩ :: ⟨line', token⟩ :: rest) = .operand := by
  cases token with
  | word name =>
    cases rest with
    | nil => rfl
    | cons next rest =>
      obtain ⟨_, token⟩ := next
      cases token with
      | rParen =>
        unfold leadOf
        exact if_neg (Bool.eq_false_iff.mp (noType name rfl))
      | _ => rfl
  | _ => rfl

theorem readsAsHead_paren {inner : Expr} (starts : ∃ token more, inner.tokens = token :: more ∧
      ∀ name, token = .word name → isPrimitiveType name = false)
    (reads : ReadsAsWhole lastLine inner) : ReadsAsHead lastLine (.paren inner) := by
  intro rest whole after none applied
  obtain ⟨token, more, first, noType⟩ := starts
  have shape : (Expr.paren inner).located ++ rest =
      ⟨1, .lParen⟩ :: (inner.located ++ ⟨1, .rParen⟩ :: rest) := by
    simp [Expr.located, tokens]
  have lead : leadOf (⟨1, .lParen⟩ :: (inner.located ++ ⟨1, .rParen⟩ :: rest)) = .operand := by
    rw [Expr.located, first]
    exact leadOf_paren noType _ _ _
  rw [shape] at none
  rw [shape, readUnary, lead]
  have primary : Gives (readPrimary lastLine
      (⟨1, .lParen⟩ :: (inner.located ++ ⟨1, .rParen⟩ :: rest))) (.paren inner) rest := by
    rw [readPrimary.eq_def]
    refine (reads _ none.tail (.cons rfl _ _ _)).bind fun _ => ?_
    exact (gives_expect lastLine .rParen _ 1 rest).bind fun _ => Gives.ok _
  exact primary.bind fun _ => applied.bind fun _ => Gives.ok _

/-! ### What is applied behind an operand -/

theorem readsAsHead_member {target : Expr} {name : String} (reads : ReadsAsHead lastLine target) :
    ReadsAsHead lastLine (.member target name) := by
  intro rest whole after none applied
  have shape : (Expr.member target name).located ++ rest =
      target.located ++ ⟨1, .dot⟩ :: ⟨1, .word name⟩ :: rest := by
    simp [Expr.located, tokens]
  rw [shape] at none ⊢
  refine reads _ whole after none ?_
  have noType : startsTypeArgument rest = false := none.after _ List.suffix_rfl
  rw [readPostfix]
  exact (gives_readMemberName lastLine noType 1).bind fun _ => applied.bind fun _ => Gives.ok _

/-- The arguments are read up to the token that closes them. -/
def ReadsArgs (lastLine : Nat) (args : List Expr) : Prop :=
  ∀ close line rest, close = .rParen ∨ close = .rBracket →
    NoGenericCall (onLine 1 (tokensOf args) ++ ⟨line, close⟩ :: rest) →
    Gives (readArgs lastLine close (onLine 1 (tokensOf args) ++ ⟨line, close⟩ :: rest)) args
      (⟨line, close⟩ :: rest)

theorem readsAsHead_call {callee : Expr} {args : List Expr} (reads : ReadsAsHead lastLine callee)
    (readsArgs : ReadsArgs lastLine args) : ReadsAsHead lastLine (.call callee args) := by
  intro rest whole after none applied
  have shape : (Expr.call callee args).located ++ rest =
      callee.located ++ ⟨1, .lParen⟩ :: (onLine 1 (tokensOf args) ++ ⟨1, .rParen⟩ :: rest) := by
    simp [Expr.located, tokens]
  rw [shape] at none ⊢
  refine reads _ whole after none ?_
  rw [readPostfix]
  refine (readsArgs .rParen 1 rest (.inl rfl) none.after.tail).bind fun _ => ?_
  exact (gives_expect lastLine .rParen _ 1 rest).bind fun _ => applied.bind fun _ => Gives.ok _

theorem readsAsHead_index {target : Expr} {args : List Expr} (reads : ReadsAsHead lastLine target)
    (readsArgs : ReadsArgs lastLine args) : ReadsAsHead lastLine (.index target args) := by
  intro rest whole after none applied
  have shape : (Expr.index target args).located ++ rest =
      target.located ++ ⟨1, .lBracket⟩ :: (onLine 1 (tokensOf args) ++ ⟨1, .rBracket⟩ :: rest) := by
    simp [Expr.located, tokens]
  rw [shape] at none ⊢
  refine reads _ whole after none ?_
  rw [readPostfix]
  refine (readsArgs .rBracket 1 rest (.inr rfl) none.after.tail).bind fun _ => ?_
  exact (gives_expect lastLine .rBracket _ 1 rest).bind fun _ => applied.bind fun _ => Gives.ok _

theorem trailingOp?_token {op : UnaryOp} (trails : op.followsOperand = true) :
    op.token.trailingOp? = some op := by
  cases op with
  | postInc | postDec => rfl
  | _ => cases trails

theorem readsAsHead_trailing {op : UnaryOp} {operand : Expr} (trails : op.followsOperand = true)
    (reads : ReadsAsHead lastLine operand) : ReadsAsHead lastLine (.unary op operand) := by
  intro rest whole after none applied
  have shape : (Expr.unary op operand).located ++ rest =
      operand.located ++ ⟨1, op.token⟩ :: rest := by
    simp [Expr.located, tokens, trails]
  rw [shape] at none ⊢
  refine reads _ whole after none ?_
  have noMark (token : Token) (noOp : token.trailingOp? = .none) : op.token ≠ token := by
    rintro rfl
    rw [trailingOp?_token trails] at noOp
    cases noOp
  rw [readPostfix.eq_4 lastLine operand 1 op.token rest (noMark .dot rfl) (noMark .lParen rfl)
    (noMark .lBracket rfl), trailingOp?_token trails]
  exact applied.bind fun _ => Gives.ok _

/-! ### What stands in front of an operand -/

/-- An operator in front of an operand is no sign of a number when no number follows it. -/
theorem leadOf_operator {op : UnaryOp} (leads : op.followsOperand = false) {token : Token}
    (noInt : op = .neg → ∀ value, token ≠ .int value)
    (noFloat : op = .neg → ∀ value, token ≠ .float value) (line line' : Nat) (rest : Tokens) :
    leadOf (⟨line, op.token⟩ :: ⟨line', token⟩ :: rest) =
      .operator op (⟨line', token⟩ :: rest) (Nat.lt_succ_self _) := by
  cases op with
  | postInc | postDec => cases leads
  | neg =>
    cases token with
    | int value => exact absurd rfl (noInt rfl value)
    | float value => exact absurd rfl (noFloat rfl value)
    | _ => rfl
  | _ => rfl

theorem readsAsOperand_leading {op : UnaryOp} {operand : Expr} (leads : op.followsOperand = false)
    (starts : ∃ token more, operand.tokens = token :: more ∧
      (op = .neg → ∀ value, token ≠ .int value) ∧ (op = .neg → ∀ value, token ≠ .float value))
    (reads : ReadsAsOperand lastLine operand) :
    ReadsAsOperand lastLine (.unary op operand) := by
  intro rest none loose
  obtain ⟨token, more, first, noInt, noFloat⟩ := starts
  have shape : (Expr.unary op operand).located ++ rest =
      ⟨1, op.token⟩ :: (operand.located ++ rest) := by
    simp [Expr.located, tokens, leads]
  have begins : operand.located ++ rest = ⟨1, token⟩ :: (onLine 1 more ++ rest) := by
    rw [Expr.located, first, onLine_cons, List.cons_append]
  rw [shape] at none
  have found := reads rest none.tail loose
  rw [begins] at found
  rw [shape, begins, readUnary, leadOf_operator leads noInt noFloat]
  exact found.bind fun _ => Gives.ok _

theorem readsAsOperand_cast {type : String} {inner : Expr} (primitive : isPrimitiveType type = true)
    (reads : ReadsAsOperand lastLine inner) : ReadsAsOperand lastLine (.cast type inner) := by
  intro rest none loose
  have shape : (Expr.cast type inner).located ++ rest =
      ⟨1, .lParen⟩ :: ⟨1, .word type⟩ :: ⟨1, .rParen⟩ :: (inner.located ++ rest) := by
    simp [Expr.located, tokens]
  have lead : leadOf (⟨1, .lParen⟩ :: ⟨1, .word type⟩ :: ⟨1, .rParen⟩ :: (inner.located ++ rest)) =
      .cast type (inner.located ++ rest) (by simp only [List.length_cons]; omega) :=
    if_pos primitive
  rw [shape] at none
  rw [shape, readUnary, lead]
  exact (reads rest none.tail.tail.tail loose).bind fun _ => Gives.ok _

/-! ### Operators between operands -/

theorem binaryOp?_token (op : BinaryOp) : op.token.binaryOp? = some op := by
  cases op <;> rfl

theorem loose_binaryOp (op : BinaryOp) (line : Nat) (rest : Tokens) :
    Loose operandTightness (⟨line, op.token⟩ :: rest) := by
  rintro _ ⟨⟩ tie ties
  rw [tie?_of_binaryOp? (binaryOp?_token op)] at ties
  obtain rfl := Option.some.inj ties
  exact Nat.lt_of_le_of_lt (Nat.succ_le_succ op.precedence_le) (by decide)

theorem readsAsLeft_binary {op : BinaryOp} {left right : Expr}
    (leftTight : op.precedence + 1 ≤ left.tightness)
    (rightTight : op.precedence + 1 < right.tightness) (onLeft : ReadsAsLeft lastLine left)
    (onRight : ReadsAsLeft lastLine right) : ReadsAsLeft lastLine (.binary op left right) := by
  intro least rest whole after positive tight none loose stops continued
  have enough : least ≤ op.precedence := Nat.le_of_lt_succ tight
  have shape : (Expr.binary op left right).located ++ rest =
      left.located ++ ⟨1, op.token⟩ :: (right.located ++ rest) := by
    simp [Expr.located, tokens]
  rw [shape] at none ⊢
  refine onLeft least _ whole after positive (Nat.lt_of_le_of_lt enough leftTight) none
    (loose_binaryOp op 1 _) ?_ ?_
  · rintro _ ⟨⟩ op' isOp
    obtain rfl := Option.some.inj ((binaryOp?_token op).symm.trans isOp)
    exact leftTight
  · have found := onRight.asRight (Nat.le_add_left 1 op.precedence) rightTight none.after.tail
      loose stops
    rw [readOperators]
    split
    · next op' isOp =>
      obtain rfl := Option.some.inj ((binaryOp?_token op).symm.trans isOp)
      rw [if_neg (Nat.not_lt.mpr enough)]
      exact found.bind fun _ => continued.bind fun _ => Gives.ok _
    · next noOp => cases (binaryOp?_token op).symm.trans noOp

theorem readsAsConditional_conditional {condition whenTrue whenFalse : Expr}
    (tight : 1 < condition.tightness) (onCondition : ReadsAsLeft lastLine condition)
    (onTrue : ReadsAsWhole lastLine whenTrue) (onFalse : ReadsAsConditional lastLine whenFalse) :
    ReadsAsConditional lastLine (.conditional condition whenTrue whenFalse) := by
  intro rest none loose
  have shape : (Expr.conditional condition whenTrue whenFalse).located ++ rest =
      condition.located ++ ⟨1, .question⟩ ::
        (whenTrue.located ++ ⟨1, .colon⟩ :: (whenFalse.located ++ rest)) := by
    simp [Expr.located, tokens]
  rw [shape] at none ⊢
  have afterMark := none.after.tail
  have noOp (least : Nat) (after : Tokens) : StopsBelow least (⟨1, .question⟩ :: after) := by
    rintro _ ⟨⟩ _ ⟨⟩
  have atMark (after : Tokens) : Loose operandTightness (⟨1, .question⟩ :: after) := by
    rintro _ ⟨⟩ tie ⟨⟩
    decide
  rw [readConditional]
  refine (onCondition.asRight (Nat.le_refl 1) tight none (atMark _) (noOp 1 _)).bind fun _ => ?_
  dsimp only
  refine (onTrue _ afterMark (.cons rfl _ _ _)).bind fun _ => ?_
  refine (gives_expect lastLine .colon _ 1 _).bind fun _ => ?_
  exact (onFalse rest afterMark.after.tail loose).bind fun _ => Gives.ok _

theorem readsAsWhole_assign {op : Option BinaryOp} {target value : Expr}
    (onTarget : ReadsAsConditional lastLine target) (onValue : ReadsAsWhole lastLine value) :
    ReadsAsWhole lastLine (.assign op target value) := by
  intro rest none loose
  have shape : (Expr.assign op target value).located ++ rest =
      target.located ++ ⟨1, .assign op⟩ :: (value.located ++ rest) := by
    simp [Expr.located, tokens]
  have atSign (after : Tokens) : Loose 1 (⟨1, .assign op⟩ :: after) := by
    rintro _ ⟨⟩ tie ⟨⟩
    decide
  rw [shape] at none ⊢
  rw [readExpr]
  refine (onTarget _ none (atSign _)).bind fun _ => ?_
  exact (onValue rest none.after.tail loose).bind fun _ => Gives.ok _

/-! ### Arguments -/

/-- One or more expressions are read up to a token that ends them. -/
def ReadsAll (lastLine : Nat) (exprs : List Expr) : Prop :=
  ∀ close line rest, close = .rParen ∨ close = .rBracket →
    NoGenericCall (onLine 1 (tokensOf exprs) ++ ⟨line, close⟩ :: rest) →
    Gives (readExprs lastLine (onLine 1 (tokensOf exprs) ++ ⟨line, close⟩ :: rest)) exprs
      (⟨line, close⟩ :: rest)

theorem untied_of_closes {close : Token} (closes : close = .rParen ∨ close = .rBracket) :
    close.tie? = none := by
  obtain rfl | rfl := closes <;> rfl

theorem readsAll_singleton {expr : Expr} (reads : ReadsAsWhole lastLine expr) :
    ReadsAll lastLine [expr] := by
  intro close line rest closes none
  rw [tokensOf] at none ⊢
  refine readExprs_of_stops (reads _ none (.cons (untied_of_closes closes) _ _ _)) ?_
  rintro ⟨⟩
  exact closes.elim Token.noConfusion Token.noConfusion

theorem readsAll_cons {expr next : Expr} {others : List Expr} (reads : ReadsAsWhole lastLine expr)
    (readsOthers : ReadsAll lastLine (next :: others)) :
    ReadsAll lastLine (expr :: next :: others) := by
  intro close line rest closes none
  have shape : onLine 1 (tokensOf (expr :: next :: others)) ++ ⟨line, close⟩ :: rest =
      expr.located ++ ⟨1, .comma⟩ ::
        (onLine 1 (tokensOf (next :: others)) ++ ⟨line, close⟩ :: rest) := by
    simp [Expr.located, tokensOf]
  rw [shape] at none ⊢
  rw [readExprs]
  refine (reads _ none (.cons rfl _ _ _)).bind fun _ => ?_
  exact (readsOthers close line rest closes none.after.tail).bind fun _ => Gives.ok _

theorem readsArgs_nil : ReadsArgs lastLine [] := by
  intro close line rest closes _
  have noWord : readArgs lastLine close (⟨line, close⟩ :: rest) =
      readExprList lastLine close (⟨line, close⟩ :: rest) := by
    rw [readArgs]
    obtain rfl | rfl := closes <;> rfl
  have atClose : next? (⟨line, close⟩ :: rest) = some close := rfl
  show Gives (readArgs lastLine close (⟨line, close⟩ :: rest)) [] (⟨line, close⟩ :: rest)
  rw [noWord, readExprList, if_pos atClose]
  exact Gives.ok _

/-- No argument starts with a token that closes them, or with a word that marks what a script cannot
pass. -/
theorem ReadsAll.readsArgs {exprs : List Expr} (reads : ReadsAll lastLine exprs)
    (starts : ∃ token more, tokensOf exprs = token :: more ∧ token ≠ .rParen ∧ token ≠ .rBracket ∧
      token ≠ .word "out" ∧ token ≠ .word "ref") : ReadsArgs lastLine exprs := by
  intro close line rest closes none
  obtain ⟨token, more, first, noParen, noBracket, noOut, noRef⟩ := starts
  have found := reads close line rest closes none
  have begins : onLine 1 (tokensOf exprs) ++ ⟨line, close⟩ :: rest =
      ⟨1, token⟩ :: (onLine 1 more ++ ⟨line, close⟩ :: rest) := by
    rw [first, onLine_cons, List.cons_append]
  rw [begins] at found ⊢
  have noClose :
      ¬ next? (⟨1, token⟩ :: (onLine 1 more ++ ⟨line, close⟩ :: rest)) = some close := by
    rintro ⟨⟩
    exact closes.elim noParen noBracket
  have noWord : readArgs lastLine close (⟨1, token⟩ :: (onLine 1 more ++ ⟨line, close⟩ :: rest)) =
      readExprList lastLine close (⟨1, token⟩ :: (onLine 1 more ++ ⟨line, close⟩ :: rest)) := by
    rw [readArgs]
    split
    · next isOut => exact absurd (Option.some.inj isOut) noOut
    · next isRef => exact absurd (Option.some.inj isRef) noRef
    · rfl
  rw [noWord, readExprList, if_neg noClose]
  exact found.bind fun _ => Gives.ok _

/-! ### Whole expressions -/

theorem first_of_tokensOf {expr : Expr} (writable : expr.Writable) (others : List Expr) :
    ∃ token more, tokensOf (expr :: others) = token :: more ∧ token ≠ .rParen ∧
      token ≠ .rBracket ∧ token ≠ .word "out" ∧ token ≠ .word "ref" := by
  obtain ⟨c, _, token, more, -, first, opens⟩ := starts_text expr writable
  cases others with
  | nil => exact ⟨token, more, first, opens.noClose⟩
  | cons next others =>
    refine ⟨token, more ++ .comma :: tokensOf (next :: others), ?_, opens.noClose⟩
    rw [tokensOf, first, List.cons_append]

theorem readsArgs_of_readsAll {args : List Expr}
    (writable : EachOf (fun node => node.isWritable = true) args)
    (reads : args ≠ [] → ReadsAll lastLine args) : ReadsArgs lastLine args := by
  cases args with
  | nil => exact readsArgs_nil
  | cons expr others =>
    exact (reads (List.cons_ne_nil _ _)).readsArgs
      (first_of_tokensOf (eachOf_cons.mp writable).1 others)

mutual

/-- An expression that is grouped and writable is read at every place that it is tight enough
for. -/
theorem reads_of_normal (lastLine : Nat) : (expr : Expr) → expr.Writable → expr.Grouped →
    Reads lastLine expr
  | .ident name, writable, _ => by
    have plain : isWritable (.ident name) = true := (each_leaf rfl).mp writable
    simp only [isWritable, Bool.and_eq_true, Bool.not_eq_true'] at plain
    exact (readsAsHead_ident plain.1.1.1.2).reads rfl
  | .int value, _, _ => (readsAsHead_int value).reads rfl
  | .bool value, _, _ => (readsAsHead_bool value).reads rfl
  | .null, _, _ => readsAsHead_null.reads rfl
  | .float _, writable, _ | .str _, writable, _ | .char _, writable, _ =>
    absurd ((each_leaf rfl).mp writable) Bool.false_ne_true
  | .create _ _, writable, _ => absurd (each_create.mp writable).1 Bool.false_ne_true
  | .member target name, writable, grouped => by
    obtain ⟨tight, grouped⟩ := each_member.mp grouped
    have reads := reads_of_normal lastLine target (each_member.mp writable).2 grouped
    exact (readsAsHead_member (reads.asHead (of_decide_eq_true tight))).reads rfl
  | .index target args, writable, grouped => by
    obtain ⟨tight, grouped, argsGrouped⟩ := each_index.mp grouped
    obtain ⟨-, writable, argsWritable⟩ := each_index.mp writable
    have reads := reads_of_normal lastLine target writable grouped
    have readsArgs := readsArgs_of_readsAll argsWritable
      (readsAll_of_normal lastLine args argsWritable argsGrouped)
    exact (readsAsHead_index (reads.asHead (of_decide_eq_true tight)) readsArgs).reads rfl
  | .call callee args, writable, grouped => by
    obtain ⟨tight, grouped, argsGrouped⟩ := each_call.mp grouped
    obtain ⟨-, writable, argsWritable⟩ := each_call.mp writable
    have reads := reads_of_normal lastLine callee writable grouped
    have readsArgs := readsArgs_of_readsAll argsWritable
      (readsAll_of_normal lastLine args argsWritable argsGrouped)
    exact (readsAsHead_call (reads.asHead (of_decide_eq_true tight)) readsArgs).reads rfl
  | .unary op operand, writable, grouped => by
    obtain ⟨tight, grouped⟩ := each_unary.mp grouped
    obtain ⟨stands, writable⟩ := each_unary.mp writable
    have tight : (Expr.unary op operand).tightness ≤ operand.tightness := of_decide_eq_true tight
    have reads := reads_of_normal lastLine operand writable grouped
    cases follows : op.followsOperand with
    | true =>
      have head : (Expr.unary op operand).tightness = operandTightness := by
        rw [tightness, follows, if_pos rfl]
      exact (readsAsHead_trailing follows (reads.asHead (head ▸ tight))).reads head
    | false =>
      have lead : (Expr.unary op operand).tightness = leadingTightness := by
        rw [tightness, follows, if_neg Bool.false_ne_true]
      obtain ⟨c, _, token, more, begins, first, opens⟩ := starts_text operand writable
      refine (readsAsOperand_leading follows ⟨token, more, first, ?_, ?_⟩
        (reads.asOperand (lead ▸ tight))).reads lead
      · rintro rfl
        exact (opens.noNumber begins stands).1
      · rintro rfl
        exact (opens.noNumber begins stands).2
  | .binary op left right, writable, grouped => by
    obtain ⟨tight, leftGrouped, rightGrouped⟩ := each_binary.mp grouped
    obtain ⟨-, leftWritable, rightWritable⟩ := each_binary.mp writable
    obtain ⟨leftTight, rightTight⟩ := Bool.and_eq_true_iff.mp tight
    have leftTight : op.precedence + 1 ≤ left.tightness := of_decide_eq_true leftTight
    have rightTight : op.precedence + 1 < right.tightness := of_decide_eq_true rightTight
    have positive : 1 < op.precedence + 1 := by cases op <;> decide
    have onLeft := (reads_of_normal lastLine left leftWritable leftGrouped).asLeft
      (Nat.lt_of_lt_of_le positive leftTight)
    have onRight := (reads_of_normal lastLine right rightWritable rightGrouped).asLeft
      (Nat.lt_trans positive rightTight)
    exact (readsAsLeft_binary leftTight rightTight onLeft onRight).reads positive
      (Nat.lt_succ_of_le (Nat.succ_le_succ op.precedence_le))
  | .paren inner, writable, grouped => by
    have inside := (each_paren.mp writable).2
    obtain ⟨c, _, token, more, -, first, opens⟩ := starts_text inner inside
    have reads := reads_of_normal lastLine inner inside (each_paren.mp grouped).2
    exact (readsAsHead_paren ⟨token, more, first, opens.noType⟩ reads.asWhole).reads rfl
  | .cast type inner, writable, grouped => by
    obtain ⟨tight, grouped⟩ := each_cast.mp grouped
    obtain ⟨primitive, writable⟩ := each_cast.mp writable
    have reads := reads_of_normal lastLine inner writable grouped
    exact (readsAsOperand_cast primitive (reads.asOperand (of_decide_eq_true tight))).reads rfl
  | .assign op target value, writable, grouped => by
    obtain ⟨tight, targetGrouped, valueGrouped⟩ := each_assign.mp grouped
    obtain ⟨-, targetWritable, valueWritable⟩ := each_assign.mp writable
    have onTarget := reads_of_normal lastLine target targetWritable targetGrouped
    have onValue := reads_of_normal lastLine value valueWritable valueGrouped
    exact (readsAsWhole_assign (onTarget.asConditional (of_decide_eq_true tight))
      onValue.asWhole).reads rfl
  | .conditional condition whenTrue whenFalse, writable, grouped => by
    obtain ⟨tight, conditionGrouped, trueGrouped, falseGrouped⟩ := each_conditional.mp grouped
    obtain ⟨-, conditionWritable, trueWritable, falseWritable⟩ := each_conditional.mp writable
    obtain ⟨conditionTight, falseTight⟩ := Bool.and_eq_true_iff.mp tight
    have conditionTight : 1 < condition.tightness := of_decide_eq_true conditionTight
    have onCondition := reads_of_normal lastLine condition conditionWritable conditionGrouped
    have onTrue := reads_of_normal lastLine whenTrue trueWritable trueGrouped
    have onFalse := reads_of_normal lastLine whenFalse falseWritable falseGrouped
    exact (readsAsConditional_conditional conditionTight (onCondition.asLeft conditionTight)
      onTrue.asWhole (onFalse.asConditional (of_decide_eq_true falseTight))).reads rfl

theorem readsAll_of_normal (lastLine : Nat) : (exprs : List Expr) →
    EachOf (fun node => node.isWritable = true) exprs →
    EachOf (fun node => node.isGrouped = true) exprs → exprs ≠ [] → ReadsAll lastLine exprs
  | [], _, _, nonempty => absurd rfl nonempty
  | [expr], writable, grouped, _ =>
    readsAll_singleton (reads_of_normal lastLine expr (eachOf_cons.mp writable).1
      (eachOf_cons.mp grouped).1).asWhole
  | expr :: next :: others, writable, grouped, _ => by
    obtain ⟨writable, othersWritable⟩ := eachOf_cons.mp writable
    obtain ⟨grouped, othersGrouped⟩ := eachOf_cons.mp grouped
    exact readsAll_cons (reads_of_normal lastLine expr writable grouped).asWhole
      (readsAll_of_normal lastLine (next :: others) othersWritable othersGrouped
        (List.cons_ne_nil _ _))

end

/-- Whether a text has tokens that look like a call of a generic method. -/
def textHasGenericCall (text : String) : Bool :=
  match lex text with
  | .ok lexed => lexed.tokens.tails.any startsGenericCall
  | .error _ => false

/-- A grouped and writable expression is what its text is read as. -/
theorem parseExpr_text {expr : Expr} (grouped : expr.Grouped) (writable : expr.Writable)
    (noGeneric : textHasGenericCall expr.text = false) : parseExpr expr.text = .ok expr := by
  have lexes := lex_text writable
  have none : NoGenericCall (expr.located ++ []) := by
    intro tail ends
    rw [textHasGenericCall, lexes] at noGeneric
    refine Bool.eq_false_iff.mpr (List.any_eq_false.mp noGeneric tail ((List.mem_tails _ _).mpr ?_))
    rwa [List.append_nil] at ends
  have reads := (reads_of_normal 1 expr writable grouped).asWhole [] none (Loose.nil 0)
  rw [List.append_nil] at reads
  exact parseExpr_eq_ok.mpr ⟨_, lexes, reads⟩

theorem parseExpr_text_conditional :
    let expr : Expr := .conditional (.binary .lt (.ident "a") (.int (-3)))
      (.unary .neg (.call (.member (.ident "b") "c") [.ident "d", .null]))
      (.cast "int" (.unary .postInc (.ident "e")))
    expr.text = "a < -3 ? -b.c(d, null) : (int)e++" ∧ parseExpr expr.text = .ok expr :=
  ⟨by cbv, parseExpr_text (by decide) (by decide) (by cbv)⟩

end Storefront.Script
