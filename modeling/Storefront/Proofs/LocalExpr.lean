import Storefront.Proofs.Locality

/-!
The readers of expressions look no further than they take, up to alike tokens: what each of them
reads, it reads again in front of other tokens.
-/

namespace Storefront.Script

/-! ### What comes next -/

theorem Alike.exists_of_next {tokens tokens' : Tokens} (alike : Alike tokens tokens')
    {token : Token}
    (noBrace : token ≠ .rBrace) (isNext : next? tokens' = some token) :
    ∃ line rest, tokens = ⟨line, token⟩ :: rest :=
  next?_eq_some.mp ((alike.next noBrace).mpr isNext)

/-- No operator starts with a brace. -/
theorem Alike.stopsBelow {tokens tokens' : Tokens} (alike : Alike tokens tokens') {least : Nat}
    (stops : StopsBelow least tokens) : StopsBelow least tokens' :=
  alike.forall_next (fun _ isOp => nomatch isOp) stops

/-- A brace ties nothing to what stands before it. -/
theorem Alike.loose {tokens tokens' : Tokens} (alike : Alike tokens tokens') {level : Nat}
    (loose : Loose level tokens) : Loose level tokens' :=
  alike.forall_next (fun _ ties => nomatch ties) loose

/-- Only what is applied to an operand ties to it as tightly as the operand holds together. -/
theorem tie?_lt_of_untied {token : Token} (noDot : token ≠ .dot) (noParen : token ≠ .lParen)
    (noBracket : token ≠ .lBracket) (noOp : token.trailingOp? = none) :
    ∀ tie ∈ token.tie?, tie < Expr.operandTightness := by
  cases token with
  | dot => exact absurd rfl noDot
  | lParen => exact absurd rfl noParen
  | lBracket => exact absurd rfl noBracket
  | plusPlus | minusMinus => cases noOp
  | _ =>
    rintro tie ⟨⟩ <;> decide

variable (lastLine lastLine' : Nat)

mutual

theorem readExpr_local (tokens : Tokens) :
    Ensures (readExpr lastLine tokens)
      (Local false tokens fun tokens' => Gives (readExpr lastLine' tokens')) := by
  rw [readExpr]
  refine (readConditional_local tokens).bind fun target rest fewer onTarget => ?_
  dsimp only
  split
  · next line op afterSign fewer =>
    have shorter : afterSign.length + 1 < tokens.length := fewer
    refine (readExpr_local afterSign).bind fun value after _ onValue => Ensures.ok ?_
    refine (onTarget.trans (onValue.cons (.assign op) line) id).imp ?_
    rintro _ _ - - ⟨_, -, target, _, _, rfl, value⟩
    rw [readExpr]
    exact target.bind fun _ => value.bind fun _ => Gives.ok _
  · exact Ensures.faultAt
  · next _ noSign noArrow =>
    refine Ensures.ok (onTarget.imp fun tokens' rest' _ related target => ?_)
    refine readExpr_of_stops target (fun op isSign => ?_) fun isArrow => ?_
    · obtain ⟨line, more, rfl⟩ := related.1.exists_of_next Token.noConfusion isSign
      exact noSign line op more fewer rfl HEq.rfl
    · obtain ⟨line, more, rfl⟩ := related.1.exists_of_next (by decide) isArrow
      exact noArrow line more fewer rfl HEq.rfl
termination_by tokens.length * 10 + 6
decreasing_by all_goals omega

theorem readConditional_local (tokens : Tokens) :
    Ensures (readConditional lastLine tokens)
      (Local false tokens fun tokens' => Gives (readConditional lastLine' tokens')) := by
  rw [readConditional]
  refine (readBinary_local 1 tokens).bind fun condition rest fewer onCondition => ?_
  dsimp only
  split
  · next line afterMark fewer =>
    have shorter : afterMark.length + 1 < tokens.length := fewer
    refine (readExpr_local afterMark).bind fun whenTrue atColon fewer₁ onTrue => ?_
    refine (expect_local lastLine lastLine' _ _ atColon).bind fun _ afterColon fewer₂ onColon => ?_
    refine (readConditional_local afterColon).bind fun whenFalse after _ onFalse => Ensures.ok ?_
    have onArms := onTrue.trans (onColon.trans onFalse id) id
    refine (onCondition.trans (onArms.cons .question line) id).imp ?_
    rintro _ _ - - ⟨_, -, condition, _, _, rfl, _, -, whenTrue, _, -, colon, whenFalse⟩
    rw [readConditional]
    exact condition.bind fun _ => whenTrue.bind fun _ => colon.bind fun _ => whenFalse.bind fun _ =>
      Gives.ok _
  · next _ noMark =>
    refine Ensures.ok (onCondition.imp fun tokens' rest' _ related condition => ?_)
    refine readConditional_of_stops condition fun isMark => ?_
    obtain ⟨line, more, rfl⟩ := related.1.exists_of_next (by decide) isMark
    exact noMark line more fewer rfl HEq.rfl
termination_by tokens.length * 10 + 5
decreasing_by all_goals omega

theorem readBinary_local (least : Nat) (tokens : Tokens) :
    Ensures (readBinary lastLine least tokens)
      (Local false tokens fun tokens' => Gives (readBinary lastLine' least tokens')) := by
  rw [readBinary]
  refine (readUnary_local tokens).bind fun left rest fewer onLeft => ?_
  refine (readOperators_local least left rest).bind fun whole after _ onWhole => Ensures.ok ?_
  refine (onLeft.trans onWhole id).imp ?_
  rintro _ _ - - ⟨_, -, left, whole⟩
  rw [readBinary]
  exact left.bind fun _ => whole.bind fun _ => Gives.ok _
termination_by tokens.length * 10 + 4
decreasing_by all_goals omega

theorem readOperators_local (least : Nat) (left : Expr) (tokens : Tokens) :
    Ensures (readOperators lastLine least left tokens)
      (Local false tokens fun tokens' => Gives (readOperators lastLine' least left tokens')) := by
  by_cases stops : StopsBelow least tokens
  · refine (readOperators_of_stops lastLine stops left).ensures
      (Local.nothing fun tokens' related => ?_)
    exact readOperators_of_stops lastLine' (related.1.stopsBelow stops) left
  match tokens with
  | [] => exact absurd (fun _ none => nomatch none) stops
  | ⟨line, token⟩ :: rest =>
    rw [readOperators]
    split
    · next op isOp =>
      split
      · next below =>
        refine absurd ?_ stops
        rintro _ ⟨⟩ op' isOp'
        obtain rfl := Option.some.inj (isOp.symm.trans isOp')
        exact below
      · next enough =>
        refine (readBinary_local (op.precedence + 1) rest).bind
          fun right afterRight fewer onRight => ?_
        refine (readOperators_local least (.binary op left right) afterRight).bind
          fun whole after _ onWhole => Ensures.ok ?_
        refine ((onRight.trans onWhole id).cons token line).imp ?_
        rintro _ _ - - ⟨_, _, rfl, _, -, right, whole⟩
        rw [readOperators]
        split
        · next op' isOp' =>
          obtain rfl := Option.some.inj (isOp.symm.trans isOp')
          rw [if_neg enough]
          exact right.bind fun _ => whole.bind fun _ => Gives.ok _
        · next noOp => cases isOp.symm.trans noOp
    · next noOp =>
      refine absurd ?_ stops
      rintro _ ⟨⟩ op isOp
      cases noOp.symm.trans isOp
termination_by tokens.length * 10
decreasing_by all_goals simp only [List.length_cons] at *; omega

theorem readUnary_local (tokens : Tokens) :
    Ensures (readUnary lastLine tokens)
      (Local false tokens fun tokens' => Gives (readUnary lastLine' tokens')) := by
  rw [readUnary]
  have lead := leadOf_again tokens
  split
  · next op rest fewer found =>
    rw [found, Lead.Again] at lead
    refine (readUnary_local rest).bind fun operand after _ onOperand => Ensures.ok ?_
    refine (lead.trans onOperand id).imp ?_
    rintro _ _ - - ⟨_, -, ⟨_, found⟩, operand⟩
    rw [readUnary, found]
    exact operand.bind fun _ => Gives.ok _
  · next literal rest fewer found =>
    rw [found, Lead.Again] at lead
    refine (readPostfix_local literal rest).bind fun whole after _ onWhole => Ensures.ok ?_
    refine (lead.trans onWhole id).imp ?_
    rintro _ _ - - ⟨_, -, ⟨_, found⟩, whole⟩
    rw [readUnary, found]
    exact whole.bind fun _ => Gives.ok _
  · next type rest fewer found =>
    rw [found, Lead.Again] at lead
    refine (readUnary_local rest).bind fun inner after _ onInner => Ensures.ok ?_
    refine (lead.trans onInner id).imp ?_
    rintro _ _ - - ⟨_, -, ⟨_, found⟩, inner⟩
    rw [readUnary, found]
    exact inner.bind fun _ => Gives.ok _
  · next found =>
    rw [found, Lead.Again] at lead
    refine (readPrimary_local tokens).bind fun primary rest fewer onPrimary => ?_
    refine (readPostfix_local primary rest).bind fun whole after _ onWhole => Ensures.ok ?_
    refine (onPrimary.trans onWhole id).imp ?_
    rintro tokens' _ alike - ⟨_, -, primary, whole⟩
    rw [readUnary, lead tokens' alike]
    exact primary.bind fun _ => whole.bind fun _ => Gives.ok _
termination_by tokens.length * 10 + 3
decreasing_by all_goals omega

theorem readPostfix_local (head : Expr) (tokens : Tokens) :
    Ensures (readPostfix lastLine head tokens)
      (Local false tokens fun tokens' => Gives (readPostfix lastLine' head tokens')) := by
  match tokens with
  | [] =>
    refine (readPostfix_of_loose lastLine (Loose.nil _) head).ensures
      (Local.nothing fun tokens' related => ?_)
    exact readPostfix_of_loose lastLine' (related.1.loose (Loose.nil _)) head
  | ⟨line, token⟩ :: rest =>
  by_cases isDot : token = .dot
  · subst isDot
    rw [readPostfix]
    refine (readMemberName_local lastLine lastLine' rest).bind
      fun name afterName fewer onName => ?_
    refine (readPostfix_local (.member head name) afterName).bind
      fun whole after _ onWhole => Ensures.ok ?_
    refine ((onName.trans onWhole id).cons .dot line).imp ?_
    rintro _ _ - - ⟨_, _, rfl, _, -, name, whole⟩
    rw [readPostfix]
    exact name.bind fun _ => whole.bind fun _ => Gives.ok _
  by_cases isParen : token = .lParen
  · subst isParen
    rw [readPostfix]
    refine (readArgs_local .rParen (by decide) rest).bind fun args atClose fewer onArgs => ?_
    refine (expect_local lastLine lastLine' _ _ atClose).bind
      fun _ afterClose fewer₁ onClose => ?_
    refine (readPostfix_local (.call head args) afterClose).bind
      fun whole after _ onWhole => Ensures.ok ?_
    refine ((onArgs.trans (onClose.trans onWhole id) id).cons .lParen line).imp ?_
    rintro _ _ - - ⟨_, _, rfl, _, -, args, _, -, close, whole⟩
    rw [readPostfix]
    exact args.bind fun _ => close.bind fun _ => whole.bind fun _ => Gives.ok _
  by_cases isBracket : token = .lBracket
  · subst isBracket
    rw [readPostfix]
    refine (readArgs_local .rBracket (by decide) rest).bind fun args atClose fewer onArgs => ?_
    refine (expect_local lastLine lastLine' _ _ atClose).bind
      fun _ afterClose fewer₁ onClose => ?_
    refine (readPostfix_local (.index head args) afterClose).bind
      fun whole after _ onWhole => Ensures.ok ?_
    refine ((onArgs.trans (onClose.trans onWhole id) id).cons .lBracket line).imp ?_
    rintro _ _ - - ⟨_, _, rfl, _, -, args, _, -, close, whole⟩
    rw [readPostfix]
    exact args.bind fun _ => close.bind fun _ => whole.bind fun _ => Gives.ok _
  rw [readPostfix.eq_4 lastLine head line token rest isDot isParen isBracket]
  split
  · next op isOp =>
    refine (readPostfix_local (.unary op head) rest).bind fun whole after _ onWhole => Ensures.ok ?_
    refine (onWhole.cons token line).imp ?_
    rintro _ _ - - ⟨line', rest', rfl, whole⟩
    rw [readPostfix.eq_4 lastLine' head line' token rest' isDot isParen isBracket, isOp]
    exact whole.bind fun _ => Gives.ok _
  · next noOp =>
    refine Ensures.ok (Local.nothing fun tokens' related => ?_)
    refine readPostfix_of_loose lastLine' (related.1.loose ?_) head
    rintro _ ⟨⟩
    exact tie?_lt_of_untied isDot isParen isBracket noOp
termination_by tokens.length * 10
decreasing_by all_goals simp only [List.length_cons] at *; omega

theorem readArgs_local (close : Token) (noBrace : close ≠ .rBrace) (tokens : Tokens) :
    Ensures (readArgs lastLine close tokens)
      (Local false tokens fun tokens' => Gives (readArgs lastLine' close tokens')) := by
  rw [readArgs]
  split
  · exact Ensures.faultAt
  · exact Ensures.faultAt
  · next noOut noRef =>
    refine (readExprList_local close noBrace tokens).imp fun args rest onArgs => ?_
    refine onArgs.imp fun tokens' _ alike _ args => ?_
    rw [readArgs]
    split
    · next isOut => exact absurd ((alike.next Token.noConfusion).mpr isOut) noOut
    · next isRef => exact absurd ((alike.next Token.noConfusion).mpr isRef) noRef
    · exact args
termination_by tokens.length * 10 + 9
decreasing_by all_goals omega

theorem readExprList_local (close : Token) (noBrace : close ≠ .rBrace) (tokens : Tokens) :
    Ensures (readExprList lastLine close tokens)
      (Local false tokens fun tokens' => Gives (readExprList lastLine' close tokens')) := by
  rw [readExprList]
  split
  · next closed =>
    refine Ensures.ok (Local.nothing fun tokens' related => ?_)
    rw [readExprList, if_pos ((related.1.next noBrace).mp closed)]
    exact Gives.ok _
  · next isOpen =>
    refine (readExprs_local tokens).bind fun exprs rest _ onExprs => Ensures.ok ?_
    refine onExprs.imp fun tokens' _ alike _ exprs => ?_
    rw [readExprList, if_neg (fun closed => isOpen ((alike.next noBrace).mpr closed))]
    exact exprs.bind fun _ => Gives.ok _
termination_by tokens.length * 10 + 8
decreasing_by all_goals omega

theorem readExprs_local (tokens : Tokens) :
    Ensures (readExprs lastLine tokens)
      (Local false tokens fun tokens' => Gives (readExprs lastLine' tokens')) := by
  rw [readExprs]
  refine (readExpr_local tokens).bind fun expr rest fewer onExpr => ?_
  dsimp only
  split
  · next line afterComma fewer =>
    have shorter : afterComma.length + 1 < tokens.length := fewer
    refine (readExprs_local afterComma).bind fun exprs after _ onExprs => Ensures.ok ?_
    refine (onExpr.trans (onExprs.cons .comma line) id).imp ?_
    rintro _ _ - - ⟨_, -, expr, _, _, rfl, exprs⟩
    rw [readExprs]
    exact expr.bind fun _ => exprs.bind fun _ => Gives.ok _
  · next _ noComma =>
    refine Ensures.ok (onExpr.imp fun tokens' rest' _ related expr => ?_)
    refine readExprs_of_stops expr fun isComma => ?_
    obtain ⟨line, more, rfl⟩ := related.1.exists_of_next (by decide) isComma
    exact noComma line more fewer rfl HEq.rfl
termination_by tokens.length * 10 + 7
decreasing_by all_goals omega

theorem readPrimary_local (tokens : Tokens) :
    Ensures (readPrimary lastLine tokens)
      (Local false tokens fun tokens' => Gives (readPrimary lastLine' tokens')) := by
  match tokens with
  | [] =>
    rw [readPrimary]
    exact Ensures.error
  | ⟨line, token⟩ :: rest =>
    rw [readPrimary.eq_def]
    dsimp only
    split
    · next literal isLiteral =>
      refine Ensures.ok (Local.token fun line' rest' _ => ?_)
      rw [readPrimary.eq_def]
      dsimp only
      rw [isLiteral]
      exact Gives.ok _
    · refine (readExpr_local rest).bind fun inner atClose fewer onInner => ?_
      refine (expect_local lastLine lastLine' _ _ atClose).bind fun _ after _ onClose =>
        Ensures.ok ?_
      refine ((onInner.trans onClose id).cons .lParen line).imp ?_
      rintro _ _ - - ⟨_, _, rfl, _, -, inner, close⟩
      rw [readPrimary.eq_def]
      exact inner.bind fun _ => close.bind fun _ => Gives.ok _
    · next word _ =>
      split
      · next isTrue =>
        subst isTrue
        refine Ensures.ok (Local.token fun line' rest' _ => ?_)
        rw [readPrimary.eq_def]
        exact Gives.ok _
      split
      · next isFalse =>
        subst isFalse
        refine Ensures.ok (Local.token fun line' rest' _ => ?_)
        rw [readPrimary.eq_def]
        exact Gives.ok _
      split
      · next isNull =>
        subst isNull
        refine Ensures.ok (Local.token fun line' rest' _ => ?_)
        rw [readPrimary.eq_def]
        exact Gives.ok _
      split
      · next isNew =>
        subst isNew
        refine (readCreation_local rest).bind fun created after _ onCreated => Ensures.ok ?_
        refine (onCreated.cons (.word "new") line).imp ?_
        rintro _ _ - - ⟨_, _, rfl, created⟩
        rw [readPrimary.eq_def]
        exact created.bind fun _ => Gives.ok _
      split
      · exact Ensures.error
      · next free =>
        refine Ensures.ok (Local.token fun line' rest' _ => ?_)
        exact gives_ident lastLine' (Bool.eq_false_iff.mpr free) line' rest'
    · exact Ensures.error
termination_by tokens.length * 10 + 2
decreasing_by all_goals simp only [List.length_cons] at *; omega

theorem readCreation_local (tokens : Tokens) :
    Ensures (readCreation lastLine tokens)
      (Local false tokens fun tokens' => Gives (readCreation lastLine' tokens')) := by
  rw [readCreation]
  refine (readTypeName_local lastLine lastLine' tokens).bind fun type rest fewer onType => ?_
  dsimp only
  split
  · next line afterOpen fewer =>
    have shorter : afterOpen.length + 1 < tokens.length := fewer
    refine (readArgs_local .rParen (by decide) afterOpen).bind fun args atClose _ onArgs => ?_
    refine (expect_local lastLine lastLine' _ _ atClose).bind fun _ after _ onClose => ?_
    dsimp only
    split
    · exact Ensures.faultAt
    · next noBrace =>
      refine Ensures.ok ?_
      refine (onType.trans ((onArgs.trans onClose id).cons .lParen line) id).imp ?_
      rintro _ after' - related ⟨_, -, type, _, _, rfl, _, -, args, close⟩
      rw [readCreation]
      refine type.bind fun _ => args.bind fun _ => close.bind fun _ => ?_
      dsimp only
      rw [if_neg (fun isBrace => noBrace ((related.1.next (by decide)).mpr isBrace))]
      exact Gives.ok _
  · exact Ensures.faultAt
termination_by tokens.length * 10 + 1
decreasing_by all_goals omega

end

end Storefront.Script
