import Storefront.Proofs.LocalExpr

/-!
The readers of statements look no further than they take, up to alike tokens. Those that read up to
a closing brace or a label look at it and leave it, so they read again in front of tokens that start
with the same one.
-/

namespace Storefront.Script

variable (lastLine lastLine' : Nat)

/-! ### Parts without statements -/

theorem readInParens_local (tokens : Tokens) :
    Ensures (readInParens lastLine tokens)
      (Local false tokens fun tokens' => Gives (readInParens lastLine' tokens')) := by
  rw [readInParens]
  refine (expect_local lastLine lastLine' _ _ tokens).bind fun _ rest _ onOpen => ?_
  refine (readExpr_local lastLine lastLine' rest).bind fun expr atClose _ onExpr => ?_
  refine (expect_local lastLine lastLine' _ _ atClose).bind fun _ after _ onClose => Ensures.ok ?_
  refine (onOpen.trans (onExpr.trans onClose id) id).imp ?_
  rintro _ _ - - ⟨_, -, opening, _, -, expr, close⟩
  rw [readInParens]
  exact opening.bind fun _ => expr.bind fun _ => close.bind fun _ => Gives.ok _

theorem readWord_local (word : String) (missing : Fault) (tokens : Tokens) :
    Ensures (readWord lastLine word missing tokens)
      (Local false tokens fun tokens' => Gives (readWord lastLine' word missing tokens')) := by
  unfold readWord
  split
  · next found rest =>
    split
    · next same =>
      obtain ⟨line, token⟩ := found
      obtain rfl : token = .word word := same
      refine Ensures.ok (Local.token fun line' rest' _ => ?_)
      dsimp only
      rw [if_pos rfl]
      exact Gives.ok _
    · exact Ensures.faultAt
  · exact Ensures.faultAt

theorem readInit_local (tokens : Tokens) :
    Ensures (readInit lastLine tokens)
      (Local false tokens fun tokens' => Gives (readInit lastLine' tokens')) := by
  unfold readInit
  split
  · next line rest =>
    refine (readExpr_local lastLine lastLine' rest).bind fun init after _ onInit => Ensures.ok ?_
    refine (onInit.cons (.assign none) line).imp ?_
    rintro _ _ - - ⟨_, _, rfl, init⟩
    exact init.bind fun _ => Gives.ok _
  · next tokens noSign =>
    refine Ensures.ok (Local.nothing fun tokens' related => ?_)
    split
    · obtain ⟨line, rest, rfl, -⟩ := related.1.exists_cons (by decide)
      exact absurd rfl (noSign line rest)
    · exact Gives.ok _

theorem readDeclarators_local (tokens : Tokens) :
    Ensures (readDeclarators lastLine tokens)
      (Local false tokens fun tokens' => Gives (readDeclarators lastLine' tokens')) := by
  rw [readDeclarators]
  refine (readName_local lastLine lastLine' tokens).bind fun name afterName fewer₁ onName => ?_
  refine (readInit_local lastLine lastLine' afterName).bind fun init rest fewer₂ onInit => ?_
  dsimp only
  split
  · next line afterComma fewer₂ =>
    have shorter : afterComma.length + 1 < afterName.length + 1 := fewer₂
    refine (readDeclarators_local afterComma).bind fun vars after _ onVars => Ensures.ok ?_
    refine (onName.trans (onInit.trans (onVars.cons .comma line) id) id).imp ?_
    rintro _ _ - - ⟨_, -, name, _, -, init, _, _, rfl, vars⟩
    rw [readDeclarators]
    exact name.bind fun _ => init.bind fun _ => vars.bind fun _ => Gives.ok _
  · next _ noComma =>
    refine Ensures.ok ((onName.trans onInit id).imp ?_)
    rintro tokens' rest' - related ⟨_, -, name, init⟩
    rw [readDeclarators]
    refine name.bind fun _ => init.bind fun _ => ?_
    dsimp only
    split
    · obtain ⟨line, more, rfl, -⟩ := related.1.exists_cons (by decide)
      exact (noComma line more fewer₂ rfl HEq.rfl).elim
    · exact Gives.ok _
termination_by tokens.length
decreasing_by omega

theorem readLocalDecl_local (tokens : Tokens) :
    Ensures (readLocalDecl lastLine tokens)
      (Local false tokens fun tokens' => Gives (readLocalDecl lastLine' tokens')) := by
  rw [readLocalDecl]
  refine (readTypeName_local lastLine lastLine' tokens).bind fun type rest _ onType => ?_
  refine (readDeclarators_local lastLine lastLine' rest).bind fun vars after _ onVars =>
    Ensures.ok ?_
  refine (onType.trans onVars id).imp ?_
  rintro _ _ - - ⟨_, -, type, vars⟩
  rw [readLocalDecl]
  exact type.bind fun _ => vars.bind fun _ => Gives.ok _

theorem readSimple_local (tokens : Tokens) :
    Ensures (readSimple lastLine tokens)
      (Local false tokens fun tokens' => Gives (readSimple lastLine' tokens')) := by
  rw [readSimple]
  split
  · next declares =>
    refine (readLocalDecl_local lastLine lastLine' tokens).bind fun decl rest _ onDecl => ?_
    refine (expect_local lastLine lastLine' _ _ rest).bind fun _ after _ onEnd => Ensures.ok ?_
    refine (onDecl.trans onEnd id).imp ?_
    rintro tokens' _ alike - ⟨_, -, decl, ends⟩
    rw [startsDeclaration_alike alike] at declares
    rw [readSimple, if_pos declares]
    exact decl.bind fun _ => ends.bind fun _ => Gives.ok _
  · next declares =>
    refine (readExpr_local lastLine lastLine' tokens).bind fun expr rest _ onExpr => ?_
    refine (expect_local lastLine lastLine' _ _ rest).bind fun _ after _ onEnd => Ensures.ok ?_
    refine (onExpr.trans onEnd id).imp ?_
    rintro tokens' _ alike - ⟨_, -, expr, ends⟩
    rw [startsDeclaration_alike alike] at declares
    rw [readSimple, if_neg declares]
    exact expr.bind fun _ => ends.bind fun _ => Gives.ok _

theorem readReturned_local (tokens : Tokens) :
    Ensures (readReturned lastLine tokens)
      (Local false tokens fun tokens' => Gives (readReturned lastLine' tokens')) := by
  unfold readReturned
  split
  · exact Ensures.ok (Local.token fun line' rest' _ => Gives.ok _)
  · next noSemi =>
    refine (readExpr_local lastLine lastLine' tokens).bind fun value rest _ onValue => ?_
    refine (expect_local lastLine lastLine' _ _ rest).bind fun _ after _ onEnd => Ensures.ok ?_
    refine (onValue.trans onEnd id).imp ?_
    rintro tokens' _ alike - ⟨_, -, value, ends⟩
    split
    · obtain ⟨line, more, rfl, -⟩ := alike.exists_cons (by decide)
      exact absurd rfl (noSemi line more)
    · exact value.bind fun _ => ends.bind fun _ => Gives.ok _

theorem readForInit_local (tokens : Tokens) :
    Ensures (readForInit lastLine tokens)
      (Local false tokens fun tokens' => Gives (readForInit lastLine' tokens')) := by
  rw [readForInit]
  split
  · next isSemi =>
    refine Ensures.ok (Local.nothing fun tokens' related => ?_)
    rw [readForInit, if_pos ((related.1.next (by decide)).mp isSemi)]
    exact Gives.ok _
  · next noSemi =>
    have stillNoSemi {tokens' : Tokens} (alike : Alike tokens tokens') :
        ¬ next? tokens' = some .semi := fun isSemi => noSemi ((alike.next (by decide)).mpr isSemi)
    split
    · next declares =>
      refine (readLocalDecl_local lastLine lastLine' tokens).bind fun decl rest _ onDecl =>
        Ensures.ok ?_
      refine onDecl.imp fun tokens' rest' alike _ decl => ?_
      rw [startsDeclaration_alike alike] at declares
      rw [readForInit, if_neg (stillNoSemi alike), if_pos declares]
      exact decl.bind fun _ => Gives.ok _
    · next declares =>
      refine (readExprList_local lastLine lastLine' .semi (by decide) tokens).bind
        fun exprs rest _ onExprs => Ensures.ok ?_
      refine onExprs.imp fun tokens' rest' alike _ exprs => ?_
      rw [startsDeclaration_alike alike] at declares
      rw [readForInit, if_neg (stillNoSemi alike), if_neg declares]
      exact exprs.bind fun _ => Gives.ok _

theorem readForCondition_local (tokens : Tokens) :
    Ensures (readForCondition lastLine tokens)
      (Local false tokens fun tokens' => Gives (readForCondition lastLine' tokens')) := by
  rw [readForCondition]
  split
  · next isSemi =>
    refine Ensures.ok (Local.nothing fun tokens' related => ?_)
    rw [readForCondition, if_pos ((related.1.next (by decide)).mp isSemi)]
    exact Gives.ok _
  · next noSemi =>
    refine (readExpr_local lastLine lastLine' tokens).bind fun condition rest _ onCondition =>
      Ensures.ok ?_
    refine onCondition.imp fun tokens' rest' alike _ condition => ?_
    rw [readForCondition, if_neg fun isSemi => noSemi ((alike.next (by decide)).mpr isSemi)]
    exact condition.bind fun _ => Gives.ok _

theorem readForHead_local (tokens : Tokens) :
    Ensures (readForHead lastLine tokens)
      (Local false tokens fun tokens' => Gives (readForHead lastLine' tokens')) := by
  rw [readForHead]
  refine (expect_local lastLine lastLine' _ _ tokens).bind fun _ afterOpen _ onOpen => ?_
  refine (readForInit_local lastLine lastLine' afterOpen).bind fun init rest _ onInit => ?_
  refine (expect_local lastLine lastLine' _ _ rest).bind fun _ afterInit _ onSemi => ?_
  refine (readForCondition_local lastLine lastLine' afterInit).bind
    fun condition rest _ onCondition => ?_
  refine (expect_local lastLine lastLine' _ _ rest).bind fun _ afterCondition _ onNextSemi => ?_
  refine (readExprList_local lastLine lastLine' .rParen (by decide) afterCondition).bind
    fun step rest _ onStep => ?_
  refine (expect_local lastLine lastLine' _ _ rest).bind fun _ after _ onClose => Ensures.ok ?_
  have onEnd := onNextSemi.trans (onStep.trans onClose id) id
  refine (onOpen.trans (onInit.trans (onSemi.trans (onCondition.trans onEnd id) id) id) id).imp ?_
  rintro _ _ - - ⟨_, -, opening, _, -, init, _, -, semi, _, -, condition, _, -, nextSemi,
    _, -, step, close⟩
  rw [readForHead]
  exact opening.bind fun _ => init.bind fun _ => semi.bind fun _ => condition.bind fun _ =>
    nextSemi.bind fun _ => step.bind fun _ => close.bind fun _ => Gives.ok _

theorem readForeachHead_local (tokens : Tokens) :
    Ensures (readForeachHead lastLine tokens)
      (Local false tokens fun tokens' => Gives (readForeachHead lastLine' tokens')) := by
  rw [readForeachHead]
  refine (expect_local lastLine lastLine' _ _ tokens).bind fun _ afterOpen _ onOpen => ?_
  refine (readTypeName_local lastLine lastLine' afterOpen).bind fun type afterType _ onType => ?_
  refine (readName_local lastLine lastLine' afterType).bind fun name afterName _ onName => ?_
  refine (readWord_local lastLine lastLine' _ _ afterName).bind fun _ afterIn _ onIn => ?_
  refine (readExpr_local lastLine lastLine' afterIn).bind fun iterated rest _ onIterated => ?_
  refine (expect_local lastLine lastLine' _ _ rest).bind fun _ after _ onClose => Ensures.ok ?_
  have onEnd := onIn.trans (onIterated.trans onClose id) id
  refine (onOpen.trans (onType.trans (onName.trans onEnd id) id) id).imp ?_
  rintro _ _ - - ⟨_, -, opening, _, -, type, _, -, name, _, -, isIn, _, -, iterated, close⟩
  rw [readForeachHead]
  exact opening.bind fun _ => type.bind fun _ => name.bind fun _ => isIn.bind fun _ =>
    iterated.bind fun _ => close.bind fun _ => Gives.ok _

/-! ### Labels -/

theorem startsLabel_alike {tokens tokens' : Tokens} (alike : Alike tokens tokens') :
    startsLabel tokens = startsLabel tokens' := by
  rw [startsLabel, startsLabel, decide_eq_decide.mpr (alike.next Token.noConfusion),
    decide_eq_decide.mpr (alike.next Token.noConfusion)]

theorem readCase_local (tokens : Tokens) :
    Ensures (readCase lastLine tokens)
      (Local false tokens fun tokens' => Gives (readCase lastLine' tokens')) := by
  rw [readCase]
  refine (readExpr_local lastLine lastLine' tokens).bind fun value rest _ onValue => ?_
  dsimp only
  split
  · exact Ensures.faultAt
  · next noGuard =>
    refine (expect_local lastLine lastLine' _ _ rest).bind fun _ after _ onColon => Ensures.ok ?_
    refine (onValue.trans onColon id).imp ?_
    rintro _ _ - - ⟨_, related, value, colon⟩
    rw [readCase]
    refine value.bind fun _ => ?_
    dsimp only
    rw [if_neg fun isGuard => noGuard ((related.1.next Token.noConfusion).mpr isGuard)]
    exact colon.bind fun _ => Gives.ok _

theorem readLabel_local (tokens : Tokens) :
    Ensures (readLabel lastLine tokens)
      (Local false tokens fun tokens' => Gives (readLabel lastLine' tokens')) := by
  unfold readLabel
  split
  · next line rest =>
    refine (readCase_local lastLine lastLine' rest).bind fun label after _ onLabel => Ensures.ok ?_
    refine (onLabel.cons (.word "case") line).imp ?_
    rintro _ _ - - ⟨_, _, rfl, label⟩
    exact label.bind fun _ => Gives.ok _
  · next line rest =>
    refine (expect_local lastLine lastLine' _ _ rest).bind fun _ after _ onColon => Ensures.ok ?_
    refine (onColon.cons (.word "default") line).imp ?_
    rintro _ _ - - ⟨_, _, rfl, colon⟩
    exact colon.bind fun _ => Gives.ok _
  · exact Ensures.faultAt

theorem readLabels_local (tokens : Tokens) :
    Ensures (readLabels lastLine tokens)
      (Local false tokens fun tokens' => Gives (readLabels lastLine' tokens')) := by
  rw [readLabels]
  refine (readLabel_local lastLine lastLine' tokens).bind fun label rest fewer onLabel => ?_
  dsimp only
  split
  · next more =>
    refine (readLabels_local rest).bind fun labels after _ onLabels => Ensures.ok ?_
    refine (onLabel.trans onLabels id).imp ?_
    rintro _ _ - - ⟨_, related, label, labels⟩
    rw [readLabels]
    refine label.bind fun _ => ?_
    dsimp only
    rw [startsLabel_alike related.1] at more
    rw [if_pos more]
    exact labels.bind fun _ => Gives.ok _
  · next noMore =>
    refine Ensures.ok (onLabel.imp fun _ _ _ related label => ?_)
    rw [readLabels]
    refine label.bind fun _ => ?_
    dsimp only
    rw [startsLabel_alike related.1] at noMore
    rw [if_neg noMore]
    exact Gives.ok _
termination_by tokens.length
decreasing_by omega

/-! ### The next token -/

/-- A token that is no closing brace comes next in both of two alike lists. -/
theorem Alike.next_eq {tokens tokens' : Tokens} (alike : Alike tokens tokens')
    (nonempty : next? tokens ≠ none) (noBrace : next? tokens ≠ some .rBrace) :
    next? tokens' = next? tokens := by
  cases alike with
  | ended => rfl
  | opened => exact absurd rfl nonempty
  | closed => exact absurd rfl noBrace
  | cons => rfl

theorem next?_of_fewer {tokens rest : Tokens} (fewer : rest.length < tokens.length) :
    next? tokens ≠ none := by
  match tokens, fewer with
  | _ :: _, _ => exact Option.some_ne_none _

/-! ### How statements start -/

/-- The words that start a statement of their own kind. -/
def statementWords : List String :=
  ["if", "switch", "for", "foreach", "while", "do", "break", "continue", "return"]

/-- Whether what comes next starts a declaration or an expression. -/
def startsSimple : Option Token → Bool
  | some .lBrace | some .semi => false
  | some (.word word) => !statementWords.contains word && !unsupportedKeywords.contains word
  | _ => true

/-- What the tokens of a statement start with, which tells how it is read. -/
inductive Start : Tokens → Prop where
  | block (line : Nat) (rest : Tokens) : Start (⟨line, .lBrace⟩ :: rest)
  | empty (line : Nat) (rest : Tokens) : Start (⟨line, .semi⟩ :: rest)
  | branch (line : Nat) (rest : Tokens) : Start (⟨line, .word "if"⟩ :: rest)
  | switch (line : Nat) (rest : Tokens) : Start (⟨line, .word "switch"⟩ :: rest)
  | forLoop (line : Nat) (rest : Tokens) : Start (⟨line, .word "for"⟩ :: rest)
  | foreach (line : Nat) (rest : Tokens) : Start (⟨line, .word "foreach"⟩ :: rest)
  | whileLoop (line : Nat) (rest : Tokens) : Start (⟨line, .word "while"⟩ :: rest)
  | doWhile (line : Nat) (rest : Tokens) : Start (⟨line, .word "do"⟩ :: rest)
  | breakOut (line : Nat) (rest : Tokens) : Start (⟨line, .word "break"⟩ :: rest)
  | continueLoop (line : Nat) (rest : Tokens) : Start (⟨line, .word "continue"⟩ :: rest)
  | returnValue (line : Nat) (rest : Tokens) : Start (⟨line, .word "return"⟩ :: rest)
  | unsupported (line : Nat) (word : String) (rest : Tokens) (other : word ∉ statementWords)
    (listed : unsupportedKeywords.contains word = true) : Start (⟨line, .word word⟩ :: rest)
  | simple {tokens : Tokens} (simple : startsSimple (next? tokens) = true) : Start tokens

theorem Start.of (tokens : Tokens) : Start tokens := by
  cases tokens with
  | nil => exact .simple rfl
  | cons first rest =>
    obtain ⟨line, token⟩ := first
    cases token with
    | lBrace => exact .block line rest
    | semi => exact .empty line rest
    | word word =>
      by_cases own : word ∈ statementWords
      · simp only [statementWords, List.mem_cons, List.not_mem_nil, or_false] at own
        obtain rfl | rfl | rfl | rfl | rfl | rfl | rfl | rfl | rfl := own
        · exact .branch line rest
        · exact .switch line rest
        · exact .forLoop line rest
        · exact .foreach line rest
        · exact .whileLoop line rest
        · exact .doWhile line rest
        · exact .breakOut line rest
        · exact .continueLoop line rest
        · exact .returnValue line rest
      · by_cases listed : unsupportedKeywords.contains word = true
        · exact .unsupported line word rest own listed
        · have noOwn : statementWords.contains word = false := by simpa using own
          refine .simple ?_
          show (!statementWords.contains word && !unsupportedKeywords.contains word) = true
          rw [noOwn, Bool.eq_false_iff.mpr listed]
          rfl
    | _ => exact .simple rfl

theorem readStmt_otherWord {line : Nat} {word : String} {rest : Tokens}
    (other : word ∉ statementWords) :
    readStmt lastLine (⟨line, .word word⟩ :: rest) =
      if unsupportedKeywords.contains word then .error ⟨line, .unsupportedStatement word⟩
      else readSimple lastLine (⟨line, .word word⟩ :: rest) := by
  simp only [statementWords, List.mem_cons, List.not_mem_nil, or_false, not_or] at other
  obtain ⟨noIf, noSwitch, noFor, noForeach, noWhile, noDo, noBreak, noContinue, noReturn⟩ := other
  rw [readStmt, if_neg noIf, if_neg noSwitch, if_neg noFor, if_neg noForeach, if_neg noWhile,
    if_neg noDo, if_neg noBreak, if_neg noContinue, if_neg noReturn]

/-- What starts no statement of its own kind is a declaration or an expression. -/
theorem readStmt_of_simple {tokens : Tokens} (simple : startsSimple (next? tokens) = true) :
    readStmt lastLine tokens = readSimple lastLine tokens := by
  by_cases isWord : ∃ word, next? tokens = some (.word word)
  · obtain ⟨word, isNext⟩ := isWord
    obtain ⟨line, rest, rfl⟩ := next?_eq_some.mp isNext
    obtain ⟨other, supported⟩ := Bool.and_eq_true_iff.mp simple
    rw [readStmt_otherWord lastLine (by simpa using other), if_neg (by simpa using supported)]
  · refine readStmt.eq_4 lastLine tokens ?_ ?_ ?_
    · rintro line rest rfl
      cases simple
    · rintro line rest rfl
      cases simple
    · rintro line word rest rfl
      exact isWord ⟨word, rfl⟩

/-! ### Statements -/

theorem startsSimple_alike {tokens tokens' : Tokens} (alike : Alike tokens tokens')
    (simple : startsSimple (next? tokens) = true) : startsSimple (next? tokens') = true := by
  cases alike with
  | ended | opened | closed => rfl
  | cons => exact simple

mutual

theorem readStmt_local (tokens : Tokens) :
    Ensures (readStmt lastLine tokens)
      (Local false tokens fun tokens' => Gives (readStmt lastLine' tokens')) := by
  cases Start.of tokens with
  | block line rest =>
    rw [readStmt]
    refine (readBlock_local _ rest).bind fun body after _ onBody => Ensures.ok ?_
    refine (onBody.cons .lBrace line).imp ?_
    rintro _ _ - - ⟨_, _, rfl, body⟩
    rw [readStmt]
    exact body.bind fun _ => Gives.ok _
  | empty line rest =>
    rw [readStmt]
    refine Ensures.ok (Local.token fun line' rest' _ => ?_)
    rw [readStmt]
    exact Gives.ok _
  | branch line rest =>
    rw [readStmt]
    refine (readBranch_local rest).bind fun stmt after _ onStmt => Ensures.ok ?_
    refine (onStmt.cons (.word "if") line).imp ?_
    rintro _ _ - - ⟨_, _, rfl, stmt⟩
    rw [readStmt]
    exact stmt.bind fun _ => Gives.ok _
  | switch line rest =>
    rw [readStmt]
    refine (readSwitch_local rest).bind fun stmt after _ onStmt => Ensures.ok ?_
    refine (onStmt.cons (.word "switch") line).imp ?_
    rintro _ _ - - ⟨_, _, rfl, stmt⟩
    rw [readStmt]
    exact stmt.bind fun _ => Gives.ok _
  | forLoop line rest =>
    rw [readStmt]
    refine (readForHead_local lastLine lastLine' rest).bind fun head afterHead _ onHead => ?_
    refine (readStmt_local afterHead).bind fun body after _ onBody => Ensures.ok ?_
    refine ((onHead.trans onBody id).cons (.word "for") line).imp ?_
    rintro _ _ - - ⟨_, _, rfl, _, -, head, body⟩
    rw [readStmt]
    exact head.bind fun _ => body.bind fun _ => Gives.ok _
  | foreach line rest =>
    rw [readStmt]
    refine (readForeachHead_local lastLine lastLine' rest).bind fun head afterHead _ onHead => ?_
    refine (readStmt_local afterHead).bind fun body after _ onBody => Ensures.ok ?_
    refine ((onHead.trans onBody id).cons (.word "foreach") line).imp ?_
    rintro _ _ - - ⟨_, _, rfl, _, -, head, body⟩
    rw [readStmt]
    exact head.bind fun _ => body.bind fun _ => Gives.ok _
  | whileLoop line rest =>
    rw [readStmt]
    refine (readInParens_local lastLine lastLine' rest).bind fun test afterHead _ onTest => ?_
    refine (readStmt_local afterHead).bind fun body after _ onBody => Ensures.ok ?_
    refine ((onTest.trans onBody id).cons (.word "while") line).imp ?_
    rintro _ _ - - ⟨_, _, rfl, _, -, test, body⟩
    rw [readStmt]
    exact test.bind fun _ => body.bind fun _ => Gives.ok _
  | doWhile line rest =>
    rw [readStmt]
    refine (readDoWhile_local rest).bind fun stmt after _ onStmt => Ensures.ok ?_
    refine (onStmt.cons (.word "do") line).imp ?_
    rintro _ _ - - ⟨_, _, rfl, stmt⟩
    rw [readStmt]
    exact stmt.bind fun _ => Gives.ok _
  | breakOut line rest | continueLoop line rest =>
    rw [readStmt]
    refine (expect_local lastLine lastLine' _ _ rest).bind fun _ after _ onEnd => Ensures.ok ?_
    refine (onEnd.cons _ line).imp ?_
    rintro _ _ - - ⟨_, _, rfl, ends⟩
    rw [readStmt]
    exact ends.bind fun _ => Gives.ok _
  | returnValue line rest =>
    rw [readStmt]
    refine (readReturned_local lastLine lastLine' rest).bind
      fun stmt after _ onStmt => Ensures.ok ?_
    refine (onStmt.cons (.word "return") line).imp ?_
    rintro _ _ - - ⟨_, _, rfl, stmt⟩
    rw [readStmt]
    exact stmt.bind fun _ => Gives.ok _
  | unsupported line word rest other listed =>
    rw [readStmt_otherWord lastLine other, if_pos listed]
    exact Ensures.error
  | simple simple =>
    rw [readStmt_of_simple lastLine simple]
    refine (readSimple_local lastLine lastLine' tokens).imp fun stmt after onStmt => ?_
    refine onStmt.imp fun tokens' _ alike _ stmt => ?_
    rwa [readStmt_of_simple lastLine' (startsSimple_alike alike simple)]
termination_by tokens.length * 4 + 1
decreasing_by all_goals simp only [List.length_cons] at *; omega

theorem readBranch_local (tokens : Tokens) :
    Ensures (readBranch lastLine tokens)
      (Local false tokens fun tokens' => Gives (readBranch lastLine' tokens')) := by
  rw [readBranch]
  refine (readInParens_local lastLine lastLine' tokens).bind
    fun condition afterHead fewer₁ onCondition => ?_
  refine (readStmt_local afterHead).bind fun whenTrue rest fewer₂ onTrue => ?_
  dsimp only
  split
  · next isElse =>
    obtain ⟨line, afterElse, rfl⟩ := next?_eq_some.mp isElse
    have shorter : afterElse.length + 1 < afterHead.length := fewer₂
    refine (readStmt_local afterElse).bind fun whenFalse after _ onFalse => Ensures.ok ?_
    refine (onCondition.trans (onTrue.trans (onFalse.cons (.word "else") line) id) id).imp ?_
    rintro _ _ - - ⟨_, -, condition, _, -, whenTrue, line', rest', rfl, whenFalse⟩
    rw [readBranch]
    refine condition.bind fun _ => whenTrue.bind fun _ => ?_
    dsimp only
    have stillElse : next? (⟨line', .word "else"⟩ :: rest') = some (.word "else") := rfl
    rw [if_pos stillElse]
    exact whenFalse.bind fun _ => Gives.ok _
  · next noElse =>
    refine Ensures.ok ((onCondition.trans onTrue id).imp ?_)
    rintro _ _ - related ⟨_, -, condition, whenTrue⟩
    rw [readBranch]
    refine condition.bind fun _ => whenTrue.bind fun _ => ?_
    dsimp only
    rw [if_neg fun isElse => noElse ((related.1.next Token.noConfusion).mpr isElse)]
    exact Gives.ok _
termination_by tokens.length * 4 + 1
decreasing_by all_goals omega

theorem readDoWhile_local (tokens : Tokens) :
    Ensures (readDoWhile lastLine tokens)
      (Local false tokens fun tokens' => Gives (readDoWhile lastLine' tokens')) := by
  rw [readDoWhile]
  refine (readStmt_local tokens).bind fun body rest _ onBody => ?_
  refine (readWord_local lastLine lastLine' _ _ rest).bind fun _ afterWhile _ onWhile => ?_
  refine (readInParens_local lastLine lastLine' afterWhile).bind fun test rest _ onTest => ?_
  refine (expect_local lastLine lastLine' _ _ rest).bind fun _ after _ onEnd => Ensures.ok ?_
  refine (onBody.trans (onWhile.trans (onTest.trans onEnd id) id) id).imp ?_
  rintro _ _ - - ⟨_, -, body, _, -, isWhile, _, -, test, ends⟩
  rw [readDoWhile]
  exact body.bind fun _ => isWhile.bind fun _ => test.bind fun _ => ends.bind fun _ => Gives.ok _
termination_by tokens.length * 4 + 2

theorem readBlock_local (what : String) (tokens : Tokens) :
    Ensures (readBlock lastLine what tokens)
      (Local false tokens fun tokens' => Gives (readBlock lastLine' what tokens')) := by
  rw [readBlock]
  refine (readStmts_local tokens).bind fun body atClose _ onBody => ?_
  refine (expect_ensures lastLine _ _ atClose).bind fun _ after _ isClose => Ensures.ok ?_
  obtain ⟨line, rfl⟩ := isClose
  refine onBody.thenToken.imp ?_
  rintro _ _ - - ⟨line', body⟩
  rw [readBlock]
  exact body.bind fun _ => (gives_expect lastLine' _ _ line' _).bind fun _ => Gives.ok _
termination_by tokens.length * 4 + 3

theorem readStmts_local (tokens : Tokens) :
    Ensures (readStmts lastLine tokens)
      (Local true tokens fun tokens' => Gives (readStmts lastLine' tokens')) := by
  rw [readStmts]
  split
  · next closed =>
    refine Ensures.ok (Local.nothing fun tokens' related => ?_)
    rw [readStmts, ← related.2 rfl, closed]
    exact Gives.ok _
  · exact Ensures.faultAt
  · next token noBrace isNext =>
    refine (readStmt_local tokens).bind fun stmt rest _ onStmt => ?_
    refine (readStmts_local rest).bind fun stmts after _ onStmts => Ensures.ok ?_
    refine (onStmt.trans onStmts Bool.noConfusion).imp ?_
    rintro tokens' _ alike - ⟨_, -, stmt, stmts⟩
    have isOpen : next? tokens ≠ some .rBrace := fun closed =>
      noBrace (Option.some.inj (isNext.symm.trans closed))
    have sameNext := alike.next_eq (isNext ▸ Option.some_ne_none token) isOpen
    rw [readStmts, sameNext, isNext]
    split
    · next closed => exact absurd (Option.some.inj closed) noBrace
    · next none => cases none
    · exact stmt.bind fun _ => stmts.bind fun _ => Gives.ok _
termination_by tokens.length * 4 + 2

theorem readSwitch_local (tokens : Tokens) :
    Ensures (readSwitch lastLine tokens)
      (Local false tokens fun tokens' => Gives (readSwitch lastLine' tokens')) := by
  rw [readSwitch]
  refine (readInParens_local lastLine lastLine' tokens).bind
    fun scrutinee afterHead _ onScrutinee => ?_
  refine (expect_local lastLine lastLine' _ _ afterHead).bind fun _ afterOpen _ onOpen => ?_
  refine (readSections_local afterOpen).bind fun sections atClose _ onSections => ?_
  refine (expect_ensures lastLine _ _ atClose).bind fun _ after _ isClose => Ensures.ok ?_
  obtain ⟨line, rfl⟩ := isClose
  refine (onScrutinee.trans (onOpen.trans onSections.thenToken id) id).imp ?_
  rintro _ _ - - ⟨_, -, scrutinee, _, -, opening, line', sections⟩
  rw [readSwitch]
  exact scrutinee.bind fun _ => opening.bind fun _ => sections.bind fun _ =>
    (gives_expect lastLine' _ _ line' _).bind fun _ => Gives.ok _
termination_by tokens.length * 4 + 1

theorem readSections_local (tokens : Tokens) :
    Ensures (readSections lastLine tokens)
      (Local true tokens fun tokens' => Gives (readSections lastLine' tokens')) := by
  rw [readSections]
  split
  · next closed =>
    refine Ensures.ok (Local.nothing fun tokens' related => ?_)
    rw [readSections, if_pos ((related.2 rfl).symm.trans closed)]
    exact Gives.ok _
  · next isOpen =>
    refine (readLabels_local lastLine lastLine' tokens).bind
      fun labels afterLabels fewer onLabels => ?_
    refine (readSectionBody_local afterLabels).bind fun body rest _ onBody => ?_
    refine (readSections_local rest).bind fun sections after _ onSections => Ensures.ok ?_
    refine (onLabels.trans (onBody.trans onSections id) Bool.noConfusion).imp ?_
    rintro tokens' _ alike - ⟨_, -, labels, _, -, body, sections⟩
    have sameNext := alike.next_eq (next?_of_fewer fewer) isOpen
    rw [readSections, sameNext, if_neg isOpen]
    exact labels.bind fun _ => body.bind fun _ => sections.bind fun _ => Gives.ok _
termination_by tokens.length * 4

theorem readSectionBody_local (tokens : Tokens) :
    Ensures (readSectionBody lastLine tokens)
      (Local true tokens fun tokens' => Gives (readSectionBody lastLine' tokens')) := by
  rw [readSectionBody]
  split
  · next stops =>
    refine Ensures.ok (Local.nothing fun tokens' related => ?_)
    rw [startsLabel_alike related.1, related.2 rfl] at stops
    rw [readSectionBody, if_pos stops]
    exact Gives.ok _
  · next goesOn =>
    split
    · exact Ensures.faultAt
    · next nonempty =>
      refine (readStmt_local tokens).bind fun stmt rest fewer onStmt => ?_
      refine (readSectionBody_local rest).bind fun stmts after _ onStmts => Ensures.ok ?_
      refine (onStmt.trans onStmts Bool.noConfusion).imp ?_
      rintro tokens' _ alike - ⟨_, -, stmt, stmts⟩
      have isOpen : next? tokens ≠ some .rBrace := fun closed => goesOn (by simp [closed])
      have sameNext := alike.next_eq (next?_of_fewer fewer) isOpen
      rw [startsLabel_alike alike, ← sameNext] at goesOn
      have stillNonempty : ¬ tokens'.isEmpty := fun isEmpty => by
        obtain rfl := List.isEmpty_iff.mp isEmpty
        exact next?_of_fewer fewer sameNext.symm
      rw [readSectionBody, if_neg goesOn, if_neg stillNonempty]
      exact stmt.bind fun _ => stmts.bind fun _ => Gives.ok _
termination_by tokens.length * 4 + 2

end

end Storefront.Script
