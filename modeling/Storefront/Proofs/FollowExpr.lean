import Storefront.Proofs.CursorExpr
import Storefront.Proofs.Following

/-!
The machine follows the readers of expressions. A function needs a step for each call and each round
that is nested in it: a call on the same tokens goes down one level, and there are fewer levels than
what a token less saves.
-/

namespace Storefront.Script.Cursor

variable {lexed : Lexed} {tokens : Tokens}

/-! ### Looking ahead -/

theorem atTypeArgument_place (within : tokens <:+ lexed.tokens) :
    atTypeArgument (marked lexed) (place lexed tokens) =
      some (.ok (startsTypeArgument tokens, place lexed tokens)) := by
  rw [atTypeArgument, bind_of_ends (peek_place within), bind_of_ends (peekAt_place within 1),
    bind_of_ends (peekAt_place within 2), bind_of_ends (peekAt_place within 3)]
  refine congrArg (fun starts : Bool => some (Except.ok (starts, place lexed tokens))) ?_
  match tokens with
  | [] => rfl
  | ⟨_, first⟩ :: rest =>
    cases first with
    | lt =>
      match rest with
      | [] => rfl
      | ⟨_, second⟩ :: rest =>
        cases second with
        | word name =>
          match rest with
          | [] => rfl
          | ⟨_, third⟩ :: rest =>
            cases third with
            | gt =>
              match rest with
              | [] => rfl
              | ⟨_, fourth⟩ :: rest => cases fourth <;> rfl
            | _ => rfl
        | _ => rfl
    | _ => rfl

/-- Whether a cast to a primitive type starts here. -/
def startsCast : Tokens → Bool
  | ⟨_, .lParen⟩ :: ⟨_, .word type⟩ :: ⟨_, .rParen⟩ :: _ => isPrimitiveType type
  | _ => false

theorem atCast_place (within : tokens <:+ lexed.tokens) :
    atCast (marked lexed) (place lexed tokens) =
      some (.ok (startsCast tokens, place lexed tokens)) := by
  rw [atCast, bind_of_ends (peek_place within), bind_of_ends (peekAt_place within 1),
    bind_of_ends (peekAt_place within 2)]
  refine congrArg (fun starts : Bool => some (Except.ok (starts, place lexed tokens))) ?_
  match tokens with
  | [] => rfl
  | ⟨_, first⟩ :: rest =>
    cases first with
    | lParen =>
      match rest with
      | [] => rfl
      | ⟨_, second⟩ :: rest =>
        cases second with
        | word type =>
          match rest with
          | [] => exact Bool.and_false _
          | ⟨_, third⟩ :: rest =>
            cases third with
            | rParen => exact Bool.and_true _
            | _ => exact Bool.and_false _
        | _ => rfl
    | _ => rfl

theorem exists_of_startsCast (starts : startsCast tokens = true) :
    ∃ line line' line'' type rest, isPrimitiveType type = true ∧
      tokens = ⟨line, .lParen⟩ :: ⟨line', .word type⟩ :: ⟨line'', .rParen⟩ :: rest := by
  unfold startsCast at starts
  split at starts
  · exact ⟨_, _, _, _, _, starts, rfl⟩
  · cases starts

theorem leadOf_lParen {line : Nat} {rest : Tokens}
    (noCast : startsCast (⟨line, .lParen⟩ :: rest) = false) :
    leadOf (⟨line, .lParen⟩ :: rest) = .operand := by
  match rest with
  | [] => rfl
  | ⟨_, second⟩ :: rest =>
    cases second with
    | word type =>
      match rest with
      | [] => rfl
      | ⟨_, third⟩ :: rest =>
        cases third with
        | rParen => exact if_neg (Bool.eq_false_iff.mp noCast)
        | _ => rfl
    | _ => rfl

/-- What starts with neither a minus sign nor a cast starts with another operator or none. -/
theorem leadOf_plain (noMinus : next? tokens ≠ some .minus) (noCast : startsCast tokens = false) :
    (∃ op line token rest fewer, tokens = ⟨line, token⟩ :: rest ∧ token.leadingOp? = some op ∧
        leadOf tokens = .operator op rest fewer) ∨
      (next? tokens).bind Token.leadingOp? = none ∧ leadOf tokens = .operand := by
  match tokens with
  | [] => exact .inr ⟨rfl, rfl⟩
  | ⟨line, token⟩ :: rest =>
    by_cases isParen : token = .lParen
    · subst isParen
      exact .inr ⟨rfl, leadOf_lParen noCast⟩
    have plain := leadOf.eq_4 line token rest
      (fun _ _ _ _ isMinus => noMinus (congrArg some isMinus))
      (fun _ _ _ _ isMinus => noMinus (congrArg some isMinus)) (fun _ _ _ _ _ => isParen)
    cases isOp : token.leadingOp? with
    | none =>
      rw [isOp] at plain
      exact .inr ⟨isOp, plain⟩
    | some op =>
      rw [isOp] at plain
      exact .inl ⟨op, line, token, rest, _, rfl, isOp, plain⟩

theorem readMemberName_follows (within : tokens <:+ lexed.tokens) :
    Follows lexed (Script.readMemberName lexed.lastLine tokens)
      (readMemberName (marked lexed) (place lexed tokens)) := by
  rw [readMemberName]
  match tokens with
  | [] =>
    rw [bind_of_ends (advance_nil lexed)]
    exact faultHere_follows List.nil_suffix _
  | ⟨line, token⟩ :: rest =>
    rw [bind_of_ends (advance_cons within)]
    cases token with
    | word name =>
      dsimp only
      rw [Script.readMemberName, bind_of_ends (atTypeArgument_place (within_rest within))]
      cases startsTypeArgument rest with
      | true => exact faultHere_follows (within_rest within) _
      | false => exact .found name rest _ (within_rest within)
    | _ => exact faultHere_follows (within_rest within) _

theorem peekOperator_place (within : tokens <:+ lexed.tokens) :
    peekOperator (marked lexed) (place lexed tokens) =
      some (.ok ((next? tokens).bind Token.binaryOp?, place lexed tokens)) := by
  rw [peekOperator, bind_of_ends (peek_place within)]
  rfl

/-! ### The range of the machine's numbers -/

/-- A number that a script can write has an opposite. -/
theorem negate_eq {value : Int} (lower : 0 ≤ value) (upper : value ≤ Lexer.greatestInt)
    (position : Nat) : negate value position = some (.ok (-value, position)) := by
  rw [negate, if_pos ⟨by omega, by omega⟩]
  rfl

theorem oneTighter_eq (op : BinaryOp) (position : Nat) :
    oneTighter op.precedence position = some (.ok (op.precedence + 1, position)) := by
  have bounded : op.precedence + 1 ≤ 255 := by cases op <;> decide
  rw [oneTighter, if_pos bounded]
  rfl

/-- What starts with a minus sign is a number, whose opposite the machine finds, or has the sign as
its operator. -/
theorem leadOf_minus {line : Nat} {rest : Tokens} (fits : IntsInRange (marked lexed))
    (within : rest <:+ lexed.tokens) :
    (∃ literal negated line' token more fewer, rest = ⟨line', token⟩ :: more ∧
        negated? (next? rest) = some negated ∧
        (∀ position, negated position = some (.ok (literal, position))) ∧
        leadOf (⟨line, .minus⟩ :: rest) = .negated literal more fewer) ∨
      negated? (next? rest) = none ∧
        ∃ fewer, leadOf (⟨line, .minus⟩ :: rest) = .operator .neg rest fewer := by
  match rest with
  | [] => exact .inr ⟨rfl, _, rfl⟩
  | ⟨line', token⟩ :: more =>
    cases token with
    | int value =>
      have listed : ⟨line', some (.int value)⟩ ∈ marked lexed :=
        List.mem_of_getElem? (marked_token within (List.getElem?_cons_zero))
      obtain ⟨lower, upper⟩ := fits line' value listed
      refine .inl ⟨.int (-value), _, line', .int value, more, _, rfl, rfl, fun position => ?_, rfl⟩
      exact bind_of_ends (negate_eq lower upper position)
    | float value =>
      exact .inl ⟨.float (-value), _, line', .float value, more, _, rfl, rfl, fun _ => rfl, rfl⟩
    | _ => exact .inr ⟨rfl, _, rfl⟩

/-! ### Expressions -/

mutual

theorem readExpr_follows (fits : IntsInRange (marked lexed)) {tokens : Tokens}
    (within : tokens <:+ lexed.tokens) {steps : Nat} (enough : 32 * tokens.length + 8 < steps) :
    Follows lexed (Script.readExpr lexed.lastLine tokens)
      (readExpr (marked lexed) steps (place lexed tokens)) := by
  match steps with
  | steps + 1 =>
    rw [Script.readExpr, readExpr]
    refine (readConditional_follows fits within (by omega)).bind fun target rest fewer within => ?_
    dsimp only
    match rest with
    | [] =>
      rw [bind_of_ends (peek_place within)]
      exact .found target [] _ within
    | ⟨line, token⟩ :: more =>
      rw [bind_of_ends (peek_cons within)]
      have shorter : more.length + 1 < tokens.length := fewer
      cases token with
      | assign op =>
        dsimp only
        rw [bind_of_ends (advance_cons within)]
        refine (readExpr_follows fits (within_rest within) (by omega)).bind
          fun value after _ within => ?_
        exact .found _ after _ within
      | arrow => exact faultHere_follows within _
      | _ => exact .found target _ _ within
termination_by steps

theorem readConditional_follows (fits : IntsInRange (marked lexed)) {tokens : Tokens}
    (within : tokens <:+ lexed.tokens) {steps : Nat} (enough : 32 * tokens.length + 7 < steps) :
    Follows lexed (Script.readConditional lexed.lastLine tokens)
      (readConditional (marked lexed) steps (place lexed tokens)) := by
  match steps with
  | steps + 1 =>
    rw [Script.readConditional, readConditional]
    refine (readBinary_follows fits within (by omega) 1).bind fun condition rest fewer within => ?_
    dsimp only
    match rest with
    | [] =>
      rw [bind_of_ends (peek_place within)]
      exact .found condition [] _ within
    | ⟨line, token⟩ :: more =>
      rw [bind_of_ends (peek_cons within)]
      have shorter : more.length + 1 < tokens.length := fewer
      cases token with
      | question =>
        dsimp only
        rw [bind_of_ends (advance_cons within)]
        refine (readExpr_follows fits (within_rest within) (by omega)).bind
          fun whenTrue atColon fewer₁ within => ?_
        refine (expect_follows within _ _).bind fun _ afterColon fewer₂ within => ?_
        refine (readConditional_follows fits within (by omega)).bind
          fun whenFalse after _ within => ?_
        exact .found _ after _ within
      | _ => exact .found condition _ _ within
termination_by steps

theorem readBinary_follows (fits : IntsInRange (marked lexed)) {tokens : Tokens}
    (within : tokens <:+ lexed.tokens) {steps : Nat} (enough : 32 * tokens.length + 6 < steps)
    (least : Nat) :
    Follows lexed (Script.readBinary lexed.lastLine least tokens)
      (readBinary (marked lexed) steps least (place lexed tokens)) := by
  match steps with
  | steps + 1 =>
    rw [Script.readBinary, readBinary]
    refine (readUnary_follows fits within (by omega)).bind fun left rest fewer within => ?_
    exact (readOperators_follows fits within (by omega) least left).rebound fun _ _ _ => ⟨_, rfl⟩
termination_by steps

theorem readOperators_follows (fits : IntsInRange (marked lexed)) {tokens : Tokens}
    (within : tokens <:+ lexed.tokens) {steps : Nat} (enough : 32 * tokens.length < steps)
    (least : Nat) (left : Expr) :
    Follows lexed (Script.readOperators lexed.lastLine least left tokens)
      (readOperators (marked lexed) steps least left (place lexed tokens)) := by
  match steps with
  | steps + 1 =>
    rw [readOperators, bind_of_ends (peekOperator_place within)]
    match tokens with
    | [] =>
      rw [Script.readOperators]
      exact .found left [] _ within
    | ⟨line, token⟩ :: rest =>
      rw [Script.readOperators, show (next? (⟨line, token⟩ :: rest)).bind Token.binaryOp? =
        token.binaryOp? from rfl]
      rw [List.length_cons] at enough
      cases token.binaryOp? with
      | none => exact .found left _ _ within
      | some op =>
        dsimp only
        by_cases below : op.precedence < least
        · rw [if_pos below, if_pos below]
          exact .found left _ _ within
        · rw [if_neg below, if_neg below, bind_of_ends (advance_cons within),
            bind_of_ends (oneTighter_eq op _)]
          refine (readBinary_follows fits (within_rest within) (by omega) _).bind
            fun right afterRight fewer within => ?_
          exact (readOperators_follows fits within (by omega) least _).rebound fun _ _ _ => ⟨_, rfl⟩
termination_by steps

theorem readUnary_follows (fits : IntsInRange (marked lexed)) {tokens : Tokens}
    (within : tokens <:+ lexed.tokens) {steps : Nat} (enough : 32 * tokens.length + 5 < steps) :
    Follows lexed (Script.readUnary lexed.lastLine tokens)
      (readUnary (marked lexed) steps (place lexed tokens)) := by
  match steps with
  | steps + 1 =>
    rw [readUnary, bind_of_ends (peek_place within), bind_of_ends (atCast_place within)]
    by_cases isMinus : next? tokens = some .minus
    · rw [if_pos isMinus]
      obtain ⟨line, rest, rfl⟩ := next?_eq_some.mp isMinus
      exact readNegated_follows fits within (Nat.lt_of_succ_lt_succ enough)
    rw [if_neg isMinus]
    cases starts : startsCast tokens with
    | true =>
      rw [if_pos rfl]
      obtain ⟨line, line', line'', type, rest, primitive, rfl⟩ := exists_of_startsCast starts
      exact readCast_follows fits within primitive (Nat.lt_of_succ_lt_succ enough)
    | false =>
      rw [if_neg Bool.false_ne_true, Script.readUnary]
      obtain ⟨op, line, token, rest, fewer, rfl, isOp, lead⟩ | ⟨noOp, lead⟩ :=
        leadOf_plain isMinus starts
      · rw [lead, show (next? (⟨line, token⟩ :: rest)).bind Token.leadingOp? = some op from isOp]
        dsimp only
        rw [bind_of_ends (advance_cons within)]
        refine (readUnary_follows fits (within_rest within) (by omega)).bind
          fun operand after _ within => ?_
        exact .found _ after _ within
      · rw [lead, noOp]
        refine (readPrimary_follows fits within (by omega)).bind fun primary rest fewer within => ?_
        exact (readPostfix_follows fits within (by omega) primary).rebound fun _ _ _ => ⟨_, rfl⟩
termination_by steps

theorem readNegated_follows (fits : IntsInRange (marked lexed)) {line : Nat} {rest : Tokens}
    (within : ⟨line, .minus⟩ :: rest <:+ lexed.tokens)
    {steps : Nat} (enough : 32 * (rest.length + 1) + 4 < steps) :
    Follows lexed (Script.readUnary lexed.lastLine (⟨line, .minus⟩ :: rest))
      (readNegated (marked lexed) steps (place lexed (⟨line, .minus⟩ :: rest))) := by
  match steps with
  | steps + 1 =>
    rw [readNegated, bind_of_ends (peekAt_place within 1), Script.readUnary,
      show ((⟨line, .minus⟩ :: rest : Tokens)[1]?).map Located.value = next? rest from by
        rw [List.getElem?_cons_succ, ← List.head?_eq_getElem?]; rfl]
    obtain ⟨literal, negated, line', token, more, fewer, rfl, isNumber, found, lead⟩ |
      ⟨noNumber, fewer, lead⟩ := leadOf_minus fits (within_rest within)
    · rw [lead, isNumber]
      dsimp only
      rw [bind_of_ends (advance_cons within), bind_of_ends (advance_cons (within_rest within)),
        bind_of_ends (found _)]
      rw [List.length_cons] at enough
      exact (readPostfix_follows fits (within_rest (within_rest within)) (by omega) literal).rebound
        fun _ _ _ => ⟨_, rfl⟩
    · rw [lead, noNumber]
      dsimp only
      rw [bind_of_ends (advance_cons within)]
      refine (readUnary_follows fits (within_rest within) (by omega)).bind
        fun operand after _ within => ?_
      exact .found _ after _ within
termination_by steps

theorem readCast_follows (fits : IntsInRange (marked lexed)) {line line' line'' : Nat}
    {type : String} {rest : Tokens}
    (within : ⟨line, .lParen⟩ :: ⟨line', .word type⟩ :: ⟨line'', .rParen⟩ :: rest <:+ lexed.tokens)
    (primitive : isPrimitiveType type = true) {steps : Nat}
    (enough : 32 * (rest.length + 3) + 4 < steps) :
    Follows lexed (Script.readUnary lexed.lastLine
        (⟨line, .lParen⟩ :: ⟨line', .word type⟩ :: ⟨line'', .rParen⟩ :: rest))
      (readCast (marked lexed) steps (place lexed
        (⟨line, .lParen⟩ :: ⟨line', .word type⟩ :: ⟨line'', .rParen⟩ :: rest))) := by
  match steps with
  | steps + 1 =>
    have lead : leadOf (⟨line, .lParen⟩ :: ⟨line', .word type⟩ :: ⟨line'', .rParen⟩ :: rest) =
        .cast type rest _ := if_pos primitive
    rw [Script.readUnary, lead, readCast, bind_of_ends (advance_cons within),
      bind_of_ends (advance_cons (within_rest within))]
    dsimp only
    have closes : expect (marked lexed) (some .rParen) "')' after cast type"
        (place lexed (⟨line'', .rParen⟩ :: rest)) = some (.ok ((), place lexed rest)) :=
      expect_cons (within_rest (within_rest within)) _
    rw [bind_of_ends closes]
    refine (readUnary_follows fits (within_rest (within_rest (within_rest within))) (by omega)).bind
      fun inner after _ within => ?_
    exact .found _ after _ within
termination_by steps

theorem readPostfix_follows (fits : IntsInRange (marked lexed)) {tokens : Tokens}
    (within : tokens <:+ lexed.tokens) {steps : Nat} (enough : 32 * tokens.length < steps)
    (head : Expr) :
    Follows lexed (Script.readPostfix lexed.lastLine head tokens)
      (readPostfix (marked lexed) steps head (place lexed tokens)) := by
  match steps with
  | steps + 1 =>
    rw [readPostfix, bind_of_ends (peek_place within)]
    match tokens with
    | [] =>
      rw [Script.readPostfix]
      exact .found head [] _ within
    | ⟨line, token⟩ :: rest =>
      rw [List.length_cons] at enough
      rw [show next? (⟨line, token⟩ :: rest) = some token from rfl]
      by_cases isDot : token = .dot
      · subst isDot
        rw [Script.readPostfix, if_pos rfl, bind_of_ends (advance_cons within)]
        refine (readMemberName_follows (within_rest within)).bind
          fun name afterName fewer within => ?_
        exact (readPostfix_follows fits within (by omega) _).rebound fun _ _ _ => ⟨_, rfl⟩
      by_cases isParen : token = .lParen
      · subst isParen
        rw [Script.readPostfix, if_neg (by decide), if_pos rfl, bind_of_ends (advance_cons within)]
        refine (readArgs_follows fits (within_rest within) (by omega) .rParen).bind
          fun args atClose fewer within => ?_
        refine (expect_follows within _ _).bind fun _ afterClose fewer₁ within => ?_
        exact (readPostfix_follows fits within (by omega) _).rebound fun _ _ _ => ⟨_, rfl⟩
      by_cases isBracket : token = .lBracket
      · subst isBracket
        rw [Script.readPostfix, if_neg (by decide), if_neg (by decide), if_pos rfl,
          bind_of_ends (advance_cons within)]
        refine (readArgs_follows fits (within_rest within) (by omega) .rBracket).bind
          fun args atClose fewer within => ?_
        refine (expect_follows within _ _).bind fun _ afterClose fewer₁ within => ?_
        exact (readPostfix_follows fits within (by omega) _).rebound fun _ _ _ => ⟨_, rfl⟩
      rw [Script.readPostfix.eq_4 lexed.lastLine head line token rest isDot isParen isBracket,
        if_neg (fun same => isDot (Option.some.inj same)),
        if_neg (fun same => isParen (Option.some.inj same)),
        if_neg (fun same => isBracket (Option.some.inj same)), Option.bind_some]
      cases token.trailingOp? with
      | none => exact .found head _ _ within
      | some op =>
        dsimp only
        rw [bind_of_ends (advance_cons within)]
        exact (readPostfix_follows fits (within_rest within) (by omega) _).rebound
          fun _ _ _ => ⟨_, rfl⟩
termination_by steps

theorem readArgs_follows (fits : IntsInRange (marked lexed)) {tokens : Tokens}
    (within : tokens <:+ lexed.tokens) {steps : Nat} (enough : 32 * tokens.length + 11 < steps)
    (close : Token) :
    Follows lexed (Script.readArgs lexed.lastLine close tokens)
      (readArgs (marked lexed) steps close (place lexed tokens)) := by
  match steps with
  | steps + 1 =>
    rw [Script.readArgs, readArgs, bind_of_ends (peek_place within)]
    split
    · next isOut =>
      rw [if_pos isOut]
      exact faultHere_follows within _
    · next isRef =>
      rw [isRef, if_neg (by decide), if_pos rfl]
      exact faultHere_follows within _
    · next noOut noRef =>
      rw [if_neg noOut, if_neg noRef]
      exact readExprList_follows fits within (by omega) close
termination_by steps

theorem readExprList_follows (fits : IntsInRange (marked lexed)) {tokens : Tokens}
    (within : tokens <:+ lexed.tokens) {steps : Nat} (enough : 32 * tokens.length + 10 < steps)
    (close : Token) :
    Follows lexed (Script.readExprList lexed.lastLine close tokens)
      (readExprList (marked lexed) steps close (place lexed tokens)) := by
  match steps with
  | steps + 1 =>
    rw [Script.readExprList, readExprList, bind_of_ends (peek_place within)]
    by_cases closed : next? tokens = some close
    · rw [if_pos closed, if_pos closed]
      exact .found [] tokens _ within
    · rw [if_neg closed, if_neg closed]
      exact (readExprs_follows fits within (by omega)).rebound fun _ _ _ => ⟨_, rfl⟩
termination_by steps

theorem readExprs_follows (fits : IntsInRange (marked lexed)) {tokens : Tokens}
    (within : tokens <:+ lexed.tokens) {steps : Nat} (enough : 32 * tokens.length + 9 < steps) :
    Follows lexed (Script.readExprs lexed.lastLine tokens)
      (readExprs (marked lexed) steps (place lexed tokens)) := by
  match steps with
  | steps + 1 =>
    rw [Script.readExprs, readExprs]
    refine (readExpr_follows fits within (by omega)).bind fun expr rest fewer within => ?_
    dsimp only
    match rest with
    | [] =>
      rw [bind_of_ends (peek_place within)]
      exact .found [expr] [] _ within
    | ⟨line, token⟩ :: more =>
      rw [bind_of_ends (peek_cons within)]
      have shorter : more.length + 1 < tokens.length := fewer
      cases token with
      | comma =>
        dsimp only
        rw [bind_of_ends (advance_cons within)]
        refine (readExprs_follows fits (within_rest within) (by omega)).bind
          fun exprs after _ within => ?_
        exact .found _ after _ within
      | _ => exact .found [expr] _ _ within
termination_by steps

theorem readPrimary_follows (fits : IntsInRange (marked lexed)) {tokens : Tokens}
    (within : tokens <:+ lexed.tokens) {steps : Nat} (enough : 32 * tokens.length + 3 < steps) :
    Follows lexed (Script.readPrimary lexed.lastLine tokens)
      (readPrimary (marked lexed) steps (place lexed tokens)) := by
  match steps with
  | steps + 1 =>
    rw [readPrimary]
    match tokens with
    | [] =>
      rw [Script.readPrimary, bind_of_ends (advance_nil lexed)]
      exact .fault _
    | ⟨line, token⟩ :: rest =>
      rw [List.length_cons] at enough
      rw [bind_of_ends (advance_cons within), Script.readPrimary.eq_def]
      cases token with
      | int value => exact .found _ rest _ (within_rest within)
      | float value => exact .found _ rest _ (within_rest within)
      | str value => exact .found _ rest _ (within_rest within)
      | char value => exact .found _ rest _ (within_rest within)
      | lParen =>
        refine (readExpr_follows fits (within_rest within) (by omega)).bind
          fun inner atClose fewer within => ?_
        refine (expect_follows within _ _).bind fun _ after _ within => ?_
        exact .found _ after _ within
      | word word =>
        dsimp only [literal?, Option.bind_some]
        by_cases isTrue : word = "true"
        · rw [if_pos isTrue, if_pos isTrue]
          exact .found _ rest _ (within_rest within)
        by_cases isFalse : word = "false"
        · rw [if_neg isTrue, if_neg isTrue, if_pos isFalse, if_pos isFalse]
          exact .found _ rest _ (within_rest within)
        by_cases isNull : word = "null"
        · rw [if_neg isTrue, if_neg isTrue, if_neg isFalse, if_neg isFalse, if_pos isNull,
            if_pos isNull]
          exact .found _ rest _ (within_rest within)
        rw [if_neg isTrue, if_neg isTrue, if_neg isFalse, if_neg isFalse, if_neg isNull,
          if_neg isNull]
        by_cases isNew : word = "new"
        · rw [if_pos isNew, if_pos isNew]
          exact (readCreation_follows fits (within_rest within) (by omega)).rebound
            fun _ _ _ => ⟨_, rfl⟩
        rw [if_neg isNew, if_neg isNew]
        by_cases reserved : isReserved word = true
        · rw [if_pos reserved, if_pos reserved]
          exact .fault _
        · rw [if_neg reserved, if_neg reserved]
          exact .found _ rest _ (within_rest within)
      | _ => exact .fault _
termination_by steps

theorem readCreation_follows (fits : IntsInRange (marked lexed)) {tokens : Tokens}
    (within : tokens <:+ lexed.tokens) {steps : Nat} (enough : 32 * tokens.length + 2 < steps) :
    Follows lexed (Script.readCreation lexed.lastLine tokens)
      (readCreation (marked lexed) steps (place lexed tokens)) := by
  match steps with
  | steps + 1 =>
    rw [Script.readCreation, readCreation]
    refine (readTypeName_follows within (by omega)).bind fun type rest fewer within => ?_
    dsimp only
    match rest with
    | [] =>
      rw [bind_of_ends (peek_place within)]
      exact faultHere_follows within _
    | ⟨line, token⟩ :: more =>
      rw [bind_of_ends (peek_cons within)]
      have shorter : more.length + 1 < tokens.length := fewer
      cases token with
      | lParen =>
        dsimp only
        rw [bind_of_ends (advance_cons within)]
        refine (readArgs_follows fits (within_rest within) (by omega) .rParen).bind
          fun args atClose fewer₁ within => ?_
        refine (expect_follows within _ _).bind fun _ after fewer₂ within => ?_
        dsimp only
        rw [bind_of_ends (peek_place within)]
        by_cases isBrace : next? after = some .lBrace
        · rw [if_pos isBrace, if_pos isBrace]
          exact faultHere_follows within _
        · rw [if_neg isBrace, if_neg isBrace]
          exact .found _ after _ within
      | _ => exact faultHere_follows within _
termination_by steps

end

end Storefront.Script.Cursor
