import Storefront.Proofs.CursorStmt
import Storefront.Proofs.FollowExpr
import Storefront.Proofs.LocalStmt

/-!
The machine follows the readers of statements and of whole procedures.
-/

namespace Storefront.Script.Cursor

variable {lexed : Lexed} {tokens : Tokens}

/-! ### Parts without statements -/

theorem expectWord_follows (within : tokens <:+ lexed.tokens) (word : String) (missing : Fault) :
    Follows lexed (Script.readWord lexed.lastLine word missing tokens)
      (expectWord (marked lexed) word missing (place lexed tokens)) := by
  rw [expectWord]
  by_cases isNext : next? tokens = some (.word word)
  · obtain ⟨line, rest, rfl⟩ := next?_eq_some.mp isNext
    rw [bind_of_ends (eatWord_cons within), Script.readWord, if_pos rfl, if_pos rfl]
    exact .found () rest _ (within_rest within)
  · rw [bind_of_ends (eatWord_other within isNext), if_neg Bool.false_ne_true]
    match tokens with
    | [] => exact faultHere_follows within _
    | ⟨line, token⟩ :: rest =>
      rw [Script.readWord, if_neg (fun same => isNext (congrArg some same))]
      exact faultHere_follows within _

/-- Without a label the machine stays where it is. -/
theorem readLabels_none (within : tokens <:+ lexed.tokens) {steps : Nat} (enough : 0 < steps)
    (noLabel : startsLabel tokens = false) :
    readLabels (marked lexed) steps (place lexed tokens) =
      some (.ok ([], place lexed tokens)) := by
  obtain ⟨fewer, rfl⟩ := Nat.exists_eq_succ_of_ne_zero (Nat.ne_of_gt enough)
  simp only [startsLabel, Bool.or_eq_false_iff, decide_eq_false_iff_not] at noLabel
  rw [readLabels, bind_of_ends (eatWord_other within noLabel.1), if_neg Bool.false_ne_true,
    bind_of_ends (eatWord_other within noLabel.2), if_neg Bool.false_ne_true]
  rfl

section Parts

variable (fits : IntsInRange (marked lexed))

include fits

theorem readInParens_follows (within : tokens <:+ lexed.tokens) {steps : Nat}
    (enough : 32 * tokens.length + 12 < steps) :
    Follows lexed (Script.readInParens lexed.lastLine tokens)
      (readInParens (marked lexed) steps (place lexed tokens)) := by
  rw [Script.readInParens, readInParens]
  refine (expect_follows within _ _).bind fun _ rest fewer within => ?_
  refine (readExpr_follows fits within (by omega)).bind fun expr atClose _ within => ?_
  refine (expect_follows within _ _).bind fun _ after _ within => ?_
  exact .found expr after _ within

theorem readInit_follows (within : tokens <:+ lexed.tokens) {steps : Nat}
    (enough : 32 * tokens.length + 12 < steps) :
    Follows lexed (Script.readInit lexed.lastLine tokens)
      (readInit (marked lexed) steps (place lexed tokens)) := by
  rw [readInit, bind_of_ends (peek_place within)]
  match tokens with
  | [] => exact .found none [] _ within
  | ⟨line, token⟩ :: rest =>
    rw [List.length_cons] at enough
    cases token with
    | assign op =>
      cases op with
      | some op => exact .found none _ _ within
      | none =>
        rw [Script.readInit]
        dsimp only [next?, List.head?_cons, Option.map_some]
        rw [bind_of_ends (advance_cons within)]
        refine (readExpr_follows fits (within_rest within) (by omega)).bind
          fun init after _ within => ?_
        exact .found (some init) after _ within
    | _ => exact .found none _ _ within

theorem readDeclarators_follows (within : tokens <:+ lexed.tokens) {steps : Nat}
    (enough : 32 * tokens.length + 12 < steps) :
    Follows lexed (Script.readDeclarators lexed.lastLine tokens)
      (readDeclarators (marked lexed) steps (place lexed tokens)) := by
  induction steps generalizing tokens with
  | zero => exact absurd enough (Nat.not_lt_zero _)
  | succ steps inductionHypothesis =>
    rw [Script.readDeclarators, readDeclarators]
    refine (readName_follows within).bind fun name afterName fewer₁ within => ?_
    refine (readInit_follows fits within (by omega)).bind fun init rest fewer₂ within => ?_
    dsimp only
    cases rest with
    | nil =>
      rw [bind_of_ends (peek_place within)]
      exact .found _ [] _ within
    | cons first more =>
      obtain ⟨line, token⟩ := first
      rw [bind_of_ends (peek_cons within)]
      have shorter : more.length + 1 < afterName.length + 1 := fewer₂
      cases token with
      | comma =>
        dsimp only
        rw [bind_of_ends (advance_cons within)]
        refine (inductionHypothesis (within_rest within) (by omega)).bind
          fun vars after _ within => ?_
        exact .found _ after _ within
      | _ => exact .found _ _ _ within

theorem readLocalDecl_follows (within : tokens <:+ lexed.tokens) {steps : Nat}
    (enough : 32 * tokens.length + 12 < steps) :
    Follows lexed (Script.readLocalDecl lexed.lastLine tokens)
      (readLocalDecl (marked lexed) steps (place lexed tokens)) := by
  rw [Script.readLocalDecl, readLocalDecl]
  refine (readTypeName_follows within (by omega)).bind fun type rest fewer within => ?_
  refine (readDeclarators_follows fits within (by omega)).bind fun vars after _ within => ?_
  exact .found _ after _ within

theorem readSimple_follows (within : tokens <:+ lexed.tokens) {steps : Nat}
    (enough : 32 * tokens.length + 12 < steps) :
    Follows lexed (Script.readSimple lexed.lastLine tokens)
      (readSimple (marked lexed) steps (place lexed tokens)) := by
  rw [Script.readSimple, readSimple, bind_of_ends (atDeclaration_place within (by omega))]
  by_cases declares : startsDeclaration tokens = true
  · rw [if_pos declares, if_pos declares]
    refine (readLocalDecl_follows fits within (by omega)).bind fun decl rest _ within => ?_
    refine (expect_follows within _ _).bind fun _ after _ within => ?_
    exact .found _ after _ within
  · rw [if_neg declares, if_neg declares]
    refine (readExpr_follows fits within (by omega)).bind fun expr rest _ within => ?_
    refine (expect_follows within _ _).bind fun _ after _ within => ?_
    exact .found _ after _ within

theorem readReturned_follows (within : tokens <:+ lexed.tokens) {steps : Nat}
    (enough : 32 * tokens.length + 12 < steps) :
    Follows lexed (Script.readReturned lexed.lastLine tokens)
      (readReturned (marked lexed) steps (place lexed tokens)) := by
  rw [readReturned, bind_of_ends (peek_place within)]
  by_cases isSemi : next? tokens = some .semi
  · rw [if_pos isSemi]
    obtain ⟨line, rest, rfl⟩ := next?_eq_some.mp isSemi
    rw [bind_of_ends (advance_cons within)]
    exact .found (Stmt.returnValue none) rest _ (within_rest within)
  · rw [if_neg isSemi, Script.readReturned.eq_2 lexed.lastLine tokens
      fun line rest same => isSemi (next?_eq_some.mpr ⟨line, rest, same⟩)]
    refine (readExpr_follows fits within (by omega)).bind fun value rest _ within => ?_
    refine (expect_follows within _ _).bind fun _ after _ within => ?_
    exact .found _ after _ within

theorem readForInit_follows (within : tokens <:+ lexed.tokens) {steps : Nat}
    (enough : 32 * tokens.length + 12 < steps) :
    Follows lexed (Script.readForInit lexed.lastLine tokens)
      (readForInit (marked lexed) steps (place lexed tokens)) := by
  rw [Script.readForInit, readForInit, bind_of_ends (peek_place within)]
  by_cases isSemi : next? tokens = some .semi
  · rw [if_pos isSemi, if_pos isSemi]
    exact .found none tokens _ within
  rw [if_neg isSemi, if_neg isSemi, bind_of_ends (atDeclaration_place within (by omega))]
  by_cases declares : startsDeclaration tokens = true
  · rw [if_pos declares, if_pos declares]
    refine (readLocalDecl_follows fits within (by omega)).bind fun decl rest _ within => ?_
    exact .found _ rest _ within
  · rw [if_neg declares, if_neg declares]
    refine (readExprList_follows fits within (by omega) _).bind fun exprs rest _ within => ?_
    exact .found _ rest _ within

theorem readForCondition_follows (within : tokens <:+ lexed.tokens) {steps : Nat}
    (enough : 32 * tokens.length + 12 < steps) :
    Follows lexed (Script.readForCondition lexed.lastLine tokens)
      (readForCondition (marked lexed) steps (place lexed tokens)) := by
  rw [Script.readForCondition, readForCondition, bind_of_ends (peek_place within)]
  by_cases isSemi : next? tokens = some .semi
  · rw [if_pos isSemi, if_pos isSemi]
    exact .found none tokens _ within
  · rw [if_neg isSemi, if_neg isSemi]
    refine (readExpr_follows fits within (by omega)).bind fun condition rest _ within => ?_
    exact .found _ rest _ within

theorem readForHead_follows (within : tokens <:+ lexed.tokens) {steps : Nat}
    (enough : 32 * tokens.length + 12 < steps) :
    Follows lexed (Script.readForHead lexed.lastLine tokens)
      (readForHead (marked lexed) steps (place lexed tokens)) := by
  rw [Script.readForHead, readForHead]
  refine (expect_follows within _ _).bind fun _ afterOpen _ within => ?_
  refine (readForInit_follows fits within (by omega)).bind fun init rest _ within => ?_
  refine (expect_follows within _ _).bind fun _ afterInit _ within => ?_
  refine (readForCondition_follows fits within (by omega)).bind fun condition rest _ within => ?_
  refine (expect_follows within _ _).bind fun _ afterCondition _ within => ?_
  refine (readExprList_follows fits within (by omega) _).bind fun step rest _ within => ?_
  refine (expect_follows within _ _).bind fun _ after _ within => ?_
  exact .found _ after _ within

theorem readForeachHead_follows (within : tokens <:+ lexed.tokens) {steps : Nat}
    (enough : 32 * tokens.length + 12 < steps) :
    Follows lexed (Script.readForeachHead lexed.lastLine tokens)
      (readForeachHead (marked lexed) steps (place lexed tokens)) := by
  rw [Script.readForeachHead, readForeachHead]
  refine (expect_follows within _ _).bind fun _ afterOpen _ within => ?_
  refine (readTypeName_follows within (by omega)).bind fun type afterType _ within => ?_
  refine (readName_follows within).bind fun name afterName _ within => ?_
  refine (expectWord_follows within _ _).bind fun _ afterIn _ within => ?_
  refine (readExpr_follows fits within (by omega)).bind fun iterated rest _ within => ?_
  refine (expect_follows within _ _).bind fun _ after _ within => ?_
  exact .found _ after _ within

/-! ### Labels -/

theorem readCase_follows (within : tokens <:+ lexed.tokens) {steps : Nat}
    (enough : 32 * tokens.length + 12 < steps) :
    Follows lexed (Script.readCase lexed.lastLine tokens)
      (readCase (marked lexed) steps (place lexed tokens)) := by
  rw [Script.readCase, readCase]
  refine (readExpr_follows fits within (by omega)).bind fun value rest _ within => ?_
  dsimp only
  rw [bind_of_ends (peek_place within)]
  by_cases isGuard : next? rest = some (.word "when")
  · rw [if_pos isGuard, if_pos isGuard]
    exact faultHere_follows within _
  · rw [if_neg isGuard, if_neg isGuard]
    refine (expect_follows within _ _).bind fun _ after _ within => ?_
    exact .found _ after _ within

theorem readLabels_follows (within : tokens <:+ lexed.tokens) {steps : Nat}
    (enough : 32 * tokens.length + 13 < steps) (starts : startsLabel tokens = true) :
    Follows lexed (Script.readLabels lexed.lastLine tokens)
      (readLabels (marked lexed) steps (place lexed tokens)) := by
  induction steps generalizing tokens with
  | zero => exact absurd enough (Nat.not_lt_zero _)
  | succ steps inductionHypothesis =>
    have further {run : Run CaseLabel} {position : Nat}
        (first : Follows lexed (Script.readLabel lexed.lastLine tokens) (run position)) :
        Follows lexed (Script.readLabels lexed.lastLine tokens)
          ((run >>= fun label => readLabels (marked lexed) steps >>= fun labels =>
            pure (label :: labels)) position) := by
      rw [Script.readLabels]
      refine first.bind fun label rest fewer within => ?_
      dsimp only
      cases more : startsLabel rest with
      | true =>
        refine (inductionHypothesis within (by omega) more).bind fun labels after _ within => ?_
        exact .found _ after _ within
      | false =>
        rw [bind_of_ends (readLabels_none within (by omega) more)]
        exact .found _ rest _ within
    simp only [startsLabel, Bool.or_eq_true, decide_eq_true_eq] at starts
    obtain isCase | isDefault := starts
    · obtain ⟨line, rest, rfl⟩ := next?_eq_some.mp isCase
      rw [readLabels, bind_of_ends (eatWord_cons within), if_pos rfl]
      rw [List.length_cons] at enough
      refine further ?_
      rw [Script.readLabel]
      exact (readCase_follows fits (within_rest within) (by omega)).rebound fun _ _ _ => ⟨_, rfl⟩
    · obtain ⟨line, rest, rfl⟩ := next?_eq_some.mp isDefault
      rw [readLabels, bind_of_ends (eatWord_otherWord within (by decide)),
        if_neg Bool.false_ne_true, bind_of_ends (eatWord_cons within), if_pos rfl]
      refine further ?_
      rw [Script.readLabel, readDefault]
      refine (expect_follows (within_rest within) _ _).bind fun _ after _ within => ?_
      exact .found _ after _ within

end Parts

/-! ### Statements -/

theorem readLabel_none {lastLine : Nat} (noLabel : startsLabel tokens = false) :
    Script.readLabel lastLine tokens =
      faultAt lastLine tokens (.expected "'case' or 'default'" (next? tokens)) := by
  simp only [startsLabel, Bool.or_eq_false_iff, decide_eq_false_iff_not] at noLabel
  refine Script.readLabel.eq_3 lastLine tokens ?_ ?_
  · rintro line rest rfl
    exact noLabel.1 rfl
  · rintro line rest rfl
    exact noLabel.2 rfl

/-- Where labels are read there is at least one. -/
theorem readLabels_ensures {lastLine : Nat} (tokens : Tokens) :
    Ensures (Script.readLabels lastLine tokens) fun labels _ => labels.isEmpty = false := by
  have anything {β : Type} {bound : Nat} (read : Read β bound) :
      Ensures read fun _ _ => True := fun _ _ _ => trivial
  rw [Script.readLabels]
  refine (anything _).bind fun label rest fewer _ => ?_
  dsimp only
  split
  · exact (anything _).bind fun labels after _ _ => Ensures.ok rfl
  · exact Ensures.ok rfl

section Listed

variable {α : Type} {listed : List (String × Run α)} {otherwise : Run α}

theorem firstWord_listed {line : Nat} {word : String} {rest : Tokens} {goesOn : Run α}
    (within : ⟨line, .word word⟩ :: rest <:+ lexed.tokens)
    (isListed : listed.lookup word = some goesOn) :
    firstWord (marked lexed) listed otherwise (place lexed (⟨line, .word word⟩ :: rest)) =
      goesOn (place lexed rest) := by
  induction listed with
  | nil => cases isListed
  | cons entry listed inductionHypothesis =>
    obtain ⟨key, first⟩ := entry
    rw [firstWord]
    by_cases same : word = key
    · subst same
      rw [List.lookup_cons_self] at isListed
      rw [bind_of_ends (eatWord_cons within), if_pos rfl, Option.some.inj isListed]
    · rw [List.lookup_cons, beq_false_of_ne same] at isListed
      rw [bind_of_ends (eatWord_otherWord within same), if_neg Bool.false_ne_true]
      exact inductionHypothesis isListed

theorem firstWord_otherwise (within : tokens <:+ lexed.tokens)
    (noneNext : ∀ word ∈ listed.map Prod.fst, next? tokens ≠ some (.word word)) :
    firstWord (marked lexed) listed otherwise (place lexed tokens) =
      otherwise (place lexed tokens) := by
  induction listed with
  | nil => rfl
  | cons entry listed inductionHypothesis =>
    obtain ⟨other, noneBehind⟩ := List.forall_mem_cons.mp noneNext
    rw [firstWord, bind_of_ends (eatWord_other within other), if_neg Bool.false_ne_true]
    exact inductionHypothesis noneBehind

end Listed

/-- A word is no brace and no semicolon. -/
theorem choice_at_word {Choice : Type} {line : Nat} {word : String} {rest : Tokens}
    {block empty other : Choice} :
    (if next? (⟨line, .word word⟩ :: rest) = some .lBrace then block
      else if next? (⟨line, .word word⟩ :: rest) = some .semi then empty else other) = other := by
  rw [if_neg (fun same => nomatch same), if_neg (fun same => nomatch same)]

/-- What starts a declaration or an expression starts with no brace, semicolon or keyword. -/
theorem other_of_startsSimple {next : Option Token} (simple : startsSimple next = true) :
    next ≠ some .lBrace ∧ next ≠ some .semi ∧
      ∀ word ∈ statementWords, next ≠ some (.word word) := by
  refine ⟨?_, ?_, ?_⟩
  · rintro rfl
    cases simple
  · rintro rfl
    cases simple
  · rintro word own rfl
    obtain ⟨other, -⟩ := Bool.and_eq_true_iff.mp simple
    exact absurd own (by simpa using other)

theorem readOther_of_simple (within : tokens <:+ lexed.tokens) (steps : Nat)
    (simple : startsSimple (next? tokens) = true) :
    readOther (marked lexed) steps (place lexed tokens) =
      readSimple (marked lexed) steps (place lexed tokens) := by
  rw [readOther, bind_of_ends (peek_place within)]
  cases isNext : next? tokens with
  | none => rfl
  | some token =>
    cases token with
    | word word =>
      rw [isNext] at simple
      obtain ⟨-, supported⟩ := Bool.and_eq_true_iff.mp simple
      exact congrFun (if_neg (by simpa using supported)) _
    | _ => rfl

mutual

theorem readStmt_follows (fits : IntsInRange (marked lexed)) {tokens : Tokens}
    (within : tokens <:+ lexed.tokens) {steps : Nat} (enough : 32 * tokens.length + 20 < steps) :
    Follows lexed (Script.readStmt lexed.lastLine tokens)
      (readStmt (marked lexed) steps (place lexed tokens)) := by
  match steps with
  | steps + 1 =>
    rw [readStmt, bind_of_ends (peek_place within)]
    cases Start.of tokens with
    | block line rest =>
      have isNext : next? (⟨line, .lBrace⟩ :: rest) = some .lBrace := rfl
      rw [Script.readStmt, if_pos isNext, bind_of_ends (expect_cons within _)]
      rw [List.length_cons] at enough
      refine (readBlock_follows fits (within_rest within) (by omega) _).bind
        fun body after _ within => ?_
      exact .found _ after _ within
    | empty line rest =>
      have isNext : next? (⟨line, .semi⟩ :: rest) = some .semi := rfl
      rw [Script.readStmt, if_neg (fun same => nomatch same), if_pos isNext,
        bind_of_ends (advance_cons within)]
      exact .found _ rest _ (within_rest within)
    | branch line rest =>
      rw [Script.readStmt, if_pos rfl, choice_at_word, firstWord_listed within rfl]
      rw [List.length_cons] at enough
      exact (readBranch_follows fits (within_rest within) (by omega)).rebound fun _ _ _ => ⟨_, rfl⟩
    | switch line rest =>
      rw [Script.readStmt]
      simp only [String.reduceEq, ↓reduceIte]
      rw [choice_at_word, firstWord_listed within rfl]
      rw [List.length_cons] at enough
      exact (readSwitch_follows fits (within_rest within) (by omega)).rebound fun _ _ _ => ⟨_, rfl⟩
    | forLoop line rest =>
      rw [Script.readStmt]
      simp only [String.reduceEq, ↓reduceIte]
      rw [choice_at_word, firstWord_listed within rfl]
      rw [List.length_cons] at enough
      refine (readForHead_follows fits (within_rest within) (by omega)).bind
        fun head afterHead fewer within => ?_
      refine (readStmt_follows fits within (by omega)).bind fun body after _ within => ?_
      exact .found _ after _ within
    | foreach line rest =>
      rw [Script.readStmt]
      simp only [String.reduceEq, ↓reduceIte]
      rw [choice_at_word, firstWord_listed within rfl]
      rw [List.length_cons] at enough
      refine (readForeachHead_follows fits (within_rest within) (by omega)).bind
        fun head afterHead fewer within => ?_
      refine (readStmt_follows fits within (by omega)).bind fun body after _ within => ?_
      exact .found _ after _ within
    | whileLoop line rest =>
      rw [Script.readStmt]
      simp only [String.reduceEq, ↓reduceIte]
      rw [choice_at_word, firstWord_listed within rfl]
      rw [List.length_cons] at enough
      refine (readInParens_follows fits (within_rest within) (by omega)).bind
        fun head afterHead fewer within => ?_
      refine (readStmt_follows fits within (by omega)).bind fun body after _ within => ?_
      exact .found _ after _ within
    | doWhile line rest =>
      rw [Script.readStmt]
      simp only [String.reduceEq, ↓reduceIte]
      rw [choice_at_word, firstWord_listed within rfl]
      rw [List.length_cons] at enough
      exact (readDoWhile_follows fits (within_rest within) (by omega)).rebound fun _ _ _ => ⟨_, rfl⟩
    | breakOut line rest | continueLoop line rest =>
      rw [Script.readStmt]
      simp only [String.reduceEq, ↓reduceIte]
      rw [choice_at_word, firstWord_listed within rfl]
      rw [endWord]
      refine (expect_follows (within_rest within) _ _).bind fun _ after _ within => ?_
      exact .found _ after _ within
    | returnValue line rest =>
      rw [Script.readStmt]
      simp only [String.reduceEq, ↓reduceIte]
      rw [choice_at_word, firstWord_listed within rfl]
      rw [List.length_cons] at enough
      exact (readReturned_follows fits (within_rest within) (by omega)).rebound
        fun _ _ _ => ⟨_, rfl⟩
    | unsupported line word rest other listed =>
      rw [readStmt_otherWord lexed.lastLine other, if_pos listed, choice_at_word,
        firstWord_otherwise within, readOther, bind_of_ends (peek_place within)]
      · dsimp only [next?, List.head?_cons, Option.map_some]
        rw [if_pos listed]
        exact faultHere_follows within _
      · rintro found own same
        obtain rfl := Token.word.inj (Option.some.inj same)
        exact other own
    | simple simple =>
      obtain ⟨noBrace, noSemi, noWord⟩ := other_of_startsSimple simple
      rw [readStmt_of_simple lexed.lastLine simple, if_neg noBrace, if_neg noSemi,
        firstWord_otherwise within, readOther_of_simple within steps simple]
      · exact readSimple_follows fits within (by omega)
      · exact noWord
termination_by steps

theorem readBranch_follows (fits : IntsInRange (marked lexed)) {tokens : Tokens}
    (within : tokens <:+ lexed.tokens) {steps : Nat} (enough : 32 * tokens.length + 14 < steps) :
    Follows lexed (Script.readBranch lexed.lastLine tokens)
      (readBranch (marked lexed) steps (place lexed tokens)) := by
  match steps with
  | steps + 1 =>
    rw [Script.readBranch, readBranch]
    refine (readInParens_follows fits within (by omega)).bind
      fun condition afterHead fewer₁ within => ?_
    refine (readStmt_follows fits within (by omega)).bind fun whenTrue rest fewer₂ within => ?_
    dsimp only
    by_cases hasElse : next? rest = some (.word "else")
    · rw [if_pos hasElse]
      obtain ⟨line, more, rfl⟩ := next?_eq_some.mp hasElse
      rw [bind_of_ends (eatWord_cons within), if_pos rfl]
      rw [List.length_cons] at fewer₂
      refine (readStmt_follows fits (within_rest within) (by omega)).bind
        fun whenFalse after _ within => ?_
      exact .found _ after _ within
    · rw [if_neg hasElse, bind_of_ends (eatWord_other within hasElse),
        if_neg Bool.false_ne_true]
      exact .found _ rest _ within
termination_by steps

theorem readDoWhile_follows (fits : IntsInRange (marked lexed)) {tokens : Tokens}
    (within : tokens <:+ lexed.tokens) {steps : Nat} (enough : 32 * tokens.length + 21 < steps) :
    Follows lexed (Script.readDoWhile lexed.lastLine tokens)
      (readDoWhile (marked lexed) steps (place lexed tokens)) := by
  match steps with
  | steps + 1 =>
    rw [Script.readDoWhile, readDoWhile]
    refine (readStmt_follows fits within (by omega)).bind fun body rest fewer₁ within => ?_
    refine (expectWord_follows within _ _).bind fun _ afterWhile fewer₂ within => ?_
    refine (readInParens_follows fits within (by omega)).bind fun condition rest _ within => ?_
    refine (expect_follows within _ _).bind fun _ after _ within => ?_
    exact .found _ after _ within
termination_by steps

theorem readBlock_follows (fits : IntsInRange (marked lexed)) {tokens : Tokens}
    (within : tokens <:+ lexed.tokens) {steps : Nat} (enough : 32 * tokens.length + 22 < steps)
    (what : String) :
    Follows lexed (Script.readBlock lexed.lastLine what tokens)
      (readBlock (marked lexed) steps what (place lexed tokens)) := by
  match steps with
  | steps + 1 =>
    rw [Script.readBlock, readBlock]
    refine (readStmts_follows fits within (by omega)).bind fun body atClose _ within => ?_
    refine (expect_follows within _ _).bind fun _ after _ within => ?_
    exact .found body after _ within
termination_by steps

theorem readStmts_follows (fits : IntsInRange (marked lexed)) {tokens : Tokens}
    (within : tokens <:+ lexed.tokens) {steps : Nat} (enough : 32 * tokens.length + 21 < steps) :
    Follows lexed (Script.readStmts lexed.lastLine tokens)
      (readStmts (marked lexed) steps (place lexed tokens)) := by
  match steps with
  | steps + 1 =>
    rw [Script.readStmts, readStmts, bind_of_ends (peek_place within)]
    split
    · next closed =>
      rw [if_pos closed]
      exact .found [] tokens _ within
    · next ended =>
      rw [ended, if_neg (fun same => nomatch same), if_pos rfl]
      exact faultHere_follows within _
    · next token isOpen isNext =>
      rw [isNext, if_neg (fun closed => isOpen (Option.some.inj closed)),
        if_neg (Option.some_ne_none token)]
      refine (readStmt_follows fits within (by omega)).bind fun stmt rest fewer within => ?_
      refine (readStmts_follows fits within (by omega)).bind fun stmts after _ within => ?_
      exact .found _ after _ within
termination_by steps

theorem readSwitch_follows (fits : IntsInRange (marked lexed)) {tokens : Tokens}
    (within : tokens <:+ lexed.tokens) {steps : Nat} (enough : 32 * tokens.length + 14 < steps) :
    Follows lexed (Script.readSwitch lexed.lastLine tokens)
      (readSwitch (marked lexed) steps (place lexed tokens)) := by
  match steps with
  | steps + 1 =>
    rw [Script.readSwitch, readSwitch]
    refine (readInParens_follows fits within (by omega)).bind
      fun scrutinee afterHead fewer₁ within => ?_
    refine (expect_follows within _ _).bind fun _ afterOpen fewer₂ within => ?_
    refine (readSections_follows fits within (by omega)).bind
      fun sections atClose _ within => ?_
    refine (expect_follows within _ _).bind fun _ after _ within => ?_
    exact .found _ after _ within
termination_by steps

theorem readSections_follows (fits : IntsInRange (marked lexed)) {tokens : Tokens}
    (within : tokens <:+ lexed.tokens) {steps : Nat} (enough : 32 * tokens.length + 14 < steps) :
    Follows lexed (Script.readSections lexed.lastLine tokens)
      (readSections (marked lexed) steps (place lexed tokens)) := by
  match steps with
  | steps + 1 =>
    rw [Script.readSections, readSections, bind_of_ends (peek_place within)]
    by_cases closed : next? tokens = some .rBrace
    · rw [if_pos closed, if_pos closed]
      exact .found [] tokens _ within
    rw [if_neg closed, if_neg closed]
    cases starts : startsLabel tokens with
    | true =>
      refine (readLabels_follows fits within (by omega) starts).bind_ensured
        (readLabels_ensures tokens) fun labels afterLabels fewer₁ within some => ?_
      dsimp only
      rw [if_neg (Bool.eq_false_iff.mp some)]
      refine (readSectionBody_follows fits within (by omega)).bind fun body rest fewer₂ within => ?_
      refine (readSections_follows fits within (by omega)).bind fun sections after _ within => ?_
      exact .found _ after _ within
    | false =>
      rw [bind_of_ends (readLabels_none within (by omega) starts), Script.readLabels,
        readLabel_none starts, if_pos List.isEmpty_nil, bind_of_ends (peek_place within)]
      exact faultHere_follows within _
termination_by steps

theorem readSectionBody_follows (fits : IntsInRange (marked lexed)) {tokens : Tokens}
    (within : tokens <:+ lexed.tokens) {steps : Nat} (enough : 32 * tokens.length + 21 < steps) :
    Follows lexed (Script.readSectionBody lexed.lastLine tokens)
      (readSectionBody (marked lexed) steps (place lexed tokens)) := by
  match steps with
  | steps + 1 =>
    rw [Script.readSectionBody, readSectionBody, bind_of_ends (peek_place within)]
    by_cases stops : next? tokens = some (.word "case") ∨ next? tokens = some (.word "default") ∨
        next? tokens = some .rBrace
    · rw [if_pos stops, if_pos (by simpa [startsLabel, or_assoc] using stops)]
      exact .found [] tokens _ within
    rw [if_neg stops, if_neg (by simpa [startsLabel, or_assoc] using stops)]
    match tokens with
    | [] =>
      have ended : next? [] = none := rfl
      rw [if_pos List.isEmpty_nil, if_pos ended]
      exact faultHere_follows within _
    | token :: more =>
      have goesOn : next? (token :: more) ≠ none := Option.some_ne_none _
      rw [if_neg (Bool.eq_false_iff.mp List.isEmpty_cons), if_neg goesOn]
      refine (readStmt_follows fits within (by omega)).bind fun stmt rest fewer within => ?_
      refine (readSectionBody_follows fits within (by omega)).bind fun stmts after _ within => ?_
      exact .found _ after _ within
termination_by steps

end

end Storefront.Script.Cursor
