import Storefront.Proofs.Readers

/-!
What a reader looks at. A reader that succeeds depends on the tokens that it takes and on what it
sees behind them, but not on lines, and not on whether the text ends there or a closing brace stands
there: no rule of the grammar starts with one or goes on with one. So a run can be repeated in front
of other tokens, and a run of readers one after the other is repeated step by step.
-/

namespace Storefront.Script

/-! ### Alike tokens -/

/-- Tokens that differ in nothing but their lines. -/
def SameTokens (first second : Tokens) : Prop :=
  first.map Located.value = second.map Located.value

/-- Tokens that differ in nothing but their lines and a closing brace at the end of one of them. -/
inductive Alike : Tokens → Tokens → Prop where
  | ended : Alike [] []
  | opened (line : Nat) : Alike [] [⟨line, .rBrace⟩]
  | closed (line : Nat) : Alike [⟨line, .rBrace⟩] []
  | cons (line line' : Nat) (token : Token) {rest rest' : Tokens} (alike : Alike rest rest') :
    Alike (⟨line, token⟩ :: rest) (⟨line', token⟩ :: rest')

theorem Alike.append {front front' rest rest' : Tokens} (same : SameTokens front front')
    (alike : Alike rest rest') : Alike (front ++ rest) (front' ++ rest') := by
  induction front generalizing front' with
  | nil =>
    obtain rfl := List.map_eq_nil_iff.mp same.symm
    exact alike
  | cons token front inductionHypothesis =>
    cases front' with
    | nil => cases same
    | cons token' front' =>
      obtain ⟨line, value⟩ := token
      obtain ⟨line', value'⟩ := token'
      obtain ⟨sameValue, sameRest⟩ := List.cons.inj same
      obtain rfl : value = value' := sameValue
      exact .cons line line' value (inductionHypothesis sameRest)

/-- No token but a closing brace comes next in only one of two alike lists. -/
theorem Alike.next {tokens tokens' : Tokens} (alike : Alike tokens tokens') {token : Token}
    (noBrace : token ≠ .rBrace) : next? tokens = some token ↔ next? tokens' = some token := by
  cases alike with
  | ended => exact Iff.rfl
  | opened line =>
    exact ⟨fun none => (nomatch none), fun brace => absurd (Option.some.inj brace).symm noBrace⟩
  | closed line =>
    exact ⟨fun brace => absurd (Option.some.inj brace).symm noBrace, fun none => (nomatch none)⟩
  | cons => exact Iff.rfl

/-- What holds of a closing brace and of the next token in one of two alike lists holds of the next
token in the other. -/
theorem Alike.forall_next {tokens tokens' : Tokens} (alike : Alike tokens tokens')
    {condition : Token → Prop} (brace : condition .rBrace)
    (holds : ∀ token ∈ next? tokens, condition token) :
    ∀ token ∈ next? tokens', condition token := by
  cases alike with
  | ended => exact holds
  | opened line =>
    rintro _ ⟨⟩
    exact brace
  | closed line => exact fun _ none => nomatch none
  | cons line line' token alike => exact holds

/-- Tokens that are alike, and where `met` also the next one is the same. -/
def Related (met : Bool) (tokens tokens' : Tokens) : Prop :=
  Alike tokens tokens' ∧ (met = true → next? tokens = next? tokens')

theorem Related.append {met : Bool} {front front' rest rest' : Tokens}
    (same : SameTokens front front') (related : Related met rest rest') :
    Related met (front ++ rest) (front' ++ rest') := by
  refine ⟨related.1.append same, fun isMet => ?_⟩
  cases front with
  | nil =>
    obtain rfl := List.map_eq_nil_iff.mp same.symm
    exact related.2 isMet
  | cons token front =>
    cases front' with
    | nil => cases same
    | cons token' front' => exact congrArg some (List.cons.inj same).1

/-! ### Runs that can be repeated -/

section Local

variable {α β : Type} {met : Bool} {tokens rest : Tokens}

/-- From `tokens` a value was read and `rest` was left, and `again` holds of the same with other
tokens left that are related to these. -/
def Local (met : Bool) (tokens : Tokens) (again : Tokens → α → Tokens → Prop) (value : α)
    (rest : Tokens) : Prop :=
  ∃ front, tokens = front ++ rest ∧
    ∀ front' rest', SameTokens front front' → Related met rest rest' →
      again (front' ++ rest') value rest'

/-- A run that takes nothing. -/
theorem Local.nothing {again : Tokens → α → Tokens → Prop} {value : α}
    (repeated : ∀ tokens', Related met tokens tokens' → again tokens' value tokens') :
    Local met tokens again value tokens := by
  refine ⟨[], rfl, fun front' rest' same related => ?_⟩
  obtain rfl := List.map_eq_nil_iff.mp same.symm
  exact repeated rest' related

/-- A run that takes one token. -/
theorem Local.token {again : Tokens → α → Tokens → Prop} {value : α} {token : Token} {line : Nat}
    (repeated : ∀ line' rest', Related met rest rest' →
      again (⟨line', token⟩ :: rest') value rest') :
    Local met (⟨line, token⟩ :: rest) again value rest := by
  refine ⟨[⟨line, token⟩], rfl, fun front' rest' same related => ?_⟩
  obtain ⟨⟨line', value'⟩, rfl, isToken⟩ := List.map_eq_singleton_iff.mp same.symm
  obtain rfl := isToken
  exact repeated line' rest' related

/-- What is repeated may be weakened, knowing that all tokens are alike. -/
theorem Local.imp {again : Tokens → α → Tokens → Prop} {weaker : Tokens → β → Tokens → Prop}
    {value : α} {whole : β} (run : Local met tokens again value rest)
    (imp : ∀ tokens' rest', Alike tokens tokens' → Related met rest rest' →
      again tokens' value rest' → weaker tokens' whole rest') :
    Local met tokens weaker whole rest := by
  obtain ⟨front, rfl, repeated⟩ := run
  refine ⟨front, rfl, fun front' rest' same related => ?_⟩
  exact imp _ _ (related.1.append same) related (repeated front' rest' same related)

/-- One run after another. -/
theorem Local.trans {before : Bool} {again : Tokens → α → Tokens → Prop}
    {againAfter : Tokens → β → Tokens → Prop} {first : α} {second : β} {middle : Tokens}
    (one : Local before tokens again first middle) (other : Local met middle againAfter second rest)
    (meets : before = true → met = true) :
    Local met tokens (fun tokens' value rest' => ∃ middle', Related before middle middle' ∧
      again tokens' first middle' ∧ againAfter middle' value rest') second rest := by
  obtain ⟨front, rfl, repeated⟩ := one
  obtain ⟨further, rfl, repeatedAfter⟩ := other
  refine ⟨front ++ further, (List.append_assoc _ _ _).symm, fun front' rest' same related => ?_⟩
  obtain ⟨begins, goesOn, rfl, sameBegin, sameOn⟩ :=
    List.map_eq_append_iff.mp (same.symm.trans List.map_append)
  have middles : Related met (further ++ rest) (goesOn ++ rest') := related.append sameOn.symm
  have lifted : Related before (further ++ rest) (goesOn ++ rest') :=
    ⟨middles.1, fun isMet => middles.2 (meets isMet)⟩
  refine ⟨goesOn ++ rest', lifted, ?_, repeatedAfter goesOn rest' sameOn.symm related⟩
  rw [List.append_assoc]
  exact repeated begins _ sameBegin.symm lifted

/-- No token at all. -/
theorem Local.none (tokens : Tokens) (value : α) :
    Local met tokens (fun tokens' _ rest' => tokens' = rest') value tokens :=
  Local.nothing fun _ _ => rfl

/-- A token, and a run behind it. -/
theorem Local.cons {again : Tokens → α → Tokens → Prop} {value : α}
    (run : Local met tokens again value rest) (token : Token) (line : Nat) :
    Local met (⟨line, token⟩ :: tokens) (fun tokens' value rest' => ∃ line' more',
      tokens' = ⟨line', token⟩ :: more' ∧ again more' value rest') value rest := by
  obtain ⟨front, rfl, repeated⟩ := run
  refine ⟨⟨line, token⟩ :: front, rfl, fun front' rest' same related => ?_⟩
  obtain ⟨⟨line', value'⟩, front', rfl, isToken, sameRest⟩ := List.map_eq_cons_iff.mp same.symm
  obtain rfl := isToken
  exact ⟨line', front' ++ rest', rfl, repeated front' rest' sameRest.symm related⟩

/-- A run that stops at a token, and the token. -/
theorem Local.thenToken {again : Tokens → α → Tokens → Prop} {value : α} {token : Token}
    {line : Nat} (run : Local true tokens again value (⟨line, token⟩ :: rest)) :
    Local false tokens (fun tokens' value rest' => ∃ line', again tokens' value
      (⟨line', token⟩ :: rest')) value rest := by
  obtain ⟨front, rfl, repeated⟩ := run
  refine ⟨front ++ [⟨line, token⟩], by simp, fun front' rest' same related => ?_⟩
  obtain ⟨begins, last, rfl, sameBegin, sameLast⟩ :=
    List.map_eq_append_iff.mp (same.symm.trans List.map_append)
  obtain ⟨⟨line', value'⟩, rfl, isToken⟩ := List.map_eq_singleton_iff.mp sameLast
  obtain rfl := isToken
  refine ⟨line', ?_⟩
  rw [List.append_assoc]
  exact repeated begins _ sameBegin.symm ⟨.cons line line' _ related.1, fun _ => rfl⟩

end Local

/-! ### Looking ahead -/

theorem startsTypeArgument_alike {tokens tokens' : Tokens} (alike : Alike tokens tokens') :
    startsTypeArgument tokens = startsTypeArgument tokens' := by
  cases alike with
  | ended | opened | closed => rfl
  | cons _ _ first alike =>
    cases first with
    | lt =>
      cases alike with
      | ended | opened | closed => rfl
      | cons _ _ second alike =>
        cases second with
        | word name =>
          cases alike with
          | ended | opened | closed => rfl
          | cons _ _ third alike =>
            cases third with
            | gt =>
              cases alike with
              | ended | opened | closed => rfl
              | cons _ _ fourth alike => cases fourth <;> rfl
            | _ => rfl
        | _ => rfl
    | _ => rfl

/-- A token of one list stands in an alike list too, unless it is a closing brace. -/
theorem Alike.exists_cons {tokens rest' : Tokens} {line' : Nat} {token : Token}
    (alike : Alike tokens (⟨line', token⟩ :: rest')) (noBrace : token ≠ .rBrace) :
    ∃ line rest, tokens = ⟨line, token⟩ :: rest ∧ Alike rest rest' := by
  cases alike with
  | opened => exact absurd rfl noBrace
  | cons line _ _ alike => exact ⟨line, _, rfl, alike⟩

theorem Alike.exists_two {tokens rest' : Tokens} {line' line'' : Nat} {first second : Token}
    (alike : Alike tokens (⟨line', first⟩ :: ⟨line'', second⟩ :: rest'))
    (noBrace : first ≠ .rBrace) (stillNoBrace : second ≠ .rBrace) :
    ∃ line line' rest, tokens = ⟨line, first⟩ :: ⟨line', second⟩ :: rest := by
  obtain ⟨line, more, rfl, alikeMore⟩ := alike.exists_cons noBrace
  obtain ⟨line', rest, rfl, -⟩ := alikeMore.exists_cons stillNoBrace
  exact ⟨line, line', rest, rfl⟩

/-- What may follow a type name stops at alike tokens. -/
theorem afterTypeSuffix_alike (tokens : Tokens) : ∀ tokens', Alike tokens tokens' →
    Alike (afterTypeSuffix tokens) (afterTypeSuffix tokens') := by
  fun_induction afterTypeSuffix tokens with
  | case1 line line' name rest inductionHypothesis | case2 line line' rest inductionHypothesis =>
    rintro _ (_ | _ | _ | ⟨_, _, _, _ | _ | _ | ⟨_, _, _, alike⟩⟩)
    rw [afterTypeSuffix]
    exact inductionHypothesis _ alike
  | case3 line rest inductionHypothesis =>
    rintro _ (_ | _ | _ | ⟨_, _, _, alike⟩)
    rw [afterTypeSuffix]
    exact inductionHypothesis _ alike
  | case4 tokens noDot noBrackets noQuestion =>
    intro tokens' alike
    have stops : afterTypeSuffix tokens' = tokens' := by
      refine afterTypeSuffix.eq_4 tokens' ?_ ?_ ?_
      · rintro _ _ name _ rfl
        obtain ⟨_, _, _, rfl⟩ := alike.exists_two (by decide) Token.noConfusion
        exact noDot _ _ _ _ rfl
      · rintro _ _ _ rfl
        obtain ⟨_, _, _, rfl⟩ := alike.exists_two (by decide) (by decide)
        exact noBrackets _ _ _ rfl
      · rintro _ _ rfl
        obtain ⟨_, _, rfl, -⟩ := alike.exists_cons (by decide)
        exact noQuestion _ _ rfl
    rw [stops]
    exact alike

theorem startsDeclared_alike {tokens tokens' : Tokens} (alike : Alike tokens tokens') :
    startsDeclared tokens = startsDeclared tokens' := by
  cases alike with
  | ended | opened | closed => rfl
  | cons _ _ first alike =>
    cases first with
    | word name =>
      cases alike with
      | ended => rfl
      | opened => exact (Bool.and_false _).symm
      | closed => exact Bool.and_false _
      | cons => rfl
    | _ => rfl

theorem startsDeclaration_alike {tokens tokens' : Tokens} (alike : Alike tokens tokens') :
    startsDeclaration tokens = startsDeclaration tokens' := by
  cases alike with
  | ended | opened | closed => rfl
  | cons _ _ first alike =>
    cases first with
    | word type =>
      exact congrArg (!isReserved type && ·)
        (startsDeclared_alike (afterTypeSuffix_alike _ _ alike))
    | _ => rfl

/-- The start of an operand is found again in front of other tokens. -/
def Lead.Again (tokens : Tokens) {bound : Nat} : Lead bound → Prop
  | .operator op rest _ => Local false tokens
    (fun tokens' op rest' => ∃ fewer, leadOf tokens' = .operator op rest' fewer) op rest
  | .negated literal rest _ => Local false tokens
    (fun tokens' literal rest' => ∃ fewer, leadOf tokens' = .negated literal rest' fewer)
    literal rest
  | .cast type rest _ => Local false tokens
    (fun tokens' type rest' => ∃ fewer, leadOf tokens' = .cast type rest' fewer) type rest
  | .operand => ∀ tokens', Alike tokens tokens' → leadOf tokens' = .operand

theorem leadOf_again (tokens : Tokens) : (leadOf tokens).Again tokens := by
  unfold leadOf
  split
  · next line line' value rest =>
    rw [Lead.Again]
    refine (((Local.none rest ()).cons (.int value) line').cons .minus line).imp ?_
    rintro _ _ - - ⟨_, _, rfl, _, _, rfl, rfl⟩
    exact ⟨_, rfl⟩
  · next line line' value rest =>
    rw [Lead.Again]
    refine (((Local.none rest ()).cons (.float value) line').cons .minus line).imp ?_
    rintro _ _ - - ⟨_, _, rfl, _, _, rfl, rfl⟩
    exact ⟨_, rfl⟩
  · next line line' type line'' rest =>
    split
    · next primitive =>
      rw [Lead.Again]
      refine ((((Local.none rest ()).cons .rParen line'').cons (.word type) line').cons .lParen
        line).imp ?_
      rintro _ _ - - ⟨_, _, rfl, _, _, rfl, _, _, rfl, rfl⟩
      exact ⟨_, if_pos primitive⟩
    · next compound =>
      rintro _ (_ | _ | _ | ⟨_, _, _, _ | _ | _ | ⟨_, _, _, _ | _ | _ | ⟨_, _, _, _⟩⟩⟩)
      exact if_neg compound
  · next line token rest noInt noFloat noCast =>
    -- Neither a signed number nor a cast starts here, whatever alike tokens follow.
    have again {line' : Nat} {rest' : Tokens} (alike : Alike rest rest') :
        leadOf (⟨line', token⟩ :: rest') =
          (token.leadingOp?.map fun op => Lead.operator op rest' (Nat.lt_succ_self _)).getD
            .operand := by
      rw [leadOf.eq_4 line' token rest']
      · cases token.leadingOp? <;> rfl
      · rintro _ value _ rfl
        obtain ⟨_, _, rfl, -⟩ := alike.exists_cons Token.noConfusion
        exact noInt _ _ _ rfl
      · rintro _ value _ rfl
        obtain ⟨_, _, rfl, -⟩ := alike.exists_cons Token.noConfusion
        exact noFloat _ _ _ rfl
      · rintro _ type _ _ rfl
        obtain ⟨_, _, _, rfl⟩ := alike.exists_two Token.noConfusion (by decide)
        exact noCast _ _ _ _ rfl
    split
    · next op isOp =>
      rw [Lead.Again]
      refine ((Local.none rest ()).cons token line).imp ?_
      rintro _ _ - related ⟨line', _, rfl, rfl⟩
      rw [again related.1, isOp]
      exact ⟨_, rfl⟩
    · next noOp =>
      rintro _ (_ | _ | _ | ⟨_, line', _, alike⟩)
      · rfl
      · rw [again alike, noOp]
        rfl
  · rintro _ (_ | _)
    · rfl
    · rfl

/-! ### Single tokens, names and types -/

section Readers

variable (lastLine lastLine' : Nat)

theorem expect_local (token : Token) (what : String) (tokens : Tokens) :
    Ensures (expect lastLine token what tokens)
      (Local false tokens fun tokens' => Gives (expect lastLine' token what tokens')) := by
  refine (expect_ensures lastLine token what tokens).imp fun _ rest found => ?_
  obtain ⟨line, rfl⟩ := found
  exact Local.token fun line' rest' _ => gives_expect lastLine' token what line' rest'

theorem readName_local (tokens : Tokens) :
    Ensures (readName lastLine tokens)
      (Local false tokens fun tokens' => Gives (readName lastLine' tokens')) := by
  refine (readName_ensures lastLine tokens).imp fun name rest found => ?_
  obtain ⟨free, line, rfl⟩ := found
  exact Local.token fun line' rest' _ => gives_readName lastLine' free line' rest'

theorem readMemberName_local (tokens : Tokens) :
    Ensures (readMemberName lastLine tokens)
      (Local false tokens fun tokens' => Gives (readMemberName lastLine' tokens')) := by
  refine (readMemberName_ensures lastLine tokens).imp fun name rest found => ?_
  obtain ⟨plain, line, rfl⟩ := found
  refine Local.token fun line' rest' related => ?_
  rw [startsTypeArgument_alike related.1] at plain
  exact gives_readMemberName lastLine' plain line'

theorem readTypeSuffix_local (name : String) (tokens : Tokens) :
    Ensures (readTypeSuffix lastLine name tokens)
      (Local false tokens fun tokens' => Gives (readTypeSuffix lastLine' name tokens')) := by
  induction name, tokens using readTypeSuffix.induct with
  | case1 name line line' word rest inductionHypothesis =>
    rw [readTypeSuffix]
    refine inductionHypothesis.bind fun whole after _ onRest => Ensures.ok ?_
    refine ((onRest.cons (.word word) line').cons .dot line).imp ?_
    rintro _ after' - - ⟨_, _, rfl, _, _, rfl, again⟩
    rw [readTypeSuffix]
    exact again.bind fun _ => Gives.ok _
  | case2 name line line' rest inductionHypothesis =>
    rw [readTypeSuffix]
    refine inductionHypothesis.bind fun whole after _ onRest => Ensures.ok ?_
    refine ((onRest.cons .rBracket line').cons .lBracket line).imp ?_
    rintro _ after' - - ⟨_, _, rfl, _, _, rfl, again⟩
    rw [readTypeSuffix]
    exact again.bind fun _ => Gives.ok _
  | case3 name line rest inductionHypothesis =>
    rw [readTypeSuffix]
    refine inductionHypothesis.bind fun whole after _ onRest => Ensures.ok ?_
    refine (onRest.cons .question line).imp ?_
    rintro _ after' - - ⟨_, _, rfl, again⟩
    rw [readTypeSuffix]
    exact again.bind fun _ => Gives.ok _
  | case4 =>
    rw [readTypeSuffix]
    exact Ensures.faultAt
  | case5 name tokens noDot noBrackets noQuestion noAngle =>
    rw [readTypeSuffix.eq_5 lastLine name tokens noDot noBrackets noQuestion noAngle]
    refine Ensures.ok (Local.nothing fun tokens' related => ?_)
    have alike := related.1
    rw [readTypeSuffix.eq_5 lastLine' name tokens']
    · exact Gives.ok _
    · rintro _ _ word _ rfl
      obtain ⟨_, _, _, rfl⟩ := alike.exists_two (by decide) Token.noConfusion
      exact noDot _ _ _ _ rfl
    · rintro _ _ _ rfl
      obtain ⟨_, _, _, rfl⟩ := alike.exists_two (by decide) (by decide)
      exact noBrackets _ _ _ rfl
    · rintro _ _ rfl
      obtain ⟨_, _, rfl, -⟩ := alike.exists_cons (by decide)
      exact noQuestion _ _ rfl
    · rintro _ _ rfl
      obtain ⟨_, _, rfl, -⟩ := alike.exists_cons (by decide)
      exact noAngle _ _ rfl

theorem readTypeName_local (tokens : Tokens) :
    Ensures (readTypeName lastLine tokens)
      (Local false tokens fun tokens' => Gives (readTypeName lastLine' tokens')) := by
  rw [readTypeName]
  refine (readName_local lastLine lastLine' tokens).bind fun name rest _ onName => ?_
  refine (readTypeSuffix_local lastLine lastLine' name rest).bind fun whole after _ onSuffix =>
    Ensures.ok ?_
  refine (onName.trans onSuffix id).imp ?_
  rintro _ _ - - ⟨_, -, named, ended⟩
  rw [readTypeName]
  exact named.bind fun _ => ended.bind fun _ => Gives.ok _

end Readers

end Storefront.Script
