import Storefront.Proofs.Cursor
import Storefront.Proofs.Readers

/-!
The machine follows the readers: from the position of some tokens it finds the same fault, or reads
the same and moves to the position of what is left. What it finds is an outcome, so it comes to an
end and never stops for a reason of its own. Positions are those of the tokens that a text ends
with, so looking ahead from a position is looking at those tokens.
-/

namespace Storefront.Script.Cursor

/-! ### Positions -/

/-- The position of tokens that a text ends with. -/
def place (lexed : Lexed) (rest : Tokens) : Nat := lexed.tokens.length - rest.length

theorem length_marked (lexed : Lexed) : (marked lexed).length = lexed.tokens.length + 1 := by
  simp [marked]

/-- From the position of some tokens on, the list is these tokens with the mark. -/
theorem marked_place {lexed : Lexed} {rest : Tokens} (within : rest <:+ lexed.tokens)
    (places : Nat) :
    (marked lexed)[place lexed rest + places]? = (marked ⟨rest, lexed.lastLine⟩)[places]? := by
  obtain ⟨tokens, lastLine⟩ := lexed
  obtain ⟨front, rfl⟩ := within
  have position : place ⟨front ++ rest, lastLine⟩ rest =
      (front.map ofToken).length := by
    simp [place]
  rw [position, marked, marked, List.map_append, List.append_assoc,
    List.getElem?_append_right (Nat.le_add_right _ _), Nat.add_sub_cancel_left]

/-- What stands some places after the position of some tokens. -/
theorem marked_token {lexed : Lexed} {rest : Tokens} (within : rest <:+ lexed.tokens)
    {places : Nat} {token : Located Token} (stands : rest[places]? = some token) :
    (marked lexed)[place lexed rest + places]? = some ⟨token.line, some token.value⟩ := by
  obtain ⟨bound, isToken⟩ := List.getElem?_eq_some_iff.mp stands
  rw [marked_place within, marked, List.getElem?_append_left (by simpa using bound),
    List.getElem?_map, stands]
  rfl

theorem marked_end {lexed : Lexed} {rest : Tokens} (within : rest <:+ lexed.tokens) :
    (marked lexed)[place lexed rest + rest.length]? = some ⟨lexed.lastLine, none⟩ := by
  rw [marked_place within, marked, List.getElem?_append_right (by simp)]
  simp

theorem place_add_length {lexed : Lexed} {rest : Tokens} (within : rest <:+ lexed.tokens) :
    place lexed rest + rest.length = lexed.tokens.length :=
  Nat.sub_add_cancel within.length_le

theorem place_tail {lexed : Lexed} {token : Located Token} {rest : Tokens}
    (within : token :: rest <:+ lexed.tokens) :
    place lexed rest = place lexed (token :: rest) + 1 := by
  have fits := place_add_length within
  have fitsRest := place_add_length ((List.suffix_cons token rest).trans within)
  rw [List.length_cons] at fits
  omega

/-! ### Runs that come to an end -/

section Runs

variable {α β : Type}

/-- A run goes on after another one that comes to an end. -/
theorem bind_of_ends {run : Run α} {next : α → Run β} {position after : Nat} {value : α}
    (ends : run position = some (.ok (value, after))) :
    (run >>= next) position = next value after := by
  show (ExceptT.bind (run position) fun result => next result.1 result.2) = _
  rw [ends]
  rfl

/-- A run that stops before another one stops. -/
theorem bind_of_stops {run : Run α} {next : α → Run β} {position : Nat} {reason : Stop}
    (stops : run position = some (.error reason)) :
    (run >>= next) position = some (.error reason) := by
  show (ExceptT.bind (run position) fun result => next result.1 result.2) = _
  rw [stops]
  rfl

/-- A run that asks for its position goes on with it. -/
theorem bind_of_get {next : Nat → Run β} (position : Nat) :
    (get >>= next) position = next position position := rfl

end Runs

/-! ### Single tokens -/

variable {lexed : Lexed} {rest : Tokens}

theorem itemAt_eq {items : List Item} {index : Nat} {item : Item}
    (stands : items[index]? = some item) (position : Nat) :
    itemAt items index position = some (.ok (item, position)) := by
  rw [itemAt, stands]
  rfl

/-- No place is looked up beyond the mark. -/
theorem peekAt_place (within : rest <:+ lexed.tokens) (places : Nat) :
    peekAt (marked lexed) places (place lexed rest) =
      some (.ok ((rest[places]?).map Located.value, place lexed rest)) := by
  have fits := place_add_length within
  have length := length_marked lexed
  rw [peekAt, bind_of_get]
  cases stands : rest[places]? with
  | some token =>
    have bound := (List.getElem?_eq_some_iff.mp stands).1
    have index : min (place lexed rest + places) ((marked lexed).length - 1) =
        place lexed rest + places := by omega
    rw [index]
    exact bind_of_ends (itemAt_eq (marked_token within stands) _)
  | none =>
    have bound := List.getElem?_eq_none_iff.mp stands
    have index : min (place lexed rest + places) ((marked lexed).length - 1) =
        place lexed rest + rest.length := by omega
    rw [index]
    exact bind_of_ends (itemAt_eq (marked_end within) _)

theorem itemAt_place (within : rest <:+ lexed.tokens) (position : Nat) :
    itemAt (marked lexed) (place lexed rest) position =
      some (.ok (⟨nextLine lexed.lastLine rest, next? rest⟩, position)) := by
  cases rest with
  | nil => exact itemAt_eq (marked_end within) position
  | cons token rest => exact itemAt_eq (marked_token within List.getElem?_cons_zero) position

theorem current_place (within : rest <:+ lexed.tokens) :
    current (marked lexed) (place lexed rest) =
      some (.ok (⟨nextLine lexed.lastLine rest, next? rest⟩, place lexed rest)) := by
  have fits := place_add_length within
  have length := length_marked lexed
  have index : min (place lexed rest) ((marked lexed).length - 1) = place lexed rest := by omega
  rw [current, bind_of_get, index]
  exact itemAt_place within _

theorem peek_place (within : rest <:+ lexed.tokens) :
    peek (marked lexed) (place lexed rest) = some (.ok (next? rest, place lexed rest)) :=
  bind_of_ends (current_place within)

theorem peek_cons {token : Located Token} (within : token :: rest <:+ lexed.tokens) :
    peek (marked lexed) (place lexed (token :: rest)) =
      some (.ok (some token.value, place lexed (token :: rest))) :=
  peek_place within

theorem advance_cons {token : Located Token} (within : token :: rest <:+ lexed.tokens) :
    advance (marked lexed) (place lexed (token :: rest)) =
      some (.ok (⟨token.line, some token.value⟩, place lexed rest)) := by
  have fits := place_add_length within
  have length := length_marked lexed
  rw [List.length_cons] at fits
  rw [advance, bind_of_ends (current_place within), bind_of_get, if_pos (by omega),
    place_tail within]
  exact bind_of_ends rfl

/-- The mark is taken and stays. -/
theorem advance_nil (lexed : Lexed) :
    advance (marked lexed) (place lexed []) =
      some (.ok (⟨lexed.lastLine, none⟩, place lexed [])) := by
  have within : [] <:+ lexed.tokens := List.nil_suffix
  have length := length_marked lexed
  have position : place lexed [] = lexed.tokens.length := Nat.sub_zero _
  rw [advance, bind_of_ends (current_place within), bind_of_get, if_neg (by omega)]
  rfl

theorem faultHere_place (within : rest <:+ lexed.tokens) {α : Type} (fault : Fault) :
    (faultHere (marked lexed) fault : Run α) (place lexed rest) =
      some (.error (.fault ⟨nextLine lexed.lastLine rest, fault⟩)) :=
  bind_of_ends (current_place within)

theorem within_rest {token : Located Token} (within : token :: rest <:+ lexed.tokens) :
    rest <:+ lexed.tokens :=
  (List.suffix_cons token rest).trans within

/-! ### Following a reader -/

/-- A run does what a reader does: it stops at the same fault, or reads the same and moves to the
position of what is left. -/
inductive Follows (lexed : Lexed) {α : Type} {bound : Nat} : Read α bound → Outcome α → Prop where
  | fault (error : ParseError) : Follows lexed (.error error) (some (.error (.fault error)))
  | found (value : α) (rest : Tokens) (fewer : rest.length < bound)
    (within : rest <:+ lexed.tokens) :
    Follows lexed (.ok ⟨value, rest, fewer⟩) (some (.ok (value, place lexed rest)))

/-- A run ends as a reader of a whole text does: it stops at the same fault, or reads the same. -/
inductive Completes {α : Type} : Except ParseError α → Outcome α → Prop where
  | fault (error : ParseError) : Completes (.error error) (some (.error (.fault error)))
  | found (value : α) (position : Nat) : Completes (.ok value) (some (.ok (value, position)))

section Rules

variable {α β : Type} {bound inner : Nat}

/-- A run goes on after another one knowing what the reader ensures. -/
theorem Follows.bind_ensured {read : Read α inner}
    {next : Reading (Located Token) α inner → Read β bound} {run : Run α} {goesOn : α → Run β}
    {position : Nat} {condition : α → Tokens → Prop} (first : Follows lexed read (run position))
    (ensured : Ensures read condition)
    (continued : ∀ value rest fewer, rest <:+ lexed.tokens → condition value rest →
      Follows lexed (next ⟨value, rest, fewer⟩) (goesOn value (place lexed rest))) :
    Follows lexed (read >>= next) ((run >>= goesOn) position) := by
  generalize outcome : run position = ended at first
  cases first with
  | fault error =>
    rw [bind_of_stops outcome]
    exact .fault error
  | found value rest fewer within =>
    rw [bind_of_ends outcome]
    exact continued value rest fewer within (ensured value rest (Gives.ok fewer))

/-- A run goes on after another one as the reader does. -/
theorem Follows.bind {read : Read α inner}
    {next : Reading (Located Token) α inner → Read β bound} {run : Run α} {goesOn : α → Run β}
    {position : Nat} (first : Follows lexed read (run position))
    (continued : ∀ value rest fewer, rest <:+ lexed.tokens →
      Follows lexed (next ⟨value, rest, fewer⟩) (goesOn value (place lexed rest))) :
    Follows lexed (read >>= next) ((run >>= goesOn) position) :=
  first.bind_ensured (fun _ _ _ => trivial) fun value rest fewer within _ =>
    continued value rest fewer within

/-- The bound of what is left does not matter. -/
theorem Follows.rebound {read : Read α inner}
    {next : Reading (Located Token) α inner → Read α bound} {outcome : Outcome α}
    (follows : Follows lexed read outcome)
    (same : ∀ value rest fewer, ∃ stillFewer,
      next ⟨value, rest, fewer⟩ = .ok ⟨value, rest, stillFewer⟩) :
    Follows lexed (read >>= next) outcome := by
  cases follows with
  | fault error => exact .fault error
  | found value rest fewer within =>
    obtain ⟨stillFewer, ends⟩ := same value rest fewer
    show Follows lexed (next ⟨value, rest, fewer⟩) _
    rw [ends]
    exact .found value rest stillFewer within

/-- What is done with the value of a completed text. -/
theorem Completes.bind {read : Except ParseError α} {next : α → Except ParseError β} {run : Run α}
    {goesOn : α → Run β} {position : Nat} (first : Completes read (run position))
    (continued : ∀ value position, Completes (next value) (goesOn value position)) :
    Completes (read >>= next) ((run >>= goesOn) position) := by
  generalize outcome : run position = ended at first
  cases first with
  | fault error =>
    rw [bind_of_stops outcome]
    exact .fault error
  | found value position =>
    rw [bind_of_ends outcome]
    exact continued value position

theorem faultHere_follows (within : rest <:+ lexed.tokens) (fault : Fault) :
    Follows lexed (faultAt lexed.lastLine rest fault : Read α bound)
      (faultHere (marked lexed) fault (place lexed rest)) := by
  rw [faultHere_place within]
  exact .fault _

end Rules

theorem expect_cons {line : Nat} {token : Token}
    (within : ⟨line, token⟩ :: rest <:+ lexed.tokens) (what : String) :
    expect (marked lexed) (some token) what (place lexed (⟨line, token⟩ :: rest)) =
      some (.ok ((), place lexed rest)) := by
  rw [expect, bind_of_ends (peek_cons within), if_pos rfl, bind_of_ends (advance_cons within)]
  rfl

theorem expect_follows (within : rest <:+ lexed.tokens) (token : Token) (what : String) :
    Follows lexed (Script.expect lexed.lastLine token what rest)
      (expect (marked lexed) (some token) what (place lexed rest)) := by
  rw [expect, bind_of_ends (peek_place within)]
  cases rest with
  | nil =>
    exact faultHere_follows within _
  | cons found rest =>
    rw [Script.expect, show next? (found :: rest) = some found.value from rfl]
    by_cases same : found.value = token
    · rw [if_pos same, if_pos (congrArg some same), bind_of_ends (advance_cons within)]
      exact .found () rest _ (within_rest within)
    · rw [if_neg same, if_neg (fun isToken => same (Option.some.inj isToken))]
      exact faultHere_follows within _

theorem eatWord_cons {line : Nat} {word : String}
    (within : ⟨line, .word word⟩ :: rest <:+ lexed.tokens) :
    eatWord (marked lexed) word (place lexed (⟨line, .word word⟩ :: rest)) =
      some (.ok (true, place lexed rest)) := by
  have isWord : next? (⟨line, .word word⟩ :: rest) = some (.word word) := rfl
  rw [eatWord, bind_of_ends (peek_place within), if_pos isWord, bind_of_ends (advance_cons within)]
  rfl

theorem eatWord_other (within : rest <:+ lexed.tokens) {word : String}
    (other : next? rest ≠ some (.word word)) :
    eatWord (marked lexed) word (place lexed rest) = some (.ok (false, place lexed rest)) := by
  rw [eatWord, bind_of_ends (peek_place within), if_neg other]
  rfl

theorem eatWord_otherWord {line : Nat} {found word : String}
    (within : ⟨line, .word found⟩ :: rest <:+ lexed.tokens) (other : found ≠ word) :
    eatWord (marked lexed) word (place lexed (⟨line, .word found⟩ :: rest)) =
      some (.ok (false, place lexed (⟨line, .word found⟩ :: rest))) :=
  eatWord_other within fun same => other (Token.word.inj (Option.some.inj same))

/-! ### Names and types -/

theorem readName_follows (within : rest <:+ lexed.tokens) :
    Follows lexed (Script.readName lexed.lastLine rest)
      (readName (marked lexed) (place lexed rest)) := by
  rw [readName, bind_of_ends (peek_place within)]
  match rest with
  | [] => exact faultHere_follows within _
  | ⟨line, token⟩ :: rest =>
    cases token with
    | word word =>
      rw [Script.readName]
      dsimp only [next?, List.head?_cons, Option.map_some]
      by_cases reserved : isReserved word = true
      · rw [if_pos reserved, if_pos reserved]
        exact faultHere_follows within _
      · rw [if_neg reserved, if_neg reserved, bind_of_ends (advance_cons within)]
        exact .found word rest _ (within_rest within)
    | _ => exact faultHere_follows within _

theorem readTypeSuffix_follows (within : rest <:+ lexed.tokens) {steps : Nat}
    (enough : rest.length < steps) (name : String) :
    Follows lexed (Script.readTypeSuffix lexed.lastLine name rest)
      (readTypeSuffix (marked lexed) steps name (place lexed rest)) := by
  induction steps generalizing rest name with
  | zero => exact absurd enough (Nat.not_lt_zero _)
  | succ steps inductionHypothesis =>
    rw [readTypeSuffix, bind_of_ends (peek_place within), bind_of_ends (peekAt_place within 1)]
    match rest with
    | [] => exact .found name [] _ within
    | ⟨line, token⟩ :: rest =>
      have shorter : rest.length < steps := Nat.lt_of_succ_lt_succ enough
      cases token with
      | dot =>
        match rest with
        | [] => exact .found name _ _ within
        | ⟨line', second⟩ :: rest =>
          cases second with
          | word word =>
            refine Follows.rebound ?_ fun _ _ _ => ⟨_, rfl⟩
            dsimp only [next?, List.head?_cons, Option.map_some, List.getElem?_cons_succ,
              List.getElem?_cons_zero]
            rw [bind_of_ends (advance_cons within),
              bind_of_ends (advance_cons (within_rest within))]
            exact inductionHypothesis (within_rest (within_rest within))
              (Nat.lt_of_succ_lt shorter) _
          | _ => exact .found name _ _ within
      | lBracket =>
        match rest with
        | [] => exact .found name _ _ within
        | ⟨line', second⟩ :: rest =>
          cases second with
          | rBracket =>
            refine Follows.rebound ?_ fun _ _ _ => ⟨_, rfl⟩
            dsimp only [next?, List.head?_cons, Option.map_some, List.getElem?_cons_succ,
              List.getElem?_cons_zero]
            rw [bind_of_ends (advance_cons within),
              bind_of_ends (advance_cons (within_rest within))]
            exact inductionHypothesis (within_rest (within_rest within))
              (Nat.lt_of_succ_lt shorter) _
          | _ => exact .found name _ _ within
      | question =>
        refine Follows.rebound ?_ fun _ _ _ => ⟨_, rfl⟩
        dsimp only [next?, List.head?_cons, Option.map_some]
        rw [bind_of_ends (advance_cons within)]
        exact inductionHypothesis (within_rest within) shorter _
      | lt => exact faultHere_follows within _
      | _ => exact .found name _ _ within

theorem readTypeName_follows (within : rest <:+ lexed.tokens) {steps : Nat}
    (enough : rest.length ≤ steps) :
    Follows lexed (Script.readTypeName lexed.lastLine rest)
      (readTypeName (marked lexed) steps (place lexed rest)) := by
  rw [readTypeName, Script.readTypeName]
  refine (readName_follows within).bind fun name rest fewer within => ?_
  refine (readTypeSuffix_follows within (by omega) name).rebound fun _ _ _ => ⟨_, rfl⟩

/-! ### Looking ahead for a declaration -/

/-- The tokens some places ahead, as they are looked at. -/
theorem getElem?_ahead {behind : Tokens} {places : Nat} (ahead : rest.drop places = behind)
    (further : Nat) : rest[places + further]? = behind[further]? := by
  rw [← ahead, List.getElem?_drop]

theorem drop_ahead {behind : Tokens} {places : Nat} (ahead : rest.drop places = behind)
    (further : Nat) : rest.drop (places + further) = behind.drop further := by
  rw [← ahead, List.drop_drop]

/-- What may follow the first word of a type name ends before the mark does. -/
theorem typeEnd_ends (within : rest <:+ lexed.tokens) {steps places : Nat} {behind : Tokens}
    (ahead : rest.drop places = behind) (enough : behind.length < steps) :
    ∃ stop, typeEnd (marked lexed) steps places (place lexed rest) =
        some (.ok (stop, place lexed rest)) ∧
      rest.drop stop = afterTypeSuffix behind := by
  induction steps generalizing places behind with
  | zero => exact absurd enough (Nat.not_lt_zero _)
  | succ steps inductionHypothesis =>
    rw [typeEnd, bind_of_ends (peekAt_place within places),
      bind_of_ends (peekAt_place within (places + 1)), getElem?_ahead ahead 1,
      show rest[places]? = behind[0]? from getElem?_ahead ahead 0]
    match behind with
    | [] => exact ⟨places, rfl, ahead⟩
    | ⟨line, token⟩ :: more =>
      have shorter : more.length < steps := Nat.lt_of_succ_lt_succ enough
      cases token with
      | dot =>
        match more with
        | [] => exact ⟨places, rfl, ahead⟩
        | ⟨line', second⟩ :: more =>
          cases second with
          | word word =>
            exact @inductionHypothesis _ more (drop_ahead ahead 2) (Nat.lt_of_succ_lt shorter)
          | _ => exact ⟨places, rfl, ahead⟩
      | lBracket =>
        match more with
        | [] => exact ⟨places, rfl, ahead⟩
        | ⟨line', second⟩ :: more =>
          cases second with
          | rBracket =>
            exact @inductionHypothesis _ more (drop_ahead ahead 2) (Nat.lt_of_succ_lt shorter)
          | _ => exact ⟨places, rfl, ahead⟩
      | question => exact @inductionHypothesis _ more (drop_ahead ahead 1) shorter
      | _ => exact ⟨places, rfl, ahead⟩

theorem startsDeclared_eq (tokens : Tokens) :
    startsDeclared tokens = (isName ((tokens[0]?).map Located.value) &&
      ((tokens[1]?).map Located.value).any followsDeclaredName) := by
  match tokens with
  | [] => rfl
  | [⟨line, token⟩] =>
    cases token with
    | word word => exact (Bool.and_false _).symm
    | _ => rfl
  | ⟨line, token⟩ :: following :: rest => cases token <;> rfl

theorem atDeclaration_place (within : rest <:+ lexed.tokens) {steps : Nat}
    (enough : rest.length ≤ steps) :
    atDeclaration (marked lexed) steps (place lexed rest) =
      some (.ok (startsDeclaration rest, place lexed rest)) := by
  rw [atDeclaration, bind_of_ends (peekAt_place within 0)]
  match rest with
  | [] => rfl
  | ⟨line, token⟩ :: more =>
    cases token with
    | word type =>
      have isFirst : ((⟨line, .word type⟩ :: more : Tokens)[0]?).map Located.value =
          some (.word type) := rfl
      rw [isFirst, startsDeclaration]
      cases reserved : isReserved type with
      | true =>
        rw [if_neg (by simp [isName, reserved])]
        rfl
      | false =>
        have ahead : (⟨line, .word type⟩ :: more : Tokens).drop 1 = more := rfl
        obtain ⟨stop, ends, stops⟩ := typeEnd_ends within ahead enough
        rw [if_pos (by simp [isName, reserved]), bind_of_ends ends,
          bind_of_ends (peekAt_place within stop), bind_of_ends (peekAt_place within (stop + 1)),
          startsDeclared_eq, getElem?_ahead stops 1,
          show (⟨line, .word type⟩ :: more : Tokens)[stop]? = (afterTypeSuffix more)[0]? from
            getElem?_ahead stops 0]
        rfl
    | _ => rfl

end Storefront.Script.Cursor
