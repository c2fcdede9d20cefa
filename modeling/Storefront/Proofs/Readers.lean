import Storefront.Proofs.Nodes
import Storefront.Proofs.Outcomes
import Storefront.Script.Reading.Procedure

/-!
What is said about the readers of tokens. `Gives` is about one run: it succeeds, with this value,
and leaves these tokens. `Ensures` is about every successful run: what it finds and what it leaves
satisfy a condition. A reader is a chain of readers, so each of the two has a rule for one reader
after another, and what is known of the parts is known of the chain.
-/

namespace Storefront.Script

variable {α β : Type} {bound inner : Nat}

/-! ### A run that succeeds -/

/-- The read succeeds with a value, and leaves tokens. -/
def Gives (read : Read α bound) (value : α) (rest : Tokens) : Prop :=
  ∃ fewer, read = .ok ⟨value, rest, fewer⟩

theorem Gives.ok {value : α} {rest : Tokens} (fewer : rest.length < bound) :
    Gives (.ok ⟨value, rest, fewer⟩) value rest := ⟨fewer, rfl⟩

/-- A read that goes on after another one that succeeds. -/
theorem Gives.bind {read : Read α inner} {next : Reading (Located Token) α inner → Read β bound}
    {value : α} {whole : β} {rest after : Tokens} (given : Gives read value rest)
    (continued : ∀ fewer, Gives (next ⟨value, rest, fewer⟩) whole after) :
    Gives (read >>= next) whole after := by
  obtain ⟨fewer, succeeds⟩ := given
  rw [succeeds]
  exact continued fewer

/-- What fails although its first step succeeds fails in the second. -/
theorem Gives.error_of_bind {read : Read α inner}
    {next : Reading (Located Token) α inner → Read β bound} {value : α} {rest : Tokens}
    {error : ParseError} (given : Gives read value rest) (fails : read >>= next = .error error) :
    ∃ fewer, next ⟨value, rest, fewer⟩ = .error error := by
  obtain ⟨fewer, succeeds⟩ := given
  rw [succeeds] at fails
  exact ⟨fewer, fails⟩

/-- Two successful runs of one read are the same. -/
theorem Gives.unique {read : Read α bound} {first second : α} {rest after : Tokens}
    (one : Gives read first rest) (other : Gives read second after) :
    first = second ∧ rest = after := by
  obtain ⟨_, succeeds⟩ := one
  obtain ⟨_, again⟩ := other
  rw [succeeds] at again
  cases again
  exact ⟨rfl, rfl⟩

/-! ### Every run that succeeds -/

/-- Whenever the read succeeds, what it finds and the tokens that it leaves satisfy a condition. -/
def Ensures (read : Read α bound) (condition : α → Tokens → Prop) : Prop :=
  ∀ value rest, Gives read value rest → condition value rest

/-- What holds of one successful run holds of all. -/
theorem Gives.ensures {read : Read α bound} {value : α} {rest : Tokens}
    (given : Gives read value rest) {condition : α → Tokens → Prop} (holds : condition value rest) :
    Ensures read condition := by
  intro found after again
  obtain ⟨rfl, rfl⟩ := given.unique again
  exact holds

theorem Ensures.ok {value : α} {rest : Tokens} {fewer : rest.length < bound}
    {condition : α → Tokens → Prop} (holds : condition value rest) :
    Ensures (.ok ⟨value, rest, fewer⟩) condition :=
  (Gives.ok fewer).ensures holds

theorem Ensures.error {error : ParseError} {condition : α → Tokens → Prop} :
    Ensures (.error error : Read α bound) condition := by
  rintro value rest ⟨_, succeeds⟩
  cases succeeds

theorem Ensures.faultAt {lastLine : Nat} {tokens : Tokens} {fault : Fault}
    {condition : α → Tokens → Prop} :
    Ensures (faultAt lastLine tokens fault : Read α bound) condition := Ensures.error

/-- What one read ensures is known when the next one starts. -/
theorem Ensures.bind {read : Read α inner} {next : Reading (Located Token) α inner → Read β bound}
    {first : α → Tokens → Prop} {condition : β → Tokens → Prop} (ensured : Ensures read first)
    (continued : ∀ value rest fewer, first value rest →
      Ensures (next ⟨value, rest, fewer⟩) condition) :
    Ensures (read >>= next) condition := by
  rintro whole after ⟨fewer, succeeds⟩
  obtain ⟨⟨value, rest, less⟩, run, goesOn⟩ := exists_of_bind succeeds
  exact continued value rest less (ensured value rest ⟨less, run⟩) whole after ⟨fewer, goesOn⟩

theorem Ensures.imp {read : Read α bound} {first condition : α → Tokens → Prop}
    (ensured : Ensures read first)
    (weaker : ∀ value rest, first value rest → condition value rest) : Ensures read condition :=
  fun value rest given => weaker value rest (ensured value rest given)

/-! ### Single tokens -/

theorem gives_expect (lastLine : Nat) (token : Token) (what : String) (line : Nat) (rest : Tokens) :
    Gives (expect lastLine token what (⟨line, token⟩ :: rest)) () rest := by
  unfold expect
  dsimp only
  rw [if_pos rfl]
  exact Gives.ok _

theorem expect_ensures (lastLine : Nat) (token : Token) (what : String) (tokens : Tokens) :
    Ensures (expect lastLine token what tokens)
      fun _ rest => ∃ line, tokens = ⟨line, token⟩ :: rest := by
  unfold expect
  split
  · next found rest =>
    split
    · next same => exact Ensures.ok ⟨found.line, same ▸ rfl⟩
    · exact Ensures.faultAt
  · exact Ensures.faultAt

theorem readName_ensures (lastLine : Nat) (tokens : Tokens) :
    Ensures (readName lastLine tokens)
      fun name rest => isReserved name = false ∧ ∃ line, tokens = ⟨line, .word name⟩ :: rest := by
  unfold readName
  split
  · next line name rest =>
    split
    · exact Ensures.faultAt
    · next free => exact Ensures.ok ⟨Bool.eq_false_iff.mpr free, line, rfl⟩
  · exact Ensures.faultAt

theorem gives_readName (lastLine : Nat) {name : String} (free : isReserved name = false)
    (line : Nat) (rest : Tokens) :
    Gives (readName lastLine (⟨line, .word name⟩ :: rest)) name rest := by
  rw [readName, if_neg (Bool.eq_false_iff.mp free)]
  exact Gives.ok _

theorem readMemberName_ensures (lastLine : Nat) (tokens : Tokens) :
    Ensures (readMemberName lastLine tokens)
      fun name rest => startsTypeArgument rest = false ∧
        ∃ line, tokens = ⟨line, .word name⟩ :: rest := by
  unfold readMemberName
  split
  · next line name rest =>
    split
    · exact Ensures.faultAt
    · next plain => exact Ensures.ok ⟨Bool.eq_false_iff.mpr plain, line, rfl⟩
  · exact Ensures.faultAt

theorem gives_readMemberName (lastLine : Nat) {name : String} {rest : Tokens}
    (plain : startsTypeArgument rest = false) (line : Nat) :
    Gives (readMemberName lastLine (⟨line, .word name⟩ :: rest)) name rest := by
  rw [readMemberName, if_neg (Bool.eq_false_iff.mp plain)]
  exact Gives.ok _

theorem next?_eq_some {tokens : Tokens} {token : Token} :
    next? tokens = some token ↔ ∃ line rest, tokens = ⟨line, token⟩ :: rest := by
  constructor
  · intro isNext
    match tokens, isNext with
    | ⟨line, _⟩ :: rest, rfl => exact ⟨line, rest, rfl⟩
  · rintro ⟨line, rest, rfl⟩
    rfl

/-! ### The name of a type -/

/-- Reading what follows the first word of a type name stops where the look ahead stops. -/
theorem readTypeSuffix_ensures (lastLine : Nat) (name : String) (tokens : Tokens) :
    Ensures (readTypeSuffix lastLine name tokens) fun _ rest => rest = afterTypeSuffix tokens := by
  fun_induction readTypeSuffix lastLine name tokens with
  | case1 name line line' word rest inductionHypothesis
  | case2 name line line' rest inductionHypothesis | case3 name line rest inductionHypothesis =>
    exact inductionHypothesis.bind fun _ _ _ same => Ensures.ok same
  | case4 name line rest => exact Ensures.faultAt
  | case5 name tokens noDot noBrackets noQuestion noLess =>
    exact Ensures.ok (afterTypeSuffix.eq_4 tokens noDot noBrackets noQuestion).symm

/-- Where the look ahead does not stop at a generic type, everything up to there is read. -/
theorem gives_readTypeSuffix (lastLine : Nat) (name : String) (tokens : Tokens)
    (plain : next? (afterTypeSuffix tokens) ≠ some .lt) :
    ∃ type, Gives (readTypeSuffix lastLine name tokens) type (afterTypeSuffix tokens) := by
  fun_induction readTypeSuffix lastLine name tokens with
  | case1 name line line' word rest inductionHypothesis
  | case2 name line line' rest inductionHypothesis | case3 name line rest inductionHypothesis =>
    obtain ⟨type, given⟩ := inductionHypothesis plain
    exact ⟨type, given.bind fun _ => Gives.ok _⟩
  | case4 name line rest => exact absurd rfl plain
  | case5 name tokens noDot noBrackets noQuestion noLess =>
    rw [afterTypeSuffix.eq_4 tokens noDot noBrackets noQuestion]
    exact ⟨name, Gives.ok _⟩

theorem readTypeName_ensures (lastLine : Nat) (tokens : Tokens) :
    Ensures (readTypeName lastLine tokens) fun _ rest => ∃ line word more,
      isReserved word = false ∧ tokens = ⟨line, .word word⟩ :: more ∧
        rest = afterTypeSuffix more := by
  unfold readTypeName
  refine (readName_ensures lastLine tokens).bind ?_
  rintro word more fewer ⟨free, line, isWord⟩
  exact (readTypeSuffix_ensures lastLine word more).bind fun _ _ _ same =>
    Ensures.ok ⟨line, word, more, free, isWord, same⟩

theorem gives_readTypeName (lastLine : Nat) {word : String} (free : isReserved word = false)
    (line : Nat) {more : Tokens} (plain : next? (afterTypeSuffix more) ≠ some .lt) :
    ∃ type, Gives (readTypeName lastLine (⟨line, .word word⟩ :: more)) type
      (afterTypeSuffix more) := by
  obtain ⟨type, given⟩ := gives_readTypeSuffix lastLine word more plain
  refine ⟨type, ?_⟩
  unfold readTypeName
  exact (gives_readName lastLine free line more).bind fun _ => given.bind fun _ => Gives.ok _

/-! ### Where an operand ends -/

/-- The next token is no operator that binds at least as tightly as `least`. -/
def StopsBelow (least : Nat) (tokens : Tokens) : Prop :=
  ∀ token ∈ next? tokens, ∀ op ∈ token.binaryOp?, op.precedence < least

/-- How tightly a token ties what stands before it to what comes after it, if it does. -/
def Token.tie? : Token → Option Nat
  | .dot | .lParen | .lBracket | .plusPlus | .minusMinus => some Expr.operandTightness
  | .question => some 1
  | .assign _ | .arrow => some 0
  | token => token.binaryOp?.map (·.precedence + 1)

/-- The next token does not tie to what stands before it as tightly as `level`. -/
def Loose (level : Nat) (tokens : Tokens) : Prop :=
  ∀ token ∈ next? tokens, ∀ tie ∈ token.tie?, tie < level

theorem Loose.mono {level higher : Nat} {tokens : Tokens} (loose : Loose level tokens)
    (le : level ≤ higher) : Loose higher tokens :=
  fun token next tie ties => Nat.lt_of_lt_of_le (loose token next tie ties) le

theorem Loose.nil (level : Nat) : Loose level [] := fun _ none => nomatch none

/-- In front of a token that ties nothing everything ends. -/
theorem Loose.cons {token : Token} (untied : token.tie? = none) (level line : Nat)
    (rest : Tokens) : Loose level (⟨line, token⟩ :: rest) := by
  rintro _ ⟨⟩ tie ties
  rw [untied] at ties
  cases ties

theorem tie?_of_binaryOp? {token : Token} {op : BinaryOp} (isOp : token.binaryOp? = some op) :
    token.tie? = some (op.precedence + 1) := by
  cases token with
  | dot | lParen | lBracket | plusPlus | minusMinus | question | assign | arrow => cases isOp
  | _ => exact congrArg (Option.map fun op : BinaryOp => op.precedence + 1) isOp

theorem Loose.stopsBelow {level : Nat} {tokens : Tokens} (loose : Loose (level + 1) tokens) :
    StopsBelow level tokens :=
  fun token next _ isOp =>
    Nat.lt_of_succ_lt_succ (loose token next _ (tie?_of_binaryOp? isOp))

theorem readPostfix_of_loose (lastLine : Nat) {tokens : Tokens}
    (loose : Loose Expr.operandTightness tokens) (head : Expr) :
    Gives (readPostfix lastLine head tokens) head tokens := by
  match tokens with
  | [] =>
    rw [readPostfix]
    exact Gives.ok _
  | ⟨line, token⟩ :: rest =>
    have untied : ∀ tie, token.tie? = some tie → tie ≠ Expr.operandTightness := fun tie ties =>
      Nat.ne_of_lt (loose token rfl tie ties)
    rw [readPostfix.eq_4 lastLine head line token rest
      (fun dot => untied _ (dot ▸ rfl) rfl) (fun paren => untied _ (paren ▸ rfl) rfl)
      (fun bracket => untied _ (bracket ▸ rfl) rfl)]
    have noOp : token.trailingOp? = none := by
      cases token with
      | plusPlus | minusMinus => exact absurd rfl (untied _ rfl)
      | _ => rfl
    rw [noOp]
    exact Gives.ok _

theorem readOperators_of_stops (lastLine : Nat) {least : Nat} {tokens : Tokens}
    (stops : StopsBelow least tokens) (left : Expr) :
    Gives (readOperators lastLine least left tokens) left tokens := by
  match tokens with
  | [] =>
    rw [readOperators]
    exact Gives.ok _
  | ⟨line, token⟩ :: rest =>
    rw [readOperators]
    split
    · next op isOp =>
      rw [if_pos (stops token rfl op isOp)]
      exact Gives.ok _
    · exact Gives.ok _

theorem gives_ident (lastLine : Nat) {name : String} (free : isReserved name = false) (line : Nat)
    (rest : Tokens) :
    Gives (readPrimary lastLine (⟨line, .word name⟩ :: rest)) (.ident name) rest := by
  have isNot (word : String) (reserved : isReserved word = true) : ¬ name = word := by
    rintro rfl
    rw [free] at reserved
    cases reserved
  rw [readPrimary.eq_def]
  dsimp only [literal?]
  rw [if_neg (isNot "true" rfl), if_neg (isNot "false" rfl), if_neg (isNot "null" rfl),
    if_neg (isNot "new" rfl), if_neg (Bool.eq_false_iff.mp free)]
  exact Gives.ok _

theorem readConditional_of_stops {lastLine : Nat} {tokens rest : Tokens} {condition : Expr}
    (given : Gives (readBinary lastLine 1 tokens) condition rest)
    (noMark : next? rest ≠ some .question) :
    Gives (readConditional lastLine tokens) condition rest := by
  rw [readConditional]
  refine given.bind fun _ => ?_
  dsimp only
  split
  · exact absurd rfl noMark
  · exact Gives.ok _

theorem readExpr_of_stops {lastLine : Nat} {tokens rest : Tokens} {target : Expr}
    (given : Gives (readConditional lastLine tokens) target rest)
    (noSign : ∀ op, next? rest ≠ some (.assign op)) (noArrow : next? rest ≠ some .arrow) :
    Gives (readExpr lastLine tokens) target rest := by
  rw [readExpr]
  refine given.bind fun _ => ?_
  dsimp only
  split
  · exact absurd rfl (noSign _)
  · exact absurd rfl noArrow
  · exact Gives.ok _

theorem readExprs_of_stops {lastLine : Nat} {tokens rest : Tokens} {expr : Expr}
    (given : Gives (readExpr lastLine tokens) expr rest) (noComma : next? rest ≠ some .comma) :
    Gives (readExprs lastLine tokens) [expr] rest := by
  rw [readExprs]
  refine given.bind fun _ => ?_
  dsimp only
  split
  · exact absurd rfl noComma
  · exact Gives.ok _

/-! ### Whole texts -/

theorem expectEnd_eq_ok {lastLine : Nat} {what : String} {tokens : Tokens} :
    expectEnd lastLine what tokens = .ok () ↔ tokens = [] := by
  cases tokens with
  | nil => exact iff_of_true rfl rfl
  | cons token rest =>
    constructor
    · intro ends
      cases ends
    · intro empty
      cases empty

/-- A text is an expression when reading it leaves no tokens. -/
theorem parseExpr_eq_ok {text : String} {expr : Expr} : parseExpr text = .ok expr ↔
    ∃ lexed, lex text = .ok lexed ∧
      Gives (readExpr lexed.lastLine lexed.tokens) expr [] := by
  constructor
  · intro parsed
    obtain ⟨lexed, lexes, parsed⟩ := exists_of_bind parsed
    obtain ⟨⟨found, rest, fewer⟩, reads, parsed⟩ := exists_of_bind parsed
    obtain ⟨⟨⟩, ends, same⟩ := exists_of_bind parsed
    obtain rfl := expectEnd_eq_ok.mp ends
    obtain rfl := Except.ok.inj same
    exact ⟨lexed, lexes, fewer, reads⟩
  · rintro ⟨lexed, lexes, fewer, reads⟩
    unfold parseExpr
    rw [lexes]
    show (readExpr lexed.lastLine lexed.tokens >>= _) = _
    rw [reads]
    rfl

end Storefront.Script
