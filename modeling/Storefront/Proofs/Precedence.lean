import Mathlib
import Storefront.Proofs.Genuine
import Storefront.Proofs.Nodes
import Storefront.Proofs.Readers
import Storefront.Script.Reading.Procedure

/-!
What reading an expression keeps. The tree that is read has every operator where its precedence puts
it, and the words and literals of the tree, read from left to right, are those of the text.

The first rests on an invariant of the loop over operators. What has been read so far is no looser
than any operator that comes next, because reading its last operand stopped there. The second holds
of every reader: it takes tokens from the front, and what it builds has their words in their order.
-/

namespace Storefront.Script

open Storefront.Text

/-! ### Words and literals -/

/-- Whether a token is a word or a literal, and no operator or punctuation. -/
def Token.isWordOrLiteral : Token → Bool
  | word _ | int _ | float _ | str _ | char _ => true
  | _ => false

/-- The words and literals among tokens. -/
def wordsIn (tokens : Tokens) : List Token :=
  (tokens.map Located.value).filter Token.isWordOrLiteral

/-- Whether a character is a mark that a type name may have behind its words. -/
def isTypeMark (c : Char) : Bool := c == '[' || c == ']' || c == '?'

/-- The words of a type name: dots stand between them, and marks behind them. -/
def typeWords (type : String) : List String :=
  ((type.toList.filter fun c => !isTypeMark c).splitOn '.').map String.ofList

mutual

/-- The words and literals of an expression from left to right, numbers without their sign. -/
def Expr.words : Expr → List Token
  | .ident name => [.word name]
  | .int value => [.int value.natAbs]
  | .float value => [.float value.unsigned]
  | .str value => [.str value]
  | .char value => [.char value]
  | .bool value => [.word (if value then "true" else "false")]
  | .null => [.word "null"]
  | .member target name => target.words ++ [.word name]
  | .index target args => target.words ++ wordsOf args
  | .call callee args => callee.words ++ wordsOf args
  | .unary _ operand => operand.words
  | .binary _ left right => left.words ++ right.words
  | .paren inner => inner.words
  | .cast type inner => .word type :: inner.words
  | .assign _ target value => target.words ++ value.words
  | .conditional condition whenTrue whenFalse =>
    condition.words ++ (whenTrue.words ++ whenFalse.words)
  | .create type args => .word "new" :: ((typeWords type).map .word ++ wordsOf args)

/-- The words and literals of expressions one after the other. -/
def wordsOf : List Expr → List Token
  | [] => []
  | expr :: rest => expr.words ++ wordsOf rest

end

/-! ### Type names -/

theorem typeWords_dot (first second : String) :
    typeWords (first ++ "." ++ second) = typeWords first ++ typeWords second := by
  have dot : ".".toList.filter (fun c => !isTypeMark c) = ['.'] := by decide
  unfold typeWords
  rw [String.toList_append, String.toList_append, List.filter_append, List.filter_append, dot,
    List.append_assoc, List.singleton_append, List.splitOn_append_cons_self, List.map_append]

theorem typeWords_mark (name mark : String) (marks : mark.toList.all isTypeMark = true) :
    typeWords (name ++ mark) = typeWords name := by
  have none : mark.toList.filter (fun c => !isTypeMark c) = [] := by
    refine List.filter_eq_nil_iff.mpr fun c member => ?_
    rw [List.all_eq_true.mp marks c member]
    decide
  unfold typeWords
  rw [String.toList_append, List.filter_append, none, List.append_nil]

/-- A word has neither dots nor marks in it. -/
theorem typeWords_word {text : String} (genuine : (Token.word text).Genuine) :
    typeWords text = [text] := by
  have unmarked : text.toList.filter (fun c => !isTypeMark c) = text.toList := by
    refine List.filter_eq_self.mpr fun c member => ?_
    have goesOn := genuine c member
    cases marked : isTypeMark c with
    | false => rfl
    | true =>
      simp only [isTypeMark, Bool.or_eq_true, beq_iff_eq] at marked
      obtain (rfl | rfl) | rfl := marked <;> exact absurd goesOn (by decide)
  have undotted : '.' ∉ text.toList := fun member => absurd (genuine '.' member) (by decide)
  unfold typeWords
  rw [unmarked, List.splitOn_eq_singleton undotted, List.map_singleton, String.ofList_toList]

/-! ### Taking tokens -/

/-- From tokens some words and literals are taken, in their order and without a gap, and the rest
is left. -/
structure Takes (tokens : Tokens) (words : List Token) (rest : Tokens) : Prop where
  ends : rest <:+ tokens
  inOrder : wordsIn tokens = words ++ wordsIn rest

theorem Takes.nothing (tokens : Tokens) : Takes tokens [] tokens :=
  ⟨List.suffix_rfl, rfl⟩

theorem Takes.trans {tokens middle rest : Tokens} {first second : List Token}
    (one : Takes tokens first middle) (other : Takes middle second rest) :
    Takes tokens (first ++ second) rest := by
  refine ⟨other.ends.trans one.ends, ?_⟩
  rw [one.inOrder, other.inOrder, List.append_assoc]

/-- Operators and punctuation are no words. -/
theorem Takes.mark (token : Token) (mark : token.isWordOrLiteral = false) (line : Nat)
    (rest : Tokens) : Takes (⟨line, token⟩ :: rest) [] rest := by
  refine ⟨List.suffix_cons _ _, ?_⟩
  rw [wordsIn, List.map_cons, List.filter_cons, if_neg (by rw [mark]; decide)]
  rfl

theorem Takes.word (token : Token) (word : token.isWordOrLiteral = true) (line : Nat)
    (rest : Tokens) : Takes (⟨line, token⟩ :: rest) [token] rest := by
  refine ⟨List.suffix_cons _ _, ?_⟩
  rw [wordsIn, List.map_cons, List.filter_cons, if_pos word]
  rfl

theorem Takes.genuine {tokens rest : Tokens} {words : List Token} (takes : Takes tokens words rest)
    (genuine : Genuine tokens) : Genuine rest :=
  fun token member => genuine token (takes.ends.subset member)

/-! ### What a reader keeps -/

/-- From tokens an expression was read that is no looser than `least`. -/
structure Sound (tokens : Tokens) (least : Nat) (expr : Expr) (rest : Tokens) : Prop where
  takes : Takes tokens expr.words rest
  grouped : expr.Grouped
  tight : least ≤ expr.tightness

/-- From tokens several expressions were read. -/
structure SoundList (tokens : Tokens) (exprs : List Expr) (rest : Tokens) : Prop where
  takes : Takes tokens (wordsOf exprs) rest
  grouped : Expr.EachOf (fun node => node.isGrouped = true) exprs

variable (lastLine : Nat)

theorem readTypeSuffix_takes (name : String) (tokens : Tokens) (genuine : Genuine tokens) :
    Ensures (readTypeSuffix lastLine name tokens) fun whole rest =>
      ∃ words, typeWords whole = typeWords name ++ words ∧
        Takes tokens (words.map .word) rest := by
  fun_induction readTypeSuffix lastLine name tokens with
  | case1 name line line' word rest inductionHypothesis =>
    have later : Genuine rest := fun token member =>
      genuine token (List.mem_cons_of_mem _ (List.mem_cons_of_mem _ member))
    refine (inductionHypothesis later).bind fun whole after _ found => Ensures.ok ?_
    obtain ⟨words, same, takes⟩ := found
    have ofWord : typeWords word = [word] := typeWords_word (genuine ⟨line', .word word⟩ (by simp))
    refine ⟨word :: words, ?_, ?_⟩
    · rw [same, typeWords_dot, ofWord, List.append_assoc, List.singleton_append]
    · exact (Takes.mark _ rfl line _).trans ((Takes.word _ rfl line' rest).trans takes)
  | case2 name line line' rest inductionHypothesis =>
    have later : Genuine rest := fun token member =>
      genuine token (List.mem_cons_of_mem _ (List.mem_cons_of_mem _ member))
    refine (inductionHypothesis later).bind fun whole after _ found => Ensures.ok ?_
    obtain ⟨words, same, takes⟩ := found
    refine ⟨words, same.trans (by rw [typeWords_mark name "[]" (by decide)]), ?_⟩
    exact (Takes.mark _ rfl line _).trans ((Takes.mark _ rfl line' rest).trans takes)
  | case3 name line rest inductionHypothesis =>
    have later : Genuine rest := fun token member => genuine token (List.mem_cons_of_mem _ member)
    refine (inductionHypothesis later).bind fun whole after _ found => Ensures.ok ?_
    obtain ⟨words, same, takes⟩ := found
    refine ⟨words, same.trans (by rw [typeWords_mark name "?" (by decide)]), ?_⟩
    exact (Takes.mark _ rfl line rest).trans takes
  | case4 => exact Ensures.faultAt
  | case5 name tokens => exact Ensures.ok ⟨[], (List.append_nil _).symm, Takes.nothing tokens⟩

/-- A type name is read from its words. -/
theorem readTypeName_takes (tokens : Tokens) (genuine : Genuine tokens) :
    Ensures (readTypeName lastLine tokens) fun type rest =>
      Takes tokens ((typeWords type).map .word) rest := by
  unfold readTypeName
  refine (readName_ensures lastLine tokens).bind fun name rest _ isName => ?_
  obtain ⟨-, line, rfl⟩ := isName
  have later : Genuine rest := fun token member => genuine token (List.mem_cons_of_mem _ member)
  refine (readTypeSuffix_takes lastLine name rest later).bind fun type after _ found =>
    Ensures.ok ?_
  obtain ⟨words, same, takes⟩ := found
  rw [same, typeWords_word (genuine ⟨line, .word name⟩ (by simp)), List.map_append]
  exact (Takes.word _ rfl line rest).trans takes

/-- What was read is also no looser than anything looser. -/
theorem Sound.looser {tokens rest : Tokens} {least lower : Nat} {expr : Expr}
    (sound : Sound tokens least expr rest) (le : lower ≤ least) : Sound tokens lower expr rest :=
  ⟨sound.takes, sound.grouped, Nat.le_trans le sound.tight⟩

/-- A literal is the word that it was read from. -/
theorem sound_of_literal? {token : Token} {literal : Expr}
    (isLiteral : literal? token = some literal) (genuine : token.Genuine)
    (line : Nat) (rest : Tokens) :
    Sound (⟨line, token⟩ :: rest) Expr.operandTightness literal rest := by
  unfold literal? at isLiteral
  split at isLiteral
  · next value =>
    obtain rfl := Option.some.inj isLiteral
    have same : (value.natAbs : Int) = value := Int.natAbs_of_nonneg genuine.1
    refine ⟨?_, (Expr.each_leaf rfl).mpr rfl, Nat.le_refl _⟩
    rw [Expr.words, same]
    exact Takes.word _ rfl line rest
  · next value =>
    obtain rfl := Option.some.inj isLiteral
    refine ⟨?_, (Expr.each_leaf rfl).mpr rfl, Nat.le_refl _⟩
    rw [Expr.words, Number.unsigned_of_positive genuine]
    exact Takes.word _ rfl line rest
  · obtain rfl := Option.some.inj isLiteral
    exact ⟨Takes.word _ rfl line rest, (Expr.each_leaf rfl).mpr rfl, Nat.le_refl _⟩
  · obtain rfl := Option.some.inj isLiteral
    exact ⟨Takes.word _ rfl line rest, (Expr.each_leaf rfl).mpr rfl, Nat.le_refl _⟩
  · cases isLiteral

theorem isWordOrLiteral_of_binaryOp? {token : Token} {op : BinaryOp}
    (isOp : token.binaryOp? = some op) : token.isWordOrLiteral = false := by
  cases token with
  | word | int | float | str | char => cases isOp
  | _ => rfl

theorem isWordOrLiteral_of_leadingOp? {token : Token} {op : UnaryOp}
    (isOp : token.leadingOp? = some op) :
    token.isWordOrLiteral = false ∧ op.followsOperand = false := by
  unfold Token.leadingOp? at isOp
  split at isOp <;> cases isOp <;> exact ⟨rfl, rfl⟩

theorem isWordOrLiteral_of_trailingOp? {token : Token} {op : UnaryOp}
    (isOp : token.trailingOp? = some op) :
    token.isWordOrLiteral = false ∧ op.followsOperand = true := by
  unfold Token.trailingOp? at isOp
  split at isOp <;> cases isOp <;> exact ⟨rfl, rfl⟩

/-- What the start of an operand takes. -/
def Lead.Takes (tokens : Tokens) {bound : Nat} : Lead bound → Prop
  | .operator op rest _ => Script.Takes tokens [] rest ∧ op.followsOperand = false
  | .negated literal rest _ => Sound tokens Expr.operandTightness literal rest
  | .cast type rest _ => Script.Takes tokens [.word type] rest
  | .operand => True

theorem leadOf_takes (tokens : Tokens) (genuine : Genuine tokens) :
    (leadOf tokens).Takes tokens := by
  unfold leadOf
  split
  · next line line' value rest =>
    have positive : 0 ≤ value := (genuine ⟨line', .int value⟩ (by simp)).1
    have same : ((-value).natAbs : Int) = value := by omega
    refine ⟨?_, (Expr.each_leaf rfl).mpr rfl, Nat.le_refl _⟩
    rw [Expr.words, same]
    exact (Takes.mark _ rfl line _).trans (Takes.word _ rfl line' rest)
  · next line line' value rest =>
    have positive : value.negative = false := genuine ⟨line', .float value⟩ (by simp)
    refine ⟨?_, (Expr.each_leaf rfl).mpr rfl, Nat.le_refl _⟩
    rw [Expr.words, Number.unsigned_neg_of_positive positive]
    exact (Takes.mark _ rfl line _).trans (Takes.word _ rfl line' rest)
  · next line line' type line'' rest =>
    split
    · exact (Takes.mark _ rfl line _).trans
        ((Takes.word _ rfl line' _).trans (Takes.mark _ rfl line'' rest))
    · exact trivial
  · next line token rest _ _ _ =>
    split
    · next op isOp =>
      obtain ⟨mark, leads⟩ := isWordOrLiteral_of_leadingOp? isOp
      exact ⟨Takes.mark _ mark line rest, leads⟩
    · exact trivial
  · exact trivial

/-! ### The readers of expressions -/

mutual

theorem readExpr_sound (tokens : Tokens) (genuine : Genuine tokens) :
    Ensures (readExpr lastLine tokens) (Sound tokens 0) := by
  rw [readExpr]
  refine (readConditional_sound tokens genuine).bind fun target rest fewer onTarget => ?_
  have later := onTarget.takes.genuine genuine
  dsimp only
  split
  · next line op afterSign fewer =>
    have shorter : afterSign.length + 1 < tokens.length := fewer
    have sign := Takes.mark (.assign op) rfl line afterSign
    refine (readExpr_sound afterSign (sign.genuine later)).bind fun value after _ onValue =>
      Ensures.ok ⟨?_, ?_, Nat.zero_le _⟩
    · exact onTarget.takes.trans (sign.trans onValue.takes)
    · exact Expr.each_assign.mpr ⟨decide_eq_true onTarget.tight, onTarget.grouped, onValue.grouped⟩
  · exact Ensures.faultAt
  · exact Ensures.ok (onTarget.looser (Nat.zero_le _))
termination_by tokens.length * 10 + 6
decreasing_by all_goals omega

theorem readConditional_sound (tokens : Tokens) (genuine : Genuine tokens) :
    Ensures (readConditional lastLine tokens) (Sound tokens 1) := by
  rw [readConditional]
  refine (readBinary_sound 1 (by decide) tokens genuine).bind fun condition rest fewer found => ?_
  obtain ⟨onCondition, -⟩ := found
  have later := onCondition.takes.genuine genuine
  dsimp only
  split
  · next line afterMark fewer =>
    have shorter : afterMark.length + 1 < tokens.length := fewer
    have mark := Takes.mark .question rfl line afterMark
    refine (readExpr_sound afterMark (mark.genuine later)).bind
      fun whenTrue atColon fewer₁ onTrue => ?_
    refine (expect_ensures _ _ _ atColon).bind fun _ afterColon fewer₂ isColon => ?_
    obtain ⟨line', rfl⟩ := isColon
    have colon := Takes.mark .colon rfl line' afterColon
    have between := mark.trans (onTrue.takes.trans colon)
    refine (readConditional_sound afterColon (between.genuine later)).bind
      fun whenFalse after _ onFalse => Ensures.ok ⟨?_, ?_, Nat.le_refl _⟩
    · have whole := onCondition.takes.trans (between.trans onFalse.takes)
      rwa [List.nil_append, List.append_nil] at whole
    · refine Expr.each_conditional.mpr
        ⟨?_, onCondition.grouped, onTrue.grouped, onFalse.grouped⟩
      exact Bool.and_eq_true_iff.mpr
        ⟨decide_eq_true onCondition.tight, decide_eq_true onFalse.tight⟩
  · exact Ensures.ok (onCondition.looser (by decide))
termination_by tokens.length * 10 + 5
decreasing_by all_goals omega

theorem readBinary_sound (least : Nat) (within : least < Expr.leadingTightness) (tokens : Tokens)
    (genuine : Genuine tokens) :
    Ensures (readBinary lastLine least tokens)
      fun expr rest => Sound tokens (least + 1) expr rest ∧ StopsBelow least rest := by
  rw [readBinary]
  refine (readUnary_sound tokens genuine).bind fun left rest fewer onLeft => ?_
  -- No operator on two operands is as tight as the first operand, which is not one itself.
  have tighter : StopsBelow left.tightness rest := fun _ _ op _ =>
    Nat.lt_of_lt_of_le (Nat.lt_succ_of_le (Nat.le_succ_of_le op.precedence_le)) onLeft.tight
  exact (readOperators_sound tokens least left rest (onLeft.looser within) tighter
    (onLeft.takes.genuine genuine)).bind fun whole after _ onWhole => Ensures.ok onWhole
termination_by tokens.length * 10 + 4
decreasing_by all_goals omega

/-- What was read so far stays the left operand of the next operator: none that comes next is
tighter. -/
theorem readOperators_sound (source : Tokens) (least : Nat) (left : Expr) (tokens : Tokens)
    (sofar : Sound source (least + 1) left tokens) (tighter : StopsBelow left.tightness tokens)
    (genuine : Genuine tokens) :
    Ensures (readOperators lastLine least left tokens)
      fun expr rest => Sound source (least + 1) expr rest ∧ StopsBelow least rest := by
  match tokens, sofar, tighter, genuine with
  | [], sofar, _, _ =>
    rw [readOperators]
    refine Ensures.ok ⟨sofar, ?_⟩
    rintro _ ⟨⟩
  | ⟨line, token⟩ :: rest, sofar, tighter, genuine =>
    rw [readOperators]
    split
    · next op isOp =>
      split
      · next below =>
        refine Ensures.ok ⟨sofar, ?_⟩
        rintro _ ⟨⟩ op' isOp'
        obtain rfl := Option.some.inj (isOp.symm.trans isOp')
        exact below
      · next enough =>
        have sign := Takes.mark _ (isWordOrLiteral_of_binaryOp? isOp) line rest
        have leftTight : op.precedence + 1 ≤ left.tightness := tighter token rfl op isOp
        refine (readBinary_sound (op.precedence + 1)
          (Nat.succ_lt_succ (Nat.lt_succ_of_le op.precedence_le)) rest
          (sign.genuine genuine)).bind fun right afterRight fewer found => ?_
        obtain ⟨onRight, stops⟩ := found
        have both : Sound source (least + 1) (.binary op left right) afterRight := by
          refine ⟨sofar.takes.trans (sign.trans onRight.takes), ?_,
            Nat.succ_le_succ (Nat.not_lt.mp enough)⟩
          refine Expr.each_binary.mpr ⟨?_, sofar.grouped, onRight.grouped⟩
          exact Bool.and_eq_true_iff.mpr
            ⟨decide_eq_true leftTight, decide_eq_true onRight.tight⟩
        exact (readOperators_sound source least (.binary op left right) afterRight both stops
          (onRight.takes.genuine (sign.genuine genuine))).bind
            fun whole after _ onWhole => Ensures.ok onWhole
    · next noOp =>
      refine Ensures.ok ⟨sofar, ?_⟩
      rintro _ ⟨⟩ op isOp
      rw [noOp] at isOp
      cases isOp
termination_by tokens.length * 10
decreasing_by all_goals simp only [List.length_cons] at *; omega

theorem readUnary_sound (tokens : Tokens) (genuine : Genuine tokens) :
    Ensures (readUnary lastLine tokens) (Sound tokens Expr.leadingTightness) := by
  rw [readUnary]
  have lead := leadOf_takes tokens genuine
  split
  · next op rest fewer found =>
    rw [found] at lead
    obtain ⟨takes, leads⟩ := lead
    have tight (operand : Expr) : (Expr.unary op operand).tightness = Expr.leadingTightness := by
      rw [Expr.tightness, leads]
      rfl
    refine (readUnary_sound rest (takes.genuine genuine)).bind fun operand after _ onOperand =>
      Ensures.ok ⟨takes.trans onOperand.takes, ?_, Nat.le_of_eq (tight operand).symm⟩
    refine Expr.each_unary.mpr ⟨?_, onOperand.grouped⟩
    exact decide_eq_true (Nat.le_trans (Nat.le_of_eq (tight operand)) onOperand.tight)
  · next literal rest fewer found =>
    rw [found] at lead
    exact (readPostfix_sound tokens literal rest lead (lead.takes.genuine genuine)).bind
      fun whole after _ onWhole => Ensures.ok (onWhole.looser (by decide))
  · next type rest fewer found =>
    rw [found] at lead
    refine (readUnary_sound rest (lead.genuine genuine)).bind fun inner after _ onInner =>
      Ensures.ok ⟨Takes.trans lead onInner.takes, ?_, Nat.le_refl _⟩
    exact Expr.each_cast.mpr ⟨decide_eq_true onInner.tight, onInner.grouped⟩
  · refine (readPrimary_sound tokens genuine).bind fun primary rest fewer onPrimary => ?_
    exact (readPostfix_sound tokens primary rest onPrimary (onPrimary.takes.genuine genuine)).bind
      fun whole after _ onWhole => Ensures.ok (onWhole.looser (by decide))
termination_by tokens.length * 10 + 3
decreasing_by all_goals omega

theorem readPostfix_sound (source : Tokens) (head : Expr) (tokens : Tokens)
    (sofar : Sound source Expr.operandTightness head tokens) (genuine : Genuine tokens) :
    Ensures (readPostfix lastLine head tokens) (Sound source Expr.operandTightness) := by
  match tokens, sofar, genuine with
  | [], sofar, _ =>
    rw [readPostfix]
    exact Ensures.ok sofar
  | ⟨line, token⟩ :: rest, sofar, genuine =>
  by_cases isDot : token = .dot
  · subst isDot
    rw [readPostfix]
    have dot := Takes.mark .dot rfl line rest
    refine (readMemberName_ensures lastLine rest).bind fun name afterName fewer found => ?_
    obtain ⟨-, line', rfl⟩ := found
    have word := Takes.word (.word name) rfl line' afterName
    have member : Sound source Expr.operandTightness (.member head name) afterName :=
      ⟨sofar.takes.trans (dot.trans word),
        Expr.each_member.mpr ⟨decide_eq_true sofar.tight, sofar.grouped⟩, Nat.le_refl _⟩
    exact (readPostfix_sound source (.member head name) afterName member
      (word.genuine (dot.genuine genuine))).bind fun whole after _ onWhole => Ensures.ok onWhole
  by_cases isParen : token = .lParen
  · subst isParen
    rw [readPostfix]
    have opening := Takes.mark .lParen rfl line rest
    refine (readArgs_sound .rParen rest (opening.genuine genuine)).bind
      fun args atClose fewer onArgs => ?_
    refine (expect_ensures _ _ _ atClose).bind fun _ afterClose fewer₁ isClose => ?_
    obtain ⟨line', rfl⟩ := isClose
    have closing := Takes.mark .rParen rfl line' afterClose
    have between := opening.trans (onArgs.takes.trans closing)
    have call : Sound source Expr.operandTightness (.call head args) afterClose := by
      refine ⟨?_, ?_, Nat.le_refl _⟩
      · have whole := sofar.takes.trans between
        rwa [List.nil_append, List.append_nil] at whole
      · exact Expr.each_call.mpr ⟨decide_eq_true sofar.tight, sofar.grouped, onArgs.grouped⟩
    exact (readPostfix_sound source (.call head args) afterClose call
      (between.genuine genuine)).bind fun whole after _ onWhole => Ensures.ok onWhole
  by_cases isBracket : token = .lBracket
  · subst isBracket
    rw [readPostfix]
    have opening := Takes.mark .lBracket rfl line rest
    refine (readArgs_sound .rBracket rest (opening.genuine genuine)).bind
      fun args atClose fewer onArgs => ?_
    refine (expect_ensures _ _ _ atClose).bind fun _ afterClose fewer₁ isClose => ?_
    obtain ⟨line', rfl⟩ := isClose
    have closing := Takes.mark .rBracket rfl line' afterClose
    have between := opening.trans (onArgs.takes.trans closing)
    have index : Sound source Expr.operandTightness (.index head args) afterClose := by
      refine ⟨?_, ?_, Nat.le_refl _⟩
      · have whole := sofar.takes.trans between
        rwa [List.nil_append, List.append_nil] at whole
      · exact Expr.each_index.mpr ⟨decide_eq_true sofar.tight, sofar.grouped, onArgs.grouped⟩
    exact (readPostfix_sound source (.index head args) afterClose index
      (between.genuine genuine)).bind fun whole after _ onWhole => Ensures.ok onWhole
  · rw [readPostfix.eq_4 lastLine head line token rest isDot isParen isBracket]
    split
    · next op isOp =>
      obtain ⟨mark, follows⟩ := isWordOrLiteral_of_trailingOp? isOp
      have sign := Takes.mark _ mark line rest
      have tight : (Expr.unary op head).tightness = Expr.operandTightness := by
        rw [Expr.tightness, follows]
        rfl
      have unary : Sound source Expr.operandTightness (.unary op head) rest := by
        refine ⟨?_, ?_, Nat.le_of_eq tight.symm⟩
        · have whole := sofar.takes.trans sign
          rwa [List.append_nil] at whole
        · exact Expr.each_unary.mpr
            ⟨decide_eq_true (Nat.le_trans (Nat.le_of_eq tight) sofar.tight), sofar.grouped⟩
      exact (readPostfix_sound source (.unary op head) rest unary (sign.genuine genuine)).bind
        fun whole after _ onWhole => Ensures.ok onWhole
    · exact Ensures.ok sofar
termination_by tokens.length * 10
decreasing_by all_goals simp only [List.length_cons] at *; omega

theorem readArgs_sound (close : Token) (tokens : Tokens) (genuine : Genuine tokens) :
    Ensures (readArgs lastLine close tokens) (SoundList tokens) := by
  rw [readArgs]
  split
  · exact Ensures.faultAt
  · exact Ensures.faultAt
  · exact readExprList_sound close tokens genuine
termination_by tokens.length * 10 + 9
decreasing_by all_goals omega

theorem readExprList_sound (close : Token) (tokens : Tokens) (genuine : Genuine tokens) :
    Ensures (readExprList lastLine close tokens) (SoundList tokens) := by
  rw [readExprList]
  split
  · exact Ensures.ok ⟨Takes.nothing tokens, Expr.eachOf_nil⟩
  · exact (readExprs_sound tokens genuine).bind fun exprs rest _ onExprs => Ensures.ok onExprs
termination_by tokens.length * 10 + 8
decreasing_by all_goals omega

theorem readExprs_sound (tokens : Tokens) (genuine : Genuine tokens) :
    Ensures (readExprs lastLine tokens) (SoundList tokens) := by
  rw [readExprs]
  refine (readExpr_sound tokens genuine).bind fun expr rest fewer onExpr => ?_
  have later := onExpr.takes.genuine genuine
  dsimp only
  split
  · next line afterComma fewer =>
    have shorter : afterComma.length + 1 < tokens.length := fewer
    have comma := Takes.mark .comma rfl line afterComma
    exact (readExprs_sound afterComma (comma.genuine later)).bind fun exprs after _ onExprs =>
      Ensures.ok ⟨onExpr.takes.trans (comma.trans onExprs.takes),
        Expr.eachOf_cons.mpr ⟨onExpr.grouped, onExprs.grouped⟩⟩
  · refine Ensures.ok ⟨?_, Expr.eachOf_cons.mpr ⟨onExpr.grouped, Expr.eachOf_nil⟩⟩
    rw [wordsOf, wordsOf, List.append_nil]
    exact onExpr.takes
termination_by tokens.length * 10 + 7
decreasing_by all_goals omega

theorem readPrimary_sound (tokens : Tokens) (genuine : Genuine tokens) :
    Ensures (readPrimary lastLine tokens) (Sound tokens Expr.operandTightness) := by
  match tokens, genuine with
  | [], _ =>
    rw [readPrimary]
    exact Ensures.error
  | ⟨line, token⟩ :: rest, genuine =>
    rw [readPrimary.eq_def]
    dsimp only
    split
    · next literal isLiteral =>
      exact Ensures.ok (sound_of_literal? isLiteral (genuine _ List.mem_cons_self) line rest)
    · have opening := Takes.mark .lParen rfl line rest
      refine (readExpr_sound rest (opening.genuine genuine)).bind
        fun inner atClose fewer onInner => ?_
      refine (expect_ensures _ _ _ atClose).bind fun _ after _ isClose => Ensures.ok ?_
      obtain ⟨line', rfl⟩ := isClose
      have closing := Takes.mark .rParen rfl line' after
      refine ⟨?_, Expr.each_paren.mpr ⟨rfl, onInner.grouped⟩, Nat.le_refl _⟩
      have whole := opening.trans (onInner.takes.trans closing)
      rwa [List.nil_append, List.append_nil] at whole
    · next word _ =>
      have taken := Takes.word (.word word) rfl line rest
      split
      · next isTrue =>
        subst isTrue
        exact Ensures.ok ⟨taken, (Expr.each_leaf rfl).mpr rfl, Nat.le_refl _⟩
      split
      · next isFalse =>
        subst isFalse
        exact Ensures.ok ⟨taken, (Expr.each_leaf rfl).mpr rfl, Nat.le_refl _⟩
      split
      · next isNull =>
        subst isNull
        exact Ensures.ok ⟨taken, (Expr.each_leaf rfl).mpr rfl, Nat.le_refl _⟩
      split
      · next isNew =>
        subst isNew
        refine (readCreation_sound rest (taken.genuine genuine)).bind
          fun created after _ onCreated => Ensures.ok ?_
        obtain ⟨words, same, takes, grouped, tight⟩ := onCreated
        refine ⟨?_, grouped, tight⟩
        rw [same]
        exact taken.trans takes
      split
      · exact Ensures.error
      · exact Ensures.ok ⟨taken, (Expr.each_leaf rfl).mpr rfl, Nat.le_refl _⟩
    · exact Ensures.error
termination_by tokens.length * 10 + 2
decreasing_by all_goals simp only [List.length_cons] at *; omega

/-- The words of a creation are its keyword and those that it takes after that. -/
theorem readCreation_sound (tokens : Tokens) (genuine : Genuine tokens) :
    Ensures (readCreation lastLine tokens) fun expr rest =>
      ∃ words, expr.words = .word "new" :: words ∧ Takes tokens words rest ∧ expr.Grouped ∧
        Expr.operandTightness ≤ expr.tightness := by
  rw [readCreation]
  refine (readTypeName_takes lastLine tokens genuine).bind fun type rest fewer onType => ?_
  have later := onType.genuine genuine
  dsimp only
  split
  · next line afterOpen fewer =>
    have shorter : afterOpen.length + 1 < tokens.length := fewer
    have opening := Takes.mark .lParen rfl line afterOpen
    refine (readArgs_sound .rParen afterOpen (opening.genuine later)).bind
      fun args atClose _ onArgs => ?_
    refine (expect_ensures _ _ _ atClose).bind fun _ after _ isClose => ?_
    obtain ⟨line', rfl⟩ := isClose
    dsimp only
    split
    · exact Ensures.faultAt
    · have closing := Takes.mark .rParen rfl line' after
      refine Ensures.ok ⟨_, rfl, ?_, Expr.each_create.mpr ⟨rfl, onArgs.grouped⟩, Nat.le_refl _⟩
      have whole := onType.trans (opening.trans (onArgs.takes.trans closing))
      rwa [List.nil_append, List.append_nil] at whole
  · exact Ensures.faultAt
termination_by tokens.length * 10 + 1
decreasing_by all_goals omega

end

/-! ### Whole texts -/

/-- The expression that a text consists of has every operator where its precedence puts it, and has
exactly the words and literals of the text, in their order. -/
theorem parseExpr_keeps {text : String} {expr : Expr} (parsed : parseExpr text = .ok expr) :
    expr.Grouped ∧ ∃ lexed, lex text = .ok lexed ∧ expr.words = wordsIn lexed.tokens := by
  obtain ⟨lexed, lexes, reads⟩ := parseExpr_eq_ok.mp parsed
  have sound := readExpr_sound lexed.lastLine lexed.tokens (genuine_of_lex lexes) expr [] reads
  refine ⟨sound.grouped, lexed, lexes, ?_⟩
  rw [sound.takes.inOrder]
  exact (List.append_nil _).symm

theorem parseExpr_keeps_sum :
    parseExpr "a + -1 * b.c" = .ok (.binary .add (.ident "a")
        (.binary .mul (.int (-1)) (.member (.ident "b") "c"))) ∧
      ∃ lexed, lex "a + -1 * b.c" = .ok lexed ∧
        wordsIn lexed.tokens = [.word "a", .int 1, .word "b", .word "c"] := by
  have parsed : parseExpr "a + -1 * b.c" = .ok (.binary .add (.ident "a")
      (.binary .mul (.int (-1)) (.member (.ident "b") "c"))) := by cbv
  obtain ⟨-, lexed, lexes, words⟩ := parseExpr_keeps parsed
  exact ⟨parsed, lexed, lexes, words.symm⟩

end Storefront.Script
