import Storefront.Guard.Condition
import Storefront.Proofs.Exprs
import Storefront.Proofs.Layout
import Storefront.Proofs.PlainText

/-!
Texts in one line. A script may break its lines anywhere, and its strings and characters may hold
line breaks. None of them gets into the text of an expression, because quoted text escapes them and
the words that a script is made of have none. The line that stands for a statement is made of such
texts.
-/

namespace Storefront.Text

/-! ### Texts without line breaks -/

/-- Whether a text stays in one line. -/
def Unbroken (text : String) : Prop := '\n' ∉ text.toList

instance (text : String) : Decidable (Unbroken text) :=
  inferInstanceAs (Decidable ('\n' ∉ text.toList))

theorem unbroken_empty : Unbroken "" := by decide

theorem Unbroken.append {first second : String} (here : Unbroken first) (there : Unbroken second) :
    Unbroken (first ++ second) := by
  rw [Unbroken, String.toList_append, List.mem_append]
  exact not_or.mpr ⟨here, there⟩

theorem Unbroken.intercalate {separator : String} (single : Unbroken separator)
    {texts : List String} (all : ∀ text ∈ texts, Unbroken text) :
    Unbroken (separator.intercalate texts) := by
  induction texts with
  | nil => exact unbroken_empty
  | cons first rest inductionHypothesis =>
    obtain ⟨onFirst, onRest⟩ := List.forall_mem_cons.mp all
    cases rest with
    | nil => rwa [String.intercalate_singleton]
    | cons second others =>
      rw [String.intercalate_cons_cons]
      exact (onFirst.append single).append (inductionHypothesis onRest)

theorem unbroken_join {texts : List String} (all : ∀ text ∈ texts, Unbroken text) :
    Unbroken (String.join texts) := by
  rw [Unbroken, String.toList_join, List.mem_flatMap]
  rintro ⟨text, member, isBroken⟩
  exact all text member isBroken

theorem unbroken_ofList {text : List Char} (all : '\n' ∉ text) :
    Unbroken (String.ofList text) := by
  rwa [Unbroken, String.toList_ofList]

theorem unbroken_pushn (c : Char) (noBreak : c ≠ '\n') (count : Nat) :
    Unbroken ("".pushn c count) := by
  rw [Unbroken, Json.toList_pushn]
  intro member
  exact noBreak (List.eq_of_mem_replicate member).symm

/-! ### Numbers -/

theorem exists_of_mem_toDigits {base : Nat} (large : 1 < base) (value : Nat) {c : Char}
    (member : c ∈ base.toDigits value) : ∃ digit < base, c = digit.digitChar := by
  rcases Nat.lt_or_ge value base with small | big
  · rw [Nat.toDigits_of_lt_base small] at member
    exact ⟨value, small, List.mem_singleton.mp member⟩
  · rw [Nat.toDigits_of_base_le large big] at member
    rcases List.mem_append.mp member with earlier | last
    · exact exists_of_mem_toDigits large (value / base) earlier
    · exact ⟨value % base, Nat.mod_lt _ (Nat.zero_lt_of_lt large), List.mem_singleton.mp last⟩
termination_by value
decreasing_by exact Nat.div_lt_self (Nat.lt_of_lt_of_le (Nat.zero_lt_of_lt large) big) large

/-- The text of a whole number has digits and a sign, and nothing else. -/
theorem numeric_of_mem_toString (value : Int) :
    ∀ c ∈ (toString value).toList, (c.isDigit || c == '-') = true := by
  have digits (size : Nat) : ∀ c ∈ Nat.toDigits 10 size, (c.isDigit || c == '-') = true :=
    fun c member => by
      rw [Nat.isDigit_of_mem_toDigits (by decide) (by decide) member]
      rfl
  cases value with
  | ofNat size =>
    have spelled : (toString (Int.ofNat size)).toList = Nat.toDigits 10 size := Nat.toList_repr
    rw [spelled]
    exact digits size
  | negSucc size =>
    rw [Json.toString_negSucc]
    exact List.forall_mem_cons.mpr ⟨rfl, digits (size + 1)⟩

theorem unbroken_toString (value : Int) : Unbroken (toString value) :=
  fun member => absurd (numeric_of_mem_toString value '\n' member) (by decide)

theorem unbroken_toString_nat (value : Nat) : Unbroken (toString value) :=
  unbroken_toString (Int.ofNat value)

end Storefront.Text

namespace Storefront.Number

open Storefront.Text

theorem Decimal.unbroken_positional (decimal : Decimal) : Unbroken decimal.positional := by
  have digits : Unbroken decimal.digitText := unbroken_toString_nat decimal.digits
  unfold positional
  dsimp only
  split
  · exact ((by decide : Unbroken "0.").append (unbroken_pushn '0' (by decide) _)).append digits
  · split
    · exact (digits.append (unbroken_pushn '0' (by decide) _)).append (by decide)
    · refine Unbroken.append (Unbroken.append ?_ (by decide)) ?_
      · exact unbroken_ofList fun member => digits (List.mem_of_mem_take member)
      · exact unbroken_ofList fun member => digits (List.mem_of_mem_drop member)

theorem Floating.unbroken_text {format : Format} (x : Floating format) :
    Unbroken (x.text .plain) := by
  have sign : Unbroken (if x.negative then "-" else "") := by
    split <;> decide
  unfold text
  dsimp only
  split
  · decide
  · split
    · exact sign.append (by decide)
    · split
      · exact (sign.append (unbroken_toString_nat _)).append (by decide)
      · refine sign.append ?_
        rw [if_neg (by rw [NumberStyle.plain, Bool.and_false]; exact Bool.false_ne_true)]
        exact x.shortest.unbroken_positional

end Storefront.Number

namespace Storefront.Text

/-! ### Quoted text -/

theorem unbroken_codeEscape (c : Char) : Unbroken (codeEscape c) := by
  have digits : '\n' ∉ Nat.toDigits 16 c.toNat := by
    intro member
    obtain ⟨digit, small, same⟩ := exists_of_mem_toDigits (by decide) _ member
    have noBreak : ∀ digit < 16, '\n' ≠ digit.digitChar := by decide
    exact noBreak digit small same
  exact ((by decide : Unbroken "\\u\x7b").append (unbroken_ofList digits)).append (by decide)

theorem unbroken_singleton {c : Char} (noBreak : c ≠ '\n') : Unbroken c.toString := by
  rw [Unbroken, Char.toString, String.toList_singleton]
  exact fun member => noBreak (List.mem_singleton.mp member).symm

theorem unbroken_backslash {c : Char} (noBreak : c ≠ '\n') :
    Unbroken (String.ofList ['\\', c]) := by
  refine unbroken_ofList fun member => ?_
  rcases List.mem_pair.mp member with backslash | same
  · cases backslash
  · exact noBreak same.symm

/-- A line break has an escape of its own, and no other character has one in its escape. -/
theorem unbroken_escaped {mark : Char} (single : mark ≠ '\n') (c : Char) :
    Unbroken (escaped mark c) := by
  by_cases isBreak : c = '\n'
  · subst isBreak
    have spelled : escaped mark '\n' = "\\n" := by
      rw [escaped, if_neg (by simp [single.symm])]
      rfl
    rw [spelled]
    decide
  · unfold escaped
    split
    · exact unbroken_backslash isBreak
    · iterate 3 (split; · decide)
      split
      · exact unbroken_singleton isBreak
      · exact unbroken_codeEscape c

theorem unbroken_escapedAscii (c : Char) : Unbroken (escapedAscii c) := by
  by_cases isBreak : c = '\n'
  · subst isBreak
    decide
  · unfold escapedAscii
    iterate 2 (split; · decide)
    split
    · exact unbroken_backslash isBreak
    · split
      · exact unbroken_singleton isBreak
      · exact unbroken_codeEscape c

theorem unbroken_quoted (text : String) : Unbroken (quoted text) := by
  refine Unbroken.append (Unbroken.append (by decide) (unbroken_join fun piece member => ?_))
    (by decide)
  obtain ⟨c, -, rfl⟩ := List.mem_map.mp member
  exact unbroken_escaped (by decide) c

end Storefront.Text

namespace Storefront.Script

open Storefront.Text

/-! ### Expressions -/

theorem unbroken_word {text : String} (genuine : (Token.word text).Genuine) : Unbroken text :=
  fun member => absurd (genuine '\n' member) (by decide)

theorem exists_of_mem_intercalate {α : Type} {separator : List α} {value : α}
    {parts : List (List α)} (member : value ∈ separator.intercalate parts) :
    value ∈ separator ∨ ∃ part ∈ parts, value ∈ part := by
  induction parts with
  | nil => exact absurd member List.not_mem_nil
  | cons first rest inductionHypothesis =>
    cases rest with
    | nil =>
      rw [List.intercalate_singleton] at member
      exact .inr ⟨first, List.mem_cons_self, member⟩
    | cons second others =>
      rw [List.intercalate_cons_cons, List.mem_append, List.mem_append] at member
      rcases member with (inFirst | inSeparator) | inRest
      · exact .inr ⟨first, List.mem_cons_self, inFirst⟩
      · exact .inl inSeparator
      · refine (inductionHypothesis inRest).imp_right ?_
        rintro ⟨part, partMember, inPart⟩
        exact ⟨part, List.mem_cons_of_mem first partMember, inPart⟩

/-- A type name is made of words, dots and marks. -/
theorem unbroken_type {type : String}
    (genuine : ∀ token ∈ (typeWords type).map Token.word, token.Genuine) : Unbroken type := by
  intro member
  have unmarked : '\n' ∈ type.toList.filter fun c => !isTypeMark c :=
    List.mem_filter.mpr ⟨member, by decide⟩
  rw [← @List.intercalate_splitOn _ (type.toList.filter _) _ _ '.'] at unmarked
  obtain ⟨part, partMember, inPart⟩ :=
    (exists_of_mem_intercalate unmarked).resolve_left (by decide)
  have isWord : String.ofList part ∈ typeWords type := List.mem_map_of_mem partMember
  refine unbroken_word (genuine _ (List.mem_map_of_mem isWord)) ?_
  rwa [String.toList_ofList]

theorem UnaryOp.unbroken_symbol (op : UnaryOp) : Unbroken op.symbol := by cases op <;> decide

theorem BinaryOp.unbroken_symbol (op : BinaryOp) : Unbroken op.symbol := by cases op <;> decide

mutual

/-- The text of an expression that is made of the words of a script stays in one line. -/
theorem unbroken_text : (expr : Expr) → (∀ token ∈ expr.words, token.Genuine) → Unbroken expr.text
  | .ident _, genuine => unbroken_word (genuine _ List.mem_cons_self)
  | .int value, _ => unbroken_toString value
  | .float value, _ => value.unbroken_text
  | .str value, _ => unbroken_quoted value
  | .char value, _ => ((by decide : Unbroken "'").append (unbroken_escapedAscii value)).append
    (by decide)
  | .bool value, _ => by cases value <;> decide
  | .null, _ => by decide
  | .member target name, genuine => by
    obtain ⟨onTarget, onName⟩ := List.forall_mem_append.mp genuine
    exact ((unbroken_text target onTarget).append (by decide)).append
      (unbroken_word (onName _ List.mem_cons_self))
  | .index target args, genuine => by
    obtain ⟨onTarget, onArgs⟩ := List.forall_mem_append.mp genuine
    exact (((unbroken_text target onTarget).append (by decide)).append
      (.intercalate (by decide) (unbroken_texts args onArgs))).append (by decide)
  | .call callee args, genuine => by
    obtain ⟨onCallee, onArgs⟩ := List.forall_mem_append.mp genuine
    exact (((unbroken_text callee onCallee).append (by decide)).append
      (.intercalate (by decide) (unbroken_texts args onArgs))).append (by decide)
  | .unary op operand, genuine => by
    have onOperand := unbroken_text operand genuine
    rw [Expr.text]
    split
    · exact onOperand.append op.unbroken_symbol
    · exact op.unbroken_symbol.append onOperand
  | .binary op left right, genuine => by
    obtain ⟨onLeft, onRight⟩ := List.forall_mem_append.mp genuine
    exact ((((unbroken_text left onLeft).append (by decide)).append op.unbroken_symbol).append
      (by decide)).append (unbroken_text right onRight)
  | .paren inner, genuine =>
    ((by decide : Unbroken "(").append (unbroken_text inner genuine)).append (by decide)
  | .cast type inner, genuine => by
    obtain ⟨onType, onInner⟩ := List.forall_mem_cons.mp genuine
    exact (((by decide : Unbroken "(").append (unbroken_word onType)).append (by decide)).append
      (unbroken_text inner onInner)
  | .assign none target value, genuine => by
    obtain ⟨onTarget, onValue⟩ := List.forall_mem_append.mp genuine
    exact ((unbroken_text target onTarget).append (by decide)).append (unbroken_text value onValue)
  | .assign (some op) target value, genuine => by
    obtain ⟨onTarget, onValue⟩ := List.forall_mem_append.mp genuine
    exact ((((unbroken_text target onTarget).append (by decide)).append
      op.unbroken_symbol).append (by decide)).append (unbroken_text value onValue)
  | .conditional condition whenTrue whenFalse, genuine => by
    obtain ⟨onCondition, onArms⟩ := List.forall_mem_append.mp genuine
    obtain ⟨onTrue, onFalse⟩ := List.forall_mem_append.mp onArms
    exact ((((unbroken_text condition onCondition).append (by decide)).append
      (unbroken_text whenTrue onTrue)).append (by decide)).append
      (unbroken_text whenFalse onFalse)
  | .create type args, genuine => by
    obtain ⟨onType, onArgs⟩ := List.forall_mem_append.mp (List.forall_mem_cons.mp genuine).2
    have onList := Unbroken.intercalate (by decide : Unbroken ", ") (unbroken_texts args onArgs)
    exact (((((by decide : Unbroken "new ").append (unbroken_type onType)).append
      (by decide)).append onList).append (by decide))

theorem unbroken_texts : (exprs : List Expr) → (∀ token ∈ wordsOf exprs, token.Genuine) →
    ∀ text ∈ Expr.texts exprs, Unbroken text
  | [], _ => List.forall_mem_nil _
  | expr :: rest, genuine => by
    obtain ⟨onExpr, onRest⟩ := List.forall_mem_append.mp genuine
    exact List.forall_mem_cons.mpr ⟨unbroken_text expr onExpr, unbroken_texts rest onRest⟩

end

/-! ### Heads of statements -/

/-- A content is made of words that a script can have. -/
def Content.Genuine (content : Content) : Prop := ∀ token ∈ content.words, token.Genuine

/-- Contents are made of words that a script can have. -/
def AllGenuine (contents : List Content) : Prop := ∀ content ∈ contents, content.Genuine

theorem unbroken_listText {exprs : List Expr} (genuine : AllGenuine (exprs.map .expr)) :
    Unbroken (Expr.listText exprs) := by
  refine .intercalate (by decide) fun text member => ?_
  rw [Expr.texts_eq_map] at member
  obtain ⟨expr, exprMember, rfl⟩ := List.mem_map.mp member
  exact unbroken_text expr (genuine (.expr expr) (List.mem_map_of_mem exprMember))

theorem Declarator.unbroken_text {declarator : Declarator}
    (genuine : AllGenuine declarator.contents) : Unbroken declarator.text := by
  obtain ⟨onName, onInit⟩ := List.forall_mem_cons.mp genuine
  have name : Unbroken declarator.name := unbroken_word (onName _ List.mem_cons_self)
  rw [Declarator.text]
  cases isInit : declarator.init with
  | none => exact name
  | some init =>
    rw [isInit] at onInit
    exact (name.append (by decide)).append
      (Script.unbroken_text init (onInit (.expr init) List.mem_cons_self))

theorem LocalDecl.unbroken_text {decl : LocalDecl} (genuine : AllGenuine decl.contents) :
    Unbroken decl.text := by
  obtain ⟨onType, onVars⟩ := List.forall_mem_cons.mp genuine
  refine ((unbroken_type onType).append (by decide)).append (.intercalate (by decide) ?_)
  intro text member
  obtain ⟨declarator, isDeclared, rfl⟩ := List.mem_map.mp member
  exact Declarator.unbroken_text fun content inDeclarator =>
    onVars content (List.mem_flatMap.mpr ⟨declarator, isDeclared, inDeclarator⟩)

theorem ForInit.unbroken_text {init : ForInit} (genuine : AllGenuine init.contents) :
    Unbroken init.text := by
  cases init with
  | decl declared => exact LocalDecl.unbroken_text genuine
  | exprs listed => exact unbroken_listText genuine

/-- The expression that comes first among contents stays in one line. -/
theorem unbroken_text_of_cons {expr : Expr} {others : List Content}
    (genuine : AllGenuine (.expr expr :: others)) : Unbroken expr.text :=
  unbroken_text expr (genuine _ List.mem_cons_self)

theorem unbroken_optional {expr? : Option Expr} (genuine : AllGenuine (expr?.toList.map .expr)) :
    Unbroken ((expr?.map Expr.text).getD "") := by
  cases expr? with
  | none => exact unbroken_empty
  | some expr => exact unbroken_text_of_cons genuine

/-- The line that stands for a statement is one line. -/
theorem Stmt.unbroken_header {stmt : Stmt} (genuine : AllGenuine stmt.contents) :
    Unbroken stmt.header := by
  cases stmt with
  | block body =>
    exact ((by decide : Unbroken "\x7b ").append (unbroken_toString_nat _)).append (by decide)
  | decl declared => exact (LocalDecl.unbroken_text genuine).append (by decide)
  | expr evaluated => exact (unbroken_text_of_cons genuine).append (by decide)
  | branch condition whenTrue whenFalse =>
    have onCondition : Unbroken condition.text := by
      cases whenFalse <;> exact unbroken_text_of_cons genuine
    exact ((by decide : Unbroken "if (").append onCondition).append (by decide)
  | switch scrutinee sections =>
    exact ((by decide : Unbroken "switch (").append (unbroken_text_of_cons genuine)).append
      (by decide)
  | forLoop init condition step body =>
    obtain ⟨onInit, others⟩ := List.forall_mem_append.mp genuine
    obtain ⟨onCondition, others⟩ := List.forall_mem_append.mp others
    obtain ⟨onStep, -⟩ := List.forall_mem_append.mp others
    have start : Unbroken ((init.map ForInit.text).getD "") := by
      cases init with
      | none => exact unbroken_empty
      | some init => exact ForInit.unbroken_text (List.forall_mem_append.mp onInit).1
    exact ((((((by decide : Unbroken "for (").append start).append (by decide)).append
      (unbroken_optional onCondition)).append (by decide)).append
      (unbroken_listText onStep)).append (by decide)
  | whileLoop condition body =>
    exact ((by decide : Unbroken "while (").append (unbroken_text_of_cons genuine)).append
      (by decide)
  | doWhile body condition =>
    obtain ⟨-, onCondition⟩ := List.forall_mem_append.mp genuine
    exact ((by decide : Unbroken "do ... while (").append
      (unbroken_text_of_cons onCondition)).append (by decide)
  | foreach type name iterated body =>
    obtain ⟨onType, others⟩ := List.forall_mem_cons.mp genuine
    obtain ⟨onName, others⟩ := List.forall_mem_cons.mp others
    exact ((((((by decide : Unbroken "foreach (").append (unbroken_type onType)).append
      (by decide)).append (unbroken_word (onName _ List.mem_cons_self))).append
      (by decide)).append (unbroken_text_of_cons others)).append (by decide)
  | returnValue value =>
    cases value with
    | none => decide
    | some value =>
      exact ((by decide : Unbroken "return ").append (unbroken_text_of_cons genuine)).append
        (by decide)
  | breakOut | continueLoop | empty => decide

end Storefront.Script

namespace Storefront.Guard

open Storefront.Text

/-! ### Names of tags -/

/-- The names of tags have letters and digits, and nothing else. -/
theorem Tag.isAlphanum_of_mem_name (tag : Tag) : ∀ c ∈ tag.name.toList, c.isAlphanum = true := by
  have each : ∀ tag ∈ Tag.all,
      (isPlain tag.name && (byteCharacters tag.name).all Char.isAlphanum) = true := by
    decide +kernel
  obtain ⟨plain, letters⟩ := Bool.and_eq_true_iff.mp (each tag (Tag.mem_all tag))
  rw [byteCharacters_eq_toList plain] at letters
  exact List.all_eq_true.mp letters

theorem Tag.unbroken_name (tag : Tag) : Unbroken tag.name :=
  fun member => absurd (tag.isAlphanum_of_mem_name '\n' member) (by decide)

theorem NoComplement.unbroken_message (missing : NoComplement) : Unbroken missing.message := by
  have name := missing.tag.unbroken_name
  unfold message
  split
  · exact name.append (by decide)
  · next partner _ =>
    exact ((((by decide : Unbroken "complement table pairs ").append name).append
      (by decide)).append partner.unbroken_name).append (by decide)

end Storefront.Guard
