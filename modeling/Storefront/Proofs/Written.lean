import Storefront.Proofs.Nodes
import Storefront.Proofs.Spelling
import Storefront.Script.Expr
import Storefront.Script.Reading.Basic

/-!
The tokens that an expression is written with. The text of an expression with plain names and whole
numbers is cut back into exactly these tokens: between two of them stands a blank or a character
that neither of them can have.
-/

namespace Storefront.Script

open Storefront.Text Lexer

namespace Expr

/-! ### Tokens of an expression -/

mutual

/-- The tokens of an expression as a script writes it. The name of a created type stands for one
word. -/
def tokens : Expr → List Token
  | ident name => [.word name]
  | int (.ofNat value) => [.int value]
  | int (.negSucc value) => [.minus, .int (value + 1 : Nat)]
  | float value => [.float value]
  | str value => [.str value]
  | char value => [.char value]
  | bool value => [.word (if value then "true" else "false")]
  | null => [.word "null"]
  | member target name => target.tokens ++ [.dot, .word name]
  | index target args => target.tokens ++ .lBracket :: (tokensOf args ++ [.rBracket])
  | call callee args => callee.tokens ++ .lParen :: (tokensOf args ++ [.rParen])
  | unary op operand =>
    if op.followsOperand then operand.tokens ++ [op.token] else op.token :: operand.tokens
  | binary op left right => left.tokens ++ op.token :: right.tokens
  | paren inner => .lParen :: (inner.tokens ++ [.rParen])
  | cast type inner => .lParen :: .word type :: .rParen :: inner.tokens
  | assign op target value => target.tokens ++ .assign op :: value.tokens
  | conditional condition whenTrue whenFalse =>
    condition.tokens ++ .question :: (whenTrue.tokens ++ .colon :: whenFalse.tokens)
  | create type args => .word "new" :: .word type :: .lParen :: (tokensOf args ++ [.rParen])

/-- The tokens of expressions with commas between them. -/
def tokensOf : List Expr → List Token
  | [] => []
  | [expr] => expr.tokens
  | expr :: next :: rest => expr.tokens ++ .comma :: tokensOf (next :: rest)

end

/-- Whether a node is written with plain names and whole numbers, with a cast to a primitive type,
with an assignment that a script knows, and with signs that do not run into what they stand
before. -/
def isWritable : Expr → Bool
  | ident name =>
    isPlainName name && !isReserved name && !isPrimitiveType name && name != "out" && name != "ref"
  | int value => decide (value.natAbs ≤ greatestInt)
  | float _ | str _ | char _ | create _ _ => false
  | member _ name => isPlainName name
  | unary op operand => op.standsBefore operand.text
  | cast type _ => isPrimitiveType type
  | assign op _ _ => op.all (·.isAssignable)
  | _ => true

/-- Every node of an expression is written in such a way. -/
def Writable (expr : Expr) : Prop := expr.Each fun node => node.isWritable = true

instance (expr : Expr) : Decidable expr.Writable :=
  inferInstanceAs (Decidable (expr.Each fun node => node.isWritable = true))

/-! ### The first token -/

/-- Whether an expression may start with a token, which `c` is the first character of. -/
def Opens (c : Char) : Token → Prop
  | .word name =>
    startsPlainName c = true ∧ isPrimitiveType name = false ∧ name ≠ "out" ∧ name ≠ "ref"
  | .int _ => c.isDigit = true
  | .minus | .minusMinus => c = '-'
  | .plus | .plusPlus => c = '+'
  | .bang => c = '!'
  | .tilde => c = '~'
  | .lParen => c = '('
  | _ => False

/-- The text of an expression and its tokens both start. -/
def Starts (text : String) (tokens : List Token) : Prop :=
  ∃ c characters token more, text.toList = c :: characters ∧ tokens = token :: more ∧ Opens c token

theorem Starts.append {text : String} {tokens : List Token} (starts : Starts text tokens)
    (after : String) (others : List Token) : Starts (text ++ after) (tokens ++ others) := by
  obtain ⟨c, characters, token, more, begins, first, opens⟩ := starts
  refine ⟨c, characters ++ after.toList, token, more ++ others, ?_, ?_, opens⟩
  · rw [String.toList_append, begins, List.cons_append]
  · rw [first, List.cons_append]

theorem starts_leadingOp {op : UnaryOp} (leads : op.followsOperand = false) :
    Starts op.symbol [op.token] := by
  cases op with
  | postInc | postDec => cases leads
  | _ => exact ⟨_, _, _, _, rfl, rfl, rfl⟩

theorem starts_digits (value : Nat) : Starts (toString value) [.int value] := by
  have spelt : (toString value).toList = Nat.toDigits 10 value := Nat.toList_repr
  cases digits : Nat.toDigits 10 value with
  | nil => exact absurd digits Nat.toDigits_ne_nil
  | cons c more =>
    refine ⟨c, more, _, _, spelt.trans digits, rfl, ?_⟩
    exact Nat.isDigit_of_mem_toDigits (by decide) (by decide) (digits ▸ List.mem_cons_self)

theorem starts_text : (expr : Expr) → expr.Writable → Starts expr.text expr.tokens
  | ident name, writable => by
    have plain : isWritable (ident name) = true := (each_leaf rfl).mp writable
    simp only [isWritable, isPlainName, Bool.and_eq_true, Bool.not_eq_true', bne_iff_ne] at plain
    obtain ⟨⟨⟨⟨named, -⟩, notType⟩, notOut⟩, notRef⟩ := plain
    split at named
    · cases named
    · next c more isName =>
      exact ⟨c, more, _, _, isName, rfl, (Bool.and_eq_true_iff.mp named).1, notType, notOut, notRef⟩
  | int (.ofNat value), _ => starts_digits value
  | int (.negSucc value), _ =>
    ⟨'-', (toString (value + 1)).toList, .minus, _, String.toList_append, rfl, rfl⟩
  | float _, writable | str _, writable | char _, writable =>
    absurd ((each_leaf rfl).mp writable) Bool.false_ne_true
  | create _ _, writable => absurd (each_create.mp writable).1 Bool.false_ne_true
  | bool true, _ => ⟨'t', _, .word "true", _, rfl, rfl, by decide, by decide, by decide, by decide⟩
  | bool false, _ =>
    ⟨'f', _, .word "false", _, rfl, rfl, by decide, by decide, by decide, by decide⟩
  | null, _ => ⟨'n', _, .word "null", _, rfl, rfl, by decide, by decide, by decide, by decide⟩
  | member target name, writable => by
    rw [text, tokens, String.append_assoc]
    exact (starts_text target (each_member.mp writable).2).append _ _
  | index target args, writable => by
    rw [text, tokens, String.append_assoc, String.append_assoc]
    exact (starts_text target (each_index.mp writable).2.1).append _ _
  | call callee args, writable => by
    rw [text, tokens, String.append_assoc, String.append_assoc]
    exact (starts_text callee (each_call.mp writable).2.1).append _ _
  | unary op operand, writable => by
    rw [text, tokens]
    cases follows : op.followsOperand with
    | true => exact (starts_text operand (each_unary.mp writable).2).append _ _
    | false => exact (starts_leadingOp follows).append _ operand.tokens
  | binary op left right, writable => by
    rw [text, tokens, String.append_assoc, String.append_assoc, String.append_assoc]
    exact (starts_text left (each_binary.mp writable).2.1).append _ _
  | paren inner, _ => by
    rw [text, tokens, String.append_assoc]
    exact ⟨'(', _, .lParen, _, String.toList_append, rfl, rfl⟩
  | cast type inner, _ => by
    rw [text, tokens, String.append_assoc, String.append_assoc]
    exact ⟨'(', _, .lParen, _, String.toList_append, rfl, rfl⟩
  | assign none target value, writable => by
    rw [text, tokens, String.append_assoc]
    exact (starts_text target (each_assign.mp writable).2.1).append _ _
  | assign (some op) target value, writable => by
    rw [text, tokens, String.append_assoc, String.append_assoc, String.append_assoc]
    exact (starts_text target (each_assign.mp writable).2.1).append _ _
  | conditional condition whenTrue whenFalse, writable => by
    rw [text, tokens, String.append_assoc, String.append_assoc, String.append_assoc]
    exact (starts_text condition (each_conditional.mp writable).2.1).append _ _

/-! ### Cutting the text of an expression -/

/-- No expression starts with an equals sign, a hash sign or a blank. -/
theorem plain_of_opens {c : Char} {token : Token} (opens : Opens c token) :
    c ≠ '=' ∧ c ≠ '#' ∧ isBlank c = false := by
  have ofName {c : Char} (goesOn : continuesPlainName c = true) :
      c ≠ '=' ∧ c ≠ '#' ∧ isBlank c = false :=
    ascii_induction
      (fun c => continuesPlainName c = true → c ≠ '=' ∧ c ≠ '#' ∧ isBlank c = false)
      (by decide) (small_of_continuesPlainName goesOn) goesOn
  cases token with
  | word name => exact ofName (continuesPlainName_of_starts opens.1)
  | int value => exact ofName (continuesPlainName_of_isDigit opens)
  | minus | minusMinus | plus | plusPlus | bang | tilde | lParen =>
    obtain rfl := show c = _ from opens
    decide
  | _ => cases opens

/-- No type name stands first in an expression, which would make a parenthesis before it a cast. -/
theorem Opens.noType {c : Char} {token : Token} (opens : Opens c token) :
    ∀ name, token = .word name → isPrimitiveType name = false := by
  rintro name rfl
  exact opens.2.1

theorem Opens.noClose {c : Char} {token : Token} (opens : Opens c token) :
    token ≠ .rParen ∧ token ≠ .rBracket ∧ token ≠ .word "out" ∧ token ≠ .word "ref" := by
  refine ⟨?_, ?_, ?_, ?_⟩
  · rintro rfl
    exact opens
  · rintro rfl
    exact opens
  · rintro rfl
    exact opens.2.2.1 rfl
  · rintro rfl
    exact opens.2.2.2 rfl

/-- A minus sign that stands before a text with a sign or digit would be a part of it. -/
theorem Opens.noNumber {c : Char} {token : Token} {text : String} {characters : List Char}
    (opens : Opens c token) (begins : text.toList = c :: characters)
    (stands : UnaryOp.neg.standsBefore text = true) :
    (∀ value, token ≠ .int value) ∧ ∀ value, token ≠ .float value := by
  refine ⟨?_, ?_⟩
  · rintro value rfl
    have digit : c.isDigit = true := opens
    rw [UnaryOp.standsBefore, begins, List.head?_cons, Option.all_some, digit, Bool.not_true,
      Bool.and_false] at stands
    cases stands
  · rintro value rfl
    exact opens

theorem primitiveTypes_plain : ∀ type ∈ primitiveTypes, isPlainName type = true := by decide

mutual

theorem spells_text : (expr : Expr) → expr.Writable → ∀ rest, Ends rest →
    Spells expr.text.toList expr.tokens rest
  | ident name, writable => by
    have plain : isWritable (ident name) = true := (each_leaf rfl).mp writable
    simp only [isWritable, Bool.and_eq_true] at plain
    exact fun rest => spells_name plain.1.1.1.1
  | int (.ofNat value), writable =>
    fun _ => spells_digits (of_decide_eq_true ((each_leaf rfl).mp writable))
  | int (.negSucc value), writable => by
    intro rest ends
    have small : value + 1 ≤ greatestInt := of_decide_eq_true ((each_leaf rfl).mp writable)
    obtain ⟨c, characters, _, _, begins, ⟨⟩, digit⟩ := starts_digits (value + 1)
    have spelt : (int (.negSucc value)).text.toList = '-' :: (toString (value + 1)).toList :=
      String.toList_append
    have sign : Spells ['-'] [.minus] (c :: (characters ++ rest)) := by
      refine @spells_leadingOp .neg rfl c _ (plain_of_opens digit).1 (fun _ => ?_)
        (fun plus => nomatch plus)
      rintro rfl
      exact absurd (show '-'.isDigit = true from digit) (by decide)
    rw [spelt, tokens]
    rw [← List.cons_append, ← begins] at sign
    exact sign.append (spells_digits small ends)
  | float _, writable | str _, writable | char _, writable =>
    absurd ((each_leaf rfl).mp writable) Bool.false_ne_true
  | create _ _, writable => absurd (each_create.mp writable).1 Bool.false_ne_true
  | bool true, _ => fun _ => spells_name (by decide)
  | bool false, _ => fun _ => spells_name (by decide)
  | null, _ => fun _ => spells_name (by decide)
  | member target name, writable => by
    intro rest ends
    obtain ⟨plain, others⟩ := each_member.mp writable
    simp only [text, tokens, String.toList_append, String.reduceToList, List.append_assoc,
      List.cons_append, List.nil_append]
    have stops : Ends ('.' :: (name.toList ++ rest)) := ends_dot plain rest
    refine (spells_text target others _ stops).append ?_
    exact (spells_dot plain rest).append (spells_name plain ends)
  | index target args, writable => by
    intro rest ends
    obtain ⟨-, onTarget, onArgs⟩ := each_index.mp writable
    simp only [text, tokens, String.toList_append, String.reduceToList, List.append_assoc,
      List.cons_append, List.nil_append]
    refine (spells_text target onTarget _ (.cons (by decide) (by decide) _)).append ?_
    refine .mark (fun _ => rfl) (.append ?_ (.mark (fun _ => rfl) (.nothing rest)))
    exact spells_listText args onArgs _ (.cons (by decide) (by decide) _)
  | call callee args, writable => by
    intro rest ends
    obtain ⟨-, onCallee, onArgs⟩ := each_call.mp writable
    simp only [text, tokens, String.toList_append, String.reduceToList, List.append_assoc,
      List.cons_append, List.nil_append]
    refine (spells_text callee onCallee _ (.cons (by decide) (by decide) _)).append ?_
    refine .mark (fun _ => rfl) (.append ?_ (.mark (fun _ => rfl) (.nothing rest)))
    exact spells_listText args onArgs _ (.cons (by decide) (by decide) _)
  | unary op operand, writable => by
    intro rest ends
    obtain ⟨stands, onOperand⟩ := each_unary.mp writable
    obtain ⟨c, characters, _, _, begins, -, opens⟩ := starts_text operand onOperand
    rw [text, tokens]
    cases follows : op.followsOperand with
    | true =>
      have spelt := spells_trailingOp follows rest
      rw [if_pos rfl, if_pos rfl, String.toList_append]
      exact (spells_text operand onOperand _ (ends_trailingOp follows rest)).append spelt
    | false =>
      have spelt : Spells op.symbol.toList [op.token] (operand.text.toList ++ rest) := by
        rw [begins]
        refine spells_leadingOp follows (plain_of_opens opens).1 ?_ ?_
        · rintro rfl rfl
          rw [isWritable, UnaryOp.standsBefore, begins] at stands
          cases stands
        · rintro rfl rfl
          rw [isWritable, UnaryOp.standsBefore, begins] at stands
          cases stands
      rw [if_neg Bool.false_ne_true, if_neg Bool.false_ne_true, String.toList_append]
      exact spelt.append (spells_text operand onOperand rest ends)
  | binary op left right, writable => by
    intro rest ends
    obtain ⟨-, onLeft, onRight⟩ := each_binary.mp writable
    simp only [text, tokens, String.toList_append, String.reduceToList, List.append_assoc,
      List.cons_append, List.nil_append]
    refine (spells_text left onLeft _ (.cons (by decide) (by decide) _)).append (.blank ?_)
    exact (spells_binaryOp op _).append (.blank (spells_text right onRight rest ends))
  | paren inner, writable => by
    intro rest ends
    have onInner := (each_paren.mp writable).2
    simp only [text, tokens, String.toList_append, String.reduceToList, List.cons_append,
      List.nil_append]
    refine .mark (fun _ => rfl) (.append ?_ (.mark (fun _ => rfl) (.nothing rest)))
    exact spells_text inner onInner _ (.cons (by decide) (by decide) _)
  | cast type inner, writable => by
    intro rest ends
    obtain ⟨primitive, onInner⟩ := each_cast.mp writable
    have plain := primitiveTypes_plain type (List.contains_iff_mem.mp primitive)
    have stops : Ends (')' :: (inner.text.toList ++ rest)) := .cons (by decide) (by decide) _
    have word := spells_name plain stops
    simp only [text, tokens, String.toList_append, String.reduceToList, List.append_assoc,
      List.cons_append, List.nil_append]
    exact .mark (fun _ => rfl)
      (word.append (.mark (fun _ => rfl) (spells_text inner onInner rest ends)))
  | assign none target value, writable => by
    intro rest ends
    obtain ⟨-, onTarget, onValue⟩ := each_assign.mp writable
    simp only [text, tokens, String.toList_append, String.reduceToList, List.append_assoc,
      List.cons_append, List.nil_append]
    refine (spells_text target onTarget _ (.cons (by decide) (by decide) _)).append (.blank ?_)
    have sign : Spells ['='] [.assign none] (' ' :: (value.text.toList ++ rest)) :=
      spells_of_piece rfl
    exact sign.append (.blank (spells_text value onValue rest ends))
  | assign (some op) target value, writable => by
    intro rest ends
    obtain ⟨assignable, onTarget, onValue⟩ := each_assign.mp writable
    simp only [text, tokens, String.toList_append, String.reduceToList, List.append_assoc,
      List.cons_append, List.nil_append]
    refine (spells_text target onTarget _ (.cons (by decide) (by decide) _)).append (.blank ?_)
    have sign := spells_assignment assignable (value.text.toList ++ rest)
    have whole := sign.append (.blank (spells_text value onValue rest ends))
    rwa [List.append_assoc] at whole
  | conditional condition whenTrue whenFalse, writable => by
    intro rest ends
    obtain ⟨-, onCondition, onTrue, onFalse⟩ := each_conditional.mp writable
    simp only [text, tokens, String.toList_append, String.reduceToList, List.append_assoc,
      List.cons_append, List.nil_append]
    have blank {after : List Char} : Ends (' ' :: after) := .cons (by decide) (by decide) _
    refine (spells_text condition onCondition _ blank).append (.blank (.mark (fun _ => rfl) ?_))
    refine .blank ((spells_text whenTrue onTrue _ blank).append (.blank (.mark (fun _ => rfl) ?_)))
    exact .blank (spells_text whenFalse onFalse rest ends)

theorem spells_listText : (exprs : List Expr) → EachOf (fun node => node.isWritable = true) exprs →
    ∀ rest, Ends rest → Spells (", ".intercalate (texts exprs)).toList (tokensOf exprs) rest
  | [], _ => fun rest _ => Spells.nothing rest
  | [expr], writable => by
    intro rest ends
    rw [texts, texts, String.intercalate_singleton]
    exact spells_text expr (eachOf_cons.mp writable).1 rest ends
  | expr :: next :: others, writable => by
    intro rest ends
    obtain ⟨onExpr, onOthers⟩ := eachOf_cons.mp writable
    rw [texts, texts, String.intercalate_cons_cons, ← texts]
    simp only [tokensOf, String.toList_append, String.reduceToList, List.append_assoc,
      List.cons_append, List.nil_append]
    refine (spells_text expr onExpr _ (.cons (by decide) (by decide) _)).append ?_
    exact .mark (fun _ => rfl) (.blank (spells_listText (next :: others) onOthers rest ends))

end

/-- The text of a writable expression is cut into its tokens, all on the first line. -/
theorem lex_text {expr : Expr} (writable : expr.Writable) :
    lex expr.text = .ok ⟨onLine 1 expr.tokens, 1⟩ := by
  obtain ⟨c, characters, _, _, begins, -, opens⟩ := starts_text expr writable
  obtain ⟨-, noHash, noBlank⟩ := plain_of_opens opens
  have spells := spells_text expr writable [] .nil 1
  rw [List.append_nil] at spells
  rw [lex, begins, lexFrom_fresh noBlank noHash, ← begins, spells, lexFrom]
  simp only [Except.map, Lexed.pushAll, List.append_nil]

end Expr

end Storefront.Script
