import Mathlib.Data.List.Basic
import Storefront.Script.Lexer

/-!
How single tokens are spelt. A spelling stands for tokens when, wherever it is put in front of a
text within a line, exactly these tokens are cut off. What may follow is part of each statement: a
name or a number must not run on into the text behind it, and an operator must not become a longer
one.
-/

namespace Storefront.Script

open Storefront.Text Lexer

/-! ### Cutting in place -/

/-- Tokens that stand on one line. -/
def onLine (line : Nat) (tokens : List Token) : List (Located Token) :=
  tokens.map (Located.mk line)

@[simp] theorem onLine_nil (line : Nat) : onLine line [] = [] := rfl

@[simp] theorem onLine_cons (line : Nat) (token : Token) (rest : List Token) :
    onLine line (token :: rest) = ⟨line, token⟩ :: onLine line rest := rfl

@[simp] theorem onLine_append (line : Nat) (first second : List Token) :
    onLine line (first ++ second) = onLine line first ++ onLine line second := List.map_append

/-- The same with tokens of one line in front. -/
def Lexed.pushAll (line : Nat) (tokens : List Token) (lexed : Lexed) : Lexed :=
  ⟨onLine line tokens ++ lexed.tokens, lexed.lastLine⟩

/-- A spelling within a line is cut into tokens when `rest` stands behind it. -/
def Spells (spelling : List Char) (tokens : List Token) (rest : List Char) : Prop :=
  ∀ line, lexFrom line false (spelling ++ rest) =
    (lexFrom line false rest).map (Lexed.pushAll line tokens)

/-- What comes before on the line matters only to blanks and hash signs. -/
theorem lexFrom_fresh {c : Char} (noBlank : isBlank c = false) (noHash : c ≠ '#') (line : Nat)
    (rest : List Char) : lexFrom line true (c :: rest) = lexFrom line false (c :: rest) := by
  have same : piece true c rest = piece false c rest := by
    simp [piece, noBlank, noHash]
  cases isPiece : piece false c rest with
  | error fault => rw [lexFrom_error isPiece, lexFrom_error (same.trans isPiece)]
  | ok piece =>
    obtain ⟨_ | token, breaks, fresh, after⟩ := piece
    · rw [lexFrom_passed isPiece, lexFrom_passed (same.trans isPiece)]
    · rw [lexFrom_token isPiece, lexFrom_token (same.trans isPiece)]

theorem Spells.nothing (rest : List Char) : Spells [] [] rest := by
  intro line
  rw [List.nil_append]
  cases lexFrom line false rest <;> rfl

theorem Spells.append {first second rest : List Char} {tokens more : List Token}
    (one : Spells first tokens (second ++ rest)) (other : Spells second more rest) :
    Spells (first ++ second) (tokens ++ more) rest := by
  intro line
  rw [List.append_assoc, one line, other line]
  cases lexFrom line false rest with
  | error fault => rfl
  | ok lexed => simp only [Except.map, Lexed.pushAll, onLine_append, List.append_assoc]

theorem Spells.blank {spelling rest : List Char} {tokens : List Token}
    (spells : Spells spelling tokens rest) : Spells (' ' :: spelling) tokens rest := by
  intro line
  have passed : piece false ' ' (spelling ++ rest) = .ok ⟨none, 0, false, spelling ++ rest⟩ := rfl
  rw [List.cons_append, lexFrom_passed passed]
  exact spells line

theorem spells_of_piece {c : Char} {spelling rest : List Char} {token : Token}
    (isPiece : piece false c (spelling ++ rest) = .ok (.ofFound (token, rest))) :
    Spells (c :: spelling) [token] rest := by
  intro line
  rw [List.cons_append, lexFrom_token isPiece]
  rfl

/-- A mark that is a token whatever follows it. -/
theorem Spells.mark {c : Char} {token : Token} {spelling rest : List Char} {tokens : List Token}
    (isPiece : ∀ after, piece false c after = .ok (.ofFound (token, after)))
    (spells : Spells spelling tokens rest) : Spells (c :: spelling) (token :: tokens) rest := by
  have alone : Spells [c] [token] (spelling ++ rest) := spells_of_piece (isPiece _)
  exact alone.append spells

/-- A run of kept characters in front of one that is not is what a scan for them takes. -/
theorem scan_append (keep : Char → Bool) {run rest : List Char}
    (kept : ∀ c ∈ run, keep c = true) (stops : ∀ c ∈ rest.head?, keep c = false) :
    (run ++ rest).takeWhile keep = run ∧ (run ++ rest).dropWhile keep = rest := by
  rw [List.takeWhile_append_of_pos kept, List.dropWhile_append_of_pos kept]
  cases rest with
  | nil => exact ⟨List.append_nil run, rfl⟩
  | cons c rest =>
    have stopped : ¬ keep c = true := Bool.eq_false_iff.mp (stops c rfl)
    rw [List.takeWhile_cons_of_neg stopped, List.dropWhile_cons_of_neg stopped]
    exact ⟨List.append_nil run, rfl⟩

/-- A text that no name and no number in front of it runs on into. -/
structure Ends (rest : List Char) : Prop where
  noWord : ∀ c ∈ rest.head?, continuesWord c = false
  noFraction : fraction rest = none

theorem Ends.nil : Ends [] := ⟨fun _ none => (nomatch none), rfl⟩

theorem Ends.cons {c : Char} (noWord : continuesWord c = false) (noPoint : c ≠ '.')
    (rest : List Char) : Ends (c :: rest) := by
  refine ⟨fun _ same => Option.some.inj same ▸ noWord, ?_⟩
  unfold fraction
  split
  · next same => exact absurd (List.cons.inj same).1 noPoint
  · rfl

/-! ### Names -/

/-- What holds of each of the first characters holds of every character among them. -/
theorem ascii_induction (condition : Char → Prop)
    (each : ∀ number : Fin 128, condition (Char.ofNat number)) {c : Char} (small : c.toNat < 128) :
    condition c := by
  have found := each ⟨c.toNat, small⟩
  rwa [Char.ofNat_toNat] at found

/-- Whether a character may start a plain name. -/
def startsPlainName (c : Char) : Bool := c.isAlpha || c == '_'

/-- Whether a character may go on in a plain name. -/
def continuesPlainName (c : Char) : Bool := c.isAlphanum || c == '_'

/-- Whether a text is a name of ASCII letters, digits and underscores that starts with no digit. -/
def isPlainName (name : String) : Bool :=
  match name.toList with
  | [] => false
  | c :: rest => startsPlainName c && rest.all continuesPlainName

theorem small_of_continuesPlainName {c : Char} (plain : continuesPlainName c = true) :
    c.toNat < 128 := by
  have below {last : Char} (upTo : c.val ≤ last.val) (small : last.toNat < 128) : c.toNat < 128 :=
    Nat.lt_of_le_of_lt (UInt32.le_iff_toNat_le.mp upTo) small
  obtain inName | underscore := Bool.or_eq_true_iff.mp plain
  · obtain letter | digit := Bool.or_eq_true_iff.mp inName
    · obtain upper | lower := Bool.or_eq_true_iff.mp letter
      · exact below (of_decide_eq_true upper).2 (by decide)
      · exact below (of_decide_eq_true (Bool.and_eq_true_iff.mp lower).2) (by decide)
    · exact below (of_decide_eq_true (Bool.and_eq_true_iff.mp digit).2) (by decide)
  · rw [beq_iff_eq.mp underscore]
    decide

theorem continuesWord_of_plain {c : Char} (plain : continuesPlainName c = true) :
    continuesWord c = true :=
  ascii_induction (fun c => continuesPlainName c = true → continuesWord c = true) (by decide)
    (small_of_continuesPlainName plain) plain

theorem continuesPlainName_of_starts {c : Char} (starts : startsPlainName c = true) :
    continuesPlainName c = true := by
  simp only [startsPlainName, continuesPlainName, Char.isAlphanum, Bool.or_eq_true] at *
  exact starts.imp_left Or.inl

theorem continuesPlainName_of_isDigit {c : Char} (digit : c.isDigit = true) :
    continuesPlainName c = true := by
  rw [continuesPlainName, Char.isAlphanum, digit, Bool.or_true, Bool.true_or]

/-- The start of a plain name starts nothing but a word. -/
theorem piece_of_startsPlainName {c : Char} (starts : startsPlainName c = true) (rest : List Char) :
    piece false c rest = .ok (.ofFound (.word (String.ofList ((c :: rest).takeWhile continuesWord)),
      (c :: rest).dropWhile continuesWord)) := by
  obtain ⟨noBreak, noBlank, noSlash, noPoint, noDigit, startsOne⟩ :=
    ascii_induction
      (fun c => startsPlainName c = true → c ≠ '\n' ∧ isBlank c = false ∧ c ≠ '/' ∧ c ≠ '.' ∧
        c.isDigit = false ∧ startsWord c = true)
      (by decide) (small_of_continuesPlainName (continuesPlainName_of_starts starts)) starts
  have noNumber : startsNumber (c :: rest) = false := by
    unfold startsNumber
    split
    · next same => exact absurd (List.cons.inj same).1 noPoint
    · next same => exact (List.cons.inj same).1 ▸ noDigit
    · rfl
  simp [piece, tokenPiece, noBreak, noBlank, noSlash, noNumber, startsOne]

theorem spells_name {name : String} (plain : isPlainName name = true) {rest : List Char}
    (ends : Ends rest) : Spells name.toList [.word name] rest := by
  unfold isPlainName at plain
  split at plain
  · cases plain
  · next c more isName =>
    obtain ⟨starts, goOn⟩ := Bool.and_eq_true_iff.mp plain
    have kept : ∀ c' ∈ c :: more, continuesWord c' = true := by
      refine List.forall_mem_cons.mpr
        ⟨continuesWord_of_plain (continuesPlainName_of_starts starts), ?_⟩
      exact fun c' member => continuesWord_of_plain (List.all_eq_true.mp goOn c' member)
    obtain ⟨taken, left⟩ := scan_append continuesWord kept ends.noWord
    rw [isName]
    refine spells_of_piece ?_
    rw [piece_of_startsPlainName starts, ← List.cons_append, taken, left, ← isName,
      String.ofList_toList]

/-- The point in front of a plain name starts no fraction. -/
theorem exists_of_isPlainName {name : String} (plain : isPlainName name = true) :
    ∃ c more, name.toList = c :: more ∧ c.isDigit = false := by
  unfold isPlainName at plain
  split at plain
  · cases plain
  · next c more isName =>
    have starts := (Bool.and_eq_true_iff.mp plain).1
    refine ⟨c, more, isName, ?_⟩
    exact ascii_induction (fun c => startsPlainName c = true → c.isDigit = false) (by decide)
      (small_of_continuesPlainName (continuesPlainName_of_starts starts)) starts

theorem spells_dot {name : String} (plain : isPlainName name = true) (rest : List Char) :
    Spells ['.'] [.dot] (name.toList ++ rest) := by
  obtain ⟨c, more, isName, noDigit⟩ := exists_of_isPlainName plain
  rw [isName]
  refine spells_of_piece ?_
  have noNumber : startsNumber ('.' :: (c :: more ++ rest)) = false := noDigit
  have onto : piece false '.' (c :: more ++ rest) =
      if startsNumber ('.' :: (c :: more ++ rest)) then
        (number ('.' :: (c :: more ++ rest))).map .ofFound
      else .ok (.ofFound (.dot, c :: more ++ rest)) := rfl
  rw [List.nil_append, onto, noNumber]
  rfl

theorem ends_dot {name : String} (plain : isPlainName name = true) (rest : List Char) :
    Ends ('.' :: (name.toList ++ rest)) := by
  obtain ⟨c, more, isName, noDigit⟩ := exists_of_isPlainName plain
  refine ⟨fun _ same => Option.some.inj same ▸ by decide, ?_⟩
  rw [isName, List.cons_append, fraction, noDigit]
  rfl

/-! ### Numbers -/

theorem continuesWord_of_isDigitOrGap {c : Char} (digit : isDigitOrGap c = true) :
    continuesWord c = true := by
  refine continuesWord_of_plain ?_
  simp only [isDigitOrGap, continuesPlainName, Char.isAlphanum, Bool.or_eq_true] at *
  exact digit.imp_left Or.inr

theorem valueOf_eq_ofDigitChars {digits : List Char} (all : ∀ c ∈ digits, c.isDigit = true) :
    valueOf 10 digits = Nat.ofDigitChars 10 digits 0 := by
  unfold valueOf Nat.ofDigitChars
  refine List.foldl_ext _ _ _ fun value c member => ?_
  rw [digitValue, if_pos (all c member), Nat.mul_comm]

/-- Digits and gaps that neither a fraction nor an exponent nor a letter makes a real number are a
whole one, if it fits; the letters of a whole number are passed over. -/
theorem decimalNumber_whole {body rest : List Char}
    (kept : ∀ c ∈ body, isDigitOrGap c = true) (stops : ∀ c ∈ rest.head?, isDigitOrGap c = false)
    (noFraction : fraction rest = none)
    (noExponent : ∀ c ∈ rest.head?, (c == 'e' || c == 'E') = false)
    (noSuffix : ∀ c ∈ rest.head?, isRealSuffix c = false) :
    decimalNumber (body ++ rest) =
      if greatestInt < valueOf 10 (body.filter (· != '_')) then
        .error (.invalidInteger (String.ofList (body.filter (· != '_'))))
      else .ok (.int (valueOf 10 (body.filter (· != '_'))), rest.dropWhile isIntSuffix) := by
  obtain ⟨taken, left⟩ := scan_append isDigitOrGap kept stops
  unfold decimalNumber
  rw [taken, left]
  simp only [optionalPart, noFraction, exponent_eq_none noExponent, realSuffix_eq_none noSuffix]
  rw [if_neg (by decide)]

/-- Digits alone are a whole number; nothing of the text behind them belongs to it. -/
theorem decimalNumber_append {digits rest : List Char} (all : ∀ c ∈ digits, c.isDigit = true)
    (ends : Ends rest) (small : Nat.ofDigitChars 10 digits 0 ≤ greatestInt) :
    decimalNumber (digits ++ rest) = .ok (.int (Nat.ofDigitChars 10 digits 0), rest) := by
  have stops (keep : Char → Bool) (word : ∀ c, keep c = true → continuesWord c = true) :
      ∀ c ∈ rest.head?, keep c = false := by
    intro c first
    cases kept : keep c with
    | false => rfl
    | true => exact (word c kept).symm.trans (ends.noWord c first)
  have noGaps : digits.filter (· != '_') = digits := by
    refine List.filter_eq_self.mpr fun c member => bne_iff_ne.mpr ?_
    rintro rfl
    cases all '_' member
  have noExponent : ∀ c ∈ rest.head?, (c == 'e' || c == 'E') = false := by
    refine stops (fun c => c == 'e' || c == 'E') fun c mark => ?_
    simp only [Bool.or_eq_true, beq_iff_eq] at mark
    obtain rfl | rfl := mark <;> decide
  have noSuffix : ∀ c ∈ rest.head?, isRealSuffix c = false := by
    refine stops _ fun c mark => ?_
    simp only [isRealSuffix, Bool.or_eq_true, beq_iff_eq, or_assoc] at mark
    obtain rfl | rfl | rfl | rfl | rfl | rfl := mark <;> decide
  have noLetters : rest.dropWhile isIntSuffix = rest := by
    refine (scan_append isIntSuffix (List.forall_mem_nil _) (stops _ fun c mark => ?_)).2
    simp only [isIntSuffix, Bool.or_eq_true, beq_iff_eq, or_assoc] at mark
    obtain rfl | rfl | rfl | rfl := mark <;> decide
  rw [decimalNumber_whole (fun c member => by rw [isDigitOrGap, all c member, Bool.true_or])
    (stops _ fun _ => continuesWord_of_isDigitOrGap) ends.noFraction noExponent noSuffix, noGaps,
    valueOf_eq_ofDigitChars all, if_neg (Nat.not_lt.mpr small), noLetters]

/-- Digits that nothing runs on from do not start a hexadecimal number. -/
theorem number_append {c : Char} {digits rest : List Char}
    (all : ∀ c' ∈ c :: digits, c'.isDigit = true) (ends : Ends rest) :
    number (c :: digits ++ rest) = decimalNumber (c :: digits ++ rest) := by
  have notSecond {mark : Char} (word : continuesWord mark = true) (noDigit : mark.isDigit = false) :
      (digits ++ rest)[0]? ≠ some mark := by
    intro same
    rw [← List.head?_eq_getElem?] at same
    cases digits with
    | nil =>
      have none := ends.noWord mark same
      rw [word] at none
      cases none
    | cons digit digits =>
      have digit := all digit (List.mem_cons_of_mem _ List.mem_cons_self)
      rw [Option.some.inj same, noDigit] at digit
      cases digit
  refine number_decimal ?_
  rintro ⟨-, isMark | isMark⟩
  · exact notSecond (by decide) (by decide) isMark
  · exact notSecond (by decide) (by decide) isMark

/-- A digit is none of the marks that other things start with. -/
theorem unmarked_of_isDigit {c : Char} (digit : c.isDigit = true) :
    c ≠ '\n' ∧ isBlank c = false ∧ c ≠ '/' ∧ c ≠ '.' ∧ c ≠ '#' :=
  ascii_induction
    (fun c => c.isDigit = true → c ≠ '\n' ∧ isBlank c = false ∧ c ≠ '/' ∧ c ≠ '.' ∧ c ≠ '#')
    (by decide) (small_of_continuesPlainName (continuesPlainName_of_isDigit digit)) digit

/-- A digit starts nothing but a number. -/
theorem piece_of_isDigit {c : Char} (digit : c.isDigit = true) (rest : List Char) :
    piece false c rest = (number (c :: rest)).map .ofFound := by
  obtain ⟨noBreak, noBlank, noSlash, noPoint, -⟩ := unmarked_of_isDigit digit
  have starts : startsNumber (c :: rest) = true := by
    unfold startsNumber
    split
    · next same => exact absurd (List.cons.inj same).1 noPoint
    · next same => exact (List.cons.inj same).1 ▸ digit
    · next same => cases same
  simp [piece, tokenPiece, noBreak, noBlank, noSlash, starts]

theorem spells_digits {value : Nat} (small : value ≤ greatestInt) {rest : List Char}
    (ends : Ends rest) : Spells (toString value).toList [.int value] rest := by
  have all : ∀ c ∈ Nat.toDigits 10 value, c.isDigit = true := fun c member =>
    Nat.isDigit_of_mem_toDigits (by decide) (by decide) member
  have same : Nat.ofDigitChars 10 (Nat.toDigits 10 value) 0 = value :=
    Nat.ofDigitChars_toDigits (by decide) (by decide)
  have spelt : (toString value).toList = Nat.toDigits 10 value := Nat.toList_repr
  rw [spelt]
  have decimal := decimalNumber_append all ends (same.symm ▸ small)
  rw [same] at decimal
  cases digits : Nat.toDigits 10 value with
  | nil => exact absurd digits Nat.toDigits_ne_nil
  | cons c more =>
    rw [digits] at all decimal
    refine spells_of_piece ?_
    rw [piece_of_isDigit (all c List.mem_cons_self), ← List.cons_append,
      number_append all ends, decimal]
    rfl

/-! ### Operators and punctuation -/

/-- The token of an operator on one operand. -/
def UnaryOp.token : UnaryOp → Token
  | not => .bang
  | neg => .minus
  | plus => .plus
  | bitNot => .tilde
  | preInc | postInc => .plusPlus
  | preDec | postDec => .minusMinus

/-- The token of an operator on two operands. -/
def BinaryOp.token : BinaryOp → Token
  | or => .orOr
  | and => .andAnd
  | bitOr => .pipe
  | xor => .caret
  | bitAnd => .amp
  | eq => .eqEq
  | ne => .notEq
  | lt => .lt
  | le => .le
  | gt => .gt
  | ge => .ge
  | shl => .shl
  | shr => .shr
  | add => .plus
  | sub => .minus
  | mul => .star
  | div => .slash
  | mod => .percent

/-- Whether a script can write an assignment that applies the operator. -/
def BinaryOp.isAssignable (op : BinaryOp) : Bool :=
  fixedTokens.any fun entry => entry.2 == .assign (some op)

theorem spells_binaryOp (op : BinaryOp) (rest : List Char) :
    Spells op.symbol.toList [op.token] (' ' :: rest) := by
  cases op <;> exact spells_of_piece rfl

theorem spells_assignment {op : BinaryOp} (assignable : op.isAssignable = true)
    (rest : List Char) :
    Spells (op.symbol.toList ++ ['=']) [.assign (some op)] (' ' :: rest) := by
  cases op with
  | or | and | eq | ne | lt | le | gt | ge => cases assignable
  | _ => exact spells_of_piece rfl

theorem spells_trailingOp {op : UnaryOp} (trails : op.followsOperand = true) (rest : List Char) :
    Spells op.symbol.toList [op.token] rest := by
  cases op with
  | postInc | postDec => exact spells_of_piece rfl
  | _ => cases trails

theorem ends_trailingOp {op : UnaryOp} (trails : op.followsOperand = true) (rest : List Char) :
    Ends (op.symbol.toList ++ rest) := by
  cases op with
  | postInc | postDec => exact .cons (by decide) (by decide) _
  | _ => cases trails

/-- Whether an operator in front of a text stays a token of its own and is no sign of a number. -/
def UnaryOp.standsBefore (op : UnaryOp) (text : String) : Bool :=
  match op with
  | neg => text.toList.head?.all fun c => c != '-' && !c.isDigit
  | plus => text.toList.head?.all (· != '+')
  | _ => true

/-- An operator of one character, when no longer operator goes on from it. -/
theorem spells_sign {mark c : Char} {rest : List Char} {token : Token}
    (sign : mark = '!' ∨ mark = '+' ∨ mark = '-')
    (fixed : fixedToken? (mark :: c :: rest) = some (token, c :: rest)) :
    Spells [mark] [token] (c :: rest) := by
  have isPiece : piece false mark (c :: rest) = .ok (.ofFound (token, c :: rest)) := by
    obtain rfl | rfl | rfl := sign
    all_goals
      unfold piece tokenPiece
      rw [fixed]
      rfl
  exact spells_of_piece isPiece

theorem spells_leadingOp {op : UnaryOp} (leads : op.followsOperand = false) {c : Char}
    {rest : List Char} (noSign : c ≠ '=') (noMinus : op = .neg → c ≠ '-')
    (noPlus : op = .plus → c ≠ '+') : Spells op.symbol.toList [op.token] (c :: rest) := by
  cases op with
  | postInc | postDec => cases leads
  | bitNot | preInc | preDec => exact spells_of_piece rfl
  | not =>
    have fixed : fixedToken? ('!' :: c :: rest) = some (.bang, c :: rest) := by
      simp [fixedToken?, fixedTokens, afterSpelling?, noSign.symm]
    exact spells_sign (.inl rfl) fixed
  | plus =>
    have fixed : fixedToken? ('+' :: c :: rest) = some (.plus, c :: rest) := by
      simp [fixedToken?, fixedTokens, afterSpelling?, noSign.symm, (noPlus rfl).symm]
    exact spells_sign (.inr (.inl rfl)) fixed
  | neg =>
    have fixed : fixedToken? ('-' :: c :: rest) = some (.minus, c :: rest) := by
      simp [fixedToken?, fixedTokens, afterSpelling?, noSign.symm, (noMinus rfl).symm]
    exact spells_sign (.inr (.inr rfl)) fixed

end Storefront.Script
