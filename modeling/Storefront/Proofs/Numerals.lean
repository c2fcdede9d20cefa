import Mathlib.Data.Nat.Digits.Defs
import Storefront.Proofs.Spelling

/-!
Whole numbers as they are written. A numeral has digits, of base ten as they are or of base sixteen
after a zero and an `x`, with gaps among them and letters behind them. It is one token, whose value
is that of the digits in their base, or it is refused because its value does not fit; nothing of it
is left over and nothing of it is lost.
-/

namespace Storefront.Script

open Lexer Storefront.Text

/-! ### Digits -/

/-- The digits in their order. -/
def digitsInOrder : List Char := "0123456789abcdef".toList

/-- A digit of a base is one of the first `base` digits; a letter may be a capital. -/
def IsDigitOf (base : Nat) (c : Char) : Prop := c.toLower ∈ digitsInOrder.take base

instance (base : Nat) (c : Char) : Decidable (IsDigitOf base c) :=
  inferInstanceAs (Decidable (c.toLower ∈ digitsInOrder.take base))

/-- What a digit is worth is its place in the order. -/
def worth (digit : Char) : Nat := digitsInOrder.idxOf digit.toLower

/-- A digit is an ASCII character. -/
theorem small_of_isDigitOf {base : Nat} {c : Char} (digit : IsDigitOf base c) : c.toNat < 128 := by
  have all : digitsInOrder.all (·.toNat < 128) = true := by decide
  have listed : c.toLower ∈ digitsInOrder := List.mem_of_mem_take digit
  unfold Char.toLower at listed
  split at listed
  · next upper => exact Nat.lt_of_le_of_lt (UInt32.le_iff_toNat_le.mp upper.2) (by decide)
  · exact of_decide_eq_true (List.all_eq_true.mp all c listed)

theorem isHexDigit_of_isDigitOf {c : Char} (digit : IsDigitOf 16 c) : isHexDigit c = true :=
  ascii_induction (fun c => IsDigitOf 16 c → isHexDigit c = true) (by decide +kernel)
    (small_of_isDigitOf digit) digit

theorem isDigit_of_isDigitOf {c : Char} (digit : IsDigitOf 10 c) : c.isDigit = true :=
  ascii_induction (fun c => IsDigitOf 10 c → c.isDigit = true) (by decide +kernel)
    (small_of_isDigitOf digit) digit

/-- A digit counts for the same in every base that has it. -/
theorem digitValue_eq_worth {base : Nat} {c : Char} (digit : IsDigitOf base c) :
    digitValue c = worth c :=
  ascii_induction (fun c => c.toLower ∈ digitsInOrder → digitValue c = worth c)
    (by decide +kernel) (small_of_isDigitOf digit) (List.mem_of_mem_take digit)

theorem ne_gap_of_isDigitOf {base : Nat} {c : Char} (digit : IsDigitOf base c) : c ≠ '_' := by
  rintro rfl
  have noDigit : '_'.toLower ∉ digitsInOrder := by decide
  exact noDigit (List.mem_of_mem_take digit)

/-- The value of digits is a sum of powers of the base. -/
theorem valueOf_eq_ofDigits {base : Nat} {digits : List Char}
    (each : ∀ c ∈ digits, IsDigitOf base c) :
    valueOf base digits = Nat.ofDigits base (digits.reverse.map worth) := by
  rw [Nat.ofDigits_eq_foldr, List.map_reverse, List.foldr_reverse, List.foldl_map, valueOf]
  refine List.foldl_ext _ _ _ fun value c member => ?_
  rw [digitValue_eq_worth (each c member), Nat.cast_id, Nat.mul_comm, Nat.add_comm]

/-! ### Numerals -/

/-- The two ways to write a whole number: in base ten, or in base sixteen behind a mark whose letter
may be a capital. -/
inductive Radix where
  | decimal
  | hexadecimal (capital : Bool)

namespace Radix

def base : Radix → Nat
  | decimal => 10
  | hexadecimal _ => 16

/-- What stands in front of the digits. -/
def mark : Radix → List Char
  | decimal => []
  | hexadecimal false => ['0', 'x']
  | hexadecimal true => ['0', 'X']

end Radix

/-- A whole number as it is written: a digit, then digits and gaps, then letters. -/
structure Numeral where
  radix : Radix
  first : Char
  others : List Char
  letters : List Char
  first_digit : IsDigitOf radix.base first
  others_digit : ∀ c ∈ others, c = '_' ∨ IsDigitOf radix.base c
  letters_suffix : ∀ c ∈ letters, c ∈ ['u', 'U', 'l', 'L']

namespace Numeral

variable (numeral : Numeral)

/-- The digits without the gaps. -/
def digits : List Char := (numeral.first :: numeral.others).filter (· != '_')

/-- The number that the digits stand for. -/
def value : Nat := Nat.ofDigits numeral.radix.base (numeral.digits.reverse.map worth)

/-- The characters of a numeral. -/
def spelling : List Char :=
  numeral.radix.mark ++ (numeral.first :: numeral.others ++ numeral.letters)

/-- What is wrong with a number that does not fit. -/
def fault : Fault :=
  match numeral.radix with
  | .decimal => .invalidInteger (String.ofList numeral.digits)
  | .hexadecimal _ => .invalidHex (String.ofList numeral.digits)

theorem mem_body {c : Char} (member : c ∈ numeral.first :: numeral.others) :
    c = '_' ∨ IsDigitOf numeral.radix.base c := by
  rcases List.mem_cons.mp member with rfl | later
  · exact .inr numeral.first_digit
  · exact numeral.others_digit c later

theorem mem_digits {c : Char} (member : c ∈ numeral.digits) : IsDigitOf numeral.radix.base c := by
  obtain ⟨inBody, noGap⟩ := List.mem_filter.mp member
  exact (numeral.mem_body inBody).resolve_left (bne_iff_ne.mp noGap)

/-- What keeps gaps and digits keeps all up to the letters. -/
theorem body_kept {keep : Char → Bool} (gap : keep '_' = true)
    (digit : ∀ {c}, IsDigitOf numeral.radix.base c → keep c = true) :
    ∀ c ∈ numeral.first :: numeral.others, keep c = true := by
  intro c member
  rcases numeral.mem_body member with rfl | isDigit
  · exact gap
  · exact digit isDigit

theorem valueOf_digits {base : Nat} (ofBase : numeral.radix.base = base) :
    valueOf base numeral.digits = numeral.value := by
  subst ofBase
  exact valueOf_eq_ofDigits fun _ => numeral.mem_digits

theorem digits_ne_nil : numeral.digits ≠ [] := by
  refine List.ne_nil_of_mem (List.mem_filter.mpr ⟨List.mem_cons_self, ?_⟩)
  exact bne_iff_ne.mpr (ne_gap_of_isDigitOf numeral.first_digit)

/-- What none of the letters is does not come next behind the digits. -/
theorem letters_stop {keep : Char → Bool} (none : ['u', 'U', 'l', 'L'].any keep = false) :
    ∀ c ∈ numeral.letters.head?, keep c = false := by
  intro c first
  have letter := numeral.letters_suffix c (List.mem_of_mem_head? first)
  exact Bool.eq_false_iff.mpr (List.any_eq_false.mp none c letter)

theorem letters_passed : numeral.letters.dropWhile isIntSuffix = [] := by
  have all : ['u', 'U', 'l', 'L'].all isIntSuffix = true := by decide
  have kept : ∀ c ∈ numeral.letters, isIntSuffix c = true :=
    fun c member => List.all_eq_true.mp all c (numeral.letters_suffix c member)
  have atEnd : ∀ c ∈ [].head?, isIntSuffix c = false := fun _ none => nomatch none
  rw [← List.append_nil numeral.letters]
  exact (scan_append isIntSuffix kept atEnd).2

/-! ### A numeral as a number -/

theorem hexNumber_body (hexadecimal : numeral.radix.base = 16) :
    hexNumber (numeral.first :: numeral.others ++ numeral.letters) =
      if greatestInt < numeral.value then .error (.invalidHex (String.ofList numeral.digits))
      else .ok (.int numeral.value, []) := by
  have kept : ∀ c ∈ numeral.first :: numeral.others, isHexDigitOrGap c = true := by
    refine numeral.body_kept rfl fun digit => ?_
    rw [isHexDigitOrGap, isHexDigit_of_isDigitOf (hexadecimal ▸ digit), Bool.true_or]
  obtain ⟨taken, left⟩ := scan_append isHexDigitOrGap kept (numeral.letters_stop (by decide))
  have someDigit : numeral.digits.isEmpty = false :=
    Bool.eq_false_iff.mpr fun empty => numeral.digits_ne_nil (List.isEmpty_iff.mp empty)
  unfold hexNumber
  rw [taken, left, numeral.letters_passed, ← digits]
  dsimp only
  rw [numeral.valueOf_digits hexadecimal, someDigit, Bool.false_or]
  simp only [decide_eq_true_eq]

theorem decimalNumber_body (decimal : numeral.radix.base = 10) :
    decimalNumber (numeral.first :: numeral.others ++ numeral.letters) =
      if greatestInt < numeral.value then .error (.invalidInteger (String.ofList numeral.digits))
      else .ok (.int numeral.value, []) := by
  have kept : ∀ c ∈ numeral.first :: numeral.others, isDigitOrGap c = true := by
    refine numeral.body_kept rfl fun digit => ?_
    rw [isDigitOrGap, isDigit_of_isDigitOf (decimal ▸ digit), Bool.true_or]
  have noPoint : ∀ c ∈ numeral.letters.head?, (c == '.') = false :=
    numeral.letters_stop (by decide)
  have noFraction : fraction numeral.letters = none :=
    fraction_eq_none fun c first => beq_eq_false_iff_ne.mp (noPoint c first)
  rw [decimalNumber_whole kept (numeral.letters_stop (by decide)) noFraction
    (numeral.letters_stop (by decide)) (numeral.letters_stop (by decide)), ← digits,
    numeral.valueOf_digits decimal, numeral.letters_passed]

/-- A decimal numeral is not taken for a hexadecimal one. -/
theorem number_body (decimal : numeral.radix.base = 10) :
    number (numeral.first :: numeral.others ++ numeral.letters) =
      decimalNumber (numeral.first :: numeral.others ++ numeral.letters) := by
  have noMark {mark : Char} (noLetter : mark ∉ ['u', 'U', 'l', 'L']) (noGap : mark ≠ '_')
      (noDigit : ¬ IsDigitOf 10 mark) : (numeral.others ++ numeral.letters)[0]? ≠ some mark := by
    intro second
    rcases List.mem_append.mp (List.mem_of_getElem? second) with inOthers | inLetters
    · rcases numeral.others_digit mark inOthers with gap | digit
      · exact noGap gap
      · exact noDigit (decimal ▸ digit)
    · exact noLetter (numeral.letters_suffix mark inLetters)
  refine number_decimal ?_
  rintro ⟨-, isMark | isMark⟩
  · exact noMark (by decide) (by decide) (by decide) isMark
  · exact noMark (by decide) (by decide) (by decide) isMark

theorem number_spelling :
    number numeral.spelling =
      if greatestInt < numeral.value then .error numeral.fault
      else .ok (.int numeral.value, []) := by
  rw [spelling, fault]
  cases radix : numeral.radix with
  | decimal =>
    have decimal : numeral.radix.base = 10 := by rw [radix]; rfl
    exact (numeral.number_body decimal).trans (numeral.decimalNumber_body decimal)
  | hexadecimal capital =>
    have hexadecimal : numeral.radix.base = 16 := by rw [radix]; rfl
    rw [← numeral.hexNumber_body hexadecimal]
    cases capital with
    | false => exact number_hex (.inl rfl) _
    | true => exact number_hex (.inr rfl) _

/-- A numeral starts with a decimal digit. -/
theorem exists_digit : ∃ c rest, numeral.spelling = c :: rest ∧ c.isDigit = true := by
  rw [spelling]
  cases radix : numeral.radix with
  | decimal =>
    have decimal : IsDigitOf 10 numeral.first := by
      have digit := numeral.first_digit
      rwa [radix] at digit
    exact ⟨_, _, rfl, isDigit_of_isDigitOf decimal⟩
  | hexadecimal capital =>
    cases capital with
    | false => exact ⟨'0', _, rfl, rfl⟩
    | true => exact ⟨'0', _, rfl, rfl⟩

end Numeral

/-- The text of a numeral is one token with the value of its digits, or it does not fit and is
refused. -/
theorem lex_numeral (numeral : Numeral) :
    lex (String.ofList numeral.spelling) =
      if numeral.value ≤ 2 ^ 63 - 1 then .ok ⟨[⟨1, .int numeral.value⟩], 1⟩
      else .error ⟨1, numeral.fault⟩ := by
  obtain ⟨c, rest, starts, digit⟩ := numeral.exists_digit
  obtain ⟨-, noBlank, -, -, noHash⟩ := unmarked_of_isDigit digit
  have isPiece := piece_of_isDigit digit rest
  rw [← starts, numeral.number_spelling] at isPiece
  rw [lex, String.toList_ofList, starts, lexFrom_fresh noBlank noHash]
  by_cases fits : numeral.value ≤ 2 ^ 63 - 1
  · have noOverflow : ¬ greatestInt < numeral.value := Nat.not_lt.mpr fits
    rw [if_neg noOverflow] at isPiece
    rw [if_pos fits, lexFrom_token isPiece, lexFrom]
    rfl
  · have overflow : greatestInt < numeral.value := Nat.lt_of_not_le fits
    rw [if_pos overflow] at isPiece
    rw [if_neg fits, lexFrom_error isPiece]

/-- The greatest number of 64 bits with a sign, with a gap and letters: `9_223372036854775807uL`. -/
def greatestNumeral : Numeral where
  radix := .decimal
  first := '9'
  others := "_223372036854775807".toList
  letters := ['u', 'L']
  first_digit := by decide
  others_digit := List.forall_iff_forall_mem.mp (by decide)
  letters_suffix := List.forall_iff_forall_mem.mp (by decide)

/-- One more than that number in base sixteen: `0X8000000000000000`. -/
def overflowingNumeral : Numeral where
  radix := .hexadecimal true
  first := '8'
  others := List.replicate 15 '0'
  letters := []
  first_digit := by decide
  others_digit := List.forall_iff_forall_mem.mp (by decide)
  letters_suffix := List.forall_iff_forall_mem.mp (by decide)

/-- The greatest number is a token, and the next one is refused. -/
theorem lex_numeral_greatest :
    lex "9_223372036854775807uL" = .ok ⟨[⟨1, .int 9223372036854775807⟩], 1⟩ ∧
    lex "0X8000000000000000" = .error ⟨1, .invalidHex "8000000000000000"⟩ := by
  have greatest : greatestNumeral.value = 9223372036854775807 := by decide
  have overflowing : overflowingNumeral.value = 9223372036854775808 := by decide
  constructor
  · refine (lex_numeral greatestNumeral).trans ?_
    rw [greatest]
    rfl
  · refine (lex_numeral overflowingNumeral).trans ?_
    rw [overflowing]
    rfl

end Storefront.Script
