import Storefront.Script.Lexeme.Basic

/-!
Numbers in a script. Whole numbers are decimal or hexadecimal and fit 64 bits with a sign; a
fraction, an exponent or a suffix makes a number a real one, which is rounded to the nearest double.
-/

namespace Storefront.Script.Lexer

open Storefront.Number

/-! ### Runs of characters -/

/-- The decimal digits and the mark that may separate them. -/
def isDigitOrGap (c : Char) : Bool := c.isDigit || c == '_'

/-- The hexadecimal digits. -/
def isHexDigit (c : Char) : Bool :=
  c.isDigit || ('a' ≤ c && c ≤ 'f') || ('A' ≤ c && c ≤ 'F')

/-- The hexadecimal digits and the mark that may separate them. -/
def isHexDigitOrGap (c : Char) : Bool := isHexDigit c || c == '_'

/-- The letters that may follow a whole number. -/
def isIntSuffix (c : Char) : Bool := c == 'u' || c == 'U' || c == 'l' || c == 'L'

/-- The letters of which one may follow a number and makes it a real one. -/
def isRealSuffix (c : Char) : Bool :=
  c == 'f' || c == 'F' || c == 'd' || c == 'D' || c == 'm' || c == 'M'

/-- The value of a digit, decimal or hexadecimal. -/
def digitValue (c : Char) : Nat :=
  if c.isDigit then c.toNat - '0'.toNat
  else if 'a' ≤ c then c.toNat - 'a'.toNat + 10
  else c.toNat - 'A'.toNat + 10

/-- The number that digits stand for in a base. -/
def valueOf (base : Nat) (digits : List Char) : Nat :=
  digits.foldl (fun value digit => value * base + digitValue digit) 0

/-- The greatest whole number that a script can write. -/
def greatestInt : Nat := Nat.pow 2 63 - 1

/-! ### Numbers -/

/-- A hexadecimal number after its `0x`. -/
def hexNumber (text : List Char) : Except Fault Found :=
  let digits := (text.takeWhile isHexDigitOrGap).filter (· != '_')
  let value := valueOf 16 digits
  if digits.isEmpty || greatestInt < value then .error (.invalidHex (String.ofList digits))
  else .ok (.int value, (text.dropWhile isHexDigitOrGap).dropWhile isIntSuffix)

/-- A part that may be missing: what `scan` finds at the start of a text, and the text after it. -/
def optionalPart {Part : Type} (scan : List Char → Option (Part × List Char))
    (text : List Char) : Option Part × List Char :=
  match scan text with
  | some (part, rest) => (some part, rest)
  | none => (none, text)

/-- The digits of a fraction: they follow a point, and the first is no separator. -/
def fraction : List Char → Option (List Char × List Char)
  | '.' :: digit :: rest =>
    if digit.isDigit then
      some ((digit :: rest).takeWhile isDigitOrGap, (digit :: rest).dropWhile isDigitOrGap)
    else none
  | _ => none

/-- The sign in front of an exponent's digits: whether it is a minus. -/
def exponentSign : List Char → Bool × List Char
  | '+' :: rest => (false, rest)
  | '-' :: rest => (true, rest)
  | rest => (false, rest)

/-- The exponent of a number: the letter, perhaps a sign, and at least one digit. -/
def exponent : List Char → Option (Int × List Char)
  | mark :: rest =>
    let signed := exponentSign rest
    let digits := signed.2.takeWhile Char.isDigit
    if (mark == 'e' || mark == 'E') && !digits.isEmpty then
      let size : Int := valueOf 10 digits
      some (if signed.1 then -size else size, signed.2.dropWhile Char.isDigit)
    else none
  | [] => none

/-- The letter after a number that makes it a real one. -/
def realSuffix : List Char → Option (Char × List Char)
  | mark :: rest => if isRealSuffix mark then some (mark, rest) else none
  | [] => none

/-- A decimal number. A fraction, an exponent or a suffix makes it a real one. -/
def decimalNumber (text : List Char) : Except Fault Found :=
  let whole := (text.takeWhile isDigitOrGap).filter (· != '_')
  let (places?, afterFraction) := optionalPart fraction (text.dropWhile isDigitOrGap)
  let (exponent?, afterExponent) := optionalPart exponent afterFraction
  let (suffix?, afterSuffix) := optionalPart realSuffix afterExponent
  if places?.isSome || exponent?.isSome || suffix?.isSome then
    let places := (places?.getD []).filter (· != '_')
    let digits := valueOf 10 (whole ++ places)
    .ok (.float (.ofDecimal false digits (exponent?.getD 0 - places.length)), afterSuffix)
  else
    let value := valueOf 10 whole
    if greatestInt < value then .error (.invalidInteger (String.ofList whole))
    else .ok (.int value, afterSuffix.dropWhile isIntSuffix)

/-- A number. -/
def number : List Char → Except Fault Found
  | '0' :: 'x' :: rest => hexNumber rest
  | '0' :: 'X' :: rest => hexNumber rest
  | text => decimalNumber text

/-- Whether a number starts here. -/
def startsNumber : List Char → Bool
  | '.' :: next :: _ => next.isDigit
  | c :: _ => c.isDigit
  | [] => false

/-! ### Which number a text starts with -/

theorem number_hex {mark : Char} (isHex : mark = 'x' ∨ mark = 'X') (text : List Char) :
    number ('0' :: mark :: text) = hexNumber text := by
  obtain rfl | rfl := isHex <;> rfl

theorem number_decimal {c : Char} {rest : List Char}
    (noHex : ¬(c = '0' ∧ (rest[0]? = some 'x' ∨ rest[0]? = some 'X'))) :
    number (c :: rest) = decimalNumber (c :: rest) := by
  refine number.eq_3 (c :: rest) ?_ ?_
  · rintro after same
    obtain ⟨rfl, rfl⟩ := List.cons.inj same
    exact noHex ⟨rfl, .inl rfl⟩
  · rintro after same
    obtain ⟨rfl, rfl⟩ := List.cons.inj same
    exact noHex ⟨rfl, .inr rfl⟩

theorem fraction_eq_none {text : List Char} (noPoint : ∀ c ∈ text.head?, c ≠ '.') :
    fraction text = none := by
  unfold fraction
  split
  · exact absurd rfl (noPoint '.' rfl)
  · rfl

theorem exponent_eq_none {text : List Char}
    (noMark : ∀ c ∈ text.head?, (c == 'e' || c == 'E') = false) : exponent text = none := by
  cases text with
  | nil => rfl
  | cons mark rest =>
    rw [exponent, noMark mark rfl]
    rfl

theorem realSuffix_eq_none {text : List Char}
    (noSuffix : ∀ c ∈ text.head?, isRealSuffix c = false) : realSuffix text = none := by
  cases text with
  | nil => rfl
  | cons mark rest =>
    rw [realSuffix, noSuffix mark rfl]
    rfl

/-! ### Every number takes a character -/

theorem hexNumber_length {text : List Char} {result : Found}
    (found : hexNumber text = .ok result) : result.2.length ≤ text.length := by
  unfold hexNumber at found
  dsimp only at found
  split at found
  · simp at found
  · obtain rfl := Except.ok.inj found
    exact Nat.le_trans (length_dropWhile_le _ _) (length_dropWhile_le _ _)

theorem fraction_length {text : List Char} {result : List Char × List Char}
    (found : fraction text = some result) : result.2.length < text.length := by
  unfold fraction at found
  split at found
  · split at found
    · obtain rfl := Option.some.inj found
      exact Nat.lt_succ_of_le (length_dropWhile_le _ _)
    · simp at found
  · simp at found

theorem exponentSign_length (text : List Char) :
    (exponentSign text).2.length ≤ text.length := by
  unfold exponentSign
  split <;> simp

theorem exponent_length {text : List Char} {result : Int × List Char}
    (found : exponent text = some result) : result.2.length ≤ text.length := by
  unfold exponent at found
  split at found
  · dsimp only at found
    split at found
    · obtain rfl := Option.some.inj found
      exact Nat.le_succ_of_le (Nat.le_trans (length_dropWhile_le _ _) (exponentSign_length _))
    · simp at found
  · simp at found

theorem realSuffix_length {text : List Char} {result : Char × List Char}
    (found : realSuffix text = some result) : result.2.length ≤ text.length := by
  unfold realSuffix at found
  split at found
  · split at found
    · obtain rfl := Option.some.inj found
      exact Nat.le_succ _
    · simp at found
  · simp at found

/-- The text after an optional part is no longer than the text before it. -/
theorem optionalPart_length {Part : Type} {scan : List Char → Option (Part × List Char)}
    (text : List Char)
    (shorter : ∀ result, scan text = some result → result.2.length ≤ text.length) :
    (optionalPart scan text).2.length ≤ text.length := by
  unfold optionalPart
  split
  · next found => exact shorter _ found
  · exact Nat.le_refl _

/-- What starts like a number has a whole part or a fraction. -/
theorem length_after_fraction {text : List Char} (starts : startsNumber text = true) :
    (optionalPart fraction (text.dropWhile isDigitOrGap)).2.length < text.length := by
  have after := optionalPart_length (text.dropWhile isDigitOrGap)
    fun _ found => Nat.le_of_lt (fraction_length found)
  unfold startsNumber at starts
  split at starts
  · next next rest =>
    have shorter := length_dropWhile_le isDigitOrGap rest
    simp [optionalPart, fraction, isDigitOrGap, starts]
    omega
  · next c rest _ =>
    exact Nat.lt_of_le_of_lt after
      (length_dropWhile_cons_lt rest (by simp [isDigitOrGap, starts]))
  · simp at starts

theorem decimalNumber_length {text : List Char} {result : Found}
    (starts : startsNumber text = true) (found : decimalNumber text = .ok result) :
    result.2.length < text.length := by
  have afterFraction := length_after_fraction starts
  have afterExponent := optionalPart_length (optionalPart fraction (text.dropWhile isDigitOrGap)).2
    fun _ => exponent_length
  have afterSuffix := optionalPart_length
    (optionalPart exponent (optionalPart fraction (text.dropWhile isDigitOrGap)).2).2
    fun _ => realSuffix_length
  unfold decimalNumber at found
  dsimp only at found
  split at found
  · obtain rfl := Except.ok.inj found
    dsimp only
    omega
  · split at found
    · simp at found
    · obtain rfl := Except.ok.inj found
      refine Nat.lt_of_le_of_lt (length_dropWhile_le _ _) ?_
      omega

theorem number_length {text : List Char} {result : Found}
    (starts : startsNumber text = true) (found : number text = .ok result) :
    result.2.length < text.length := by
  unfold number at found
  split at found
  · exact Nat.lt_succ_of_le (Nat.le_succ_of_le (hexNumber_length found))
  · exact Nat.lt_succ_of_le (Nat.le_succ_of_le (hexNumber_length found))
  · exact decimalNumber_length starts found

end Storefront.Script.Lexer
