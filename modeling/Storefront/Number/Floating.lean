/-!
Binary floating-point numbers as words, computed with integers alone. A `Floating format` holds the
bits of one number; the operations decode it into `significand * 2 ^ power`, work in exact integer
arithmetic and round once at the end, to the nearest number of the format, a tie going to the even
one. Since nothing here is done by machine floats, every operation can be evaluated inside a proof.
-/

namespace Storefront.Number

/-! ### Formats -/

/-- A binary interchange format: the bits of its significand, the leading one included, and the
bits of its exponent. -/
structure Format where
  precision : Nat
  exponentBits : Nat
  deriving DecidableEq, Repr

namespace Format

/-- The format of 64 bits. -/
def double : Format := ⟨53, 11⟩

/-- The format of 32 bits. -/
def single : Format := ⟨24, 8⟩

/-- The bits of one number: the sign takes the place of the leading one, which is not stored. -/
def width (format : Format) : Nat := format.precision + format.exponentBits

/-- The least significand of full precision. -/
def fullSignificand (format : Format) : Nat := Nat.pow 2 (format.precision - 1)

/-- The code of infinity. Codes of magnitudes ascend with the magnitudes, and those below this one
are finite. -/
def infinity (format : Format) : Nat :=
  (Nat.pow 2 format.exponentBits - 1) * format.fullSignificand

/-- The power of two that the last bit of the least numbers stands for. -/
def leastPower (format : Format) : Int :=
  3 - Nat.pow 2 (format.exponentBits - 1) - format.precision

/-- `numerator / denominator` rounded to a whole number, a half going to the even neighbour. -/
def roundHalfEven (numerator denominator : Nat) : Nat :=
  let quotient := numerator / denominator
  let remainder := numerator % denominator
  if denominator < 2 * remainder || (2 * remainder == denominator && quotient % 2 == 1) then
    quotient + 1
  else
    quotient

/-- The power of two at or below `numerator / denominator`, both positive. -/
def leadingPower (numerator denominator : Nat) : Int :=
  let guess : Int := (numerator.log2 : Int) - (denominator.log2 : Int)
  if denominator <<< guess.toNat ≤ numerator <<< (-guess).toNat then guess else guess - 1

/-- The code of the magnitude nearest to `numerator / denominator`. -/
def nearest (format : Format) (numerator denominator : Nat) : Nat :=
  if numerator = 0 then 0
  else
    let power := max format.leastPower
      (leadingPower numerator denominator - ((format.precision - 1 : Nat) : Int))
    let significand :=
      roundHalfEven (numerator <<< (-power).toNat) (denominator <<< power.toNat)
    min format.infinity
      ((power - format.leastPower).toNat * format.fullSignificand + significand)

/-- The code of the magnitude nearest to `significand * 2 ^ power`. -/
def nearestScaled (format : Format) (significand : Nat) (power : Int) : Nat :=
  format.nearest (significand <<< power.toNat) (1 <<< (-power).toNat)

end Format

/-! ### Numbers -/

/-- A floating-point number of a format, as its word. -/
structure Floating (format : Format) where
  word : BitVec format.width
  deriving DecidableEq, Repr

/-- The numbers of 64 bits. -/
abbrev Double := Floating .double

/-- The numbers of 32 bits. -/
abbrev Single := Floating .single

namespace Floating

variable {format : Format}

/-- The number with the given sign and the given code of its magnitude. -/
def ofParts (negative : Bool) (magnitude : Nat) : Floating format :=
  ⟨BitVec.ofNat format.width ((if negative then Nat.pow 2 (format.width - 1) else 0) + magnitude)⟩

/-- The sign, which zero has too. -/
def negative (x : Floating format) : Bool :=
  decide (Nat.pow 2 (format.width - 1) ≤ x.word.toNat)

/-- The code of the magnitude. -/
def magnitude (x : Floating format) : Nat := x.word.toNat % Nat.pow 2 (format.width - 1)

def isNaN (x : Floating format) : Bool := decide (format.infinity < x.magnitude)

def isFinite (x : Floating format) : Bool := decide (x.magnitude < format.infinity)

/-- The whole number which a finite number is a multiple of a power of two of. -/
def significand (x : Floating format) : Nat :=
  if x.magnitude < format.fullSignificand then x.magnitude
  else format.fullSignificand + x.magnitude % format.fullSignificand

/-- The power of two which a finite number is a multiple of. -/
def power (x : Floating format) : Int :=
  format.leastPower + ((x.magnitude / format.fullSignificand - 1 : Nat) : Int)

/-- The number that is no number. -/
def nan : Floating format := ofParts false (format.infinity + format.fullSignificand / 2)

/-- The same magnitude with the other sign. -/
protected def neg (x : Floating format) : Floating format := ofParts (!x.negative) x.magnitude

instance : Neg (Floating format) := ⟨Floating.neg⟩

/-- A whole number, rounded. -/
def ofNat (value : Nat) : Floating format := ofParts false (format.nearest value 1)

/-- The number nearest to `digits * 10 ^ exponent`. Exponents far outside the format's range are
settled without building the power of ten. -/
def ofDecimal (negative : Bool) (digits : Nat) (exponent : Int) : Floating format :=
  let position : Int := exponent + (toString digits).length
  let code :=
    if digits = 0 then 0
    else if Nat.pow 2 (format.exponentBits - 1) < position then format.infinity
    else if position < format.leastPower then 0
    else format.nearest (digits * Nat.pow 10 exponent.toNat) (Nat.pow 10 (-exponent).toNat)
  ofParts negative code

/-- The nearest number of another format. -/
def convert (target : Format) (x : Floating format) : Floating target :=
  if x.isNaN then nan
  else if x.isFinite then ofParts x.negative (target.nearestScaled x.significand x.power)
  else ofParts x.negative target.infinity

/-- The place of a number in the order: both zeros have the same. -/
def rank (x : Floating format) : Int :=
  if x.negative then -(x.magnitude : Int) else x.magnitude

/-- Numeric equality: the zeros are equal, and what is no number equals nothing. -/
def equal (x y : Floating format) : Bool := !x.isNaN && !y.isNaN && x.rank == y.rank

/-- Numeric order; what is no number is below nothing. -/
def below (x y : Floating format) : Bool := !x.isNaN && !y.isNaN && decide (x.rank < y.rank)

/-- The product, rounded once. -/
protected def mul (x y : Floating format) : Floating format :=
  let negative := x.negative != y.negative
  if x.isNaN || y.isNaN then nan
  else if x.isFinite && y.isFinite then
    ofParts negative
      (format.nearestScaled (x.significand * y.significand) (x.power + y.power))
  else if x.magnitude == 0 || y.magnitude == 0 then nan
  else ofParts negative format.infinity

instance : Mul (Floating format) := ⟨Floating.mul⟩

/-- The quotient of a finite number by a finite one that is not zero, rounded once. -/
def divide (x y : Floating format) : Floating format :=
  let power := x.power - y.power
  ofParts (x.negative != y.negative)
    (format.nearest (x.significand <<< power.toNat) (y.significand <<< (-power).toNat))

/-- Whether a number is finite and has no fraction. -/
def isWhole (x : Floating format) : Bool :=
  x.isFinite && x.significand % Nat.pow 2 (-x.power).toNat == 0

/-- The whole part of a finite number's magnitude. -/
def wholePart (x : Floating format) : Nat :=
  (x.significand <<< x.power.toNat) >>> (-x.power).toNat

/-- The whole part, toward zero, held within the bounds; zero for what is no number. -/
def truncateWithin (least greatest : Int) (x : Floating format) : Int :=
  if x.isNaN then 0
  else if x.isFinite then
    max least (min greatest (if x.negative then -(x.wholePart : Int) else x.wholePart))
  else if x.negative then least else greatest

end Floating

end Storefront.Number
