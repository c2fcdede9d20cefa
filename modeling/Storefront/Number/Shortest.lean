import Storefront.Number.Floating

/-!
The decimal text of a floating-point number. The digits are the fewest that still name this number
and no neighbour of it; of the decimals with that many digits the nearest is taken. How the digits
are laid out around the point is a second, independent choice, which `NumberStyle` records.
-/

namespace Storefront.Number

/-- The decimal `digits * 10 ^ exponent`. -/
structure Decimal where
  digits : Nat
  exponent : Int
  deriving DecidableEq, Repr

namespace Decimal

/-- The digits as text. -/
def digitText (decimal : Decimal) : String := toString decimal.digits

/-- The count of digits before the point; not positive when zeros follow the point first. -/
def pointPosition (decimal : Decimal) : Int :=
  decimal.digitText.length + decimal.exponent

/-- The same value without zeros at the end of the digits, looking at no more than `limit` of
them. -/
def trim (decimal : Decimal) : (limit : Nat) → Decimal
  | 0 => decimal
  | limit + 1 =>
    if decimal.digits % 10 = 0 then trim ⟨decimal.digits / 10, decimal.exponent + 1⟩ limit
    else decimal

/-- The digits laid out around the point without an exponent, whole numbers with `.0`. -/
def positional (decimal : Decimal) : String :=
  let digits := decimal.digitText
  let position := decimal.pointPosition
  if position ≤ 0 then "0." ++ "".pushn '0' (-position).toNat ++ digits
  else if digits.length ≤ position.toNat then
    digits ++ "".pushn '0' (position.toNat - digits.length) ++ ".0"
  else
    String.ofList (digits.toList.take position.toNat) ++ "." ++
      String.ofList (digits.toList.drop position.toNat)

/-- One digit, the point and the other digits if there are any, and the exponent. -/
def scientific (decimal : Decimal) : String :=
  let fraction := String.ofList (decimal.digitText.toList.drop 1)
  String.ofList (decimal.digitText.toList.take 1) ++
    (if fraction.isEmpty then "" else "." ++ fraction) ++
    "e" ++ toString (decimal.pointPosition - 1)

end Decimal

namespace Floating

variable {format : Format}

/-! ### The fewest digits -/

/-- Whether `numerator / denominator` names the finite positive number `x`, that is, lies between
the midpoints towards its neighbours. The midpoints themselves name `x` exactly when its significand
is even. The midpoint below is half as far off where the spacing of the numbers changes. -/
def named (x : Floating format) (numerator denominator : Nat) : Bool :=
  let unit := x.power - 2
  let scaled := numerator <<< (-unit).toNat
  let step := denominator <<< unit.toNat
  let gap := if x.significand = format.fullSignificand && format.leastPower < x.power then 1 else 2
  let least := (4 * x.significand - gap) * step
  let greatest := (4 * x.significand + 2) * step
  if x.significand % 2 = 0 then least ≤ scaled && scaled ≤ greatest
  else least < scaled && scaled < greatest

/-- The decimal point's position in the number: the count of its whole digits, or minus the count
of zeros that follow the point. -/
def decimalPosition (numerator denominator : Nat) : Int :=
  if denominator ≤ numerator then ((toString (numerator / denominator)).length : Int)
  else 1 - ((toString (denominator / numerator)).length : Int)

/-- The nearer of the two neighbours of `x` among the decimals with `count` digits, if one of them
names `x`. -/
def decimalOf? (x : Floating format) (count : Nat) : Option Decimal :=
  let numerator := x.significand <<< x.power.toNat
  let denominator := 1 <<< (-x.power).toNat
  let exponent := decimalPosition numerator denominator - (count : Int)
  let up := Nat.pow 10 (-exponent).toNat
  let down := Nat.pow 10 exponent.toNat
  let scaled := numerator * up
  let step := denominator * down
  let low := scaled / step
  let remainder := scaled % step
  let lowNamed := x.named (low * down) up
  let highNamed := x.named ((low + 1) * down) up
  let highNearer := step < 2 * remainder || (2 * remainder == step && low % 2 == 1)
  if highNamed && (highNearer || !lowNamed) then some ⟨low + 1, exponent⟩
  else if lowNamed then some ⟨low, exponent⟩
  else none

/-- The shortest decimal that names the magnitude of a finite number. -/
def shortest (x : Floating format) : Decimal :=
  if x.magnitude = 0 then ⟨0, 0⟩
  else
    let magnitude : Floating format := ofParts false x.magnitude
    match (List.range format.precision).findSome? fun count => magnitude.decimalOf? (count + 1) with
    | some decimal => decimal.trim (decimal.digitText.length)
    | none => ⟨0, 0⟩

end Floating

/-! ### Text -/

/-- How a number is laid out: `exact` writes a whole number with all digits of its value instead of
the fewest, and `scientific` says for which positions of the point an exponent is written. -/
structure NumberStyle where
  exact : Bool
  scientific : Int → Bool

namespace NumberStyle

/-- Numbers as an expression shows them: whole ones in full, none with an exponent. -/
def plain : NumberStyle := ⟨true, fun _ => false⟩

/-- Numbers as a message shows a token: an exponent below `0.0001` and from `10^16` on. -/
def compact : NumberStyle := ⟨false, fun position => position < -3 || 16 < position⟩

end NumberStyle

/-- The text of a number in a style. -/
def Floating.text {format : Format} (style : NumberStyle) (x : Floating format) : String :=
  let sign := if x.negative then "-" else ""
  if x.isNaN then "NaN"
  else if !x.isFinite then sign ++ "inf"
  else if style.exact && x.isWhole then sign ++ toString x.wholePart ++ ".0"
  else
    let decimal := x.shortest
    sign ++
      if decimal.digits ≠ 0 && style.scientific decimal.pointPosition then decimal.scientific
      else decimal.positional

end Storefront.Number
