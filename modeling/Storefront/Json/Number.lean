import Storefront.Json.Basic
import Storefront.Script.Lexeme.Number

/-!
The value of a JSON number. A whole number without fraction and exponent is exact if it fits 64
bits, with or without a sign. Any other number is read as its leading digits, as many as fit 64
bits, which are rounded to a double and then scaled by one rounded power of ten; so the last bit may
differ from that of the nearest double.
-/

namespace Storefront.Json

open Storefront.Number

/-- A number as it is spelled. -/
structure NumberSpelling where
  negative : Bool
  whole : List Char
  fraction : Option (List Char)
  exponent : Option Int
  deriving DecidableEq, Repr

/-- Digits as a number times a power of ten. -/
structure Scaled where
  digits : Nat
  exponent : Int
  deriving DecidableEq, Repr

namespace Scaled

/-- The greatest number of 64 bits. -/
def limit : Nat := Nat.pow 2 64 - 1

/-- Takes over the whole digits that fit; the others only scale. -/
def takeWhole (scaled : Scaled) : List Char → Scaled
  | [] => scaled
  | digit :: rest =>
    let digits := scaled.digits * 10 + Script.Lexer.digitValue digit
    if limit < digits then ⟨scaled.digits, scaled.exponent + (digit :: rest).length⟩
    else takeWhole ⟨digits, scaled.exponent⟩ rest

/-- Takes over the digits of a fraction that fit; the others are dropped. -/
def takeFraction (scaled : Scaled) : List Char → Scaled
  | [] => scaled
  | digit :: rest =>
    let digits := scaled.digits * 10 + Script.Lexer.digitValue digit
    if limit < digits then scaled
    else takeFraction ⟨digits, scaled.exponent - 1⟩ rest

/-- The greatest power of ten that is a double. -/
def greatestPower : Nat := 308

/-- The double of a power of ten. -/
def powerOfTen (exponent : Nat) : Double := .ofDecimal false 1 exponent

/-- The double of a magnitude, if it is finite. -/
def magnitude? (scaled : Scaled) : Option Double :=
  let leading : Double := .ofNat scaled.digits
  if scaled.digits = 0 then some leading
  else if 0 ≤ scaled.exponent then
    if (greatestPower : Int) < scaled.exponent then none
    else
      let product := leading * powerOfTen scaled.exponent.toNat
      if product.isFinite then some product else none
  else
    let places := (-scaled.exponent).toNat
    if places ≤ greatestPower then some (leading.divide (powerOfTen places))
    else if places ≤ 2 * greatestPower then
      some ((leading.divide (powerOfTen greatestPower)).divide
        (powerOfTen (places - greatestPower)))
    else some (.ofNat 0)

end Scaled

namespace NumberSpelling

/-- The real number of a spelling, if it is in range. -/
def real? (spelling : NumberSpelling) : Option Double :=
  let scaled := (Scaled.takeWhole ⟨0, 0⟩ spelling.whole).takeFraction (spelling.fraction.getD [])
  let moved : Scaled := ⟨scaled.digits, scaled.exponent + spelling.exponent.getD 0⟩
  moved.magnitude?.map fun magnitude => if spelling.negative then -magnitude else magnitude

/-- The whole number of a spelling without fraction and exponent, if it fits; minus zero is not
one. -/
def whole? (spelling : NumberSpelling) : Option Int :=
  let size := Script.Lexer.valueOf 10 spelling.whole
  if spelling.fraction.isSome || spelling.exponent.isSome then none
  else if spelling.negative then
    if 0 < size && size ≤ Nat.pow 2 63 then some (-size) else none
  else if size ≤ Scaled.limit then some size
  else none

/-- The value of a spelling. -/
def value (spelling : NumberSpelling) : Json :=
  match spelling.whole? with
  | some value => .int value
  | none =>
    match spelling.real? with
    | some value => .float value
    | none => .unreadable

end NumberSpelling

end Storefront.Json
