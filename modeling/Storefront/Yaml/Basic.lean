import Storefront.Number.Floating

/-!
YAML values, and which value a plain scalar stands for: nothing, a truth value, a whole number in
base ten, sixteen, eight or two, a real number, or else its own text.
-/

namespace Storefront

open Storefront.Number

/-- A YAML value. -/
inductive Yaml where
  | null
  | bool (value : Bool)
  | int (value : Int)
  | real (value : Double)
  | str (text : String)
  | list (items : List Yaml)
  | mapping (entries : List (Yaml × Yaml))
  deriving Repr, Inhabited

namespace Yaml

/-! ### Plain scalars -/

/-- The number of a digit in a base. -/
def digit? (base : Nat) (c : Char) : Option Nat :=
  let value :=
    if c.isDigit then some (c.toNat - '0'.toNat)
    else if 'a' ≤ c && c ≤ 'f' then some (c.toNat - 'a'.toNat + 10)
    else if 'A' ≤ c && c ≤ 'F' then some (c.toNat - 'A'.toNat + 10)
    else none
  value.filter (· < base)

/-- The number of one or more digits in a base. -/
def natural? (base : Nat) (digits : List Char) : Option Nat :=
  if digits.isEmpty then none
  else digits.foldlM (fun value c => (digit? base c).map (value * base + ·)) 0

/-- Whether digits begin with a zero that they do not need. Such a scalar is no number. -/
def hasIdleZero : List Char → Bool
  | '0' :: next :: rest => (next :: rest).all Char.isDigit
  | _ => false

/-- A sign and what is under it. -/
def splitSign : List Char → Bool × List Char
  | '-' :: rest => (true, rest)
  | '+' :: rest => (false, rest)
  | text => (false, text)

/-- The size of a whole number after its sign. -/
def size? : List Char → Option Nat
  | '0' :: 'x' :: digits => natural? 16 digits
  | '0' :: 'o' :: digits => natural? 8 digits
  | '0' :: 'b' :: digits => natural? 2 digits
  | digits => if hasIdleZero digits then none else natural? 10 digits

/-- The whole number that a scalar spells, if it is held by 128 bits. -/
def whole? (text : List Char) : Option Int :=
  let (negative, digits) := splitSign text
  (size? digits).bind fun size =>
    if negative then if size ≤ Nat.pow 2 127 then some (-size) else none
    else if size < Nat.pow 2 128 then some size else none

/-- Whether a whole number is held by 64 bits, with or without a sign. -/
def fits (value : Int) : Bool := -Int.pow 2 63 ≤ value && value < Int.pow 2 64

/-- The power of ten that an exponent spells; an exponent may be left out. -/
def power? : List Char → Option Int
  | [] => some 0
  | mark :: text =>
    if mark = 'e' || mark = 'E' then
      let (negative, digits) := splitSign text
      (natural? 10 digits).map fun size => if negative then -(size : Int) else size
    else none

/-- The real number in decimal notation after its sign. -/
def decimal? (negative : Bool) (text : List Char) : Option Double :=
  let whole := text.takeWhile Char.isDigit
  let afterWhole := text.dropWhile Char.isDigit
  let (fraction, afterFraction) :=
    match afterWhole with
    | '.' :: rest => (rest.takeWhile Char.isDigit, rest.dropWhile Char.isDigit)
    | rest => ([], rest)
  do
    let digits ← natural? 10 (whole ++ fraction)
    let power ← power? afterFraction
    some (.ofDecimal negative digits (power - fraction.length))

/-- The names of infinity after a sign. -/
def infinityNames : List String := [".inf", ".Inf", ".INF"]

/-- The names of what is no number. -/
def nanNames : List String := [".nan", ".NaN", ".NAN"]

/-- The real number that a scalar spells. Digits too great for one spell none. -/
def real? (text : List Char) : Option Double :=
  let (negative, magnitude) := splitSign text
  if infinityNames.contains (String.ofList magnitude) then
    some (.ofParts negative Format.double.infinity)
  else if nanNames.contains (String.ofList text) then some .nan
  else if hasIdleZero magnitude then none
  else (decimal? negative magnitude).filter Floating.isFinite

/-- The plain scalars that stand for nothing. -/
def nullNames : List String := ["", "~", "null", "Null", "NULL"]

/-- The plain scalars that stand for truth. -/
def trueNames : List String := ["true", "True", "TRUE"]

/-- The plain scalars that stand for falsehood. -/
def falseNames : List String := ["false", "False", "FALSE"]

/-- The value of a plain scalar. A whole number has one only if 64 bits hold it; one that needs more
than 128 bits is read as a real number. -/
def ofPlain? (text : String) : Option Yaml :=
  if nullNames.contains text then some null
  else if trueNames.contains text then some (bool true)
  else if falseNames.contains text then some (bool false)
  else
    match whole? text.toList with
    | some value => if fits value then some (int value) else none
    | none =>
      match real? text.toList with
      | some value => some (real value)
      | none => some (str text)

/-! ### Sound values -/

mutual

/-- Whether two values are the same, as keys. -/
def same : Yaml → Yaml → Bool
  | null, null => true
  | bool first, bool second => first == second
  | int first, int second => first == second
  | real first, real second => first.equal second || (first.isNaN && second.isNaN)
  | str first, str second => first == second
  | list first, list second => sameItems first second
  | mapping first, mapping second => sameEntries first second
  | _, _ => false

/-- Whether items are the same, one by one. -/
def sameItems : List Yaml → List Yaml → Bool
  | [], [] => true
  | first :: rest, second :: others => same first second && sameItems rest others
  | _, _ => false

/-- Whether entries are the same, one by one. -/
def sameEntries : List (Yaml × Yaml) → List (Yaml × Yaml) → Bool
  | [], [] => true
  | (key, value) :: rest, (otherKey, otherValue) :: others =>
    same key otherKey && same value otherValue && sameEntries rest others
  | _, _ => false

end

/-- Whether no key is there twice. -/
def distinct : List Yaml → Bool
  | [] => true
  | key :: rest => !rest.any (same key) && distinct rest

mutual

/-- Whether a value is nested no deeper than allowed and no mapping in it has a key twice. -/
def isSound (levels : Nat) : Yaml → Bool
  | list items => 0 < levels && areSound (levels - 1) items
  | mapping entries =>
    0 < levels && distinct (entries.map (·.1)) && areSoundEntries (levels - 1) entries
  | _ => true

/-- Whether items are sound. -/
def areSound (levels : Nat) : List Yaml → Bool
  | [] => true
  | item :: rest => isSound levels item && areSound levels rest

/-- Whether entries are sound. -/
def areSoundEntries (levels : Nat) : List (Yaml × Yaml) → Bool
  | [] => true
  | (key, value) :: rest =>
    isSound levels key && isSound levels value && areSoundEntries levels rest

end

end Yaml

end Storefront
