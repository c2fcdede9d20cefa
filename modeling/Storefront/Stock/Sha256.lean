/-!
The SHA-256 digest of a sequence of bytes: the message is padded to whole blocks of 64 bytes, each
block is spread over 64 words, and 64 rounds mix every word into eight words of state.
-/

namespace Storefront.Stock.Sha256

/-- The constants of the rounds: the fractions of the cube roots of the first 64 primes. -/
def roundConstants : List UInt32 := [
  0x428a2f98, 0x71374491, 0xb5c0fbcf, 0xe9b5dba5, 0x3956c25b, 0x59f111f1, 0x923f82a4, 0xab1c5ed5,
  0xd807aa98, 0x12835b01, 0x243185be, 0x550c7dc3, 0x72be5d74, 0x80deb1fe, 0x9bdc06a7, 0xc19bf174,
  0xe49b69c1, 0xefbe4786, 0x0fc19dc6, 0x240ca1cc, 0x2de92c6f, 0x4a7484aa, 0x5cb0a9dc, 0x76f988da,
  0x983e5152, 0xa831c66d, 0xb00327c8, 0xbf597fc7, 0xc6e00bf3, 0xd5a79147, 0x06ca6351, 0x14292967,
  0x27b70a85, 0x2e1b2138, 0x4d2c6dfc, 0x53380d13, 0x650a7354, 0x766a0abb, 0x81c2c92e, 0x92722c85,
  0xa2bfe8a1, 0xa81a664b, 0xc24b8b70, 0xc76c51a3, 0xd192e819, 0xd6990624, 0xf40e3585, 0x106aa070,
  0x19a4c116, 0x1e376c08, 0x2748774c, 0x34b0bcb5, 0x391c0cb3, 0x4ed8aa4a, 0x5b9cca4f, 0x682e6ff3,
  0x748f82ee, 0x78a5636f, 0x84c87814, 0x8cc70208, 0x90befffa, 0xa4506ceb, 0xbef9a3f7, 0xc67178f2]

/-- The eight words that rounds work on. -/
structure State where
  a : UInt32
  b : UInt32
  c : UInt32
  d : UInt32
  e : UInt32
  f : UInt32
  g : UInt32
  h : UInt32
  deriving DecidableEq, Repr

/-- The state before the first block: fractions of the square roots of the first eight primes. -/
def State.start : State :=
  ⟨0x6a09e667, 0xbb67ae85, 0x3c6ef372, 0xa54ff53a, 0x510e527f, 0x9b05688c, 0x1f83d9ab, 0x5be0cd19⟩

/-- A word turned to the right. -/
def rotate (word : UInt32) (count : UInt32) : UInt32 :=
  (word >>> count) ||| (word <<< (32 - count))

/-! ### Padding -/

/-- The bytes after a message of `length` bytes: a one bit, zeros, and the length in bits. -/
def padding (length : Nat) : List UInt8 :=
  let zeros : List UInt8 := List.replicate ((119 - length % 64) % 64) 0
  let bits := length * 8
  0x80 :: zeros ++ (List.range 8).map fun place => (bits >>> (8 * (7 - place))).toUInt8

/-- The words of bytes, four bytes each, the highest first. -/
def words : List UInt8 → List UInt32
  | a :: b :: c :: d :: rest =>
    ((a.toUInt32 <<< 24) ||| (b.toUInt32 <<< 16) ||| (c.toUInt32 <<< 8) ||| d.toUInt32) ::
      words rest
  | _ => []

/-! ### Blocks -/

/-- The word that follows sixteen words of a block, given latest first. -/
def nextWord (latest : List UInt32) : UInt32 :=
  let two := latest.getD 1 0
  let fifteen := latest.getD 14 0
  let mixedTwo := rotate two 17 ^^^ rotate two 19 ^^^ (two >>> 10)
  let mixedFifteen := rotate fifteen 7 ^^^ rotate fifteen 18 ^^^ (fifteen >>> 3)
  mixedTwo + latest.getD 6 0 + mixedFifteen + latest.getD 15 0

/-- A block's words with `count` more, latest first. -/
def spread : (count : Nat) → (latest : List UInt32) → List UInt32
  | 0, latest => latest
  | count + 1, latest => spread count (nextWord latest :: latest)

/-- One round with a word and a constant. -/
def step (state : State) (word constant : UInt32) : State :=
  let sumE := rotate state.e 6 ^^^ rotate state.e 11 ^^^ rotate state.e 25
  let choice := (state.e &&& state.f) ^^^ (~~~state.e &&& state.g)
  let first := state.h + sumE + choice + constant + word
  let sumA := rotate state.a 2 ^^^ rotate state.a 13 ^^^ rotate state.a 22
  let majority := (state.a &&& state.b) ^^^ (state.a &&& state.c) ^^^ (state.b &&& state.c)
  ⟨first + (sumA + majority), state.a, state.b, state.c, state.d + first, state.e, state.f,
    state.g⟩

/-- The state after one more block of sixteen words. -/
def absorb (state : State) (block : List UInt32) : State :=
  let mixed := ((spread 48 block.reverse).reverse.zip roundConstants).foldl
    (fun state pair => step state pair.1 pair.2) state
  ⟨state.a + mixed.a, state.b + mixed.b, state.c + mixed.c, state.d + mixed.d,
    state.e + mixed.e, state.f + mixed.f, state.g + mixed.g, state.h + mixed.h⟩

/-- The state after blocks, of which there are `count`. -/
def absorbAll : (count : Nat) → State → (words : List UInt32) → State
  | 0, state, _ => state
  | count + 1, state, words => absorbAll count (absorb state (words.take 16)) (words.drop 16)

/-- The words of the digest of a message. -/
def digestWords (message : List UInt8) : List UInt32 :=
  let padded := words (message ++ padding message.length)
  let state := absorbAll (padded.length / 16) .start padded
  [state.a, state.b, state.c, state.d, state.e, state.f, state.g, state.h]

/-- A word in eight hexadecimal digits. -/
def hexWord (word : UInt32) : String :=
  let digits := Nat.toDigits 16 word.toNat
  String.ofList (List.replicate (8 - digits.length) '0' ++ digits)

/-- The digest of a text, in hexadecimal digits. -/
def hexDigest (text : String) : String :=
  String.join ((digestWords text.toUTF8.toList).map hexWord)

end Storefront.Stock.Sha256
