import Storefront.Reading

/-!
The characters of a YAML text with their places. What a character means hangs on its column, on what
is before it on its line, and on whether a line ended before it.
-/

namespace Storefront.Yaml

/-- A character and its place. -/
structure Spot where
  char : Char
  line : Nat
  column : Nat
  deriving DecidableEq, Repr

/-! ### Kinds of characters -/

/-- Whether a character may stand in a text at all. -/
def isAllowed (c : Char) : Bool :=
  c = '\t' || c = '\n' || c = '\r' || (' ' ≤ c && c ≤ '~') || c = '\u0085' ||
    ('\u00a0' ≤ c && c ≤ '\ufffd') || '\uffff' < c

/-- Whether a character ends a line. -/
def isBreak (c : Char) : Bool := c = '\n' || c = '\u2028' || c = '\u2029'

namespace Spot

/-- Whether a line ends at a spot. -/
def endsLine (spot : Spot) : Bool := isBreak spot.char

/-- Whether a blank is at a spot. -/
def isBlank (spot : Spot) : Bool := spot.char = ' ' || spot.char = '\t'

/-- Whether a spot parts words. -/
def isSpace (spot : Spot) : Bool := spot.isBlank || spot.endsLine

end Spot

/-- The spots of a text. The pair of a carriage return and a line feed, each of them alone and the
next-line character end a line in the same way. -/
def spotsFrom (line column : Nat) : List Char → List Spot
  | [] => []
  | '\r' :: '\n' :: rest => ⟨'\n', line, column⟩ :: spotsFrom (line + 1) 0 rest
  | c :: rest =>
    let c := if c = '\r' || c = '\u0085' then '\n' else c
    ⟨c, line, column⟩ ::
      if isBreak c then spotsFrom (line + 1) 0 rest else spotsFrom line (column + 1) rest

/-- The spots of a text after the mark of byte order that it may begin with. -/
def spots (text : List Char) : List Spot :=
  match text with
  | '\ufeff' :: rest => spotsFrom 0 0 rest
  | text => spotsFrom 0 0 text

/-! ### What is next -/

/-- Whether a word cannot go on: the text or a line ends here, or a blank is next. -/
def endsWord : List Spot → Bool
  | [] => true
  | spot :: _ => spot.isSpace

/-- Whether one of the characters is next. -/
def startsWith (chars : List Char) : List Spot → Bool
  | [] => false
  | spot :: _ => chars.contains spot.char

/-- Whether an item of a list over several lines is next. -/
def startsItem : List Spot → Bool
  | ⟨'-', _, _⟩ :: rest => endsWord rest
  | _ => false

/-- The mark, three times the same character at the start of a line, that is next, and what is after
it. A document starts at three hyphens and ends at three points. -/
def marker? : List Spot → Option (Char × List Spot)
  | ⟨first, _, 0⟩ :: second :: third :: rest =>
    if (first = '-' || first = '.') && second.char = first && third.char = first &&
        endsWord rest then
      some (first, rest)
    else none
  | _ => none

theorem length_of_marker? {spots rest : List Spot} {mark : Char}
    (found : marker? spots = some (mark, rest)) : rest.length < spots.length := by
  unfold marker? at found
  split at found
  · split at found
    · obtain ⟨rfl, rfl⟩ := Prod.mk.inj (Option.some.inj found)
      simp only [List.length_cons]
      omega
    · simp at found
  · simp at found

/-- Whether a document cannot go on. -/
def endsDocument (spots : List Spot) : Bool := spots.isEmpty || (marker? spots).isSome

/-! ### Gaps -/

/-- Whether a new key or item may begin: nothing is before it on its line but the marks of other
items. -/
abbrev Fresh := Bool

/-- Skips what is between two tokens: blanks, line ends, and comments from a `#` to the end of the
line. Within brackets lines do not matter. Elsewhere a tab may not be where a key may begin. -/
def skipFrom (bracketed comment : Bool) (fresh : Fresh) (spots : List Spot) :
    Reading Spot Fresh (spots.length + 1) :=
  match spots with
  | [] => .nothing fresh []
  | spot :: rest =>
    if spot.endsLine then
      let ⟨later, after, fewer⟩ := skipFrom bracketed false (fresh || !bracketed) rest
      ⟨later, after, by simp only [List.length_cons]; omega⟩
    else if comment || spot.char = ' ' || (spot.char = '\t' && (bracketed || !fresh)) then
      let ⟨later, after, fewer⟩ := skipFrom bracketed comment fresh rest
      ⟨later, after, by simp only [List.length_cons]; omega⟩
    else if spot.char = '#' then
      let ⟨later, after, fewer⟩ := skipFrom bracketed true fresh rest
      ⟨later, after, by simp only [List.length_cons]; omega⟩
    else .nothing fresh (spot :: rest)

/-- Skips to the next token between brackets. -/
def skipInside (spots : List Spot) : Reading Spot Fresh (spots.length + 1) :=
  skipFrom true false false spots

/-- Skips to the next token outside brackets. -/
def skip (fresh : Fresh) (spots : List Spot) : Reading Spot Fresh (spots.length + 1) :=
  skipFrom false false fresh spots

end Storefront.Yaml
