import Storefront.Yaml.Basic
import Storefront.Yaml.Spot

/-!
Scalars: words without marks, and texts in single or double quotation marks. Each may go on over
several lines; a line end then stands for a blank, and of several line ends all but the first stand
for themselves.
-/

namespace Storefront.Yaml

/-- The outcome of reading from a text: nothing if the text is malformed. -/
abbrev Read (α : Type) (bound : Nat) := Option (Reading Spot α bound)

/-! ### Between two words -/

/-- The line ends of a gap as text. -/
def folded : List Char → List Char
  | ['\n'] => [' ']
  | '\n' :: later => later
  | breaks => breaks

/-- The text of the gap between two words. -/
def gapText (gap : List Spot) : List Char :=
  let chars := gap.map Spot.char
  match chars.filter isBreak with
  | [] => chars
  | breaks => folded breaks

/-- The text of the gap after a line end that is taken back. -/
def gapTextAfterEscape (gap : List Spot) : List Char := (gap.map Spot.char).filter isBreak

/-- Fewer spots are left after a gap. -/
theorem length_dropSpaces_lt (spot : Spot) (rest : List Spot) :
    (rest.dropWhile Spot.isSpace).length < (spot :: rest).length :=
  Nat.lt_succ_of_le (List.dropWhile_suffix Spot.isSpace).length_le

/-- Fewer spots are left after two. -/
theorem length_tail_lt (spot : Spot) (rest : List Spot) :
    rest.tail.length < (spot :: rest).length :=
  Nat.lt_succ_of_le (List.tail_suffix rest).length_le

/-! ### Single quotation marks -/

/-- Reads the rest of a text in single quotation marks, where two of them stand for one. -/
def readSingle (spots : List Spot) : Read (List Char) spots.length :=
  match spots with
  | [] => none
  | spot :: rest =>
    have shorter := length_dropSpaces_lt spot rest
    have shorterTail := length_tail_lt spot rest
    if (marker? (spot :: rest)).isSome then none
    else if spot.isSpace then do
      let ⟨text, after, fewer⟩ ← readSingle (rest.dropWhile Spot.isSpace)
      some ⟨gapText (spot :: rest.takeWhile Spot.isSpace) ++ text, after,
        Nat.lt_trans fewer shorter⟩
    else if spot.char = '\'' then
      if rest.head?.map Spot.char = some '\'' then do
        let ⟨text, after, fewer⟩ ← readSingle rest.tail
        some ⟨'\'' :: text, after, Nat.lt_trans fewer shorterTail⟩
      else some (.first [] rest)
    else do
      let text ← readSingle rest
      some (text.map (spot.char :: ·)).relax
termination_by spots.length
decreasing_by all_goals simp only [List.length_cons] at *; omega

/-! ### Double quotation marks -/

/-- The character that an escape of one character stands for. -/
def escapeMeaning? : Char → Option Char
  | '0' => some '\x00'
  | 'a' => some '\x07'
  | 'b' => some '\x08'
  | 't' | '\t' => some '\t'
  | 'n' => some '\n'
  | 'v' => some '\x0b'
  | 'f' => some '\x0c'
  | 'r' => some '\r'
  | 'e' => some '\x1b'
  | ' ' => some ' '
  | '"' => some '"'
  | '/' => some '/'
  | '\\' => some '\\'
  | 'N' => some '\u0085'
  | '_' => some '\u00a0'
  | 'L' => some '\u2028'
  | 'P' => some '\u2029'
  | _ => none

/-- How many digits an escape by code point has. -/
def codeLength? : Char → Option Nat
  | 'x' => some 2
  | 'u' => some 4
  | 'U' => some 8
  | _ => none

/-- The character of a code point. -/
def charOfCode? (code : Nat) : Option Char := if code.isValidChar then some (.ofNat code) else none

/-- The character of a code point in base sixteen with a given number of digits. -/
def codeMeaning? (length : Nat) (spots : List Spot) : Option Char :=
  if length ≤ spots.length then
    (natural? 16 ((spots.take length).map Spot.char)).bind charOfCode?
  else none

/-- Reads the rest of a text in double quotation marks, where a backslash begins an escape and takes
the end of a line back. -/
def readDouble (spots : List Spot) : Read (List Char) spots.length :=
  match spots with
  | [] => none
  | spot :: rest =>
    have shorter := length_dropSpaces_lt spot rest
    if (marker? (spot :: rest)).isSome then none
    else if spot.isSpace then do
      let ⟨text, after, fewer⟩ ← readDouble (rest.dropWhile Spot.isSpace)
      some ⟨gapText (spot :: rest.takeWhile Spot.isSpace) ++ text, after, by omega⟩
    else if spot.char = '"' then some (.first [] rest)
    else if spot.char = '\\' then
      match rest with
      | [] => none
      | letter :: later =>
        have shorterStill := length_dropSpaces_lt letter later
        if letter.endsLine then do
          let ⟨text, after, fewer⟩ ← readDouble (later.dropWhile Spot.isSpace)
          some ⟨gapTextAfterEscape (later.takeWhile Spot.isSpace) ++ text, after,
            by simp only [List.length_cons] at *; omega⟩
        else
          match codeLength? letter.char with
          | some length => do
            let c ← codeMeaning? length later
            have left := List.length_drop (i := length) (l := later)
            let ⟨text, after, fewer⟩ ← readDouble (later.drop length)
            some ⟨c :: text, after, by simp only [List.length_cons]; omega⟩
          | none => do
            let c ← escapeMeaning? letter.char
            let ⟨text, after, fewer⟩ ← readDouble later
            some ⟨c :: text, after, by simp only [List.length_cons]; omega⟩
    else do
      let ⟨text, after, fewer⟩ ← readDouble rest
      some ⟨spot.char :: text, after, by simp only [List.length_cons]; omega⟩
termination_by spots.length
decreasing_by all_goals simp only [List.length_cons] at *; omega

/-! ### Plain scalars -/

/-- The marks that a plain scalar cannot begin with. -/
def indicators : List Char :=
  ['-', '?', ':', ',', '[', ']', '\x7b', '\x7d', '#', '&', '*', '!', '|', '>', '\'', '"', '%', '@',
    '\x60']

/-- Whether a plain scalar is next. A hyphen may begin one if something follows it, and so may,
outside brackets, a question mark and a colon. -/
def startsPlain (bracketed : Bool) : List Spot → Bool
  | [] => false
  | spot :: rest =>
    !spot.isSpace && (!indicators.contains spot.char ||
      ((spot.char = '-' || (!bracketed && (spot.char = '?' || spot.char = ':'))) &&
        !endsWord rest))

/-- The marks that end a plain scalar between brackets. -/
def brackets : List Char := [',', '[', ']', '\x7b', '\x7d']

/-- Reads one word of a plain scalar, which a colon at its end does not belong to. Between brackets
no mark may follow a colon. -/
def readWord (bracketed : Bool) (spots : List Spot) : Read (List Char) (spots.length + 1) :=
  match spots with
  | [] => some (.nothing [] [])
  | spot :: rest =>
    if spot.char = ':' && bracketed && startsWith ('?' :: brackets) rest then none
    else if spot.isSpace || (spot.char = ':' && endsWord rest) ||
        (bracketed && brackets.contains spot.char) then
      some (.nothing [] (spot :: rest))
    else do
      let ⟨word, after, fewer⟩ ← readWord bracketed rest
      some ⟨spot.char :: word, after, by simp only [List.length_cons]; omega⟩

/-- Whether a tab of a gap is where only blanks may indent a line. -/
def tabIndents (least : Nat) (gap : List Spot) : Bool :=
  match gap with
  | [] => false
  | first :: _ => gap.any fun spot =>
      spot.char = '\t' && first.line < spot.line && spot.column < least

/-- Whether a plain scalar ends before these spots: at the end of the document, at a comment, or
outside brackets at a line that is indented too little. -/
def endsPlain (bracketed : Bool) (least : Nat) : List Spot → Bool
  | [] => true
  | spot :: rest =>
    spot.char = '#' || (marker? (spot :: rest)).isSome || (!bracketed && spot.column < least)

/-- Reads the words of a plain scalar whose lines are indented by at least the given width, and the
gap after them. Tells also whether a line ended in that gap. -/
def readWords (bracketed : Bool) (least : Nat) (spots : List Spot) :
    Read (List Char × Fresh) (spots.length + 1) := do
  match ← readWord bracketed spots with
  | ⟨word, [], _⟩ => some ⟨(word, false), [], Nat.succ_pos _⟩
  | ⟨word, spot :: rest, fewer₁⟩ =>
    have shorter := length_dropSpaces_lt spot rest
    let gap := spot :: rest.takeWhile Spot.isSpace
    let broken := gap.any Spot.endsLine
    if !spot.isSpace then some ⟨(word, false), spot :: rest, fewer₁⟩
    else if tabIndents least gap then none
    else if endsPlain bracketed least (rest.dropWhile Spot.isSpace) then
      some ⟨(word, broken), rest.dropWhile Spot.isSpace, by omega⟩
    else do
      let ⟨(others, fresh), after, fewer₂⟩ ←
        readWords bracketed least (rest.dropWhile Spot.isSpace)
      if others.isEmpty then some ⟨(word, broken), rest.dropWhile Spot.isSpace, by omega⟩
      else some ⟨(word ++ gapText gap ++ others, fresh), after, by omega⟩
termination_by spots.length
decreasing_by omega

end Storefront.Yaml
