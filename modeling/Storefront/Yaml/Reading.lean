import Storefront.Yaml.Scalar

/-!
YAML documents: lists and mappings, between brackets or over several lines, of scalars. Over several
lines the columns tell what belongs together: the items of a list and the keys of a mapping stand in
one column, and their values stand to the right of it, but for the list of a key, whose items may
stand in the column of the key. A key stands on one line with the colon after it. Anchors, tags,
directives, marked keys and scalars by lines are not read.
-/

namespace Storefront.Yaml

/-! ### Between brackets -/

/-- The greatest length of a key. -/
def longestKey : Nat := 1024

/-- Whether a colon is next and what begins at the first spot can be the key before it. -/
def isKeyOf (start : Spot) : List Spot → Bool
  | [] => false
  | spot :: _ =>
    spot.char = ':' && spot.line = start.line && spot.column ≤ start.column + longestKey

/-- The value of the words of a plain scalar. -/
def plainValue? (word : List Char) : Option Yaml := ofPlain? (String.ofList word)

mutual

/-- Reads a scalar, or a list or a mapping between brackets, within brackets or outside. Tells also
whether a line ended after it. -/
def readContent (bracketed : Bool) (least : Nat) (spots : List Spot) :
    Read (Yaml × Fresh) spots.length :=
  match spots with
  | [] => none
  | spot :: rest =>
    if spot.char = '[' then do
      let ⟨items, after, fewer⟩ ← readItems least rest
      some ⟨(.list items, false), after, by simp only [List.length_cons]; omega⟩
    else if spot.char = '\x7b' then do
      let ⟨entries, after, fewer⟩ ← readEntries least rest
      some ⟨(.mapping entries, false), after, by simp only [List.length_cons]; omega⟩
    else if spot.char = '\'' then do
      let ⟨text, after, fewer⟩ ← readSingle rest
      some ⟨(.str (String.ofList text), false), after, by simp only [List.length_cons]; omega⟩
    else if spot.char = '"' then do
      let ⟨text, after, fewer⟩ ← readDouble rest
      some ⟨(.str (String.ofList text), false), after, by simp only [List.length_cons]; omega⟩
    else if startsPlain bracketed (spot :: rest) then do
      let ⟨(word, fresh), after, fewer⟩ ← readWords bracketed least (spot :: rest)
      let value ← plainValue? word
      if shorter : after.length < (spot :: rest).length then some ⟨(value, fresh), after, shorter⟩
      else none
    else none
termination_by spots.length * 4

/-- Reads the value after a colon between brackets; there may be none. -/
def readValue (close : Char) (least : Nat) (spots : List Spot) :
    Read Yaml (spots.length + 1) := do
  let ⟨_, start, fewer₁⟩ := skipInside spots
  if startsWith [',', close] start then some ⟨.null, start, fewer₁⟩
  else
    let ⟨(value, _), after, fewer₂⟩ ← readContent true least start
    some ⟨value, after, by omega⟩
termination_by spots.length * 4 + 1

/-- Reads an item of a list between brackets. A key with its value is a mapping of its own. -/
def readItem (least : Nat) (spots : List Spot) : Read Yaml spots.length := do
  let ⟨(item, _), afterItem, fewer₁⟩ ← readContent true least spots
  match spots.head?, skipInside afterItem with
  | some start, ⟨_, colon :: rest, fewer₂⟩ =>
    if isKeyOf start (colon :: rest) then
      let ⟨value, after, fewer₃⟩ ← readValue ']' least rest
      some ⟨.mapping [(item, value)], after, by simp only [List.length_cons] at *; omega⟩
    else some ⟨item, afterItem, fewer₁⟩
  | _, _ => some ⟨item, afterItem, fewer₁⟩
termination_by spots.length * 4 + 1
decreasing_by
  · omega
  · simp only [List.length_cons] at *; omega

/-- Reads the items of a list and the bracket that closes it. A comma may be the last. -/
def readItems (least : Nat) (spots : List Spot) : Read (List Yaml) spots.length := do
  match skipInside spots with
  | ⟨_, [], _⟩ => none
  | ⟨_, start :: rest, fewer₁⟩ =>
    if start.char = ']' then
      some ⟨[], rest, by simp only [List.length_cons] at fewer₁; omega⟩
    else
      let ⟨item, afterItem, fewer₂⟩ ← readItem least (start :: rest)
      match skipInside afterItem with
      | ⟨_, [], _⟩ => none
      | ⟨_, mark :: others, fewer₃⟩ =>
        if mark.char = ',' then
          let ⟨items, after, fewer₄⟩ ← readItems least others
          some ⟨item :: items, after, by simp only [List.length_cons] at *; omega⟩
        else if mark.char = ']' then
          some ⟨[item], others, by simp only [List.length_cons] at *; omega⟩
        else none
termination_by spots.length * 4 + 2
decreasing_by all_goals simp only [List.length_cons] at *; omega

/-- Reads an entry of a mapping between brackets; a key may have no value. -/
def readEntry (least : Nat) (spots : List Spot) : Read (Yaml × Yaml) spots.length := do
  let ⟨(key, _), afterKey, fewer₁⟩ ← readContent true least spots
  match spots.head?, skipInside afterKey with
  | some start, ⟨_, colon :: rest, fewer₂⟩ =>
    if isKeyOf start (colon :: rest) then
      let ⟨value, after, fewer₃⟩ ← readValue '\x7d' least rest
      some ⟨(key, value), after, by simp only [List.length_cons] at *; omega⟩
    else some ⟨(key, .null), afterKey, fewer₁⟩
  | _, _ => some ⟨(key, .null), afterKey, fewer₁⟩
termination_by spots.length * 4 + 1
decreasing_by
  · omega
  · simp only [List.length_cons] at *; omega

/-- Reads the entries of a mapping and the brace that closes it. A comma may be the last. -/
def readEntries (least : Nat) (spots : List Spot) :
    Read (List (Yaml × Yaml)) spots.length := do
  match skipInside spots with
  | ⟨_, [], _⟩ => none
  | ⟨_, start :: rest, fewer₁⟩ =>
    if start.char = '\x7d' then
      some ⟨[], rest, by simp only [List.length_cons] at fewer₁; omega⟩
    else
      let ⟨entry, afterEntry, fewer₂⟩ ← readEntry least (start :: rest)
      match skipInside afterEntry with
      | ⟨_, [], _⟩ => none
      | ⟨_, mark :: others, fewer₃⟩ =>
        if mark.char = ',' then
          let ⟨entries, after, fewer₄⟩ ← readEntries least others
          some ⟨entry :: entries, after, by simp only [List.length_cons] at *; omega⟩
        else if mark.char = '\x7d' then
          some ⟨[entry], others, by simp only [List.length_cons] at *; omega⟩
        else none
termination_by spots.length * 4 + 2
decreasing_by all_goals simp only [List.length_cons] at *; omega

end

/-! ### Over several lines -/

/-- The colon after a key outside brackets, if it is next, and the spots after it. A blank follows
the colon. -/
def afterColon? (start : Spot) : List Spot → Option (List Spot)
  | [] => none
  | colon :: rest =>
    if isKeyOf start (colon :: rest) && endsWord rest then some rest else none

/-- Whether the colon of a value is next, wherever its key may be. -/
def startsValue : List Spot → Bool
  | ⟨':', _, _⟩ :: rest => endsWord rest
  | _ => false

mutual

/-- Reads a value at its first spot. Only where a key may begin can the value be a list or a mapping
over several lines. -/
def readBlock (least : Nat) (fresh : Fresh) (spots : List Spot) :
    Read (Yaml × Fresh) spots.length :=
  match spots with
  | [] => none
  | start :: rest =>
    if startsItem (start :: rest) then
      if fresh then do
        let ⟨(items, fresh), after, fewer⟩ ← readBlockItems start.column (start :: rest)
        some ⟨(.list items, fresh), after, fewer⟩
      else none
    else do
      let ⟨(content, broken), afterContent, fewer₁⟩ ← readContent false least (start :: rest)
      match skip broken afterContent with
      | ⟨broken, colon :: others, fewer₂⟩ =>
        if startsValue (colon :: others) then
          if fresh && isKeyOf start (colon :: others) then
            let ⟨(entries, fresh), after, fewer₃⟩ ← readBlockEntries start.column content others
            some ⟨(.mapping entries, fresh), after, by simp only [List.length_cons] at *; omega⟩
          else none
        else some ⟨(content, broken), colon :: others, by omega⟩
      | ⟨broken, [], _⟩ => some ⟨(content, broken), [], by simp⟩
termination_by spots.length * 4 + 1
decreasing_by all_goals simp only [List.length_cons] at *; omega

/-- Reads the items of a list whose marks stand in a column, from the mark of the first. -/
def readBlockItems (column : Nat) (spots : List Spot) :
    Read (List Yaml × Fresh) spots.length :=
  match spots with
  | [] => none
  | _ :: rest => do
    let ⟨(item, fresh), afterItem, fewer₁⟩ ← readBlockValue column true false rest
    match skip fresh afterItem with
    | ⟨fresh, next :: others, fewer₂⟩ =>
      if next.column = column && startsItem (next :: others) then
        let ⟨(items, fresh), after, fewer₃⟩ ← readBlockItems column (next :: others)
        some ⟨(item :: items, fresh), after, by simp only [List.length_cons] at *; omega⟩
      else some ⟨([item], fresh), next :: others, by simp only [List.length_cons] at *; omega⟩
    | ⟨fresh, [], _⟩ => some ⟨([item], fresh), [], by simp⟩
termination_by spots.length * 4
decreasing_by all_goals simp only [List.length_cons] at *; omega

/-- Reads the entries of a mapping whose keys stand in a column, from the spots after the colon of
the first key. -/
def readBlockEntries (column : Nat) (key : Yaml) (spots : List Spot) :
    Read (List (Yaml × Yaml) × Fresh) (spots.length + 1) := do
  let ⟨(value, fresh), afterValue, fewer₁⟩ ← readBlockValue column false true spots
  match skip fresh afterValue with
  | ⟨fresh, next :: others, fewer₂⟩ =>
    if next.column = column && !endsDocument (next :: others) then
      let ⟨(nextKey, broken), afterKey, fewer₃⟩ ←
        readContent false (column + 1) (next :: others)
      match skip broken afterKey with
      | ⟨_, colon :: later, fewer₄⟩ =>
        if startsValue (colon :: later) && isKeyOf next (colon :: later) then
          let ⟨(entries, fresh), after, fewer₅⟩ ← readBlockEntries column nextKey later
          some ⟨((key, value) :: entries, fresh), after,
            by simp only [List.length_cons] at *; omega⟩
        else none
      | ⟨_, [], _⟩ => none
    else some ⟨([(key, value)], fresh), next :: others, by omega⟩
  | ⟨fresh, [], _⟩ => some ⟨([(key, value)], fresh), [], by simp⟩
termination_by spots.length * 4 + 3
decreasing_by
  · omega
  · simp only [List.length_cons] at *; omega

/-- Reads what stands to the right of a column; there may be nothing. The items of a list may stand
in the column itself if it is that of a key. -/
def readBlockValue (column : Nat) (fresh ofKey : Bool) (spots : List Spot) :
    Read (Yaml × Fresh) (spots.length + 1) := do
  match skip fresh spots with
  | ⟨fresh, [], _⟩ => some ⟨(.null, fresh), [], by simp⟩
  | ⟨fresh, next :: rest, fewer₁⟩ =>
    if endsDocument (next :: rest) then some ⟨(.null, fresh), next :: rest, fewer₁⟩
    else if column < next.column || (ofKey && next.column = column && startsItem (next :: rest))
    then
      let ⟨value, after, fewer₂⟩ ← readBlock (column + 1) fresh (next :: rest)
      some ⟨value, after, by omega⟩
    else some ⟨(.null, fresh), next :: rest, fewer₁⟩
termination_by spots.length * 4 + 2
decreasing_by simp only [List.length_cons] at *; omega

end

/-! ### Documents -/

/-- Reads up to the end of a text after a document. Marks of its end may be there, but no other
document. -/
def endsText (fresh : Fresh) (spots : List Spot) : Bool :=
  match skip fresh spots with
  | ⟨_, [], _⟩ => true
  | ⟨_, next :: rest, _fewer⟩ =>
    match found : marker? (next :: rest) with
    | some ('.', after) =>
      have _fewerStill := length_of_marker? found
      endsText false after
    | _ => false
termination_by spots.length

/-- The value of a document at its first spot; an empty document has none. -/
def documentValue? (fresh : Fresh) (spots : List Spot) : Option Yaml :=
  match skip fresh spots with
  | ⟨fresh, start, _⟩ =>
    if endsDocument start then if endsText fresh start then some .null else none
    else do
      let ⟨(value, fresh), after, _⟩ ← readBlock 0 fresh start
      if endsText fresh after then some value else none

/-- How deep values may be nested. -/
def deepest : Nat := 128

/-- The value of the only document of a text. -/
def parse? (text : String) : Option Yaml := do
  if !text.toList.all isAllowed then none
  else
    let start := (skip true (spots text.toList)).rest
    let value ←
      match marker? start with
      | some ('-', rest) => documentValue? false rest
      | some _ => none
      | none => documentValue? true start
    if isSound deepest value then some value else none

end Storefront.Yaml
