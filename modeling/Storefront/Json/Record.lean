import Storefront.Json.Reading

/-!
Taking JSON values apart. A record is an object with known keys, each at most once and in any order,
or a list of the fields' values in their order. A variant is a record that names its kind, by the
key `kind` or as the first item.
-/

namespace Storefront.Json

open Storefront.Number

/-! ### Single values -/

/-- The greatest depth of a value that is taken apart as a tree. -/
def depthLimit : Nat := 127

mutual

/-- Whether everything in a value can be read, the keys included. -/
def isReadable : Json → Bool
  | unreadable => false
  | arr items => itemsReadable items
  | obj members => membersReadable members
  | _ => true

/-- Whether everything in some items can be read. -/
def itemsReadable : List Json → Bool
  | [] => true
  | item :: rest => item.isReadable && itemsReadable rest

/-- Whether everything in some members can be read. -/
def membersReadable : List (String × Json) → Bool
  | [] => true
  | (key, value) :: rest =>
    (unspell? key).isSome && value.isReadable && membersReadable rest

end

/-- Whether an integer fits 64 bits with a sign. -/
def fitsInt (value : Int) : Bool := decide (-Int.pow 2 63 ≤ value) && decide (value < Int.pow 2 63)

/-- A whole number of 64 bits with a sign. -/
def asInt? : Json → Option Int
  | int value => if fitsInt value then some value else none
  | _ => none

/-- A real number; a whole number is one too. -/
def asDouble? : Json → Option Double
  | float value => some value
  | int value =>
    some (if value < 0 then -(Floating.ofNat value.natAbs) else .ofNat value.natAbs)
  | _ => none

def asBool? : Json → Option Bool
  | bool value => some value
  | _ => none

def asText? : Json → Option String
  | str value => some value
  | _ => none

/-- A string of one character. -/
def asChar? : Json → Option Char
  | str value =>
    match value.toList with
    | [c] => some c
    | _ => none
  | _ => none

/-- The items of a list, each of which must be taken apart. -/
def asList? {α : Type} (take : Json → Option α) : Json → Option (List α)
  | arr items => items.mapM take
  | _ => none

/-- The name in an enumeration: a string, or an object whose only key is the name and has nothing
to it. -/
def asName? : Json → Option String
  | str value => some value
  | obj [(key, null)] => unspell? key
  | obj [(key, obj [])] => unspell? key
  | _ => none

/-! ### Records -/

/-- The members of an object with their keys read. -/
def readKeys? (members : List (String × Json)) : Option (List (String × Json)) :=
  members.mapM fun entry => (unspell? entry.1).map fun key => (key, entry.2)

/-- The values of the fields of a record. -/
abbrev Fields := String → Option Json

/-- The value of the only member with a key. It fails if there are several. -/
def onlyMember? (members : List (String × Json)) (key : String) : Option (Option Json) :=
  match members.filter fun entry => entry.1 == key with
  | [] => some none
  | [entry] => some (some entry.2)
  | _ => none

/-- The fields of a record with the given names. Other keys of an object do not matter; a list may
leave out its last fields. -/
def fields? (names : List String) : Json → Option Fields
  | obj members => do
    let read ← readKeys? members
    let values ← names.mapM (onlyMember? read)
    some fun name => ((names.zip values).lookup name).join
  | arr items =>
    if items.length ≤ names.length then some fun name => (names.zip items).lookup name
    else none
  | _ => none

/-- The value of a field that must be there. -/
def Fields.required? {α : Type} (fields : Fields) (name : String) (take : Json → Option α) :
    Option α := do
  let value ← fields name
  take value

/-- The value of a field that may be missing or `null`. -/
def Fields.optional? {α : Type} (fields : Fields) (name : String) (take : Json → Option α) :
    Option (Option α) :=
  match fields name with
  | none | some null => some none
  | some value => (take value).map some

/-- The value of a list that may be missing. -/
def Fields.listOrEmpty? {α : Type} (fields : Fields) (name : String) (take : Json → Option α) :
    Option (List α) :=
  match fields name with
  | none => some []
  | some value => asList? take value

/-! ### Variants -/

/-- The kind among `kinds` that a value names. Within other variants it may also be given by its
place in the list. -/
def asKind? (within : Bool) (kinds : List String) : Json → Option String
  | str name => if kinds.contains name then some name else none
  | int place => if within && decide (0 ≤ place) then kinds[place.toNat]? else none
  | _ => none

/-- The kind of a variant, and the value without it. -/
def variant? (within : Bool) (kinds : List String) : Json → Option (String × Json)
  | obj members => do
    let read ← readKeys? members
    let named ← onlyMember? read "kind"
    let kind ← asKind? within kinds (← named)
    some (kind, obj ((members.zip read).filter (fun entry => entry.2.1 != "kind") |>.map (·.1)))
  | arr (first :: items) => do
    let kind ← asKind? within kinds first
    some (kind, arr items)
  | _ => none

/-- Whether the rest of a variant without fields is as it must be. -/
def isFieldless : Json → Bool
  | obj _ => true
  | arr [] => true
  | _ => false

end Storefront.Json
