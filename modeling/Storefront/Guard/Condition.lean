import Storefront.Guard.Tag
import Storefront.Json.Record

/-!
Conditions: a tag with the numbers that a guard gives it. Negating a condition takes the complement
of its tag and keeps the numbers; a tag without complement cannot be negated.
-/

namespace Storefront.Guard

/-- A tag with up to two numbers. -/
structure Condition where
  tag : Tag
  param1 : Option Int
  param2 : Option Int
  deriving DecidableEq, Repr

/-- A tag that has no complement where one is needed. -/
structure NoComplement where
  tag : Tag
  deriving DecidableEq, Repr

/-- The wording of a missing complement: there is no partner in the table, or its code is not the
one that a complement has. -/
def NoComplement.message (missing : NoComplement) : String :=
  match missing.tag.partner? with
  | none => missing.tag.name ++ " has no complement"
  | some partner => "complement table pairs " ++ missing.tag.name ++ " with " ++ partner.name ++
      ", but their codes disagree"

namespace Condition

/-- A tag without numbers. -/
def plain (tag : Tag) : Condition := ⟨tag, none, none⟩

/-- A tag with one number. -/
def withParam (tag : Tag) (param1 : Int) : Condition := ⟨tag, some param1, none⟩

/-- A tag with two numbers. -/
def withParams (tag : Tag) (param1 param2 : Int) : Condition := ⟨tag, some param1, some param2⟩

/-- The condition that holds exactly when this one does not. -/
def invert (condition : Condition) : Except NoComplement Condition :=
  match condition.tag.complement? with
  | some complement => .ok { condition with tag := complement }
  | none => .error ⟨condition.tag⟩

/-- A condition as reports show it. -/
def text (condition : Condition) : String :=
  match condition.param1, condition.param2 with
  | none, none => condition.tag.name
  | some first, none => condition.tag.name ++ "(" ++ toString first ++ ")"
  | some first, some second =>
    condition.tag.name ++ "(" ++ toString first ++ ", " ++ toString second ++ ")"
  | none, some second => condition.tag.name ++ "(_, " ++ toString second ++ ")"

/-! ### As JSON -/

/-- The value of a condition; numbers that it lacks are left out. -/
def toJson (condition : Condition) : Json :=
  .obj (("tag", .str condition.tag.name) ::
    (condition.param1.map fun value => ("param1", Json.int value)).toList ++
    (condition.param2.map fun value => ("param2", Json.int value)).toList)

/-- The condition of a value. -/
def ofJson? (json : Json) : Option Condition := do
  let fields ← json.fields? ["tag", "param1", "param2"]
  let tag ← fields.required? "tag" fun value => value.asText?.bind Tag.ofName?
  some ⟨tag, ← fields.optional? "param1" Json.asInt?, ← fields.optional? "param2" Json.asInt?⟩

end Condition

end Storefront.Guard
