import Storefront.Guard.Condition

/-!
Shops and what they offer. An item is offered while all of its conditions hold; a shop lists its
items in the order in which they were registered.
-/

namespace Storefront.Stock

open Storefront.Guard

/-- Something on offer, and the conditions for it, outermost first. -/
structure Item where
  id : Int
  conditions : List Condition
  deriving DecidableEq, Repr

/-- A shop and its items. -/
structure Shop where
  id : Int
  items : List Item
  deriving DecidableEq, Repr

/-- A shop that offers nothing yet. -/
def Shop.empty (id : Int) : Shop := ⟨id, []⟩

/-- The shop with one more item at the end. -/
def Shop.addItem (shop : Shop) (item : Item) : Shop := { shop with items := shop.items ++ [item] }

@[simp] theorem Shop.id_addItem (shop : Shop) (item : Item) : (shop.addItem item).id = shop.id :=
  rfl

@[simp] theorem Shop.items_addItem (shop : Shop) (item : Item) :
    (shop.addItem item).items = shop.items ++ [item] := rfl

/-! ### As JSON -/

/-- The value of an item; no conditions are left out. -/
def Item.toJson (item : Item) : Json :=
  .obj (("id", .int item.id) ::
    if item.conditions.isEmpty then []
    else [("conditions", .arr (item.conditions.map Condition.toJson))])

/-- The value of a shop. -/
def Shop.toJson (shop : Shop) : Json :=
  .obj [("id", .int shop.id), ("items", .arr (shop.items.map Item.toJson))]

/-- The item of a value. -/
def Item.ofJson? (json : Json) : Option Item := do
  let fields ← json.fields? ["id", "conditions"]
  some ⟨← fields.required? "id" Json.asInt?,
    ← fields.listOrEmpty? "conditions" Condition.ofJson?⟩

/-- The items of a value. -/
def itemsOfJson? (json : Json) : Option (List Item) := json.asList? Item.ofJson?

/-- The shop of a value. -/
def Shop.ofJson? (json : Json) : Option Shop := do
  let fields ← json.fields? ["id", "items"]
  some ⟨← fields.required? "id" Json.asInt?, ← fields.required? "items" itemsOfJson?⟩

end Storefront.Stock
