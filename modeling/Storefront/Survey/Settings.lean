/-!
What a survey needs to know about a setup procedure: how it registers items, which of its loops run
over the player's inventory, and which of its sections are no shops. The defaults describe the usual
procedure.
-/

namespace Storefront.Survey

/-- The sections that are never shops, whatever the settings are. -/
def reservedShops : List Int := [19, 21]

/-- The names and numbers of a setup procedure. -/
structure Settings where
  /-- Further sections that are no shops. -/
  excludedShops : List Int
  /-- The bounds of loops that run over the inventory and not over a range of items. -/
  inventorySlotCounts : List Int
  /-- The list whose elements are set up, `array[num].SetDefaults(id)`. -/
  slotArray : String
  /-- The place in that list. -/
  slotIndex : String
  /-- The method that sets an element up. -/
  registerMethod : String
  /-- The number of places, which bounds a loop that fills them. -/
  slotCapacity : Int
  /-- The greatest number of items that one loop may stand for. -/
  maxUnroll : Nat
  deriving DecidableEq, Repr

namespace Settings

/-- The settings that hold unless others are given. -/
def standard : Settings where
  excludedShops := []
  inventorySlotCounts := [54, 58]
  slotArray := "array"
  slotIndex := "num"
  registerMethod := "SetDefaults"
  slotCapacity := 39
  maxUnroll := 4096

/-- Whether a section is no shop. -/
def isExcluded (settings : Settings) (shop : Int) : Bool :=
  reservedShops.contains shop || settings.excludedShops.contains shop

/-- Whether a loop with this bound runs over the inventory. -/
def isInventoryBound (settings : Settings) (bound : Int) : Bool :=
  settings.inventorySlotCounts.contains bound

end Settings

end Storefront.Survey
