import Storefront.Survey.Settings
import Storefront.Yaml.Basic

/-!
Settings as a file gives them: a mapping in which each known key sets one of them. What the mapping
leaves out keeps its default, and other keys mean nothing. The first entry that does not fit is the
one that is told of.
-/

namespace Storefront.Survey

/-! ### Keys -/

/-- The keys that mean something. -/
inductive SettingsKey where
  | excludedShops | inventorySlotCounts | slotArray | slotIndex | registerMethod | slotCapacity
  | maxUnroll
  deriving DecidableEq, Repr

namespace SettingsKey

/-- Every key. -/
def all : List SettingsKey := [
  excludedShops, inventorySlotCounts, slotArray, slotIndex, registerMethod, slotCapacity, maxUnroll]

/-- The spelling of a key. -/
def name : SettingsKey → String
  | excludedShops => "ExcludedShops"
  | inventorySlotCounts => "InventorySlotCounts"
  | slotArray => "SlotArray"
  | slotIndex => "SlotIndex"
  | registerMethod => "RegisterMethod"
  | slotCapacity => "SlotCapacity"
  | maxUnroll => "MaxUnroll"

/-- The key of a spelling. -/
def ofName? (name : String) : Option SettingsKey := all.find? fun key => key.name == name

/-- The key that a value is. -/
def ofYaml? : Yaml → Option SettingsKey
  | .str name => ofName? name
  | _ => none

theorem mem_all (key : SettingsKey) : key ∈ all := by cases key <;> decide

end SettingsKey

/-! ### Values -/

/-- What is wrong with settings. -/
inductive SettingsFault where
  | notMapping
  | notIntegers (key : SettingsKey)
  | notInteger (key : SettingsKey)
  | notText (key : SettingsKey)
  | negative (key : SettingsKey)
  deriving DecidableEq, Repr

/-- The wording of a fault. -/
def SettingsFault.message : SettingsFault → String
  | notMapping => "top level must be a mapping"
  | notIntegers key => key.name ++ " must be a list of integers"
  | notInteger key => key.name ++ " must be an integer"
  | notText key => key.name ++ " must be a non-empty string"
  | negative key => key.name ++ " must not be negative"

/-- The whole number of a value; it must fit 64 bits with a sign. -/
def readInteger (key : SettingsKey) : Yaml → Except SettingsFault Int
  | .int value =>
    if -Int.pow 2 63 ≤ value ∧ value < Int.pow 2 63 then .ok value else .error (.notInteger key)
  | _ => .error (.notInteger key)

/-- The whole numbers of a value. -/
def readIntegers (key : SettingsKey) : Yaml → Except SettingsFault (List Int)
  | .list items => items.mapM (readInteger key)
  | _ => .error (.notIntegers key)

/-- The text of a value; it must not be empty. -/
def readText (key : SettingsKey) : Yaml → Except SettingsFault String
  | .str text => if text.isEmpty then .error (.notText key) else .ok text
  | _ => .error (.notText key)

/-- The whole number of a value that must not be negative. -/
def readSize (key : SettingsKey) (value : Yaml) : Except SettingsFault Nat :=
  match readInteger key value with
  | .error fault => .error fault
  | .ok value => if value < 0 then .error (.negative key) else .ok value.toNat

namespace Settings

/-- The settings with one of them set by a value. -/
def set (settings : Settings) (key : SettingsKey) (value : Yaml) :
    Except SettingsFault Settings :=
  match key with
  | .excludedShops =>
    (readIntegers key value).map fun value => { settings with excludedShops := value }
  | .inventorySlotCounts =>
    (readIntegers key value).map fun value => { settings with inventorySlotCounts := value }
  | .slotArray => (readText key value).map fun value => { settings with slotArray := value }
  | .slotIndex => (readText key value).map fun value => { settings with slotIndex := value }
  | .registerMethod =>
    (readText key value).map fun value => { settings with registerMethod := value }
  | .slotCapacity =>
    (readInteger key value).map fun value => { settings with slotCapacity := value }
  | .maxUnroll => (readSize key value).map fun value => { settings with maxUnroll := value }

/-- The settings with what an entry of a mapping sets. -/
def setEntry (settings : Settings) (entry : Yaml × Yaml) : Except SettingsFault Settings :=
  match SettingsKey.ofYaml? entry.1 with
  | some key => settings.set key entry.2
  | none => .ok settings

/-- The settings of the entries of a mapping. -/
def ofEntries (entries : List (Yaml × Yaml)) : Except SettingsFault Settings :=
  entries.foldlM setEntry standard

/-- The settings of a document, the defaults if it is empty. -/
def ofYaml : Yaml → Except SettingsFault Settings
  | .mapping entries => ofEntries entries
  | .null => .ok standard
  | _ => .error .notMapping

end Settings

end Storefront.Survey
