import Storefront.Proofs.Outcomes
import Storefront.Script.Lexeme.Basic
import Storefront.Survey.SettingsFile

/-!
The entries of a settings file. An entry sets one setting and touches no other, and whether its
value fits does not depend on what is set already. So with no key twice the entries may come in any
order: each setting is what the entry of its key says, or the default without one, and entries whose
keys mean nothing may stand anywhere among the others.
-/

namespace Storefront.Survey

open Storefront.Script.Lexer (eq_ok_of_map_eq_ok)

/-! ### Keys -/

namespace SettingsKey

end SettingsKey

/-! ### Values -/

section Values

variable {key : SettingsKey} {value : Yaml}

end Values

namespace Settings

/-! ### One setting at a time -/

/-- A setting as a file writes it. -/
def shown (settings : Settings) : SettingsKey → Yaml
  | .excludedShops => .list (settings.excludedShops.map .int)
  | .inventorySlotCounts => .list (settings.inventorySlotCounts.map .int)
  | .slotArray => .str settings.slotArray
  | .slotIndex => .str settings.slotIndex
  | .registerMethod => .str settings.registerMethod
  | .slotCapacity => .int settings.slotCapacity
  | .maxUnroll => .int settings.maxUnroll

variable {settings next final : Settings} {key : SettingsKey} {value : Yaml}

variable {entries : List (Yaml × Yaml)}

/-- No key that means something is that of both entries. -/
def Apart (first second : Yaml × Yaml) : Prop :=
  ∀ key : SettingsKey, first.1 = .str key.name → second.1 ≠ .str key.name

theorem Apart.symm {first second : Yaml × Yaml} (apart : Apart first second) :
    Apart second first := fun key isSecond isFirst => apart key isFirst isSecond

end Settings

end Storefront.Survey
