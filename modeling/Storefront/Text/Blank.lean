import Storefront.Text.Ranges

/-!
Blank characters: those with the Unicode property `White_Space`.
-/

namespace Storefront.Text

/-- The blank characters. -/
def blanks : Ranges := [
    (0x9, 0xD), (0x20, 0x20), (0x85, 0x85), (0xA0, 0xA0), (0x1680, 0x1680), (0x2000, 0x200A),
    (0x2028, 0x2029), (0x202F, 0x202F), (0x205F, 0x205F), (0x3000, 0x3000)]

/-- Whether a character only separates others. -/
def isBlank (c : Char) : Bool := blanks.covers c

theorem blanks_ascending : blanks.ascending = true := rfl

/-- A line break is blank. -/
theorem isBlank_newline : isBlank '\n' = true := rfl

end Storefront.Text
