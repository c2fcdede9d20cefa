import Storefront.Text.Visible

/-!
Quoted text, written so that it can be read off unambiguously: the quotation mark and the backslash
are escaped, the common controls have short escapes, and every other character without an appearance
of its own is written by its code point. A single character can also be written within ASCII alone.
-/

namespace Storefront.Text

/-- A code point as an escape, in the fewest hexadecimal digits. -/
def codeEscape (c : Char) : String :=
  "\\u\x7b" ++ String.ofList (Nat.toDigits 16 c.toNat) ++ "\x7d"

/-- One character between quotation marks `mark`. -/
def escaped (mark c : Char) : String :=
  if c = mark || c = '\\' then String.ofList ['\\', c]
  else if c = '\x00' then "\\0"
  else if c = '\t' then "\\t"
  else if c = '\n' then "\\n"
  else if c = '\r' then "\\r"
  else if isVisible c then c.toString
  else codeEscape c

/-- Text between double quotation marks. -/
def quoted (text : String) : String :=
  "\"" ++ String.join (text.toList.map (escaped '"')) ++ "\""

/-- A character between single quotation marks. -/
def quotedChar (c : Char) : String := "'" ++ escaped '\'' c ++ "'"

/-- A character within ASCII, both quotation marks escaped. -/
def escapedAscii (c : Char) : String :=
  if c = '\t' then "\\t"
  else if c = '\n' then "\\n"
  else if c = '\r' then "\\r"
  else if c = '\'' || c = '"' || c = '\\' then String.ofList ['\\', c]
  else if 0x20 ≤ c.toNat && c.toNat ≤ 0x7E then c.toString
  else codeEscape c

end Storefront.Text
