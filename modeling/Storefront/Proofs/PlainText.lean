import Storefront.Pattern.Helpers

/-!
Reading patterns by bytes. The characters of a text are decoded from its bytes, and evaluating that
takes far longer than evaluating all that is done with them afterwards. In a plain text each byte is
a character, so that its pattern can be read from the bytes as they are. What is found out about
patterns in that way, by evaluation, holds of the compiled ones.
-/

namespace Storefront.Text

/-! ### Plain texts -/

/-- Whether each byte of a text is a character of its own. -/
def isPlain (text : String) : Bool := text.toByteArray.data.toList.all (·.toNat < 128)

/-- The bytes of a text as characters. -/
def byteCharacters (text : String) : List Char :=
  text.toByteArray.data.toList.map fun byte => Char.ofNat byte.toNat

/-- A character whose bytes are all below 128 has one byte, its own number. -/
theorem map_utf8EncodeChar {c : Char}
    (plain : (String.utf8EncodeChar c).all (·.toNat < 128) = true) :
    (String.utf8EncodeChar c).map (fun byte => Char.ofNat byte.toNat) = [c] := by
  unfold String.utf8EncodeChar at plain ⊢
  dsimp only at plain ⊢
  split at plain
  · next small =>
    have number : c.val.toNat % 2 ^ 8 = c.toNat := Nat.mod_eq_of_lt (Nat.lt_succ_of_le
      (Nat.le_trans small (by decide)))
    rw [if_pos small, List.map_singleton, UInt8.toNat_ofNat', number, Char.ofNat_toNat]
  · -- The first of several bytes is above 191.
    exfalso
    split at plain
    · simp at plain
      omega
    · split at plain
      · simp at plain
        omega
      · simp at plain
        omega

theorem map_utf8Encode {listed : List Char}
    (plain : listed.utf8Encode.data.toList.all (·.toNat < 128) = true) :
    (listed.utf8Encode.data.toList.map fun byte => Char.ofNat byte.toNat) = listed := by
  induction listed with
  | nil => rfl
  | cons first rest inductionHypothesis =>
    have bytes : (first :: rest).utf8Encode.data.toList =
        String.utf8EncodeChar first ++ rest.utf8Encode.data.toList := by
      rw [List.utf8Encode_cons, List.utf8Encode_singleton, ByteArray.toList_data_append,
        List.toList_data_toByteArray]
    rw [bytes, List.all_append, Bool.and_eq_true] at plain
    rw [bytes, List.map_append, map_utf8EncodeChar plain.1, inductionHypothesis plain.2,
      List.singleton_append]

/-- The bytes of a plain text are its characters. -/
theorem byteCharacters_eq_toList {text : String} (plain : isPlain text = true) :
    byteCharacters text = text.toList := by
  rw [isPlain, ← String.utf8Encode_toList] at plain
  rw [byteCharacters, ← String.utf8Encode_toList, map_utf8Encode plain]

end Storefront.Text

namespace Storefront.Pattern

open Storefront.Text

/-! ### Compiling with another reader -/

/-- The pattern of a text. That of a plain text is read from its bytes. -/
def parseBytes (text : String) : Except CompileError Pattern :=
  if isPlain text then
    (lexFrom (Lexer.byteSize (byteCharacters text)) (byteCharacters text) >>= ofTokens).mapError
      (.malformed text)
  else parseNamed text

theorem parseBytes_eq_parseNamed (text : String) : parseBytes text = parseNamed text := by
  rw [parseBytes]
  split
  · next plain => rw [parseNamed, parse, lex, byteCharacters_eq_toList plain]
  · rfl

/-- The compiled pattern of a text, with plain texts read from their bytes. -/
def compileBytes (helpers : Helpers) (text : String) : Except CompileError Pattern :=
  compileWith parseBytes helpers text

/-- Reading plain texts from their bytes makes no difference to what is compiled. -/
theorem compileBytes_eq_compile (helpers : Helpers) (text : String) :
    compileBytes helpers text = compile helpers text := by
  rw [compileBytes, compile, funext parseBytes_eq_parseNamed]

end Storefront.Pattern
