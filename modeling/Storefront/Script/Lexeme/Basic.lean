import Storefront.Script.Fault

/-!
What the readers of single tokens share: each looks at the start of a text and returns what it found
there together with the text after it.
-/

namespace Storefront.Script.Lexer

/-- A token found at the start of a text, and the text after it. -/
abbrev Found := Token × List Char

theorem length_dropWhile_le (keep : Char → Bool) (text : List Char) :
    (text.dropWhile keep).length ≤ text.length :=
  (List.dropWhile_suffix keep).length_le

theorem length_dropWhile_cons_lt {keep : Char → Bool} {c : Char} (rest : List Char)
    (kept : keep c = true) : ((c :: rest).dropWhile keep).length < (c :: rest).length := by
  rw [List.dropWhile_cons_of_pos kept]
  exact Nat.lt_succ_of_le (length_dropWhile_le keep rest)

theorem eq_ok_of_map_eq_ok {Cause Before After : Type} {change : Before → After}
    {result : Except Cause Before} {after : After} (mapped : result.map change = .ok after) :
    ∃ before, result = .ok before ∧ change before = after := by
  cases result with
  | error cause => simp [Except.map] at mapped
  | ok before => exact ⟨before, rfl, by simpa [Except.map] using mapped⟩

end Storefront.Script.Lexer
