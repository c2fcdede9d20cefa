import Storefront.Proofs.Cutting
import Storefront.Proofs.Following

/-!
The machine cuts a text as it is cut into pieces. From the place of some characters that a text ends
with, it finds the same fault, or takes the same and moves to the place of what is left, and every
index and every stretch that it looks up lies within the text.
-/

namespace Storefront.Script.Cursor

open Lexer Storefront.Text

/-! ### Places in a text -/

/-- The place of characters that a text ends with. -/
def charPlace (chars rest : List Char) : Nat := chars.length - rest.length

variable {chars rest front : List Char}

/-- A run takes what is found at the start of a text: it stops at the same fault on its line, or
takes the same and moves to the place of what is left. -/
inductive Cuts (chars : List Char) (line : Nat) {α : Type} :
    Except Fault (α × List Char) → Outcome α → Prop where
  | fault (fault : Fault) : Cuts chars line (.error fault) (some (.error (.fault ⟨line, fault⟩)))
  | found (value : α) (rest : List Char) (within : rest <:+ chars) :
    Cuts chars line (.ok (value, rest)) (some (.ok (value, charPlace chars rest)))

section Rules

variable {α β : Type} {line : Nat}

/-- A run takes more after another one. -/
theorem Cuts.bind {read : Except Fault (α × List Char)}
    {next : α × List Char → Except Fault (β × List Char)} {run : Run α} {goesOn : α → Run β}
    {position : Nat} (first : Cuts chars line read (run position))
    (continued : ∀ value rest, read = .ok (value, rest) → rest <:+ chars →
      Cuts chars line (next (value, rest)) (goesOn value (charPlace chars rest))) :
    Cuts chars line (read >>= next) ((run >>= goesOn) position) := by
  generalize outcome : run position = ended at first
  cases first with
  | fault fault =>
    rw [bind_of_stops outcome]
    exact .fault fault
  | found value rest within =>
    rw [bind_of_ends outcome]
    exact continued value rest rfl within

/-- A run changes what another one has taken. -/
theorem Cuts.map {read : Except Fault (α × List Char)} {run : Run α} {position : Nat}
    (first : Cuts chars line read (run position)) (change : α → β) :
    Cuts chars line (read.map fun found => (change found.1, found.2))
      ((run >>= fun value => pure (change value)) position) := by
  generalize outcome : run position = ended at first
  cases first with
  | fault fault =>
    rw [bind_of_stops outcome]
    exact .fault fault
  | found value rest within =>
    rw [bind_of_ends outcome]
    exact .found _ rest within

end Rules

/-! ### Comments -/

/-- A piece, with the text after it apart. -/
def taken (piece : Piece) : Cut × List Char :=
  (⟨piece.token, piece.breaks, piece.fresh⟩, piece.rest)

end Storefront.Script.Cursor
