/-!
The outcome of reading from a sequence: what was read, and what is left. The outcome carries a bound
on how much is left, so that readers which call each other visibly come to an end: what reads with
the bound `length` has taken something, what reads with `length + 1` may have taken nothing.
-/

namespace Storefront

/-- What was read from a sequence, and the units after it, of which there are fewer than `bound`. -/
structure Reading (Unit α : Type) (bound : Nat) where
  value : α
  rest : List Unit
  fewer : rest.length < bound

namespace Reading

variable {Unit α : Type}

/-- What was read from the first unit of a sequence. -/
def first (value : α) {head : Unit} (rest : List Unit) :
    Reading Unit α (head :: rest).length :=
  ⟨value, rest, Nat.lt_succ_self rest.length⟩

/-- What was read from no unit at all. -/
def nothing (value : α) (rest : List Unit) : Reading Unit α (rest.length + 1) :=
  ⟨value, rest, Nat.lt_succ_self rest.length⟩

/-- A reading with another value. -/
def map {β : Type} {bound : Nat} (turn : α → β) (reading : Reading Unit α bound) :
    Reading Unit β bound :=
  { reading with value := turn reading.value }

/-- A reading under a bound that is met by reading nothing too. -/
def relax {bound : Nat} (reading : Reading Unit α bound) : Reading Unit α (bound + 1) :=
  ⟨reading.value, reading.rest, Nat.lt_succ_of_lt reading.fewer⟩

end Reading

end Storefront
