import Storefront.Stock.Sha256
import Storefront.Stock.Shop

/-!
The directory of shops: at most one shop under each number, in ascending order of the numbers. A
shop that is added goes under its own id, and the first one under an id stays. The digest of a
directory is that of its JSON text, in which nothing is left to choose.
-/

namespace Storefront.Stock

/-- Shops with the numbers under which they are listed. -/
abbrev Listing := List (Int × Shop)

/-- The listing with a shop under a number, in the place of one that was there before. -/
def Listing.put (number : Int) (shop : Shop) : Listing → Listing
  | [] => [(number, shop)]
  | (other, found) :: rest =>
    if number < other then (number, shop) :: (other, found) :: rest
    else if number = other then (number, shop) :: rest
    else (other, found) :: put number shop rest

/-- Whether the numbers of a listing ascend. -/
def Listing.Ascending (listing : Listing) : Prop :=
  listing.Pairwise fun first second => first.1 < second.1

theorem Listing.mem_put {number : Int} {shop : Shop} {listing : Listing} {entry : Int × Shop}
    (member : entry ∈ listing.put number shop) :
    entry = (number, shop) ∨ entry ∈ listing := by
  induction listing with
  | nil => simpa [put] using member
  | cons head rest inductionHypothesis =>
    unfold put at member
    split at member
    · simpa using member
    · split at member
      · rcases List.mem_cons.mp member with same | later
        · exact Or.inl same
        · exact Or.inr (List.mem_cons_of_mem _ later)
      · rcases List.mem_cons.mp member with same | later
        · exact Or.inr (same ▸ List.mem_cons_self)
        · exact (inductionHypothesis later).imp_right (List.mem_cons_of_mem _)

theorem Listing.Ascending.put {listing : Listing} (ascending : listing.Ascending) (number : Int)
    (shop : Shop) : (listing.put number shop).Ascending := by
  induction listing with
  | nil => exact List.pairwise_singleton _ _
  | cons head rest inductionHypothesis =>
    have below := (List.pairwise_cons.mp ascending).1
    have tail := (List.pairwise_cons.mp ascending).2
    unfold Listing.put
    split
    · next smaller =>
      refine List.pairwise_cons.mpr ⟨fun entry member => ?_, ascending⟩
      rcases List.mem_cons.mp member with same | later
      · exact same ▸ smaller
      · exact Int.lt_trans smaller (below entry later)
    · next notSmaller =>
      split
      · next same =>
        exact List.pairwise_cons.mpr ⟨fun entry member => same ▸ below entry member, tail⟩
      · next different =>
        refine List.pairwise_cons.mpr ⟨fun entry member => ?_, inductionHypothesis tail⟩
        rcases mem_put member with same | later
        · rw [same]
          dsimp only at notSmaller different ⊢
          omega
        · exact below entry later

/-- A shop that is put under a number is found there, and changes nothing elsewhere. -/
theorem Listing.lookup_put (number : Int) (shop : Shop) (listing : Listing) (other : Int) :
    (listing.put number shop).lookup other =
      if other = number then some shop else listing.lookup other := by
  have head (entry : Int × Shop) (rest : Listing) :
      List.lookup other (entry :: rest) =
        if other = entry.1 then some entry.2 else List.lookup other rest := by
    by_cases here : other = entry.1
    · rw [List.lookup_cons, if_pos here, beq_iff_eq.mpr here]
    · rw [List.lookup_cons, if_neg here, beq_eq_false_iff_ne.mpr here]
  induction listing with
  | nil => exact head (number, shop) []
  | cons entry rest inductionHypothesis =>
    obtain ⟨taken, found⟩ := entry
    unfold put
    split
    · exact head (number, shop) ((taken, found) :: rest)
    · split
      · next same =>
        rw [head, head, same]
        split <;> rfl
      · next different =>
        rw [head, head, inductionHypothesis]
        by_cases here : other = taken
        · rw [if_pos here, if_pos here, if_neg fun same => different (same.symm.trans here)]
        · rw [if_neg here, if_neg here]

/-- Every known shop, each under a number of its own. -/
structure Directory where
  listing : Listing
  ascending : listing.Ascending

namespace Directory

/-- The directory without shops. -/
def empty : Directory := ⟨[], List.Pairwise.nil⟩

instance : Inhabited Directory := ⟨empty⟩

/-- The directory with a shop under a number, in the place of one that was there before. -/
def put (directory : Directory) (number : Int) (shop : Shop) : Directory :=
  ⟨directory.listing.put number shop, directory.ascending.put number shop⟩

/-- The shop under a number. -/
def get? (directory : Directory) (number : Int) : Option Shop := directory.listing.lookup number

@[simp] theorem get?_empty (number : Int) : empty.get? number = none := rfl

theorem get?_put (directory : Directory) (number : Int) (shop : Shop) (other : Int) :
    (directory.put number shop).get? other =
      if other = number then some shop else directory.get? other :=
  Listing.lookup_put number shop directory.listing other

/-- The directory with one more shop under its id, unless there is one already. -/
def add? (directory : Directory) (shop : Shop) : Option Directory :=
  if (directory.get? shop.id).isSome then none else some (directory.put shop.id shop)

/-- The shops in ascending order of their numbers. -/
def shops (directory : Directory) : List Shop := directory.listing.map (·.2)

/-- The numbers in ascending order. -/
def ids (directory : Directory) : List Int := directory.listing.map (·.1)

/-- The number of shops. -/
def size (directory : Directory) : Nat := directory.listing.length

/-- The number of items in all shops. -/
def itemCount (directory : Directory) : Nat :=
  (directory.shops.map fun shop => shop.items.length).foldr Nat.add 0

/-! ### As JSON -/

/-- The value of a directory. -/
def toJson (directory : Directory) : Json :=
  .obj [("shops", .obj (directory.listing.map fun entry => (toString entry.1, entry.2.toJson)))]

/-- The number that a key spells. -/
def numberOfKey? (key : String) : Option Int := do
  let ⟨spelling, after, _⟩ ← Json.readNumber key.toList
  if after.isEmpty then spelling.value.asInt? else none

/-- The shops of a value under the numbers that its keys spell. Of several under one number the last
counts. -/
def shopsOfJson? : Json → Option Directory
  | .obj members =>
    members.foldlM (fun directory member => do
      let number ← numberOfKey? member.1
      let shop ← Shop.ofJson? member.2
      some (directory.put number shop)) empty
  | _ => none

/-- The directory of a value. -/
def ofJson? (json : Json) : Option Directory := do
  let fields ← json.fields? ["shops"]
  fields.required? "shops" shopsOfJson?

/-- The JSON text of a directory. -/
def text (directory : Directory) : String := directory.toJson.compact

/-- The digest of a directory. -/
def digest (directory : Directory) : String := Sha256.hexDigest directory.text

end Directory

end Storefront.Stock
