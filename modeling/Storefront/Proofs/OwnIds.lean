import Storefront.Stock.Directory

/-!
Shops under their own ids. A directory lists each shop under a number, and the shop carries an id
besides. Adding a shop takes the number from the id, so the two agree in every directory that comes
of adding shops; and a directory in which they agree comes of adding its own shops in their order,
none of which is turned away.
-/

namespace Storefront.Stock

/-! ### Entries of a listing -/

variable {listing : Listing} {number : Int} {shop : Shop}

/-- An entry of an ascending listing is the one that is found under its number. -/
theorem Listing.Ascending.mem_iff (ascending : listing.Ascending) :
    (number, shop) ∈ listing ↔ listing.lookup number = some shop := by
  induction listing with
  | nil => exact ⟨nofun, nofun⟩
  | cons entry rest inductionHypothesis =>
    obtain ⟨taken, found⟩ := entry
    obtain ⟨below, restAscending⟩ := List.pairwise_cons.mp ascending
    by_cases here : number = taken
    · subst here
      rw [List.lookup_cons_self, List.mem_cons]
      constructor
      · rintro (same | later)
        · rw [(Prod.mk.inj same).2]
        · exact absurd (below _ later) (Int.lt_irrefl number)
      · rintro ⟨⟩
        exact .inl rfl
    · rw [List.lookup_cons, beq_eq_false_iff_ne.mpr here, List.mem_cons]
      refine Iff.trans (or_iff_right fun same => here (Prod.mk.inj same).1) ?_
      exact inductionHypothesis restAscending

/-- Nothing is found under a number above all others. -/
theorem Listing.lookup_above (below : ∀ entry ∈ listing, entry.1 < number) :
    listing.lookup number = none := by
  refine List.lookup_eq_none_iff.mpr fun entry member => bne_iff_ne.mpr ?_
  exact Int.ne_of_gt (below entry member)

/-- A number above all others goes to the end. -/
theorem Listing.put_above (below : ∀ entry ∈ listing, entry.1 < number) (shop : Shop) :
    listing.put number shop = listing ++ [(number, shop)] := by
  induction listing with
  | nil => rfl
  | cons entry rest inductionHypothesis =>
    obtain ⟨first, later⟩ := List.forall_mem_cons.mp below
    rw [put, if_neg (Int.lt_asymm first), if_neg (Int.ne_of_gt first), inductionHypothesis later]
    rfl

namespace Directory

variable {directory : Directory}

theorem ext {other : Directory} (same : directory.listing = other.listing) : directory = other := by
  cases directory
  cases other
  cases same
  rfl

theorem mem_listing_iff : (number, shop) ∈ directory.listing ↔ directory.get? number = some shop :=
  directory.ascending.mem_iff

/-- Putting the entries of a directory one after the other into an empty one gives it back, however
an entry is handed over. -/
theorem foldlM_entries {β : Type} {step : Directory → β → Option Directory}
    {write : Int × Shop → β} (directory : Directory)
    (puts : ∀ entry ∈ directory.listing, ∀ front : Directory,
      (∀ earlier ∈ front.listing, earlier.1 < entry.1) →
        step front (write entry) = some (front.put entry.1 entry.2)) :
    (directory.listing.map write).foldlM step empty = some directory := by
  -- What was put so far is the front of the listing, below all that is still to come.
  have onwards (rest : Listing) : ∀ front : Directory, front.listing ++ rest = directory.listing →
      (rest.map write).foldlM step front = some directory := by
    induction rest with
    | nil =>
      intro front all
      rw [List.append_nil] at all
      exact congrArg some (ext all)
    | cons entry rest inductionHypothesis =>
      intro front all
      have below : ∀ earlier ∈ front.listing, earlier.1 < entry.1 := fun earlier member =>
        (List.pairwise_append.mp (all ▸ directory.ascending)).2.2 earlier member entry
          List.mem_cons_self
      have member : entry ∈ directory.listing :=
        all ▸ List.mem_append_right front.listing List.mem_cons_self
      rw [List.map_cons, List.foldlM_cons, puts entry member front below]
      refine inductionHypothesis (front.put entry.1 entry.2) ?_
      show front.listing.put entry.1 entry.2 ++ rest = _
      rw [Listing.put_above below, List.append_assoc]
      exact all
  exact onwards directory.listing empty rfl

/-! ### Adding shops -/

/-- The directory that comes of adding shops in their order, those aside that are turned away. -/
def ofShops (shops : List Shop) : Directory :=
  shops.foldl (fun directory shop => (directory.add? shop).getD directory) empty

/-- What holds without shops and is kept when one is put under its id holds in the end. -/
theorem ofShops_holds {Holds : Directory → Prop} {shops : List Shop} (start : Holds empty)
    (step : ∀ shop ∈ shops, ∀ directory, Holds directory → Holds (directory.put shop.id shop)) :
    Holds (ofShops shops) := by
  refine List.foldlRecOn shops _ start fun directory holds shop member => ?_
  rw [add?]
  split
  · exact holds
  · exact step shop member directory holds

/-- Every shop stands under its own id. -/
def Keyed (directory : Directory) : Prop :=
  ∀ number shop, directory.get? number = some shop → shop.id = number

theorem keyed_iff_entries : directory.Keyed ↔ ∀ entry ∈ directory.listing, entry.2.id = entry.1 :=
  ⟨fun keyed entry member => keyed entry.1 entry.2 (mem_listing_iff.mp member),
    fun all number shop found => all (number, shop) (mem_listing_iff.mpr found)⟩

theorem keyed_empty : empty.Keyed := nofun

theorem Keyed.put (keyed : directory.Keyed) (shop : Shop) :
    (directory.put shop.id shop).Keyed := by
  intro number found here
  rw [get?_put] at here
  split at here
  next same =>
    cases here
    exact same.symm
  next => exact keyed number found here

theorem keyed_ofShops (shops : List Shop) : (ofShops shops).Keyed :=
  ofShops_holds keyed_empty fun shop _ _ keyed => keyed.put shop

theorem Keyed.foldlM_add? {shops : List Shop} {whole : Directory} (keyed : directory.Keyed)
    (added : shops.foldlM add? directory = some whole) : whole.Keyed := by
  induction shops generalizing directory with
  | nil =>
    cases added
    exact keyed
  | cons shop rest inductionHypothesis =>
    obtain ⟨next, first, others⟩ := Option.bind_eq_some_iff.mp added
    obtain ⟨-, same⟩ := Option.ite_none_left_eq_some.mp first
    cases same
    exact inductionHypothesis (keyed.put shop) others

/-- The numbers are the ids of the shops just if each shop stands under its own. -/
theorem keyed_iff_ids : directory.Keyed ↔ directory.ids = directory.shops.map Shop.id := by
  rw [keyed_iff_entries, ids, shops, List.map_map, List.map_inj_left]
  exact forall₂_congr fun entry _ => eq_comm

/-- A directory comes of adding its own shops, none of which is turned away, just if each stands
under its own id. -/
theorem keyed_iff_rebuilt : directory.Keyed ↔
    directory.shops.foldlM add? empty = some directory := by
  constructor
  · intro keyed
    refine foldlM_entries directory fun entry member front below => ?_
    have own : entry.2.id = entry.1 := keyed_iff_entries.mp keyed entry member
    have free : front.get? entry.1 = none := Listing.lookup_above below
    rw [add?, own, free]
    rfl
  · exact keyed_empty.foldlM_add?

end Directory

end Storefront.Stock
