import Mathlib
import Storefront.Proofs.OwnIds

/-!
Shops and directories in the making. Whoever makes them works at a desk: items are registered in
any number of drafts of shops, each under the conditions that stand on one list at that moment, and
finished shops are added to any number of directories. The requests may come in any order and as
often as one likes; what a request is answered depends on the requests before it.

A draft is named by the id of its shop and a number, so that none has to be begun: before its first
item it is the shop without items. A draft or a directory that is asked for is given as it is then.
-/

namespace Storefront.Stock

open Storefront.Guard

/-! ### The desk -/

/-- The name of a shop in the making: its id, and a number that tells it from others of that id. -/
structure Draft where
  id : Int
  number : Nat
  deriving DecidableEq

/-- What can be asked for at the desk. -/
inductive Request where
  /-- The list of conditions becomes another one. -/
  | change (conditions : List Condition)
  /-- An item joins a draft under the conditions on the list. -/
  | register (draft : Draft) (item : Int)
  /-- A draft is made a shop. -/
  | finish (draft : Draft)
  /-- A shop is added to a directory. -/
  | add (volume : Nat) (shop : Shop)
  /-- A directory is given out. -/
  | issue (volume : Nat)

/-- What comes back from the desk. -/
inductive Answer where
  | done
  | shop (shop : Shop)
  | added
  | rejected (shop : Shop)
  | directory (directory : Directory)

/-- The list of conditions, and all drafts and directories as they are at a moment. -/
structure Desk where
  conditions : List Condition
  drafts : Draft → Shop
  volumes : Nat → Directory

namespace Desk

/-- Nothing is on the list and nothing has been registered or added. -/
def initial : Desk where
  conditions := []
  drafts draft := .empty draft.id
  volumes _ := .empty

/-- The desk after a request, and the answer. -/
def serve (desk : Desk) : Request → Desk × Answer
  | .change conditions => ({ desk with conditions }, .done)
  | .register draft item =>
    let larger := (desk.drafts draft).addItem ⟨item, desk.conditions⟩
    ({ desk with drafts := Function.update desk.drafts draft larger }, .done)
  | .finish draft => (desk, .shop (desk.drafts draft))
  | .add volume shop =>
    match (desk.volumes volume).add? shop with
    | some larger => ({ desk with volumes := Function.update desk.volumes volume larger }, .added)
    | none => (desk, .rejected shop)
  | .issue volume => (desk, .directory (desk.volumes volume))

/-- The desk after some requests. -/
def after (desk : Desk) (requests : List Request) : Desk :=
  requests.foldl (fun desk request => (desk.serve request).1) desk

/-- The requests with their answers. -/
def answers (desk : Desk) : List Request → List (Request × Answer)
  | [] => []
  | request :: rest => (request, (desk.serve request).2) :: (desk.serve request).1.answers rest

/-- The answer to a request that comes after others. -/
def answer (earlier : List Request) (request : Request) : Answer :=
  ((initial.after earlier).serve request).2

theorem answers_append (desk : Desk) (requests others : List Request) :
    desk.answers (requests ++ others) =
      desk.answers requests ++ (desk.after requests).answers others := by
  induction requests generalizing desk with
  | nil => rfl
  | cons request rest inductionHypothesis =>
    rw [List.cons_append, answers, answers, inductionHypothesis]
    rfl

theorem after_concat (desk : Desk) (requests : List Request) (request : Request) :
    desk.after (requests ++ [request]) = ((desk.after requests).serve request).1 :=
  List.foldl_append

/-! ### What the requests say -/

/-- The items that requests register in a draft, each under the conditions of the latest change
before it; `conditions` are those of the beginning. -/
def registered (draft : Draft) (conditions : List Condition) : List Request → List Item
  | [] => []
  | .change others :: rest => registered draft others rest
  | .register other item :: rest =>
    if other = draft then ⟨item, conditions⟩ :: registered draft conditions rest
    else registered draft conditions rest
  | .finish _ :: rest | .add _ _ :: rest | .issue _ :: rest => registered draft conditions rest

/-- The shop that a request hands to a directory. -/
def handed? (volume : Nat) : Request → Option Shop
  | .add other shop => if other = volume then some shop else none
  | _ => none

/-- The shop that a request hands to a directory, if the answer is that it was added. -/
def taken? (volume : Nat) (request : Request) : Answer → Option Shop
  | .added => handed? volume request
  | _ => none

/-- The shops that requests hand to a directory, in their order. -/
def handed (volume : Nat) (requests : List Request) : List Shop :=
  requests.filterMap (handed? volume)

/-- The shops among them that the directory takes, in their order. -/
def accepted (volume : Nat) (requests : List Request) : List Shop :=
  (initial.answers requests).filterMap fun entry => taken? volume entry.1 entry.2

/-! ### Drafts -/

/-- A draft keeps its items, and those that requests register in it follow them. -/
theorem drafts_after (desk : Desk) (requests : List Request) (draft : Draft) :
    (desk.after requests).drafts draft =
      ⟨(desk.drafts draft).id,
        (desk.drafts draft).items ++ registered draft desk.conditions requests⟩ := by
  induction requests generalizing desk with
  | nil =>
    rw [registered, List.append_nil]
    rfl
  | cons request rest inductionHypothesis =>
    refine (inductionHypothesis (desk.serve request).1).trans ?_
    cases request with
    | change | finish | issue => rfl
    | register other item =>
      by_cases same : other = draft
      · subst same
        rw [registered, if_pos rfl, serve]
        simp only [Function.update_self, Shop.id_addItem, Shop.items_addItem, List.append_assoc,
          List.singleton_append]
      · rw [registered, if_neg same, serve]
        simp only [Function.update_of_ne (Ne.symm same)]
    | add volume shop =>
      rw [registered, serve]
      split <;> rfl

end Desk

/-! ### Directories -/

/-- A shop under a free number is one more entry. -/
theorem Listing.put_perm {listing : Listing} {number : Int} (free : listing.lookup number = none)
    (shop : Shop) : (listing.put number shop).Perm ((number, shop) :: listing) := by
  induction listing with
  | nil => exact .refl _
  | cons entry rest inductionHypothesis =>
    obtain ⟨taken, found⟩ := entry
    rw [List.lookup_cons] at free
    split at free
    · cases free
    · next different =>
      unfold put
      split
      · exact .refl _
      · rw [if_neg (beq_eq_false_iff_ne.mp different)]
        exact ((inductionHypothesis free).cons _).trans (.swap _ _ _)

namespace Directory

/-- What is said of a directory and the shops that were handed to it and that it took. -/
structure Filed (handed accepted : List Shop) (directory : Directory) : Prop where
  keyed : directory.Keyed
  first : ∀ id, directory.get? id = handed.find? fun shop => shop.id = id
  accepted : directory.shops.Perm accepted

theorem filed_empty : Filed [] [] empty := ⟨keyed_empty, fun _ => rfl, .refl _⟩

variable {handed accepted : List Shop} {directory : Directory}

/-- There is a shop under a number exactly if one of that id was taken. -/
theorem Filed.isSome_get? (filed : Filed handed accepted directory) (id : Int) :
    (directory.get? id).isSome ↔ ∃ earlier ∈ accepted, earlier.id = id := by
  have own := keyed_iff_entries.mp filed.keyed
  rw [Option.isSome_iff_exists]
  constructor
  · rintro ⟨shop, found⟩
    refine ⟨shop, filed.accepted.mem_iff.mp ?_, filed.keyed id shop found⟩
    exact List.mem_map_of_mem (mem_listing_iff.mpr found)
  · rintro ⟨earlier, member, rfl⟩
    obtain ⟨⟨number, shop⟩, entry, rfl⟩ := List.mem_map.mp (filed.accepted.mem_iff.mpr member)
    obtain rfl : shop.id = number := own _ entry
    exact ⟨shop, mem_listing_iff.mp entry⟩

/-- A shop whose number is free is taken. -/
theorem Filed.put (filed : Filed handed accepted directory) {shop : Shop}
    (free : directory.get? shop.id = none) :
    Filed (handed ++ [shop]) (accepted ++ [shop]) (directory.put shop.id shop) where
  keyed := filed.keyed.put shop
  first id := by
    rw [get?_put, List.find?_append, ← filed.first, List.find?_singleton]
    by_cases same : id = shop.id
    · subst same
      rw [if_pos rfl, free, decide_eq_true rfl]
      rfl
    · rw [if_neg same, decide_eq_false (Ne.symm same), if_neg Bool.false_ne_true, Option.or_none]
  accepted := by
    have oneMore : (directory.put shop.id shop).shops.Perm (shop :: directory.shops) :=
      (Listing.put_perm free shop).map Prod.snd
    exact (oneMore.trans (filed.accepted.cons shop)).trans (List.perm_append_singleton _ _).symm

/-- A shop whose number is not free changes nothing. -/
theorem Filed.keep (filed : Filed handed accepted directory) {shop : Shop}
    (taken : (directory.get? shop.id).isSome) :
    Filed (handed ++ [shop]) accepted directory where
  keyed := filed.keyed
  first id := by
    rw [List.find?_append, ← filed.first, List.find?_singleton]
    by_cases same : shop.id = id
    · subst same
      rw [Option.or_of_isSome taken]
    · rw [decide_eq_false same, if_neg Bool.false_ne_true, Option.or_none]
  accepted := filed.accepted

/-- There are as many items as in the shops that were taken. -/
theorem Filed.itemCount (filed : Filed handed accepted directory) :
    directory.itemCount = (accepted.map fun shop => shop.items.length).sum := by
  have sameSum : (directory.shops.map fun shop => shop.items.length).sum =
      (accepted.map fun shop => shop.items.length).sum := (filed.accepted.map _).sum_nat
  exact sameSum

end Directory

namespace Desk

open Directory (Filed filed_empty)

theorem filterMap_concat {α β : Type} (pick : α → Option β) (front : List α) (last : α) :
    (front ++ [last]).filterMap pick = front.filterMap pick ++ (pick last).toList := by
  rw [List.filterMap_append]
  cases picked : pick last with
  | none => rw [List.filterMap_cons_none picked, List.filterMap_nil, Option.toList_none]
  | some value => rw [List.filterMap_cons_some picked, List.filterMap_nil, Option.toList_some]

theorem handed_concat (volume : Nat) (earlier : List Request) (request : Request) :
    handed volume (earlier ++ [request]) =
      handed volume earlier ++ (handed? volume request).toList :=
  filterMap_concat _ _ _

theorem accepted_concat (volume : Nat) (earlier : List Request) (request : Request) :
    accepted volume (earlier ++ [request]) =
      accepted volume earlier ++ (taken? volume request (answer earlier request)).toList := by
  rw [accepted, answers_append]
  exact filterMap_concat _ _ _

/-- Every directory at a desk is what was handed to it and taken. -/
def Kept (earlier : List Request) : Prop :=
  ∀ volume, Filed (handed volume earlier) (accepted volume earlier)
    ((initial.after earlier).volumes volume)

theorem kept_nil : Kept [] := fun _ => filed_empty

/-- A request that hands no shop to a directory may leave it as it is. -/
theorem Kept.concat_unhanded {earlier : List Request} {request : Request} {volume : Nat}
    (kept : Kept earlier) (unhanded : handed? volume request = none)
    (same : ((initial.after earlier).serve request).1.volumes volume =
      (initial.after earlier).volumes volume) :
    Filed (handed volume (earlier ++ [request])) (accepted volume (earlier ++ [request]))
      ((initial.after (earlier ++ [request])).volumes volume) := by
  have untaken : taken? volume request (answer earlier request) = none := by
    cases answer earlier request with
    | added => exact unhanded
    | _ => rfl
  rw [handed_concat, accepted_concat, after_concat, unhanded, untaken, same]
  simpa using kept volume

/-- A directory turns a shop away exactly if it has taken one of the same id. -/
theorem Kept.serve_add {earlier : List Request} (kept : Kept earlier) (volume : Nat)
    (shop : Shop) :
    if ∃ other ∈ accepted volume earlier, other.id = shop.id then
      (initial.after earlier).serve (.add volume shop) = (initial.after earlier, .rejected shop)
    else (initial.after earlier).serve (.add volume shop) =
      (⟨(initial.after earlier).conditions, (initial.after earlier).drafts,
        Function.update (initial.after earlier).volumes volume
          (((initial.after earlier).volumes volume).put shop.id shop)⟩, .added) := by
  have known := (kept volume).isSome_get? shop.id
  rw [serve, Directory.add?]
  by_cases isTaken : ∃ other ∈ accepted volume earlier, other.id = shop.id
  · rw [if_pos isTaken, if_pos (known.mpr isTaken)]
  · rw [if_neg isTaken, if_neg fun found => isTaken (known.mp found)]

/-- One more request keeps what is said of the directories. -/
theorem Kept.concat {earlier : List Request} (kept : Kept earlier) (request : Request) :
    Kept (earlier ++ [request]) := by
  intro volume
  cases request with
  | change | register | finish | issue => exact kept.concat_unhanded rfl rfl
  | add other shop =>
    have served := kept.serve_add other shop
    by_cases here : other = volume
    · subst here
      have isHanded : handed? other (.add other shop) = some shop := if_pos rfl
      have known := (kept other).isSome_get? shop.id
      rw [handed_concat, accepted_concat, after_concat, isHanded, answer]
      by_cases isTaken : ∃ first ∈ accepted other earlier, first.id = shop.id
      · rw [if_pos isTaken] at served
        rw [served, taken?, Option.toList_none, List.append_nil]
        · exact (kept other).keep (known.mpr isTaken)
        · exact nofun
      · rw [if_neg isTaken] at served
        rw [served, taken?, isHanded]
        dsimp only
        rw [Function.update_self]
        refine (kept other).put ?_
        rwa [← Option.not_isSome_iff_eq_none, known]
    · refine kept.concat_unhanded (if_neg here) ?_
      split at served
      · rw [served]
      · rw [served]
        exact Function.update_of_ne (Ne.symm here) _ _

/-- What is said of the directories holds after all requests. -/
theorem Kept.append {earlier : List Request} (kept : Kept earlier) (requests : List Request) :
    Kept (earlier ++ requests) := by
  induction requests generalizing earlier with
  | nil => rwa [List.append_nil]
  | cons request rest inductionHypothesis =>
    rw [← List.singleton_append, ← List.append_assoc]
    exact inductionHypothesis (kept.concat request)

/-- After any requests a draft is finished as the shop of its id with the items that were registered
in it, each under the conditions of that moment. A shop that is added is turned away, and nothing
changes, if the directory has taken one of its id, and is taken otherwise. A directory is issued
with ascending numbers, under each of them the first shop of that id that was handed to it, and with
as many items as the shops that it has taken. -/
theorem answer_by_requests (earlier : List Request) :
    (∀ draft, answer earlier (.finish draft) =
      .shop ⟨draft.id, registered draft [] earlier⟩) ∧
    (∀ volume shop,
      if ∃ other ∈ accepted volume earlier, other.id = shop.id then
        answer earlier (.add volume shop) = .rejected shop ∧
          initial.after (earlier ++ [.add volume shop]) = initial.after earlier
      else answer earlier (.add volume shop) = .added) ∧
    ∀ volume, ∃ directory, answer earlier (.issue volume) = .directory directory ∧
      directory.ids.Pairwise (· < ·) ∧
      (∀ id, directory.get? id = (handed volume earlier).find? fun shop => shop.id = id) ∧
      directory.itemCount =
        ((accepted volume earlier).map fun shop => shop.items.length).sum := by
  have kept : Kept earlier := kept_nil.append earlier
  refine ⟨fun draft => ?_, fun volume shop => ?_, fun volume => ?_⟩
  · exact congrArg Answer.shop (drafts_after initial earlier draft)
  · have served := kept.serve_add volume shop
    rw [after_concat, answer]
    split
    · next isTaken =>
      rw [if_pos isTaken] at served
      rw [served]
      exact ⟨rfl, rfl⟩
    · next isFree =>
      rw [if_neg isFree] at served
      rw [served]
  · refine ⟨_, rfl, ?_, (kept volume).first, (kept volume).itemCount⟩
    exact List.pairwise_map.mpr ((initial.after earlier).volumes volume).ascending

end Desk

end Storefront.Stock
