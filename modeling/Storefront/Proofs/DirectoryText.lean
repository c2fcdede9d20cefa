import Storefront.Proofs.Layout
import Storefront.Proofs.OwnIds
import Storefront.Proofs.Records

/-!
Directories come back from their texts. The text of a directory leaves out what is empty or absent,
spells its numbers as keys and names its tags; each of these is undone by the reader, so a directory
whose numbers fit 64 bits is read from its text as it was. Two directories with the same text are
therefore the same, and a digest stands for the bytes of one directory.

The reader takes the numbers from the keys and does not look at the ids.
-/

namespace Storefront

open Json

/-! ### Numbers within 64 bits -/

/-- The numbers of a condition. -/
def Guard.Condition.numbers (condition : Condition) : List Int :=
  condition.param1.toList ++ condition.param2.toList

namespace Stock

open Guard

/-- The numbers of an item and of its conditions. -/
def Item.numbers (item : Item) : List Int := item.id :: item.conditions.flatMap Condition.numbers

/-- The numbers of a shop and of its items. -/
def Shop.numbers (shop : Shop) : List Int := shop.id :: shop.items.flatMap Item.numbers

/-- All numbers of a list fit 64 bits with a sign. -/
def AllFit (numbers : List Int) : Prop := ∀ number ∈ numbers, fitsInt number = true

instance (numbers : List Int) : Decidable (AllFit numbers) :=
  inferInstanceAs (Decidable (∀ number ∈ numbers, fitsInt number = true))

theorem allFit_cons {number : Int} {rest : List Int} :
    AllFit (number :: rest) ↔ fitsInt number = true ∧ AllFit rest := List.forall_mem_cons

theorem AllFit.of_mem {α : Type} {numbersOf : α → List Int} {values : List α}
    (fit : AllFit (values.flatMap numbersOf)) {value : α} (member : value ∈ values) :
    AllFit (numbersOf value) :=
  fun number inside => fit number (List.mem_flatMap_of_mem member inside)

/-! ### Keys that are numbers -/

theorem isUnescaped_of_isDigit {c : Char} (digit : c.isDigit = true) : isUnescaped c = true :=
  Script.ascii_induction (fun c => c.isDigit = true → isUnescaped c = true) (by decide)
    (Script.small_of_continuesPlainName (Script.continuesPlainName_of_isDigit digit)) digit

theorem isPlainKey_toString (number : Int) : isPlainKey (toString number) = true := by
  have digits (value : Nat) : (Nat.toDigits 10 value).all isUnescaped = true :=
    List.all_eq_true.mpr fun c member =>
      isUnescaped_of_isDigit (Nat.isDigit_of_mem_toDigits (by decide) (by decide) member)
  cases number with
  | ofNat size =>
    have spelled : (toString (Int.ofNat size)).toList = Nat.toDigits 10 size := Nat.toList_repr
    rw [isPlainKey, spelled]
    exact digits size
  | negSucc size =>
    rw [isPlainKey, toString_negSucc, List.all_cons, digits]
    rfl

/-- A key spells the number that it was made of. -/
theorem numberOfKey?_toString {number : Int} (fits : fitsInt number = true) :
    Directory.numberOfKey? (toString number) = some number := by
  obtain ⟨spelling, value, found⟩ := finds_number fits Closes.nil
  rw [List.append_nil] at found
  obtain ⟨fewer, succeeds⟩ := found
  have taken : spelling.value.asInt? = some number := value ▸ asInt?_int fits
  unfold Directory.numberOfKey?
  rw [succeeds]
  exact taken

/-! ### Conditions, items and shops -/

theorem isPlain_condition {condition : Condition} (fit : AllFit condition.numbers) :
    condition.toJson.isPlain = true := by
  obtain ⟨tag, param1, param2⟩ := condition
  cases param1 with
  | none =>
    cases param2 with
    | none => exact isPlain_obj ["tag"] rfl (by decide) (by simp)
    | some second =>
      obtain ⟨onSecond, -⟩ := allFit_cons.mp fit
      exact isPlain_obj ["tag", "param2"] rfl (by decide) (by simp [onSecond])
  | some first =>
    obtain ⟨onFirst, rest⟩ := allFit_cons.mp fit
    cases param2 with
    | none => exact isPlain_obj ["tag", "param1"] rfl (by decide) (by simp [onFirst])
    | some second =>
      obtain ⟨onSecond, -⟩ := allFit_cons.mp rest
      exact isPlain_obj ["tag", "param1", "param2"] rfl (by decide) (by simp [onFirst, onSecond])

theorem ofJson?_condition {condition : Condition} (fit : AllFit condition.numbers) :
    Condition.ofJson? condition.toJson = some condition := by
  obtain ⟨tag, param1, param2⟩ := condition
  have onTag := Tag.ofName?_name tag
  cases param1 with
  | none =>
    cases param2 with
    | none =>
      refine bind_some (fields?_obj ["tag"] _ rfl (by decide)) ?_
      exact bind_some onTag (bind_some rfl (bind_some rfl rfl))
    | some second =>
      obtain ⟨onSecond, -⟩ := allFit_cons.mp fit
      refine bind_some (fields?_obj ["tag", "param2"] _ rfl (by decide)) ?_
      exact bind_some onTag (bind_some rfl
        (bind_some (optional?_present rfl Json.noConfusion (asInt?_int onSecond)) rfl))
  | some first =>
    obtain ⟨onFirst, rest⟩ := allFit_cons.mp fit
    cases param2 with
    | none =>
      refine bind_some (fields?_obj ["tag", "param1"] _ rfl (by decide)) ?_
      exact bind_some onTag
        (bind_some (optional?_present rfl Json.noConfusion (asInt?_int onFirst))
          (bind_some rfl rfl))
    | some second =>
      obtain ⟨onSecond, -⟩ := allFit_cons.mp rest
      refine bind_some (fields?_obj ["tag", "param1", "param2"] _ rfl (by decide)) ?_
      exact bind_some onTag
        (bind_some (optional?_present rfl Json.noConfusion (asInt?_int onFirst))
          (bind_some (optional?_present rfl Json.noConfusion (asInt?_int onSecond)) rfl))

theorem isPlain_item {item : Item} (fit : AllFit item.numbers) : item.toJson.isPlain = true := by
  obtain ⟨id, conditions⟩ := item
  obtain ⟨onId, onConditions⟩ := allFit_cons.mp fit
  cases conditions with
  | nil => exact isPlain_obj ["id"] rfl (by decide) (by simp [onId])
  | cons condition others =>
    have plain := isPlain_map fun condition member =>
      isPlain_condition (onConditions.of_mem member)
    exact isPlain_obj ["id", "conditions"] rfl (by decide)
      (List.forall_mem_cons.mpr ⟨onId, List.forall_mem_singleton.mpr plain⟩)

theorem ofJson?_item {item : Item} (fit : AllFit item.numbers) :
    Item.ofJson? item.toJson = some item := by
  obtain ⟨id, conditions⟩ := item
  obtain ⟨onId, onConditions⟩ := allFit_cons.mp fit
  have taken : asInt? (.int id) = some id := asInt?_int onId
  cases conditions with
  | nil =>
    refine bind_some (fields?_obj ["id"] ["id", "conditions"] rfl (by decide)) ?_
    exact bind_some taken (bind_some rfl rfl)
  | cons condition others =>
    have read : asList? Condition.ofJson? (.arr ((condition :: others).map Condition.toJson)) =
        some (condition :: others) :=
      asList?_map fun condition member => ofJson?_condition (onConditions.of_mem member)
    refine bind_some (fields?_obj ["id", "conditions"] _ rfl (by decide)) ?_
    exact bind_some taken (bind_some read rfl)

theorem isPlain_shop {shop : Shop} (fit : AllFit shop.numbers) : shop.toJson.isPlain = true := by
  obtain ⟨onId, onItems⟩ := allFit_cons.mp fit
  have plain := isPlain_map fun item member => isPlain_item (onItems.of_mem member)
  exact isPlain_obj ["id", "items"] rfl (by decide)
    (List.forall_mem_cons.mpr ⟨onId, List.forall_mem_singleton.mpr plain⟩)

theorem ofJson?_shop {shop : Shop} (fit : AllFit shop.numbers) :
    Shop.ofJson? shop.toJson = some shop := by
  obtain ⟨onId, onItems⟩ := allFit_cons.mp fit
  have taken : asInt? (.int shop.id) = some shop.id := asInt?_int onId
  have read : itemsOfJson? (.arr (shop.items.map Item.toJson)) = some shop.items :=
    asList?_map fun item member => ofJson?_item (onItems.of_mem member)
  refine bind_some (fields?_obj ["id", "items"] _ rfl (by decide)) ?_
  exact bind_some taken (bind_some read rfl)

/-! ### Directories -/

namespace Directory

/-- All numbers of a directory fit 64 bits with a sign. -/
def InRange (directory : Directory) : Prop :=
  ∀ entry ∈ directory.listing, fitsInt entry.1 = true ∧ AllFit entry.2.numbers

/-- The keys of the shops need no escapes, as they are numbers. -/
theorem isPlain_toJson {directory : Directory} (inRange : directory.InRange) :
    directory.toJson.isPlain = true := by
  have plain : (Json.obj (directory.listing.map fun entry =>
      (toString entry.1, entry.2.toJson))).isPlain = true := by
    refine isPlain_obj _ rfl ?_ ?_
    · rw [List.map_map, List.all_map]
      exact List.all_eq_true.mpr fun entry _ => isPlainKey_toString entry.1
    · rw [List.map_map]
      exact List.forall_mem_map.mpr fun entry member => isPlain_shop (inRange entry member).2
  exact isPlain_obj ["shops"] rfl (by decide) (List.forall_mem_singleton.mpr plain)

/-- A directory is what its value is read as. -/
theorem ofJson?_toJson {directory : Directory} (inRange : directory.InRange) :
    ofJson? directory.toJson = some directory := by
  refine bind_some (fields?_obj ["shops"] _ rfl (by decide)) ?_
  -- The keys ascend, so that each shop is put behind those before it.
  refine bind_some rfl (foldlM_entries directory fun entry member front _ => ?_)
  obtain ⟨fits, fit⟩ := inRange entry member
  exact bind_some (numberOfKey?_toString fits) (bind_some (ofJson?_shop fit) rfl)

/-- The directory that a text is read as. -/
def ofText? (text : String) : Option Directory := (Json.parse? text).bind ofJson?

/-- A directory is what its text is read as. -/
theorem ofText?_text {directory : Directory} (inRange : directory.InRange) :
    ofText? directory.text = some directory :=
  bind_some (parse?_compact (isPlain_toJson inRange)) (ofJson?_toJson inRange)

/-- A directory of shops whose numbers fit 64 bits has no other numbers. -/
theorem inRange_ofShops {shops : List Shop} (fit : ∀ shop ∈ shops, AllFit shop.numbers) :
    (ofShops shops).InRange := by
  refine ofShops_holds nofun fun shop member directory inRange entry inside => ?_
  rcases Listing.mem_put inside with rfl | before
  · exact ⟨(allFit_cons.mp (fit shop member)).1, fit shop member⟩
  · exact inRange entry before

/-! ### What a digest stands for -/

/-- The loop that lists bytes takes those that are left as they stand. -/
theorem toList_loop (bytes : ByteArray) (start : Nat) (taken : List UInt8) :
    ByteArray.toList.loop bytes start taken = taken.reverse ++ bytes.data.toList.drop start := by
  rw [ByteArray.toList.loop]
  split
  next more =>
    have bound : start < bytes.data.toList.length := more
    have here : bytes.get! start = bytes.data.toList[start] := getElem!_pos bytes.data start more
    rw [toList_loop bytes (start + 1), here, List.reverse_cons, List.append_assoc,
      List.drop_eq_getElem_cons bound]
    rfl
  next enough =>
    have nothing : bytes.data.toList.drop start = [] :=
      List.drop_eq_nil_of_le (Nat.not_lt.mp enough)
    rw [nothing, List.append_nil]
termination_by bytes.size - start

/-- Texts with the same bytes are the same. -/
theorem text_eq_of_bytes {text other : String} (same : text.toUTF8.toList = other.toUTF8.toList) :
    text = other := by
  have data (bytes : ByteArray) : bytes.toList = bytes.data.toList := toList_loop bytes 0 []
  rw [data, data] at same
  exact String.toByteArray_inj.mp (ByteArray.ext (Array.toList_inj.mp same))

/-- The digest is that of bytes from which the directory can be told. -/
theorem eq_of_bytes {directory other : Directory} (inRange : directory.InRange)
    (otherInRange : other.InRange)
    (same : directory.text.toUTF8.toList = other.text.toUTF8.toList) : directory = other := by
  have read := ofText?_text inRange
  rw [text_eq_of_bytes same, ofText?_text otherInRange] at read
  exact (Option.some.inj read).symm

/-- A directory that shops were added to is read from its text as it was, and no other directory of
shops has a text with the same bytes, which are those of the digest. -/
theorem ofShops_read_back (shops : List Shop) (fit : ∀ shop ∈ shops, AllFit shop.numbers) :
    ofText? (ofShops shops).text = some (ofShops shops) ∧
      ∀ others : List Shop, (∀ shop ∈ others, AllFit shop.numbers) →
        ofShops others ≠ ofShops shops →
          (ofShops others).text.toUTF8.toList ≠ (ofShops shops).text.toUTF8.toList :=
  ⟨ofText?_text (inRange_ofShops fit), fun _ otherFit different same =>
    different (eq_of_bytes (inRange_ofShops otherFit) (inRange_ofShops fit) same)⟩

/-- Shops with the greatest number and the least one, and a condition without its first number. -/
def extremes : List Shop :=
  [⟨3, [⟨Int.pow 2 63 - 1, []⟩, ⟨11, [⟨.hardmode, none, some (-Int.pow 2 63)⟩]⟩]⟩, ⟨1, []⟩]

theorem ofShops_read_back_extremes :
    ofText? (ofShops extremes).text = some (ofShops extremes) ∧
      (ofShops []).text.toUTF8.toList ≠ (ofShops extremes).text.toUTF8.toList := by
  obtain ⟨read, apart⟩ := ofShops_read_back extremes (by decide)
  refine ⟨read, apart [] nofun fun same => ?_⟩
  cases congrArg listing same

/-! ### Texts of any kind -/

/-- The members of a text under whose keys the shops stand. -/
def membersOf? (text : String) : Option (List (String × Json)) := do
  let json ← Json.parse? text
  let fields ← json.fields? ["shops"]
  match ← fields "shops" with
  | .obj members => some members
  | _ => none

/-- The shop of the last member whose key spells a number. -/
def shopUnder? (members : List (String × Json)) (number : Int) : Option Shop :=
  members.reverse.findSome? fun member =>
    if numberOfKey? member.1 = some number then Shop.ofJson? member.2 else none

/-- Members go over what is there before them, and later ones over earlier ones. -/
theorem get?_foldlM {members : List (String × Json)} {front whole : Directory}
    (read : members.foldlM (fun directory member => do
      let number ← numberOfKey? member.1
      let shop ← Shop.ofJson? member.2
      some (directory.put number shop)) front = some whole) (number : Int) :
    whole.get? number = (shopUnder? members number).or (front.get? number) := by
  induction members generalizing front with
  | nil =>
    cases read
    rfl
  | cons member rest inductionHypothesis =>
    obtain ⟨next, first, others⟩ := Option.bind_eq_some_iff.mp read
    obtain ⟨spelled, key, taken⟩ := Option.bind_eq_some_iff.mp first
    obtain ⟨shop, value, put⟩ := Option.bind_eq_some_iff.mp taken
    cases put
    rw [inductionHypothesis others, get?_put, shopUnder?, shopUnder?, List.reverse_cons,
      List.findSome?_append, Option.or_assoc]
    refine congrArg _ ?_
    by_cases here : number = spelled
    · subst here
      simp [key, value]
    · have other : numberOfKey? member.1 ≠ some number := fun same =>
        here (Option.some.inj (same.symm.trans key))
      simp [other, here]

/-- Under each number stands the shop of the last member whose key spells it, whatever its id. -/
theorem get?_of_text {text : String} {directory : Directory}
    (read : ofText? text = some directory) :
    ∃ members, membersOf? text = some members ∧
      ∀ number, directory.get? number = shopUnder? members number := by
  obtain ⟨json, parsed, taken⟩ := Option.bind_eq_some_iff.mp read
  obtain ⟨fields, named, required⟩ := Option.bind_eq_some_iff.mp taken
  obtain ⟨value, there, shops⟩ := Option.bind_eq_some_iff.mp required
  cases value with
  | obj members =>
    refine ⟨members, bind_some parsed (bind_some named (bind_some there rfl)), fun number => ?_⟩
    rw [get?_foldlM shops, get?_empty, Option.or_none]
  | _ => cases shops

/-- Each shop stands under its own id in a directory that shops were added to. In one that is read
from a text it does just if, for each number, the last member whose key spells it holds the shop
with that id. Of any directory this says that the numbers are the ids of the shops in their order,
and that adding these in their order turns none away and gives the directory back. -/
theorem keyed_by_origin (shops : List Shop) (text : String) :
    (ofShops shops).Keyed ∧
      (∀ directory, ofText? text = some directory →
        ∃ members, membersOf? text = some members ∧
          (directory.Keyed ↔
            ∀ number shop, shopUnder? members number = some shop → shop.id = number)) ∧
      ∀ directory : Directory,
        (directory.Keyed ↔ directory.ids = directory.shops.map Shop.id) ∧
          (directory.Keyed ↔ directory.shops.foldlM add? empty = some directory) := by
  refine ⟨keyed_ofShops shops, fun directory read => ?_,
    fun directory => ⟨keyed_iff_ids, keyed_iff_rebuilt⟩⟩
  obtain ⟨members, found, under⟩ := get?_of_text read
  refine ⟨members, found, forall₂_congr fun number shop => ?_⟩
  rw [under number]

/-- Two shops, neither under its own id. -/
def misplaced : Directory := (empty.put 1 ⟨5, []⟩).put 2 ⟨3, []⟩

theorem inRange_misplaced : misplaced.InRange := by
  show ∀ entry ∈ [((1 : Int), (⟨5, []⟩ : Shop)), (2, ⟨3, []⟩)], _
  decide

/-- A text that lists them. -/
def misplacedText : String :=
  "\x7b\"shops\":\x7b\"1\":\x7b\"id\":5,\"items\":[]\x7d," ++
    "\"2\":\x7b\"id\":3,\"items\":[]\x7d\x7d\x7d"

theorem ofText?_misplacedText : ofText? misplacedText = some misplaced := by
  have text : misplaced.text = misplacedText := by decide +kernel
  exact text ▸ ofText?_text inRange_misplaced

/-- The text is accepted, though the shops are neither under their ids nor in their order. -/
theorem not_keyed_of_text :
    ofText? misplacedText = some misplaced ∧ misplaced.get? 1 = some ⟨5, []⟩ ∧
      misplaced.ids = [1, 2] ∧ misplaced.shops.map Shop.id = [5, 3] ∧
        misplaced.shops.foldlM add? empty ≠ some misplaced := by
  refine ⟨ofText?_misplacedText, rfl, rfl, rfl, fun rebuilt => ?_⟩
  have own : (5 : Int) = 1 := keyed_iff_rebuilt.mpr rebuilt 1 ⟨5, []⟩ rfl
  cases own

/-- The members of the text do not hold the shops that their keys name. -/
theorem keyed_by_origin_misplaced :
    ∃ members, membersOf? misplacedText = some members ∧
      ¬ ∀ number shop, shopUnder? members number = some shop → shop.id = number := by
  obtain ⟨members, found, keyed⟩ :=
    (keyed_by_origin [] misplacedText).2.1 misplaced ofText?_misplacedText
  refine ⟨members, found, fun all => ?_⟩
  have own : (5 : Int) = 1 := keyed.mpr all 1 ⟨5, []⟩ rfl
  cases own

end Directory

end Stock

end Storefront
