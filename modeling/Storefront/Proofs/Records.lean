import Mathlib.Data.List.Nodup
import Storefront.Proofs.JsonText

/-!
Taking apart what was put together. The fields of an object with different keys that need no escapes
are the values of its members, and the kind of a variant is the one that was put in front of them.
-/

namespace Storefront.Json

variable {α β : Type}

/-! ### Plain values -/

@[simp] theorem isPlain_str (text : String) : (Json.str text).isPlain = true := rfl

@[simp] theorem isPlain_bool (value : Bool) : (Json.bool value).isPlain = true := rfl

@[simp] theorem isPlain_int (value : Int) : (Json.int value).isPlain = fitsInt value := rfl

theorem isPlain_cons {item : Json} {rest : List Json} (first : item.isPlain = true)
    (others : (Json.arr rest).isPlain = true) : (Json.arr (item :: rest)).isPlain = true :=
  Bool.and_eq_true_iff.mpr ⟨first, others⟩

/-- An object is plain when its keys need no escapes and its values are plain. -/
theorem isPlain_obj {members : List (String × Json)} (keys : List String)
    (named : members.map Prod.fst = keys) (plainKeys : keys.all isPlainKey = true)
    (values : ∀ value ∈ members.map Prod.snd, value.isPlain = true) :
    (Json.obj members).isPlain = true := by
  show membersPlain members = true
  subst named
  induction members with
  | nil => rfl
  | cons entry rest inductionHypothesis =>
    obtain ⟨plainKey, restKeys⟩ := Bool.and_eq_true_iff.mp plainKeys
    obtain ⟨plain, restValues⟩ := List.forall_mem_cons.mp values
    rw [membersPlain, plainKey, plain, inductionHypothesis restValues restKeys]
    rfl

theorem isPlain_map {write : α → Json} : {values : List α} →
    (∀ value ∈ values, (write value).isPlain = true) →
    (Json.arr (values.map write)).isPlain = true
  | [], _ => rfl
  | _ :: _, plain => by
    obtain ⟨first, others⟩ := List.forall_mem_cons.mp plain
    exact isPlain_cons first (isPlain_map others)

theorem membersPlain_append (front rest : List (String × Json)) :
    membersPlain (front ++ rest) = (membersPlain front && membersPlain rest) := by
  induction front with
  | nil => rfl
  | cons entry others inductionHypothesis =>
    simp only [List.cons_append, membersPlain, inductionHypothesis, Bool.and_assoc]

/-! ### What can be read -/

mutual

/-- Everything in a plain value can be read. -/
theorem isReadable_of_plain : (json : Json) → json.isPlain = true → json.isReadable = true
  | .null, _ | .bool _, _ | .int _, _ | .str _, _ => rfl
  | .float _, plain | .unreadable, plain => nomatch plain
  | .arr items, plain => itemsReadable_of_plain items plain
  | .obj members, plain => membersReadable_of_plain members plain

theorem itemsReadable_of_plain : (items : List Json) → itemsPlain items = true →
    itemsReadable items = true
  | [], _ => rfl
  | item :: rest, plain => by
    obtain ⟨isPlain, restPlain⟩ := Bool.and_eq_true_iff.mp plain
    rw [itemsReadable, isReadable_of_plain item isPlain, itemsReadable_of_plain rest restPlain]
    rfl

theorem membersReadable_of_plain : (members : List (String × Json)) →
    membersPlain members = true → membersReadable members = true
  | [], _ => rfl
  | (key, value) :: rest, plain => by
    obtain ⟨both, restPlain⟩ := Bool.and_eq_true_iff.mp plain
    obtain ⟨plainKey, isPlain⟩ := Bool.and_eq_true_iff.mp both
    rw [membersReadable, unspell?_of_plain plainKey, isReadable_of_plain value isPlain,
      membersReadable_of_plain rest restPlain]
    rfl

end

/-! ### Records -/

/-- Whether keys are all different and need no escapes. -/
def areFieldKeys (keys : List String) : Bool := decide keys.Nodup && keys.all isPlainKey

variable {members : List (String × Json)} {keys : List String}

theorem readKeys?_eq (named : members.map Prod.fst = keys) (plain : keys.all isPlainKey = true) :
    readKeys? members = some members := by
  subst named
  induction members with
  | nil => rfl
  | cons entry rest inductionHypothesis =>
    obtain ⟨plainKey, restPlain⟩ := Bool.and_eq_true_iff.mp plain
    have again : rest.mapM (fun entry => (unspell? entry.1).map fun key => (key, entry.2)) =
      some rest := inductionHypothesis restPlain
    rw [readKeys?, List.mapM_cons, unspell?_of_plain plainKey, again]
    rfl

/-- No key of a record stands twice. -/
theorem onlyMember?_eq (distinct : (members.map Prod.fst).Nodup) (key : String) :
    onlyMember? members key = some (members.lookup key) := by
  induction members with
  | nil => rfl
  | cons entry rest inductionHypothesis =>
    obtain ⟨first, value⟩ := entry
    obtain ⟨fresh, restDistinct⟩ := List.nodup_cons.mp distinct
    by_cases same : first = key
    · subst same
      have noOther : rest.filter (fun other => other.1 == first) = [] := by
        refine List.filter_eq_nil_iff.mpr fun other member isSame => fresh ?_
        exact List.mem_map.mpr ⟨other, member, beq_iff_eq.mp isSame⟩
      rw [onlyMember?, List.filter_cons, if_pos (beq_self_eq_true first), noOther,
        List.lookup_cons_self]
    · have other : ¬ (first == key) = true := fun isSame => same (beq_iff_eq.mp isSame)
      have differs : (key == first) = false := beq_eq_false_iff_ne.mpr (Ne.symm same)
      rw [onlyMember?, List.filter_cons, if_neg other, List.lookup_cons, differs]
      exact inductionHypothesis restDistinct

theorem lookup_zip_map (names : List String) (valueOf : String → Option Json) (name : String) :
    ((names.zip (names.map valueOf)).lookup name).join =
      if name ∈ names then valueOf name else none := by
  induction names with
  | nil => rfl
  | cons first rest inductionHypothesis =>
    rw [List.map_cons, List.zip_cons_cons]
    by_cases same : name = first
    · subst same
      rw [List.lookup_cons_self, if_pos List.mem_cons_self]
      rfl
    · have differs : (name == first) = false := beq_eq_false_iff_ne.mpr same
      rw [List.lookup_cons, differs]
      simp only [List.mem_cons, same, false_or]
      exact inductionHypothesis

/-- The values of the named members. -/
def fieldsOf (names : List String) (members : List (String × Json)) : Fields :=
  fun name => if name ∈ names then members.lookup name else none

/-- The fields of an object are the values of its members. -/
theorem fields?_obj (keys names : List String) (named : members.map Prod.fst = keys)
    (good : areFieldKeys keys = true) :
    (obj members).fields? names = some (fieldsOf names members) := by
  obtain ⟨distinct, plain⟩ := Bool.and_eq_true_iff.mp good
  have only : onlyMember? members = fun key => some (members.lookup key) :=
    funext (onlyMember?_eq (named ▸ of_decide_eq_true distinct))
  have values : names.mapM (onlyMember? members) =
      some (names.map fun key => members.lookup key) := by
    rw [only]
    exact List.mapM_pure
  have read := readKeys?_eq named plain
  rw [fields?, read]
  show (names.mapM (onlyMember? members) >>= _) = _
  rw [values]
  exact congrArg some (funext fun name => lookup_zip_map names _ name)

/-! ### Fields and lists -/

theorem bind_some {found? : Option α} {next : α → Option β} {value : α} {whole : β}
    (found : found? = some value) (continued : next value = some whole) :
    (found? >>= next) = some whole := by
  rw [found]
  exact continued

theorem asInt?_int {value : Int} (fits : fitsInt value = true) :
    asInt? (.int value) = some value := if_pos fits

/-- A field that is there is read. -/
theorem required?_present {fields : Fields} {name : String} {take : Json → Option α} {json : Json}
    {value : α} (there : fields name = some json) (taken : take json = some value) :
    fields.required? name take = some value := bind_some there taken

/-- A field that is there and not `null` is read. -/
theorem optional?_present {fields : Fields} {name : String} {take : Json → Option α} {json : Json}
    {value : α} (there : fields name = some json) (noNull : json ≠ .null)
    (taken : take json = some value) : fields.optional? name take = some (some value) := by
  unfold Fields.optional?
  rw [there]
  split
  · next absent => cases absent
  · next isNull => exact absurd (Option.some.inj isNull) noNull
  · next found => rw [← Option.some.inj found, taken]; rfl

theorem asList?_nil {take : Json → Option α} : asList? take (.arr []) = some [] := rfl

theorem asList?_cons {take : Json → Option α} {item : Json} {items : List Json} {value : α}
    {values : List α} (first : take item = some value)
    (others : asList? take (.arr items) = some values) :
    asList? take (.arr (item :: items)) = some (value :: values) := by
  rw [asList?, List.mapM_cons]
  exact bind_some first (bind_some others rfl)

/-- A list is read when each of its items is. -/
theorem asList?_map {write : α → Json} {take : Json → Option α} : {values : List α} →
    (∀ value ∈ values, take (write value) = some value) →
    asList? take (.arr (values.map write)) = some values
  | [], _ => asList?_nil
  | _ :: _, reads => by
    obtain ⟨first, others⟩ := List.forall_mem_cons.mp reads
    exact asList?_cons first (asList?_map others)

/-! ### Variants -/

/-- The kind of a variant, and its members. -/
theorem variant?_obj (keys : List String) {kinds : List String} {kind : String} (within : Bool)
    (named : members.map Prod.fst = keys) (good : areFieldKeys ("kind" :: keys) = true)
    (isKind : kinds.contains kind = true) :
    (obj (("kind", .str kind) :: members)).variant? within kinds = some (kind, obj members) := by
  obtain ⟨distinct, plain⟩ := Bool.and_eq_true_iff.mp good
  have namedAll : (("kind", Json.str kind) :: members).map Prod.fst = "kind" :: keys := by
    rw [List.map_cons, named]
  have read := readKeys?_eq namedAll plain
  have kindIs := onlyMember?_eq (namedAll ▸ of_decide_eq_true distinct) "kind"
  rw [List.lookup_cons_self] at kindIs
  have isNamed : asKind? within kinds (.str kind) = some kind := if_pos isKind
  have others : (((("kind", Json.str kind) :: members).zip (("kind", .str kind) :: members)).filter
      fun entry => entry.2.1 != "kind").map (·.1) = members := by
    have kept : ((members.zip members).filter fun entry => entry.2.1 != "kind") =
        members.zip members := by
      refine List.filter_eq_self.mpr fun entry member => bne_iff_ne.mpr fun same => ?_
      have fresh := (List.nodup_cons.mp (of_decide_eq_true distinct)).1
      exact fresh (named ▸ List.mem_map.mpr ⟨entry.2, (List.of_mem_zip member).2, same⟩)
    rw [List.zip_cons_cons, List.filter_cons, if_neg fun differs => bne_iff_ne.mp differs rfl, kept]
    exact List.map_fst_zip (Nat.le_refl _)
  rw [variant?, read]
  show (onlyMember? _ "kind" >>= _) = _
  rw [kindIs]
  show (asKind? within kinds (.str kind) >>= _) = _
  rw [isNamed]
  exact congrArg (fun rest => some (kind, obj rest)) others

end Storefront.Json
