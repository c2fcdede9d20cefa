import Storefront.Proofs.JsonText

/-!
Texts of values with blanks between their parts. A value in one line has none; an indented one has
a line break in front of every item and of what closes the list, and two blanks for each level. Both
are one text with its layout left open, and whatever the layout is, a plain value is what that text
is read as.
-/

namespace Storefront.Json

/-! ### Layouts -/

/-- The blanks between the parts of a value: in front of items and of what closes them, by how deep
these stand, and after a colon. -/
structure Layout where
  gap : Nat → List Char
  afterColon : List Char
  gapBlank : ∀ level, (gap level).all isGap = true
  afterColonBlank : afterColon.all isGap = true

theorem toList_pushn (text : String) (c : Char) (count : Nat) :
    (text.pushn c count).toList = text.toList ++ List.replicate count c := by
  induction count with
  | zero => exact (List.append_nil _).symm
  | succ count inductionHypothesis =>
    have more : text.pushn c (count + 1) = (text.pushn c count).push c := rfl
    rw [more, String.toList_push, inductionHypothesis, List.replicate_succ', List.append_assoc]

/-- Texts are joined by putting what separates them in front of each but the first. -/
theorem intercalate_map_toList (separator first : List Char) (others : List String) :
    separator.intercalate (first :: others.map String.toList) =
      first ++ others.flatMap fun text => separator ++ text.toList := by
  induction others generalizing first with
  | nil => simp
  | cons next others inductionHypothesis =>
    rw [List.map_cons, List.intercalate_cons_cons, inductionHypothesis, List.flatMap_cons,
      List.append_assoc, List.append_assoc]

namespace Layout

/-- No blanks at all. -/
def oneLine : Layout := ⟨fun _ => [], [], fun _ => rfl, rfl⟩

/-- A line for each item, behind two blanks for each level. -/
def indentation : Layout where
  gap level := (lineBreak level).toList
  afterColon := [' ']
  gapBlank level := by
    rw [lineBreak, toList_pushn, List.all_append, List.all_replicate]
    split <;> rfl
  afterColonBlank := rfl

mutual

/-- The characters of a value, in front of more text. -/
def value (layout : Layout) (level : Nat) : Json → List Char → List Char
  | arr [], rest => '[' :: ']' :: rest
  | arr (item :: others), rest => '[' :: layout.items level [] (item :: others) rest
  | obj [], rest => '\x7b' :: '\x7d' :: rest
  | obj (member :: others), rest => '\x7b' :: layout.members level [] (member :: others) rest
  | single, rest => single.compact.toList ++ rest

/-- The characters of items and of what closes the list, behind what separates them from an item
before them. -/
def items (layout : Layout) (level : Nat) (separator : List Char) :
    List Json → List Char → List Char
  | [], rest => layout.gap level ++ ']' :: rest
  | item :: others, rest => separator ++ (layout.gap (level + 1) ++
      layout.value (level + 1) item (layout.items level [','] others rest))

/-- The characters of members and of what closes the object, behind what separates them from a
member before them. -/
def members (layout : Layout) (level : Nat) (separator : List Char) :
    List (String × Json) → List Char → List Char
  | [], rest => layout.gap level ++ '\x7d' :: rest
  | (key, json) :: others, rest => separator ++ (layout.gap (level + 1) ++
      memberText key (layout.afterColon ++
        layout.value (level + 1) json (layout.members level [','] others rest)))

end

variable {layout : Layout} {level : Nat}

/-! ### Reading -/

/-- A value starts with no blank, and not with what closes a list. -/
theorem value_starts {json : Json} (plain : json.isPlain = true) (rest : List Char) :
    ∃ c more, layout.value level json rest = c :: more ∧ isGap c = false ∧ c ≠ ']' := by
  cases json with
  | null => exact ⟨'n', 'u' :: 'l' :: 'l' :: rest, rfl, by decide, by decide⟩
  | bool value =>
    cases value with
    | true => exact ⟨'t', 'r' :: 'u' :: 'e' :: rest, rfl, by decide, by decide⟩
    | false => exact ⟨'f', 'a' :: 'l' :: 's' :: 'e' :: rest, rfl, by decide, by decide⟩
  | int value =>
    obtain ⟨c, more, start, starts⟩ := toString_starts value
    exact ⟨c, more ++ rest, congrArg (· ++ rest) start, noGap_of_number starts⟩
  | str value =>
    exact ⟨'"', _, congrArg (· ++ rest) (quote_toList value), by decide, by decide⟩
  | arr items =>
    cases items with
    | nil => exact ⟨'[', _, rfl, by decide, by decide⟩
    | cons item others => exact ⟨'[', _, rfl, by decide, by decide⟩
  | obj members =>
    cases members with
    | nil => exact ⟨'\x7b', _, rfl, by decide, by decide⟩
    | cons entry others => exact ⟨'\x7b', _, rfl, by decide, by decide⟩
  | float => cases plain
  | unreadable => cases plain

/-- Whatever stands behind an item ends it. -/
theorem closes_items (layout : Layout) (level : Nat) (others : List Json) (rest : List Char) :
    Closes (layout.items level [','] others rest) := by
  cases others with
  | nil => exact .afterGap (layout.gapBlank level) (.cons (by decide) rest)
  | cons item others => exact .cons (by decide) _

/-- Whatever stands behind a member ends it. -/
theorem closes_members (layout : Layout) (level : Nat) (others : List (String × Json))
    (rest : List Char) : Closes (layout.members level [','] others rest) := by
  cases others with
  | nil => exact .afterGap (layout.gapBlank level) (.cons (by decide) rest)
  | cons entry others => exact .cons (by decide) _

/-- What stands behind a gap is found after it, if it starts with no blank. -/
theorem skipGap_gap {c : Char} (noGap : isGap c = false) (more : List Char) :
    skipGap (layout.gap level ++ c :: more) = c :: more := by
  rw [skipGap_append (layout.gapBlank level), skipGap_cons noGap]

/-- One or more items do not start with what closes the list. -/
theorem readItems_items {item : Json} (plain : item.isPlain = true) (others : List Json)
    (rest : List Char) : readItems (layout.items level [] (item :: others) rest) =
      readMoreItems (layout.items level [] (item :: others) rest) := by
  obtain ⟨c, more, start, noGap, noClose⟩ := value_starts plain
    (layout.items level [','] others rest)
  refine readItems_of_starts (?_ : _ = c :: more) noClose
  rw [items, List.nil_append, start, skipGap_gap noGap]

mutual

/-- A plain value is what its text is read as, and what closes it is left. -/
theorem finds_value (layout : Layout) : (json : Json) → json.isPlain = true → ∀ level rest,
    Closes rest → Finds (readValue (layout.value level json rest)) json rest
  | .null, _, _, rest, _ => finds_null rest
  | .bool true, _, _, rest, _ => finds_true rest
  | .bool false, _, _, rest, _ => finds_false rest
  | .int _, plain, _, _, closes => finds_int plain closes
  | .float _, plain, _, _, _ => nomatch plain
  | .str value, _, _, rest, _ => finds_string value rest
  | .arr [], _, _, rest, _ => by
    obtain ⟨fewer, closes⟩ := finds_readMark (skipGap_cons (by decide : isGap ']' = false) rest)
    refine finds_list ?_
    rw [readItems, closes]
    exact Finds.some _
  | .arr (item :: others), plain, level, rest, _ => by
    refine finds_list ?_
    rw [readItems_items (Bool.and_eq_true_iff.mp plain).1]
    exact finds_items layout (item :: others) plain (List.cons_ne_nil _ _) level rest
  | .obj [], _, _, rest, _ => by
    obtain ⟨fewer, closes⟩ := finds_readMark (skipGap_cons (by decide : isGap '\x7d' = false) rest)
    refine finds_object ?_
    rw [readMembers, closes]
    exact Finds.some _
  | .obj (member :: others), plain, level, rest, _ => by
    refine finds_object ?_
    have start : skipGap (layout.members level [] (member :: others) rest) = _ :=
      skipGap_gap (by decide) _
    rw [readMembers_of_starts start (by decide)]
    exact finds_members layout (member :: others) plain (List.cons_ne_nil _ _) level rest
  | .unreadable, plain, _, _, _ => nomatch plain

/-- The characters of one or more items are read up to the closing bracket. -/
theorem finds_items (layout : Layout) : (items : List Json) → itemsPlain items = true →
    items ≠ [] → ∀ level rest,
    Finds (readMoreItems (layout.items level [] items rest)) items rest
  | [], _, nonempty, _, _ => absurd rfl nonempty
  | [item], plain, _, level, rest => by
    have found := finds_value layout item (Bool.and_eq_true_iff.mp plain).1 (level + 1) _
      (closes_items layout level [] rest)
    exact finds_lastItem (finds_afterGap (layout.gapBlank (level + 1)) found)
      (skipGap_gap (by decide) rest)
  | item :: next :: others, plain, _, level, rest => by
    obtain ⟨isPlain, othersPlain⟩ := Bool.and_eq_true_iff.mp plain
    have found := finds_value layout item isPlain (level + 1) _
      (closes_items layout level (next :: others) rest)
    exact finds_nextItem (finds_afterGap (layout.gapBlank (level + 1)) found)
      (finds_items layout (next :: others) othersPlain (List.cons_ne_nil _ _) level rest)

/-- The characters of one or more members are read up to the closing brace. -/
theorem finds_members (layout : Layout) : (members : List (String × Json)) →
    membersPlain members = true → members ≠ [] → ∀ level rest,
    Finds (readMoreMembers (layout.members level [] members rest)) members rest
  | [], _, nonempty, _, _ => absurd rfl nonempty
  | [(key, json)], plain, _, level, rest => by
    obtain ⟨both, -⟩ := Bool.and_eq_true_iff.mp plain
    obtain ⟨plainKey, isPlain⟩ := Bool.and_eq_true_iff.mp both
    have found := finds_value layout json isPlain (level + 1) _
      (closes_members layout level [] rest)
    exact finds_lastMember plainKey (skipGap_gap (by decide) _)
      (finds_afterGap layout.afterColonBlank found) (skipGap_gap (by decide) rest)
  | (key, json) :: next :: others, plain, _, level, rest => by
    obtain ⟨both, othersPlain⟩ := Bool.and_eq_true_iff.mp plain
    obtain ⟨plainKey, isPlain⟩ := Bool.and_eq_true_iff.mp both
    have found := finds_value layout json isPlain (level + 1) _
      (closes_members layout level (next :: others) rest)
    exact finds_nextMember plainKey (skipGap_gap (by decide) _)
      (finds_afterGap layout.afterColonBlank found)
      (finds_members layout (next :: others) othersPlain (List.cons_ne_nil _ _) level rest)

end

/-- A text that has the characters of a plain value, and blanks behind them, is read as it. -/
theorem parse?_value (layout : Layout) (gap : List Char) (blank : gap.all isGap = true)
    {json : Json} (plain : json.isPlain = true) {text : String}
    (characters : text.toList = layout.value 0 json gap) : parse? text = some json := by
  have closes : Closes gap := List.append_nil gap ▸ Closes.nil.afterGap blank
  obtain ⟨fewer, succeeds⟩ := finds_value layout json plain 0 gap closes
  have noMore : skipGap gap = [] := by
    rw [← List.append_nil gap, skipGap_append blank]
    rfl
  have whole : Finds (readValue text.toList) json gap := characters ▸ ⟨fewer, succeeds⟩
  obtain ⟨_, isWhole⟩ := whole
  unfold parse?
  rw [isWhole]
  exact if_pos (by rw [noMore]; rfl)

/-! ### Values in one line -/

mutual

theorem compact_toList : (json : Json) → ∀ level rest,
    json.compact.toList ++ rest = oneLine.value level json rest
  | .null, _, _ | .bool _, _, _ | .int _, _, _ | .float _, _, _ | .str _, _, _
  | .unreadable, _, _ => rfl
  | .arr [], _, _ | .obj [], _, _ => rfl
  | .arr (item :: others), level, rest => by
    rw [value, items, ← compact_toList item, ← compactItems_toList others]
    simp [compact, compactItems, intercalate_map_toList, oneLine]
  | .obj ((key, json) :: others), level, rest => by
    rw [value, members, ← compact_toList json, ← compactMembers_toList others]
    simp [compact, compactMembers, intercalate_map_toList, memberText, oneLine]

theorem compactItems_toList : (others : List Json) → ∀ level rest,
    ((compactItems others).flatMap fun text => ",".toList ++ text.toList) ++ ']' :: rest =
      oneLine.items level [','] others rest
  | [], _, _ => rfl
  | item :: others, level, rest => by
    rw [items, ← compact_toList item, ← compactItems_toList others]
    simp [compactItems, oneLine]

theorem compactMembers_toList : (others : List (String × Json)) → ∀ level rest,
    ((compactMembers others).flatMap fun text => ",".toList ++ text.toList) ++ '\x7d' :: rest =
      oneLine.members level [','] others rest
  | [], _, _ => rfl
  | (key, json) :: others, level, rest => by
    rw [members, ← compact_toList json, ← compactMembers_toList others]
    simp [compactMembers, memberText, oneLine]

end

/-! ### Indented values -/

mutual

theorem indented_toList : (json : Json) → ∀ level rest,
    (json.indented level).toList ++ rest = indentation.value level json rest
  | .null, _, _ | .bool _, _, _ | .int _, _, _ | .float _, _, _ | .str _, _, _
  | .unreadable, _, _ => rfl
  | .arr [], _, _ => by simp [indented, indentedItems, bracketed, value]
  | .obj [], _, _ => by simp [indented, indentedMembers, bracketed, value]
  | .arr (item :: others), level, rest => by
    rw [value, items, ← indented_toList item, ← indentedItems_toList others]
    simp [indented, indentedItems, bracketed, intercalate_map_toList, indentation]
  | .obj ((key, json) :: others), level, rest => by
    rw [value, members, ← indented_toList json, ← indentedMembers_toList others]
    simp [indented, indentedMembers, bracketed, intercalate_map_toList, memberText, indentation]

theorem indentedItems_toList : (others : List Json) → ∀ level rest,
    ((indentedItems level others).flatMap fun text =>
        ("," ++ lineBreak (level + 1)).toList ++ text.toList) ++
      ((lineBreak level).toList ++ ']' :: rest) = indentation.items level [','] others rest
  | [], _, _ => rfl
  | item :: others, level, rest => by
    rw [items, ← indented_toList item, ← indentedItems_toList others]
    simp [indentedItems, indentation]

theorem indentedMembers_toList : (others : List (String × Json)) → ∀ level rest,
    ((indentedMembers level others).flatMap fun text =>
        ("," ++ lineBreak (level + 1)).toList ++ text.toList) ++
      ((lineBreak level).toList ++ '\x7d' :: rest) = indentation.members level [','] others rest
  | [], _, _ => rfl
  | (key, json) :: others, level, rest => by
    rw [members, ← indented_toList json, ← indentedMembers_toList others]
    simp [indentedMembers, memberText, indentation]

end

end Layout

/-- A plain value is what its text in one line is read as. -/
theorem parse?_compact {json : Json} (plain : json.isPlain = true) :
    parse? json.compact = some json := by
  refine Layout.parse?_value .oneLine [] rfl plain ?_
  rw [← Layout.compact_toList, List.append_nil]

/-- A plain value is what its indented text is read as, with the line break that ends it. -/
theorem parse?_indented {json : Json} (plain : json.isPlain = true) :
    parse? (json.indented 0 ++ "\n") = some json := by
  refine Layout.parse?_value .indentation ['\n'] (by decide) plain ?_
  rw [← Layout.indented_toList, String.toList_append]
  rfl

end Storefront.Json
