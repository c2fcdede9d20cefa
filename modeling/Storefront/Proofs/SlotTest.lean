import Mathlib
import Storefront.Proofs.Meaning
import Storefront.Proofs.TableOrder
import Storefront.Survey.Walk

/-!
The test for an item in a slot of the inventory. The pattern of the test compiles, and it matches
exactly the comparisons of the type of a slot of the local player with a whole number, where the
slot is given by a bare name. A match brings back the name and then the number.

No guard of the built-in table matches such a test, so a test is never understood as a guard.
-/

namespace Storefront.Pattern

open Storefront.Script

variable {expr : Expr} {part : Part} {captures : List Part}

/-! ### Nodes with one part or two -/

theorem matchPart_node_eq_some_iff {kind : String} {children : List Pattern}
    (structural : valueKinds.contains kind = false) :
    (node kind children).matchPart part = some captures ↔
      ∃ expr, part = .expr expr ∧ expr.kind = kind ∧
        matchParts children expr.parts = some captures := by
  rw [matchPart_node, matchNode.eq_def]
  cases part with
  | name name => simp
  | expr expr =>
    by_cases same : expr.kind = kind
    · simp only [matchChildren, same, structural, if_true, Bool.false_eq_true, if_false]
      simp [same]
    · simp [same]

theorem matchParts_single_eq_some_iff {only : Pattern} {parts : List Part}
    (single : only.takesRest = false) :
    matchParts [only] parts = some captures ↔
      ∃ part, parts = [part] ∧ only.matchPart part = some captures := by
  rcases parts with _ | ⟨part, _ | ⟨other, rest⟩⟩ <;>
    simp [matchParts, single, joined_eq_some_iff]

/-- Two patterns match two parts, and capture one after the other. -/
theorem matchParts_pair_eq_some_iff {first second : Pattern} {parts : List Part}
    (firstSingle : first.takesRest = false) (secondSingle : second.takesRest = false) :
    matchParts [first, second] parts = some captures ↔
      ∃ part other found later, parts = [part, other] ∧ first.matchPart part = some found ∧
        second.matchPart other = some later ∧ captures = found ++ later := by
  cases parts with
  | nil => simp [matchParts, firstSingle]
  | cons part rest =>
    rw [matchParts, if_neg (Bool.eq_false_iff.mp firstSingle), joined_eq_some_iff]
    simp only [matchParts_single_eq_some_iff secondSingle]
    constructor
    · rintro ⟨found, later, matched, ⟨other, rfl, matchedOther⟩, rfl⟩
      exact ⟨part, other, found, later, rfl, matched, matchedOther, rfl⟩
    · rintro ⟨_, other, found, later, same, matched, matchedOther, rfl⟩
      obtain ⟨rfl, rfl⟩ := List.cons.inj same
      exact ⟨found, later, matched, ⟨other, rfl, matchedOther⟩, rfl⟩

/-- The forms of expressions of the kinds that the pattern of a test names. -/
structure Forms (expr : Expr) : Prop where
  ident : expr.kind = "ident" → ∃ name, expr = .ident name
  int : expr.kind = "int" → ∃ value, expr = .int value
  member : expr.kind = "member" → ∃ target name, expr = .member target name
  index : expr.kind = "index" → ∃ target args, expr = .index target args
  eq : expr.kind = "eq" → ∃ left right, expr = .binary .eq left right

/-- A kind names one form of expressions. -/
theorem forms (expr : Expr) : Forms expr := by
  cases expr with
  | bool value => cases value <;> constructor <;> simp [Expr.kind]
  | unary op operand => cases op <;> constructor <;> simp [Expr.kind, UnaryOp.name]
  | binary op left right => cases op <;> constructor <;> simp [Expr.kind, BinaryOp.name]
  | assign op target value => cases op <;> constructor <;> simp [Expr.kind]
  | _ => constructor <;> simp [Expr.kind]

theorem matchPart_symbol_eq_some_iff {name : String} :
    (symbol name).matchPart part = some captures ↔ part = .name name ∧ captures = [] := by
  rw [faithful, Means]

theorem matchPart_wildcard_eq_some_iff :
    wildcard.matchPart part = some captures ↔ captures = [] := by
  rw [faithful, Means]

theorem matchPart_capture_eq_some_iff {inner : Pattern} :
    (capture inner).matchPart part = some captures ↔
      ∃ found, inner.matchPart part = some found ∧ captures = part :: found := by
  rw [matchPart_capture, Option.map_eq_some_iff]
  exact exists_congr fun found => and_congr_right fun _ => eq_comm

/-- The pattern of a bare name. -/
theorem matchPart_ident_eq_some_iff {only : Pattern} (single : only.takesRest = false) :
    (node "ident" [only]).matchPart part = some captures ↔
      ∃ name, part = .expr (.ident name) ∧ only.matchPart (.name name) = some captures := by
  rw [matchPart_node_eq_some_iff rfl]
  simp only [matchParts_single_eq_some_iff single]
  constructor
  · rintro ⟨expr, rfl, same, part, parts, matched⟩
    obtain ⟨name, rfl⟩ := (forms expr).ident same
    cases parts
    exact ⟨name, rfl, matched⟩
  · rintro ⟨name, rfl, matched⟩
    exact ⟨.ident name, rfl, rfl, .name name, rfl, matched⟩

/-- The pattern of any whole number. -/
theorem matchPart_int_eq_some_iff :
    (node "int" [wildcard]).matchPart part = some captures ↔
      ∃ value, part = .expr (.int value) ∧ captures = [] := by
  have value : valueKinds.contains "int" = true := rfl
  rw [faithful, Means]
  simp only [value, if_true]
  constructor
  · rintro ⟨expr, rfl, same, ⟨⟨⟩, _⟩ | ⟨only, ⟨⟩, means⟩⟩
    obtain ⟨value, rfl⟩ := (forms expr).int same
    rw [Means] at means
    exact ⟨value, rfl, means⟩
  · rintro ⟨value, rfl, rfl⟩
    refine ⟨.int value, rfl, rfl, Or.inr ⟨wildcard, rfl, ?_⟩⟩
    rw [Means]

/-- The pattern of a part with a name. -/
theorem matchPart_member_eq_some_iff {target : Pattern} {name : String}
    (single : target.takesRest = false) :
    (node "member" [target, symbol name]).matchPart part = some captures ↔
      ∃ inner, part = .expr (.member inner name) ∧
        target.matchPart (.expr inner) = some captures := by
  rw [matchPart_node_eq_some_iff rfl]
  have named : (symbol name).takesRest = false := rfl
  simp only [matchParts_pair_eq_some_iff single named, matchPart_symbol_eq_some_iff]
  constructor
  · rintro ⟨expr, rfl, same, _, _, found, _, parts, matched, ⟨rfl, rfl⟩, rfl⟩
    obtain ⟨inner, found, rfl⟩ := (forms expr).member same
    cases parts
    exact ⟨inner, rfl, (List.append_nil _).symm ▸ matched⟩
  · rintro ⟨inner, rfl, matched⟩
    exact ⟨.member inner name, rfl, rfl, .expr inner, .name name, captures, [], rfl, matched,
      ⟨rfl, rfl⟩, (List.append_nil captures).symm⟩

/-- The pattern of an element at one place. -/
theorem matchPart_index_eq_some_iff {target place : Pattern}
    (targetSingle : target.takesRest = false) (placeSingle : place.takesRest = false) :
    (node "index" [target, place]).matchPart part = some captures ↔
      ∃ inner arg found later, part = .expr (.index inner [arg]) ∧
        target.matchPart (.expr inner) = some found ∧
        place.matchPart (.expr arg) = some later ∧ captures = found ++ later := by
  rw [matchPart_node_eq_some_iff rfl]
  simp only [matchParts_pair_eq_some_iff targetSingle placeSingle]
  constructor
  · rintro ⟨expr, rfl, same, _, other, found, later, parts, matched, matchedPlace, rfl⟩
    obtain ⟨inner, args, rfl⟩ := (forms expr).index same
    obtain ⟨rfl, argParts⟩ := List.cons.inj parts
    obtain ⟨arg, rfl, rfl⟩ := List.map_eq_singleton_iff.mp argParts
    exact ⟨inner, arg, found, later, rfl, matched, matchedPlace, rfl⟩
  · rintro ⟨inner, arg, found, later, rfl, matched, matchedPlace, rfl⟩
    exact ⟨.index inner [arg], rfl, rfl, .expr inner, .expr arg, found, later, rfl, matched,
      matchedPlace, rfl⟩

/-- The pattern of a comparison. -/
theorem matchPart_eq_eq_some_iff {left right : Pattern}
    (leftSingle : left.takesRest = false) (rightSingle : right.takesRest = false) :
    (node "eq" [left, right]).matchPart part = some captures ↔
      ∃ first second found later, part = .expr (.binary .eq first second) ∧
        left.matchPart (.expr first) = some found ∧
        right.matchPart (.expr second) = some later ∧ captures = found ++ later := by
  rw [matchPart_node_eq_some_iff rfl]
  simp only [matchParts_pair_eq_some_iff leftSingle rightSingle]
  constructor
  · rintro ⟨expr, rfl, same, _, _, found, later, parts, matched, matchedRight, rfl⟩
    obtain ⟨first, second, rfl⟩ := (forms expr).eq same
    cases parts
    exact ⟨first, second, found, later, rfl, matched, matchedRight, rfl⟩
  · rintro ⟨first, second, found, later, rfl, matched, matchedRight, rfl⟩
    exact ⟨.binary .eq first second, rfl, rfl, .expr first, .expr second, found, later, rfl,
      matched, matchedRight, rfl⟩

end Storefront.Pattern

namespace Storefront.Survey

open Storefront.Guard Storefront.Pattern Storefront.Script

/-! ### The forms of a test -/

/-- The expressions that stand for the local player. -/
def localPlayers : List Expr := [
  .index (.member (.ident "Main") "player") [.member (.ident "Main") "myPlayer"],
  .member (.ident "Main") "LocalPlayer"]

/-- The test whether the slot that a variable names holds an item. -/
def inventoryTest (player : Expr) (slot : String) (item : Int) : Expr :=
  .binary .eq (.member (.index (.member player "inventory") [.ident slot]) "type") (.int item)

/-- The pattern of `Main`. -/
def mainPattern : Pattern := .node "ident" [.symbol "Main"]

/-- The pattern of the local player. -/
def localPlayerPattern : Pattern :=
  .alternatives [
    .node "index" [.node "member" [mainPattern, .symbol "player"],
      .node "member" [mainPattern, .symbol "myPlayer"]],
    .node "member" [mainPattern, .symbol "LocalPlayer"]]

/-- The pattern of a test, with the pattern of the local player put in. -/
def testPattern : Pattern :=
  .node "eq" [
    .node "member" [
      .node "index" [.node "member" [localPlayerPattern, .symbol "inventory"],
        .node "ident" [.capture .wildcard]],
      .symbol "type"],
    .capture (.node "int" [.wildcard])]

/-- The pattern of a test compiles. -/
theorem inventoryCheck?_eq : Walk.inventoryCheck? = some testPattern := by cbv

variable {part : Part} {captures : List Part}

theorem mainPattern_eq_some_iff :
    mainPattern.matchPart part = some captures ↔ part = .expr (.ident "Main") ∧ captures = [] := by
  rw [mainPattern, matchPart_ident_eq_some_iff rfl]
  simp [matchPart_symbol_eq_some_iff]

/-- The pattern of a part of `Main`. -/
theorem mainMember_eq_some_iff {name : String} :
    (Pattern.node "member" [mainPattern, .symbol name]).matchPart part = some captures ↔
      part = .expr (.member (.ident "Main") name) ∧ captures = [] := by
  rw [matchPart_member_eq_some_iff rfl]
  simp [mainPattern_eq_some_iff]

theorem localPlayerPattern_eq_some_iff :
    localPlayerPattern.matchPart part = some captures ↔
      ∃ player ∈ localPlayers, part = .expr player ∧ captures = [] := by
  constructor
  · intro matched
    rw [localPlayerPattern, matchPart_alternatives] at matched
    obtain ⟨option, member, matched⟩ := List.exists_of_findSome?_eq_some matched
    rcases List.mem_pair.mp member with rfl | rfl
    · obtain ⟨_, _, _, _, rfl, array, place, rfl⟩ :=
        (matchPart_index_eq_some_iff rfl rfl).mp matched
      obtain ⟨⟨⟩, rfl⟩ := mainMember_eq_some_iff.mp array
      obtain ⟨⟨⟩, rfl⟩ := mainMember_eq_some_iff.mp place
      exact ⟨_, List.mem_cons_self, rfl, rfl⟩
    · obtain ⟨rfl, rfl⟩ := mainMember_eq_some_iff.mp matched
      exact ⟨_, List.mem_cons_of_mem _ List.mem_cons_self, rfl, rfl⟩
  · rintro ⟨player, member, rfl, rfl⟩
    rcases List.mem_pair.mp member with rfl | rfl <;> rfl

/-- The pattern of the slot captures its name. -/
theorem slotPattern_eq_some_iff :
    (Pattern.node "ident" [.capture .wildcard]).matchPart part = some captures ↔
      ∃ slot, part = .expr (.ident slot) ∧ captures = [.name slot] := by
  rw [matchPart_ident_eq_some_iff rfl]
  simp [matchPart_capture_eq_some_iff, matchPart_wildcard_eq_some_iff]

/-- The pattern of the item captures its number. -/
theorem itemPattern_eq_some_iff :
    (Pattern.capture (.node "int" [.wildcard])).matchPart part = some captures ↔
      ∃ item, part = .expr (.int item) ∧ captures = [.expr (.int item)] := by
  simp only [matchPart_capture_eq_some_iff, matchPart_int_eq_some_iff]
  constructor
  · rintro ⟨_, ⟨item, rfl, rfl⟩, rfl⟩
    exact ⟨item, rfl, rfl⟩
  · rintro ⟨item, rfl, rfl⟩
    exact ⟨[], ⟨item, rfl, rfl⟩, rfl⟩

/-- The pattern of a test matches tests, and captures the slot and the item. -/
theorem testPattern_eq_some_iff :
    testPattern.matchPart part = some captures ↔
      ∃ player ∈ localPlayers, ∃ slot item, part = .expr (inventoryTest player slot item) ∧
        captures = [.name slot, .expr (.int item)] := by
  rw [testPattern, matchPart_eq_eq_some_iff rfl rfl]
  constructor
  · rintro ⟨_, _, _, _, rfl, typed, compared, rfl⟩
    obtain ⟨_, ⟨⟩, indexed⟩ := (matchPart_member_eq_some_iff rfl).mp typed
    obtain ⟨_, _, _, _, ⟨⟩, array, place, rfl⟩ := (matchPart_index_eq_some_iff rfl rfl).mp indexed
    obtain ⟨player, ⟨⟩, owner⟩ := (matchPart_member_eq_some_iff rfl).mp array
    obtain ⟨_, member, same, rfl⟩ := localPlayerPattern_eq_some_iff.mp owner
    obtain rfl := Part.expr.inj same
    obtain ⟨name, ⟨⟩, rfl⟩ := slotPattern_eq_some_iff.mp place
    obtain ⟨item, ⟨⟩, rfl⟩ := itemPattern_eq_some_iff.mp compared
    exact ⟨player, member, name, item, rfl, rfl⟩
  · rintro ⟨player, member, name, item, rfl, rfl⟩
    have owner := localPlayerPattern_eq_some_iff.mpr ⟨player, member, rfl, rfl⟩
    have array : (Pattern.node "member" [localPlayerPattern, .symbol "inventory"]).matchPart
        (.expr (.member player "inventory")) = some [] :=
      (matchPart_member_eq_some_iff rfl).mpr ⟨player, rfl, owner⟩
    have place := slotPattern_eq_some_iff.mpr ⟨name, rfl, rfl⟩
    have indexed := (matchPart_index_eq_some_iff rfl rfl).mpr
      ⟨_, _, _, _, rfl, array, place, rfl⟩
    refine ⟨_, _, [.name name], _, rfl, ?_, itemPattern_eq_some_iff.mpr ⟨item, rfl, rfl⟩, rfl⟩
    exact (matchPart_member_eq_some_iff rfl).mpr ⟨_, rfl, indexed⟩

/-- The items that a condition tests for in the slot of a variable are those of tests. -/
theorem checkedItem?_eq_some_iff {name : String} {condition : Expr} {item : Int} :
    Walk.checkedItem? name condition = some item ↔
      ∃ player ∈ localPlayers, condition = inventoryTest player name item := by
  rw [Walk.checkedItem?, inventoryCheck?_eq, Option.bind_some]
  constructor
  · intro checked
    cases matched : testPattern.matchExpr condition with
    | none =>
      rw [matched] at checked
      cases checked
    | some captures =>
      obtain ⟨player, member, slot, number, same, rfl⟩ := testPattern_eq_some_iff.mp matched
      obtain rfl := Part.expr.inj same
      rw [matched] at checked
      dsimp only at checked
      split at checked
      · next named =>
        obtain rfl : number = item := Option.some.inj checked
        exact ⟨player, member, named ▸ rfl⟩
      · cases checked
  · rintro ⟨player, member, rfl⟩
    have matched : testPattern.matchExpr (inventoryTest player name item) =
        some [.name name, .expr (.int item)] :=
      testPattern_eq_some_iff.mpr ⟨player, member, name, item, rfl, rfl⟩
    rw [matched]
    simp [Expr.asInt]

/-! ### Tests are no guards -/

/-- Whether a pattern is told apart from all shapes of a table. -/
def apartFromAll (pattern : Pattern) (helpers : Helpers) (entries : List Entry) : Bool :=
  (shapes? helpers entries).any fun shapes =>
    shapes.all fun shape => apart comparedDepth pattern shape.pattern

/-- What a pattern apart from all shapes matches is not in the table. -/
theorem lookup_of_apartFromAll {pattern : Pattern} {helpers : Helpers} {entries : List Entry}
    (separate : apartFromAll pattern helpers entries = true) {expr : Expr}
    (matched : (pattern.matchExpr expr).isSome) :
    (Catalog.compile helpers entries).lookup expr = none := by
  obtain ⟨shapes, read, checked⟩ := (Option.any_eq_true _ _).mp separate
  obtain ⟨same, compiled⟩ := compiled_of_shapes? read
  rw [lookup_compile, ← same, List.findSome?_eq_none_iff]
  intro listed member
  obtain ⟨shape, shapeMember, rfl⟩ := List.mem_map.mp member
  have unmatched : shape.pattern.matchExpr expr = none :=
    (exclusive_of_apart (List.all_eq_true.mp checked shape shapeMember) (.expr expr)).resolve_left
      (Option.isSome_iff_ne_none.mp matched)
  rw [Entry.accept?, compiled shape shapeMember]
  exact congrArg (Option.bind · shape.entry.condition?) unmatched

/-- The pattern of a test is told apart from all shapes of the built-in table. -/
theorem apartFromAll_testPattern :
    apartFromAll testPattern builtinHelpers builtinEntries = true := by
  decide +kernel

/-- A comparison that is not in a table is not understood as a guard. -/
theorem decompose_eq_of_lookup {catalog : Catalog} {left right : Expr}
    (absent : catalog.lookup (.binary .eq left right) = none) :
    decompose catalog (.binary .eq left right) = .error .unknown := by
  unfold decompose
  rw [Catalog.recognize_of_lookup_eq_none rfl absent]

/-- A test is not understood as a guard. -/
theorem decompose_of_checkedItem? {name : String} {condition : Expr} {item : Int}
    (checked : Walk.checkedItem? name condition = some item) :
    decompose builtinCatalog condition = .error .unknown := by
  obtain ⟨player, member, rfl⟩ := checkedItem?_eq_some_iff.mp checked
  have matched : testPattern.matchExpr (inventoryTest player name item) =
      some [.name name, .expr (.int item)] :=
    testPattern_eq_some_iff.mpr ⟨player, member, name, item, rfl, rfl⟩
  exact decompose_eq_of_lookup
    (lookup_of_apartFromAll apartFromAll_testPattern (Option.isSome_of_eq_some matched))

end Storefront.Survey
