import Mathlib
import Storefront.Proofs.Multiplicity
import Storefront.Proofs.NegatedGuards

/-!
What a match is certain to capture. How many captures a match brings back, and of which kinds, can
be told from its pattern when every capture in it is of one kind and all alternatives capture alike.
The captures are then nodes of what is matched, in the order in which they are written.

Every entry of the built-in table needs captures of certain kinds for the numbers of its condition.
That its pattern captures just these is found out by evaluation. So a shape that matches a guard has
a condition for it, and the lookup ends there.
-/

namespace Storefront

open Storefront.Script

/-! ### Captures and nodes -/

/-- The expressions at a place and within it. -/
def Part.nodes : Part → List Expr
  | .expr found => found.nodes
  | .name _ => []

/-- The expression at a place, if it is no bare name. -/
def Part.expr? : Part → Option Expr
  | .expr found => some found
  | .name _ => none

/-- The nodes of an expression are itself and those of its parts. -/
theorem Script.Expr.nodes_eq_parts (expr : Expr) :
    expr.nodes = expr :: expr.parts.flatMap Part.nodes := by
  have args (listed : List Expr) : (listed.map Part.expr).flatMap Part.nodes = nodesOf listed := by
    rw [List.flatMap_map, nodesOf_eq_flatMap]
    rfl
  cases expr with
  | assign op target value => cases op <;> simp [nodes, parts, Part.nodes]
  | _ => simp [nodes, parts, Part.nodes, args]

theorem Script.Expr.mem_nodes_self (expr : Expr) : expr ∈ expr.nodes := by
  rw [expr.nodes_eq]
  exact List.mem_cons_self

namespace Pattern

/-- Whether a capture is an expression of a kind. -/
def OfKind (kind : String) (captured : Part) : Prop :=
  ∃ expr, captured = .expr expr ∧ expr.kind = kind

/-- Captures are expressions of given kinds, which stand one after the other among nodes. -/
structure Drawn (kinds : List String) (nodes : List Expr) (captures : List Part) : Prop where
  kinds : List.Forall₂ OfKind kinds captures
  order : (captures.filterMap Part.expr?).Sublist nodes

namespace Drawn

variable {kinds others : List String} {nodes more : List Expr} {captures found : List Part}

theorem nothing (nodes : List Expr) : Drawn [] nodes [] :=
  ⟨.nil, List.nil_sublist nodes⟩

theorem eq_nil (drawn : Drawn [] nodes captures) : captures = [] :=
  List.forall₂_nil_left_iff.mp drawn.kinds

theorem append (first : Drawn kinds nodes captures) (rest : Drawn others more found) :
    Drawn (kinds ++ others) (nodes ++ more) (captures ++ found) := by
  refine ⟨List.rel_append first.kinds rest.kinds, ?_⟩
  rw [List.filterMap_append]
  exact first.order.append rest.order

theorem mono (drawn : Drawn kinds nodes captures) (within : nodes.Sublist more) :
    Drawn kinds more captures :=
  ⟨drawn.kinds, drawn.order.trans within⟩

theorem single {expr : Expr} {kind : String} (same : expr.kind = kind) (member : expr ∈ nodes) :
    Drawn [kind] nodes [.expr expr] := by
  refine ⟨.cons ⟨expr, rfl, same⟩ .nil, ?_⟩
  show [expr].Sublist nodes
  exact List.singleton_sublist.mpr member

end Drawn

/-! ### What a pattern yields -/

/-- The kind of all expressions that a pattern matches, if it matches no names and names the
kind. -/
def kind? : Pattern → Option String
  | node kind _ | ofKind kind => some kind
  | _ => none

mutual

/-- The kinds of the captures of a match, if every match has captures of the same kinds and in the
order in which they are written. -/
def yields : Pattern → Option (List String)
  | node _ children => yieldsEach children
  | alternatives options => yieldsAlike options
  | conjunction conjuncts => if yieldsAlike conjuncts = some [] then some [] else none
  | capture inner => if inner.yields = some [] then inner.kind?.map ([·]) else none
  | _ => some []

/-- What patterns for one part after the other yield together. -/
def yieldsEach : List Pattern → Option (List String)
  | [] => some []
  | child :: others =>
    if child.takesRest then some []
    else child.yields.bind fun kinds => (yieldsEach others).map (kinds ++ ·)

/-- What each of some patterns yields, if it is the same. -/
def yieldsAlike : List Pattern → Option (List String)
  | [] => some []
  | [only] => only.yields
  | first :: others => if first.yields = yieldsAlike others then first.yields else none

end

theorem yields_of_yieldsAlike {kinds : List String} {options : List Pattern}
    (alike : yieldsAlike options = some kinds) :
    ∀ option ∈ options, option.yields = some kinds := by
  induction options with
  | nil => exact List.forall_mem_nil _
  | cons first others inductionHypothesis =>
    cases others with
    | nil =>
      rw [yieldsAlike] at alike
      exact List.forall_mem_singleton.mpr alike
    | cons second others =>
      rw [yieldsAlike] at alike
      · split at alike
        · next same =>
          exact List.forall_mem_cons.mpr ⟨alike, inductionHypothesis (same.symm.trans alike)⟩
        · cases alike
      · exact List.cons_ne_nil _ _

/-! ### What a match captures -/

/-- A pattern that captures nothing alone captures nothing with others at the same part. -/
theorem eq_nil_of_matchAll {conjuncts : List Pattern} {part : Part} {captures : List Part}
    (nothing : ∀ conjunct ∈ conjuncts, ∀ found, conjunct.matchPart part = some found → found = [])
    (matched : matchAll conjuncts part = some captures) : captures = [] := by
  induction conjuncts generalizing captures with
  | nil => exact (Option.some.inj matched).symm
  | cons conjunct others inductionHypothesis =>
    obtain ⟨here, later⟩ := List.forall_mem_cons.mp nothing
    obtain ⟨first, rest, matchedHere, matchedLater, rfl⟩ := joined_eq_some_iff.mp matched
    rw [here first matchedHere, inductionHypothesis later matchedLater]
    rfl

/-- Patterns for one part after the other capture one after the other. -/
theorem drawn_of_matchParts {children : List Pattern} {kinds : List String} {parts : List Part}
    {captures : List Part}
    (drawn : ∀ child ∈ children, ∀ kinds, child.yields = some kinds → ∀ part captures,
      child.matchPart part = some captures → Drawn kinds part.nodes captures)
    (yields : yieldsEach children = some kinds)
    (matched : matchParts children parts = some captures) :
    Drawn kinds (parts.flatMap Part.nodes) captures := by
  induction children generalizing kinds parts captures with
  | nil =>
    obtain rfl := Option.some.inj yields
    cases parts with
    | nil =>
      obtain rfl := Option.some.inj matched
      exact Drawn.nothing _
    | cons part rest => cases matched
  | cons child others inductionHypothesis =>
    obtain ⟨here, later⟩ := List.forall_mem_cons.mp drawn
    rw [yieldsEach] at yields
    cases takes : child.takesRest with
    | true =>
      rw [takes, if_pos rfl] at yields
      obtain rfl := Option.some.inj yields
      cases parts <;> rw [matchParts, takes, if_pos rfl] at matched <;>
        obtain rfl := Option.some.inj matched <;> exact Drawn.nothing _
    | false =>
      rw [takes, if_neg Bool.false_ne_true] at yields
      obtain ⟨first, yieldsFirst, yields⟩ := Option.bind_eq_some_iff.mp yields
      obtain ⟨rest, yieldsRest, rfl⟩ := Option.map_eq_some_iff.mp yields
      cases parts with
      | nil =>
        rw [matchParts, takes] at matched
        cases matched
      | cons part parts =>
        rw [matchParts, takes, if_neg Bool.false_ne_true] at matched
        obtain ⟨found, others, matchedHere, matchedLater, rfl⟩ := joined_eq_some_iff.mp matched
        exact (here first yieldsFirst part found matchedHere).append
          (inductionHypothesis later yieldsRest matchedLater)

/-- The patterns of a node are matched with parts that are within the expression, or with the
expression itself. -/
theorem exists_parts_of_matchChildren {children : List Pattern} {expr : Expr}
    {captures : List Part} (matched : matchChildren children expr = some captures) :
    ∃ parts, matchParts children parts = some captures ∧
      (parts.flatMap Part.nodes).Sublist expr.nodes := by
  unfold matchChildren at matched
  split at matched
  · split at matched
    · exact ⟨[], matched, List.nil_sublist _⟩
    · next only =>
      refine ⟨[.expr expr], ?_, ?_⟩
      · cases takes : only.takesRest with
        | true =>
          obtain rfl : only = .remaining := by
            cases only <;> first | rfl | cases takes
          exact matched
        | false =>
          rw [matchParts, takes, if_neg Bool.false_ne_true, matched]
          exact congrArg some (List.append_nil captures)
      · rw [List.flatMap_singleton]
        exact List.Sublist.refl _
    · cases matched
  · refine ⟨expr.parts, matched, ?_⟩
    rw [expr.nodes_eq_parts]
    exact List.sublist_cons_self _ _

theorem exists_of_kind? {pattern : Pattern} {kind : String} (named : pattern.kind? = some kind)
    {part : Part} {captures : List Part} (matched : pattern.matchPart part = some captures) :
    ∃ expr, part = .expr expr ∧ expr.kind = kind := by
  rw [faithful] at matched
  cases pattern with
  | node own children | ofKind own =>
    obtain rfl := Option.some.inj named
    rw [Means] at matched
    obtain ⟨expr, rfl, same, -⟩ := matched
    exact ⟨expr, rfl, same⟩
  | _ => cases named

/-- What a pattern yields is what every match captures. The induction is on the pattern; at each
node, the captures of the parts come one after the other. -/
theorem drawn_of_yields (pattern : Pattern) {kinds : List String}
    (yields : pattern.yields = some kinds) {part : Part} {captures : List Part}
    (matched : pattern.matchPart part = some captures) : Drawn kinds part.nodes captures :=
  match pattern with
  | node kind children => by
    rw [Pattern.yields] at yields
    rw [matchPart_node] at matched
    cases part with
    | name name => cases matched
    | expr expr =>
      rw [matchNode] at matched
      split at matched
      · obtain ⟨parts, matchedParts, within⟩ := exists_parts_of_matchChildren matched
        have drawn := drawn_of_matchParts
          (fun child _ _ yieldsChild _ _ matchedChild =>
            drawn_of_yields child yieldsChild matchedChild) yields matchedParts
        exact drawn.mono within
      · cases matched
  | alternatives options => by
    rw [Pattern.yields] at yields
    rw [matchPart_alternatives] at matched
    obtain ⟨option, member, matched⟩ := List.exists_of_findSome?_eq_some matched
    exact drawn_of_yields option (yields_of_yieldsAlike yields option member) matched
  | conjunction conjuncts => by
    rw [Pattern.yields] at yields
    rw [matchPart_conjunction] at matched
    split at yields
    · next nothing =>
      obtain rfl := Option.some.inj yields
      rw [eq_nil_of_matchAll (fun conjunct member found matched =>
        (drawn_of_yields conjunct (yields_of_yieldsAlike nothing conjunct member) matched).eq_nil)
        matched]
      exact Drawn.nothing _
    · cases yields
  | capture inner => by
    rw [Pattern.yields] at yields
    obtain ⟨found, matchedInner, rfl⟩ := matchPart_capture_eq_some_iff.mp matched
    split at yields
    · next nothing =>
      obtain ⟨kind, named, rfl⟩ := Option.map_eq_some_iff.mp yields
      obtain ⟨expr, rfl, same⟩ := exists_of_kind? named matchedInner
      obtain rfl := (drawn_of_yields inner nothing matchedInner).eq_nil
      exact Drawn.single same expr.mem_nodes_self
    · cases yields
  | negation inner => by
    rw [matchPart_negation] at matched
    obtain rfl := Option.some.inj yields
    obtain ⟨-, rfl⟩ := plainly_eq_some_iff.mp matched
    exact Drawn.nothing _
  | wildcard | remaining | helper _ | symbol _ | symbolStart _ | int _ | float _ | str _ | bool _
  | null | ofKind _ => by
    rw [matchPart_leaf rfl] at matched
    obtain rfl := Option.some.inj yields
    obtain ⟨-, rfl⟩ := plainly_eq_some_iff.mp matched
    exact Drawn.nothing _
termination_by pattern

end Pattern

end Storefront

namespace Storefront.Guard

open Storefront.Pattern Storefront.Script

/-! ### The conditions of entries -/

/-- The kinds of the captures that become the numbers of a condition. -/
def Extraction.kinds : Extraction → List String
  | .nothing => []
  | .integer => ["int"]
  | .integerPair => ["int", "int"]
  | .percent => ["float"]

/-- Whether a condition is that of an entry with the numbers of literals in an expression, which
stand there in the order of the numbers. -/
def Entry.Draws (entry : Entry) (expr : Expr) (condition : Condition) : Prop :=
  match entry.extraction with
  | .nothing => condition = .plain entry.tag
  | .integer => ∃ value, .int value ∈ expr.nodes ∧ condition = .withParam entry.tag value
  | .integerPair => ∃ first second, [.int first, .int second].Sublist expr.nodes ∧
      condition = .withParams entry.tag first second
  | .percent => ∃ part, .float part ∈ expr.nodes ∧ condition = percentCondition part

theorem exists_of_kind_float {expr : Expr} (same : expr.kind = "float") :
    ∃ value, expr = .float value := by
  cases expr with
  | float value => exact ⟨value, rfl⟩
  | bool value => cases value <;> simp [Expr.kind] at same
  | unary op operand => cases op <;> simp [Expr.kind, UnaryOp.name] at same
  | binary op left right => cases op <;> simp [Expr.kind, BinaryOp.name] at same
  | assign op target value => cases op <;> simp [Expr.kind] at same
  | _ => simp [Expr.kind] at same

theorem exists_of_ofKind_cons {kind : String} {kinds : List String} {captures : List Part}
    (ofKinds : List.Forall₂ OfKind (kind :: kinds) captures) :
    ∃ expr rest, captures = .expr expr :: rest ∧ expr.kind = kind ∧
      List.Forall₂ OfKind kinds rest := by
  obtain ⟨_, rest, ⟨expr, rfl, same⟩, later, rfl⟩ := List.forall₂_cons_left_iff.mp ofKinds
  exact ⟨expr, rest, rfl, same, later⟩

/-- Captures of the kinds that an entry needs make a condition. -/
theorem condition_of_drawn {entry : Entry} {expr : Expr} {captures : List Part}
    (drawn : Drawn entry.extraction.kinds expr.nodes captures) :
    ∃ condition, entry.condition? captures = some condition ∧ entry.Draws expr condition := by
  obtain ⟨ofKinds, order⟩ := drawn
  obtain ⟨tag, pattern, extraction⟩ := entry
  cases extraction with
  | nothing => exact ⟨_, rfl, rfl⟩
  | integer =>
    obtain ⟨found, _, rfl, same, later⟩ := exists_of_ofKind_cons ofKinds
    obtain ⟨value, rfl⟩ := (forms found).int same
    obtain rfl := List.forall₂_nil_left_iff.mp later
    exact ⟨_, rfl, value, List.singleton_sublist.mp order, rfl⟩
  | integerPair =>
    obtain ⟨found, _, rfl, same, others⟩ := exists_of_ofKind_cons ofKinds
    obtain ⟨first, rfl⟩ := (forms found).int same
    obtain ⟨found, _, rfl, same, later⟩ := exists_of_ofKind_cons others
    obtain ⟨second, rfl⟩ := (forms found).int same
    obtain rfl := List.forall₂_nil_left_iff.mp later
    exact ⟨_, rfl, first, second, order, rfl⟩
  | percent =>
    obtain ⟨found, _, rfl, same, later⟩ := exists_of_ofKind_cons ofKinds
    obtain ⟨part, rfl⟩ := exists_of_kind_float same
    obtain rfl := List.forall₂_nil_left_iff.mp later
    exact ⟨_, rfl, part, List.singleton_sublist.mp order, rfl⟩

/-- Whether every match of a shape is certain to have the captures that its entry needs. -/
def Shape.suffices (shape : Shape) : Bool :=
  shape.pattern.yields = some shape.entry.extraction.kinds

theorem Shape.condition_of_suffices {shape : Shape} (enough : shape.suffices = true) {expr : Expr}
    {captures : List Part} (matched : shape.pattern.matchExpr expr = some captures) :
    ∃ condition, shape.entry.condition? captures = some condition ∧
      shape.entry.Draws expr condition :=
  condition_of_drawn (drawn_of_yields shape.pattern (of_decide_eq_true enough) matched)

/-- Whether an entry compiles, and has a condition for every match. -/
def Entry.Suffices (helpers : Helpers) (listed : Entry) : Prop :=
  ∃ pattern, Pattern.compile helpers listed.pattern = .ok pattern ∧
    (Shape.mk listed pattern).suffices = true

/-- An entry that has a condition for every match accepts what it matches. -/
theorem Entry.Suffices.accepts {helpers : Helpers} {listed : Entry} {expr : Expr}
    (enough : listed.Suffices helpers) (matched : listed.Matches helpers expr) :
    ∃ condition, listed.accept? helpers expr = some condition := by
  obtain ⟨pattern, compiled, enough⟩ := enough
  obtain ⟨_, again, matched⟩ := matched
  obtain rfl := Except.ok.inj (compiled.symm.trans again)
  obtain ⟨captures, matched⟩ := Option.isSome_iff_exists.mp matched
  obtain ⟨condition, made, -⟩ := Shape.condition_of_suffices enough matched
  refine ⟨condition, ?_⟩
  rw [Entry.accept?, compiled]
  show (pattern.matchExpr expr).bind listed.condition? = _
  rw [matched, Option.bind_some, made]

/-- A lookup in a compiled table ends at the first entry that matches, if every entry has a
condition for every match. -/
theorem lookup_of_find? {helpers : Helpers} {entries : List Entry}
    (enough : ∀ listed ∈ entries, listed.Suffices helpers) {expr : Expr} {first : Entry}
    (found : entries.find? (fun listed => listed.Matches helpers expr) = some first) :
    ∃ condition, first.accept? helpers expr = some condition ∧
      (Catalog.compile helpers entries).lookup expr = some condition := by
  obtain ⟨matched, earlier, later, rfl, unmatched⟩ := List.find?_eq_some_iff_append.mp found
  have member : first ∈ earlier ++ first :: later :=
    List.mem_append_right _ List.mem_cons_self
  obtain ⟨condition, accepted⟩ := (enough first member).accepts (of_decide_eq_true matched)
  have passed : earlier.findSome? (Entry.accept? helpers expr) = none := by
    refine List.findSome?_eq_none_iff.mpr fun other isEarlier => Option.not_isSome_iff_eq_none.mp ?_
    intro otherAccepts
    simpa [Entry.matches_of_accept? otherAccepts] using unmatched other isEarlier
  refine ⟨condition, accepted, ?_⟩
  rw [lookup_compile, List.findSome?_append, passed, Option.none_or, List.findSome?_cons, accepted]

/-! ### The built-in table -/

/-- The patterns of the built-in table are certain to capture what their entries need. -/
theorem builtin_suffices :
    ((shapes? builtinHelpers builtinEntries).any (·.all Shape.suffices)) = true := by
  decide +kernel

theorem suffices_of_mem_builtinEntries {listed : Entry} (member : listed ∈ builtinEntries) :
    listed.Suffices builtinHelpers := by
  obtain ⟨shapes, read, checked⟩ := (Option.any_eq_true _ _).mp builtin_suffices
  obtain ⟨same, compiled⟩ := compiled_of_shapes? read
  rw [← same] at member
  obtain ⟨shape, shapeMember, rfl⟩ := List.mem_map.mp member
  exact ⟨shape.pattern, compiled shape shapeMember, List.all_eq_true.mp checked shape shapeMember⟩

/-- The name of the slot stands before the number of the item. -/
theorem sublist_nodes_inventoryTest (player : Expr) (slot : String) (item : Int) :
    [.ident slot, .int item].Sublist (Survey.inventoryTest player slot item).nodes := by
  have place : (Expr.index (.member player "inventory") [.ident slot]).nodes =
      .index (.member player "inventory") [.ident slot] :: .member player "inventory" ::
        (player.nodes ++ [.ident slot]) := by
    simp [Expr.nodes, Expr.nodesOf]
  have slotWithin : [.ident slot].Sublist
      (Expr.index (.member player "inventory") [.ident slot]).nodes := by
    rw [place]
    exact ((List.sublist_append_right _ _).cons _).cons _
  exact ((slotWithin.cons _).append (List.Sublist.refl [.int item])).cons _

/-- Every entry of the built-in table has a condition for every match, with the numbers of literals
in the guard, from left to right if there are two. The test for an item in a slot captures the name
of the slot and then the number of the item. So a lookup ends at the first entry that matches. -/
theorem condition_of_match :
    (∀ listed ∈ builtinEntries, ∃ pattern,
      Pattern.compile builtinHelpers listed.pattern = .ok pattern ∧
        ∀ expr captures, pattern.matchExpr expr = some captures →
          ∃ condition, listed.condition? captures = some condition ∧
            listed.Draws expr condition) ∧
    (∃ pattern, Survey.Walk.inventoryCheck? = some pattern ∧
      ∀ expr captures, pattern.matchExpr expr = some captures →
        ∃ slot item, captures = [.name slot, .expr (.int item)] ∧
          [.ident slot, .int item].Sublist expr.nodes) ∧
    ∀ expr first, builtinEntries.find? (fun listed => listed.Matches builtinHelpers expr) =
        some first →
      ∃ condition, first.accept? builtinHelpers expr = some condition ∧
        builtinCatalog.lookup expr = some condition := by
  refine ⟨fun listed member => ?_, ?_, fun expr first found => ?_⟩
  · obtain ⟨pattern, compiled, enough⟩ := suffices_of_mem_builtinEntries member
    exact ⟨pattern, compiled, fun expr captures => Shape.condition_of_suffices enough⟩
  · refine ⟨_, Survey.inventoryCheck?_eq, fun expr captures matched => ?_⟩
    obtain ⟨player, -, slot, item, same, rfl⟩ := Survey.testPattern_eq_some_iff.mp matched
    obtain rfl := Part.expr.inj same
    exact ⟨slot, item, rfl, sublist_nodes_inventoryTest player slot item⟩
  · exact lookup_of_find? (fun listed => suffices_of_mem_builtinEntries) found

/-- The test whether the player has an item. -/
def hasItem (item : Int) : Expr :=
  .call (.member (.index (.member (.ident "Main") "player") [.member (.ident "Main") "myPlayer"])
    "HasItem") [.int item]

/-- The entry for two items of which the player has one. -/
def pairEntry : Entry :=
  ⟨.playerCarriesItem, "(or (call (member #my_player :HasItem) $(int _)) (call (member " ++
    "#my_player :HasItem) $(int _)))", .integerPair⟩

/-- One of two items, an item in a slot, and the day. -/
theorem condition_of_match_items :
    let guard : Expr := .binary .or (hasItem 1) (hasItem 2)
    let test := Survey.inventoryTest (.member (.ident "Main") "LocalPlayer") "i" 5
    (∃ pattern captures condition,
      Pattern.compile builtinHelpers pairEntry.pattern = .ok pattern ∧
        pattern.matchExpr guard = some captures ∧
        pairEntry.condition? captures = some condition ∧ pairEntry.Draws guard condition) ∧
    (∃ pattern captures slot item, Survey.Walk.inventoryCheck? = some pattern ∧
      pattern.matchExpr test = some captures ∧ captures = [.name slot, .expr (.int item)]) ∧
    ∃ condition, builtinCatalog.lookup (.member (.ident "Main") "dayTime") = some condition := by
  intro guard test
  obtain ⟨ofEntries, ⟨check, isCheck, ofCheck⟩, ofLookup⟩ := condition_of_match
  refine ⟨?_, ?_, ?_⟩
  · have matched : pairEntry.Matches builtinHelpers guard := by decide +kernel
    obtain ⟨pattern, compiled, ofMatch⟩ := ofEntries pairEntry (by decide)
    obtain ⟨_, again, someMatch⟩ := matched
    obtain rfl := Except.ok.inj (compiled.symm.trans again)
    obtain ⟨captures, matched⟩ := Option.isSome_iff_exists.mp someMatch
    obtain ⟨condition, made, draws⟩ := ofMatch guard captures matched
    exact ⟨pattern, captures, condition, compiled, matched, made, draws⟩
  · obtain rfl := Option.some.inj (Survey.inventoryCheck?_eq.symm.trans isCheck)
    have matched : Survey.testPattern.matchExpr test = some [.name "i", .expr (.int 5)] :=
      Survey.testPattern_eq_some_iff.mpr
        ⟨_, List.mem_cons_of_mem _ List.mem_cons_self, "i", 5, rfl, rfl⟩
    obtain ⟨slot, item, same, -⟩ := ofCheck test _ matched
    exact ⟨_, _, slot, item, isCheck, matched, same⟩
  · have first : builtinEntries.find? (fun listed =>
        listed.Matches builtinHelpers (.member (.ident "Main") "dayTime")) =
          some (entry .timeDay "#day_time") := by decide +kernel
    obtain ⟨condition, -, found⟩ := ofLookup _ _ first
    exact ⟨condition, found⟩

end Storefront.Guard
