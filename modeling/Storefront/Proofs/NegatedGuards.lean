import Mathlib
import Storefront.Proofs.SlotTest

/-!
Guards under a negation. A guard that is understood is understood under a `!` too, as the inverse
condition, or not at all if there is none. The `!` is taken off together with the parentheses under
it, so a guard in parentheses is looked up without them. The table spells two guards with
parentheses around them, the chains of the even and of the odd phases of the moon. No entry
accepts them without, so these two are lost under a negation.

That there are no others is found out by evaluation. Only an alternative for `paren` can accept a
guard in parentheses, and where the pattern in it is spelled out, it accepts one expression only.
-/

namespace Storefront.Pattern

open Storefront.Script

/-! ### Patterns that are spelled out -/

/-- Whether a pattern names every part of an expression. -/
def spells : Pattern → Expr → Bool
  | int value, .int found => value == found
  | node kind [symbol name], .ident found => kind == "ident" && name == found
  | node kind [target, symbol name], .member inner found =>
    kind == "member" && name == found && target.spells inner
  | node kind [first, second], .binary op left right =>
    kind == op.name && first.spells left && second.spells right
  | _, _ => false

/-- What is spelled out stands for one part. -/
theorem takesRest_of_spells {pattern : Pattern} {expr : Expr}
    (spelled : pattern.spells expr = true) : pattern.takesRest = false := by
  cases pattern <;> first | rfl | cases spelled

theorem unaryName_ne_binaryName (op : UnaryOp) (other : BinaryOp) : op.name ≠ other.name := by
  cases op <;> cases other <;> decide

theorem binaryName_injective {op other : BinaryOp} (same : op.name = other.name) : op = other := by
  have found := congrArg BinaryOp.ofName? same
  rw [BinaryOp.ofName?_name, BinaryOp.ofName?_name] at found
  exact Option.some.inj found

/-- The name of an operator between two operands is the kind of its expressions only. -/
theorem exists_of_kind_binary {expr : Expr} {op : BinaryOp} (same : expr.kind = op.name) :
    ∃ left right, expr = .binary op left right := by
  cases expr with
  | binary other left right =>
    obtain rfl := binaryName_injective same
    exact ⟨left, right, rfl⟩
  | bool value => cases value <;> cases op <;> simp [Expr.kind, BinaryOp.name] at same
  | unary other operand => exact absurd same (unaryName_ne_binaryName other op)
  | assign other target value =>
    cases other <;> cases op <;> simp [Expr.kind, BinaryOp.name] at same
  | _ => cases op <;> simp [Expr.kind, BinaryOp.name] at same

theorem structural_binaryName (op : BinaryOp) : valueKinds.contains op.name = false := by
  cases op <;> rfl

/-- The pattern of an operator with two operands. -/
theorem matchPart_binary_eq_some_iff {op : BinaryOp} {first second : Pattern} {part : Part}
    {captures : List Part} (firstSingle : first.takesRest = false)
    (secondSingle : second.takesRest = false) :
    (node op.name [first, second]).matchPart part = some captures ↔
      ∃ left right found later, part = .expr (.binary op left right) ∧
        first.matchPart (.expr left) = some found ∧
        second.matchPart (.expr right) = some later ∧ captures = found ++ later := by
  rw [matchPart_node_eq_some_iff (structural_binaryName op)]
  simp only [matchParts_pair_eq_some_iff firstSingle secondSingle]
  constructor
  · rintro ⟨expr, rfl, same, _, _, found, later, parts, matched, matchedSecond, rfl⟩
    obtain ⟨left, right, rfl⟩ := exists_of_kind_binary same
    cases parts
    exact ⟨left, right, found, later, rfl, matched, matchedSecond, rfl⟩
  · rintro ⟨left, right, found, later, rfl, matched, matchedSecond, rfl⟩
    exact ⟨.binary op left right, rfl, rfl, .expr left, .expr right, found, later, rfl, matched,
      matchedSecond, rfl⟩

/-- What spells an expression matches no other one. -/
theorem eq_of_spells {pattern : Pattern} {expr found : Expr} {captures : List Part}
    (spelled : pattern.spells expr = true)
    (matched : pattern.matchPart (.expr found) = some captures) : found = expr := by
  fun_induction spells pattern expr generalizing found captures with
  | case1 value number =>
    obtain rfl := beq_iff_eq.mp spelled
    rw [faithful, Means] at matched
    exact Part.expr.inj matched.1
  | case2 kind name symbol =>
    rw [Bool.and_eq_true, beq_iff_eq, beq_iff_eq] at spelled
    obtain ⟨rfl, rfl⟩ := spelled
    obtain ⟨other, ⟨⟩, named⟩ := (matchPart_ident_eq_some_iff rfl).mp matched
    obtain ⟨⟨⟩, -⟩ := matchPart_symbol_eq_some_iff.mp named
    rfl
  | case3 kind target name inner symbol inductionHypothesis =>
    rw [Bool.and_eq_true, Bool.and_eq_true, beq_iff_eq, beq_iff_eq] at spelled
    obtain ⟨⟨rfl, rfl⟩, spelledTarget⟩ := spelled
    obtain ⟨other, ⟨⟩, matchedTarget⟩ :=
      (matchPart_member_eq_some_iff (takesRest_of_spells spelledTarget)).mp matched
    rw [inductionHypothesis spelledTarget matchedTarget]
  | case4 kind first second op left right firstHypothesis secondHypothesis =>
    rw [Bool.and_eq_true, Bool.and_eq_true, beq_iff_eq] at spelled
    obtain ⟨⟨rfl, spelledFirst⟩, spelledSecond⟩ := spelled
    obtain ⟨_, _, _, _, ⟨⟩, matchedFirst, matchedSecond, -⟩ :=
      (matchPart_binary_eq_some_iff (takesRest_of_spells spelledFirst)
        (takesRest_of_spells spelledSecond)).mp matched
    rw [firstHypothesis spelledFirst matchedFirst, secondHypothesis spelledSecond matchedSecond]
  | case5 => cases spelled

/-! ### Patterns for what is in parentheses -/

/-- The patterns that are tried one after the other. -/
def options : Pattern → List Pattern
  | alternatives options => options
  | pattern => [pattern]

theorem exists_option_of_matchPart {pattern : Pattern} {part : Part} {captures : List Part}
    (matched : pattern.matchPart part = some captures) :
    ∃ option ∈ pattern.options, option.matchPart part = some captures := by
  cases pattern with
  | alternatives options =>
    rw [matchPart_alternatives] at matched
    exact List.exists_of_findSome?_eq_some matched
  | _ => exact ⟨_, List.mem_singleton_self _, matched⟩

/-- Whether a pattern is one for expressions of some kind, and if these are in parentheses, spells
what is in them. -/
def bracketsOnly (spelled : List Expr) : Pattern → Bool
  | node kind [inner] => kind != "paren" || spelled.any inner.spells
  | node kind _ => kind != "paren"
  | _ => false

theorem matchPart_node_paren {kind : String} {children : List Pattern} {inner : Expr}
    {captures : List Part}
    (matched : (node kind children).matchPart (.expr (.paren inner)) = some captures) :
    kind = "paren" ∧ matchParts children [.expr inner] = some captures := by
  have sameKind : (Expr.paren inner).kind = kind := by
    by_contra different
    rw [matchPart_node_of_ne different] at matched
    cases matched
  obtain rfl : kind = "paren" := sameKind.symm
  have structural : valueKinds.contains "paren" = false := rfl
  rw [matchPart_node_of_eq structural rfl] at matched
  exact ⟨rfl, matched⟩

/-- Only what is spelled is matched in parentheses. -/
theorem mem_of_bracketsOnly {spelled : List Expr} {pattern : Pattern} {inner : Expr}
    {captures : List Part} (only : pattern.bracketsOnly spelled = true)
    (matched : pattern.matchPart (.expr (.paren inner)) = some captures) : inner ∈ spelled := by
  fun_cases bracketsOnly spelled pattern with
  | case1 kind content =>
    obtain ⟨rfl, matchedParts⟩ := matchPart_node_paren matched
    obtain ⟨expr, member, spells⟩ := List.any_eq_true.mp only
    obtain ⟨_, ⟨⟩, matchedContent⟩ :=
      (matchParts_single_eq_some_iff (takesRest_of_spells spells)).mp matchedParts
    exact eq_of_spells spells matchedContent ▸ member
  | case2 kind children notSingle =>
    obtain ⟨rfl, -⟩ := matchPart_node_paren matched
    rw [bracketsOnly.eq_2 _ _ _ notSingle] at only
    cases only
  | case3 pattern notSingle notNode =>
    rw [bracketsOnly.eq_3 _ _ notSingle notNode] at only
    cases only

end Storefront.Pattern

namespace Storefront.Guard

open Storefront.Pattern Storefront.Script

/-! ### Guards in parentheses -/

/-- The test for a phase of the moon. -/
def moonPhaseIs (phase : Int) : Expr :=
  .binary .eq (.member (.ident "Main") "moonPhase") (.int phase)

/-- The test for one of four phases of the moon. -/
def moonPhaseIsOneOf (first second third fourth : Int) : Expr :=
  .binary .or
    (.binary .or (.binary .or (moonPhaseIs first) (moonPhaseIs second)) (moonPhaseIs third))
    (moonPhaseIs fourth)

/-- The tests for the even and for the odd phases. -/
def moonPhaseChains : List Expr := [moonPhaseIsOneOf 0 2 4 6, moonPhaseIsOneOf 1 3 5 7]

/-- The chains in parentheses. -/
def bracketedGuards : List Expr := moonPhaseChains.map .paren

/-- What the table takes some guards for: the chains with and without parentheses, a flag that can
be negated and one that cannot. -/
def knownLookups : List (Expr × Option Condition) := [
  (.paren (moonPhaseIsOneOf 0 2 4 6), some (.plain .moonPhasesEven)),
  (.paren (moonPhaseIsOneOf 1 3 5 7), some (.plain .moonPhasesOdd)),
  (moonPhaseIsOneOf 0 2 4 6, none),
  (moonPhaseIsOneOf 1 3 5 7, none),
  (.member (.ident "Main") "dayTime", some (.plain .timeDay)),
  (.member (.ident "Main") "xMas", some (.plain .christmas))]

/-- The shapes of the table for guards in parentheses spell the chains, and the lookups are as
listed. -/
theorem builtin_bracketsOnly :
    ((shapes? builtinHelpers builtinEntries).any fun shapes =>
      (shapes.all fun shape => shape.pattern.options.all (bracketsOnly moonPhaseChains)) &&
        knownLookups.all fun known => shapes.lookup known.1 = known.2) = true := by
  decide +kernel

/-- A compiled table is the shapes of its entries. -/
theorem compile_of_shapes? {helpers : Helpers} {entries : List Entry} {shapes : Catalog}
    (read : shapes? helpers entries = some shapes) :
    Catalog.compile helpers entries = shapes := by
  obtain ⟨rfl, compiled⟩ := compiled_of_shapes? read
  rw [Catalog.compile, List.filterMap_map]
  refine (List.filterMap_congr fun shape member => ?_).trans List.filterMap_some
  rw [Function.comp_apply, compiled shape member]

theorem bracketsOnly_of_mem_builtinCatalog {shape : Shape} (member : shape ∈ builtinCatalog) :
    ∀ option ∈ shape.pattern.options, option.bracketsOnly moonPhaseChains = true := by
  obtain ⟨shapes, read, checked⟩ := (Option.any_eq_true _ _).mp builtin_bracketsOnly
  rw [builtinCatalog, compile_of_shapes? read] at member
  rw [Bool.and_eq_true] at checked
  exact List.all_eq_true.mp (List.all_eq_true.mp checked.1 shape member)

theorem lookup_of_known {guard : Expr} {condition? : Option Condition}
    (known : (guard, condition?) ∈ knownLookups) :
    builtinCatalog.lookup guard = condition? := by
  obtain ⟨shapes, read, checked⟩ := (Option.any_eq_true _ _).mp builtin_bracketsOnly
  rw [builtinCatalog, compile_of_shapes? read]
  rw [Bool.and_eq_true] at checked
  exact of_decide_eq_true (List.all_eq_true.mp checked.2 (guard, condition?) known)

/-- In parentheses, the chains are all that the table understands. -/
theorem mem_bracketedGuards_of_lookup {inner : Expr} {condition : Condition}
    (found : builtinCatalog.lookup (.paren inner) = some condition) :
    .paren inner ∈ bracketedGuards := by
  obtain ⟨shape, member, accepted⟩ := List.exists_of_findSome?_eq_some found
  obtain ⟨captures, matched, -⟩ := Option.bind_eq_some_iff.mp accepted
  obtain ⟨option, optionMember, matchedOption⟩ := exists_option_of_matchPart matched
  exact List.mem_map_of_mem (mem_of_bracketsOnly
    (bracketsOnly_of_mem_builtinCatalog member option optionMember) matchedOption)

/-! ### Guards under a negation -/

section

variable {catalog : Catalog} {guard : Expr} {condition : Condition}

theorem missing_of_invert {missing : NoComplement} (alone : condition.invert = .error missing) :
    missing = ⟨condition.tag⟩ := by
  unfold Condition.invert at alone
  split at alone
  · cases alone
  · exact (Except.error.inj alone).symm

/-- Under a negation, a guard that is found without its parentheses asks for the inverse. If there
is none, this is reported. -/
theorem recognize_not_spec (found : catalog.lookup guard.stripParens = some condition) :
    (∀ inverse, condition.invert = .ok inverse →
      catalog.recognize (.unary .not guard) = .ok (some inverse)) ∧
    ((∀ inverse, condition.invert ≠ .ok inverse) →
      catalog.recognize (.unary .not guard) = .error ⟨condition.tag⟩) := by
  rw [Catalog.recognize_of_lookup rfl found, if_pos rfl]
  cases inverts : condition.invert with
  | ok inverse =>
    refine ⟨fun other same => ?_, fun alone => absurd rfl (alone inverse)⟩
    rw [Except.ok.inj same]
    rfl
  | error missing =>
    refine ⟨nofun, fun _ => ?_⟩
    rw [missing_of_invert inverts]
    rfl

end

/-- The chains in parentheses have conditions that can be negated. Under a negation they are lost
all the same. -/
theorem recognize_not_bracketed {guard : Expr} {condition : Condition}
    (bracketed : guard ∈ bracketedGuards) (found : builtinCatalog.lookup guard = some condition) :
    (∃ inverse, condition.invert = .ok inverse) ∧
      builtinCatalog.recognize (.unary .not guard) = .ok none := by
  -- The negation looks up the chain without its parentheses, which is listed too, as unknown.
  rcases List.mem_pair.mp bracketed with rfl | rfl
  · obtain rfl := Option.some.inj ((lookup_of_known (.head _)).symm.trans found)
    have unknown := lookup_of_known (.tail _ (.tail _ (.head _)))
    exact ⟨⟨.plain .moonPhasesOdd, by decide⟩, Catalog.recognize_of_lookup_eq_none rfl unknown⟩
  · obtain rfl := Option.some.inj ((lookup_of_known (.tail _ (.head _))).symm.trans found)
    have unknown := lookup_of_known (.tail _ (.tail _ (.tail _ (.head _))))
    exact ⟨⟨.plain .moonPhasesEven, by decide⟩, Catalog.recognize_of_lookup_eq_none rfl unknown⟩

/-- A guard of the built-in table is understood under a negation too, with two exceptions. Its
condition is inverted, and if it has no inverse, its tag is reported. The exceptions are the chains
in parentheses, whose conditions do have inverses: their negations are not understood. -/
theorem recognize_not_of_understood {guard : Expr} {condition : Condition}
    (found : builtinCatalog.lookup guard = some condition) :
    (guard ∉ bracketedGuards →
      (∀ inverse, condition.invert = .ok inverse →
        builtinCatalog.recognize (.unary .not guard) = .ok (some inverse)) ∧
      ((∀ inverse, condition.invert ≠ .ok inverse) →
        builtinCatalog.recognize (.unary .not guard) = .error ⟨condition.tag⟩)) ∧
    (guard ∈ bracketedGuards →
      (∃ inverse, condition.invert = .ok inverse) ∧
        builtinCatalog.recognize (.unary .not guard) = .ok none) := by
  refine ⟨fun bare => ?_, fun bracketed => recognize_not_bracketed bracketed found⟩
  -- Any other guard in parentheses is not found, so there are none to take off.
  have stripped : guard.stripParens = guard :=
    Expr.stripParens.eq_2 guard fun inner same => by
      subst same
      exact bare (mem_bracketedGuards_of_lookup found)
  refine recognize_not_spec ?_
  rw [stripped, found]

/-- The day is negated to the night, the absence of Christmas is reported, and with the even phases
in parentheses nothing is understood. -/
theorem recognize_not_known :
    builtinCatalog.recognize (.unary .not (.member (.ident "Main") "dayTime")) =
        .ok (some (.plain .timeNight)) ∧
      builtinCatalog.recognize (.unary .not (.member (.ident "Main") "xMas")) =
        .error ⟨.christmas⟩ ∧
      builtinCatalog.recognize (.unary .not (.paren (moonPhaseIsOneOf 0 2 4 6))) = .ok none := by
  have flag (name : String) : Expr.member (.ident "Main") name ∉ bracketedGuards := by
    simp [bracketedGuards]
  have day : builtinCatalog.lookup (.member (.ident "Main") "dayTime") = some (.plain .timeDay) :=
    lookup_of_known (by simp [knownLookups])
  have christmas : builtinCatalog.lookup (.member (.ident "Main") "xMas") =
      some (.plain .christmas) := lookup_of_known (by simp [knownLookups])
  have alone : (Condition.plain .christmas).invert = .error ⟨.christmas⟩ := by decide
  refine ⟨?_, ?_, ?_⟩
  · exact ((recognize_not_of_understood day).1 (flag "dayTime")).1 (.plain .timeNight) (by decide)
  · exact ((recognize_not_of_understood christmas).1 (flag "xMas")).2 fun _ => alone ▸ nofun
  · exact ((recognize_not_of_understood (lookup_of_known (.head _))).2 (.head _)).2

/-- The even phases of the moon in parentheses are understood and have the odd ones for an inverse,
but their negation is not understood. -/
theorem bracketed_chain_lost :
    builtinCatalog.lookup (.paren (moonPhaseIsOneOf 0 2 4 6)) = some (.plain .moonPhasesEven) ∧
      (Condition.plain .moonPhasesEven).invert = .ok (.plain .moonPhasesOdd) ∧
      builtinCatalog.recognize (.unary .not (.paren (moonPhaseIsOneOf 0 2 4 6))) ≠
        .ok (some (.plain .moonPhasesOdd)) := by
  have found := lookup_of_known (.head _)
  refine ⟨found, by decide, ?_⟩
  rw [(recognize_not_bracketed (.head _) found).2]
  nofun

end Storefront.Guard
