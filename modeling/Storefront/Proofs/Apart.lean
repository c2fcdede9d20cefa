import Storefront.Proofs.Captures

/-!
Patterns that exclude each other. What a pattern asks for first is the kind of an expression, so two
patterns of different kinds never match the same expression; two of one kind do not if some part of
theirs excludes the other's. A check that compares patterns in this way is enough to tell most
guards apart. It is sound: whatever it tells apart has no match in common.
-/

namespace Storefront.Pattern

open Storefront.Script

/-! ### Patterns without a common match -/

/-- Patterns exclude each other when nothing is matched by both. -/
def Exclusive (first second : Pattern) : Prop :=
  ∀ part, first.matchPart part = none ∨ second.matchPart part = none

theorem Exclusive.symm {first second : Pattern} (exclusive : Exclusive first second) :
    Exclusive second first :=
  fun part => (exclusive part).symm

/-- Alternatives match nothing when none of them does. -/
theorem matchPart_alternatives_eq_none {options : List Pattern} {part : Part}
    (unmatched : ∀ option ∈ options, option.matchPart part = none) :
    (alternatives options).matchPart part = none := by
  rw [matchPart_alternatives, List.findSome?_eq_none_iff]
  exact unmatched

/-- Alternatives exclude a pattern that each of them excludes. -/
theorem exclusive_alternatives {options : List Pattern} {other : Pattern}
    (each : ∀ option ∈ options, Exclusive option other) :
    Exclusive (alternatives options) other := by
  intro part
  by_cases unmatched : other.matchPart part = none
  · exact Or.inr unmatched
  · exact Or.inl (matchPart_alternatives_eq_none fun option member =>
      (each option member part).resolve_right unmatched)

/-- A node matches no expression of another kind. -/
theorem matchPart_node_of_ne {kind : String} {children : List Pattern} {expr : Expr}
    (different : expr.kind ≠ kind) : (node kind children).matchPart (.expr expr) = none := by
  rw [matchPart_node]
  exact if_neg different

/-- A node matches an expression of its kind by the parts, unless the kind holds a value. -/
theorem matchPart_node_of_eq {kind : String} {children : List Pattern} {expr : Expr}
    (structural : valueKinds.contains kind = false) (same : expr.kind = kind) :
    (node kind children).matchPart (.expr expr) = matchParts children expr.parts := by
  rw [← same] at structural
  rw [matchPart_node, matchNode, if_pos same]
  unfold matchChildren
  rw [structural]
  rfl

/-- A node matches no name. -/
theorem matchPart_node_name (kind : String) (children : List Pattern) (name : String) :
    (node kind children).matchPart (.name name) = none :=
  matchPart_node kind children (.name name)

/-- Nodes of different kinds exclude each other. -/
theorem exclusive_of_kind_ne {kind otherKind : String} {children others : List Pattern}
    (different : kind ≠ otherKind) : Exclusive (node kind children) (node otherKind others) := by
  intro part
  cases part with
  | name name => exact Or.inl (matchPart_node_name kind children name)
  | expr expr =>
    by_cases same : expr.kind = kind
    · exact Or.inr (matchPart_node_of_ne fun sameToo => different (same.symm.trans sameToo))
    · exact Or.inl (matchPart_node_of_ne same)

/-- Nodes of one kind exclude each other when their parts do. -/
theorem exclusive_of_parts {kind : String} {children others : List Pattern}
    (structural : valueKinds.contains kind = false)
    (parts : ∀ found, matchParts children found = none ∨ matchParts others found = none) :
    Exclusive (node kind children) (node kind others) := by
  intro part
  cases part with
  | name name => exact Or.inl (matchPart_node_name kind children name)
  | expr expr =>
    by_cases same : expr.kind = kind
    · rw [matchPart_node_of_eq structural same, matchPart_node_of_eq structural same]
      exact parts expr.parts
    · exact Or.inl (matchPart_node_of_ne same)

theorem exclusive_symbol {name other : String} (different : name ≠ other) :
    Exclusive (symbol name) (symbol other) := by
  intro part
  rw [matchPart_leaf rfl, matchPart_leaf rfl, plainly, plainly]
  cases part with
  | expr expr => exact Or.inl rfl
  | name found =>
    by_cases same : found = name
    · refine Or.inr (if_neg fun sameToo => different ?_)
      exact same.symm.trans (beq_iff_eq.mp sameToo)
    · exact Or.inl (if_neg fun equal => same (beq_iff_eq.mp equal))

theorem exclusive_int {value other : Int} (different : value ≠ other) :
    Exclusive (int value) (int other) := by
  intro part
  rw [matchPart_leaf rfl, matchPart_leaf rfl, plainly, plainly]
  cases part with
  | name name => exact Or.inl rfl
  | expr expr =>
    by_cases same : expr.asInt = some value
    · refine Or.inr (if_neg fun sameToo => different ?_)
      exact Option.some.inj (same.symm.trans (beq_iff_eq.mp sameToo))
    · exact Or.inl (if_neg fun equal => same (beq_iff_eq.mp equal))

/-! ### Parts one by one -/

/-- Whether patterns for parts are told apart at some place, or by their number, before either side
takes all parts that are left. -/
def anyApart (apart : Pattern → Pattern → Bool) : List Pattern → List Pattern → Bool
  | first :: firsts, second :: seconds =>
    !first.takesRest && !second.takesRest &&
      (apart first second || anyApart apart firsts seconds)
  | [], second :: _ => !second.takesRest
  | first :: _, [] => !first.takesRest
  | [], [] => false

/-- Patterns for parts match nothing when the first of them, or the others, match nothing. -/
theorem matchParts_cons_eq_none {pattern : Pattern} {others : List Pattern} {part : Part}
    {parts : List Part} (onePart : pattern.takesRest = false)
    (unmatched : pattern.matchPart part = none ∨ matchParts others parts = none) :
    matchParts (pattern :: others) (part :: parts) = none := by
  rw [matchParts, onePart, if_neg Bool.false_ne_true]
  rcases unmatched with first | later
  · rw [first]
    rfl
  · rw [later]
    cases pattern.matchPart part <;> rfl

theorem matchParts_nil_right {pattern : Pattern} {others : List Pattern}
    (onePart : pattern.takesRest = false) : matchParts (pattern :: others) [] = none := by
  rw [matchParts, onePart, if_neg Bool.false_ne_true]

/-- Patterns for parts that are told apart never match the same parts. -/
theorem matchParts_of_anyApart {apart : Pattern → Pattern → Bool}
    (sound : ∀ first second, apart first second = true → Exclusive first second) :
    ∀ {firsts seconds : List Pattern}, anyApart apart firsts seconds = true →
      ∀ parts, matchParts firsts parts = none ∨ matchParts seconds parts = none
  | [], [], separate, _ => Bool.noConfusion separate
  | [], second :: _, separate, parts => by
    rw [anyApart, Bool.not_eq_true'] at separate
    cases parts with
    | nil => exact Or.inr (matchParts_nil_right separate)
    | cons part rest => exact Or.inl rfl
  | first :: _, [], separate, parts => by
    rw [anyApart, Bool.not_eq_true'] at separate
    cases parts with
    | nil => exact Or.inl (matchParts_nil_right separate)
    | cons part rest => exact Or.inr rfl
  | first :: firsts, second :: seconds, separate, parts => by
    rw [anyApart, Bool.and_eq_true, Bool.and_eq_true, Bool.not_eq_true', Bool.not_eq_true',
      Bool.or_eq_true] at separate
    obtain ⟨⟨firstOne, secondOne⟩, separate⟩ := separate
    cases parts with
    | nil => exact Or.inl (matchParts_nil_right firstOne)
    | cons part rest =>
      rcases separate with here | later
      · exact (sound first second here part).imp
          (fun unmatched => matchParts_cons_eq_none firstOne (Or.inl unmatched))
          (fun unmatched => matchParts_cons_eq_none secondOne (Or.inl unmatched))
      · exact (matchParts_of_anyApart sound later rest).imp
          (fun unmatched => matchParts_cons_eq_none firstOne (Or.inr unmatched))
          (fun unmatched => matchParts_cons_eq_none secondOne (Or.inr unmatched))

/-! ### Telling patterns apart -/

/-- Whether two patterns are told apart by what they ask for up to a depth. -/
def apart : (depth : Nat) → Pattern → Pattern → Bool
  | 0, _, _ => false
  | depth + 1, first, second =>
    match first, second with
    | .alternatives options, other => options.all fun option => apart depth option other
    | other, .alternatives options => options.all fun option => apart depth other option
    | .node kind children, .node otherKind others =>
      kind != otherKind || (!valueKinds.contains kind && anyApart (apart depth) children others)
    | .symbol name, .symbol other => name != other
    | .int value, .int other => value != other
    | _, _ => false

/-- Patterns that are told apart exclude each other. -/
theorem exclusive_of_apart {depth : Nat} {first second : Pattern}
    (separate : apart depth first second = true) : Exclusive first second := by
  induction depth generalizing first second with
  | zero => exact Bool.noConfusion separate
  | succ depth inductionHypothesis =>
    unfold apart at separate
    split at separate
    · exact exclusive_alternatives fun option member =>
        inductionHypothesis (List.all_eq_true.mp separate option member)
    · refine Exclusive.symm (exclusive_alternatives fun option member => Exclusive.symm ?_)
      exact inductionHypothesis (List.all_eq_true.mp separate option member)
    · next kind children otherKind others =>
      by_cases same : kind = otherKind
      · subst same
        rw [bne_self_eq_false, Bool.false_or, Bool.and_eq_true, Bool.not_eq_true'] at separate
        exact exclusive_of_parts separate.1 (matchParts_of_anyApart
          (fun _ _ => inductionHypothesis) separate.2)
      · exact exclusive_of_kind_ne same
    · exact exclusive_symbol (bne_iff_ne.mp separate)
    · exact exclusive_int (bne_iff_ne.mp separate)
    · exact Bool.noConfusion separate

end Storefront.Pattern
