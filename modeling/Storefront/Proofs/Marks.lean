import Mathlib
import Storefront.Pattern.Reading
import Storefront.Proofs.Captures

/-!
Patterns without their marks. Whether a pattern matches does not depend on the `$` in it, with one
exception: `...` takes all parts that are left only where it stands among the patterns for parts
itself. Behind a mark it takes one part, whatever that is, as `_` does there. A pattern without its
marks therefore matches the same expressions if `_` is put in the place of each marked `...` among
patterns for parts, and if there is none, the marks can just be deleted.
-/

namespace Storefront.Pattern

open Storefront.Script

/-! ### Deleting marks -/

mutual

/-- A pattern without its marks. -/
def unmarked : Pattern → Pattern
  | capture inner => inner.unmarked
  | negation inner => negation inner.unmarked
  | node kind children => node kind (unmarkedAll children)
  | alternatives options => alternatives (unmarkedAll options)
  | conjunction conjuncts => conjunction (unmarkedAll conjuncts)
  | pattern => pattern

/-- Patterns without their marks. -/
def unmarkedAll : List Pattern → List Pattern
  | [] => []
  | pattern :: others => pattern.unmarked :: unmarkedAll others

end

/-- Whether a pattern is `...` behind marks. -/
def isMarkedRest (pattern : Pattern) : Bool := !pattern.takesRest && pattern.unmarked.takesRest

mutual

/-- Whether a marked `...` stands among the patterns for the parts of a node somewhere in a pattern.
A node for values is no such place, since what it describes is matched as a whole. -/
def marksRest : Pattern → Bool
  | capture inner => inner.marksRest
  | negation inner => inner.marksRest
  | node kind children =>
    !valueKinds.contains kind && children.any isMarkedRest || marksRestAny children
  | alternatives options => marksRestAny options
  | conjunction conjuncts => marksRestAny conjuncts
  | _ => false

/-- Whether a marked `...` stands among patterns for parts somewhere in one of several patterns. -/
def marksRestAny : List Pattern → Bool
  | [] => false
  | pattern :: others => pattern.marksRest || marksRestAny others

end

mutual

/-- A pattern without its marks, and with `_` in the place of each marked `...` among patterns for
parts. -/
def observed : Pattern → Pattern
  | capture inner => inner.observed
  | negation inner => negation inner.observed
  | node kind children =>
    node kind (if valueKinds.contains kind then observedAll children else observedParts children)
  | alternatives options => alternatives (observedAll options)
  | conjunction conjuncts => conjunction (observedAll conjuncts)
  | pattern => pattern

/-- Patterns without their marks, each by itself. -/
def observedAll : List Pattern → List Pattern
  | [] => []
  | pattern :: others => pattern.observed :: observedAll others

/-- Patterns for parts without their marks. -/
def observedParts : List Pattern → List Pattern
  | [] => []
  | pattern :: others =>
    (if pattern.isMarkedRest then wildcard else pattern.observed) :: observedParts others

end

/-- What stands for a pattern for a part. -/
def observedPart (pattern : Pattern) : Pattern :=
  if pattern.isMarkedRest then wildcard else pattern.observed

theorem observedAll_eq_map (patterns : List Pattern) :
    observedAll patterns = patterns.map observed := by
  induction patterns with
  | nil => rfl
  | cons pattern others inductionHypothesis =>
    rw [observedAll, inductionHypothesis, List.map_cons]

theorem observedParts_eq_map (patterns : List Pattern) :
    observedParts patterns = patterns.map observedPart := by
  induction patterns with
  | nil => rfl
  | cons pattern others inductionHypothesis =>
    rw [observedParts, inductionHypothesis, List.map_cons, observedPart]

/-! ### Where the marks can just be deleted -/

theorem observedPart_of_not_marked {pattern : Pattern} (plain : pattern.isMarkedRest = false) :
    pattern.observedPart = pattern.observed := by
  rw [observedPart, plain, if_neg Bool.false_ne_true]

mutual

/-- If no `...` among patterns for parts is marked, there is nothing to put `_` for. -/
theorem observed_eq_unmarked :
    ∀ pattern : Pattern, pattern.marksRest = false → pattern.observed = pattern.unmarked
  | capture inner, plain => observed_eq_unmarked inner plain
  | negation inner, plain => congrArg negation (observed_eq_unmarked inner plain)
  | node kind children, plain => by
    rw [marksRest, Bool.or_eq_false_iff] at plain
    have inside := observedAll_eq_unmarkedAll children plain.2
    rw [observed, unmarked, ← inside]
    split
    · rfl
    · next structural =>
      have unmarkedChildren : children.any isMarkedRest = false := by
        rw [eq_false_of_ne_true structural] at plain
        exact plain.1
      rw [observedAll_eq_map, observedParts_eq_map]
      refine congrArg (node kind) (List.map_congr_left fun child member => ?_)
      exact observedPart_of_not_marked
        (eq_false_of_ne_true (List.any_eq_false.mp unmarkedChildren child member))
  | alternatives options, plain =>
    congrArg alternatives (observedAll_eq_unmarkedAll options plain)
  | conjunction conjuncts, plain =>
    congrArg conjunction (observedAll_eq_unmarkedAll conjuncts plain)
  | wildcard, _ | remaining, _ | helper _, _ | symbol _, _ | symbolStart _, _ | int _, _
  | float _, _ | str _, _ | bool _, _ | null, _ | ofKind _, _ => rfl

theorem observedAll_eq_unmarkedAll :
    ∀ patterns : List Pattern, marksRestAny patterns = false →
      observedAll patterns = unmarkedAll patterns
  | [], _ => rfl
  | pattern :: others, plain => by
    rw [marksRestAny, Bool.or_eq_false_iff] at plain
    rw [observedAll, unmarkedAll, observed_eq_unmarked pattern plain.1,
      observedAll_eq_unmarkedAll others plain.2]

end

/-! ### Patterns that match the same -/

/-- Two patterns match the same, whatever they capture. -/
def MatchAlike (first second : Pattern) : Prop :=
  ∀ part, (first.matchPart part).isSome = (second.matchPart part).isSome

theorem isSome_joined (first? rest? : Option (List Part)) :
    (joined first? rest?).isSome = (first?.isSome && rest?.isSome) := by
  cases first? <;> cases rest? <;> rfl

theorem isSome_plainly (matched : Bool) : (plainly matched).isSome = matched := by
  cases matched <;> rfl

section

variable {turn : Pattern → Pattern} {patterns : List Pattern}

theorem alike_alternatives (each : ∀ option ∈ patterns, MatchAlike (turn option) option) :
    MatchAlike (alternatives (patterns.map turn)) (alternatives patterns) := by
  intro part
  rw [matchPart_alternatives, matchPart_alternatives, List.isSome_findSome?,
    List.isSome_findSome?]
  induction patterns with
  | nil => rfl
  | cons option others inductionHypothesis =>
    obtain ⟨first, rest⟩ := List.forall_mem_cons.mp each
    rw [List.map_cons, List.any_cons, List.any_cons, first part, inductionHypothesis rest]

theorem alike_conjunction (each : ∀ conjunct ∈ patterns, MatchAlike (turn conjunct) conjunct) :
    MatchAlike (conjunction (patterns.map turn)) (conjunction patterns) := by
  intro part
  rw [matchPart_conjunction, matchPart_conjunction]
  induction patterns with
  | nil => rfl
  | cons conjunct others inductionHypothesis =>
    obtain ⟨first, rest⟩ := List.forall_mem_cons.mp each
    rw [List.map_cons, matchAll, matchAll, isSome_joined, isSome_joined, first part,
      inductionHypothesis rest]

/-- Patterns for parts match the same parts if they match the same one by one, and the same ones
take all parts that are left. -/
theorem isSome_matchParts
    (each : ∀ child ∈ patterns,
      MatchAlike (turn child) child ∧ (turn child).takesRest = child.takesRest)
    (parts : List Part) :
    (matchParts (patterns.map turn) parts).isSome = (matchParts patterns parts).isSome := by
  induction patterns generalizing parts with
  | nil => rfl
  | cons child others inductionHypothesis =>
    obtain ⟨⟨alike, takes⟩, rest⟩ := List.forall_mem_cons.mp each
    rw [List.map_cons]
    cases parts with
    | nil => rw [matchParts, matchParts, takes]
    | cons part parts =>
      rw [matchParts, matchParts, takes]
      split
      · rfl
      · rw [isSome_joined, isSome_joined, alike part, inductionHypothesis rest]

/-- A node for values matches the same if the only pattern in it does. -/
theorem isSome_matchChildren_value {expr : Expr} (value : valueKinds.contains expr.kind = true)
    (each : ∀ child ∈ patterns, MatchAlike (turn child) child) :
    (matchChildren (patterns.map turn) expr).isSome = (matchChildren patterns expr).isSome := by
  rw [matchChildren.eq_def, matchChildren.eq_def, if_pos value, if_pos value]
  rcases patterns with _ | ⟨only, _ | ⟨other, rest⟩⟩
  · rfl
  · exact each only List.mem_cons_self (.expr expr)
  · rfl

end

/-- Nodes of one kind match the same if their patterns match the same parts. -/
theorem alike_node {kind : String} {children others : List Pattern}
    (each : ∀ expr : Expr, expr.kind = kind →
      (matchChildren children expr).isSome = (matchChildren others expr).isSome) :
    MatchAlike (node kind children) (node kind others) := by
  intro part
  rw [matchPart_node, matchPart_node]
  cases part with
  | name name => rfl
  | expr expr =>
    rw [matchNode, matchNode]
    split
    · next same => exact each expr same
    · rfl

/-! ### Marked rests -/

/-- Marks in front of `...` leave a pattern that matches everything. -/
theorem isSome_of_takesRest_unmarked (part : Part) :
    ∀ pattern : Pattern, pattern.unmarked.takesRest = true → (pattern.matchPart part).isSome
  | capture inner, rest => by
    rw [matchPart_capture, Option.isSome_map]
    exact isSome_of_takesRest_unmarked part inner rest
  | remaining, _ => by
    rw [matchPart_leaf rfl]
    rfl

theorem takesRest_observed :
    ∀ pattern : Pattern, pattern.observed.takesRest = pattern.unmarked.takesRest
  | capture inner => takesRest_observed inner
  | negation _ | node _ _ | alternatives _ | conjunction _ | wildcard | remaining | helper _
  | symbol _ | symbolStart _ | int _ | float _ | str _ | bool _ | null | ofKind _ => rfl

theorem takesRest_unmarked {pattern : Pattern} (plain : pattern.isMarkedRest = false) :
    pattern.unmarked.takesRest = pattern.takesRest := by
  cases pattern with
  | capture inner => exact plain
  | _ => rfl

/-- What stands for a pattern for a part takes all parts that are left only if the pattern does. -/
theorem takesRest_observedPart (pattern : Pattern) :
    pattern.observedPart.takesRest = pattern.takesRest := by
  rw [observedPart]
  split
  · next marked =>
    rw [isMarkedRest, Bool.and_eq_true, Bool.not_eq_true'] at marked
    rw [marked.1]
    rfl
  · next plain =>
    rw [takesRest_observed, takesRest_unmarked (eq_false_of_ne_true plain)]

/-- What stands for a pattern for a part matches the same, and so does the pattern without its
marks, if that is what stands for it. -/
theorem alike_observedPart {pattern : Pattern} (alike : MatchAlike pattern.observed pattern) :
    MatchAlike pattern.observedPart pattern := by
  intro part
  rw [observedPart]
  split
  · next marked =>
    rw [isMarkedRest, Bool.and_eq_true] at marked
    rw [isSome_of_takesRest_unmarked part pattern marked.2, matchPart_leaf rfl]
    rfl
  · exact alike part

/-! ### Every pattern -/

/-- A pattern matches the same without its marks, if `_` stands for each marked `...` among patterns
for parts. -/
theorem alike_observed (pattern : Pattern) : MatchAlike pattern.observed pattern :=
  match pattern with
  | capture inner => fun part => by
    rw [observed, matchPart_capture, Option.isSome_map]
    exact alike_observed inner part
  | negation inner => fun part => by
    rw [observed, matchPart_negation, matchPart_negation, isSome_plainly, isSome_plainly,
      ← Option.not_isSome, ← Option.not_isSome, alike_observed inner part]
  | node kind children => by
    rw [observed]
    refine alike_node fun expr same => ?_
    subst same
    split
    · next value =>
      rw [observedAll_eq_map]
      exact isSome_matchChildren_value value fun child _ => alike_observed child
    · next structural =>
      rw [observedParts_eq_map, matchChildren.eq_def, matchChildren.eq_def, if_neg structural,
        if_neg structural]
      exact isSome_matchParts (fun child _ =>
        ⟨alike_observedPart (alike_observed child), takesRest_observedPart child⟩) expr.parts
  | alternatives options => by
    rw [observed, observedAll_eq_map]
    exact alike_alternatives fun option _ => alike_observed option
  | conjunction conjuncts => by
    rw [observed, observedAll_eq_map]
    exact alike_conjunction fun conjunct _ => alike_observed conjunct
  | wildcard | remaining | helper _ | symbol _ | symbolStart _ | int _ | float _ | str _ | bool _
  | null | ofKind _ => fun _ => rfl
termination_by pattern

/-! ### Whole matches -/

/-- Whether a pattern matches an expression does not depend on its marks. They can be deleted if
none of them stands in front of a `...` among patterns for parts; where one does, `_` is to be put
in its place. -/
theorem isSome_matchExpr_unmarked (pattern : Pattern) (expr : Expr) :
    (pattern.marksRest = false →
      (pattern.unmarked.matchExpr expr).isSome = (pattern.matchExpr expr).isSome) ∧
    (pattern.observed.matchExpr expr).isSome = (pattern.matchExpr expr).isSome := by
  have alike := alike_observed pattern (.expr expr)
  exact ⟨fun plain => observed_eq_unmarked pattern plain ▸ alike, alike⟩

/-- A call of a member whose name is brought back, with any arguments. -/
def markedCall : Pattern :=
  .node "call" [.node "member" [.capture .wildcard, .capture (.symbol "f")], .remaining]

/-- A call of a member with two arguments. -/
def callOfTwo : Expr := .call (.member (.ident "a") "f") [.int 1, .int 2]

/-- Without its marks the pattern still matches a call with two arguments. -/
theorem isSome_matchExpr_markedCall :
    markedCall.marksRest = false ∧ (markedCall.matchExpr callOfTwo).isSome ∧
      markedCall.unmarked =
        .node "call" [.node "member" [.wildcard, .symbol "f"], .remaining] ∧
      (markedCall.unmarked.matchExpr callOfTwo).isSome := by
  have matched : (markedCall.matchExpr callOfTwo).isSome := by decide
  exact ⟨rfl, matched, rfl, ((isSome_matchExpr_unmarked markedCall callOfTwo).1 rfl).trans matched⟩

/-- A marked `...` takes one argument only, so a call with two is among those that the pattern for
calls with marked arguments excludes. Without its mark the pattern excludes all calls. -/
theorem marked_rest_takes_one :
    ∃ pattern, parse "!(call _ $...)" = .ok pattern ∧ (pattern.matchExpr callOfTwo).isSome = true ∧
      parse "!(call _ ...)" = .ok pattern.unmarked ∧
      (pattern.unmarked.matchExpr callOfTwo).isSome = false :=
  ⟨.negation (.node "call" [.wildcard, .capture .remaining]), by cbv, by decide, by cbv, by decide⟩

end Storefront.Pattern
