import Storefront.Pattern.Match

/-!
What a match does to the captures so far. A match goes through its pattern with one list of
captures, and there are several places at which the list is cut back: after a whole pattern, after
an alternative for names, after a capture. Here it is shown that these are enough. A match that
fails leaves the list as it was, and one that succeeds adds captures that have nothing to do with
the list. So the captures of a match can be told from those of the patterns within its pattern,
which is done for each form of patterns.

The parts of one list of patterns are another matter: they leave what the first ones captured when a
later one fails. So there are two invariants: `Reads` for a pattern, and `Attempt.Leaves` for a list
of patterns that must all match.
-/

namespace Storefront.Pattern

open Storefront.Script

/-! ### Endings -/

namespace Attempt

/-- The ending of an attempt that adds what was found, or leaves the captures as they were. -/
def after (captures : List Part) : Option (List Part) → Attempt
  | some found => (true, captures ++ found)
  | none => (false, captures)

/-- An attempt adds what was found, or leaves something behind the captures there were. -/
inductive Leaves (captures : List Part) : Option (List Part) → Attempt → Prop where
  | found (found : List Part) : Leaves captures (some found) (true, captures ++ found)
  | stale (stale : List Part) : Leaves captures none (false, captures ++ stale)

theorem captures?_after (found? : Option (List Part)) : (after [] found?).captures? = found? := by
  cases found? <;> rfl

theorem leaves_after (captures : List Part) (found? : Option (List Part)) :
    Leaves captures found? (after captures found?) := by
  cases found? with
  | some found => exact .found found
  | none =>
    have leaves : Leaves captures none (false, captures ++ []) := .stale []
    rwa [List.append_nil] at leaves

/-- What was left behind is cut off. -/
theorem Leaves.orCutBack {captures : List Part} {found? : Option (List Part)} {ending : Attempt}
    (leaves : Leaves captures found? ending) :
    ending.orCutBack captures = after captures found? := by
  cases leaves with
  | found found => rfl
  | stale stale => exact congrArg (Prod.mk false) List.take_left

end Attempt

open Attempt

/-- An outcome without captures. -/
def plainly (matched : Bool) : Option (List Part) := if matched then some [] else none

/-- What two matches capture one after the other. -/
def joined (first? rest? : Option (List Part)) : Option (List Part) := do
  let first ← first?
  let rest ← rest?
  some (first ++ rest)

theorem after_plainly (captures : List Part) (matched : Bool) :
    after captures (plainly matched) = (matched, captures) := by
  cases matched
  · rfl
  · exact congrArg (Prod.mk true) (List.append_nil captures)

/-- One match and then others leave what they capture together. -/
theorem leaves_andThen {captures : List Part} {first? rest? : Option (List Part)}
    {next : List Part → Attempt}
    (rest : ∀ found, Leaves (captures ++ found) rest? (next (captures ++ found))) :
    Leaves captures (joined first? rest?) ((after captures first?).andThen next) := by
  cases first? with
  | none => exact leaves_after captures none
  | some first =>
    have leaves := rest first
    show Leaves captures (joined (some first) rest?) (next (captures ++ first))
    generalize next (captures ++ first) = ending at leaves ⊢
    cases leaves with
    | found found =>
      rw [List.append_assoc]
      exact .found (first ++ found)
    | stale stale =>
      rw [List.append_assoc]
      exact .stale (first ++ stale)

/-! ### One pattern -/

/-- A pattern has an outcome at a part, whatever the captures are. -/
def Reads (pattern : Pattern) (part : Part) (found? : Option (List Part)) : Prop :=
  ∀ captures, pattern.attemptPart part captures = after captures found?

variable {pattern inner : Pattern} {patterns : List Pattern} {part : Part} {parts : List Part}

/-- The outcome is what the whole match brings back. -/
theorem Reads.matchPart_eq {found? : Option (List Part)} (reads : Reads pattern part found?) :
    pattern.matchPart part = found? := by
  rw [matchPart, reads []]
  exact captures?_after found?

theorem Reads.self {found? : Option (List Part)} (reads : Reads pattern part found?) :
    Reads pattern part (pattern.matchPart part) := by
  rw [reads.matchPart_eq]
  exact reads

/-- A pattern without patterns within it captures nothing. -/
def isLeaf : Pattern → Bool
  | node _ _ | alternatives _ | conjunction _ | negation _ | capture _ => false
  | _ => true

theorem reads_leaf (leaf : pattern.isLeaf = true) (part : Part) :
    Reads pattern part (plainly (pattern.accepts part)) := by
  intro captures
  have cut (matched : Bool) :
      Attempt.orCutBack captures (matched, captures) = (matched, captures) := by
    cases matched
    · exact congrArg (Prod.mk false) List.take_length
    · rfl
  rw [after_plainly]
  cases part with
  | expr expr =>
    have unfolded : pattern.attemptExpr expr captures =
        Attempt.orCutBack captures (pattern.accepts (.expr expr), captures) := by
      cases pattern with
      | node _ _ | alternatives _ | conjunction _ | negation _ | capture _ => cases leaf
      | _ => rfl
    exact unfolded.trans (cut _)
  | name name =>
    cases pattern with
    | node _ _ | alternatives _ | conjunction _ | negation _ | capture _ => cases leaf
    | _ => rfl

theorem reads_negation (reads : Reads inner part (inner.matchPart part)) :
    Reads (negation inner) part (plainly (inner.matchPart part).isNone) := by
  intro captures
  have inverted : (!(inner.attemptPart part []).1) = (inner.matchPart part).isNone := by
    rw [reads []]
    cases inner.matchPart part <;> rfl
  rw [← inverted]
  cases part with
  | expr expr =>
    show Attempt.orCutBack captures (!(inner.attemptExpr expr []).1, captures) = _
    exact Leaves.orCutBack (after_plainly captures _ ▸ leaves_after captures _)
  | name name => exact (after_plainly captures _).symm

theorem reads_capture (reads : Reads inner part (inner.matchPart part)) :
    Reads (capture inner) part ((inner.matchPart part).map (part :: ·)) := by
  intro captures
  have cut : (inner.attemptPart part (captures ++ [part])).orCutBack captures =
      after captures ((inner.matchPart part).map (part :: ·)) := by
    rw [reads]
    cases inner.matchPart part with
    | none => exact congrArg (Prod.mk false) List.take_left
    | some found => exact congrArg (Prod.mk true) (List.append_cons captures part found).symm
  cases part with
  | expr expr =>
    show Attempt.orCutBack captures (Attempt.orCutBack captures _) = _
    exact cut ▸ (leaves_after captures _).orCutBack
  | name name => exact cut

/-! ### Several patterns -/

/-- Each of some patterns has the outcome that it brings back. -/
def AllRead (patterns : List Pattern) (part : Part) : Prop :=
  ∀ pattern ∈ patterns, Reads pattern part (pattern.matchPart part)

theorem attemptAny_eq {expr : Expr} (read : AllRead patterns (.expr expr)) (captures : List Part) :
    attemptAny patterns expr captures =
      after captures (patterns.findSome? (·.matchPart (.expr expr))) := by
  induction patterns with
  | nil => rfl
  | cons pattern others inductionHypothesis =>
    obtain ⟨first, rest⟩ := List.forall_mem_cons.mp read
    have here : pattern.attemptExpr expr captures = _ := first captures
    rw [attemptAny, here, List.findSome?_cons]
    cases pattern.matchPart (.expr expr) with
    | some found => rfl
    | none => exact inductionHypothesis rest

theorem attemptAnyName_eq {name : String} (read : AllRead patterns (.name name))
    (captures : List Part) :
    attemptAnyName patterns name captures =
      after captures (patterns.findSome? (·.matchPart (.name name))) := by
  induction patterns with
  | nil => rfl
  | cons pattern others inductionHypothesis =>
    obtain ⟨first, rest⟩ := List.forall_mem_cons.mp read
    have here : pattern.attemptName name captures = _ := first captures
    rw [attemptAnyName, here, List.findSome?_cons]
    cases pattern.matchPart (.name name) with
    | some found => rfl
    | none =>
      show attemptAnyName others name (captures.take captures.length) = _
      rw [List.take_length]
      exact inductionHypothesis rest

theorem reads_alternatives (read : AllRead patterns part) :
    Reads (alternatives patterns) part (patterns.findSome? (·.matchPart part)) := by
  intro captures
  cases part with
  | expr expr =>
    show Attempt.orCutBack captures (attemptAny patterns expr captures) = _
    rw [attemptAny_eq read]
    exact (leaves_after captures _).orCutBack
  | name name => exact attemptAnyName_eq read captures

/-- Matches all patterns of a list with one part. -/
def matchAll (patterns : List Pattern) (part : Part) : Option (List Part) :=
  match patterns with
  | [] => some []
  | pattern :: others => joined (pattern.matchPart part) (matchAll others part)

theorem leaves_nothing (captures : List Part) : Leaves captures (some []) (true, captures) := by
  have leaves : Leaves captures (some []) (true, captures ++ []) := .found []
  rwa [List.append_nil] at leaves

theorem leaves_none (captures : List Part) : Leaves captures none (false, captures) :=
  leaves_after captures none

theorem attemptAll_leaves {expr : Expr} (read : AllRead patterns (.expr expr))
    (captures : List Part) :
    Leaves captures (matchAll patterns (.expr expr)) (attemptAll patterns expr captures) := by
  induction patterns generalizing captures with
  | nil => exact leaves_nothing captures
  | cons pattern others inductionHypothesis =>
    obtain ⟨first, rest⟩ := List.forall_mem_cons.mp read
    have here : pattern.attemptExpr expr captures = _ := first captures
    rw [attemptAll, here]
    exact leaves_andThen fun found => inductionHypothesis rest (captures ++ found)

theorem attemptAllNames_leaves {name : String} (read : AllRead patterns (.name name))
    (captures : List Part) :
    Leaves captures (matchAll patterns (.name name)) (attemptAllNames patterns name captures) := by
  induction patterns generalizing captures with
  | nil => exact leaves_nothing captures
  | cons pattern others inductionHypothesis =>
    obtain ⟨first, rest⟩ := List.forall_mem_cons.mp read
    have here : pattern.attemptName name captures = _ := first captures
    rw [attemptAllNames, here]
    exact leaves_andThen fun found => inductionHypothesis rest (captures ++ found)

theorem reads_conjunction (read : AllRead patterns part) :
    Reads (conjunction patterns) part (matchAll patterns part) := by
  intro captures
  cases part with
  | expr expr => exact (attemptAll_leaves read captures).orCutBack
  | name name => exact (attemptAllNames_leaves read captures).orCutBack

/-! ### Nodes -/

/-- Whether a pattern takes all parts that are left. -/
def takesRest : Pattern → Bool
  | .remaining => true
  | _ => false

/-- Matches patterns against parts one by one, up to a pattern that takes all parts that are
left. -/
def matchParts : (patterns : List Pattern) → (parts : List Part) → Option (List Part)
  | [], [] => some []
  | [], _ :: _ => none
  | pattern :: _, [] => if pattern.takesRest then some [] else none
  | pattern :: others, part :: rest =>
    if pattern.takesRest then some []
    else joined (pattern.matchPart part) (matchParts others rest)

theorem attemptParts_leaves
    (read : ∀ pattern ∈ patterns, ∀ part, Reads pattern part (pattern.matchPart part))
    (parts captures : List Part) :
    Leaves captures (matchParts patterns parts) (attemptParts patterns parts captures) := by
  induction patterns generalizing parts captures with
  | nil =>
    cases parts with
    | nil => exact leaves_nothing captures
    | cons part rest => exact leaves_none captures
  | cons pattern others inductionHypothesis =>
    obtain ⟨first, rest⟩ := List.forall_mem_cons.mp read
    cases takes : pattern.takesRest with
    | true =>
      obtain rfl : pattern = .remaining := by
        cases pattern <;> first | rfl | cases takes
      cases parts <;> exact leaves_nothing captures
    | false =>
      have notRest : pattern = .remaining → False := by
        rintro rfl
        cases takes
      cases parts with
      | nil =>
        rw [matchParts, takes, attemptParts.eq_4 _ _ _ notRest]
        exact leaves_none captures
      | cons part parts =>
        rw [matchParts, takes, if_neg Bool.false_ne_true]
        have here := first part captures
        cases part with
        | expr expr =>
          rw [attemptParts.eq_5 _ _ _ _ _ notRest]
          rw [show pattern.attemptExpr expr captures = _ from here]
          exact leaves_andThen fun found => inductionHypothesis rest parts (captures ++ found)
        | name name =>
          rw [attemptParts.eq_6 _ _ _ _ _ notRest]
          rw [show pattern.attemptName name captures = _ from here]
          exact leaves_andThen fun found => inductionHypothesis rest parts (captures ++ found)

/-- Matches the patterns for the parts of an expression. An expression that holds a value counts as
its only part, which need not be described. -/
def matchChildren (children : List Pattern) (expr : Expr) : Option (List Part) :=
  if valueKinds.contains expr.kind then
    match children with
    | [] => some []
    | [only] => only.matchPart (.expr expr)
    | _ => none
  else matchParts children expr.parts

/-- What a node captures, which matches no name. -/
def matchNode (kind : String) (children : List Pattern) : Part → Option (List Part)
  | .expr expr => if expr.kind = kind then matchChildren children expr else none
  | .name _ => none

theorem reads_node {kind : String} {children : List Pattern}
    (read : ∀ child ∈ children, ∀ part, Reads child part (child.matchPart part)) (part : Part) :
    Reads (node kind children) part (matchNode kind children part) := by
  intro captures
  cases part with
  | name name => rfl
  | expr expr =>
    show (node kind children).attemptExpr expr captures = _
    unfold attemptExpr matchNode matchChildren
    dsimp only
    by_cases same : expr.kind = kind
    · subst same
      rw [if_pos rfl, if_pos rfl]
      cases valueKinds.contains expr.kind with
      | false => exact (attemptParts_leaves read expr.parts captures).orCutBack
      | true =>
        cases children with
        | nil => exact (leaves_nothing captures).orCutBack
        | cons only others =>
          cases others with
          | nil =>
            have here : only.attemptExpr expr captures = _ :=
              read only List.mem_cons_self (.expr expr) captures
            rw [if_pos rfl, if_pos rfl]
            dsimp only
            rw [here]
            exact (leaves_after captures _).orCutBack
          | cons other rest => exact (leaves_none captures).orCutBack
    · rw [if_neg same, if_neg same]
      exact (leaves_none captures).orCutBack

/-! ### Every pattern -/

/-- What a match brings back is what it adds to any captures, and if it brings back nothing it
leaves them as they were. -/
theorem reads (pattern : Pattern) (part : Part) : Reads pattern part (pattern.matchPart part) :=
  match pattern with
  | node _ children => (reads_node (fun child _ => reads child) part).self
  | alternatives options => (reads_alternatives fun option _ => reads option part).self
  | conjunction parts => (reads_conjunction fun conjunct _ => reads conjunct part).self
  | negation inner => (reads_negation (reads inner part)).self
  | capture inner => (reads_capture (reads inner part)).self
  | wildcard | remaining | helper _ | symbol _ | symbolStart _ | int _ | float _ | str _ | bool _
  | null | ofKind _ => (reads_leaf rfl part).self
termination_by pattern

theorem matchPart_leaf (leaf : pattern.isLeaf = true) (part : Part) :
    pattern.matchPart part = plainly (pattern.accepts part) :=
  (reads_leaf leaf part).matchPart_eq

theorem matchPart_node (kind : String) (children : List Pattern) (part : Part) :
    (node kind children).matchPart part = matchNode kind children part :=
  (reads_node (fun child _ => reads child) part).matchPart_eq

theorem matchPart_alternatives (options : List Pattern) (part : Part) :
    (alternatives options).matchPart part = options.findSome? (·.matchPart part) :=
  (reads_alternatives fun option _ => reads option part).matchPart_eq

theorem matchPart_conjunction (conjuncts : List Pattern) (part : Part) :
    (conjunction conjuncts).matchPart part = matchAll conjuncts part :=
  (reads_conjunction fun conjunct _ => reads conjunct part).matchPart_eq

theorem matchPart_negation (inner : Pattern) (part : Part) :
    (negation inner).matchPart part = plainly (inner.matchPart part).isNone :=
  (reads_negation (reads inner part)).matchPart_eq

theorem matchPart_capture (inner : Pattern) (part : Part) :
    (capture inner).matchPart part = (inner.matchPart part).map (part :: ·) :=
  (reads_capture (reads inner part)).matchPart_eq

end Storefront.Pattern
