import Storefront.Proofs.Captures

/-!
What a pattern means. A pattern is read as a statement about what stands at one place of an
expression and about the captures that come of it, without saying how they are found. The statement
determines the captures, and a match goes by it: what the pattern means is what the match adds to
the captures so far, and a pattern that means nothing at a place leaves them as they were.

What a pattern captures stands within what it is matched with.
-/

namespace Storefront

open Storefront.Script

/-- What stands at a place, or within what stands there. -/
inductive Part.Inside (inner : Part) : Part → Prop where
  | here : Inside inner inner
  | deeper {expr : Expr} {part : Part} (member : part ∈ expr.parts)
      (inside : Inside inner part) : Inside inner (.expr expr)

namespace Pattern

/-! ### Reading patterns as statements -/

/-- What patterns say of one part after the other, and all their captures in order. The pattern
`...` says nothing of the parts from its own on, nor do patterns after it; without it there are as
many patterns as parts. -/
inductive PartByPart (holds : Pattern → Part → List Part → Prop) :
    List Pattern → List Part → List Part → Prop where
  | none : PartByPart holds [] [] []
  | rest {child : Pattern} {others : List Pattern} {parts : List Part}
      (takes : child.takesRest = true) : PartByPart holds (child :: others) parts []
  | next {child : Pattern} {others : List Pattern} {part : Part} {parts found captures : List Part}
      (single : child.takesRest = false) (here : holds child part found)
      (later : PartByPart holds others parts captures) :
      PartByPart holds (child :: others) (part :: parts) (found ++ captures)

/-- What patterns say of one and the same part, and all their captures in order. -/
inductive AllAtOnce (holds : Pattern → List Part → Prop) : List Pattern → List Part → Prop where
  | none : AllAtOnce holds [] []
  | next {conjunct : Pattern} {others : List Pattern} {found captures : List Part}
      (here : holds conjunct found) (later : AllAtOnce holds others captures) :
      AllAtOnce holds (conjunct :: others) (found ++ captures)

/-- What a pattern says of a part and of the captures. -/
def Means (pattern : Pattern) (part : Part) (captures : List Part) : Prop :=
  match pattern with
  | wildcard | remaining => captures = []
  | helper _ => False
  | symbol name => part = .name name ∧ captures = []
  | symbolStart start =>
    ∃ name : String, part = .name name ∧ start.toList <+: name.toList ∧ captures = []
  | int value => part = .expr (.int value) ∧ captures = []
  | float value =>
    ∃ found : Number.Double, part = .expr (.float found) ∧
      (found.convert .single).equal (value.convert .single) = true ∧ captures = []
  | str value => part = .expr (.str value) ∧ captures = []
  | bool value => part = .expr (.bool value) ∧ captures = []
  | null => part = .expr .null ∧ captures = []
  | ofKind kind => ∃ expr : Expr, part = .expr expr ∧ expr.kind = kind ∧ captures = []
  | alternatives options =>
    -- The first one that means something.
    ∃ earlier option later, ∃ _ : options = earlier ++ option :: later,
      (∀ other, ∀ _ : other ∈ earlier, ∀ found, ¬ Means other part found) ∧
        Means option part captures
  | conjunction conjuncts =>
    AllAtOnce (fun conjunct found => ∃ _ : conjunct ∈ conjuncts, Means conjunct part found)
      conjuncts captures
  | negation inner => (∀ found, ¬ Means inner part found) ∧ captures = []
  | capture inner => ∃ found, captures = part :: found ∧ Means inner part found
  | node kind children =>
    ∃ expr : Expr, part = .expr expr ∧ expr.kind = kind ∧
      if valueKinds.contains kind then
        children = [] ∧ captures = [] ∨ ∃ only, ∃ _ : children = [only], Means only part captures
      else
        PartByPart (fun child inner found => ∃ _ : child ∈ children, Means child inner found)
          children expr.parts captures
termination_by pattern
decreasing_by
  all_goals apply sizeOf_lt_of_mem_inner
  · exact ‹options = _› ▸ List.mem_append_left _ ‹_›
  · exact ‹options = _› ▸ List.mem_append_cons_self
  · exact ‹conjunct ∈ conjuncts›
  · exact List.mem_cons_self
  · exact List.mem_cons_self
  · exact ‹children = _› ▸ List.mem_cons_self
  · exact ‹child ∈ children›

/-! ### Patterns without patterns within them -/

variable {pattern : Pattern} {part : Part} {captures : List Part}

theorem plainly_eq_some_iff {matched : Bool} :
    plainly matched = some captures ↔ matched = true ∧ captures = [] := by
  cases matched <;> simp [plainly, eq_comm]

theorem asInt_eq_some_iff {expr : Expr} {value : Int} :
    expr.asInt = some value ↔ expr = .int value := by
  cases expr <;> simp [Expr.asInt]

theorem kind_eq_null_iff {expr : Expr} : expr.kind = "null" ↔ expr = .null := by
  cases expr with
  | bool value => cases value <;> simp [Expr.kind]
  | unary op operand => cases op <;> simp [Expr.kind, UnaryOp.name]
  | binary op left right => cases op <;> simp [Expr.kind, BinaryOp.name]
  | assign op target value => cases op <;> simp [Expr.kind]
  | _ => simp [Expr.kind]

theorem accepts_iff_means (leaf : pattern.isLeaf = true) :
    pattern.accepts part = true ∧ captures = [] ↔ pattern.Means part captures := by
  cases part with
  | name name =>
    cases pattern with
    | node _ _ | alternatives _ | conjunction _ | negation _ | capture _ => cases leaf
    | _ => simp [accepts, Means]
  | expr expr =>
    cases pattern with
    | node _ _ | alternatives _ | conjunction _ | negation _ | capture _ => cases leaf
    | int value => simp [accepts, Means, asInt_eq_some_iff]
    | null => simp [accepts, Means, kind_eq_null_iff]
    | float value => cases expr <;> simp [accepts, Means, floatMatches]
    | str value => cases expr <;> simp [accepts, Means]
    | bool value => cases expr <;> simp [accepts, Means]
    | _ => simp [accepts, Means]

/-! ### Lists of patterns -/

theorem joined_eq_some_iff {first? rest? : Option (List Part)} :
    joined first? rest? = some captures ↔
      ∃ first rest, first? = some first ∧ rest? = some rest ∧ captures = first ++ rest := by
  cases first? <;> cases rest? <;> simp [joined, eq_comm]

theorem matchAll_eq_some_iff {conjuncts : List Pattern} :
    matchAll conjuncts part = some captures ↔
      AllAtOnce (fun conjunct found => conjunct.matchPart part = some found) conjuncts
        captures := by
  induction conjuncts generalizing captures with
  | nil =>
    constructor
    · rintro ⟨⟩
      exact .none
    · rintro ⟨⟩
      rfl
  | cons conjunct others inductionHypothesis =>
    rw [matchAll, joined_eq_some_iff]
    constructor
    · rintro ⟨first, rest, here, later, rfl⟩
      exact .next here (inductionHypothesis.mp later)
    · intro all
      cases all with
      | next here later => exact ⟨_, _, here, inductionHypothesis.mpr later, rfl⟩

theorem matchParts_eq_some_iff {children : List Pattern} {parts : List Part} :
    matchParts children parts = some captures ↔
      PartByPart (fun child inner found => child.matchPart inner = some found) children parts
        captures := by
  induction children generalizing parts captures with
  | nil =>
    constructor
    · intro matched
      cases parts with
      | nil =>
        cases matched
        exact .none
      | cons part parts => cases matched
    · rintro ⟨⟩
      rfl
  | cons child others inductionHypothesis =>
    cases takes : child.takesRest with
    | true =>
      have everything : matchParts (child :: others) parts = some [] := by
        cases parts <;> simp only [matchParts, takes, if_true]
      rw [everything]
      constructor
      · rintro ⟨⟩
        exact .rest takes
      · intro all
        cases all with
        | rest _ => rfl
        | next single _ _ => cases takes.symm.trans single
    | false =>
      cases parts with
      | nil =>
        rw [matchParts, takes, if_neg Bool.false_ne_true]
        constructor
        · rintro ⟨⟩
        · intro all
          cases all with
          | rest isRest => cases takes.symm.trans isRest
      | cons part parts =>
        rw [matchParts, takes, if_neg Bool.false_ne_true, joined_eq_some_iff]
        constructor
        · rintro ⟨first, rest, here, later, rfl⟩
          exact .next takes here (inductionHypothesis.mp later)
        · intro all
          cases all with
          | rest isRest => cases takes.symm.trans isRest
          | next _ here later => exact ⟨_, _, here, inductionHypothesis.mpr later, rfl⟩

/-- Only what is said by the conjuncts themselves counts. -/
theorem AllAtOnce.imp {holds other : Pattern → List Part → Prop} {conjuncts : List Pattern}
    (implies : ∀ conjunct ∈ conjuncts, ∀ found, holds conjunct found → other conjunct found)
    (all : AllAtOnce holds conjuncts captures) : AllAtOnce other conjuncts captures := by
  induction all with
  | none => exact .none
  | next here later inductionHypothesis =>
    obtain ⟨first, rest⟩ := List.forall_mem_cons.mp implies
    exact .next (first _ here) (inductionHypothesis rest)

/-- Only what is said by the patterns themselves counts. -/
theorem PartByPart.imp {holds other : Pattern → Part → List Part → Prop} {children : List Pattern}
    {parts : List Part}
    (implies : ∀ child ∈ children, ∀ inner found, holds child inner found →
      other child inner found)
    (all : PartByPart holds children parts captures) :
    PartByPart other children parts captures := by
  induction all with
  | none => exact .none
  | rest takes => exact .rest takes
  | next single here later inductionHypothesis =>
    obtain ⟨first, rest⟩ := List.forall_mem_cons.mp implies
    exact .next single (first _ _ here) (inductionHypothesis rest)

/-! ### One pattern -/

/-- What a match with a pattern brings back is what the pattern means. -/
def Faithful (pattern : Pattern) : Prop :=
  ∀ part captures, pattern.matchPart part = some captures ↔ pattern.Means part captures

theorem Faithful.eq_none_iff (faithful : pattern.Faithful) :
    pattern.matchPart part = none ↔ ∀ found, ¬ pattern.Means part found :=
  Option.eq_none_iff_forall_ne_some.trans
    (forall_congr' fun found => not_congr (faithful part found))

theorem faithful_leaf (leaf : pattern.isLeaf = true) : pattern.Faithful := by
  intro part captures
  rw [matchPart_leaf leaf, plainly_eq_some_iff]
  exact accepts_iff_means leaf

theorem faithful_negation {inner : Pattern} (faithful : inner.Faithful) :
    (negation inner).Faithful := by
  intro part captures
  rw [matchPart_negation, plainly_eq_some_iff, Option.isNone_iff_eq_none, faithful.eq_none_iff,
    Means]

theorem faithful_capture {inner : Pattern} (faithful : inner.Faithful) :
    (capture inner).Faithful := by
  intro part captures
  rw [matchPart_capture, Option.map_eq_some_iff, Means]
  exact exists_congr fun found => and_comm.trans (and_congr eq_comm (faithful part found))

theorem faithful_alternatives {options : List Pattern}
    (faithful : ∀ option ∈ options, option.Faithful) : (alternatives options).Faithful := by
  intro part captures
  rw [matchPart_alternatives, List.findSome?_eq_some_iff, Means]
  constructor
  · rintro ⟨earlier, option, later, rfl, matched, failed⟩
    refine ⟨earlier, option, later, rfl, fun other member => ?_, ?_⟩
    · exact (faithful other (List.mem_append_left _ member)).eq_none_iff.mp (failed other member)
    · exact (faithful option List.mem_append_cons_self part captures).mp matched
  · rintro ⟨earlier, option, later, rfl, meaningless, means⟩
    refine ⟨earlier, option, later, rfl, ?_, fun other member => ?_⟩
    · exact (faithful option List.mem_append_cons_self part captures).mpr means
    · exact (faithful other (List.mem_append_left _ member)).eq_none_iff.mpr
        (meaningless other member)

theorem faithful_conjunction {conjuncts : List Pattern}
    (faithful : ∀ conjunct ∈ conjuncts, conjunct.Faithful) : (conjunction conjuncts).Faithful := by
  intro part captures
  rw [matchPart_conjunction, matchAll_eq_some_iff, Means]
  constructor
  · exact AllAtOnce.imp fun conjunct member found matched =>
      ⟨member, (faithful conjunct member part found).mp matched⟩
  · exact AllAtOnce.imp fun conjunct _ found ⟨member, means⟩ =>
      (faithful conjunct member part found).mpr means

/-- An expression that holds a value is the only part that may be described. -/
theorem matchOnly_eq_some_iff {children : List Pattern} {expr : Expr}
    (value : valueKinds.contains expr.kind = true)
    (faithful : ∀ child ∈ children, child.Faithful) :
    matchChildren children expr = some captures ↔
      children = [] ∧ captures = [] ∨
        ∃ only, ∃ _ : children = [only], Means only (.expr expr) captures := by
  rw [matchChildren.eq_def, if_pos value]
  cases children with
  | nil => simp [eq_comm]
  | cons only others =>
    cases others with
    | nil =>
      have here := faithful only List.mem_cons_self (.expr expr) captures
      simp [here]
    | cons other rest => simp

theorem matchSeveral_eq_some_iff {children : List Pattern} {expr : Expr}
    (several : ¬ valueKinds.contains expr.kind = true)
    (faithful : ∀ child ∈ children, child.Faithful) :
    matchChildren children expr = some captures ↔
      PartByPart (fun child inner found => ∃ _ : child ∈ children, Means child inner found)
        children expr.parts captures := by
  rw [matchChildren.eq_def, if_neg several, matchParts_eq_some_iff]
  constructor
  · exact PartByPart.imp fun child member inner found matched =>
      ⟨member, (faithful child member inner found).mp matched⟩
  · exact PartByPart.imp fun child _ inner found ⟨member, means⟩ =>
      (faithful child member inner found).mpr means

theorem faithful_node {kind : String} {children : List Pattern}
    (faithful : ∀ child ∈ children, child.Faithful) : (node kind children).Faithful := by
  intro part captures
  rw [matchPart_node, Means]
  cases part with
  | name name => simp [matchNode]
  | expr expr =>
    rw [matchNode, Option.ite_none_right_eq_some]
    constructor
    · rintro ⟨rfl, matched⟩
      refine ⟨expr, rfl, rfl, ?_⟩
      by_cases value : valueKinds.contains expr.kind = true
      · rw [if_pos value]
        exact (matchOnly_eq_some_iff value faithful).mp matched
      · rw [if_neg value]
        exact (matchSeveral_eq_some_iff value faithful).mp matched
    · rintro ⟨other, same, rfl, means⟩
      cases same
      refine ⟨rfl, ?_⟩
      by_cases value : valueKinds.contains expr.kind = true
      · rw [if_pos value] at means
        exact (matchOnly_eq_some_iff value faithful).mpr means
      · rw [if_neg value] at means
        exact (matchSeveral_eq_some_iff value faithful).mpr means

/-! ### Every pattern -/

/-- What a match with a pattern brings back is what the pattern means. -/
theorem faithful (pattern : Pattern) : pattern.Faithful :=
  match pattern with
  | node _ children => faithful_node fun child _ => faithful child
  | alternatives options => faithful_alternatives fun option _ => faithful option
  | conjunction conjuncts => faithful_conjunction fun conjunct _ => faithful conjunct
  | negation inner => faithful_negation (faithful inner)
  | capture inner => faithful_capture (faithful inner)
  | wildcard | remaining | helper _ | symbol _ | symbolStart _ | int _ | float _ | str _ | bool _
  | null | ofKind _ => faithful_leaf rfl
termination_by pattern

/-- A pattern means one list of captures at most. -/
theorem Means.unique {found : List Part} (means : pattern.Means part captures)
    (other : pattern.Means part found) : found = captures := by
  rw [← pattern.faithful part] at means other
  exact Option.some.inj (other.symm.trans means)

/-! ### Where captures stand -/

/-- All that a pattern captures stands within what it is matched with. -/
def Contained (pattern : Pattern) : Prop :=
  ∀ part captures, pattern.Means part captures → ∀ capture ∈ captures, capture.Inside part

/-- Whatever conjuncts capture, one of them does. -/
theorem AllAtOnce.exists_of_mem {holds : Pattern → List Part → Prop} {conjuncts : List Pattern}
    (all : AllAtOnce holds conjuncts captures) {capture : Part} (captured : capture ∈ captures) :
    ∃ conjunct found, holds conjunct found ∧ capture ∈ found := by
  induction all with
  | none => cases captured
  | next here later inductionHypothesis =>
    rcases List.mem_append.mp captured with first | rest
    · exact ⟨_, _, here, first⟩
    · exact inductionHypothesis rest

/-- Whatever patterns for parts capture, one of them does at one of the parts. -/
theorem PartByPart.exists_of_mem {holds : Pattern → Part → List Part → Prop}
    {children : List Pattern} {parts : List Part}
    (all : PartByPart holds children parts captures) {capture : Part}
    (captured : capture ∈ captures) :
    ∃ child found, ∃ inner ∈ parts, holds child inner found ∧ capture ∈ found := by
  induction all with
  | none => cases captured
  | rest takes => cases captured
  | next single here later inductionHypothesis =>
    rcases List.mem_append.mp captured with first | rest
    · exact ⟨_, _, _, List.mem_cons_self, here, first⟩
    · obtain ⟨child, found, inner, member, holds, captured⟩ := inductionHypothesis rest
      exact ⟨child, found, inner, List.mem_cons_of_mem _ member, holds, captured⟩

theorem contained_leaf (leaf : pattern.isLeaf = true) : pattern.Contained := by
  intro part captures means
  rw [((accepts_iff_means leaf).mpr means).2]
  exact nofun

theorem contained_negation (inner : Pattern) : (negation inner).Contained := by
  intro part captures means
  rw [Means] at means
  rw [means.2]
  exact nofun

theorem contained_capture {inner : Pattern} (contained : inner.Contained) :
    (capture inner).Contained := by
  intro part captures means
  rw [Means] at means
  obtain ⟨found, rfl, means⟩ := means
  exact List.forall_mem_cons.mpr ⟨.here, contained part found means⟩

theorem contained_alternatives {options : List Pattern}
    (contained : ∀ option ∈ options, option.Contained) : (alternatives options).Contained := by
  intro part captures means
  rw [Means] at means
  obtain ⟨earlier, option, later, rfl, -, means⟩ := means
  exact contained option List.mem_append_cons_self part captures means

theorem contained_conjunction {conjuncts : List Pattern}
    (contained : ∀ conjunct ∈ conjuncts, conjunct.Contained) :
    (conjunction conjuncts).Contained := by
  intro part captures means capture captured
  rw [Means] at means
  obtain ⟨conjunct, found, ⟨member, means⟩, captured⟩ := means.exists_of_mem captured
  exact contained conjunct member part found means capture captured

theorem contained_node {kind : String} {children : List Pattern}
    (contained : ∀ child ∈ children, child.Contained) : (node kind children).Contained := by
  intro part captures means capture captured
  rw [Means] at means
  obtain ⟨expr, rfl, -, means⟩ := means
  split at means
  · rcases means with ⟨-, rfl⟩ | ⟨only, rfl, means⟩
    · cases captured
    · exact contained only List.mem_cons_self _ captures means capture captured
  · obtain ⟨child, found, inner, isPart, ⟨member, means⟩, captured⟩ :=
      means.exists_of_mem captured
    exact .deeper isPart (contained child member inner found means capture captured)

theorem contained (pattern : Pattern) : pattern.Contained :=
  match pattern with
  | node _ children => contained_node fun child _ => contained child
  | alternatives options => contained_alternatives fun option _ => contained option
  | conjunction conjuncts => contained_conjunction fun conjunct _ => contained conjunct
  | negation inner => contained_negation inner
  | capture inner => contained_capture (contained inner)
  | wildcard | remaining | helper _ | symbol _ | symbolStart _ | int _ | float _ | str _ | bool _
  | null | ofKind _ => contained_leaf rfl
termination_by pattern

/-! ### The running match -/

/-- A match with any captures so far goes by what the pattern means. Either there is just one list
of captures that the pattern means at the place, all of them from within it, and the match adds
these; or the pattern means nothing there, and the match leaves the captures as they were. -/
theorem attemptPart_by_meaning (pattern : Pattern) (part : Part) :
    (∃ found, pattern.Means part found ∧ (∀ other, pattern.Means part other → other = found) ∧
      (∀ capture ∈ found, capture.Inside part) ∧
      ∀ captures, pattern.attemptPart part captures = (true, captures ++ found)) ∨
    ((∀ found, ¬ pattern.Means part found) ∧
      ∀ captures, pattern.attemptPart part captures = (false, captures)) := by
  have outcome := pattern.reads part
  cases matched : pattern.matchPart part with
  | some found =>
    have means := (pattern.faithful part found).mp matched
    refine .inl ⟨found, means, fun other => means.unique, pattern.contained part found means, ?_⟩
    intro captures
    rw [outcome captures, matched]
    rfl
  | none =>
    refine .inr ⟨pattern.faithful.eq_none_iff.mp matched, fun captures => ?_⟩
    rw [outcome captures, matched]
    rfl

end Pattern

end Storefront
