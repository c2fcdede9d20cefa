import Mathlib
import Storefront.Proofs.Substitution

/-!
Following references while matching. Compiling a pattern puts the patterns of helpers in the place
of the references to them. The other way is to leave the references in the pattern, and to look a
helper up when a match meets its name: in the place of an expression, in that of a bare name, or
among the patterns for parts, where a helper may even stand for all parts that are left. Nothing
stops such a match from following references forever, so it is given up after a number of steps.
Where the pattern compiles, enough steps lead to an answer, which no further steps change, and it is
the answer of the compiled pattern.

What is said of a pattern and its replacement has two sides, since a match meets a pattern either by
itself or at the head of the patterns for parts, and only there can it take more than one part.
-/

namespace Storefront.Pattern

open Storefront.Script

/-! ### A match that follows references -/

/-- The pattern that a reference stands for: that of the text of the first entry with its name, as
it is written. -/
def referent? (helpers : Helpers) (name : String) : Option Pattern :=
  (helpers.lookup name).bind fun body => (parse body).toOption

mutual

/-- Matches a pattern with references in it against an expression, and adds what it captures to the
captures so far. There is no attempt if a reference leads to no pattern, or if the steps do not
suffice. -/
def followExpr (helpers : Helpers) (steps : Nat) (pattern : Pattern) (expr : Expr)
    (captures : List Part) : Option Attempt :=
  match steps with
  | 0 => none
  | steps + 1 =>
    Attempt.orCutBack captures <$> match pattern with
      | helper name => do
        let body ← referent? helpers name
        followExpr helpers steps body expr captures
      | node kind children =>
        if expr.kind = kind then
          if valueKinds.contains kind then
            match children with
            | [] => some (true, captures)
            | [only] => followExpr helpers steps only expr captures
            | _ => some (false, captures)
          else followParts helpers steps children expr.parts captures
        else some (false, captures)
      | alternatives options => followAny helpers steps options expr captures
      | conjunction conjuncts => followAll helpers steps conjuncts expr captures
      | negation inner =>
        (fun ending => (!ending.1, captures)) <$> followExpr helpers steps inner expr []
      | capture inner =>
        Attempt.orCutBack captures <$>
          followExpr helpers steps inner expr (captures ++ [.expr expr])
      | wildcard | remaining | symbol _ | symbolStart _ | int _ | float _ | str _ | bool _ | null
      | ofKind _ => some (pattern.accepts (.expr expr), captures)

/-- Matches a pattern with references in it against a bare name. -/
def followName (helpers : Helpers) (steps : Nat) (pattern : Pattern) (name : String)
    (captures : List Part) : Option Attempt :=
  match steps with
  | 0 => none
  | steps + 1 =>
    match pattern with
    | helper reference => do
      let body ← referent? helpers reference
      followName helpers steps body name captures
    | alternatives options => followAnyName helpers steps options name captures
    | conjunction conjuncts =>
      Attempt.orCutBack captures <$> followAllNames helpers steps conjuncts name captures
    | negation inner =>
      (fun ending => (!ending.1, captures)) <$> followName helpers steps inner name []
    | capture inner =>
      Attempt.orCutBack captures <$> followName helpers steps inner name (captures ++ [.name name])
    | node _ _ | wildcard | remaining | symbol _ | symbolStart _ | int _ | float _ | str _ | bool _
    | null | ofKind _ => some (pattern.accepts (.name name), captures)

/-- Matches the first pattern of a list that does match. -/
def followAny (helpers : Helpers) (steps : Nat) (patterns : List Pattern) (expr : Expr)
    (captures : List Part) : Option Attempt :=
  match steps with
  | 0 => none
  | steps + 1 =>
    match patterns with
    | [] => some (false, captures)
    | pattern :: others => do
      let ending ← followExpr helpers steps pattern expr captures
      if ending.1 then some ending else followAny helpers steps others expr ending.2

/-- Matches all patterns of a list. -/
def followAll (helpers : Helpers) (steps : Nat) (patterns : List Pattern) (expr : Expr)
    (captures : List Part) : Option Attempt :=
  match steps with
  | 0 => none
  | steps + 1 =>
    match patterns with
    | [] => some (true, captures)
    | pattern :: others => do
      let ending ← followExpr helpers steps pattern expr captures
      if ending.1 then followAll helpers steps others expr ending.2 else some ending

/-- Matches the first pattern of a list that matches a name. -/
def followAnyName (helpers : Helpers) (steps : Nat) (patterns : List Pattern) (name : String)
    (captures : List Part) : Option Attempt :=
  match steps with
  | 0 => none
  | steps + 1 =>
    match patterns with
    | [] => some (false, captures)
    | pattern :: others => do
      let ending ← followName helpers steps pattern name captures
      if ending.1 then some ending
      else followAnyName helpers steps others name (ending.2.take captures.length)

/-- Matches all patterns of a list against a name. -/
def followAllNames (helpers : Helpers) (steps : Nat) (patterns : List Pattern) (name : String)
    (captures : List Part) : Option Attempt :=
  match steps with
  | 0 => none
  | steps + 1 =>
    match patterns with
    | [] => some (true, captures)
    | pattern :: others => do
      let ending ← followName helpers steps pattern name captures
      if ending.1 then followAllNames helpers steps others name ending.2 else some ending

/-- Matches patterns against parts one by one. A reference is followed before anything else, as it
may lead to the pattern that takes all parts that are left. -/
def followParts (helpers : Helpers) (steps : Nat) (patterns : List Pattern) (parts : List Part)
    (captures : List Part) : Option Attempt :=
  match steps with
  | 0 => none
  | steps + 1 =>
    match patterns, parts with
    | [], [] => some (true, captures)
    | [], _ :: _ => some (false, captures)
    | .helper name :: others, parts => do
      let body ← referent? helpers name
      followParts helpers steps (body :: others) parts captures
    | .remaining :: _, _ => some (true, captures)
    | _ :: _, [] => some (false, captures)
    | pattern :: others, .expr expr :: parts => do
      let ending ← followExpr helpers steps pattern expr captures
      if ending.1 then followParts helpers steps others parts ending.2 else some ending
    | pattern :: others, .name name :: parts => do
      let ending ← followName helpers steps pattern name captures
      if ending.1 then followParts helpers steps others parts ending.2 else some ending

end

/-- Matches a pattern with references in it against what stands at one place of an expression. -/
def followPart (helpers : Helpers) (steps : Nat) (pattern : Pattern) :
    Part → List Part → Option Attempt
  | .expr expr => followExpr helpers steps pattern expr
  | .name name => followName helpers steps pattern name

/-- What a match with an expression brings back that follows the references in a pattern. -/
def follow (helpers : Helpers) (steps : Nat) (pattern : Pattern) (expr : Expr) :
    Option (Option (List Part)) :=
  Attempt.captures? <$> followPart helpers steps pattern (.expr expr) []

/-! ### Enough steps -/

section

variable {α β : Type} {run next : Nat → Option α} {value : α}

/-- Enough steps lead to a value, and no further steps change it. -/
def Settles (run : Nat → Option α) (value : α) : Prop :=
  ∃ enough, ∀ steps, enough ≤ steps → run steps = some value

theorem settles_some (value : α) : Settles (fun _ => some value) value :=
  ⟨0, fun _ _ => rfl⟩

/-- What takes one step more settles on the same value. -/
theorem Settles.step (settles : Settles next value)
    (same : ∀ steps, run (steps + 1) = next steps) : Settles run value := by
  obtain ⟨enough, answers⟩ := settles
  refine ⟨enough + 1, fun steps bound => ?_⟩
  cases steps with
  | zero => cases bound
  | succ steps => rw [same, answers steps (Nat.le_of_succ_le_succ bound)]

theorem Settles.map (settles : Settles run value) (change : α → β) :
    Settles (fun steps => change <$> run steps) (change value) := by
  obtain ⟨enough, answers⟩ := settles
  refine ⟨enough, fun steps bound => ?_⟩
  show change <$> run steps = _
  rw [answers steps bound]
  rfl

/-- Two runs one after the other have enough steps when both have. -/
theorem Settles.bind {continued : α → Nat → Option β} {whole : β} (settles : Settles run value)
    (continues : Settles (continued value) whole) :
    Settles (fun steps => run steps >>= fun found => continued found steps) whole := by
  obtain ⟨enough, answers⟩ := settles
  obtain ⟨enoughToo, answersToo⟩ := continues
  refine ⟨max enough enoughToo, fun steps bound => ?_⟩
  show (run steps >>= fun found => continued found steps) = _
  rw [answers steps (Nat.le_trans (Nat.le_max_left _ _) bound)]
  exact answersToo steps (Nat.le_trans (Nat.le_max_right _ _) bound)

/-- A run settles on one value at most. -/
theorem Settles.unique {other : α} (settles : Settles run value) (settlesToo : Settles run other) :
    other = value := by
  obtain ⟨enough, answers⟩ := settles
  obtain ⟨enoughToo, answersToo⟩ := settlesToo
  have one := answers (max enough enoughToo) (Nat.le_max_left _ _)
  have same := answersToo (max enough enoughToo) (Nat.le_max_right _ _)
  exact Option.some.inj (same.symm.trans one)

end

section

variable {run : Nat → Option Attempt} {ending : Attempt}
  {continued : List Part → Nat → Option Attempt} {next : List Part → Attempt}

/-- What goes on after an attempt that succeeds settles with it. -/
theorem Settles.andThen (settles : Settles run ending)
    (continues : ∀ left, Settles (continued left) (next left)) :
    Settles (fun steps => run steps >>= fun ending =>
      if ending.1 then continued ending.2 steps else some ending) (ending.andThen next) := by
  refine settles.bind ?_
  rw [Attempt.andThen]
  cases ending.1 with
  | true => exact continues ending.2
  | false => exact settles_some ending

/-- What is tried after an attempt that fails settles with it. -/
theorem Settles.orElse (settles : Settles run ending)
    (continues : ∀ left, Settles (continued left) (next left)) :
    Settles (fun steps => run steps >>= fun ending =>
      if ending.1 then some ending else continued ending.2 steps) (ending.orElse next) := by
  refine settles.bind ?_
  rw [Attempt.orElse]
  cases ending.1 with
  | true => exact settles_some ending
  | false => exact continues ending.2

end

/-! ### The same match -/

variable {helpers : Helpers} {pattern compiled inner result body : Pattern}
  {patterns results : List Pattern} {name : String}

/-- Following the references in patterns for parts is matching other patterns without references. -/
def PartsAgree (helpers : Helpers) (patterns results : List Pattern) : Prop :=
  ∀ parts captures, Settles (followParts helpers · patterns parts captures)
    (attemptParts results parts captures)

/-- Following the references in a pattern is matching another pattern without references. -/
def Alone (helpers : Helpers) (pattern compiled : Pattern) : Prop :=
  ∀ part captures, Settles (followPart helpers · pattern part captures)
    (compiled.attemptPart part captures)

/-- A pattern agrees with another one without references, by itself and at the head of patterns for
parts. -/
structure Agrees (helpers : Helpers) (pattern compiled : Pattern) : Prop where
  alone : Alone helpers pattern compiled
  ahead : ∀ {others results : List Pattern}, PartsAgree helpers others results →
    PartsAgree helpers (pattern :: others) (compiled :: results)

/-- Patterns agree with others one by one. -/
abbrev AllAgree (helpers : Helpers) : List Pattern → List Pattern → Prop :=
  List.Forall₂ (Agrees helpers)

theorem Agrees.onExpr (agrees : Agrees helpers pattern compiled) (expr : Expr)
    (captures : List Part) :
    Settles (followExpr helpers · pattern expr captures) (compiled.attemptExpr expr captures) :=
  agrees.alone (.expr expr) captures

theorem Agrees.onName (agrees : Agrees helpers pattern compiled) (name : String)
    (captures : List Part) :
    Settles (followName helpers · pattern name captures) (compiled.attemptName name captures) :=
  agrees.alone (.name name) captures

/-! ### Several patterns -/

theorem followAny_settles (agree : AllAgree helpers patterns results) (expr : Expr)
    (captures : List Part) :
    Settles (followAny helpers · patterns expr captures) (attemptAny results expr captures) := by
  induction agree generalizing captures with
  | nil =>
    rw [attemptAny]
    exact (settles_some _).step fun _ => rfl
  | cons here later inductionHypothesis =>
    rw [attemptAny]
    exact ((here.onExpr expr captures).orElse inductionHypothesis).step fun _ => rfl

theorem followAll_settles (agree : AllAgree helpers patterns results) (expr : Expr)
    (captures : List Part) :
    Settles (followAll helpers · patterns expr captures) (attemptAll results expr captures) := by
  induction agree generalizing captures with
  | nil =>
    rw [attemptAll]
    exact (settles_some _).step fun _ => rfl
  | cons here later inductionHypothesis =>
    rw [attemptAll]
    exact ((here.onExpr expr captures).andThen inductionHypothesis).step fun _ => rfl

theorem followAnyName_settles (agree : AllAgree helpers patterns results) (name : String)
    (captures : List Part) :
    Settles (followAnyName helpers · patterns name captures)
      (attemptAnyName results name captures) := by
  induction agree generalizing captures with
  | nil =>
    rw [attemptAnyName]
    exact (settles_some _).step fun _ => rfl
  | cons here later inductionHypothesis =>
    rw [attemptAnyName]
    exact ((here.onName name captures).orElse fun left =>
      inductionHypothesis (left.take captures.length)).step fun _ => rfl

theorem followAllNames_settles (agree : AllAgree helpers patterns results) (name : String)
    (captures : List Part) :
    Settles (followAllNames helpers · patterns name captures)
      (attemptAllNames results name captures) := by
  induction agree generalizing captures with
  | nil =>
    rw [attemptAllNames]
    exact (settles_some _).step fun _ => rfl
  | cons here later inductionHypothesis =>
    rw [attemptAllNames]
    exact ((here.onName name captures).andThen inductionHypothesis).step fun _ => rfl

theorem partsAgree_nil : PartsAgree helpers [] [] := by
  intro parts captures
  rw [attemptParts.eq_def]
  cases parts with
  | nil => exact (settles_some _).step fun _ => rfl
  | cons part parts => exact (settles_some _).step fun _ => rfl

theorem partsAgree_of_allAgree (agree : AllAgree helpers patterns results) :
    PartsAgree helpers patterns results := by
  induction agree with
  | nil => exact partsAgree_nil
  | cons here later inductionHypothesis => exact here.ahead inductionHypothesis

/-! ### One pattern -/

/-- A pattern that takes one part is matched with it, and the others with those that are left. -/
theorem agrees_of_alone (noReference : pattern.isReference = false)
    (onePart : pattern.takesRest = false) (compiledOnePart : compiled.takesRest = false)
    (alone : Alone helpers pattern compiled) : Agrees helpers pattern compiled := by
  have notHelper (name : String) : pattern = .helper name → False := by
    rintro rfl
    cases noReference
  have notRest : pattern = .remaining → False := by
    rintro rfl
    cases onePart
  have compiledNotRest : compiled = .remaining → False := by
    rintro rfl
    cases compiledOnePart
  refine ⟨alone, fun {others results} agree parts captures => ?_⟩
  cases parts with
  | nil =>
    rw [attemptParts.eq_4 _ _ _ compiledNotRest]
    exact (settles_some _).step fun steps => followParts.eq_6 _ _ _ _ _ notHelper notRest
  | cons part parts =>
    cases part with
    | expr expr =>
      have here : Settles (followExpr helpers · pattern expr captures) _ :=
        alone (.expr expr) captures
      rw [attemptParts.eq_5 _ _ _ _ _ compiledNotRest]
      exact (here.andThen fun left => agree parts left).step fun steps =>
        followParts.eq_7 _ _ _ _ _ _ _ notHelper notRest
    | name name =>
      have here : Settles (followName helpers · pattern name captures) _ :=
        alone (.name name) captures
      rw [attemptParts.eq_6 _ _ _ _ _ compiledNotRest]
      exact (here.andThen fun left => agree parts left).step fun steps =>
        followParts.eq_8 _ _ _ _ _ _ _ notHelper notRest

theorem agrees_leaf (leaf : pattern.isLeaf = true) (noReference : pattern.isReference = false) :
    Agrees helpers pattern pattern := by
  have alone : Alone helpers pattern pattern := by
    intro part captures
    refine (settles_some _).step fun steps => ?_
    cases part with
    | expr expr =>
      show followExpr helpers (steps + 1) pattern expr captures =
        some (pattern.attemptExpr expr captures)
      rw [attemptExpr.eq_def]
      cases pattern with
      | node _ _ | alternatives _ | conjunction _ | negation _ | capture _ => cases leaf
      | helper _ => cases noReference
      | _ => rfl
    | name name =>
      show followName helpers (steps + 1) pattern name captures =
        some (pattern.attemptName name captures)
      rw [attemptName.eq_def]
      cases pattern with
      | node _ _ | alternatives _ | conjunction _ | negation _ | capture _ => cases leaf
      | helper _ => cases noReference
      | _ => rfl
  cases takes : pattern.takesRest with
  | false => exact agrees_of_alone noReference takes takes alone
  | true =>
    obtain rfl : pattern = .remaining := by
      cases pattern <;> first | rfl | cases takes
    refine ⟨alone, fun _ parts captures => ?_⟩
    rw [attemptParts]
    exact (settles_some _).step fun steps => followParts.eq_5 _ _ _ _ _

theorem agrees_node (kind : String) (agree : AllAgree helpers patterns results) :
    Agrees helpers (node kind patterns) (node kind results) := by
  refine agrees_of_alone rfl rfl rfl fun part captures => ?_
  cases part with
  | name name => exact (settles_some _).step fun _ => rfl
  | expr expr =>
    show Settles (followExpr helpers · (node kind patterns) expr captures)
      ((node kind results).attemptExpr expr captures)
    rw [attemptExpr.eq_def]
    dsimp only
    by_cases same : expr.kind = kind
    · rw [if_pos same]
      by_cases value : valueKinds.contains kind = true
      · rw [if_pos value]
        -- only as many patterns as an expression of a single value has parts can match it
        cases agree with
        | nil =>
          refine (settles_some _).step fun steps => ?_
          rw [followExpr.eq_def]
          dsimp only
          rw [if_pos same, if_pos value]
          rfl
        | cons only others =>
          cases others with
          | nil =>
            refine ((only.onExpr expr captures).map _).step fun steps => ?_
            rw [followExpr.eq_def]
            dsimp only
            rw [if_pos same, if_pos value]
          | cons _ _ =>
            refine (settles_some _).step fun steps => ?_
            rw [followExpr.eq_def]
            dsimp only
            rw [if_pos same, if_pos value]
            rfl
      · rw [if_neg value]
        refine ((partsAgree_of_allAgree agree expr.parts captures).map _).step fun steps => ?_
        rw [followExpr.eq_def]
        dsimp only
        rw [if_pos same, if_neg value]
    · rw [if_neg same]
      refine (settles_some _).step fun steps => ?_
      rw [followExpr.eq_def]
      dsimp only
      rw [if_neg same]
      rfl

theorem agrees_alternatives (agree : AllAgree helpers patterns results) :
    Agrees helpers (alternatives patterns) (alternatives results) := by
  refine agrees_of_alone rfl rfl rfl fun part captures => ?_
  cases part with
  | expr expr =>
    show Settles _ ((alternatives results).attemptExpr expr captures)
    rw [attemptExpr]
    exact ((followAny_settles agree expr captures).map (Attempt.orCutBack captures)).step
      fun _ => rfl
  | name name =>
    show Settles _ ((alternatives results).attemptName name captures)
    rw [attemptName]
    exact (followAnyName_settles agree name captures).step fun _ => rfl

theorem agrees_conjunction (agree : AllAgree helpers patterns results) :
    Agrees helpers (conjunction patterns) (conjunction results) := by
  refine agrees_of_alone rfl rfl rfl fun part captures => ?_
  cases part with
  | expr expr =>
    show Settles _ ((conjunction results).attemptExpr expr captures)
    rw [attemptExpr]
    exact ((followAll_settles agree expr captures).map (Attempt.orCutBack captures)).step
      fun _ => rfl
  | name name =>
    show Settles _ ((conjunction results).attemptName name captures)
    rw [attemptName]
    exact ((followAllNames_settles agree name captures).map (Attempt.orCutBack captures)).step
      fun _ => rfl

theorem agrees_negation (agrees : Agrees helpers inner result) :
    Agrees helpers (negation inner) (negation result) := by
  refine agrees_of_alone rfl rfl rfl fun part captures => ?_
  cases part with
  | expr expr =>
    show Settles _ ((negation result).attemptExpr expr captures)
    rw [attemptExpr]
    exact (((agrees.onExpr expr []).map fun ending => (!ending.1, captures)).map
      (Attempt.orCutBack captures)).step fun _ => rfl
  | name name =>
    show Settles _ ((negation result).attemptName name captures)
    rw [attemptName]
    exact ((agrees.onName name []).map fun ending => (!ending.1, captures)).step fun _ => rfl

theorem agrees_capture (agrees : Agrees helpers inner result) :
    Agrees helpers (capture inner) (capture result) := by
  refine agrees_of_alone rfl rfl rfl fun part captures => ?_
  cases part with
  | expr expr =>
    show Settles _ ((capture result).attemptExpr expr captures)
    rw [attemptExpr]
    have inside := agrees.onExpr expr (captures ++ [.expr expr])
    refine ((inside.map (Attempt.orCutBack captures)).map (Attempt.orCutBack captures)).step
      fun steps => ?_
    rfl
  | name name =>
    show Settles _ ((capture result).attemptName name captures)
    rw [attemptName]
    have inside := agrees.onName name (captures ++ [.name name])
    refine (inside.map (Attempt.orCutBack captures)).step fun steps => ?_
    rfl

/-- What is cut back once more stays as it is. -/
theorem orCutBack_attemptExpr (pattern : Pattern) (expr : Expr) (captures : List Part) :
    (pattern.attemptExpr expr captures).orCutBack captures =
      pattern.attemptExpr expr captures := by
  have outcome : pattern.attemptExpr expr captures = _ := pattern.reads (.expr expr) captures
  rw [outcome]
  exact (Attempt.leaves_after captures _).orCutBack

/-- A reference agrees with whatever its pattern agrees with. -/
theorem agrees_helper (leads : referent? helpers name = some body)
    (agrees : Agrees helpers body compiled) : Agrees helpers (helper name) compiled := by
  refine ⟨fun part captures => ?_, fun {others results} agree parts captures => ?_⟩
  · cases part with
    | expr expr =>
      have cut := (agrees.onExpr expr captures).map (Attempt.orCutBack captures)
      rw [orCutBack_attemptExpr] at cut
      refine cut.step fun steps => ?_
      show followExpr helpers (steps + 1) (helper name) expr captures = _
      rw [followExpr, leads]
      rfl
    | name found =>
      refine (agrees.onName found captures).step fun steps => ?_
      show followName helpers (steps + 1) (helper name) found captures = _
      rw [followName, leads]
      rfl
  · refine (agrees.ahead agree parts captures).step fun steps => ?_
    rw [followParts, leads]
    rfl

/-! ### Replacing references -/

/-- Each form of pattern agrees with what becomes of it if its parts do. -/
theorem congruent_agrees (helpers : Helpers) : Congruent (Agrees helpers) where
  leaf _ := agrees_leaf
  node kind _ _ := agrees_node kind
  alternatives _ _ := agrees_alternatives
  conjunction _ _ := agrees_conjunction
  negation _ _ := agrees_negation
  capture _ _ := agrees_capture

/-- Wherever a text compiles, its pattern as it is written can be matched by following the
references in it. With every expression enough steps lead to what the compiled pattern brings back,
and to nothing else; and the two go alike from any captures, with every expression and every bare
name. -/
theorem follow_of_compile {text : String} (compiles : compile helpers text = .ok compiled) :
    ∃ pattern, parse text = .ok pattern ∧
      (∀ expr found?, Settles (follow helpers · pattern expr) found? ↔
        found? = compiled.matchExpr expr) ∧
      ∀ part captures ending, Settles (followPart helpers · pattern part captures) ending ↔
        ending = compiled.attemptPart part captures := by
  obtain ⟨pattern, read, agrees⟩ : ∃ pattern, parse text = .ok pattern ∧
      Agrees helpers pattern compiled := by
    refine becomes_of_compile (congruent_agrees helpers) ?_ compiles
    intro name text body found defined read agrees
    refine agrees_helper ?_ agrees
    rw [referent?, defined, Option.bind_some, read]
    rfl
  have matched (expr : Expr) : Settles (follow helpers · pattern expr)
      (compiled.matchExpr expr) := (agrees.alone (.expr expr) []).map Attempt.captures?
  refine ⟨pattern, read, fun expr found? => ?_, fun part captures ending => ?_⟩
  · exact ⟨(matched expr).unique, fun same => same ▸ matched expr⟩
  · exact ⟨(agrees.alone part captures).unique, fun same => same ▸ agrees.alone part captures⟩

/-- Helpers for a name, for a node whose name is captured, and for the parts that are left; a second
entry with a name that is taken counts for nothing. -/
def callHelpers : Helpers :=
  [("name", "\x7b:f :g\x7d"), ("callee", "(ident $#name)"), ("tail", "..."), ("tail", "_")]

theorem follow_of_compile_call :
    ∃ compiled, compile callHelpers "(call #callee #tail)" = .ok compiled ∧
      ∃ pattern, parse "(call #callee #tail)" = .ok pattern ∧
        Settles (follow callHelpers · pattern (.call (.ident "g") [.int 1, .int 2]))
          (some [.name "g"]) := by
  have compiles : compile callHelpers "(call #callee #tail)" =
      .ok (.node "call" [.node "ident" [.capture (.alternatives [.symbol "f", .symbol "g"])],
        .remaining]) := by cbv
  obtain ⟨pattern, read, follows, -⟩ := follow_of_compile compiles
  refine ⟨_, compiles, pattern, read, (follows _ _).mpr ?_⟩
  cbv

end Storefront.Pattern
