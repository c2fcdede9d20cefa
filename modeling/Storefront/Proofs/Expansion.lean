import Mathlib.Logic.Relation
import Storefront.Pattern.Helpers
import Storefront.Proofs.Outcomes

/-!
When a pattern can be compiled. The helpers that a pattern refers to refer to others, and each text
is read anew where it is referred to, so nothing says at once that this comes to an end. It does for
every table of helpers: a helper is not replaced within itself, so that there is one less to go with
each of them. What comes of it is a pattern just if all that is reached from the text can be read,
exists and knows its kinds, and no helper that is reached comes back to itself.

The helpers that are active are those on the way from the text to a reference. A helper that is met
while it is active is reached from itself, and a helper that is reached from itself is met again
before anything else can stop the way back to it.
-/

namespace Storefront.Pattern

open Script.Lexer (eq_ok_of_map_eq_ok)

/-! ### Patterns within a pattern -/

/-- A pattern stands somewhere in another one, or is that one. -/
inductive Occurs (pattern : Pattern) : Pattern → Prop where
  | here : Occurs pattern pattern
  | deeper {outer child : Pattern} (member : child ∈ outer.inner) (occurs : Occurs pattern child) :
      Occurs pattern outer

/-- A pattern names no unknown kind and no helper but those that are allowed, the patterns within
it aside. -/
def Admissible (allowed : String → Prop) : Pattern → Prop
  | node kind _ | ofKind kind => isKind kind = true
  | helper name => allowed name
  | _ => True

/-- All kinds in a pattern are known, and all references in it allowed. -/
def Admits (allowed : String → Prop) (pattern : Pattern) : Prop :=
  ∀ part, Occurs part pattern → part.Admissible allowed

variable {allowed : String → Prop} {pattern : Pattern} {patterns : List Pattern}

theorem admits_iff : pattern.Admits allowed ↔
    pattern.Admissible allowed ∧ ∀ child ∈ pattern.inner, child.Admits allowed := by
  constructor
  · intro admits
    exact ⟨admits pattern .here, fun child member part occurs =>
      admits part (.deeper member occurs)⟩
  · rintro ⟨here, below⟩ part occurs
    cases occurs with
    | here => exact here
    | deeper member occurs => exact below _ member part occurs

/-- All kinds in a pattern are known and it may refer to any helper. -/
abbrev KnownKinds (pattern : Pattern) : Prop := pattern.Admits fun _ => True

theorem admits_iff_knownKinds : pattern.Admits allowed ↔
    pattern.KnownKinds ∧ ∀ name, Occurs (helper name) pattern → allowed name := by
  constructor
  · intro admits
    refine ⟨fun part occurs => ?_, fun name occurs => admits (helper name) occurs⟩
    have admissible := admits part occurs
    cases part <;> first | exact trivial | exact admissible
  · rintro ⟨known, references⟩ part occurs
    have admissible := known part occurs
    cases part with
    | helper name => exact references name occurs
    | _ => first | exact trivial | exact admissible

/-! ### Replacing references -/

/-- There is a result and no error. -/
def Succeeds {α : Type} (outcome : Except CompileError α) : Prop :=
  ∃ result, outcome = .ok result

theorem succeeds_ok {α : Type} (result : α) : Succeeds (.ok result) := ⟨result, rfl⟩

theorem not_succeeds_error {α : Type} (error : CompileError) :
    ¬ Succeeds (.error error : Except CompileError α) := nofun

theorem succeeds_map {α β : Type} {outcome : Except CompileError α} {change : α → β} :
    Succeeds (outcome.map change) ↔ Succeeds outcome := by
  cases outcome with
  | error error => exact iff_of_false (not_succeeds_error error) (not_succeeds_error error)
  | ok result => exact iff_of_true (succeeds_ok _) (succeeds_ok result)

theorem succeeds_bind {α β : Type} {outcome : Except CompileError α}
    {next : α → Except CompileError β} :
    Succeeds (outcome >>= next) ↔ ∃ result, outcome = .ok result ∧ Succeeds (next result) := by
  cases outcome with
  | error error => exact iff_of_false (not_succeeds_error error) nofun
  | ok result =>
    exact ⟨fun succeeds => ⟨result, rfl, succeeds⟩, fun ⟨_, same, succeeds⟩ => by
      cases same
      exact succeeds⟩

variable {replacement : String → Except CompileError Pattern}

theorem succeeds_substituteAll_cons :
    Succeeds (substituteAll replacement (pattern :: patterns)) ↔
      Succeeds (substitute replacement pattern) ∧
        Succeeds (substituteAll replacement patterns) := by
  rw [substituteAll, succeeds_bind]
  constructor
  · rintro ⟨first, here, rest⟩
    obtain ⟨results, later, -⟩ := succeeds_bind.mp rest
    exact ⟨⟨first, here⟩, results, later⟩
  · rintro ⟨⟨first, here⟩, results, later⟩
    exact ⟨first, here, succeeds_bind.mpr ⟨results, later, succeeds_ok _⟩⟩

mutual

/-- Every reference in a pattern is replaced just if each has a replacement and all kinds are
known. -/
theorem substitute_succeeds_iff (replacement : String → Except CompileError Pattern)
    (pattern : Pattern) :
    Succeeds (substitute replacement pattern) ↔
      pattern.Admits fun name => Succeeds (replacement name) := by
  rw [admits_iff]
  cases pattern with
  | helper name => exact (and_iff_left (nofun : ∀ child ∈ [], _)).symm
  | node kind children =>
    rw [substitute]
    by_cases known : isKind kind = true
    · rw [if_pos known, succeeds_map, substituteAll_succeeds_iff]
      exact (and_iff_right known).symm
    · rw [if_neg known]
      exact iff_of_false (not_succeeds_error _) fun admits => known admits.1
  | ofKind kind =>
    rw [substitute]
    by_cases known : isKind kind = true
    · rw [if_pos known]
      exact iff_of_true (succeeds_ok _) ⟨known, nofun⟩
    · rw [if_neg known]
      exact iff_of_false (not_succeeds_error _) fun admits => known admits.1
  | alternatives options | conjunction parts =>
    rw [substitute, succeeds_map, substituteAll_succeeds_iff]
    exact (and_iff_right trivial).symm
  | capture inner | negation inner =>
    rw [substitute, succeeds_map, substitute_succeeds_iff]
    exact ((and_iff_right trivial).trans List.forall_mem_singleton).symm
  | wildcard | remaining | symbol _ | symbolStart _ | int _ | float _ | str _ | bool _ | null =>
    exact iff_of_true (succeeds_ok _) ⟨trivial, nofun⟩

theorem substituteAll_succeeds_iff (replacement : String → Except CompileError Pattern)
    (patterns : List Pattern) :
    Succeeds (substituteAll replacement patterns) ↔
      ∀ pattern ∈ patterns, pattern.Admits fun name => Succeeds (replacement name) := by
  cases patterns with
  | nil => exact iff_of_true (succeeds_ok []) nofun
  | cons pattern others =>
    rw [succeeds_substituteAll_cons, substitute_succeeds_iff replacement pattern,
      substituteAll_succeeds_iff replacement others, List.forall_mem_cons]

end

mutual

/-- What holds everywhere in each replacement, and no reference by itself, holds everywhere in the
result. -/
theorem substitute_admits (pattern : Pattern) {result : Pattern}
    (each : ∀ name, Occurs (helper name) pattern → ∀ found, replacement name = .ok found →
      found.Admits allowed)
    (replaced : substitute replacement pattern = .ok result) : result.Admits allowed := by
  cases pattern with
  | helper name => exact each name .here result replaced
  | node kind children =>
    rw [substitute] at replaced
    split at replaced
    next known =>
      obtain ⟨results, below, rfl⟩ := eq_ok_of_map_eq_ok replaced
      exact admits_iff.mpr ⟨known, substituteAll_admits children (fun child member name occurs =>
        each name (.deeper member occurs)) below⟩
    next => cases replaced
  | ofKind kind =>
    rw [substitute] at replaced
    split at replaced
    next known =>
      cases replaced
      exact admits_iff.mpr ⟨known, nofun⟩
    next => cases replaced
  | alternatives patterns | conjunction patterns =>
    rw [substitute] at replaced
    obtain ⟨results, below, rfl⟩ := eq_ok_of_map_eq_ok replaced
    exact admits_iff.mpr ⟨trivial, substituteAll_admits patterns (fun child member name occurs =>
      each name (.deeper member occurs)) below⟩
  | capture inner | negation inner =>
    rw [substitute] at replaced
    obtain ⟨found, below, rfl⟩ := eq_ok_of_map_eq_ok replaced
    have admits := substitute_admits inner (fun name occurs =>
      each name (.deeper List.mem_cons_self occurs)) below
    exact admits_iff.mpr ⟨trivial, List.forall_mem_singleton.mpr admits⟩
  | wildcard | remaining | symbol _ | symbolStart _ | int _ | float _ | str _ | bool _ | null =>
    cases replaced
    exact admits_iff.mpr ⟨trivial, nofun⟩

theorem substituteAll_admits (patterns : List Pattern) {results : List Pattern}
    (each : ∀ pattern ∈ patterns, ∀ name, Occurs (helper name) pattern →
      ∀ found, replacement name = .ok found → found.Admits allowed)
    (replaced : substituteAll replacement patterns = .ok results) :
    ∀ result ∈ results, result.Admits allowed := by
  cases patterns with
  | nil =>
    cases replaced
    exact nofun
  | cons pattern others =>
    obtain ⟨here, later⟩ := List.forall_mem_cons.mp each
    rw [substituteAll] at replaced
    obtain ⟨result, first, replaced⟩ := exists_of_bind replaced
    obtain ⟨more, rest, whole⟩ := exists_of_bind replaced
    cases whole
    exact List.forall_mem_cons.mpr
      ⟨substitute_admits pattern here first, substituteAll_admits others later rest⟩

end

mutual

/-- Only the replacements of references in a pattern count. -/
theorem substitute_congr {other : String → Except CompileError Pattern} (pattern : Pattern)
    (same : ∀ name, Occurs (helper name) pattern → replacement name = other name) :
    substitute replacement pattern = substitute other pattern := by
  cases pattern with
  | helper name => exact same name .here
  | node kind children =>
    rw [substitute, substitute, substituteAll_congr children fun child member name occurs =>
      same name (.deeper member occurs)]
  | alternatives options =>
    rw [substitute, substitute, substituteAll_congr options fun child member name occurs =>
      same name (.deeper member occurs)]
  | conjunction parts =>
    rw [substitute, substitute, substituteAll_congr parts fun child member name occurs =>
      same name (.deeper member occurs)]
  | capture inner | negation inner =>
    rw [substitute, substitute, substitute_congr inner fun name occurs =>
      same name (.deeper List.mem_cons_self occurs)]
  | ofKind _ | wildcard | remaining | symbol _ | symbolStart _ | int _ | float _ | str _ | bool _
  | null => rfl

theorem substituteAll_congr {other : String → Except CompileError Pattern}
    (patterns : List Pattern)
    (same : ∀ pattern ∈ patterns, ∀ name, Occurs (helper name) pattern →
      replacement name = other name) :
    substituteAll replacement patterns = substituteAll other patterns := by
  cases patterns with
  | nil => rfl
  | cons pattern others =>
    obtain ⟨first, rest⟩ := List.forall_mem_cons.mp same
    rw [substituteAll, substituteAll, substitute_congr pattern first,
      substituteAll_congr others rest]

end

/-! ### The graph of helpers -/

/-- A helper refers to another one: the text of the first entry with its name does. -/
def Refers (helpers : Helpers) (name next : String) : Prop :=
  ∃ body pattern, helpers.lookup name = some body ∧ parse body = .ok pattern ∧
    Occurs (helper next) pattern

/-- A helper exists, its text can be read, and all kinds in it are known. -/
def Sound (helpers : Helpers) (name : String) : Prop :=
  ∃ body pattern, helpers.lookup name = some body ∧ parse body = .ok pattern ∧ pattern.KnownKinds

theorem parseNamed_eq_ok_iff {text : String} :
    parseNamed text = .ok pattern ↔ parse text = .ok pattern := by
  rw [parseNamed]
  cases parse text with
  | error fault => exact ⟨nofun, nofun⟩
  | ok found =>
    constructor <;>
    · rintro ⟨⟩
      rfl

variable {helpers : Helpers} {active : List String} {name : String}

/-- What holds of a helper when it holds of all helpers within it, holds of every helper. Within a
helper there is one less that is not active. -/
theorem helper_induction (helpers : Helpers) {Holds : List String → String → Prop}
    (step : ∀ active name, (name ∉ active → ∀ body, helpers.lookup name = some body →
      ∀ next, Holds (name :: active) next) → Holds active name)
    (active : List String) (name : String) : Holds active name :=
  step active name fun fresh _ found next =>
    have _fewer := idleCount_cons_lt (fresh ∘ List.contains_iff_mem.mp) found
    helper_induction helpers step (name :: active) next
termination_by idleCount helpers active
decreasing_by exact _fewer

/-- A helper is replaced just if it is not active and sound and all that it refers to is replaced
within it. -/
theorem helperPattern_succeeds_iff :
    Succeeds (helperPattern parseNamed helpers active name) ↔
      name ∉ active ∧ Sound helpers name ∧ ∀ next, Refers helpers name next →
        Succeeds (helperPattern parseNamed helpers (name :: active) next) := by
  by_cases met : name ∈ active
  · rw [helperPattern_active met]
    exact iff_of_false (not_succeeds_error _) fun ⟨fresh, _⟩ => fresh met
  · cases found : helpers.lookup name with
    | none =>
      rw [helperPattern_unknown met found]
      refine iff_of_false (not_succeeds_error _) ?_
      rintro ⟨-, ⟨body, pattern, defined, -⟩, -⟩
      cases found.symm.trans defined
    | some body =>
      rw [helperPattern_defined met found, succeeds_bind]
      constructor
      · rintro ⟨pattern, read, succeeds⟩
        rw [parseNamed_eq_ok_iff] at read
        obtain ⟨known, references⟩ :=
          admits_iff_knownKinds.mp ((substitute_succeeds_iff _ _).mp succeeds)
        refine ⟨met, ⟨body, pattern, found, read, known⟩, ?_⟩
        rintro next ⟨other, again, found', read', occurs⟩
        cases found.symm.trans found'
        cases read.symm.trans read'
        exact references next occurs
      · rintro ⟨-, ⟨other, pattern, found', read, known⟩, references⟩
        cases found.symm.trans found'
        refine ⟨pattern, parseNamed_eq_ok_iff.mpr read, (substitute_succeeds_iff _ _).mpr ?_⟩
        exact admits_iff_knownKinds.mpr ⟨known, fun next occurs =>
          references next ⟨body, pattern, found, read, occurs⟩⟩

/-- A helper is replaced just if all that is reached from it is sound, not active and not reached
from itself. -/
theorem helperPattern_succeeds_iff_reached :
    Succeeds (helperPattern parseNamed helpers active name) ↔
      ∀ reached, Relation.ReflTransGen (Refers helpers) name reached →
        reached ∉ active ∧ Sound helpers reached ∧
          ¬ Relation.TransGen (Refers helpers) reached reached := by
  induction active, name using helper_induction helpers with
  | step active name within =>
    rw [helperPattern_succeeds_iff]
    constructor
    · rintro ⟨fresh, sound, references⟩ reached path
      have ⟨body, _, found, _⟩ := sound
      have below := fun next refers =>
        (within fresh body found next).mp (references next refers)
      rcases path.cases_head with rfl | ⟨next, refers, path⟩
      · -- A way back would meet the helper within itself, where it is active.
        refine ⟨fresh, sound, fun cycle => ?_⟩
        obtain ⟨next, refers, back⟩ := Relation.TransGen.head'_iff.mp cycle
        exact (below next refers name back).1 List.mem_cons_self
      · obtain ⟨notActive, sound, acyclic⟩ := below next refers reached path
        exact ⟨fun met => notActive (List.mem_cons_of_mem _ met), sound, acyclic⟩
    · intro all
      obtain ⟨fresh, sound, acyclic⟩ := all name .refl
      have ⟨body, _, found, _⟩ := sound
      refine ⟨fresh, sound, fun next refers => (within fresh body found next).mpr ?_⟩
      intro reached path
      obtain ⟨notActive, reachedSound, reachedAcyclic⟩ := all reached (path.head refers)
      refine ⟨fun met => ?_, reachedSound, reachedAcyclic⟩
      rcases List.mem_cons.mp met with rfl | met
      · exact acyclic (.head' refers path)
      · exact notActive met

/-! ### The recursion -/

/-- What is done one within the other: a text is compiled or a reference replaced. -/
inductive Task where
  | compiling (text : String)
  | replacing (name : String)

/-- A task within active helpers comes to an end, with an outcome. A text waits for the references
in it, and a reference for the text of its helper, within which the helper is active. -/
inductive Ends (helpers : Helpers) : List String → Task → Except CompileError Pattern → Prop where
  | unread {active : List String} {text : String} {error : CompileError}
      (unread : parseNamed text = .error error) :
      Ends helpers active (.compiling text) (.error error)
  | read {active : List String} {text : String} {pattern : Pattern}
      {replacement : String → Except CompileError Pattern}
      (read : parseNamed text = .ok pattern)
      (each : ∀ name, Occurs (helper name) pattern →
        Ends helpers active (.replacing name) (replacement name)) :
      Ends helpers active (.compiling text) (substitute replacement pattern)
  | cycle {active : List String} {name : String} (met : name ∈ active) :
      Ends helpers active (.replacing name) (.error (.helperCycle name))
  | unknown {active : List String} {name : String} (fresh : name ∉ active)
      (missing : helpers.lookup name = none) :
      Ends helpers active (.replacing name) (.error (.unknownHelper name))
  | body {active : List String} {name body : String} {outcome : Except CompileError Pattern}
      (fresh : name ∉ active) (found : helpers.lookup name = some body)
      (compiled : Ends helpers (name :: active) (.compiling body) outcome) :
      Ends helpers active (.replacing name) outcome

/-- The outcome of a task. -/
def Task.outcome (helpers : Helpers) (active : List String) : Task → Except CompileError Pattern
  | compiling text => do substitute (helperPattern parseNamed helpers active) (← parseNamed text)
  | replacing name => helperPattern parseNamed helpers active name

/-- A text comes to an end if all references do. -/
theorem ends_compiling (each : ∀ name, Ends helpers active (.replacing name)
      (helperPattern parseNamed helpers active name)) (text : String) :
    Ends helpers active (.compiling text) (Task.outcome helpers active (.compiling text)) := by
  rw [Task.outcome]
  cases read : parseNamed text with
  | error error => exact .unread read
  | ok pattern => exact .read read fun name _ => each name

/-- Every reference comes to an end, whatever the helpers refer to. -/
theorem ends_replacing (helpers : Helpers) (active : List String) (name : String) :
    Ends helpers active (.replacing name) (helperPattern parseNamed helpers active name) := by
  induction active, name using helper_induction helpers with
  | step active name within =>
    by_cases met : name ∈ active
    · rw [helperPattern_active met]
      exact .cycle met
    · cases found : helpers.lookup name with
      | none =>
        rw [helperPattern_unknown met found]
        exact .unknown met found
      | some body =>
        rw [helperPattern_defined met found]
        exact .body met found (ends_compiling (within met body found) body)

/-- A task has one outcome only. -/
theorem Ends.outcome_eq {task : Task} {outcome : Except CompileError Pattern}
    (ends : Ends helpers active task outcome) : outcome = task.outcome helpers active := by
  induction ends with
  | unread unread =>
    rw [Task.outcome, unread]
    rfl
  | read read each inductionHypothesis =>
    rw [Task.outcome, read]
    exact substitute_congr _ inductionHypothesis
  | cycle met => exact (helperPattern_active met).symm
  | unknown fresh missing => exact (helperPattern_unknown fresh missing).symm
  | body fresh found compiled inductionHypothesis =>
    exact inductionHypothesis.trans (helperPattern_defined fresh found).symm

/-! ### Compiling a text -/

/-- A helper is reached from a pattern: the pattern refers to it, or a helper that is reached
does. -/
def Reaches (helpers : Helpers) (pattern : Pattern) (name : String) : Prop :=
  ∃ first, Occurs (helper first) pattern ∧ Relation.ReflTransGen (Refers helpers) first name

theorem compile_succeeds_iff (helpers : Helpers) (text : String) :
    Succeeds (compile helpers text) ↔
      ∃ pattern, parse text = .ok pattern ∧ pattern.KnownKinds ∧
        ∀ name, Reaches helpers pattern name →
          Sound helpers name ∧ ¬ Relation.TransGen (Refers helpers) name name := by
  rw [compile, compileWith, succeeds_bind]
  refine exists_congr fun pattern => and_congr parseNamed_eq_ok_iff ?_
  rw [substitute_succeeds_iff, admits_iff_knownKinds]
  refine and_congr_right fun _ => ?_
  constructor
  · rintro each name ⟨first, occurs, path⟩
    exact (helperPattern_succeeds_iff_reached.mp (each first occurs) name path).2
  · intro all first occurs
    refine helperPattern_succeeds_iff_reached.mpr fun reached path => ?_
    exact ⟨List.not_mem_nil, all reached ⟨first, occurs, path⟩⟩

/-- No reference is left in what a task brings about. -/
theorem Ends.admits {task : Task} {outcome : Except CompileError Pattern}
    (ends : Ends helpers active task outcome) :
    ∀ result, outcome = .ok result → result.Admits fun _ => False := by
  induction ends with
  | unread unread => exact nofun
  | read read each inductionHypothesis =>
    exact fun result replaced => substitute_admits _ inductionHypothesis replaced
  | cycle met => exact nofun
  | unknown fresh missing => exact nofun
  | body fresh found compiled inductionHypothesis => exact inductionHypothesis

/-- Compiling a text comes to an end for every table of helpers, with one outcome. This is a pattern
just if the text and all helpers that are reached from it can be read, exist and know their kinds,
and none of these helpers is reached from itself. There are no references in the pattern, and its
kinds are known. -/
theorem compile_outcome (helpers : Helpers) (text : String) :
    (∀ outcome, Ends helpers [] (.compiling text) outcome ↔ outcome = compile helpers text) ∧
      (Succeeds (compile helpers text) ↔
        ∃ pattern, parse text = .ok pattern ∧ pattern.KnownKinds ∧
          ∀ name, Reaches helpers pattern name →
            Sound helpers name ∧ ¬ Relation.TransGen (Refers helpers) name name) ∧
      ∀ result, compile helpers text = .ok result →
        result.KnownKinds ∧ ∀ name, ¬ Occurs (helper name) result := by
  have ends : Ends helpers [] (.compiling text) (compile helpers text) :=
    ends_compiling (fun name => ends_replacing helpers [] name) text
  refine ⟨fun outcome => ⟨Ends.outcome_eq, fun same => same ▸ ends⟩,
    compile_succeeds_iff helpers text, fun result compiled => ?_⟩
  exact admits_iff_knownKinds.mp (ends.admits result compiled)

end Storefront.Pattern
