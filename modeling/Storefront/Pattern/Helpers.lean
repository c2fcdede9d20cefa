import Storefront.Pattern.Match
import Storefront.Pattern.Reading

/-!
Helpers: patterns with a name, which other patterns refer to. Compiling a pattern puts the pattern
of a helper in the place of every reference to it, and makes sure that all kinds of expressions in
it exist. A helper must not refer to itself, directly or through others.
-/

namespace Storefront.Pattern

/-- Patterns with names. Of several with one name the first counts. -/
abbrev Helpers := List (String × String)

/-- The reason why a text cannot be compiled. -/
inductive CompileError where
  | malformed (pattern : String) (fault : Fault)
  | unknownHelper (name : String)
  | helperCycle (name : String)
  | unknownKind (kind : String)
  deriving DecidableEq, Repr

/-- The wording of the reason. -/
def CompileError.message : CompileError → String
  | malformed pattern fault => "invalid pattern `" ++ pattern ++ "`: " ++ fault.message
  | unknownHelper name => "unknown helper #" ++ name
  | helperCycle name => "helper #" ++ name ++ " refers to itself"
  | unknownKind kind => "unknown node type `" ++ kind ++ "`"

/-- The pattern of a text as it is written, with the text in the error. -/
def parseNamed (text : String) : Except CompileError Pattern :=
  (parse text).mapError (.malformed text)

/-! ### Putting patterns in the place of names -/

mutual

/-- A pattern with `replacement name` in the place of each reference to a helper, from left to
right, up to the first error. -/
def substitute (replacement : String → Except CompileError Pattern) :
    Pattern → Except CompileError Pattern
  | helper name => replacement name
  | node kind children =>
    if isKind kind then (substituteAll replacement children).map (node kind)
    else .error (.unknownKind kind)
  | ofKind kind => if isKind kind then .ok (ofKind kind) else .error (.unknownKind kind)
  | alternatives options => (substituteAll replacement options).map alternatives
  | conjunction parts => (substituteAll replacement parts).map conjunction
  | capture inner => (substitute replacement inner).map capture
  | negation inner => (substitute replacement inner).map negation
  | pattern => .ok pattern

/-- Patterns with replacements in the place of references. -/
def substituteAll (replacement : String → Except CompileError Pattern) :
    List Pattern → Except CompileError (List Pattern)
  | [] => .ok []
  | pattern :: others => do
    let first ← substitute replacement pattern
    let rest ← substituteAll replacement others
    .ok (first :: rest)

end

/-- How many helpers are not active. -/
def idleCount (helpers : Helpers) (active : List String) : Nat :=
  helpers.countP fun entry => !active.contains entry.1

/-- A helper that becomes active is idle no more. -/
theorem idleCount_cons_lt {helpers : Helpers} {active : List String} {name body : String}
    (fresh : ¬ active.contains name) (defined : helpers.lookup name = some body) :
    idleCount helpers (name :: active) < idleCount helpers active := by
  have stays (entry : String × String) (idle : (!(name :: active).contains entry.1) = true) :
      (!active.contains entry.1) = true := by
    rw [List.contains_cons, Bool.not_or, Bool.and_eq_true] at idle
    exact idle.2
  obtain ⟨before, after, rfl, -⟩ := List.lookup_eq_some_iff.mp defined
  have first := List.countP_mono_left (l := before) fun entry _ => stays entry
  have last := List.countP_mono_left (l := after) fun entry _ => stays entry
  have nowActive : (!(name :: active).contains name) = false := by simp
  have wasIdle : (!active.contains name) = true := by simpa using fresh
  simp only [idleCount, List.countP_append, List.countP_cons, nowActive, wasIdle]
  exact Nat.add_lt_add_of_le_of_lt first (Nat.lt_succ_of_le last)

/-- The pattern of a helper with all references in it replaced, within the helpers `active`, where
`read` gives the pattern of a text. A helper is active while its references are replaced, so there
is always one less that is not. -/
def helperPattern (read : String → Except CompileError Pattern) (helpers : Helpers)
    (active : List String) (name : String) : Except CompileError Pattern :=
  if _fresh : active.contains name then .error (.helperCycle name)
  else
    match _defined : helpers.lookup name with
    | none => .error (.unknownHelper name)
    | some body => do
      let pattern ← read body
      substitute (helperPattern read helpers (name :: active)) pattern
termination_by idleCount helpers active
decreasing_by exact idleCount_cons_lt ‹_› ‹_›

section

variable {read : String → Except CompileError Pattern} {helpers : Helpers} {active : List String}
  {name : String}

theorem helperPattern_active (met : name ∈ active) :
    helperPattern read helpers active name = .error (.helperCycle name) := by
  rw [helperPattern, dif_pos (List.contains_iff_mem.mpr met)]

theorem helperPattern_unknown (fresh : name ∉ active) (missing : helpers.lookup name = none) :
    helperPattern read helpers active name = .error (.unknownHelper name) := by
  rw [helperPattern, dif_neg (fresh ∘ List.contains_iff_mem.mp)]
  split
  next => rfl
  next found => cases missing.symm.trans found

theorem helperPattern_defined {body : String} (fresh : name ∉ active)
    (found : helpers.lookup name = some body) :
    helperPattern read helpers active name =
      (do substitute (helperPattern read helpers (name :: active)) (← read body)) := by
  rw [helperPattern, dif_neg (fresh ∘ List.contains_iff_mem.mp)]
  split
  next missing => cases found.symm.trans missing
  next other found' => cases found.symm.trans found'; rfl

end

/-- The pattern of a text, which `read` gives, with all references to helpers replaced. -/
def compileWith (read : String → Except CompileError Pattern) (helpers : Helpers)
    (text : String) : Except CompileError Pattern := do
  let pattern ← read text
  substitute (helperPattern read helpers []) pattern

/-- The pattern of a text with all references to helpers replaced. -/
def compile (helpers : Helpers) (text : String) : Except CompileError Pattern :=
  compileWith parseNamed helpers text

end Storefront.Pattern
