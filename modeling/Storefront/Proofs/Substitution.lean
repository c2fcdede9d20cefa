import Storefront.Proofs.Captures
import Storefront.Proofs.Expansion

/-!
What putting patterns in the place of references keeps. It changes nothing but the references, so a
relation between a pattern and what becomes of it holds of the whole if each form of pattern takes
it over from its parts, and if it holds of each reference and its replacement.
-/

namespace Storefront.Pattern

open Script.Lexer (eq_ok_of_map_eq_ok)

/-- Whether a pattern is a reference. -/
def isReference : Pattern → Bool
  | helper _ => true
  | _ => false

/-- A relation between a pattern and what becomes of it that each form of pattern takes over from
its parts. -/
structure Congruent (becomes : Pattern → Pattern → Prop) : Prop where
  leaf : ∀ pattern, pattern.isLeaf = true → pattern.isReference = false → becomes pattern pattern
  node : ∀ kind patterns results, List.Forall₂ becomes patterns results →
    becomes (node kind patterns) (node kind results)
  alternatives : ∀ patterns results, List.Forall₂ becomes patterns results →
    becomes (alternatives patterns) (alternatives results)
  conjunction : ∀ patterns results, List.Forall₂ becomes patterns results →
    becomes (conjunction patterns) (conjunction results)
  negation : ∀ inner result, becomes inner result → becomes (negation inner) (negation result)
  capture : ∀ inner result, becomes inner result → becomes (capture inner) (capture result)

variable {becomes : Pattern → Pattern → Prop} {replacement : String → Except CompileError Pattern}

mutual

/-- A pattern becomes the one in which all references are replaced, if each reference becomes its
replacement. -/
theorem becomes_of_substitute (congruent : Congruent becomes) (pattern : Pattern) {result : Pattern}
    (each : ∀ name found, replacement name = .ok found → becomes (helper name) found)
    (replaced : substitute replacement pattern = .ok result) : becomes pattern result := by
  cases pattern with
  | helper name => exact each name result replaced
  | node kind children =>
    rw [substitute] at replaced
    split at replaced
    next =>
      obtain ⟨results, below, rfl⟩ := eq_ok_of_map_eq_ok replaced
      exact congruent.node kind _ _ (become_of_substituteAll congruent children each below)
    next => cases replaced
  | ofKind kind =>
    rw [substitute] at replaced
    split at replaced
    next =>
      cases replaced
      exact congruent.leaf _ rfl rfl
    next => cases replaced
  | alternatives options =>
    rw [substitute] at replaced
    obtain ⟨results, below, rfl⟩ := eq_ok_of_map_eq_ok replaced
    exact congruent.alternatives _ _ (become_of_substituteAll congruent options each below)
  | conjunction parts =>
    rw [substitute] at replaced
    obtain ⟨results, below, rfl⟩ := eq_ok_of_map_eq_ok replaced
    exact congruent.conjunction _ _ (become_of_substituteAll congruent parts each below)
  | capture inner =>
    rw [substitute] at replaced
    obtain ⟨found, below, rfl⟩ := eq_ok_of_map_eq_ok replaced
    exact congruent.capture _ _ (becomes_of_substitute congruent inner each below)
  | negation inner =>
    rw [substitute] at replaced
    obtain ⟨found, below, rfl⟩ := eq_ok_of_map_eq_ok replaced
    exact congruent.negation _ _ (becomes_of_substitute congruent inner each below)
  | wildcard | remaining | symbol _ | symbolStart _ | int _ | float _ | str _ | bool _ | null =>
    cases replaced
    exact congruent.leaf _ rfl rfl

theorem become_of_substituteAll (congruent : Congruent becomes) (patterns : List Pattern)
    {results : List Pattern}
    (each : ∀ name found, replacement name = .ok found → becomes (helper name) found)
    (replaced : substituteAll replacement patterns = .ok results) :
    List.Forall₂ becomes patterns results := by
  cases patterns with
  | nil =>
    cases replaced
    exact .nil
  | cons pattern others =>
    rw [substituteAll] at replaced
    obtain ⟨result, first, replaced⟩ := exists_of_bind replaced
    obtain ⟨more, rest, whole⟩ := exists_of_bind replaced
    cases whole
    exact .cons (becomes_of_substitute congruent pattern each first)
      (become_of_substituteAll congruent others each rest)

end

/-- A reference becomes its replacement within any helpers if it becomes whatever the pattern of its
text becomes. -/
theorem becomes_of_helperPattern {helpers : Helpers} (congruent : Congruent becomes)
    (follows : ∀ name text body found, helpers.lookup name = some text → parse text = .ok body →
      becomes body found → becomes (helper name) found)
    (active : List String) (name : String) :
    ∀ found, helperPattern parseNamed helpers active name = .ok found →
      becomes (helper name) found := by
  induction active, name using helper_induction helpers with
  | step active name within =>
    intro found replaced
    by_cases met : name ∈ active
    · rw [helperPattern_active met] at replaced
      cases replaced
    · cases defined : helpers.lookup name with
      | none =>
        rw [helperPattern_unknown met defined] at replaced
        cases replaced
      | some text =>
        rw [helperPattern_defined met defined] at replaced
        obtain ⟨body, read, replaced⟩ := exists_of_bind replaced
        refine follows name text body found defined (parseNamed_eq_ok_iff.mp read) ?_
        exact becomes_of_substitute congruent body (within met text defined) replaced

/-- The pattern of a text becomes the one that the text compiles to. -/
theorem becomes_of_compile {helpers : Helpers} {text : String} {compiled : Pattern}
    (congruent : Congruent becomes)
    (follows : ∀ name text body found, helpers.lookup name = some text → parse text = .ok body →
      becomes body found → becomes (helper name) found)
    (compiles : compile helpers text = .ok compiled) :
    ∃ pattern, parse text = .ok pattern ∧ becomes pattern compiled := by
  rw [compile, compileWith] at compiles
  obtain ⟨pattern, read, replaced⟩ := exists_of_bind compiles
  refine ⟨pattern, parseNamed_eq_ok_iff.mp read, ?_⟩
  exact becomes_of_substitute congruent pattern
    (becomes_of_helperPattern congruent follows []) replaced

end Storefront.Pattern
