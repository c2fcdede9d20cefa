import Storefront.Guard.Builtin
import Storefront.Proofs.Apart
import Storefront.Proofs.PlainText

/-!
The order of the table of guards. The first entry that accepts an expression counts, so an
expression that two entries match makes their order matter. There is one such pair: a bare name
compared with a million is a number of coins, and it is a golf score too if it is named like one.
All other entries exclude each other, and the table may be put into any order that keeps this pair
as it is.

That the entries exclude each other is found out by evaluation, pair by pair; the patterns are read
from the bytes of their texts for it.
-/

namespace Storefront.Guard

open Storefront.Pattern Storefront.Script Storefront.Text

/-! ### Looking up in another order -/

section

variable {α β : Type} {accept : α → Option β}

/-- Only what is accepted has a part in what is found first. -/
theorem findSome?_filter_isSome (listed : List α) :
    (listed.filter fun candidate => (accept candidate).isSome).findSome? accept =
      listed.findSome? accept := by
  rw [← List.head?_filterMap, ← List.head?_filterMap, List.filterMap_filter]
  refine congrArg (fun found => (List.filterMap found listed).head?) (funext fun candidate => ?_)
  cases accept candidate <;> rfl

/-- A list in which no two members stand in order, apart from two different ones, has nothing else
when it has both. -/
theorem eq_of_pairwise {one other : α} (different : one ≠ other) :
    ∀ {listed : List α}, (listed.Pairwise fun first second => first = one ∧ second = other) →
      listed = [] ∨ (∃ only, listed = [only]) ∨ listed = [one, other]
  | [], _ => Or.inl rfl
  | [only], _ => Or.inr (Or.inl ⟨only, rfl⟩)
  | [first, second], pairs => by
    obtain ⟨rfl, rfl⟩ := List.rel_of_pairwise_cons pairs List.mem_cons_self
    exact Or.inr (Or.inr rfl)
  | first :: second :: third :: _, pairs => by
    have before := List.rel_of_pairwise_cons pairs List.mem_cons_self
    have after := List.rel_of_pairwise_cons pairs.of_cons List.mem_cons_self
    exact absurd (after.1.symm.trans before.2) different

/-- What is found first is the same in another order, if no two candidates are accepted together
apart from a pair that both orders keep. -/
theorem findSome?_of_perm {one other : α} {table listed : List α} (different : one ≠ other)
    (sameMembers : table.Perm listed) (kept : [one, other].Sublist table)
    (apart : listed.Pairwise fun first second =>
      (accept first).isSome → (accept second).isSome → first = one ∧ second = other) :
    table.findSome? accept = listed.findSome? accept := by
  let accepted (candidate : α) : Bool := (accept candidate).isSome
  have members : (table.filter accepted).Perm (listed.filter accepted) :=
    sameMembers.filter accepted
  have pairs : (listed.filter accepted).Pairwise fun first second =>
      first = one ∧ second = other := List.pairwise_filter.mpr apart
  have same : table.filter accepted = listed.filter accepted := by
    rcases eq_of_pairwise different pairs with nothing | ⟨only, single⟩ | both
    · rw [nothing] at members ⊢
      exact members.eq_nil
    · rw [single] at members ⊢
      exact members.eq_singleton
    · have bothAccepted : ([one, other].filter accepted) = [one, other] := by
        refine List.filter_eq_self.mpr fun candidate member => ?_
        rw [← both] at member
        exact (List.mem_filter.mp member).2
      have keptAccepted := kept.filter accepted
      rw [bothAccepted] at keptAccepted
      rw [both] at members ⊢
      exact (keptAccepted.eq_of_length members.length_eq.symm).symm
  rw [← findSome?_filter_isSome table, ← findSome?_filter_isSome listed]
  exact congrArg (List.findSome? accept) same

end

/-! ### Entries that exclude each other -/

/-- The compiled shapes of entries, if all of them compile. -/
def shapes? (helpers : Helpers) : List Entry → Option Catalog
  | [] => some []
  | first :: rest =>
    match compileBytes helpers first.pattern with
    | .ok pattern => (shapes? helpers rest).map (⟨first, pattern⟩ :: ·)
    | .error _ => none

/-- The shapes of entries are the entries, in the same order, with their compiled patterns. -/
theorem compiled_of_shapes? {helpers : Helpers} :
    ∀ {entries : List Entry} {shapes : Catalog}, shapes? helpers entries = some shapes →
      shapes.map Shape.entry = entries ∧
        ∀ shape ∈ shapes, Pattern.compile helpers shape.entry.pattern = .ok shape.pattern
  | [], _, read => by
    obtain rfl := Option.some.inj read
    exact ⟨rfl, fun _ member => absurd member List.not_mem_nil⟩
  | first :: rest, _, read => by
    rw [shapes?, compileBytes_eq_compile] at read
    cases compiled : Pattern.compile helpers first.pattern with
    | error fault =>
      rw [compiled] at read
      exact nomatch read
    | ok pattern =>
      rw [compiled] at read
      obtain ⟨shapes, readRest, rfl⟩ := Option.map_eq_some_iff.mp read
      obtain ⟨sameRest, compiledRest⟩ := compiled_of_shapes? readRest
      refine ⟨congrArg (first :: ·) sameRest, fun shape member => ?_⟩
      rcases List.mem_cons.mp member with rfl | later
      · exact compiled
      · exact compiledRest shape later

/-- How deep patterns of the table are compared. -/
def comparedDepth : Nat := 12

/-- Whether all shapes of a catalog are told apart, except for two entries in this order. -/
def overlapOnly (earlier later : Entry) : Catalog → Bool
  | [] => true
  | first :: rest =>
    (rest.all fun second => apart comparedDepth first.pattern second.pattern ||
      first.entry = earlier && second.entry = later) && overlapOnly earlier later rest

theorem pairwise_of_overlapOnly {earlier later : Entry} :
    ∀ {shapes : Catalog}, overlapOnly earlier later shapes = true →
      shapes.Pairwise fun first second => Exclusive first.pattern second.pattern ∨
        first.entry = earlier ∧ second.entry = later
  | [], _ => .nil
  | first :: rest, checked => by
    rw [overlapOnly, Bool.and_eq_true, List.all_eq_true] at checked
    refine .cons (fun second member => ?_) (pairwise_of_overlapOnly checked.2)
    rcases Bool.or_eq_true .. ▸ checked.1 second member with separate | both
    · exact Or.inl (exclusive_of_apart separate)
    · rw [Bool.and_eq_true, decide_eq_true_eq, decide_eq_true_eq] at both
      exact Or.inr both

/-! ### Looking up entries -/

/-- Whether the compiled pattern of an entry matches an expression. -/
def Entry.Matches (helpers : Helpers) (listed : Entry) (expr : Expr) : Prop :=
  ∃ pattern, Pattern.compile helpers listed.pattern = .ok pattern ∧
    (pattern.matchExpr expr).isSome

instance (helpers : Helpers) (listed : Entry) (expr : Expr) :
    Decidable (listed.Matches helpers expr) :=
  decidable_of_iff (((compileBytes helpers listed.pattern).toOption.any fun pattern =>
      (pattern.matchExpr expr).isSome) = true) <| by
    rw [compileBytes_eq_compile, Entry.Matches]
    cases Pattern.compile helpers listed.pattern <;> simp [Except.toOption]

/-- The condition of an expression that an entry accepts once it is compiled. -/
def Entry.accept? (helpers : Helpers) (expr : Expr) (listed : Entry) : Option Condition :=
  match Pattern.compile helpers listed.pattern with
  | .ok pattern => (Shape.mk listed pattern).accept? expr
  | .error _ => none

/-- An entry accepts only what its pattern matches. -/
theorem Entry.matches_of_accept? {helpers : Helpers} {expr : Expr} {listed : Entry}
    (accepted : (listed.accept? helpers expr).isSome) : listed.Matches helpers expr := by
  unfold Entry.accept? at accepted
  split at accepted
  · next pattern compiled =>
    refine ⟨pattern, compiled, ?_⟩
    rw [Shape.accept?] at accepted
    exact Option.isSome_of_isSome_bind accepted
  · exact Bool.noConfusion accepted

/-- A lookup in a compiled table finds what the first entry that accepts the expression gives. -/
theorem lookup_compile (helpers : Helpers) (entries : List Entry) (expr : Expr) :
    (Catalog.compile helpers entries).lookup expr =
      entries.findSome? (Entry.accept? helpers expr) := by
  rw [Catalog.lookup, Catalog.compile, ← List.head?_filterMap, List.filterMap_filterMap,
    List.head?_filterMap]
  refine congrArg (List.findSome? · entries) (funext fun listed => ?_)
  rw [Entry.accept?]
  cases Pattern.compile helpers listed.pattern <;> rfl

/-- Compiled shapes that exclude each other apart from two entries in this order come from entries
of which no others match the same expression. -/
theorem pairwise_matches {helpers : Helpers} {earlier later : Entry} {shapes : Catalog}
    (compiled : ∀ shape ∈ shapes,
      Pattern.compile helpers shape.entry.pattern = .ok shape.pattern)
    (exclusive : shapes.Pairwise fun first second => Exclusive first.pattern second.pattern ∨
      first.entry = earlier ∧ second.entry = later) (expr : Expr) :
    (shapes.map Shape.entry).Pairwise fun first second =>
      first.Matches helpers expr → second.Matches helpers expr →
        first = earlier ∧ second = later := by
  refine List.pairwise_map.mpr (exclusive.imp_of_mem ?_)
  rintro first second firstMember secondMember (exclude | both) ⟨pattern, read, matched⟩
    ⟨other, readOther, matchedOther⟩
  · obtain rfl := Except.ok.inj ((compiled first firstMember).symm.trans read)
    obtain rfl := Except.ok.inj ((compiled second secondMember).symm.trans readOther)
    rcases exclude (.expr expr) with unmatched | unmatched
    · rw [show first.pattern.matchExpr expr = none from unmatched] at matched
      exact Bool.noConfusion matched
    · rw [show second.pattern.matchExpr expr = none from unmatched] at matchedOther
      exact Bool.noConfusion matchedOther
  · exact both

/-! ### The built-in table -/

/-- Any bare name compared with a million. -/
def coinEntry : Entry := entry .platinumCoin "(ge (ident _) 1000000)"

/-- A bare name of a golf score compared with a number. -/
def golfEntry : Entry :=
  ⟨.golfScoreOver, "\x7b(gt (ident :golferScoreAccumulated*) $(int _)) (ge (ident " ++
    ":golferScoreAccumulated*) $(int _))\x7d", .integer⟩

/-- The entries of the table compile, and exclude each other apart from one pair. -/
theorem builtin_overlapOnly :
    ((shapes? builtinHelpers builtinEntries).any (overlapOnly coinEntry golfEntry)) = true := by
  decide +kernel

/-- Every entry of the built-in table compiles. Two entries that match the same expression are those
for coins and for golf scores, in this order. So a lookup gives the same in every order of the table
that keeps these two as they are. -/
theorem lookup_of_reordered :
    (∀ listed ∈ builtinEntries, ∃ pattern,
      Pattern.compile builtinHelpers listed.pattern = .ok pattern) ∧
    (∀ (expr : Expr) (place otherPlace : Nat) (first second : Entry), place < otherPlace →
      builtinEntries[place]? = some first → builtinEntries[otherPlace]? = some second →
      first.Matches builtinHelpers expr → second.Matches builtinHelpers expr →
        first = coinEntry ∧ second = golfEntry) ∧
    ∀ table : List Entry, table.Perm builtinEntries → [coinEntry, golfEntry].Sublist table →
      ∀ expr, (Catalog.compile builtinHelpers table).lookup expr = builtinCatalog.lookup expr := by
  obtain ⟨shapes, read, checked⟩ := (Option.any_eq_true _ _).mp builtin_overlapOnly
  obtain ⟨same, compiled⟩ := compiled_of_shapes? read
  have pairs (expr : Expr) := pairwise_matches compiled (pairwise_of_overlapOnly checked) expr
  rw [same] at pairs
  refine ⟨fun listed member => ?_, ?_, ?_⟩
  · rw [← same] at member
    obtain ⟨shape, shapeMember, rfl⟩ := List.mem_map.mp member
    exact ⟨shape.pattern, compiled shape shapeMember⟩
  · intro expr place otherPlace first second before atPlace atOther
    obtain ⟨inside, rfl⟩ := List.getElem?_eq_some_iff.mp atPlace
    obtain ⟨insideToo, rfl⟩ := List.getElem?_eq_some_iff.mp atOther
    exact List.pairwise_iff_getElem.mp (pairs expr) place otherPlace inside insideToo before
  · intro table sameMembers kept expr
    rw [builtinCatalog, lookup_compile, lookup_compile]
    refine findSome?_of_perm (fun equal => ?_) sameMembers kept ((pairs expr).imp ?_)
    · exact nomatch congrArg Entry.tag equal
    · intro first second both acceptedFirst acceptedSecond
      exact both (Entry.matches_of_accept? acceptedFirst) (Entry.matches_of_accept? acceptedSecond)

/-- A golf score compared with a million. -/
def millionScore : Expr := .binary .ge (.ident "golferScoreAccumulated") (.int 1000000)

/-- The two entries do overlap: both match a golf score compared with a million. It is looked up
alike when the first entry of the table is made the last. -/
theorem lookup_millionScore :
    builtinEntries[125]? = some coinEntry ∧ builtinEntries[132]? = some golfEntry ∧
      coinEntry.Matches builtinHelpers millionScore ∧
      golfEntry.Matches builtinHelpers millionScore ∧
      (Catalog.compile builtinHelpers (builtinEntries.tail ++ builtinEntries.take 1)).lookup
        millionScore = builtinCatalog.lookup millionScore := by
  refine ⟨by decide, by decide, by decide +kernel, by decide +kernel, ?_⟩
  have moved : (builtinEntries.tail ++ builtinEntries.take 1).Perm builtinEntries :=
    List.perm_append_comm
  exact lookup_of_reordered.2.2 _ moved (by decide +kernel) millionScore

end Storefront.Guard
