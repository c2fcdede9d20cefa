import Storefront.Proofs.Scoping
import Storefront.Survey.Dispatch

/-!
What a survey finds, section by section. The first switch of the procedure, with plain blocks
opened, dispatches on the number of a shop. A section sets up a shop when its one label is a number
that is neither reserved nor excluded; the shop is the walk of its body and of nothing else. Of
several sections with one number the first counts.

A survey goes through the sections one after the other, so its outcome is said of the sections that
are behind it: `Surveyed` holds before the first one, every section keeps it, and at the end it is
about all of them.
-/

namespace Storefront.Survey

open Storefront.Guard Storefront.Script Storefront.Stock

/-! ### The dispatching switch -/

mutual

/-- The statements that a statement stands for when plain blocks are opened. -/
def opened : Stmt → List Stmt
  | .block body => openedAll body
  | stmt => [stmt]

/-- Statements with plain blocks opened, and the blocks within those. -/
def openedAll : List Stmt → List Stmt
  | [] => []
  | first :: rest => opened first ++ openedAll rest

end

/-- The sections of a switch. -/
def sections? : Stmt → Option (List SwitchSection)
  | .switch _ sections => some sections
  | _ => none

mutual

theorem dispatchIn?_eq_findSome? : ∀ stmt : Stmt,
    dispatchIn? stmt = (opened stmt).findSome? sections?
  | .block body => by
    rw [dispatchIn?, opened]
    exact dispatch?_eq_findSome? body
  | .switch _ _ | .decl _ | .expr _ | .branch _ _ _ | .forLoop _ _ _ _ | .whileLoop _ _
  | .doWhile _ _ | .foreach _ _ _ _ | .breakOut | .continueLoop | .returnValue _ | .empty => rfl

/-- The dispatching switch is the first one among the opened statements. -/
theorem dispatch?_eq_findSome? : ∀ body : List Stmt,
    dispatch? body = (openedAll body).findSome? sections?
  | [] => rfl
  | first :: rest => by
    rw [dispatch?, openedAll, List.findSome?_append, ← dispatchIn?_eq_findSome? first,
      ← dispatch?_eq_findSome? rest]
    cases dispatchIn? first <;> rfl

end

/-! ### Sections that set up shops -/

/-- A number stands for a shop when it is neither reserved nor excluded. -/
def Admitted (settings : Settings) (id : Int) : Prop :=
  id ≠ 19 ∧ id ≠ 21 ∧ id ∉ settings.excludedShops

instance (settings : Settings) (id : Int) : Decidable (Admitted settings id) :=
  inferInstanceAs (Decidable (id ≠ 19 ∧ id ≠ 21 ∧ id ∉ settings.excludedShops))

/-- A section sets up the shop of a number when the number is its only label and stands for a
shop. -/
def SetsUp (settings : Settings) (part : SwitchSection) (id : Int) : Prop :=
  part.labels = [.case (.int id)] ∧ Admitted settings id

theorem SetsUp.unique {settings : Settings} {part : SwitchSection} {id other : Int}
    (setsUp : SetsUp settings part id) (setsUpOther : SetsUp settings part other) : id = other := by
  have same := setsUp.1.symm.trans setsUpOther.1
  simpa using same

theorem isExcluded_eq_false_iff {settings : Settings} {id : Int} :
    settings.isExcluded id = false ↔ Admitted settings id := by
  simp only [Settings.isExcluded, reservedShops, Admitted, Bool.or_eq_false_iff,
    List.contains_eq_mem, decide_eq_false_iff_not, List.mem_cons, List.not_mem_nil, or_false,
    not_or, and_assoc, ne_eq]

theorem shopOfLabels_eq_ok_iff {settings : Settings} {part : SwitchSection} {id : Int} :
    shopOfLabels settings part.labels = .ok id ↔ SetsUp settings part id := by
  constructor
  · intro accepted
    unfold shopOfLabels at accepted
    split at accepted
    · next label single =>
      split at accepted
      · exact nomatch accepted
      · next number isNumber =>
        split at accepted
        · exact nomatch accepted
        · next included =>
          obtain rfl := Except.ok.inj accepted
          obtain rfl : label = .int number := by
            cases label <;> simp_all [Expr.asInt]
          exact ⟨single, isExcluded_eq_false_iff.mp (Bool.eq_false_iff.mpr included)⟩
    · exact nomatch accepted
  · rintro ⟨single, allowed⟩
    rw [single]
    show (if settings.isExcluded id then _ else _) = _
    rw [isExcluded_eq_false_iff.mpr allowed]
    rfl

instance (settings : Settings) (part : SwitchSection) (id : Int) :
    Decidable (SetsUp settings part id) :=
  decidable_of_iff ((shopOfLabels settings part.labels).toOption = some id) <| by
    rw [← shopOfLabels_eq_ok_iff]
    cases shopOfLabels settings part.labels <;> simp [Except.toOption]

/-! ### What is found -/

section

variable (catalog : Catalog) (settings : Settings)

/-- The shop that a section sets up under a number, and what is not understood in it. -/
def walked (id : Int) (part : SwitchSection) : Shop × List Diagnostic :=
  (Walk.mk catalog settings id).run part.body

/-- The shop under a number: that of the first section which sets it up. -/
def shopFound? (parts : List SwitchSection) (id : Int) : Option Shop :=
  (parts.find? fun part => SetsUp settings part id).map fun part =>
    (walked catalog settings id part).1

/-- The diagnostics for a section that follows others. -/
def sectionNotes (earlier : List SwitchSection) : SwitchSection → List Diagnostic
  | .mk [.case (.int id)] body =>
    if Admitted settings id then
      let (shop, notes) := (Walk.mk catalog settings id).run body
      notes ++
        if ∃ other ∈ earlier, SetsUp settings other id then
          [⟨.duplicateShop, some id, "case " ++ toString id,
            "shop already defined; dropping " ++ toString shop.items.length ++ " later items"⟩]
        else []
    else [⟨.excludedShop, some id, "case " ++ toString id, "shop id is excluded by configuration"⟩]
  | .mk [.case label] _ =>
    [⟨.skippedSection, none, "case " ++ label.text, "dispatch label is not an integer literal"⟩]
  | .mk labels _ =>
    [⟨.skippedSection, none, " ".intercalate (labels.map labelText),
      "dispatch section needs exactly one case label"⟩]

/-- The diagnostics for sections that follow others. -/
def notesAfter (earlier : List SwitchSection) : List SwitchSection → List Diagnostic
  | [] => []
  | part :: rest =>
    sectionNotes catalog settings earlier part ++ notesAfter (earlier ++ [part]) rest

/-- What is said of a survey and the sections that are behind it. -/
structure Surveyed (parts : List SwitchSection) (outcome : Outcome) : Prop where
  shops : ∀ id, outcome.directory.get? id = shopFound? catalog settings parts id
  diagnostics : outcome.diagnostics = notesAfter catalog settings [] parts

end

variable {catalog : Catalog} {settings : Settings}

theorem notesAfter_append (earlier parts : List SwitchSection) (part : SwitchSection) :
    notesAfter catalog settings earlier (parts ++ [part]) =
      notesAfter catalog settings earlier parts ++
        sectionNotes catalog settings (earlier ++ parts) part := by
  induction parts generalizing earlier with
  | nil =>
    rw [List.nil_append, List.append_nil, notesAfter, notesAfter, notesAfter, List.append_nil,
      List.nil_append]
  | cons first rest inductionHypothesis =>
    rw [List.cons_append, notesAfter, notesAfter, inductionHypothesis, List.append_assoc,
      List.append_assoc, List.singleton_append]

/-- There is a shop under a number exactly when a section sets it up. -/
theorem isSome_shopFound? (parts : List SwitchSection) (id : Int) :
    (shopFound? catalog settings parts id).isSome ↔ ∃ part ∈ parts, SetsUp settings part id := by
  rw [shopFound?, Option.isSome_map, List.find?_isSome]
  simp only [decide_eq_true_eq]

theorem shopFound?_append (parts : List SwitchSection) (part : SwitchSection) (id : Int) :
    shopFound? catalog settings (parts ++ [part]) id =
      (shopFound? catalog settings parts id).or
        (if SetsUp settings part id then some (walked catalog settings id part).1 else none) := by
  rw [shopFound?, shopFound?, List.find?_append, Option.map_or]
  by_cases setsUp : SetsUp settings part id
  · rw [if_pos setsUp, List.find?_singleton, if_pos (decide_eq_true setsUp), Option.map_some]
  · rw [if_neg setsUp, List.find?_singleton, if_neg (by rwa [decide_eq_true_eq]), Option.map_none]

/-- A section that sets up nothing changes no shop. -/
theorem shopFound?_append_of_none {parts : List SwitchSection} {part : SwitchSection}
    (setsUpNone : ∀ id, ¬ SetsUp settings part id) (number : Int) :
    shopFound? catalog settings (parts ++ [part]) number =
      shopFound? catalog settings parts number := by
  rw [shopFound?_append, if_neg (setsUpNone number), Option.or_none]

/-- A section whose number is taken changes no shop. -/
theorem shopFound?_append_of_taken {parts : List SwitchSection} {part : SwitchSection} {id : Int}
    (setsUp : SetsUp settings part id) (taken : ∃ other ∈ parts, SetsUp settings other id)
    (number : Int) :
    shopFound? catalog settings (parts ++ [part]) number =
      shopFound? catalog settings parts number := by
  rw [shopFound?_append]
  by_cases same : number = id
  · subst same
    rw [Option.or_of_isSome ((isSome_shopFound? parts number).mpr taken)]
  · rw [if_neg fun other => same (other.unique setsUp), Option.or_none]

/-- A section whose number is free sets up the shop of that number. -/
theorem shopFound?_append_of_free {parts : List SwitchSection} {part : SwitchSection} {id : Int}
    (setsUp : SetsUp settings part id) (free : ¬ ∃ other ∈ parts, SetsUp settings other id)
    (number : Int) :
    shopFound? catalog settings (parts ++ [part]) number =
      if number = id then some (walked catalog settings id part).1
      else shopFound? catalog settings parts number := by
  rw [shopFound?_append]
  by_cases same : number = id
  · subst same
    have missing : shopFound? catalog settings parts number = none := by
      rwa [← Option.not_isSome_iff_eq_none, isSome_shopFound?]
    rw [if_pos rfl, if_pos setsUp, missing, Option.none_or]
  · rw [if_neg same, if_neg fun other => same (other.unique setsUp), Option.or_none]

/-- A section sets up one shop, or none and leaves a diagnostic. -/
theorem surveySection_cases (earlier : List SwitchSection) (part : SwitchSection) :
    (∃ id, SetsUp settings part id ∧
        surveySection catalog settings part = .ok (walked catalog settings id part) ∧
        sectionNotes catalog settings earlier part = (walked catalog settings id part).2 ++
          if ∃ other ∈ earlier, SetsUp settings other id then
            [Outcome.duplicate (walked catalog settings id part).1] else []) ∨
      (∀ id, ¬ SetsUp settings part id) ∧ ∃ skipped,
        surveySection catalog settings part = .error skipped ∧
        sectionNotes catalog settings earlier part = [skipped] := by
  obtain ⟨labels, body⟩ := part
  match labels with
  | [] | [.default] => exact Or.inr ⟨fun _ setsUp => (nomatch setsUp.1), _, rfl, rfl⟩
  | first :: second :: rest =>
    have several : sectionNotes catalog settings earlier (.mk (first :: second :: rest) body) =
        [⟨.skippedSection, none, " ".intercalate ((first :: second :: rest).map labelText),
          "dispatch section needs exactly one case label"⟩] := by
      rw [sectionNotes] <;> exact fun _ same => nomatch same
    exact Or.inr ⟨fun _ setsUp => (nomatch setsUp.1), _, by cases first <;> rfl, several⟩
  | [.case label] =>
    cases label with
    | int id =>
      by_cases admitted : Admitted settings id
      · have setsUp : SetsUp settings (.mk [.case (.int id)] body) id := ⟨rfl, admitted⟩
        have accepted : shopOfLabels settings [.case (.int id)] = .ok id :=
          shopOfLabels_eq_ok_iff.mpr setsUp
        have sameId : (walked catalog settings id (.mk [.case (.int id)] body)).1.id = id :=
          (Walk.mk catalog settings id).id_run body
        refine Or.inl ⟨id, setsUp, ?_, (if_pos admitted).trans ?_⟩
        · rw [surveySection, accepted]
          rfl
        · rw [Outcome.duplicate, sameId]
          rfl
      · have excluded : settings.isExcluded id = true := by
          rwa [← Bool.not_eq_false, isExcluded_eq_false_iff]
        refine Or.inr ⟨fun other setsUp => ?_, ⟨.excludedShop, some id, "case " ++ toString id,
          "shop id is excluded by configuration"⟩, ?_, if_neg admitted⟩
        · obtain ⟨single, allowed⟩ := setsUp
          cases single
          exact admitted allowed
        · show Except.map _ (if settings.isExcluded id then _ else _) = _
          rw [if_pos excluded]
          rfl
    | _ => exact Or.inr ⟨fun _ setsUp => (nomatch setsUp.1), _, rfl, rfl⟩

/-! ### The survey -/

theorem surveyed_empty : Surveyed catalog settings [] .empty := ⟨fun _ => rfl, rfl⟩

theorem Surveyed.isSome_get? {parts : List SwitchSection} {outcome : Outcome}
    (surveyed : Surveyed catalog settings parts outcome) (id : Int) :
    (outcome.directory.get? id).isSome ↔ ∃ part ∈ parts, SetsUp settings part id := by
  rw [surveyed.shops, isSome_shopFound?]

/-- One more section keeps what is said of a survey. -/
theorem Surveyed.add {parts : List SwitchSection} {outcome : Outcome}
    (surveyed : Surveyed catalog settings parts outcome) (part : SwitchSection) :
    Surveyed catalog settings (parts ++ [part])
      (outcome.add (surveySection catalog settings part)) := by
  rcases surveySection_cases parts part with
    ⟨id, setsUp, accepted, notes⟩ | ⟨setsUpNone, skipped, refused, notes⟩
  · have sameId : (walked catalog settings id part).1.id = id :=
      (Walk.mk catalog settings id).id_run part.body
    have known : (outcome.directory.get? (walked catalog settings id part).1.id).isSome ↔
        ∃ other ∈ parts, SetsUp settings other id := by
      rw [sameId, surveyed.isSome_get?]
    rw [accepted, Outcome.add, Directory.add?]
    by_cases taken : ∃ other ∈ parts, SetsUp settings other id
    · rw [if_pos (known.mpr taken)]
      refine ⟨fun number => ?_, ?_⟩
      · rw [shopFound?_append_of_taken setsUp taken]
        exact surveyed.shops number
      · rw [notesAfter_append, List.nil_append, notes, if_pos taken, ← surveyed.diagnostics,
          ← List.append_assoc]
    · rw [if_neg fun found => taken (known.mp found)]
      refine ⟨fun number => ?_, ?_⟩
      · rw [shopFound?_append_of_free setsUp taken, ← surveyed.shops]
        show (outcome.directory.put _ _).get? number = _
        rw [Directory.get?_put, sameId]
      · rw [notesAfter_append, List.nil_append, notes, if_neg taken, ← surveyed.diagnostics,
          List.append_nil]
  · rw [refused]
    refine ⟨fun number => ?_, ?_⟩
    · rw [shopFound?_append_of_none setsUpNone]
      exact surveyed.shops number
    · rw [notesAfter_append, List.nil_append, notes, ← surveyed.diagnostics]
      rfl

/-- The sections that follow are added one by one. -/
theorem Surveyed.foldl {parts : List SwitchSection} {outcome : Outcome}
    (surveyed : Surveyed catalog settings parts outcome) (rest : List SwitchSection) :
    Surveyed catalog settings (parts ++ rest)
      ((rest.map (surveySection catalog settings)).foldl Outcome.add outcome) := by
  induction rest generalizing parts outcome with
  | nil => rwa [List.append_nil]
  | cons part rest inductionHypothesis =>
    rw [List.map_cons, List.foldl_cons, ← List.singleton_append, ← List.append_assoc]
    exact inductionHypothesis (surveyed.add part)

/-- A survey looks for the first switch among the statements with plain blocks opened. Without one
it finds nothing and says so. With one, there is a shop under a number exactly when a section sets
it up, and it is what the first such section sets up by itself; the diagnostics are those of the
sections in their order. -/
theorem surveyWith_bySections (catalog : Catalog) (settings : Settings) (body : List Stmt) :
    match (openedAll body).findSome? sections? with
    | none => surveyWith catalog settings body = ⟨.empty, [noDispatch]⟩
    | some parts =>
      (∀ id, ((surveyWith catalog settings body).directory.get? id).isSome ↔
        ∃ part ∈ parts, SetsUp settings part id) ∧
      (∀ id, (surveyWith catalog settings body).directory.get? id =
        (parts.find? fun part => SetsUp settings part id).map fun part =>
          ((Walk.mk catalog settings id).run part.body).1) ∧
      (surveyWith catalog settings body).diagnostics =
        notesAfter catalog settings [] parts := by
  rw [← dispatch?_eq_findSome?, surveyWith]
  cases dispatch? body with
  | none => rfl
  | some parts =>
    have surveyed : Surveyed catalog settings parts _ := surveyed_empty.foldl parts
    exact ⟨surveyed.isSome_get?, surveyed.shops, surveyed.diagnostics⟩

end Storefront.Survey
