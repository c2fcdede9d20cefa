import Mathlib.Data.List.Perm.Basic
import Storefront.Proofs.Entries
import Storefront.Proofs.GuardRemoval
import Storefront.Proofs.Meaning
import Storefront.Proofs.Nodes

/-!
How often a registration is recorded. In a procedure without `for` and `while` loops every call that
registers an item is recorded once for each way to enter the constructs around it, and nothing else
is recorded. A side of a branch is entered in one way. A section of a nested switch is entered by
each of its labels that is understood, and in one way if none is. So the number of items of a call
is a product over the sections around it.

A call is found at every depth of an expression: one that registers an item has no other within it,
so nothing is lost where the search for calls stops. The sections of a switch are walked label by
label, and the calls within them are listed call by call, which is why the two lists agree up to
their order.
-/

namespace Storefront.Script

/-! ### Statements and what is around them -/

open Storefront.Survey (Passage)

/-- A statement, and the constructs around it that may set conditions, outermost first. -/
structure Place where
  around : List Passage
  stmt : Stmt

/-- The same statement with one more construct around it. -/
def Place.under (passage : Passage) (place : Place) : Place :=
  { place with around := passage :: place.around }

mutual

/-- A statement and all statements within it, each with what is around it. -/
def Stmt.places : Stmt → List Place
  | .block body => ⟨[], .block body⟩ :: placesOf body
  | .branch condition whenTrue none =>
    ⟨[], .branch condition whenTrue none⟩ :: whenTrue.places.map (.under (.whenTrue condition))
  | .branch condition whenTrue (some whenFalse) =>
    ⟨[], .branch condition whenTrue (some whenFalse)⟩ ::
      (whenTrue.places.map (.under (.whenTrue condition)) ++
        whenFalse.places.map (.under (.whenFalse condition)))
  | .switch scrutinee sections =>
    ⟨[], .switch scrutinee sections⟩ :: placesOfSections scrutinee sections
  | .forLoop init condition step body => ⟨[], .forLoop init condition step body⟩ :: body.places
  | .whileLoop condition body => ⟨[], .whileLoop condition body⟩ :: body.places
  | .doWhile body condition => ⟨[], .doWhile body condition⟩ :: body.places
  | .foreach type name iterated body => ⟨[], .foreach type name iterated body⟩ :: body.places
  | stmt => [⟨[], stmt⟩]

/-- The places of statements one after the other. -/
def placesOf : List Stmt → List Place
  | [] => []
  | stmt :: rest => stmt.places ++ placesOf rest

/-- The places of the sections of a switch. -/
def placesOfSections (scrutinee : Expr) : List SwitchSection → List Place
  | [] => []
  | .mk labels body :: rest =>
    (placesOf body).map (.under (.labels scrutinee (labels.filterMap CaseLabel.value?))) ++
      placesOfSections scrutinee rest

end

@[simp] theorem stmt_under (passage : Passage) (places : List Place) :
    (places.map (Place.under passage)).map Place.stmt = places.map Place.stmt := by
  rw [List.map_map]
  rfl

mutual

/-- The places of a statement are all statements within it. -/
theorem Stmt.stmt_places : ∀ stmt : Stmt, stmt.places.map Place.stmt = stmt.nodes
  | .block body => congrArg (Stmt.block body :: ·) (stmt_placesOf body)
  | .branch condition whenTrue none => by
    rw [Stmt.places, Stmt.nodes, List.map_cons, stmt_under, whenTrue.stmt_places]
  | .branch condition whenTrue (some whenFalse) => by
    rw [Stmt.places, Stmt.nodes, List.map_cons, List.map_append, stmt_under, stmt_under,
      whenTrue.stmt_places, whenFalse.stmt_places]
  | .switch scrutinee sections =>
    congrArg (Stmt.switch scrutinee sections :: ·) (stmt_placesOfSections scrutinee sections)
  | .forLoop _ _ _ body => congrArg (_ :: ·) body.stmt_places
  | .whileLoop _ body => congrArg (_ :: ·) body.stmt_places
  | .doWhile body _ => congrArg (_ :: ·) body.stmt_places
  | .foreach _ _ _ body => congrArg (_ :: ·) body.stmt_places
  | .decl _ | .expr _ | .breakOut | .continueLoop | .returnValue _ | .empty => rfl

theorem stmt_placesOf : ∀ body : List Stmt, (placesOf body).map Place.stmt = nodesOf body
  | [] => rfl
  | stmt :: rest => by
    rw [placesOf, nodesOf, List.map_append, stmt.stmt_places, stmt_placesOf rest]

theorem stmt_placesOfSections (scrutinee : Expr) : ∀ sections : List SwitchSection,
    (placesOfSections scrutinee sections).map Place.stmt = nodesOfSections sections
  | [] => rfl
  | .mk labels body :: rest => by
    rw [placesOfSections, nodesOfSections, List.map_append, stmt_under, stmt_placesOf body,
      stmt_placesOfSections scrutinee rest]

end

/-! ### Expressions and their parts -/

theorem Expr.nodesOf_eq_flatMap (exprs : List Expr) : nodesOf exprs = exprs.flatMap nodes := by
  induction exprs with
  | nil => rfl
  | cons expr rest inductionHypothesis => rw [nodesOf, inductionHypothesis, List.flatMap_cons]

/-- The nodes of an expression are itself and the nodes of its parts. -/
theorem Expr.nodes_eq (expr : Expr) : expr.nodes = expr :: expr.children.flatMap nodes := by
  cases expr <;> simp [nodes, children, nodesOf_eq_flatMap]

theorem Expr.sizeOf_lt_of_mem_children {expr child : Expr} (isPart : child ∈ expr.children) :
    sizeOf child < sizeOf expr := by
  cases expr with
  | ident _ | int _ | float _ | str _ | char _ | bool _ | null => cases isPart
  | member target _ | unary _ target | paren target | cast _ target =>
    obtain rfl := List.mem_singleton.mp isPart
    simp only [member.sizeOf_spec, unary.sizeOf_spec, paren.sizeOf_spec, cast.sizeOf_spec]
    omega
  | index target args | call target args =>
    simp only [index.sizeOf_spec, call.sizeOf_spec]
    rcases List.mem_cons.mp isPart with rfl | later
    · omega
    · have smaller : sizeOf child < sizeOf args := List.sizeOf_lt_of_mem later
      omega
  | binary _ left right | assign _ left right | conditional _ left right =>
    simp only [children, List.mem_cons, List.not_mem_nil, or_false] at isPart
    simp only [binary.sizeOf_spec, assign.sizeOf_spec, conditional.sizeOf_spec]
    grind
  | create _ args =>
    have smaller : sizeOf child < sizeOf args := List.sizeOf_lt_of_mem isPart
    rw [create.sizeOf_spec]
    omega

end Storefront.Script

namespace Storefront.Survey

open Storefront.Guard Storefront.Script Storefront.Stock

/-! ### Calls within an expression -/

/-- A call that registers an item is written in one of two ways. -/
theorem eq_call_of_registered? {settings : Settings} {expr : Expr} {id : Int}
    (registers : registered? settings expr = some id) :
    ∃ slot, (slot = .ident settings.slotIndex ∨
        slot = .unary .postInc (.ident settings.slotIndex)) ∧
      expr = .call (.member (.index (.ident settings.slotArray) [slot]) settings.registerMethod)
        [.int id] := by
  unfold registered? at registers
  split at registers
  · next array slots method literal =>
    split at registers
    · next named =>
      simp only [Bool.and_eq_true, decide_eq_true_eq, Expr.asIdent_eq_some_iff] at named
      obtain ⟨⟨rfl, rfl⟩, isSlot⟩ := named
      obtain rfl := Pattern.asInt_eq_some_iff.mp registers
      unfold slotVariable? at isSlot
      split at isSlot
      · obtain rfl := Expr.asIdent_eq_some_iff.mp isSlot
        exact ⟨_, .inr rfl, rfl⟩
      · obtain rfl := Expr.asIdent_eq_some_iff.mp isSlot
        exact ⟨_, .inl rfl, rfl⟩
      · cases isSlot
    · cases registers
  · cases registers

/-- A call that registers an item has no other one within it. -/
theorem filterMap_nodes_of_registered? {settings : Settings} {expr : Expr} {id : Int}
    (registers : registered? settings expr = some id) :
    expr.nodes.filterMap (registered? settings) = [id] := by
  obtain ⟨slot, rfl | rfl, rfl⟩ := eq_call_of_registered? registers <;>
    simp [Expr.nodes, Expr.nodesOf, registered?, slotVariable?, Expr.asIdent, Expr.asInt]

/-- The search for registrations finds every call within an expression that is one. -/
theorem registrations_eq_filterMap (settings : Settings) (expr : Expr) :
    registrations settings expr = expr.nodes.filterMap (registered? settings) := by
  cases registers : registered? settings expr with
  | some id =>
    unfold registrations
    rw [filterMap_nodes_of_registered? registers, registers]
  | none =>
    rw [registrations_of_registered?_eq_none registers, Expr.nodes_eq,
      List.filterMap_cons_none registers, List.filterMap_flatMap]
    refine congrArg List.flatten (List.map_congr_left fun child member => ?_)
    have smaller := Expr.sizeOf_lt_of_mem_children member
    exact registrations_eq_filterMap settings child
termination_by sizeOf expr

/-! ### Registrations -/

/-- A call that registers an item, and the constructs around it that may set conditions, outermost
first. -/
structure Registration where
  id : Int
  around : List Passage

/-- The same call with one more construct around it. -/
def Registration.under (passage : Passage) (registration : Registration) : Registration :=
  { registration with around := passage :: registration.around }

/-- The calls that register an item in the expressions which a statement evaluates by itself. -/
def registrationsAt (settings : Settings) (place : Place) : List Registration :=
  ((place.stmt.evaluated.flatMap Expr.nodes).filterMap (registered? settings)).map fun id =>
    ⟨id, place.around⟩

/-- The calls that register an item at some places. -/
def registrationsIn (settings : Settings) (places : List Place) : List Registration :=
  places.flatMap (registrationsAt settings)

section

variable (settings : Settings)

@[simp] theorem registrationsIn_nil : registrationsIn settings [] = [] := rfl

@[simp] theorem registrationsIn_cons (place : Place) (places : List Place) :
    registrationsIn settings (place :: places) =
      registrationsAt settings place ++ registrationsIn settings places := List.flatMap_cons

@[simp] theorem registrationsIn_append (places others : List Place) :
    registrationsIn settings (places ++ others) =
      registrationsIn settings places ++ registrationsIn settings others := List.flatMap_append

@[simp] theorem registrationsIn_under (passage : Passage) (places : List Place) :
    registrationsIn settings (places.map (.under passage)) =
      (registrationsIn settings places).map (.under passage) := by
  rw [registrationsIn, registrationsIn, List.flatMap_map, List.map_flatMap]
  refine congrArg List.flatten (List.map_congr_left fun place _ => ?_)
  show List.map _ _ = List.map _ (List.map _ _)
  rw [List.map_map]
  rfl

end

/-! ### Ways to a registration -/

namespace Walk

variable (walk : Walk)

/-- The ways to enter constructs one within the other, each with the frames that it sets. -/
def entrances : List Passage → List (List Frame)
  | [] => [[]]
  | passage :: rest =>
    (walk.entries passage).flatMap fun taken => (entrances rest).map (taken ++ ·)

/-- In how many ways a registration is come by: for each section of a nested switch around it as
many as it has labels that are understood, but at least one. -/
def multiplicity : List Passage → Nat
  | [] => 1
  | .labels scrutinee values :: rest =>
    Nat.max 1 (values.countP (walk.understands scrutinee)) * multiplicity rest
  | _ :: rest => multiplicity rest

theorem length_entries_labels (scrutinee : Expr) (values : List Expr) :
    (walk.entries (.labels scrutinee values)).length =
      Nat.max 1 (values.countP (walk.understands scrutinee)) := by
  rw [List.countP_eq_length_filter, entries]
  cases values.filter (walk.understands scrutinee) with
  | nil => rfl
  | cons value rest =>
    rw [List.length_map, List.length_cons]
    exact (Nat.max_eq_right (Nat.le_add_left 1 rest.length)).symm

/-- A registration is come by once for each way to enter the constructs around it. -/
theorem length_entrances (around : List Passage) :
    (walk.entrances around).length = walk.multiplicity around := by
  induction around with
  | nil => rfl
  | cons passage rest inductionHypothesis =>
    have counted : (walk.entrances (passage :: rest)).length =
        (walk.entries passage).length * walk.multiplicity rest := by
      simp only [entrances, List.length_flatMap, List.length_map, inductionHypothesis,
        List.map_const', List.sum_replicate_nat]
    rw [counted]
    cases passage with
    | labels scrutinee values => rw [length_entries_labels, multiplicity]
    | whenTrue _ | whenFalse _ | scan _ => exact Nat.one_mul _

theorem multiplicity_pos (around : List Passage) : 0 < walk.multiplicity around := by
  induction around with
  | nil => exact Nat.one_pos
  | cons passage rest inductionHypothesis =>
    cases passage with
    | labels scrutinee values =>
      exact Nat.mul_pos (Nat.lt_of_lt_of_le Nat.one_pos (Nat.le_max_left 1 _)) inductionHypothesis
    | whenTrue _ | whenFalse _ | scan _ => exact inductionHypothesis

/-- The calls of a registration, one for each way to it. -/
def callsOf (registration : Registration) : List Call :=
  (walk.entrances registration.around).map fun taken => ⟨registration.id, taken⟩

/-- The items of a registration, one for each way to it, with the conditions of the frames on that
way. -/
def itemsOf (registration : Registration) : List Item :=
  (walk.callsOf registration).map walk.itemOf

/-! ### One construct more -/

end Walk

/-- The same call within frames. -/
def Call.within (outer : List Frame) (call : Call) : Call :=
  { call with taken := outer ++ call.taken }

/-- Two lists that are gone through one within the other can change places. -/
theorem flatMap_flatMap_perm {α β γ : Type} (firsts : List α) (seconds : List β)
    (combine : α → β → List γ) :
    (firsts.flatMap fun first => seconds.flatMap (combine first)).Perm
      (seconds.flatMap fun second => firsts.flatMap fun first => combine first second) := by
  induction firsts with
  | nil => simp
  | cons first rest inductionHypothesis =>
    simp only [List.flatMap_cons]
    exact (inductionHypothesis.append_left _).trans (seconds.flatMap_append_perm _ _)

namespace Walk

variable (walk : Walk)

/-- A registration within one more construct is called in each way to enter it. -/
theorem callsOf_under (passage : Passage) (registration : Registration) :
    walk.callsOf (registration.under passage) =
      (walk.entries passage).flatMap fun taken =>
        (walk.callsOf registration).map (.within taken) := by
  show ((walk.entries passage).flatMap fun taken => (walk.entrances registration.around).map
    (taken ++ ·)).map _ = _
  rw [List.map_flatMap]
  refine congrArg List.flatten (List.map_congr_left fun taken _ => ?_)
  rw [callsOf, List.map_map, List.map_map]
  rfl

/-- Registrations within one more construct are called in each way to enter it. -/
theorem calls_under_perm (passage : Passage) (registrations : List Registration) :
    ((registrations.map (.under passage)).flatMap walk.callsOf).Perm
      ((walk.entries passage).flatMap fun taken =>
        (registrations.flatMap walk.callsOf).map (.within taken)) := by
  simp only [List.flatMap_map, List.map_flatMap, callsOf_under]
  exact flatMap_flatMap_perm registrations (walk.entries passage) fun registration taken =>
    (walk.callsOf registration).map (Call.within taken)

end Walk

/-! ### What a walk calls -/

/-- The calls of the offers that are found. -/
def Findings.calls (found : Findings (List Frame)) : List Call := found.offers.map Offer.call

namespace Findings

@[simp] theorem calls_append (first second : Findings (List Frame)) :
    (first ++ second).calls = first.calls ++ second.calls := List.map_append

@[simp] theorem calls_note (diagnostics : List Diagnostic) :
    (note diagnostics : Findings (List Frame)).calls = [] := rfl

@[simp] theorem calls_none : (none : Findings (List Frame)).calls = [] := rfl

/-- What is called within frames is what is called without them, with the frames around it. -/
theorem calls_map (outer : List Frame) (found : Findings (List Frame)) :
    (found.map (outer ++ ·)).calls = found.calls.map (.within outer) := by
  rw [calls, calls, Findings.map, List.map_map, List.map_map]
  rfl

end Findings

namespace Walk

variable (walk : Walk)

theorem calls_stmt_within (outer : List Frame) (before : List Stmt) (inner : Stmt) :
    (walk.stmt nest before outer inner).calls =
      (walk.stmt nest before [] inner).calls.map (.within outer) := by
  rw [← Findings.calls_map, walk.stmt_map (nest_respects_append outer), List.append_nil]

theorem calls_stmts_within (outer : List Frame) (before body : List Stmt) :
    (walk.stmts nest before outer body).calls =
      (walk.stmts nest before [] body).calls.map (.within outer) := by
  rw [← Findings.calls_map, walk.stmts_map (nest_respects_append outer), List.append_nil]

/-- Frames are entered one after the other. -/
theorem foldl_nest (outer frames : List Frame) : frames.foldl nest outer = outer ++ frames := by
  induction frames generalizing outer with
  | nil => exact (List.append_nil outer).symm
  | cons frame rest inductionHypothesis =>
    rw [List.foldl_cons, inductionHypothesis, nest, List.append_assoc, List.singleton_append]

/-- The registrations that a statement evaluates by itself are called there. -/
theorem calls_offering {source : Stmt} {ids : List Int}
    (evaluates : ids = source.evaluated.flatMap (registrations walk.settings)) :
    (Findings.offering source ([] : List Frame) ids).calls =
      (registrationsAt walk.settings ⟨[], source⟩).flatMap walk.callsOf := by
  have same : ids =
      (source.evaluated.flatMap Expr.nodes).filterMap (registered? walk.settings) := by
    rw [evaluates, List.filterMap_flatMap]
    exact congrArg List.flatten
      (List.map_congr_left fun expr _ => registrations_eq_filterMap walk.settings expr)
  rw [registrationsAt, ← same, List.flatMap_map, Findings.calls, Findings.offering, List.map_map]
  exact List.map_eq_flatMap

/-- A statement without others within it calls its own registrations. -/
theorem leaf_calls_perm {source : Stmt} {ids : List Int}
    (evaluates : ids = source.evaluated.flatMap (registrations walk.settings))
    (alone : source.places = [⟨[], source⟩]) :
    (Findings.offering source ([] : List Frame) ids).calls.Perm
      ((registrationsIn walk.settings source.places).flatMap walk.callsOf) := by
  rw [walk.calls_offering evaluates, alone, registrationsIn_cons, registrationsIn_nil,
    List.append_nil]

/-- Statements within a construct call their registrations in each way to enter it. -/
theorem calls_entered_perm (passage : Passage) {calls : List Call} {places : List Place}
    (called : calls.Perm ((registrationsIn walk.settings places).flatMap walk.callsOf)) :
    ((walk.entries passage).flatMap fun taken => calls.map (.within taken)).Perm
      ((registrationsIn walk.settings (places.map (.under passage))).flatMap walk.callsOf) := by
  rw [registrationsIn_under]
  refine List.Perm.trans ?_ (walk.calls_under_perm passage _).symm
  exact List.Perm.flatMap_left _ fun taken _ => called.map _

/-- A side of a branch calls its registrations within it. -/
theorem side_calls_perm {side : Frame} {passage : Passage}
    (entered : walk.entries passage = [[side]]) {inner : Stmt}
    (called : (walk.stmt nest [] [] inner).calls.Perm
      ((registrationsIn walk.settings inner.places).flatMap walk.callsOf)) :
    (walk.stmt nest [] (nest [] side) inner).calls.Perm
      ((registrationsIn walk.settings (inner.places.map (.under passage))).flatMap
        walk.callsOf) := by
  have within := walk.calls_entered_perm passage called
  rw [entered, List.flatMap_singleton] at within
  rw [nest, List.nil_append, calls_stmt_within]
  exact within

mutual

/-- A statement without loops calls its registrations, each in all ways to it. -/
theorem stmt_calls_perm (before : List Stmt) :
    ∀ stmt : Stmt, (∀ node ∈ stmt.nodes, node.isLoop = false) →
      (walk.stmt nest before [] stmt).calls.Perm
        ((registrationsIn walk.settings stmt.places).flatMap walk.callsOf)
  | .block body, loopFree => by
    rw [stmt, Stmt.places, registrationsIn_cons]
    exact stmts_calls_perm [] body (List.forall_mem_cons.mp loopFree).2
  | .decl _, _ => walk.leaf_calls_perm rfl rfl
  | .expr _, _ => walk.leaf_calls_perm (List.flatMap_singleton _ _).symm rfl
  | .branch condition whenTrue none, loopFree => by
    have inTrue := (List.forall_mem_cons.mp loopFree).2
    rw [stmt, otherwise, Stmt.places, registrationsIn_cons, Findings.calls_append,
      Findings.calls_append, Findings.calls_none, List.append_nil]
    exact walk.side_calls_perm rfl (stmt_calls_perm [] whenTrue inTrue)
  | .branch condition whenTrue (some whenFalse), loopFree => by
    obtain ⟨inTrue, inFalse⟩ := List.forall_mem_append.mp (List.forall_mem_cons.mp loopFree).2
    rw [stmt, otherwise, Stmt.places, registrationsIn_cons, registrationsIn_append,
      Findings.calls_append, Findings.calls_append, Findings.calls_append, List.flatMap_append,
      List.flatMap_append]
    exact (walk.side_calls_perm rfl (stmt_calls_perm [] whenTrue inTrue)).append
      (walk.side_calls_perm rfl (stmt_calls_perm [] whenFalse inFalse))
  | .switch scrutinee parts, loopFree => by
    rw [stmt, Stmt.places, registrationsIn_cons]
    exact sections_calls_perm scrutinee parts (List.forall_mem_cons.mp loopFree).2
  | .forLoop _ _ _ _, loopFree => absurd (loopFree _ (Stmt.mem_nodes_self _)) (Bool.noConfusion ·)
  | .whileLoop _ _, loopFree => absurd (loopFree _ (Stmt.mem_nodes_self _)) (Bool.noConfusion ·)
  | .doWhile body condition, loopFree => by
    have inBody := (List.forall_mem_cons.mp loopFree).2
    rw [stmt, Findings.calls_append, walk.calls_offering (List.flatMap_singleton _ _).symm,
      Stmt.places, registrationsIn_cons, List.flatMap_append]
    exact ((stmt_calls_perm [] body inBody).append_right _).trans List.perm_append_comm
  | .foreach type name iterated body, loopFree => by
    have inBody := (List.forall_mem_cons.mp loopFree).2
    rw [stmt, Findings.calls_append, walk.calls_offering (List.flatMap_singleton _ _).symm,
      Stmt.places, registrationsIn_cons, List.flatMap_append]
    exact (stmt_calls_perm [] body inBody).append_left _
  | .returnValue (some _), _ => walk.leaf_calls_perm (List.flatMap_singleton _ _).symm rfl
  | .returnValue none, _ | .breakOut, _ | .continueLoop, _ | .empty, _ => .refl _

/-- Statements without loops call their registrations, each in all ways to it. -/
theorem stmts_calls_perm (before : List Stmt) :
    ∀ body : List Stmt, (∀ node ∈ nodesOf body, node.isLoop = false) →
      (walk.stmts nest before [] body).calls.Perm
        ((registrationsIn walk.settings (placesOf body)).flatMap walk.callsOf)
  | [], _ => .refl _
  | first :: rest, loopFree => by
    obtain ⟨inFirst, inRest⟩ := List.forall_mem_append.mp loopFree
    rw [stmts, placesOf, Findings.calls_append, registrationsIn_append, List.flatMap_append]
    exact (stmt_calls_perm before first inFirst).append (stmts_calls_perm _ rest inRest)

/-- Sections without loops call their registrations, each in all ways to it. -/
theorem sections_calls_perm (scrutinee : Expr) :
    ∀ parts : List SwitchSection, (∀ node ∈ nodesOfSections parts, node.isLoop = false) →
      (walk.sections nest scrutinee [] parts).calls.Perm
        ((registrationsIn walk.settings (placesOfSections scrutinee parts)).flatMap walk.callsOf)
  | [], _ => .refl _
  | .mk labels body :: rest, loopFree => by
    obtain ⟨inBody, inRest⟩ := List.forall_mem_append.mp loopFree
    rw [sections, placesOfSections, Findings.calls_append, registrationsIn_append,
      List.flatMap_append]
    refine List.Perm.append ?_ (sections_calls_perm scrutinee rest inRest)
    have entered := walk.calls_entered_perm (.labels scrutinee (labels.filterMap CaseLabel.value?))
      (stmts_calls_perm [] body inBody)
    simp only [← calls_stmts_within] at entered
    rw [Findings.calls, offers_throughLabels, List.map_flatMap]
    simp only [foldl_nest, List.nil_append]
    exact entered

end

/-! ### What a procedure records -/

/-- A procedure without loops records its registrations and nothing else: all calls that register an
item, in an expression that one of its statements evaluates. Each of them is recorded once for each
way to enter the constructs around it: once for each label that is understood, in every section of a
nested switch around it, and at least once. -/
theorem items_perm_registrations (walk : Walk) (body : List Stmt)
    (loopFree : ∀ node ∈ nodesOf body, node.isLoop = false) :
    (walk.run body).1.items.Perm
        ((registrationsIn walk.settings (placesOf body)).flatMap walk.itemsOf) ∧
      (placesOf body).map Place.stmt = nodesOf body ∧
      ∀ registration : Registration,
        (walk.itemsOf registration).length = walk.multiplicity registration.around ∧
          0 < walk.multiplicity registration.around ∧
          ∀ item ∈ walk.itemsOf registration, item.id = registration.id := by
  refine ⟨?_, stmt_placesOf body, fun registration =>
    ⟨?_, walk.multiplicity_pos _, fun item member => ?_⟩⟩
  · have called := (walk.stmts_calls_perm [] body loopFree).map walk.itemOf
    rw [Findings.calls, List.map_map, List.map_flatMap] at called
    rw [walk.items_run body]
    exact called
  · rw [itemsOf, callsOf, List.length_map, List.length_map, length_entrances]
  · obtain ⟨call, called, rfl⟩ := List.mem_map.mp member
    obtain ⟨taken, -, rfl⟩ := List.mem_map.mp called
    rfl

end Walk

/-- Items for two phases of the moon, one of them by night only, and others for none. -/
def moonNights : List Stmt :=
  [.switch (.ident "moon") [
    .mk [.case (.int 0), .case (.int 4), .case .null]
      [.branch night (registering 1) none, registering 2],
    .mk [.case (.int 9), .default] [.doWhile (registering 3) .null]]]

/-- The items for the phases of the moon are recorded twice, label by label, and the others once. -/
theorem items_perm_registrations_moonNights :
    (∀ node ∈ nodesOf moonNights, node.isLoop = false) ∧
      (moonWalk.run moonNights).1.items =
        [⟨1, [.plain .moonPhaseFull, .plain .timeNight]⟩, ⟨2, [.plain .moonPhaseFull]⟩,
          ⟨1, [.plain .moonPhaseNew, .plain .timeNight]⟩, ⟨2, [.plain .moonPhaseNew]⟩, ⟨3, []⟩] ∧
      (moonWalk.run moonNights).1.items.Perm
        [⟨1, [.plain .moonPhaseFull, .plain .timeNight]⟩,
          ⟨1, [.plain .moonPhaseNew, .plain .timeNight]⟩,
          ⟨2, [.plain .moonPhaseFull]⟩, ⟨2, [.plain .moonPhaseNew]⟩, ⟨3, []⟩] := by
  have loopFree : ∀ node ∈ nodesOf moonNights, node.isLoop = false := by
    simp [moonNights, nodesOf, nodesOfSections, Stmt.nodes, Stmt.isLoop, registering]
  obtain ⟨recorded, -⟩ := moonWalk.items_perm_registrations moonNights loopFree
  refine ⟨loopFree, by decide +kernel, recorded.trans (List.Perm.of_eq ?_)⟩
  decide +kernel

end Storefront.Survey
