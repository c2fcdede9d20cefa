import Storefront.Proofs.Branching
import Storefront.Proofs.Notes

/-!
What a guard adds. A procedure has one open position, at which a statement stands either under a
guard that is understood, or in a block without it. The walk comes by the position once for each
way that leads there; a section of a nested switch is entered by each of its labels that is
understood. Each time the statement offers its items under the conditions of the frames around the
position; the guard adds its own conditions right behind those, and changes nothing else. A branch
and a block both declare nothing, so a loop that looks for a declaration before it cannot tell them
apart.

The open position is a context: a statement with one way down to a hole. What the walk comes by is
listed in pieces, which depend on the context alone, and not on the statement in the hole.
-/

namespace Storefront.Script

/-! ### Contexts -/

/-- A statement with one open position, at which another statement can be put. The position is not
within a `for` loop or a `while` loop. -/
inductive Context where
  | here
  | block (earlier : List Stmt) (inner : Context) (later : List Stmt)
  | thenSide (condition : Expr) (inner : Context) (whenFalse : Option Stmt)
  | elseSide (condition : Expr) (whenTrue : Stmt) (inner : Context)
  | switch (scrutinee : Expr) (partsBefore : List SwitchSection) (labels : List CaseLabel)
      (earlier : List Stmt) (inner : Context) (later : List Stmt)
      (partsAfter : List SwitchSection)
  | doWhile (inner : Context) (condition : Expr)
  | foreach (type name : String) (iterated : Expr) (inner : Context)

/-- Puts a statement at the open position. -/
def Context.fill (target : Stmt) : Context → Stmt
  | .here => target
  | .block earlier inner later => .block (earlier ++ inner.fill target :: later)
  | .thenSide condition inner whenFalse => .branch condition (inner.fill target) whenFalse
  | .elseSide condition whenTrue inner => .branch condition whenTrue (some (inner.fill target))
  | .switch scrutinee partsBefore labels earlier inner later partsAfter =>
    .switch scrutinee
      (partsBefore ++ .mk labels (earlier ++ inner.fill target :: later) :: partsAfter)
  | .doWhile inner condition => .doWhile (inner.fill target) condition
  | .foreach type name iterated inner => .foreach type name iterated (inner.fill target)

/-- A procedure with one open position. -/
structure OpenBody where
  earlier : List Stmt
  inner : Context
  later : List Stmt

/-- Puts a statement at the open position of a procedure. -/
def OpenBody.fill (target : Stmt) (body : OpenBody) : List Stmt :=
  body.earlier ++ body.inner.fill target :: body.later

end Storefront.Script

namespace Storefront.Survey

open Storefront.Guard Storefront.Script Storefront.Stock

/-! ### Declarations before a statement -/

namespace Walk

variable {walk : Walk} {Env : Type} {enter : Env → Frame → Env}

/-- Of the statements before a statement only those count that declare a variable. -/
theorem stmt_of_same_declarations {before other : List Stmt}
    (same : ∀ name, before.filterMap (declares? name) = other.filterMap (declares? name))
    (active : Env) (target : Stmt) :
    walk.stmt enter before active target = walk.stmt enter other active target := by
  cases target with
  | whileLoop condition body =>
    have values (name : String) : initialValue? name before = initialValue? name other := by
      rw [initialValue?, initialValue?, same]
    rw [stmt, stmt, filledItems, filledItems]
    simp only [values]
  | returnValue value => cases value <;> rfl
  | _ => rfl

theorem stmts_of_same_declarations {before other : List Stmt}
    (same : ∀ name, before.filterMap (declares? name) = other.filterMap (declares? name))
    (active : Env) (body : List Stmt) :
    walk.stmts enter before active body = walk.stmts enter other active body := by
  induction body generalizing before other with
  | nil => rfl
  | cons first rest inductionHypothesis =>
    rw [stmts, stmts, stmt_of_same_declarations same]
    congr 1
    refine inductionHypothesis fun name => ?_
    rw [List.filterMap_cons, List.filterMap_cons, same]

/-- Statements one after the other, in two parts. -/
theorem stmts_append (before : List Stmt) (active : Env) (body later : List Stmt) :
    walk.stmts enter before active (body ++ later) =
      walk.stmts enter before active body ++
        walk.stmts enter (body.reverse ++ before) active later := by
  induction body generalizing before with
  | nil => rfl
  | cons first rest inductionHypothesis =>
    rw [List.cons_append, stmts, stmts, inductionHypothesis, List.reverse_cons, List.append_assoc,
      Findings.append_assoc]
    rfl

theorem sections_append (scrutinee : Expr) (active : Env) (parts later : List SwitchSection) :
    walk.sections enter scrutinee active (parts ++ later) =
      walk.sections enter scrutinee active parts ++
        walk.sections enter scrutinee active later := by
  induction parts with
  | nil => rfl
  | cons part rest inductionHypothesis =>
    obtain ⟨labels, body⟩ := part
    rw [List.cons_append, sections, sections, inductionHypothesis, Findings.append_assoc]

end Walk

/-! ### What a walk comes by -/

/-- What a walk comes by in a procedure with an open position: what it finds elsewhere, or the
position itself, with the frames around it. -/
inductive Piece where
  | found (items : List Item) (notes : List Diagnostic)
  | gap (frames : List Frame)

/-- Findings away from the open position. -/
def Findings.piece (found : Findings (List Condition)) : Piece :=
  .found (found.offers.map Offer.item) found.notes

namespace Walk

variable (walk : Walk)

/-- The conditions of frames, outermost first. -/
def conditionsOfAll (frames : List Frame) : List Condition := frames.flatMap walk.conditionsOf

/-- What a walk comes by in a section by way of one of its labels. -/
def labelPieces (scrutinee : Expr) (inside : List Frame → List Piece) (frames : List Frame)
    (value : Expr) : List Piece :=
  match walk.label scrutinee value with
  | .ok _ => inside (nest frames (.label scrutinee value))
  | .error diagnostics => [.found [] diagnostics]

/-- What a walk comes by in a section by way of all of its labels, or of none if none is
understood. -/
def sectionPieces (scrutinee : Expr) (inside : List Frame → List Piece) (frames : List Frame)
    (values : List Expr) : List Piece :=
  let pieces := values.flatMap (walk.labelPieces scrutinee inside frames)
  if values.any fun value => (walk.label scrutinee value).isOk then pieces
  else pieces ++ inside frames

/-- What a walk comes by in statements one after the other. The one with the open position declares
nothing, as an empty statement does. -/
def stmtsPieces (earlier : List Stmt) (inside : List Frame → List Piece) (later : List Stmt)
    (frames : List Frame) : List Piece :=
  (walk.stmts walk.push [] (walk.conditionsOfAll frames) earlier).piece :: inside frames ++
    [(walk.stmts walk.push (.empty :: earlier.reverse) (walk.conditionsOfAll frames) later).piece]

/-- What a walk comes by in a statement with an open position. -/
def pieces : Context → List Frame → List Piece
  | .here, frames => [.gap frames]
  | .block earlier inner later, frames => walk.stmtsPieces earlier (pieces inner) later frames
  | .thenSide condition inner whenFalse, frames =>
    .found [] (walk.guardNotes condition) :: pieces inner (nest frames (.whenTrue condition)) ++
      [(walk.otherwise walk.push condition
        (walk.conditionsOfAll (nest frames (.whenFalse condition))) whenFalse).piece]
  | .elseSide condition whenTrue inner, frames =>
    .found [] (walk.guardNotes condition) ::
      (walk.stmt walk.push [] (walk.conditionsOfAll (nest frames (.whenTrue condition)))
        whenTrue).piece ::
      .found [] (walk.inversionNotes condition) ::
      pieces inner (nest frames (.whenFalse condition))
  | .switch scrutinee partsBefore labels earlier inner later partsAfter, frames =>
    (walk.sections walk.push scrutinee (walk.conditionsOfAll frames) partsBefore).piece ::
      walk.sectionPieces scrutinee (walk.stmtsPieces earlier (pieces inner) later) frames
        (labels.filterMap CaseLabel.value?) ++
      [(walk.sections walk.push scrutinee (walk.conditionsOfAll frames) partsAfter).piece]
  | .doWhile inner condition, frames =>
    pieces inner frames ++
      [.found ((registrations walk.settings condition).map fun id =>
        ⟨id, walk.conditionsOfAll frames⟩) []]
  | .foreach _ _ iterated inner, frames =>
    .found ((registrations walk.settings iterated).map fun id =>
      ⟨id, walk.conditionsOfAll frames⟩) [] :: pieces inner frames

/-- What a walk comes by in a procedure with an open position. -/
def bodyPieces (body : OpenBody) : List Piece :=
  walk.stmtsPieces body.earlier (walk.pieces body.inner) body.later []

end Walk

/-- The items of a piece, if the statement at the open position offers the items that are given,
under the conditions of the frames and some more. -/
def Piece.items (walk : Walk) (own : List Item) (more : List Condition) : Piece → List Item
  | .found items _ => items
  | .gap frames => own.map (Item.under (walk.conditionsOfAll frames ++ more))

/-- The diagnostics of a piece, if those of the statement at the open position are given. -/
def Piece.notes (own : List Diagnostic) : Piece → List Diagnostic
  | .found _ notes => notes
  | .gap _ => own

/-! ### Filling the position -/

theorem Walk.items_run_push (walk : Walk) (body : List Stmt) :
    (walk.run body).1.items = (walk.stmts walk.push [] [] body).offers.map Offer.item := by
  have gathered : walk.visitAll [] body walk.start =
      walk.start.gather (walk.stmts walk.push [] [] body) :=
    walk.visitAll_gathers [] body walk.start
  show (walk.visitAll [] body walk.start).shop.items = _
  rw [gathered]
  exact List.nil_append _

/-- A statement offers the items that are given wherever it stands, under what holds there and some
more conditions. It has the diagnostics that are given, and declares nothing. -/
structure Gives (walk : Walk) (own : List Item) (more : List Condition) (ownNotes : List Diagnostic)
    (target : Stmt) : Prop where
  items : ∀ before active, (walk.stmt walk.push before active target).offers.map Offer.item =
    own.map (Item.under (active ++ more))
  notes : ∀ before active, (walk.stmt walk.push before active target).notes = ownNotes
  silent : ∀ name, declares? name target = none

/-- Findings are those of pieces. -/
structure Shows (walk : Walk) (own : List Item) (more : List Condition)
    (ownNotes : List Diagnostic) (found : Findings (List Condition)) (pieces : List Piece) :
    Prop where
  items : found.offers.map Offer.item = pieces.flatMap (Piece.items walk own more)
  notes : found.notes = pieces.flatMap (Piece.notes ownNotes)

namespace Walk

variable {walk : Walk} {own : List Item} {more : List Condition} {ownNotes : List Diagnostic}

theorem conditionsOfAll_nest (frames : List Frame) (frame : Frame) :
    walk.conditionsOfAll (nest frames frame) = walk.push (walk.conditionsOfAll frames) frame :=
  walk.flatMap_respects_push frames frame

theorem shows_append {first second : Findings (List Condition)} {pieces others : List Piece}
    (here : Shows walk own more ownNotes first pieces)
    (there : Shows walk own more ownNotes second others) :
    Shows walk own more ownNotes (first ++ second) (pieces ++ others) where
  items := by
    rw [Findings.offers_append, List.map_append, List.flatMap_append, here.items, there.items]
  notes := by rw [Findings.notes_append, List.flatMap_append, here.notes, there.notes]

theorem shows_none : Shows walk own more ownNotes .none [] := ⟨rfl, rfl⟩

theorem shows_piece (found : Findings (List Condition)) :
    Shows walk own more ownNotes found [found.piece] where
  items := by rw [List.flatMap_singleton]; rfl
  notes := by rw [List.flatMap_singleton]; rfl

theorem shows_note (diagnostics : List Diagnostic) :
    Shows walk own more ownNotes (.note diagnostics) [.found [] diagnostics] :=
  shows_piece (.note diagnostics)

theorem shows_offering (source : Stmt) (active : List Condition) (ids : List Int) :
    Shows walk own more ownNotes (.offering source active ids)
      [.found (ids.map fun id => ⟨id, active⟩) []] where
  items := by
    rw [List.flatMap_singleton, Findings.offering, List.map_map]
    rfl
  notes := by rw [List.flatMap_singleton]; rfl

theorem shows_concat {values : List Expr} {inside : Expr → Findings (List Condition)}
    {pieces : Expr → List Piece}
    (shows : ∀ value, Shows walk own more ownNotes (inside value) (pieces value)) :
    Shows walk own more ownNotes (Findings.concat (values.map inside)) (values.flatMap pieces) := by
  induction values with
  | nil => exact shows_none
  | cons value rest inductionHypothesis => exact shows_append (shows value) inductionHypothesis

/-- A section shows its pieces if its statements do, within whatever frames they stand. -/
theorem shows_throughLabels (scrutinee : Expr) {inside : List Condition → Findings (List Condition)}
    {pieces : List Frame → List Piece}
    (shows : ∀ frames,
      Shows walk own more ownNotes (inside (walk.conditionsOfAll frames)) (pieces frames))
    (frames : List Frame) (values : List Expr) :
    Shows walk own more ownNotes
      (walk.throughLabels walk.push scrutinee inside (walk.conditionsOfAll frames) values)
      (walk.sectionPieces scrutinee pieces frames values) := by
  have byLabel (value : Expr) : Shows walk own more ownNotes
      (walk.throughLabel walk.push scrutinee inside (walk.conditionsOfAll frames) value)
      (walk.labelPieces scrutinee pieces frames value) := by
    rw [throughLabel, labelPieces]
    cases walk.label scrutinee value with
    | ok conditions =>
      rw [← conditionsOfAll_nest]
      exact shows _
    | error diagnostics => exact shows_note diagnostics
  unfold throughLabels sectionPieces
  dsimp only
  split
  · exact shows_concat byLabel
  · exact shows_append (shows_concat byLabel) (shows frames)

/-- Statements around one that declares nothing show their pieces. -/
theorem shows_stmts {target : Stmt} (silent : ∀ name, declares? name target = none)
    {inside : List Frame → List Piece}
    (shows : ∀ before frames, Shows walk own more ownNotes
      (walk.stmt walk.push before (walk.conditionsOfAll frames) target) (inside frames))
    (earlier later : List Stmt) (frames : List Frame) :
    Shows walk own more ownNotes
      (walk.stmts walk.push [] (walk.conditionsOfAll frames) (earlier ++ target :: later))
      (walk.stmtsPieces earlier inside later frames) := by
  have laterAlike : walk.stmts walk.push (target :: (earlier.reverse ++ []))
        (walk.conditionsOfAll frames) later =
      walk.stmts walk.push (.empty :: earlier.reverse) (walk.conditionsOfAll frames) later := by
    refine stmts_of_same_declarations (fun name => ?_) _ later
    rw [List.append_nil, List.filterMap_cons_none (silent name), List.filterMap_cons_none rfl]
  rw [stmts_append, stmts, laterAlike, stmtsPieces, ← Findings.append_assoc]
  exact shows_append (shows_append (shows_piece _) (shows _ frames)) (shows_piece _)

theorem silent_fill {target : Stmt} (silent : ∀ name, declares? name target = none)
    (context : Context) (name : String) : declares? name (context.fill target) = none := by
  cases context with
  | here => exact silent name
  | _ => rfl

/-- A statement whose open position is filled shows its pieces. -/
theorem shows_fill {target : Stmt} (gives : Gives walk own more ownNotes target) :
    ∀ (context : Context) (before : List Stmt) (frames : List Frame),
      Shows walk own more ownNotes
        (walk.stmt walk.push before (walk.conditionsOfAll frames) (context.fill target))
        (walk.pieces context frames)
  | .here, before, frames => by
    refine ⟨?_, ?_⟩
    · rw [pieces, List.flatMap_singleton]
      exact gives.items before _
    · rw [pieces, List.flatMap_singleton]
      exact gives.notes before _
  | .block earlier inner later, _, frames => by
    rw [Context.fill, stmt, pieces]
    exact shows_stmts (silent_fill gives.silent inner) (shows_fill gives inner) earlier later frames
  | .thenSide condition inner whenFalse, _, frames => by
    rw [Context.fill, stmt, pieces, ← conditionsOfAll_nest, ← conditionsOfAll_nest]
    exact shows_append (shows_append (shows_note _) (shows_fill gives inner [] _)) (shows_piece _)
  | .elseSide condition whenTrue inner, _, frames => by
    rw [Context.fill, stmt, pieces, otherwise, ← conditionsOfAll_nest, ← conditionsOfAll_nest]
    exact shows_append (shows_append (shows_note _) (shows_piece _))
      (shows_append (shows_note _) (shows_fill gives inner [] _))
  | .switch scrutinee partsBefore labels earlier inner later partsAfter, _, frames => by
    rw [Context.fill, stmt, pieces, sections_append, sections, ← Findings.append_assoc]
    refine shows_append (shows_append (shows_piece _) ?_) (shows_piece _)
    refine shows_throughLabels scrutinee (fun within => ?_) frames _
    exact shows_stmts (silent_fill gives.silent inner) (shows_fill gives inner) earlier later within
  | .doWhile inner condition, _, frames => by
    rw [Context.fill, stmt, pieces]
    exact shows_append (shows_fill gives inner [] frames) (shows_offering _ _ _)
  | .foreach type name iterated inner, _, frames => by
    rw [Context.fill, stmt, pieces]
    exact shows_append (shows_offering _ _ _) (shows_fill gives inner [] frames)

/-- A procedure whose open position is filled gives the items and the diagnostics of its pieces. -/
theorem run_fill {target : Stmt} (gives : Gives walk own more ownNotes target) (body : OpenBody) :
    (walk.run (body.fill target)).1.items =
        (walk.bodyPieces body).flatMap (Piece.items walk own more) ∧
      (walk.run (body.fill target)).2 = (walk.bodyPieces body).flatMap (Piece.notes ownNotes) := by
  have shows := shows_stmts (silent_fill gives.silent body.inner) (shows_fill gives body.inner)
    body.earlier body.later []
  rw [items_run_push, notes_run]
  exact ⟨shows.items, shows.notes⟩

/-! ### The statement in a block, and under a guard -/

/-- A statement in a block offers what it offers by itself. -/
theorem gives_block (inner : Stmt) :
    Gives walk (walk.run [inner]).1.items [] (walk.run [inner]).2 (.block [inner]) where
  items before active := by
    rw [stmt, stmts_eq_map_append, items_run_push, List.append_nil, Findings.map, List.map_map,
      item_comp_map, List.map_map]
  notes before active := by
    rw [stmt, stmts_eq_map_append, notes_run]
    rfl
  silent _ := rfl

/-- A guard that is understood takes the place of a block, with its conditions pushed. -/
theorem stmt_guarded {guard : Expr} {conditions : List Condition}
    (understanding : decompose walk.catalog guard = .ok conditions) (inner : Stmt)
    (before : List Stmt) (active : List Condition) :
    walk.stmt walk.push before active (.branch guard inner none) =
      walk.stmt walk.push before (active ++ conditions) (.block [inner]) := by
  rw [stmt, stmt, guardNotes, understanding, walk.push_whenTrue understanding]
  rfl

/-- A statement under a guard offers the same, with the conditions of the guard. -/
theorem gives_guarded {guard : Expr} {conditions : List Condition}
    (understanding : decompose walk.catalog guard = .ok conditions) (inner : Stmt) :
    Gives walk (walk.run [inner]).1.items conditions (walk.run [inner]).2
      (.branch guard inner none) where
  items before active := by
    rw [stmt_guarded understanding, (gives_block inner).items, List.append_nil]
  notes before active := by rw [stmt_guarded understanding, (gives_block inner).notes]
  silent _ := rfl

/-! ### The frames around the position -/

/-- Where the open position is met in pieces: within the frames that hold already, and those around
what is put there. -/
def Encased (walk : Walk) (target outer : Stmt) (holding : List Frame) (pieces : List Piece) :
    Prop :=
  ∀ frames, .gap frames ∈ pieces →
    ∃ around, frames = holding ++ around ∧ Encloses walk outer around target

theorem encased_gap (target : Stmt) (holding : List Frame) :
    walk.Encased target target holding [.gap holding] := by
  intro frames member
  obtain rfl := Piece.gap.inj (List.mem_singleton.mp member)
  exact ⟨[], (List.append_nil frames).symm, .here target⟩

theorem encased_append {target outer : Stmt} {holding : List Frame} {pieces others : List Piece}
    (here : walk.Encased target outer holding pieces)
    (there : walk.Encased target outer holding others) :
    walk.Encased target outer holding (pieces ++ others) := by
  intro frames member
  rcases List.mem_append.mp member with inPieces | inOthers
  · exact here frames inPieces
  · exact there frames inOthers

theorem encased_found {target outer : Stmt} {holding : List Frame} (items : List Item)
    (notes : List Diagnostic) : walk.Encased target outer holding [.found items notes] := by
  intro frames member
  cases List.mem_singleton.mp member

/-- What is met in a part is met in the whole, if the whole sets no frame around the part. -/
theorem Encased.through {target outer inner : Stmt} {holding : List Frame} {pieces : List Piece}
    (encased : walk.Encased target inner holding pieces)
    (encloses : ∀ {around}, Encloses walk inner around target → Encloses walk outer around target) :
    walk.Encased target outer holding pieces := by
  intro frames member
  obtain ⟨around, rfl, deeper⟩ := encased frames member
  exact ⟨around, rfl, encloses deeper⟩

/-- What is met in a part within a frame is met in the whole. -/
theorem Encased.within {target outer inner : Stmt} {holding : List Frame} {frame : Frame}
    {pieces : List Piece} (encased : walk.Encased target inner (nest holding frame) pieces)
    (encloses : ∀ {around}, Encloses walk inner around target →
      Encloses walk outer (frame :: around) target) :
    walk.Encased target outer holding pieces := by
  intro frames member
  obtain ⟨around, rfl, deeper⟩ := encased frames member
  exact ⟨frame :: around, List.append_assoc holding [frame] around, encloses deeper⟩

theorem encased_stmtsPieces {target outer : Stmt} {inside : List Frame → List Piece}
    {holding : List Frame} (encased : walk.Encased target outer holding (inside holding))
    (earlier later : List Stmt) :
    walk.Encased target outer holding (walk.stmtsPieces earlier inside later holding) :=
  encased_append (encased_append (encased_found _ _) encased) (encased_found _ _)

theorem encased_sectionPieces {target outer : Stmt} {scrutinee : Expr}
    {inside : List Frame → List Piece} {holding : List Frame} {values : List Expr}
    (labelled : ∀ value ∈ values, (walk.label scrutinee value).isOk = true →
      walk.Encased target outer holding (inside (nest holding (.label scrutinee value))))
    (unlabelled : (∀ value ∈ values, (walk.label scrutinee value).isOk = false) →
      walk.Encased target outer holding (inside holding)) :
    walk.Encased target outer holding (walk.sectionPieces scrutinee inside holding values) := by
  have byLabel : walk.Encased target outer holding
      (values.flatMap (walk.labelPieces scrutinee inside holding)) := by
    intro frames member
    obtain ⟨value, valueMember, inLabel⟩ := List.mem_flatMap.mp member
    rw [labelPieces] at inLabel
    cases entered : walk.label scrutinee value with
    | ok conditions =>
      rw [entered] at inLabel
      exact labelled value valueMember (by rw [entered]; rfl) frames inLabel
    | error diagnostics =>
      rw [entered] at inLabel
      exact encased_found _ _ frames inLabel
  unfold sectionPieces
  dsimp only
  split
  · exact byLabel
  · next unknown =>
    refine encased_append byLabel (unlabelled fun value valueMember => ?_)
    rw [Bool.not_eq_true, List.any_eq_false] at unknown
    exact Bool.eq_false_iff.mpr (unknown value valueMember)

/-- The open position of a statement is met within the frames that enclose what is put there. -/
theorem encased_fill (target : Stmt) : ∀ (context : Context) (holding : List Frame),
    walk.Encased target (context.fill target) holding (walk.pieces context holding)
  | .here, holding => encased_gap target holding
  | .block earlier inner later, holding =>
    (encased_stmtsPieces (encased_fill target inner holding) earlier later).through
      (.block List.mem_append_cons_self)
  | .thenSide condition inner whenFalse, holding =>
    encased_append (encased_append (encased_found _ _)
      ((encased_fill target inner (nest holding (.whenTrue condition))).within .whenTrue))
      (encased_found _ _)
  | .elseSide condition whenTrue inner, holding =>
    encased_append (encased_found _ _) (encased_append (encased_found _ _)
      (encased_append (encased_found _ _)
        ((encased_fill target inner (nest holding (.whenFalse condition))).within .whenFalse)))
  | .switch scrutinee partsBefore labels earlier inner later partsAfter, holding => by
    refine encased_append (encased_append (encased_found _ _) ?_) (encased_found _ _)
    have inParts : .mk labels (earlier ++ inner.fill target :: later) ∈
        partsBefore ++ .mk labels (earlier ++ inner.fill target :: later) :: partsAfter :=
      List.mem_append_cons_self
    refine encased_sectionPieces (fun value valueMember known => ?_) fun unknown => ?_
    · exact (encased_stmtsPieces (encased_fill target inner _) earlier later).within
        (.label inParts valueMember known List.mem_append_cons_self)
    · exact (encased_stmtsPieces (encased_fill target inner holding) earlier later).through
        (.unlabelled inParts unknown List.mem_append_cons_self)
  | .doWhile inner condition, holding =>
    encased_append ((encased_fill target inner holding).through .doWhile) (encased_found _ _)
  | .foreach type name iterated inner, holding =>
    encased_append (encased_found _ _) ((encased_fill target inner holding).through .foreach)

theorem encased_bodyPieces (target : Stmt) (body : OpenBody) :
    ∀ frames, .gap frames ∈ walk.bodyPieces body →
      ∃ stmt ∈ body.fill target, Encloses walk stmt frames target := by
  intro frames member
  obtain ⟨around, rfl, enclosed⟩ :=
    encased_stmtsPieces (encased_fill target body.inner []) body.earlier body.later frames member
  exact ⟨_, List.mem_append_cons_self, enclosed⟩

/-! ### Guards can be removed -/

/-- Further conditions do not change which items a piece has. -/
theorem ids_items (walk : Walk) (own : List Item) (more others : List Condition) (piece : Piece) :
    (piece.items walk own more).map Item.id = (piece.items walk own others).map Item.id := by
  cases piece with
  | found items notes => rfl
  | gap frames =>
    rw [Piece.items, Piece.items, List.map_map, List.map_map]
    rfl

/-- A guard that is understood adds its conditions and nothing else. The walk comes by the same
pieces with the guard and without it. At the open position the statement offers the items that it
offers by itself, under the conditions of the frames around the position, and with the guard under
its conditions right behind those. All other items are the same, and so are the diagnostics. -/
theorem guard_removed (walk : Walk) (body : OpenBody) (inner : Stmt) {guard : Expr}
    {conditions : List Condition} (understanding : decompose walk.catalog guard = .ok conditions) :
    let own := (walk.run [inner]).1.items
    let plain := walk.run (body.fill (.block [inner]))
    let guarded := walk.run (body.fill (.branch guard inner none))
    plain.1.items = (walk.bodyPieces body).flatMap (Piece.items walk own []) ∧
      guarded.1.items = (walk.bodyPieces body).flatMap (Piece.items walk own conditions) ∧
      guarded.1.items.length = plain.1.items.length ∧
      guarded.1.items.map Item.id = plain.1.items.map Item.id ∧
      guarded.2 = plain.2 ∧
      ∀ frames, .gap frames ∈ walk.bodyPieces body → ∀ target,
        ∃ stmt ∈ body.fill target, Encloses walk stmt frames target := by
  intro own plain guarded
  obtain ⟨plainItems, plainNotes⟩ := @run_fill walk _ _ _ _ (gives_block inner) body
  obtain ⟨guardedItems, guardedNotes⟩ := run_fill (gives_guarded understanding inner) body
  have sameIds : guarded.1.items.map Item.id = plain.1.items.map Item.id := by
    rw [guardedItems, plainItems, List.map_flatMap, List.map_flatMap]
    refine congrArg List.flatten (List.map_congr_left fun piece _ => ?_)
    exact ids_items walk own conditions [] piece
  have lengths := congrArg List.length sameIds
  rw [List.length_map, List.length_map] at lengths
  exact ⟨plainItems, guardedItems, lengths, sameIds, guardedNotes.trans plainNotes.symm,
    fun frames member target => encased_bodyPieces target body frames member⟩

end Walk

/-- A walk that understands two phases of the moon too. -/
def moonWalk : Walk where
  catalog := [⟨entry .moonPhaseFull "(eq (ident moon) 0)",
      .node "eq" [.node "ident" [.symbol "moon"], .int 0]⟩,
    ⟨entry .moonPhaseNew "(eq (ident moon) 4)",
      .node "eq" [.node "ident" [.symbol "moon"], .int 4]⟩] ++ dayWalk.catalog
  settings := .standard
  shop := 1

/-- A position by day, in a section for two phases of the moon. -/
def moonBody : OpenBody where
  earlier := [registering 1]
  inner := .elseSide night (registering 2) (.switch (.ident "moon") []
    [.case (.int 0), .case (.int 4)] [] .here [registering 4] [])
  later := [registering 5]

/-- The walk comes by the position twice. Both times the guard adds its condition behind those of
the day and of the moon. -/
theorem guard_removed_under_moon :
    decompose moonWalk.catalog hardModeGuard = .ok [.plain .hardmode] ∧
      (moonWalk.run (moonBody.fill (.branch hardModeGuard (registering 3) none))).1.items =
        [⟨1, []⟩, ⟨2, [.plain .timeNight]⟩,
          ⟨3, [.plain .timeDay, .plain .moonPhaseFull, .plain .hardmode]⟩,
          ⟨4, [.plain .timeDay, .plain .moonPhaseFull]⟩,
          ⟨3, [.plain .timeDay, .plain .moonPhaseNew, .plain .hardmode]⟩,
          ⟨4, [.plain .timeDay, .plain .moonPhaseNew]⟩, ⟨5, []⟩] ∧
      (moonWalk.run (moonBody.fill (.block [registering 3]))).1.items =
        [⟨1, []⟩, ⟨2, [.plain .timeNight]⟩,
          ⟨3, [.plain .timeDay, .plain .moonPhaseFull]⟩,
          ⟨4, [.plain .timeDay, .plain .moonPhaseFull]⟩,
          ⟨3, [.plain .timeDay, .plain .moonPhaseNew]⟩,
          ⟨4, [.plain .timeDay, .plain .moonPhaseNew]⟩, ⟨5, []⟩] := by
  have understanding : decompose moonWalk.catalog hardModeGuard = .ok [.plain .hardmode] := rfl
  obtain ⟨plain, guarded, -⟩ := moonWalk.guard_removed moonBody (registering 3) understanding
  exact ⟨understanding, guarded.trans (by decide +kernel), plain.trans (by decide +kernel)⟩

end Storefront.Survey
