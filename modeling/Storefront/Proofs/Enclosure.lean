import Storefront.Proofs.Scoping

/-!
Where the conditions of an item come from. Every item that a call registers carries the conditions
of the constructs around the call, outermost first: of the branches that lead to it, of the labels
of nested switches, and of scans of the inventory.

One kind of construct is left out. A scan goes straight to its test for an item, at whatever depth
it stands, and what lies between the two is passed over. So the conditions of an item are those of
all constructs around the call exactly when no construct that is passed over on the way to a test
would have set any.

The frames of an item are found by the walk whose environment is the list of frames. What they mean
is said on its own, by the relation `Encloses` on statements.
-/

/-- The expressions that a statement evaluates by itself, apart from guards and bounds. -/
def Storefront.Script.Stmt.evaluated : Storefront.Script.Stmt → List Storefront.Script.Expr
  | .decl declared => declared.vars.filterMap Storefront.Script.Declarator.init
  | .expr evaluated => [evaluated]
  | .doWhile _ condition => [condition]
  | .foreach _ _ iterated _ => [iterated]
  | .returnValue (some value) => [value]
  | _ => []

/-- Whether a statement is a loop that can stand for a range of items. -/
def Storefront.Script.Stmt.isLoop : Storefront.Script.Stmt → Bool
  | .forLoop _ _ _ _ | .whileLoop _ _ => true
  | _ => false

namespace Storefront.Survey

open Storefront.Guard Storefront.Script Storefront.Stock

/-! ### Enclosing constructs -/

/-- A way from a statement down to one within it, with the constructs that it passes. -/
inductive Passes (walk : Walk) : Stmt → List Passage → Stmt → Prop where
  | here (stmt : Stmt) : Passes walk stmt [] stmt
  | block {body : List Stmt} {inner target : Stmt} {passed : List Passage} (member : inner ∈ body)
      (way : Passes walk inner passed target) : Passes walk (.block body) passed target
  | whenTrue {condition : Expr} {whenTrue target : Stmt} {whenFalse : Option Stmt}
      {passed : List Passage} (way : Passes walk whenTrue passed target) :
      Passes walk (.branch condition whenTrue whenFalse) (.whenTrue condition :: passed) target
  | whenFalse {condition : Expr} {whenTrue whenFalse target : Stmt} {passed : List Passage}
      (way : Passes walk whenFalse passed target) :
      Passes walk (.branch condition whenTrue (some whenFalse)) (.whenFalse condition :: passed)
        target
  | switch {scrutinee : Expr} {parts : List SwitchSection} {part : SwitchSection}
      {inner target : Stmt} {passed : List Passage} (partMember : part ∈ parts)
      (member : inner ∈ part.body) (way : Passes walk inner passed target) :
      Passes walk (.switch scrutinee parts) (.labels scrutinee part.caseValues :: passed) target
  | forLoop {init : Option ForInit} {condition : Option Expr} {step : List Expr}
      {body target : Stmt} {passed : List Passage} (way : Passes walk body passed target) :
      Passes walk (.forLoop init condition step body)
        (walk.loopPassage init condition step ++ passed) target
  | whileLoop {condition : Expr} {body target : Stmt} {passed : List Passage}
      (way : Passes walk body passed target) : Passes walk (.whileLoop condition body) passed target
  | doWhile {condition : Expr} {body target : Stmt} {passed : List Passage}
      (way : Passes walk body passed target) : Passes walk (.doWhile body condition) passed target
  | foreach {type name : String} {iterated : Expr} {body target : Stmt} {passed : List Passage}
      (way : Passes walk body passed target) :
      Passes walk (.foreach type name iterated body) passed target

/-- The frames around a statement within another one, outermost first. The test that a scan of the
inventory is about belongs to the frame of the scan. -/
inductive Encloses (walk : Walk) : Stmt → List Frame → Stmt → Prop where
  | here (stmt : Stmt) : Encloses walk stmt [] stmt
  | block {body : List Stmt} {inner target : Stmt} {frames : List Frame} (member : inner ∈ body)
      (deeper : Encloses walk inner frames target) : Encloses walk (.block body) frames target
  | whenTrue {condition : Expr} {whenTrue target : Stmt} {whenFalse : Option Stmt}
      {frames : List Frame} (deeper : Encloses walk whenTrue frames target) :
      Encloses walk (.branch condition whenTrue whenFalse) (.whenTrue condition :: frames) target
  | whenFalse {condition : Expr} {whenTrue whenFalse target : Stmt} {frames : List Frame}
      (deeper : Encloses walk whenFalse frames target) :
      Encloses walk (.branch condition whenTrue (some whenFalse)) (.whenFalse condition :: frames)
        target
  | label {scrutinee value : Expr} {parts : List SwitchSection} {part : SwitchSection}
      {inner target : Stmt} {frames : List Frame} (partMember : part ∈ parts)
      (valueMember : value ∈ part.caseValues) (known : (walk.label scrutinee value).isOk = true)
      (member : inner ∈ part.body) (deeper : Encloses walk inner frames target) :
      Encloses walk (.switch scrutinee parts) (.label scrutinee value :: frames) target
  | unlabelled {scrutinee : Expr} {parts : List SwitchSection} {part : SwitchSection}
      {inner target : Stmt} {frames : List Frame} (partMember : part ∈ parts)
      (unknown : ∀ value ∈ part.caseValues, (walk.label scrutinee value).isOk = false)
      (member : inner ∈ part.body) (deeper : Encloses walk inner frames target) :
      Encloses walk (.switch scrutinee parts) frames target
  | scan {init : Option ForInit} {condition : Option Expr} {step : List Expr} {name : String}
      {check : Expr} {item : Int} {body whenTrue target : Stmt} {whenFalse : Option Stmt}
      {passed : List Passage} {frames : List Frame}
      (scanned : walk.scanned? init condition step = some name)
      (way : Passes walk body passed (.branch check whenTrue whenFalse))
      (tested : Walk.checkedItem? name check = some item)
      (deeper : Encloses walk whenTrue frames target) :
      Encloses walk (.forLoop init condition step body) (.scan passed item :: frames) target
  | doWhile {condition : Expr} {body target : Stmt} {frames : List Frame}
      (deeper : Encloses walk body frames target) :
      Encloses walk (.doWhile body condition) frames target
  | foreach {type name : String} {iterated : Expr} {body target : Stmt} {frames : List Frame}
      (deeper : Encloses walk body frames target) :
      Encloses walk (.foreach type name iterated body) frames target

/-! ### The conditions of all constructs -/

/-- The conditions of the constructs that a scan passes over. A test for an item in the slot of a
loop that is passed, `awaited` until then, stands for that item; any other branch stands for its
guard, and a section for its first label that is understood. -/
def Walk.passedConditions (walk : Walk) (awaited : List String) : List Passage → List Condition
  | [] => []
  | .whenTrue condition :: rest =>
    match awaited.findSome? fun name => (checkedItem? name condition).map fun item =>
      (name, item) with
    | some (name, item) => carries item :: walk.passedConditions (awaited.erase name) rest
    | none => walk.conditionsOf (.whenTrue condition) ++ walk.passedConditions awaited rest
  | .whenFalse condition :: rest =>
    walk.conditionsOf (.whenFalse condition) ++ walk.passedConditions awaited rest
  | .labels scrutinee values :: rest =>
    ((values.findSome? fun value => (walk.label scrutinee value).toOption).getD []) ++
      walk.passedConditions awaited rest
  | .scan name :: rest => walk.passedConditions (name :: awaited) rest

/-- The conditions of the constructs that a frame passes over; only a scan passes over any. -/
def Walk.omittedBy (walk : Walk) : Frame → List Condition
  | .scan passed _ => walk.passedConditions [] passed
  | _ => []

/-- The conditions of a frame together with those of the constructs that it passes over. -/
def Walk.allConditionsOf (walk : Walk) (frame : Frame) : List Condition :=
  walk.omittedBy frame ++ walk.conditionsOf frame

/-! ### Offers with their frames -/

/-- The frames of an environment that is the list of them, with one more within them. -/
def nest (frames : List Frame) (frame : Frame) : List Frame := frames ++ [frame]

/-- The items that a list of statements offers, each with the frames around the statement that
registers it. -/
def Walk.offers (walk : Walk) (body : List Stmt) : List (Offer (List Frame)) :=
  (walk.stmts nest [] [] body).offers

/-- What the frames of an offer within a statement are, and where its item comes from. -/
structure Placed (walk : Walk) (stmt : Stmt) (offer : Offer (List Frame)) : Prop where
  enclosed : Encloses walk stmt offer.place offer.source
  called : offer.source.isLoop = false →
    offer.id ∈ offer.source.evaluated.flatMap (registrations walk.settings)

/-- What the frames of an offer within a scan are: the way down to the test that the scan is about,
and the frames within the branch that the test guards. -/
inductive Checked (walk : Walk) (name : String) (passed : List Passage) (stmt : Stmt)
    (offer : Offer (List Frame)) : Prop where
  | intro {check : Expr} {item : Int} {whenTrue : Stmt} {whenFalse : Option Stmt}
      {further : List Passage} {inner : Offer (List Frame)}
      (way : Passes walk stmt further (.branch check whenTrue whenFalse))
      (tested : Walk.checkedItem? name check = some item)
      (same : offer = inner.map (.scan (passed ++ further) item :: ·))
      (placed : Placed walk whenTrue inner)

/-- A scan that finds its test further down has passed what lies in between. -/
theorem Checked.through {walk : Walk} {name : String} {passed between : List Passage}
    {outer stmt : Stmt} {offer : Offer (List Frame)}
    (checked : Checked walk name (passed ++ between) stmt offer)
    (step : ∀ {further target}, Passes walk stmt further target →
      Passes walk outer (between ++ further) target) :
    Checked walk name passed outer offer := by
  obtain ⟨way, tested, same, placed⟩ := checked
  rw [List.append_assoc] at same
  exact ⟨step way, tested, same, placed⟩

/-- A scan that passes a construct which sets no conditions. -/
theorem Checked.within {walk : Walk} {name : String} {passed : List Passage} {outer stmt : Stmt}
    {offer : Offer (List Frame)} (checked : Checked walk name passed stmt offer)
    (step : ∀ {further target}, Passes walk stmt further target →
      Passes walk outer further target) :
    Checked walk name passed outer offer := by
  obtain ⟨way, tested, same, placed⟩ := checked
  exact ⟨step way, tested, same, placed⟩

/-! ### Every offer has the frames that enclose it -/

namespace Walk

variable {walk : Walk}

theorem nest_respects_append (frames : List Frame) : Respects nest nest (frames ++ ·) :=
  fun active frame => (List.append_assoc frames active [frame]).symm

/-- What a statement offers within a frame is what it offers by itself, with the frame around it. -/
theorem mem_stmt_nest {frame : Frame} {inner : Stmt} {offer : Offer (List Frame)}
    (member : offer ∈ (walk.stmt nest [] (nest [] frame) inner).offers) :
    ∃ alone ∈ (walk.stmt nest [] [] inner).offers, offer = alone.map (frame :: ·) := by
  have turned := walk.stmt_map (nest_respects_append [frame]) [] [] inner
  rw [List.append_nil] at turned
  rw [nest, List.nil_append, ← turned] at member
  exact Findings.exists_of_mem_map member

/-- What statements offer within a frame is what they offer by themselves, with the frame around
it. -/
theorem mem_stmts_nest {frame : Frame} {body : List Stmt} {offer : Offer (List Frame)}
    (member : offer ∈ (walk.stmts nest [] (nest [] frame) body).offers) :
    ∃ alone ∈ (walk.stmts nest [] [] body).offers, offer = alone.map (frame :: ·) := by
  have turned := walk.stmts_map (nest_respects_append [frame]) [] [] body
  rw [List.append_nil] at turned
  rw [nest, List.nil_append, ← turned] at member
  exact Findings.exists_of_mem_map member

/-- The items that a statement registers by itself have no frames. -/
theorem placed_offering {source : Stmt} {ids : List Int} {offer : Offer (List Frame)}
    (called : source.isLoop = false →
      ∀ id ∈ ids, id ∈ source.evaluated.flatMap (registrations walk.settings))
    (member : offer ∈ (Findings.offering source [] ids).offers) : Placed walk source offer := by
  obtain ⟨id, idMember, rfl⟩ := List.mem_map.mp member
  exact ⟨.here source, fun plain => called plain id idMember⟩

/-- The items of a loop that stands for a range have no frames. -/
theorem placed_unrolling {source : Stmt} {outcome : Except Diagnostic (List Int)}
    {offer : Offer (List Frame)} (loop : source.isLoop = true)
    (member : offer ∈ (Findings.unrolling source [] outcome).offers) :
    Placed walk source offer := by
  cases outcome with
  | ok ids =>
    exact placed_offering (fun plain => absurd loop (by rw [plain]; exact Bool.false_ne_true))
      member
  | error diagnostic => exact absurd member List.not_mem_nil

/-- What a section offers is offered by way of a label that is understood, or by way of none. -/
theorem mem_throughLabels {scrutinee : Expr} {inside : List Frame → Findings (List Frame)}
    {values : List Expr} {offer : Offer (List Frame)}
    (member : offer ∈ (walk.throughLabels nest scrutinee inside [] values).offers) :
    (∃ value ∈ values, (walk.label scrutinee value).isOk = true ∧
        offer ∈ (inside (nest [] (.label scrutinee value))).offers) ∨
      (∀ value ∈ values, (walk.label scrutinee value).isOk = false) ∧
        offer ∈ (inside []).offers := by
  have byLabel (found : offer ∈ (Findings.concat
      (values.map (walk.throughLabel nest scrutinee inside []))).offers) :
      ∃ value ∈ values, (walk.label scrutinee value).isOk = true ∧
        offer ∈ (inside (nest [] (.label scrutinee value))).offers := by
    rw [Findings.offers_concat, List.flatMap_map] at found
    obtain ⟨value, valueMember, inPart⟩ := List.mem_flatMap.mp found
    rw [throughLabel] at inPart
    cases entered : walk.label scrutinee value with
    | ok conditions =>
      rw [entered] at inPart
      exact ⟨value, valueMember, by rw [entered]; rfl, inPart⟩
    | error diagnostics =>
      rw [entered] at inPart
      exact absurd inPart List.not_mem_nil
  rw [throughLabels] at member
  split at member
  · exact Or.inl (byLabel member)
  · next unknown =>
    rcases List.mem_append.mp member with labelled | plain
    · exact Or.inl (byLabel labelled)
    · refine Or.inr ⟨fun value valueMember => ?_, plain⟩
      rw [Bool.not_eq_true, List.any_eq_false] at unknown
      exact Bool.eq_false_iff.mpr (unknown value valueMember)

mutual

/-- What a statement offers has the frames that enclose it there. -/
theorem stmt_placed (before : List Stmt) :
    ∀ (stmt : Stmt) (offer : Offer (List Frame)),
      offer ∈ (walk.stmt nest before [] stmt).offers → Placed walk stmt offer
  | .block body, offer, member => by
    obtain ⟨inner, innerMember, placed⟩ := stmts_placed [] body offer member
    exact ⟨.block innerMember placed.enclosed, placed.called⟩
  | .decl declared, offer, member => placed_offering (fun _ _ called => called) member
  | .expr evaluated, offer, member =>
    placed_offering (fun _ id called => List.mem_flatMap.mpr
      ⟨evaluated, List.mem_singleton_self evaluated, called⟩) member
  | .branch condition whenTrue whenFalse, offer, member => by
    rw [stmt] at member
    rcases List.mem_append.mp member with noteOrTrue | inFalse
    · rcases List.mem_append.mp noteOrTrue with noted | inTrue
      · exact absurd noted List.not_mem_nil
      · obtain ⟨alone, aloneMember, rfl⟩ := mem_stmt_nest inTrue
        have placed := stmt_placed [] whenTrue alone aloneMember
        exact ⟨.whenTrue placed.enclosed, placed.called⟩
    · obtain ⟨inner, alone, rfl, placed, rfl⟩ := otherwise_placed condition whenFalse offer inFalse
      exact ⟨.whenFalse placed.enclosed, placed.called⟩
  | .switch scrutinee parts, offer, member =>
    sections_placed scrutinee parts parts (fun _ partMember => partMember) offer member
  | .forLoop init condition step body, offer, member => by
    rw [stmt] at member
    cases shape : loopShape init condition step with
    | unrecognized | malformed reason =>
      rw [shape] at member
      exact absurd member List.not_mem_nil
    | counting name range =>
      rw [shape] at member
      dsimp only at member
      split at member
      · next inventory =>
        have scanned : walk.scanned? init condition step = some name := by
          rw [scanned?, shape]
          exact if_pos inventory
        cases scans : walk.scan nest name [] [] body with
        | none =>
          rw [scans] at member
          exact absurd member List.not_mem_nil
        | some found =>
          rw [scans] at member
          obtain ⟨way, tested, rfl, placed⟩ := scan_placed name [] body found scans offer member
          exact ⟨.scan scanned way tested placed.enclosed, placed.called⟩
      · exact placed_unrolling rfl member
  | .whileLoop _ _, offer, member => placed_unrolling rfl member
  | .doWhile body condition, offer, member => by
    rw [stmt] at member
    rcases List.mem_append.mp member with inBody | own
    · have placed := stmt_placed [] body offer inBody
      exact ⟨.doWhile placed.enclosed, placed.called⟩
    · exact placed_offering (fun _ id called => List.mem_flatMap.mpr
        ⟨condition, List.mem_singleton_self condition, called⟩) own
  | .foreach type name iterated body, offer, member => by
    rw [stmt] at member
    rcases List.mem_append.mp member with own | inBody
    · exact placed_offering (fun _ id called => List.mem_flatMap.mpr
        ⟨iterated, List.mem_singleton_self iterated, called⟩) own
    · have placed := stmt_placed [] body offer inBody
      exact ⟨.foreach placed.enclosed, placed.called⟩
  | .returnValue (some value), offer, member =>
    placed_offering (fun _ id called => List.mem_flatMap.mpr
      ⟨value, List.mem_singleton_self value, called⟩) member
  | .returnValue none, _, member | .breakOut, _, member | .continueLoop, _, member
  | .empty, _, member => absurd member List.not_mem_nil
termination_by structural part => part

theorem otherwise_placed (condition : Expr) :
    ∀ (stmt? : Option Stmt) (offer : Offer (List Frame)),
      offer ∈ (walk.otherwise nest condition (nest [] (.whenFalse condition)) stmt?).offers →
        ∃ whenFalse alone, stmt? = some whenFalse ∧ Placed walk whenFalse alone ∧
          offer = alone.map (.whenFalse condition :: ·)
  | none, _, member => absurd member List.not_mem_nil
  | some whenFalse, offer, member => by
    rw [otherwise] at member
    rcases List.mem_append.mp member with noted | inside
    · exact absurd noted List.not_mem_nil
    · obtain ⟨alone, aloneMember, same⟩ := mem_stmt_nest inside
      exact ⟨whenFalse, alone, rfl, stmt_placed [] whenFalse alone aloneMember, same⟩
termination_by structural part => part

/-- What statements offer is offered by one of them, with the frames that enclose it there. -/
theorem stmts_placed (before : List Stmt) :
    ∀ (body : List Stmt) (offer : Offer (List Frame)),
      offer ∈ (walk.stmts nest before [] body).offers → ∃ inner ∈ body, Placed walk inner offer
  | [], _, member => absurd member List.not_mem_nil
  | first :: rest, offer, member => by
    rw [stmts] at member
    rcases List.mem_append.mp member with inFirst | inRest
    · exact ⟨first, List.mem_cons_self, stmt_placed before first offer inFirst⟩
    · obtain ⟨inner, innerMember, placed⟩ := stmts_placed (first :: before) rest offer inRest
      exact ⟨inner, List.mem_cons_of_mem first innerMember, placed⟩
termination_by structural part => part

/-- What sections of a nested switch offer has the frames that enclose it there. -/
theorem sections_placed (scrutinee : Expr) (all : List SwitchSection) :
    ∀ parts : List SwitchSection, (∀ part ∈ parts, part ∈ all) → ∀ offer : Offer (List Frame),
      offer ∈ (walk.sections nest scrutinee [] parts).offers →
        Placed walk (.switch scrutinee all) offer
  | [], _, _, member => absurd member List.not_mem_nil
  | .mk labels body :: rest, within, offer, member => by
    rw [sections] at member
    have partMember : .mk labels body ∈ all := within _ List.mem_cons_self
    rcases List.mem_append.mp member with inPart | inRest
    · rcases mem_throughLabels inPart with ⟨value, valueMember, known, inside⟩ | ⟨unknown, inside⟩
      · obtain ⟨alone, aloneMember, rfl⟩ := mem_stmts_nest inside
        obtain ⟨inner, innerMember, placed⟩ := stmts_placed [] body alone aloneMember
        exact ⟨.label partMember valueMember known innerMember placed.enclosed, placed.called⟩
      · obtain ⟨inner, innerMember, placed⟩ := stmts_placed [] body offer inside
        exact ⟨.unlabelled partMember unknown innerMember placed.enclosed, placed.called⟩
    · exact sections_placed scrutinee all rest
        (fun part later => within part (List.mem_cons_of_mem _ later)) offer inRest
termination_by structural part => part

/-- What a scan offers has the frames within its test, and the way to the test. -/
theorem scan_placed (name : String) (passed : List Passage) :
    ∀ (stmt : Stmt) (found : Findings (List Frame)),
      walk.scan nest name passed [] stmt = some found → ∀ offer ∈ found.offers,
        Checked walk name passed stmt offer
  | .block body, found, scans, offer, member => by
    obtain ⟨inner, innerMember, checked⟩ := scanAll_placed name passed body found scans offer member
    exact checked.within fun way => .block innerMember way
  | .branch condition whenTrue whenFalse, found, scans, offer, member => by
    rw [scan] at scans
    cases tested : checkedItem? name condition with
    | some item =>
      rw [tested] at scans
      obtain rfl := Option.some.inj scans
      obtain ⟨alone, aloneMember, same⟩ := mem_stmt_nest member
      rw [← List.append_nil passed] at same
      exact ⟨.here _, tested, same, stmt_placed [] whenTrue alone aloneMember⟩
    | none =>
      rw [tested] at scans
      dsimp only at scans
      split at scans
      · next inTrue =>
        obtain rfl := Option.some.inj scans
        exact (scan_placed name _ whenTrue _ inTrue offer member).through fun way => .whenTrue way
      · obtain ⟨inner, rfl, checked⟩ :=
          scanOtherwise_placed name _ whenFalse found scans offer member
        exact checked.through fun way => .whenFalse way
  | .switch scrutinee parts, found, scans, offer, member =>
    scanSections_placed name scrutinee passed parts parts (fun _ partMember => partMember) found
      scans offer member
  | .forLoop init condition step body, found, scans, offer, member =>
    (scan_placed name _ body found scans offer member).through fun way => .forLoop way
  | .whileLoop condition body, found, scans, offer, member =>
    (scan_placed name passed body found scans offer member).within fun way => .whileLoop way
  | .doWhile body condition, found, scans, offer, member =>
    (scan_placed name passed body found scans offer member).within fun way => .doWhile way
  | .foreach type counted iterated body, found, scans, offer, member =>
    (scan_placed name passed body found scans offer member).within fun way => .foreach way
  | .decl _, _, scans, _, _ | .expr _, _, scans, _, _ | .breakOut, _, scans, _, _
  | .continueLoop, _, scans, _, _ | .returnValue _, _, scans, _, _ | .empty, _, scans, _, _ =>
    nomatch scans
termination_by structural part => part

theorem scanOtherwise_placed (name : String) (passed : List Passage) :
    ∀ (stmt? : Option Stmt) (found : Findings (List Frame)),
      walk.scanOtherwise nest name passed [] stmt? = some found → ∀ offer ∈ found.offers,
        ∃ whenFalse, stmt? = some whenFalse ∧ Checked walk name passed whenFalse offer
  | none, _, scans, _, _ => nomatch scans
  | some whenFalse, found, scans, offer, member =>
    ⟨whenFalse, rfl, scan_placed name passed whenFalse found scans offer member⟩
termination_by structural part => part

theorem scanAll_placed (name : String) (passed : List Passage) :
    ∀ (body : List Stmt) (found : Findings (List Frame)),
      walk.scanAll nest name passed [] body = some found → ∀ offer ∈ found.offers,
        ∃ inner ∈ body, Checked walk name passed inner offer
  | [], _, scans, _, _ => nomatch scans
  | first :: rest, found, scans, offer, member => by
    rw [scanAll] at scans
    split at scans
    · next inFirst =>
      obtain rfl := Option.some.inj scans
      exact ⟨first, List.mem_cons_self, scan_placed name passed first _ inFirst offer member⟩
    · obtain ⟨inner, innerMember, checked⟩ :=
        scanAll_placed name passed rest found scans offer member
      exact ⟨inner, List.mem_cons_of_mem first innerMember, checked⟩
termination_by structural part => part

theorem scanSections_placed (name : String) (scrutinee : Expr) (passed : List Passage)
    (all : List SwitchSection) :
    ∀ parts : List SwitchSection, (∀ part ∈ parts, part ∈ all) →
      ∀ found : Findings (List Frame),
        walk.scanSections nest name scrutinee passed [] parts = some found →
          ∀ offer ∈ found.offers, Checked walk name passed (.switch scrutinee all) offer
  | [], _, _, scans, _, _ => nomatch scans
  | .mk labels body :: rest, within, found, scans, offer, member => by
    rw [scanSections] at scans
    split at scans
    · next inBody =>
      obtain rfl := Option.some.inj scans
      obtain ⟨inner, innerMember, checked⟩ := scanAll_placed name _ body _ inBody offer member
      exact checked.through fun way => .switch (within _ List.mem_cons_self) innerMember way
    · exact scanSections_placed name scrutinee passed all rest
        (fun part later => within part (List.mem_cons_of_mem _ later)) found scans offer member
termination_by structural part => part

end

/-! ### The conditions of an item -/

/-- The conditions of frames are pushed one frame after the other. -/
theorem flatMap_respects_push (walk : Walk) :
    Respects nest walk.push (·.flatMap walk.conditionsOf) := by
  intro active frame
  show (active ++ [frame]).flatMap walk.conditionsOf = _
  rw [List.flatMap_append, List.flatMap_singleton, push]

/-- A walk offers the items of its offers, under the conditions of their frames. -/
theorem items_run (walk : Walk) (body : List Stmt) :
    (walk.run body).1.items =
      (walk.offers body).map fun offer => ⟨offer.id, offer.place.flatMap walk.conditionsOf⟩ := by
  have found := walk.stmts_map walk.flatMap_respects_push [] [] body
  have gathered : walk.visitAll [] body walk.start =
      walk.start.gather (walk.stmts walk.push [] [] body) :=
    walk.visitAll_gathers [] body walk.start
  show (walk.visitAll [] body walk.start).shop.items = _
  rw [gathered]
  show (walk.stmts walk.push [] [] body).offers.map Offer.item = _
  rw [← List.flatMap_nil (f := walk.conditionsOf), ← found, Findings.map, List.map_map]
  rfl

/-- Nothing is missing from the conditions of frames exactly when each of them omits nothing. -/
theorem flatMap_allConditionsOf_eq_iff (walk : Walk) (frames : List Frame) :
    frames.flatMap walk.conditionsOf = frames.flatMap walk.allConditionsOf ↔
      ∀ frame ∈ frames, walk.omittedBy frame = [] := by
  have lengths : (frames.flatMap walk.allConditionsOf).length =
      (frames.flatMap walk.omittedBy).length + (frames.flatMap walk.conditionsOf).length := by
    induction frames with
    | nil => rfl
    | cons frame rest inductionHypothesis =>
      simp only [List.flatMap_cons, List.length_append, inductionHypothesis, allConditionsOf]
      omega
  constructor
  · intro same
    rw [← same] at lengths
    have nothing : frames.flatMap walk.omittedBy = [] := List.eq_nil_of_length_eq_zero (by omega)
    exact List.flatMap_eq_nil_iff.mp nothing
  · intro nothing
    refine congrArg List.flatten (List.map_congr_left fun frame member => ?_)
    rw [allConditionsOf, nothing frame member, List.nil_append]

/-- Every item has the conditions of the frames around the statement that registers it, outermost
first; an item of a statement that is no loop is registered by a call in it. These are the
conditions of all constructs around the call exactly when no scan passes over a construct that sets
conditions. -/
theorem conditions_of_registered (walk : Walk) (body : List Stmt) :
    (walk.run body).1.items =
        (walk.offers body).map (fun offer =>
          ⟨offer.id, offer.place.flatMap walk.conditionsOf⟩) ∧
      ∀ offer ∈ walk.offers body,
        (∃ stmt ∈ body, Placed walk stmt offer) ∧
          (offer.place.flatMap walk.conditionsOf = offer.place.flatMap walk.allConditionsOf ↔
            ∀ frame ∈ offer.place, walk.omittedBy frame = []) :=
  ⟨walk.items_run body, fun offer member =>
    ⟨stmts_placed [] body offer member, walk.flatMap_allConditionsOf_eq_iff offer.place⟩⟩

end Walk

/-! ### A guard that is passed over -/

/-- A walk that understands one guard. -/
def hardModeWalk : Walk where
  catalog := [⟨entry .hardmode "#hard_mode",
    .node "member" [.node "ident" [.symbol "Main"], .symbol "hardMode"]⟩]
  settings := .standard
  shop := 1

/-- The guard that the walk understands. -/
def hardModeGuard : Expr := .member (.ident "Main") "hardMode"

/-- A test for item 5 in a slot of the inventory. -/
def slotTest : Expr :=
  .binary .eq
    (.member (.index (.member (.member (.ident "Main") "LocalPlayer") "inventory") [.ident "i"])
      "type")
    (.int 5)

/-- The registration of item 6. -/
def registration : Stmt :=
  .expr (.call (.member (.index (.ident "array") [.unary .postInc (.ident "num")]) "SetDefaults")
    [.int 6])

/-- A scan of the inventory whose test stands under the guard. -/
def guardedScan : Stmt :=
  .forLoop (some (.decl ⟨"int", [⟨"i", some (.int 0)⟩]⟩))
    (some (.binary .lt (.ident "i") (.int 54))) [.unary .postInc (.ident "i")]
    (.branch hardModeGuard (.branch slotTest registration none) none)

/-- The item of the scan lacks the condition of the guard, which encloses its registration. -/
theorem guard_omitted_by_scan :
    (hardModeWalk.run [guardedScan]).1.items = [⟨6, [Walk.carries 5]⟩] ∧
      Encloses hardModeWalk guardedScan [.scan [.whenTrue hardModeGuard] 5] registration ∧
      [Frame.scan [.whenTrue hardModeGuard] 5].flatMap hardModeWalk.allConditionsOf =
        [.plain .hardmode, Walk.carries 5] := by
  refine ⟨by decide +kernel, ?_, by decide +kernel⟩
  have tested : Walk.checkedItem? "i" slotTest = some 5 := by decide +kernel
  exact .scan (by decide) (.whenTrue (.here _)) tested (.here registration)

end Storefront.Survey
