import Storefront.Proofs.Meaning
import Storefront.Proofs.Scoping

/-!
Loops that stand for ranges of items. What such a loop looks like is said without the functions that
recognize it: a loop that counts from one literal to another, or one that fills slots up to a
literal, whose variable is declared once before it. A visit of a loop that is no scan of the
inventory is all or nothing. Either the loop spans a range that is short enough, and each number of
the range is offered once, in ascending order and under the conditions on the stack. Or nothing is
offered, and there is one diagnostic.

The number of items is computed with 128 bits from bounds of 64 bits, and never overflows.
-/

namespace Storefront.Survey

open Storefront.Guard Storefront.Pattern Storefront.Script Storefront.Stock

/-! ### Ranges -/

namespace Range

/-- The last number of a range that is not empty. -/
def last (range : Range) : Int := if range.closed then range.stop else range.stop - 1

variable (range : Range)

theorem count_eq : range.count = range.last - range.start + 1 := by
  unfold count last
  cases range.closed
  · simp
    omega
  · simp

theorem mem_toList {id : Int} : id ∈ range.toList ↔ range.start ≤ id ∧ id ≤ range.last := by
  have count := range.count_eq
  rw [toList, List.mem_map]
  simp only [List.mem_range]
  constructor
  · rintro ⟨offset, below, rfl⟩
    omega
  · rintro ⟨fromStart, upTo⟩
    exact ⟨(id - range.start).toNat, by omega, by omega⟩

/-- The numbers of a range ascend. -/
theorem pairwise_toList : range.toList.Pairwise (· < ·) :=
  List.pairwise_map.mpr
    (List.pairwise_lt_range.imp fun less => Int.add_lt_add_left (Int.ofNat_lt.mpr less) _)

theorem toList_of_last_lt {range : Range} (empty : range.last < range.start) :
    range.toList = [] := by
  refine List.eq_nil_iff_forall_not_mem.mpr fun id member => ?_
  have inside := range.mem_toList.mp member
  omega

end Range

/-! ### Loops that span a range -/

/-- The step of a loop counts a variable up by one. -/
inductive Increment (name : String) : List Expr → Prop where
  | post : Increment name [.unary .postInc (.ident name)]
  | pre : Increment name [.unary .preInc (.ident name)]
  | add : Increment name [.assign (some .add) (.ident name) (.int 1)]

/-- The head of a loop counts a variable through a range between literals. -/
inductive Counts (name : String) :
    Range → Option ForInit → Option Expr → List Expr → Prop where
  | below {type : String} {start stop : Int} {step : List Expr} (increment : Increment name step) :
      Counts name ⟨start, stop, false⟩ (some (.decl ⟨type, [⟨name, some (.int start)⟩]⟩))
        (some (.binary .lt (.ident name) (.int stop))) step
  | upTo {type : String} {start stop : Int} {step : List Expr} (increment : Increment name step) :
      Counts name ⟨start, stop, true⟩ (some (.decl ⟨type, [⟨name, some (.int start)⟩]⟩))
        (some (.binary .le (.ident name) (.int stop))) step

/-- Among statements a single one declares a variable on its own, with a literal first value. -/
def DeclaredOnce (name : String) (start : Int) (stmts : List Stmt) : Prop :=
  ∃ later type earlier, stmts = later ++ .decl ⟨type, [⟨name, some (.int start)⟩]⟩ :: earlier ∧
    ∀ stmt ∈ later ++ earlier, ∀ type init, stmt ≠ .decl ⟨type, [⟨name, init⟩]⟩

/-- A loop spans the whole numbers from one to another. `before` holds the statements before it. -/
inductive Spans (settings : Settings) (before : List Stmt) : Stmt → Int → Int → Prop where
  | counting {name : String} {range : Range} {init : Option ForInit} {condition : Option Expr}
      {step : List Expr} {body : Stmt} (counts : Counts name range init condition step) :
      Spans settings before (.forLoop init condition step body) range.start range.last
  | filling {name : String} {start stop : Int} {body : Stmt}
      (declared : DeclaredOnce name start before) :
      Spans settings before
        (.whileLoop
          (.binary .and (.binary .le (.ident name) (.int stop))
            (.binary .lt (.ident settings.slotIndex) (.int settings.slotCapacity)))
          body)
        start stop

/-- A loop with a condition alone, or a counting loop that does not scan the inventory. -/
inductive RangeLoop (settings : Settings) : Stmt → Prop where
  | forLoop {init : Option ForInit} {condition : Option Expr} {step : List Expr} {body : Stmt}
      (noScan : ∀ name stop closed, Counts name ⟨0, stop, closed⟩ init condition step →
        stop ∉ settings.inventorySlotCounts) :
      RangeLoop settings (.forLoop init condition step body)
  | whileLoop {condition : Expr} {body : Stmt} : RangeLoop settings (.whileLoop condition body)

/-! ### What is recognized -/

theorem countsUp_iff {name : String} {step : List Expr} :
    countsUp name step = true ↔ Increment name step := by
  constructor
  · intro counts
    unfold countsUp at counts
    split at counts
    · obtain rfl := Expr.asIdent_eq_some_iff.mp (of_decide_eq_true counts)
      exact .post
    · obtain rfl := Expr.asIdent_eq_some_iff.mp (of_decide_eq_true counts)
      exact .pre
    · obtain ⟨named, one⟩ := Bool.and_eq_true_iff.mp counts
      obtain rfl := Expr.asIdent_eq_some_iff.mp (of_decide_eq_true named)
      obtain rfl := asInt_eq_some_iff.mp (of_decide_eq_true one)
      exact .add
    · exact Bool.noConfusion counts
  · rintro (_ | _ | _) <;> simp [countsUp, Expr.asIdent, Expr.asInt]

theorem loopVariable?_eq_some_iff {init : Option ForInit} {declarator : Declarator} :
    loopVariable? init = some declarator ↔ ∃ type, init = some (.decl ⟨type, [declarator]⟩) := by
  constructor
  · intro found
    unfold loopVariable? at found
    split at found
    · next type single =>
      obtain rfl := Option.some.inj found
      exact ⟨type, rfl⟩
    · cases found
  · rintro ⟨type, rfl⟩
    rfl

theorem loopBound?_eq_some_iff {name : String} {condition : Option Expr} {bound : Expr}
    {closed : Bool} :
    loopBound? name condition = some (bound, closed) ↔
      condition = some (.binary (if closed then .le else .lt) (.ident name) bound) := by
  constructor
  · intro found
    unfold loopBound? at found
    split at found
    · split at found
      · next named =>
        obtain rfl := Expr.asIdent_eq_some_iff.mp named
        cases found
        rfl
      · cases found
    · split at found
      · next named =>
        obtain rfl := Expr.asIdent_eq_some_iff.mp named
        cases found
        rfl
      · cases found
    · cases found
  · rintro rfl
    cases closed <;> simp [loopBound?, Expr.asIdent]

theorem loopShape_eq_counting_iff {init : Option ForInit} {condition : Option Expr}
    {step : List Expr} {name : String} {range : Range} :
    loopShape init condition step = .counting name range ↔
      Counts name range init condition step := by
  constructor
  · intro shape
    unfold loopShape at shape
    split at shape
    · cases shape
    · next declarator declares =>
      split at shape
      · cases shape
      · next bound closed bounds =>
        split at shape
        · next counts =>
          split at shape
          · cases shape
          · cases shape
          · next start stop isStart isStop =>
            obtain ⟨type, rfl⟩ := loopVariable?_eq_some_iff.mp declares
            obtain rfl := loopBound?_eq_some_iff.mp bounds
            obtain ⟨name', init'⟩ := declarator
            obtain ⟨value, rfl, isValue⟩ := Option.bind_eq_some_iff.mp isStart
            obtain rfl := asInt_eq_some_iff.mp isValue
            obtain rfl := asInt_eq_some_iff.mp isStop
            cases shape
            cases closed
            · exact .below (countsUp_iff.mp counts)
            · exact .upTo (countsUp_iff.mp counts)
        · cases shape
  · rintro (⟨increment⟩ | ⟨increment⟩) <;>
      simp [loopShape, loopVariable?, loopBound?, Expr.asIdent, Expr.asInt,
        countsUp_iff.mpr increment]

theorem declares?_eq_some_iff {name : String} {stmt : Stmt} {declarator : Declarator} :
    declares? name stmt = some declarator ↔
      declarator.name = name ∧ ∃ type, stmt = .decl ⟨type, [declarator]⟩ := by
  constructor
  · intro found
    unfold declares? at found
    split at found
    · next type single =>
      split at found
      · next named =>
        obtain rfl := Option.some.inj found
        exact ⟨named, type, rfl⟩
      · cases found
    · cases found
  · rintro ⟨named, type, rfl⟩
    exact if_pos named

theorem declares?_eq_none_iff {name : String} {stmt : Stmt} :
    declares? name stmt = none ↔ ∀ type init, stmt ≠ .decl ⟨type, [⟨name, init⟩]⟩ := by
  rw [Option.eq_none_iff_forall_ne_some]
  constructor
  · rintro none type init rfl
    exact none _ (declares?_eq_some_iff.mpr ⟨rfl, type, rfl⟩)
  · intro other declarator declares
    obtain ⟨rfl, type, rfl⟩ := declares?_eq_some_iff.mp declares
    exact other type declarator.init rfl

theorem initialValue?_eq_some_iff {name : String} {before : List Stmt} {start : Int} :
    initialValue? name before = some start ↔ DeclaredOnce name start before := by
  constructor
  · intro found
    unfold initialValue? at found
    split at found
    · next declarator single =>
      obtain ⟨later, stmt, earlier, rfl, noneLater, declares, noneEarlier⟩ :=
        List.filterMap_eq_cons_iff.mp single
      obtain ⟨rfl, type, rfl⟩ := declares?_eq_some_iff.mp declares
      obtain ⟨value, hasValue, isLiteral⟩ := Option.bind_eq_some_iff.mp found
      obtain rfl := asInt_eq_some_iff.mp isLiteral
      obtain ⟨name, init⟩ := declarator
      obtain rfl : init = some (.int start) := hasValue
      refine ⟨later, type, earlier, rfl, List.forall_mem_append.mpr ⟨?_, ?_⟩⟩
      · exact fun stmt member => declares?_eq_none_iff.mp (noneLater stmt member)
      · exact fun stmt member =>
          declares?_eq_none_iff.mp (List.filterMap_eq_nil_iff.mp noneEarlier stmt member)
    · cases found
  · rintro ⟨later, type, earlier, rfl, unique⟩
    obtain ⟨noneLater, noneEarlier⟩ := List.forall_mem_append.mp unique
    have single : (later ++ Stmt.decl ⟨type, [⟨name, some (.int start)⟩]⟩ :: earlier).filterMap
        (declares? name) = [⟨name, some (.int start)⟩] :=
      List.filterMap_eq_cons_iff.mpr ⟨later, _, earlier, rfl,
        fun stmt member => declares?_eq_none_iff.mpr (noneLater stmt member),
        declares?_eq_some_iff.mpr ⟨rfl, type, rfl⟩,
        List.filterMap_eq_nil_iff.mpr fun stmt member =>
          declares?_eq_none_iff.mpr (noneEarlier stmt member)⟩
    rw [initialValue?, single]
    rfl

theorem fillingGuard?_eq_some_iff {settings : Settings} {condition bound : Expr} {name : String} :
    fillingGuard? settings condition = some (name, bound) ↔
      condition = .binary .and (.binary .le (.ident name) bound)
        (.binary .lt (.ident settings.slotIndex) (.int settings.slotCapacity)) := by
  constructor
  · intro found
    unfold fillingGuard? at found
    split at found
    · split at found
      · next recognized =>
        obtain ⟨slot, capacity⟩ := Bool.and_eq_true_iff.mp recognized
        obtain ⟨counted, named, same⟩ := Option.map_eq_some_iff.mp found
        obtain rfl := Expr.asIdent_eq_some_iff.mp (of_decide_eq_true slot)
        obtain rfl := asInt_eq_some_iff.mp (of_decide_eq_true capacity)
        obtain rfl := Expr.asIdent_eq_some_iff.mp named
        cases same
        rfl
      · cases found
    · cases found
  · rintro rfl
    simp [fillingGuard?, Expr.asIdent, Expr.asInt]

theorem spans_forLoop_iff {settings : Settings} {before : List Stmt} {init : Option ForInit}
    {condition : Option Expr} {step : List Expr} {body : Stmt} {lo hi : Int} :
    Spans settings before (.forLoop init condition step body) lo hi ↔
      ∃ name range, Counts name range init condition step ∧ lo = range.start ∧
        hi = range.last := by
  constructor
  · rintro ⟨counts⟩
    exact ⟨_, _, counts, rfl, rfl⟩
  · rintro ⟨name, range, counts, rfl, rfl⟩
    exact .counting counts

theorem spans_whileLoop_iff {settings : Settings} {before : List Stmt} {condition : Expr}
    {body : Stmt} {lo hi : Int} :
    Spans settings before (.whileLoop condition body) lo hi ↔
      ∃ name, fillingGuard? settings condition = some (name, .int hi) ∧
        initialValue? name before = some lo := by
  simp only [fillingGuard?_eq_some_iff, initialValue?_eq_some_iff]
  constructor
  · rintro ⟨⟩
    exact ⟨_, rfl, ‹_›⟩
  · rintro ⟨name, rfl, declared⟩
    exact .filling declared

/-! ### All or nothing -/

/-- A loop stands for all items of a range that it spans, or for none, with one diagnostic, because
it spans no range that is short enough. -/
inductive AllOrNothing (walk : Walk) (before : List Stmt) (loop : Stmt) :
    Except Diagnostic (List Int) → Prop where
  | all {range : Range} (spans : Spans walk.settings before loop range.start range.last)
      (short : range.count ≤ walk.settings.maxUnroll) :
      AllOrNothing walk before loop (.ok range.toList)
  | nothing {kind : DiagnosticKind} {message : String}
      (known : kind = .malformedBound ∨ kind = .unrecognizedLoop)
      (long : ∀ lo hi, Spans walk.settings before loop lo hi →
        (walk.settings.maxUnroll : Int) < hi - lo + 1) :
      AllOrNothing walk before loop (.error (walk.diagnostic kind loop.header message))

section

variable {walk : Walk} {before : List Stmt}

theorem allOrNothing_rangeItems {loop : Stmt} {range : Range}
    (spans : Spans walk.settings before loop range.start range.last)
    (unique : ∀ lo hi, Spans walk.settings before loop lo hi →
      lo = range.start ∧ hi = range.last) :
    AllOrNothing walk before loop (walk.rangeItems loop range) := by
  have count := range.count_eq
  unfold Walk.rangeItems
  split
  · refine .nothing (Or.inl rfl) fun lo hi spansToo => ?_
    obtain ⟨rfl, rfl⟩ := unique lo hi spansToo
    omega
  · exact .all spans (by omega)

/-- A loop that spans nothing stands for nothing. -/
theorem AllOrNothing.of_not_spans {loop : Stmt} {kind : DiagnosticKind} {message : String}
    (known : kind = .malformedBound ∨ kind = .unrecognizedLoop)
    (none : ∀ lo hi, ¬ Spans walk.settings before loop lo hi) :
    AllOrNothing walk before loop (.error (walk.diagnostic kind loop.header message)) :=
  .nothing known fun lo hi spans => absurd spans (none lo hi)

theorem allOrNothing_filledItems (condition : Expr) (body : Stmt) :
    AllOrNothing walk before (.whileLoop condition body)
      (walk.filledItems before (.whileLoop condition body) condition) := by
  unfold Walk.filledItems
  split
  · next unknown =>
    refine .of_not_spans (Or.inr rfl) fun lo hi spans => ?_
    obtain ⟨name, fills, -⟩ := spans_whileLoop_iff.mp spans
    exact nomatch unknown.symm.trans fills
  · next name bound fills =>
    split
    · next notLiteral =>
      refine .of_not_spans (Or.inl rfl) fun lo hi spans => ?_
      obtain ⟨_, fillsToo, -⟩ := spans_whileLoop_iff.mp spans
      cases fills.symm.trans fillsToo
      cases notLiteral
    · next undeclared =>
      refine .of_not_spans (Or.inl rfl) fun lo hi spans => ?_
      obtain ⟨_, fillsToo, declared⟩ := spans_whileLoop_iff.mp spans
      cases fills.symm.trans fillsToo
      exact nomatch undeclared.symm.trans declared
    · next stop start isStop isStart =>
      obtain rfl := asInt_eq_some_iff.mp isStop
      have spans : Spans walk.settings before (.whileLoop condition body)
          (Range.mk start stop true).start (Range.mk start stop true).last :=
        spans_whileLoop_iff.mpr ⟨name, fills, isStart⟩
      refine allOrNothing_rangeItems spans fun lo hi spansToo => ?_
      obtain ⟨_, fillsToo, declared⟩ := spans_whileLoop_iff.mp spansToo
      cases fills.symm.trans fillsToo
      exact ⟨Option.some.inj (declared.symm.trans isStart), rfl⟩

/-- A visit of a loop that does not scan the inventory offers what the loop stands for. -/
theorem visit_eq_unroll (before : List Stmt) {loop : Stmt}
    (ranged : RangeLoop walk.settings loop) (walker : Walker) :
    ∃ outcome, AllOrNothing walk before loop outcome ∧
      walk.visit before loop walker = walker.unroll outcome := by
  cases ranged with
  | whileLoop => exact ⟨_, allOrNothing_filledItems _ _, rfl⟩
  | @forLoop init condition step body noScan =>
    rw [Walk.visit]
    cases shape : loopShape init condition step with
    | unrecognized =>
      refine ⟨_, .of_not_spans (Or.inr rfl) fun lo hi spans => ?_, rfl⟩
      obtain ⟨name, range, counts, -⟩ := spans_forLoop_iff.mp spans
      exact nomatch shape.symm.trans (loopShape_eq_counting_iff.mpr counts)
    | malformed reason =>
      refine ⟨_, .of_not_spans (Or.inl rfl) fun lo hi spans => ?_, rfl⟩
      obtain ⟨name, range, counts, -⟩ := spans_forLoop_iff.mp spans
      exact nomatch shape.symm.trans (loopShape_eq_counting_iff.mpr counts)
    | counting name range =>
      have counts := loopShape_eq_counting_iff.mp shape
      -- The loop counts, so it would have to be a scan to be visited in another way.
      have elsewhere :
          ¬ (range.start = 0 && walk.settings.isInventoryBound range.stop) = true := by
        intro scans
        obtain ⟨fromZero, configured⟩ := Bool.and_eq_true_iff.mp scans
        obtain ⟨start, stop, closed⟩ := range
        obtain rfl : start = 0 := of_decide_eq_true fromZero
        exact noScan name stop closed counts (List.contains_iff_mem.mp configured)
      dsimp only
      rw [if_neg elsewhere]
      refine ⟨_, allOrNothing_rangeItems (spans_forLoop_iff.mpr ⟨name, range, counts, rfl, rfl⟩)
        fun lo hi spans => ?_, rfl⟩
      obtain ⟨_, _, countsToo, rfl, rfl⟩ := spans_forLoop_iff.mp spans
      cases shape.symm.trans (loopShape_eq_counting_iff.mpr countsToo)
      exact ⟨rfl, rfl⟩

end

/-! ### Counting with 128 bits -/

section

variable (start stop : BitVec 64) (closed : Bool)

/-- The distance between bounds of 64 bits, computed with 128 bits. -/
def wideDistance : BitVec 128 := stop.signExtend 128 - start.signExtend 128

/-- How many numbers a range between bounds of 64 bits has, computed with 128 bits. -/
def wideCount : BitVec 128 := wideDistance start stop + (BitVec.ofBool closed).setWidth 128

theorem toInt_extended (bound : BitVec 64) : (bound.signExtend 128).toInt = bound.toInt :=
  BitVec.toInt_signExtend_of_le (by decide)

/-- The distance does not overflow. -/
theorem not_ssubOverflow_bounds :
    (stop.signExtend 128).ssubOverflow (start.signExtend 128) = false := by
  have startLe := start.le_toInt
  have startLt := start.toInt_lt
  have stopLe := stop.le_toInt
  have stopLt := stop.toInt_lt
  simp only [BitVec.ssubOverflow, toInt_extended, Bool.or_eq_false_iff, decide_eq_false_iff_not]
  omega

theorem toInt_wideDistance : (wideDistance start stop).toInt = stop.toInt - start.toInt := by
  rw [wideDistance, BitVec.toInt_sub_of_not_ssubOverflow
    (Bool.eq_false_iff.mp (not_ssubOverflow_bounds start stop)), toInt_extended, toInt_extended]

theorem toInt_closed : ((BitVec.ofBool closed).setWidth 128).toInt = if closed then 1 else 0 := by
  cases closed <;> rfl

/-- Neither does the number of a closed range. -/
theorem not_saddOverflow_distance :
    (wideDistance start stop).saddOverflow ((BitVec.ofBool closed).setWidth 128) = false := by
  have startLe := start.le_toInt
  have startLt := start.toInt_lt
  have stopLe := stop.le_toInt
  have stopLt := stop.toInt_lt
  simp only [BitVec.saddOverflow, toInt_wideDistance, toInt_closed, Bool.or_eq_false_iff,
    decide_eq_false_iff_not]
  cases closed <;> simp <;> omega

theorem toInt_wideCount :
    (wideCount start stop closed).toInt = Range.count ⟨start.toInt, stop.toInt, closed⟩ := by
  rw [wideCount, BitVec.toInt_add_of_not_saddOverflow
    (Bool.eq_false_iff.mp (not_saddOverflow_distance start stop closed)), toInt_wideDistance,
    toInt_closed]
  rfl

/-- The comparison with a limit of 64 bits without a sign is exact as well. -/
theorem slt_wideCount (limit : BitVec 64) :
    (limit.setWidth 128).slt (wideCount start stop closed) =
      decide ((limit.toNat : Int) < Range.count ⟨start.toInt, stop.toInt, closed⟩) := by
  have small := limit.isLt
  have limitValue : (limit.setWidth 128).toInt = limit.toNat := by
    rw [BitVec.toInt_setWidth, Int.bmod_eq_of_le] <;> omega
  rw [BitVec.slt_eq_decide, limitValue, toInt_wideCount]

/-- Each number of the range has 64 bits. -/
theorem toInt_of_mem_toList {id : Int}
    (member : id ∈ Range.toList ⟨start.toInt, stop.toInt, closed⟩) :
    (BitVec.ofInt 64 id).toInt = id := by
  have startLe := start.le_toInt
  have stopLt := stop.toInt_lt
  obtain ⟨fromStart, upToLast⟩ := (Range.mem_toList _).mp member
  have last : Range.last ⟨start.toInt, stop.toInt, closed⟩ ≤ stop.toInt := by
    cases closed
    · exact Int.le_of_lt (Int.sub_lt_self _ Int.one_pos)
    · exact Int.le_refl _
  exact BitVec.toInt_ofInt_eq_self (by decide) (Int.le_trans startLe fromStart)
    (Int.lt_of_le_of_lt (Int.le_trans upToLast last) stopLt)

end

/-! ### Visiting a loop -/

/-- The walker with items offered under the conditions on the stack, and nothing else changed. -/
def Walker.offering (walker : Walker) (ids : List Int) : Walker :=
  { walker with shop := { walker.shop with
      items := walker.shop.items ++ ids.map fun id => ⟨id, walker.conditions⟩ } }

theorem Walker.registerAll_eq_offering (walker : Walker) (ids : List Int) :
    walker.registerAll ids = walker.offering ids := by
  rw [walker.registerAll_eq_gather .empty ids, gather, offering, Findings.offering, List.map_map,
    List.append_nil]
  rfl

namespace Walk

/-- A loop that does not scan the inventory is all or nothing. Either all numbers of a range that it
spans are offered under the conditions on the stack, ascending, none twice, and no more than the
settings allow. Or nothing is offered and there is one diagnostic, which only happens if the loop
spans no range, or one that is too long. From bounds of 64 bits the number of items is computed
without overflow. -/
theorem visit_rangeLoop (walk : Walk) (before : List Stmt) {loop : Stmt}
    (ranged : RangeLoop walk.settings loop) (walker : Walker) :
    ((∃ lo hi ids, Spans walk.settings before loop lo hi ∧
        walk.visit before loop walker = walker.offering ids ∧ ids.Pairwise (· < ·) ∧
        (∀ id, id ∈ ids ↔ lo ≤ id ∧ id ≤ hi) ∧ (hi < lo → ids = []) ∧
        ids.length ≤ walk.settings.maxUnroll) ∨
      ∃ kind message, (kind = .malformedBound ∨ kind = .unrecognizedLoop) ∧
        walk.visit before loop walker =
          walker.note [walk.diagnostic kind loop.header message] ∧
        ∀ lo hi, Spans walk.settings before loop lo hi →
          (walk.settings.maxUnroll : Int) < hi - lo + 1) ∧
    ∀ (start stop : BitVec 64) (closed : Bool),
      (stop.signExtend 128).ssubOverflow (start.signExtend 128) = false ∧
        (wideDistance start stop).saddOverflow ((BitVec.ofBool closed).setWidth 128) = false ∧
        (wideCount start stop closed).toInt = Range.count ⟨start.toInt, stop.toInt, closed⟩ ∧
        (∀ limit : BitVec 64, (limit.setWidth 128).slt (wideCount start stop closed) =
          decide ((limit.toNat : Int) < Range.count ⟨start.toInt, stop.toInt, closed⟩)) ∧
        ∀ id ∈ Range.toList ⟨start.toInt, stop.toInt, closed⟩, (BitVec.ofInt 64 id).toInt = id := by
  refine ⟨?_, fun start stop closed => ⟨not_ssubOverflow_bounds start stop,
    not_saddOverflow_distance start stop closed, toInt_wideCount start stop closed,
    slt_wideCount start stop closed, fun id member => toInt_of_mem_toList start stop closed member⟩⟩
  obtain ⟨outcome, settled, visited⟩ := visit_eq_unroll before ranged walker
  rw [visited]
  cases settled with
  | @all range spans short =>
    refine Or.inl ⟨range.start, range.last, range.toList, spans,
      walker.registerAll_eq_offering range.toList, range.pairwise_toList,
      fun id => range.mem_toList, Range.toList_of_last_lt, ?_⟩
    rw [Range.length_toList]
    omega
  | nothing known long => exact Or.inr ⟨_, _, known, rfl, long⟩

end Walk

/-- A walk that understands no guards. -/
def plainWalk : Walk := ⟨[], .standard, 1⟩

/-- A loop from five up to seven. -/
def fiveToSeven : Stmt :=
  .forLoop (some (.decl ⟨"int", [⟨"i", some (.int 5)⟩]⟩))
    (some (.binary .le (.ident "i") (.int 7))) [.unary .postInc (.ident "i")] .empty

/-- The loop offers five, six and seven. -/
theorem visit_fiveToSeven :
    RangeLoop plainWalk.settings fiveToSeven ∧
      ∃ ids, plainWalk.visit [] fiveToSeven plainWalk.start = plainWalk.start.offering ids ∧
        ids.Pairwise (· < ·) ∧ ∀ id, id ∈ ids ↔ 5 ≤ id ∧ id ≤ 7 := by
  have ranged : RangeLoop plainWalk.settings fiveToSeven :=
    .forLoop fun name stop closed counts => nomatch counts
  obtain ⟨offered | ⟨_, _, _, _, long⟩, -⟩ := plainWalk.visit_rangeLoop [] ranged plainWalk.start
  · obtain ⟨lo, hi, ids, spans, visited, ascending, members, -⟩ := offered
    obtain ⟨name, range, counts, rfl, rfl⟩ := spans_forLoop_iff.mp spans
    cases counts
    exact ⟨ranged, ids, visited, ascending, members⟩
  · have short : ¬ ((plainWalk.settings.maxUnroll : Int) < 7 - 5 + 1) := by decide
    exact absurd (long 5 7 (.counting (.upTo .post))) short

end Storefront.Survey
