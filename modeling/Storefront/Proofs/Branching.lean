import Storefront.Proofs.Enclosure

/-!
What branches make of an item. A procedure of blocks, branches and expressions is run under an
assignment of truth values to conditions: a branch whose guard is understood goes to the side that
the assignment says, any other branch to either. Every call that such a run executes is recorded.
Its conditions come from the sides taken on the way to it. The conditions of a guard hold where the
guard was met. Where it was not, at least one of its conditions fails, but the walk negates each of
them by itself: what it pushes for the other side holds exactly when all those that can be negated
fail.
-/

namespace Storefront.Survey

open Storefront.Guard Storefront.Script Storefront.Stock

/-! ### Runs -/

/-- A registration that is executed, and the sides of branches that were taken on the way to it,
outermost first. -/
structure Call where
  id : Int
  taken : List Frame

/-- The same call on a side of a branch. -/
def Call.on (side : Frame) (call : Call) : Call := { call with taken := side :: call.taken }

/-- A guard lets a run pass: all its conditions hold, or it is not understood. -/
def Walk.MayMeet (walk : Walk) (holds : Condition → Bool) (guard : Expr) : Prop :=
  ∀ conditions, decompose walk.catalog guard = .ok conditions →
    ∀ condition ∈ conditions, holds condition = true

/-- A guard lets a run go to the other side: not all its conditions hold, or it is not
understood. -/
def Walk.MayMiss (walk : Walk) (holds : Condition → Bool) (guard : Expr) : Prop :=
  ∀ conditions, decompose walk.catalog guard = .ok conditions →
    ∃ condition ∈ conditions, holds condition = false

mutual

/-- A run of a statement, with the calls that it executes, in order. Of the calls in an expression
any may be left out. -/
inductive Runs (walk : Walk) (holds : Condition → Bool) : Stmt → List Call → Prop where
  | block {body : List Stmt} {calls : List Call} (runs : RunsAll walk holds body calls) :
      Runs walk holds (.block body) calls
  | expr {evaluated : Expr} {ids : List Int}
      (executed : ids.Sublist (registrations walk.settings evaluated)) :
      Runs walk holds (.expr evaluated) (ids.map fun id => ⟨id, []⟩)
  | whenTrue {condition : Expr} {whenTrue : Stmt} {whenFalse : Option Stmt} {calls : List Call}
      (meets : walk.MayMeet holds condition) (runs : Runs walk holds whenTrue calls) :
      Runs walk holds (.branch condition whenTrue whenFalse)
        (calls.map (.on (.whenTrue condition)))
  | whenFalse {condition : Expr} {whenTrue whenFalse : Stmt} {calls : List Call}
      (misses : walk.MayMiss holds condition) (runs : Runs walk holds whenFalse calls) :
      Runs walk holds (.branch condition whenTrue (some whenFalse))
        (calls.map (.on (.whenFalse condition)))
  | passed {condition : Expr} {whenTrue : Stmt} (misses : walk.MayMiss holds condition) :
      Runs walk holds (.branch condition whenTrue none) []

/-- A run of statements one after the other. -/
inductive RunsAll (walk : Walk) (holds : Condition → Bool) : List Stmt → List Call → Prop where
  | nil : RunsAll walk holds [] []
  | cons {first : Stmt} {rest : List Stmt} {calls later : List Call}
      (runs : Runs walk holds first calls) (continues : RunsAll walk holds rest later) :
      RunsAll walk holds (first :: rest) (calls ++ later)

end

/-! ### Every call is recorded -/

/-- The call of an offer. -/
def Offer.call (offer : Offer (List Frame)) : Call := ⟨offer.id, offer.place⟩

namespace Walk

variable {walk : Walk} {holds : Condition → Bool}

/-- The item of a call, with the conditions of the sides taken on the way to it. -/
def itemOf (walk : Walk) (call : Call) : Item := ⟨call.id, call.taken.flatMap walk.conditionsOf⟩

/-- What a side of a branch offers is what its statement offers by itself, on that side. -/
theorem calls_nest (side : Frame) (inner : Stmt) :
    (walk.stmt nest [] (nest [] side) inner).offers.map Offer.call =
      ((walk.stmt nest [] [] inner).offers.map Offer.call).map (.on side) := by
  have turned := walk.stmt_map (nest_respects_append [side]) [] [] inner
  rw [List.append_nil] at turned
  rw [nest, List.nil_append, ← turned, List.map_map]
  show ((walk.stmt nest [] [] inner).offers.map (Offer.map ([side] ++ ·))).map Offer.call = _
  rw [List.map_map]
  rfl

mutual

/-- The calls that a run of a statement executes are among its offers, in the same order. -/
theorem sublist_of_runs : ∀ (before : List Stmt) {stmt : Stmt} {calls : List Call},
    Runs walk holds stmt calls →
      calls.Sublist ((walk.stmt nest before [] stmt).offers.map Offer.call)
  | _, _, _, .block runs => sublist_of_runsAll [] runs
  | _, _, _, .expr executed => by
    rw [stmt, Findings.offering, List.map_map]
    exact executed.map _
  | _, _, _, .whenTrue meets runs => by
    rw [stmt]
    simp only [Findings.offers_append, List.map_append, calls_nest]
    refine ((sublist_of_runs [] runs).map _).trans ?_
    exact (List.sublist_append_right _ _).trans (List.sublist_append_left _ _)
  | _, _, _, .whenFalse misses runs => by
    rw [stmt, otherwise]
    simp only [Findings.offers_append, List.map_append, calls_nest]
    refine ((sublist_of_runs [] runs).map _).trans ?_
    exact (List.sublist_append_right _ _).trans (List.sublist_append_right _ _)
  | _, _, _, .passed _ => List.nil_sublist _

theorem sublist_of_runsAll : ∀ (before : List Stmt) {body : List Stmt} {calls : List Call},
    RunsAll walk holds body calls →
      calls.Sublist ((walk.stmts nest before [] body).offers.map Offer.call)
  | _, _, _, .nil => List.nil_sublist _
  | before, _, _, .cons runs continues => by
    rw [stmts, Findings.offers_append, List.map_append]
    exact (sublist_of_runs before runs).append (sublist_of_runsAll _ continues)

end

/-! ### The sides that were taken -/

/-- A run may take a side of a branch. -/
def MayTake (walk : Walk) (holds : Condition → Bool) : Frame → Prop
  | .whenTrue guard => walk.MayMeet holds guard
  | .whenFalse guard => walk.MayMiss holds guard
  | _ => False

theorem mayTake_on {calls : List Call} {side : Frame} (here : walk.MayTake holds side)
    (within : ∀ call ∈ calls, ∀ frame ∈ call.taken, walk.MayTake holds frame) :
    ∀ call ∈ calls.map (Call.on side), ∀ frame ∈ call.taken, walk.MayTake holds frame := by
  intro call member
  obtain ⟨inner, innerMember, rfl⟩ := List.mem_map.mp member
  exact List.forall_mem_cons.mpr ⟨here, within inner innerMember⟩

mutual

/-- Every call of a run was led to by sides that the run may take. -/
theorem mayTake_of_runs : ∀ {stmt : Stmt} {calls : List Call}, Runs walk holds stmt calls →
    ∀ call ∈ calls, ∀ frame ∈ call.taken, walk.MayTake holds frame
  | _, _, .block runs => mayTake_of_runsAll runs
  | _, _, .expr _ => by
    intro call member
    obtain ⟨id, -, rfl⟩ := List.mem_map.mp member
    exact List.forall_mem_nil _
  | .branch condition _ _, _, .whenTrue meets runs =>
    mayTake_on (show walk.MayTake holds (.whenTrue condition) from meets) (mayTake_of_runs runs)
  | .branch condition _ _, _, .whenFalse misses runs =>
    mayTake_on (show walk.MayTake holds (.whenFalse condition) from misses) (mayTake_of_runs runs)
  | _, _, .passed _ => List.forall_mem_nil _

theorem mayTake_of_runsAll : ∀ {body : List Stmt} {calls : List Call},
    RunsAll walk holds body calls →
      ∀ call ∈ calls, ∀ frame ∈ call.taken, walk.MayTake holds frame
  | _, _, .nil => List.forall_mem_nil _
  | _, _, .cons runs continues =>
    List.forall_mem_append.mpr ⟨mayTake_of_runs runs, mayTake_of_runsAll continues⟩

end

end Walk

/-! ### A branch on two conditions -/

/-- A walk that understands guards on hard mode and on the time of day. -/
def dayWalk : Walk where
  catalog := [⟨entry .hardmode "#hard_mode",
      .node "member" [.node "ident" [.symbol "Main"], .symbol "hardMode"]⟩,
    ⟨entry .timeDay "#day_time",
      .node "member" [.node "ident" [.symbol "Main"], .symbol "dayTime"]⟩]
  settings := .standard
  shop := 1

/-- The registration of an item. -/
def registering (id : Int) : Stmt :=
  .expr (.call (.member (.index (.ident "array") [.unary .postInc (.ident "num")]) "SetDefaults")
    [.int id])

/-- A guard on the night. -/
def night : Expr := .unary .not (.member (.ident "Main") "dayTime")

end Storefront.Survey
