import PythonEthtool.Netlink.Connection

namespace PythonEthtool
namespace Netlink

open Foundations

/-!
# Two runs in different memory

`get_interfaces_info` leaves the tag of a new object as it finds it in the
allocated memory, and `open_netlink` reads it.  What the connection and its
counter do can therefore depend on that memory.  Here two runs are taken
through the same actions, with the same results of libnl, that differ only
in the memory of the new objects, and compared step by step.

The tag is read in one place only: when a query finds the connection there.
The runs look the same from outside exactly if in every such query the tag
is clear in both or in none.
-/

/-! ## What is seen of a run -/

/-- The connection and its counter after a step, and the result of
`open_netlink` where the step is a query. -/
structure Observation where
  connected : Bool
  users : UInt32
  opened : Option Bool
  deriving DecidableEq

namespace Module

def observe (state : Module) (action : Action) (next : Module) : Observation where
  connected := next.shared.nlconnection.isSome
  users := next.shared.nlconnectionUsers
  opened :=
    match action with
    | .query address libnl =>
        some (openNetlink state.shared (state.object address) libnl).returned
    | _ => none

/-- The observations of a run, up to the first action that is refused. -/
def observations (state : Module) : List Action -> List Observation
  | [] => []
  | action :: actions =>
      match state.step action with
      | none => []
      | some next => state.observe action next :: next.observations actions

end Module

/-! ## Two runs side by side -/

/-- One action of both runs: a new object lies in different memory. -/
inductive TwinAction where
  | create (address : Nat) (left right : PyEtherInfo) (device : CString)
  | query (address : Nat) (libnl : LibnlOutcome)
  | dealloc (address : Nat)

def TwinAction.left : TwinAction -> Action
  | .create address left _ device => .create address left device
  | .query address libnl => .query address libnl
  | .dealloc address => .dealloc address

def TwinAction.right : TwinAction -> Action
  | .create address _ right device => .create address right device
  | .query address libnl => .query address libnl
  | .dealloc address => .dealloc address

structure Twins where
  left : Module
  right : Module

namespace Twins

def step (twins : Twins) (action : TwinAction) : Option Twins :=
  match twins.left.step action.left, twins.right.step action.right with
  | some left, some right => some ⟨left, right⟩
  | _, _ => none

/-- A query that finds the connection finds the tag of its object clear in
both runs or in none. -/
def TagsAgree (twins : Twins) (action : TwinAction) (_next : Twins) : Prop :=
  match action with
  | .query address _ =>
      twins.left.shared.nlconnection.isSome ->
        ((twins.left.object address).nlcActive = 0 ↔ (twins.right.object address).nlcActive = 0)
  | _ => True

/-- The runs have the same objects and the same connection and counter. -/
structure Alike (twins : Twins) : Prop where
  live : twins.left.live = twins.right.live
  connected : twins.left.shared.nlconnection.isSome = twins.right.shared.nlconnection.isSome
  users : twins.left.shared.nlconnectionUsers = twins.right.shared.nlconnectionUsers

end Twins

/-! ## The two functions as equations -/

theorem openNetlink_users_present {shared : Shared} (present : shared.nlconnection.isSome)
    (ethi : PyEtherInfo) (libnl : LibnlOutcome) :
    (openNetlink shared ethi libnl).shared.nlconnectionUsers =
      if ethi.nlcActive = 0 then shared.nlconnectionUsers + 1 else shared.nlconnectionUsers := by
  rcases Option.isSome_iff_exists.mp present with ⟨socket, found⟩
  simp only [openNetlink, found]
  split <;> rfl

theorem openNetlink_users_absent {shared : Shared} (absent : shared.nlconnection = none)
    (ethi : PyEtherInfo) (libnl : LibnlOutcome) :
    (openNetlink shared ethi libnl).shared.nlconnectionUsers =
      if libnl.socketAlloc = true ∧ 0 ≤ libnl.connect then shared.nlconnectionUsers + 1
      else shared.nlconnectionUsers := by
  rcases openNetlink_cases shared ethi libnl rfl with
    ⟨present, _⟩ | ⟨present, _⟩ | ⟨_, allocated, connects, _, after, _⟩ |
    ⟨_, _, refused, _, after, _⟩ | ⟨_, failed, _, after, _⟩
  · rw [absent] at present
    cases present
  · rw [absent] at present
    cases present
  · rw [after, if_pos ⟨allocated, connects⟩]
  · rw [after, if_neg (fun both => Int.not_le.mpr refused both.2)]
  · rw [after, if_neg (by simp [failed])]

/-- Closing looks at the connection and the counter only. -/
theorem closeNetlink_congr {first second : Shared} (firstEthi secondEthi : PyEtherInfo)
    (connected : first.nlconnection.isSome = second.nlconnection.isSome)
    (users : first.nlconnectionUsers = second.nlconnectionUsers) :
    (closeNetlink first firstEthi).1.nlconnection.isSome =
        (closeNetlink second secondEthi).1.nlconnection.isSome ∧
      (closeNetlink first firstEthi).1.nlconnectionUsers =
        (closeNetlink second secondEthi).1.nlconnectionUsers := by
  rcases closeNetlink_cases first firstEthi with
    ⟨absent, same⟩ | ⟨present, decremented, socket⟩
  · rcases closeNetlink_cases second secondEthi with ⟨_, also⟩ | ⟨other, _⟩
    · rw [same, also]
      exact ⟨connected, users⟩
    · rw [← connected, absent] at other
      cases other
  · rcases closeNetlink_cases second secondEthi with ⟨absent, _⟩ | ⟨_, also, otherSocket⟩
    · rw [connected, absent] at present
      cases present
    · rw [decremented, also, socket, otherSocket, users]
      refine ⟨?_, rfl⟩
      split
      · rfl
      · exact connected

/-! ## One step of both runs -/

/-- The objects after an action that is taken. -/
def Action.liveAfter (live : Finset Nat) : Action -> Finset Nat
  | .create address _ _ => insert address live
  | .query _ _ => live
  | .dealloc address => live.erase address

theorem Module.live_step {state next : Module} {action : Action}
    (taken : state.step action = some next) : next.live = action.liveAfter state.live := by
  cases action with
  | create address memory device =>
      simp only [Module.step] at taken
      split at taken
      · cases taken
      · cases taken
        rfl
  | query address libnl =>
      simp only [Module.step] at taken
      split at taken
      · cases taken
        rfl
      · cases taken
  | dealloc address =>
      simp only [Module.step] at taken
      split at taken
      · cases taken
        rfl
      · cases taken

namespace Twins

variable {twins next : Twins}

theorem step_eq_some_iff {action : TwinAction} :
    twins.step action = some next ↔
      twins.left.step action.left = some next.left ∧
        twins.right.step action.right = some next.right := by
  rw [step]
  cases twins.left.step action.left with
  | none => simp
  | some left =>
      cases twins.right.step action.right with
      | none => simp
      | some right =>
          rcases next with ⟨nextLeft, nextRight⟩
          simp

/-- Twins that are alike refuse the same actions. -/
theorem Alike.refuses_iff (alike : twins.Alike) (action : TwinAction) :
    twins.left.step action.left = none ↔ twins.right.step action.right = none := by
  cases action with
  | create address left right device =>
      simp only [TwinAction.left, TwinAction.right, Module.step, alike.live]
      split <;> simp
  | query address libnl =>
      simp only [TwinAction.left, TwinAction.right, Module.step, alike.live]
      split <;> simp
  | dealloc address =>
      simp only [TwinAction.left, TwinAction.right, Module.step, alike.live]
      split <;> simp

/-- The two observations of a step. -/
def SameObservation (twins : Twins) (action : TwinAction) (next : Twins) : Prop :=
  twins.left.observe action.left next.left = twins.right.observe action.right next.right

theorem step_live {action : TwinAction} (alike : twins.Alike)
    (taken : twins.step action = some next) : next.left.live = next.right.live := by
  rcases step_eq_some_iff.mp taken with ⟨left, right⟩
  rw [Module.live_step left, Module.live_step right, alike.live]
  cases action <;> rfl

/-- A query counts its object in both runs or in none if the tags agree, and
otherwise tells the runs apart. -/
theorem sameObservation_query_iff {address : Nat} {libnl : LibnlOutcome} (alike : twins.Alike)
    (taken : twins.step (.query address libnl) = some next) :
    twins.SameObservation (.query address libnl) next ↔
      twins.TagsAgree (.query address libnl) next := by
  rcases step_eq_some_iff.mp taken with ⟨leftTaken, rightTaken⟩
  have left := (Module.step_query leftTaken).2.1
  have right := (Module.step_query rightTaken).2.1
  have connected : next.left.shared.nlconnection.isSome =
      next.right.shared.nlconnection.isSome := by
    rw [left, right, openNetlink_connected, openNetlink_connected, alike.connected]
  have opened : (openNetlink twins.left.shared (twins.left.object address) libnl).returned =
      (openNetlink twins.right.shared (twins.right.object address) libnl).returned := by
    rw [openNetlink_result, openNetlink_result, alike.connected]
  have onlyUsers : twins.SameObservation (.query address libnl) next ↔
      next.left.shared.nlconnectionUsers = next.right.shared.nlconnectionUsers := by
    simp [SameObservation, Module.observe, TwinAction.left, TwinAction.right, connected, opened]
  rw [onlyUsers, left, right]
  cases present : twins.left.shared.nlconnection.isSome with
  | false =>
      have leftAbsent := Option.isSome_eq_false_iff.mp present
      have rightAbsent := Option.isSome_eq_false_iff.mp (alike.connected ▸ present)
      rw [Option.isNone_iff_eq_none] at leftAbsent rightAbsent
      rw [openNetlink_users_absent leftAbsent, openNetlink_users_absent rightAbsent, alike.users]
      simp [TagsAgree, present]
  | true =>
      rw [openNetlink_users_present present,
        openNetlink_users_present (alike.connected ▸ present), alike.users]
      simp only [TagsAgree, present, forall_const]
      by_cases leftClear : (twins.left.object address).nlcActive = 0
      · by_cases rightClear : (twins.right.object address).nlcActive = 0
        · simp [leftClear, rightClear]
        · simp [leftClear, rightClear]
      · by_cases rightClear : (twins.right.object address).nlcActive = 0
        · simp [leftClear, rightClear]
        · simp [leftClear, rightClear]

theorem sameObservation_iff {action : TwinAction} (alike : twins.Alike)
    (taken : twins.step action = some next) :
    twins.SameObservation action next ↔ twins.TagsAgree action next := by
  cases action with
  | query address libnl => exact sameObservation_query_iff alike taken
  | create address leftMemory rightMemory device =>
      rcases step_eq_some_iff.mp taken with ⟨leftTaken, rightTaken⟩
      have left := (Module.step_create leftTaken).1
      have right := (Module.step_create rightTaken).1
      simp only [SameObservation, Module.observe, TwinAction.left, TwinAction.right, TagsAgree,
        left, right, alike.connected, alike.users]
  | dealloc address =>
      rcases step_eq_some_iff.mp taken with ⟨leftTaken, rightTaken⟩
      have left := (Module.step_dealloc leftTaken).2.1
      have right := (Module.step_dealloc rightTaken).2.1
      have closed := closeNetlink_congr (twins.left.object address) (twins.right.object address)
        alike.connected alike.users
      simp only [SameObservation, Module.observe, TwinAction.left, TwinAction.right, TagsAgree,
        left, right, closed.1, closed.2]

theorem Alike.step {action : TwinAction} (alike : twins.Alike)
    (taken : twins.step action = some next) (same : twins.SameObservation action next) :
    next.Alike where
  live := step_live alike taken
  connected := congrArg Observation.connected same
  users := congrArg Observation.users same

/-- From twins that are alike, the observations are the same exactly along
the runs in which the tags agree. -/
theorem Alike.observations_eq_iff {actions : List TwinAction} (alike : twins.Alike) :
    twins.left.observations (actions.map TwinAction.left) =
        twins.right.observations (actions.map TwinAction.right) ↔
      EachStep Twins.step TagsAgree twins actions := by
  induction actions generalizing twins with
  | nil => simp [Module.observations, EachStep]
  | cons action actions ih =>
      simp only [List.map_cons, Module.observations, EachStep]
      cases left : twins.left.step action.left with
      | none =>
          have right := (alike.refuses_iff action).mp left
          have refused : forall next, twins.step action ≠ some next := by
            intro next taken
            rw [(step_eq_some_iff.mp taken).1] at left
            cases left
          simp [right, refused]
      | some nextLeft =>
          cases right : twins.right.step action.right with
          | none =>
              have also := (alike.refuses_iff action).mpr right
              rw [left] at also
              cases also
          | some nextRight =>
              have taken : twins.step action = some ⟨nextLeft, nextRight⟩ :=
                step_eq_some_iff.mpr ⟨left, right⟩
              simp only [taken, Option.some.injEq, forall_eq', List.cons.injEq]
              rw [← sameObservation_iff alike taken]
              constructor
              · rintro ⟨same, rest⟩
                exact ⟨same, (ih (alike.step taken same)).mp rest⟩
              · rintro ⟨same, rest⟩
                exact ⟨same, (ih (alike.step taken same)).mpr rest⟩

end Twins

/-- The connection, its counter and the results of `open_netlink` are the
same in two runs exactly if the tags that the queries read are. -/
theorem observations_eq_iff_tagsAgree (left right : Nat -> PyEtherInfo)
    (actions : List TwinAction) :
    (Module.initial left).observations (actions.map TwinAction.left) =
        (Module.initial right).observations (actions.map TwinAction.right) ↔
      EachStep Twins.step Twins.TagsAgree ⟨.initial left, .initial right⟩ actions := by
  have alike : Twins.Alike ⟨.initial left, .initial right⟩ := ⟨rfl, rfl, rfl⟩
  exact alike.observations_eq_iff

/-- A second object in memory with and without a stray tag: only without it
the object is counted. -/
theorem observations_differ_stray_tag :
    (Module.initial (fun _ => .cleared)).observations
        ([TwinAction.create 0 .cleared .cleared eth0, .query 0 .success,
          .create 1 .cleared { PyEtherInfo.cleared with nlcActive := 7 } eth0,
          .query 1 .success].map TwinAction.left) ≠
      (Module.initial (fun _ => .cleared)).observations
        ([TwinAction.create 0 .cleared .cleared eth0, .query 0 .success,
          .create 1 .cleared { PyEtherInfo.cleared with nlcActive := 7 } eth0,
          .query 1 .success].map TwinAction.right) := by
  decide

end Netlink
end PythonEthtool
