import PythonEthtool.Netlink.Connection

namespace PythonEthtool
namespace Netlink

open Foundations

/-!
# The counter of netlink users

The counter is meant to be the number of live objects that are tagged as
users.  `open_netlink` looks at the tag before it counts, `close_netlink`
does not, so an object that was never queried takes one user off the counter
when it is deallocated.  The counter is exact along precisely the runs in
which that does not happen, and in which it never has to count past the
largest `unsigned int`.

What survives any order of creations, queries and deallocations is weaker:
the counter is positive exactly while there is a connection, and it is at
most the number of tagged objects.  This is already enough to rule out a
decrement at zero.
-/

/-- The libnl calls of a query succeed. -/
def Action.Connects : Action -> Prop
  | .query _ libnl => libnl.socketAlloc = true ∧ 0 ≤ libnl.connect
  | _ => True

/-- A created object starts with a cleared tag. -/
def Action.StartsUntagged : Action -> Prop
  | .create _ memory _ => memory.nlcActive = 0
  | _ => True

namespace Module

/-- The counter is the number of tagged live objects. -/
def Exact (state : Module) : Prop :=
  state.shared.nlconnectionUsers.toNat = state.tagged.card

/-- There is a connection exactly while the counter is positive. -/
def OpenWhileUsed (state : Module) : Prop :=
  state.shared.nlconnection.isSome ↔ 0 < state.shared.nlconnectionUsers.toNat

/-- The connection goes away precisely when a tagged object is destroyed and
leaves no other tagged object behind. -/
def ClosesWithLastUser (state : Module) (action : Action) (next : Module) : Prop :=
  (state.shared.nlconnection.isSome ∧ next.shared.nlconnection = none) ↔
    ∃ address, action = .dealloc address ∧ address ∈ state.tagged ∧ next.tagged = ∅

/-- While there is a connection, only users of it are deallocated. -/
def DropsOnlyUsers (state : Module) (action : Action) (_next : Module) : Prop :=
  match action with
  | .dealloc address =>
      state.shared.nlconnection = none ∨ (state.object address).nlcActive ≠ 0
  | _ => True

/-- The counter can still count a new user. -/
def RoomForUser (state : Module) (action : Action) (_next : Module) : Prop :=
  match action with
  | .query address _ =>
      (state.object address).nlcActive ≠ 0 ∨
        state.shared.nlconnectionUsers.toNat + 1 < 2 ^ 32
  | _ => True

end Module

/-! ## Counter arithmetic -/

theorem toNat_succ_users {users : UInt32} (room : users.toNat + 1 < 2 ^ 32) :
    (users + 1).toNat = users.toNat + 1 := by
  rw [UInt32.toNat_add, UInt32.toNat_one, Nat.mod_eq_of_lt room]

theorem toNat_pred_users {users : UInt32} (positive : 0 < users.toNat) :
    (users - 1).toNat + 1 = users.toNat := by
  have below : (1 : UInt32) ≤ users := UInt32.le_iff_toNat_le.mpr positive
  rw [UInt32.toNat_sub_of_le users 1 below, UInt32.toNat_one, Nat.sub_add_cancel positive]

theorem toNat_pred_users_ne (users : UInt32) : (users - 1).toNat ≠ users.toNat := by
  intro same
  have equal : users - 1 = users := UInt32.toNat_inj.mp same
  have wrapped : users - 1 + 1 = users + 1 := by rw [equal]
  simp at wrapped

namespace Module

variable {state next : Module}

/-- A query that connects leaves the counter alone for a tagged object and
counts every other object once. -/
theorem step_query_connecting {address : Nat} {libnl : LibnlOutcome}
    (connects : (Action.query address libnl).Connects)
    (taken : state.step (.query address libnl) = some next) :
    next.tagged = insert address state.tagged ∧ next.shared.nlconnection.isSome ∧
      ((state.shared.nlconnection.isSome ∧ address ∈ state.tagged ∧
          next.shared.nlconnectionUsers = state.shared.nlconnectionUsers) ∨
        ((state.shared.nlconnection = none ∨ address ∉ state.tagged) ∧
          next.shared.nlconnectionUsers = state.shared.nlconnectionUsers + 1)) := by
  rcases step_query taken with ⟨present, shared, _, tagged⟩
  have member : address ∈ state.tagged ↔ (state.object address).nlcActive ≠ 0 := by
    rw [mem_tagged]
    exact and_iff_right present
  rcases openNetlink_cases state.shared (state.object address) libnl rfl with
    ⟨connected, active, _, sharedEq, ethiEq⟩ | ⟨connected, inactive, _, sharedEq, ethiEq⟩ |
    ⟨absent, _, _, _, sharedEq, ethiEq⟩ | ⟨_, _, failed, _⟩ | ⟨_, unallocated, _⟩
  · rw [ethiEq] at tagged
    rw [shared, sharedEq]
    exact ⟨by simpa using tagged, connected, Or.inl ⟨connected, member.mpr active, rfl⟩⟩
  · rw [ethiEq] at tagged
    rw [shared, sharedEq]
    refine ⟨by simpa using tagged, connected, Or.inr ⟨Or.inr ?_, rfl⟩⟩
    intro counted
    exact member.mp counted inactive
  · rw [ethiEq] at tagged
    rw [shared, sharedEq]
    exact ⟨by simpa using tagged, rfl, Or.inr ⟨Or.inl absent, rfl⟩⟩
  · exact absurd connects.2 (Int.not_le.mpr failed)
  · exact absurd connects.1 (by simp [unallocated])

/-- A deallocation without a connection leaves the shared state alone. -/
theorem step_dealloc_closed {address : Nat} (closed : state.shared.nlconnection = none)
    (taken : state.step (.dealloc address) = some next) : next.shared = state.shared := by
  rcases step_dealloc taken with ⟨_, shared, _⟩
  rcases closeNetlink_cases state.shared (state.object address) with same | ⟨connected, _⟩
  · rw [shared, same.2]
  · simp [closed] at connected

/-- A deallocation at a positive counter takes one user off, and closes the
connection exactly when it was the last one. -/
theorem step_dealloc_counted {address : Nat} (connected : state.shared.nlconnection.isSome)
    (positive : 0 < state.shared.nlconnectionUsers.toNat)
    (taken : state.step (.dealloc address) = some next) :
    next.shared.nlconnectionUsers.toNat + 1 = state.shared.nlconnectionUsers.toNat ∧
      next.OpenWhileUsed := by
  rcases step_dealloc taken with ⟨_, shared, _⟩
  rcases closeNetlink_cases state.shared (state.object address) with closed | ⟨_, users, socket⟩
  · simp [closed.1] at connected
  · rw [← shared] at users socket
    refine ⟨by rw [users, toNat_pred_users positive], ?_⟩
    rw [OpenWhileUsed, users, socket]
    by_cases last : state.shared.nlconnectionUsers - 1 = 0
    · simp [last]
    · have more : 0 < (state.shared.nlconnectionUsers - 1).toNat := by
        rw [Nat.pos_iff_ne_zero]
        intro zero
        exact last (UInt32.toNat_inj.mp zero)
      simp [last, more, connected]

theorem OpenWhileUsed.users_zero (used : state.OpenWhileUsed)
    (closed : state.shared.nlconnection = none) :
    state.shared.nlconnectionUsers.toNat = 0 := by
  by_contra positive
  have connected := used.mpr (Nat.pos_of_ne_zero positive)
  simp [closed] at connected

/-! ## Exactness -/

/-- What the exact runs keep. -/
def ExactlyOpen (state : Module) : Prop :=
  state.Exact ∧ state.OpenWhileUsed

theorem ExactlyOpen.tagged_empty (exactly : state.ExactlyOpen)
    (closed : state.shared.nlconnection = none) : state.tagged = ∅ := by
  rw [← Finset.card_eq_zero, ← exactly.1]
  exact exactly.2.users_zero closed

theorem ExactlyOpen.initial (memory : Nat -> PyEtherInfo) :
    (Module.initial memory).ExactlyOpen := by
  have empty : (Module.initial memory).tagged = ∅ := Finset.filter_empty _
  constructor
  · rw [Exact, empty]
    rfl
  · simp [OpenWhileUsed, Module.initial]

theorem ExactlyOpen.create {address : Nat} {memory : PyEtherInfo} {device : CString}
    (exactly : state.ExactlyOpen) (untagged : memory.nlcActive = 0)
    (taken : state.step (.create address memory device) = some next) : next.ExactlyOpen := by
  rcases step_create taken with ⟨shared, _, tagged⟩
  rw [if_pos untagged] at tagged
  simp only [ExactlyOpen, Exact, OpenWhileUsed, shared, tagged]
  exact exactly

theorem ExactlyOpen.query {address : Nat} {libnl : LibnlOutcome}
    (exactly : state.ExactlyOpen) (connects : (Action.query address libnl).Connects)
    (room : state.RoomForUser (.query address libnl) next)
    (taken : state.step (.query address libnl) = some next) : next.ExactlyOpen := by
  have present := (step_query taken).1
  have counted : state.shared.nlconnectionUsers.toNat = state.tagged.card := exactly.1
  rcases step_query_connecting connects taken with
    ⟨tagged, connected, ⟨_, member, users⟩ | ⟨fresh, users⟩⟩
  · rw [Finset.insert_eq_of_mem member] at tagged
    have positive : 0 < state.tagged.card := Finset.card_pos.mpr ⟨address, member⟩
    simp only [ExactlyOpen, Exact, OpenWhileUsed, users, tagged, connected, true_iff]
    omega
  · have untagged : address ∉ state.tagged := by
      rcases fresh with closed | untagged
      · rw [exactly.tagged_empty closed]
        exact Finset.notMem_empty address
      · exact untagged
    have space : state.shared.nlconnectionUsers.toNat + 1 < 2 ^ 32 := by
      rcases room with active | space
      · exact absurd (mem_tagged.mpr ⟨present, active⟩) untagged
      · exact space
    simp only [ExactlyOpen, Exact, OpenWhileUsed, users, tagged, connected, true_iff,
      toNat_succ_users space, Finset.card_insert_of_notMem untagged]
    omega

theorem ExactlyOpen.dealloc {address : Nat} (exactly : state.ExactlyOpen)
    (drops : state.DropsOnlyUsers (.dealloc address) next)
    (taken : state.step (.dealloc address) = some next) : next.ExactlyOpen := by
  rcases step_dealloc taken with ⟨present, _, tagged⟩
  rcases Option.eq_none_or_eq_some state.shared.nlconnection with closed | ⟨socket, found⟩
  · have shared := step_dealloc_closed closed taken
    have empty := exactly.tagged_empty closed
    have unchanged : next.tagged = state.tagged := by rw [tagged, empty, Finset.erase_empty]
    simp only [ExactlyOpen, Exact, OpenWhileUsed, shared, unchanged]
    exact exactly
  · have connected : state.shared.nlconnection.isSome := by rw [found]; rfl
    have member : address ∈ state.tagged := by
      rcases drops with closed | active
      · rw [closed] at found
        cases found
      · exact mem_tagged.mpr ⟨present, active⟩
    have counted := step_dealloc_counted connected (exactly.2.mp connected) taken
    refine ⟨?_, counted.2⟩
    have before : state.shared.nlconnectionUsers.toNat = state.tagged.card := exactly.1
    have removed := Finset.card_erase_add_one member
    rw [Exact, tagged]
    omega

/-- One step keeps the counter exact if the dropped object was a user and
the new one can be counted. -/
theorem ExactlyOpen.step {action : Action} (exactly : state.ExactlyOpen)
    (connects : action.Connects) (untagged : action.StartsUntagged)
    (drops : state.DropsOnlyUsers action next) (room : state.RoomForUser action next)
    (taken : state.step action = some next) : next.ExactlyOpen := by
  cases action with
  | create address memory device => exact exactly.create untagged taken
  | query address libnl => exact exactly.query connects room taken
  | dealloc address => exact exactly.dealloc drops taken

/-- Between two exact states the connection goes with its last user. -/
theorem ExactlyOpen.closesWithLastUser {action : Action} (before : state.ExactlyOpen)
    (after : next.ExactlyOpen) (connects : action.Connects)
    (taken : state.step action = some next) : state.ClosesWithLastUser action next := by
  constructor
  · rintro ⟨connected, closed⟩
    cases action with
    | create address memory device =>
        rw [(step_create taken).1] at closed
        simp [closed] at connected
    | query address libnl =>
        have still := (step_query_connecting connects taken).2.1
        simp [closed] at still
    | dealloc address =>
        have empty := after.tagged_empty closed
        refine ⟨address, rfl, ?_, empty⟩
        have positive := before.2.mp connected
        rw [before.1] at positive
        rcases Finset.card_pos.mp positive with ⟨user, member⟩
        have erased := (step_dealloc taken).2.2
        rw [empty] at erased
        by_contra other
        rw [Finset.erase_eq_of_notMem other] at erased
        exact Finset.notMem_empty user (erased ▸ member)
  · rintro ⟨address, rfl, member, empty⟩
    have positive : 0 < state.tagged.card := Finset.card_pos.mpr ⟨address, member⟩
    refine ⟨before.2.mpr (before.1 ▸ positive), ?_⟩
    have none_left : next.shared.nlconnectionUsers.toNat = 0 := by
      rw [after.1, empty, Finset.card_empty]
    by_contra connected
    have used := after.2.mp (Option.isSome_iff_ne_none.mpr connected)
    omega

/-- A step outside the two conditions makes an exact counter inexact. -/
theorem exact_step_conditions {action : Action} (before : state.Exact) (after : next.Exact)
    (connects : action.Connects) (taken : state.step action = some next) :
    state.DropsOnlyUsers action next ∧ state.RoomForUser action next := by
  cases action with
  | create address memory device => exact ⟨trivial, trivial⟩
  | query address libnl =>
      refine ⟨trivial, ?_⟩
      by_contra full
      simp only [RoomForUser, not_or, not_not] at full
      have untagged : address ∉ state.tagged := fun member => (mem_tagged.mp member).2 full.1
      rcases step_query_connecting connects taken with
        ⟨tagged, _, ⟨_, member, _⟩ | ⟨_, users⟩⟩
      · exact untagged member
      · rw [Exact, tagged, Finset.card_insert_of_notMem untagged, ← before] at after
        have bound := UInt32.toNat_lt next.shared.nlconnectionUsers
        omega
  | dealloc address =>
      refine ⟨?_, trivial⟩
      by_contra dropped
      simp only [DropsOnlyUsers, not_or, not_not] at dropped
      rcases step_dealloc taken with ⟨_, shared, tagged⟩
      rcases closeNetlink_cases state.shared (state.object address) with closed | ⟨_, users, _⟩
      · exact dropped.1 closed.1
      · have untagged : address ∉ state.tagged := fun member => (mem_tagged.mp member).2 dropped.2
        rw [Finset.erase_eq_of_notMem untagged] at tagged
        rw [Exact, tagged, ← before, shared, users] at after
        exact toNat_pred_users_ne _ after

/-- The counter is exact in every state, and the connection goes with its
last user, along precisely the runs whose steps all meet the conditions. -/
theorem users_exact_iff (memory : Nat -> PyEtherInfo) (actions : List Action)
    (connects : forall action, action ∈ actions -> action.Connects)
    (untagged : forall action, action ∈ actions -> action.StartsUntagged) :
    (Always Module.step Exact (Module.initial memory) actions ∧
        EachStep Module.step ClosesWithLastUser (Module.initial memory) actions) ↔
      EachStep Module.step
        (fun before action after =>
          before.DropsOnlyUsers action after ∧ before.RoomForUser action after)
        (Module.initial memory) actions := by
  have connecting : EachStep Module.step (fun _ action _ => action.Connects)
      (Module.initial memory) actions := eachStep_of_forall_mem connects _
  have clean : EachStep Module.step (fun _ action _ => action.StartsUntagged)
      (Module.initial memory) actions := eachStep_of_forall_mem untagged _
  constructor
  · rintro ⟨exactly, _⟩
    have conditions : EachStep Module.step
        (fun before action after => action.Connects ->
          before.DropsOnlyUsers action after ∧ before.RoomForUser action after)
        (Module.initial memory) actions :=
      eachStep_of_always (fun _ _ _ taken before after connects =>
        exact_step_conditions before after connects taken) exactly
    exact (conditions.and connecting).mono (fun _ _ _ _ both => both.1 both.2)
  · intro conditions
    have guarded := (connecting.and clean).and conditions
    have preserved : forall before action after, Module.step before action = some after ->
        before.ExactlyOpen ->
        ((action.Connects ∧ action.StartsUntagged) ∧
          before.DropsOnlyUsers action after ∧ before.RoomForUser action after) ->
        after.ExactlyOpen := by
      rintro before action after taken exactly ⟨⟨connects, untagged⟩, drops, room⟩
      exact exactly.step connects untagged drops room taken
    constructor
    · exact (always_of_guarded preserved (ExactlyOpen.initial memory) guarded).mono
        (fun _ exactly => exactly.1)
    · refine eachStep_of_guarded preserved ?_ (ExactlyOpen.initial memory) guarded
      intro before action after taken exactly guard
      exact exactly.closesWithLastUser (preserved before action after taken exactly guard)
        guard.1.1 taken

/-- Two objects whose lives meet the conditions.  The first is queried twice,
and the second goes on with the connection when the first is destroyed. -/
theorem users_exact_two_objects :
    Always Module.step Exact (Module.initial (fun _ => .cleared))
      [.create 0 .cleared eth0, .create 1 .cleared eth0, .query 0 .success, .query 1 .success,
        .query 0 .success, .dealloc 0, .query 1 .success, .dealloc 1] := by
  refine ((users_exact_iff (fun _ => .cleared)
    [.create 0 .cleared eth0, .create 1 .cleared eth0, .query 0 .success, .query 1 .success,
      .query 0 .success, .dealloc 0, .query 1 .success, .dealloc 1] ?_ ?_).mpr ?_).1
  · simp [Action.Connects, LibnlOutcome.success]
  · simp [Action.StartsUntagged, PyEtherInfo.cleared]
  · intro one taken
    cases taken
    refine ⟨⟨trivial, trivial⟩, ?_⟩
    intro two taken
    cases taken
    refine ⟨⟨trivial, trivial⟩, ?_⟩
    intro opened taken
    cases taken
    refine ⟨⟨trivial, Or.inr (by decide)⟩, ?_⟩
    intro shared taken
    cases taken
    refine ⟨⟨trivial, Or.inr (by decide)⟩, ?_⟩
    intro again taken
    cases taken
    refine ⟨⟨trivial, Or.inl (by decide)⟩, ?_⟩
    intro first taken
    cases taken
    refine ⟨⟨Or.inr (by decide), trivial⟩, ?_⟩
    intro alone taken
    cases taken
    refine ⟨⟨trivial, Or.inl (by decide)⟩, ?_⟩
    intro second taken
    cases taken
    exact ⟨⟨Or.inr (by decide), trivial⟩, trivial⟩

/-- Two objects, of which only the first is queried.  Destroying the second
brings the counter to zero and closes the connection of the first. -/
theorem users_inexact_unqueried_dealloc :
    (forall action, action ∈ [Action.create 0 .cleared eth0, .create 1 .cleared eth0,
        .query 0 .success, .dealloc 1] -> action.Connects ∧ action.StartsUntagged) ∧
      ∃ last, run Module.step (Module.initial (fun _ => .cleared))
          [.create 0 .cleared eth0, .create 1 .cleared eth0, .query 0 .success, .dealloc 1] =
            some last ∧
        ¬ last.Exact ∧ last.shared.nlconnection = none ∧ last.tagged = {0} := by
  constructor
  · simp [Action.Connects, Action.StartsUntagged, LibnlOutcome.success, PyEtherInfo.cleared]
  · refine ⟨_, rfl, ?_, rfl, by decide⟩
    unfold Exact
    decide

/-! ## Consistency in every order -/

/-- What no order of the three operations breaks while connecting succeeds. -/
def Consistent (state : Module) : Prop :=
  state.OpenWhileUsed ∧ state.shared.nlconnectionUsers.toNat ≤ state.tagged.card

/-- No step decrements at zero or wraps the counter either way, and a query
that opened the connection finds it. -/
def SafeStep (state : Module) (action : Action) (next : Module) : Prop :=
  next.shared.nlconnectionUsers.toNat ≤ state.shared.nlconnectionUsers.toNat + 1 ∧
  state.shared.nlconnectionUsers.toNat ≤ next.shared.nlconnectionUsers.toNat + 1 ∧
  match action with
  | .create _ _ _ => True
  | .query address libnl =>
      (openNetlink state.shared (state.object address) libnl).returned = true ->
        (getNlc next.shared).isSome
  | .dealloc _ =>
      state.shared.nlconnection.isSome -> 0 < state.shared.nlconnectionUsers.toNat

theorem Consistent.initial (memory : Nat -> PyEtherInfo) :
    (Module.initial memory).Consistent :=
  ⟨(ExactlyOpen.initial memory).2, Nat.le_of_eq (ExactlyOpen.initial memory).1⟩

theorem Consistent.create {address : Nat} {memory : PyEtherInfo} {device : CString}
    (consistent : state.Consistent)
    (taken : state.step (.create address memory device) = some next) : next.Consistent := by
  rcases step_create taken with ⟨shared, _, tagged⟩
  have grows : state.tagged ⊆ next.tagged := by
    rw [tagged]
    split
    · exact Finset.Subset.refl _
    · exact Finset.subset_insert _ _
  simp only [Consistent, OpenWhileUsed, shared]
  exact ⟨consistent.1, Nat.le_trans consistent.2 (Finset.card_le_card grows)⟩

theorem Consistent.query {address : Nat} {libnl : LibnlOutcome}
    (consistent : state.Consistent) (connects : (Action.query address libnl).Connects)
    (room : state.RoomForUser (.query address libnl) next)
    (taken : state.step (.query address libnl) = some next) :
    next.Consistent ∧
      state.shared.nlconnectionUsers.toNat ≤ next.shared.nlconnectionUsers.toNat ∧
      next.shared.nlconnectionUsers.toNat ≤ state.shared.nlconnectionUsers.toNat + 1 := by
  have present := (step_query taken).1
  have bound := consistent.2
  rcases step_query_connecting connects taken with
    ⟨tagged, connected, ⟨already, member, users⟩ | ⟨fresh, users⟩⟩
  · rw [Finset.insert_eq_of_mem member] at tagged
    have positive := consistent.1.mp already
    simp only [Consistent, OpenWhileUsed, users, tagged, connected, true_iff]
    omega
  · have space : state.shared.nlconnectionUsers.toNat + 1 < 2 ^ 32 := by
      rcases fresh with closed | untagged
      · rw [consistent.1.users_zero closed]
        decide
      · rcases room with active | space
        · exact absurd (mem_tagged.mpr ⟨present, active⟩) untagged
        · exact space
    have counted : state.shared.nlconnectionUsers.toNat + 1 ≤ next.tagged.card := by
      rw [tagged]
      rcases fresh with closed | untagged
      · rw [consistent.1.users_zero closed]
        exact Finset.card_pos.mpr ⟨address, Finset.mem_insert_self address _⟩
      · rw [Finset.card_insert_of_notMem untagged]
        exact Nat.add_le_add_right bound 1
    simp only [Consistent, OpenWhileUsed, users, connected, true_iff, toNat_succ_users space]
    omega

theorem Consistent.dealloc {address : Nat} (consistent : state.Consistent)
    (taken : state.step (.dealloc address) = some next) :
    next.Consistent ∧
      next.shared.nlconnectionUsers.toNat ≤ state.shared.nlconnectionUsers.toNat ∧
      state.shared.nlconnectionUsers.toNat ≤ next.shared.nlconnectionUsers.toNat + 1 := by
  rcases step_dealloc taken with ⟨_, _, tagged⟩
  have bound := consistent.2
  rcases Option.eq_none_or_eq_some state.shared.nlconnection with closed | ⟨socket, found⟩
  · have shared := step_dealloc_closed closed taken
    have zero := consistent.1.users_zero closed
    simp only [Consistent, OpenWhileUsed, shared]
    exact ⟨⟨consistent.1, by omega⟩, by omega, by omega⟩
  · have connected : state.shared.nlconnection.isSome := by rw [found]; rfl
    have counted := step_dealloc_counted connected (consistent.1.mp connected) taken
    have removed := Finset.pred_card_le_card_erase (s := state.tagged) (a := address)
    rw [← tagged] at removed
    exact ⟨⟨counted.2, by omega⟩, by omega, by omega⟩

/-- One step keeps the consistency and is safe, as long as the counter is
not asked to count past its type. -/
theorem Consistent.step {action : Action} (consistent : state.Consistent)
    (connects : action.Connects) (room : state.RoomForUser action next)
    (taken : state.step action = some next) :
    next.Consistent ∧ state.SafeStep action next := by
  cases action with
  | create address memory device =>
      have same : next.shared = state.shared := (step_create taken).1
      refine ⟨consistent.create taken, ?_, ?_, trivial⟩ <;> rw [same] <;> omega
  | query address libnl =>
      rcases consistent.query connects room taken with ⟨kept, up, atMost⟩
      exact ⟨kept, atMost, by omega, fun _ => (step_query_connecting connects taken).2.1⟩
  | dealloc address =>
      rcases consistent.dealloc taken with ⟨kept, down, atMost⟩
      exact ⟨kept, by omega, atMost, consistent.1.mp⟩

/-- A query of an untagged object at the largest counter value leaves a
connection without users. -/
theorem consistent_step_room {action : Action} (after : next.Consistent)
    (connects : action.Connects) (taken : state.step action = some next) :
    state.RoomForUser action next := by
  cases action with
  | create address memory device => trivial
  | dealloc address => trivial
  | query address libnl =>
      by_contra full
      simp only [RoomForUser, not_or, not_not] at full
      have untagged : address ∉ state.tagged := fun member => (mem_tagged.mp member).2 full.1
      rcases step_query_connecting connects taken with
        ⟨_, connected, ⟨_, member, _⟩ | ⟨_, users⟩⟩
      · exact untagged member
      · have positive := after.1.mp connected
        rw [users, UInt32.toNat_add, UInt32.toNat_one] at positive
        have bound := UInt32.toNat_lt state.shared.nlconnectionUsers
        omega

/-- Along a run in which connecting succeeds, with any initial tags, every
state is consistent and every step safe exactly as long as no untagged
object is queried while the counter stands at its largest value. -/
theorem consistent_iff_room (memory : Nat -> PyEtherInfo) (actions : List Action)
    (connects : forall action, action ∈ actions -> action.Connects) :
    (Always Module.step Consistent (Module.initial memory) actions ∧
        EachStep Module.step SafeStep (Module.initial memory) actions) ↔
      EachStep Module.step RoomForUser (Module.initial memory) actions := by
  have connecting : EachStep Module.step (fun _ action _ => action.Connects)
      (Module.initial memory) actions := eachStep_of_forall_mem connects _
  constructor
  · rintro ⟨consistent, _⟩
    have room : EachStep Module.step
        (fun before action after => action.Connects -> before.RoomForUser action after)
        (Module.initial memory) actions :=
      eachStep_of_always
        (fun _ _ _ taken _ after connects => consistent_step_room after connects taken) consistent
    exact (room.and connecting).mono (fun _ _ _ _ both => both.1 both.2)
  · intro room
    have guarded := connecting.and room
    have preserved : forall before action after, Module.step before action = some after ->
        before.Consistent -> (action.Connects ∧ before.RoomForUser action after) ->
        after.Consistent :=
      fun _ _ _ taken consistent guard => (consistent.step guard.1 guard.2 taken).1
    exact ⟨always_of_guarded preserved (Consistent.initial memory) guarded,
      eachStep_of_guarded preserved
        (fun _ _ _ taken consistent guard => (consistent.step guard.1 guard.2 taken).2)
        (Consistent.initial memory) guarded⟩

/-- Two objects out of memory with stray tags: the second is never counted,
and both lives end without a decrement at zero. -/
theorem consistent_stray_tags :
    Always Module.step Consistent (Module.initial (fun _ => .cleared))
      [.create 0 { PyEtherInfo.cleared with nlcActive := 7 } eth0, .query 0 .success,
        .create 1 { PyEtherInfo.cleared with nlcActive := 7 } eth0, .query 1 .success,
        .dealloc 0, .dealloc 1] := by
  refine ((consistent_iff_room (fun _ => .cleared) _ ?_).mpr ?_).1
  · simp [Action.Connects, LibnlOutcome.success]
  · intro _ taken
    cases taken
    refine ⟨trivial, fun _ taken => ?_⟩
    cases taken
    refine ⟨Or.inl (by decide), fun _ taken => ?_⟩
    cases taken
    refine ⟨trivial, fun _ taken => ?_⟩
    cases taken
    refine ⟨Or.inl (by decide), fun _ taken => ?_⟩
    cases taken
    refine ⟨trivial, fun _ taken => ?_⟩
    cases taken
    exact ⟨trivial, trivial⟩

/-! ## The width of the counter -/

/-- Create and query one object after the other, keeping them all. -/
def crowd : Nat -> List Action
  | 0 => []
  | count + 1 => crowd count ++ [.create count .cleared eth0, .query count .success]

theorem crowd_connects (count : Nat) (action : Action) (member : action ∈ crowd count) :
    action.Connects := by
  induction count with
  | zero => cases member
  | succ count ih =>
      simp only [crowd, List.mem_append, List.mem_cons, List.not_mem_nil, or_false] at member
      rcases member with earlier | rfl | rfl
      · exact ih earlier
      · trivial
      · simp [Action.Connects, LibnlOutcome.success]

theorem run_crowd (count : Nat) :
    ∃ last, run Module.step (Module.initial (fun _ => .cleared)) (crowd count) = some last ∧
      last.live = Finset.range count ∧
      last.shared.nlconnectionUsers = UInt32.ofNat count ∧
      last.shared.nlconnection = if count = 0 then none else some ⟨true⟩ := by
  induction count with
  | zero => exact ⟨_, rfl, rfl, rfl, rfl⟩
  | succ count ih =>
      rcases ih with ⟨reached, ran, live, users, socket⟩
      have unused : count ∉ reached.live := by
        rw [live]
        exact Finset.notMem_range_self
      rw [crowd, run_append, ran]
      simp only [Option.bind_some, run, Module.step, if_neg unused, Finset.mem_insert_self,
        if_true, Function.update_self]
      refine ⟨_, rfl, ?_, ?_⟩
      · rw [live, Finset.range_add_one]
      · by_cases first : count = 0
        · subst first
          simp [openNetlink, socket, users, LibnlOutcome.success]
        · simp [openNetlink, socket, users, first, newEtherInfo, PyEtherInfo.cleared]

/-- With `2 ^ 32` users the counter is back at zero while the connection is
open. -/
theorem inconsistent_crowd :
    (forall action, action ∈ crowd (2 ^ 32) -> action.Connects) ∧
      ∃ last, run Module.step (Module.initial (fun _ => .cleared)) (crowd (2 ^ 32)) = some last ∧
        last.shared.nlconnection.isSome ∧ last.shared.nlconnectionUsers = 0 ∧
        ¬ last.Consistent := by
  refine ⟨crowd_connects (2 ^ 32), ?_⟩
  rcases run_crowd (2 ^ 32) with ⟨last, ran, _, users, socket⟩
  have connected : last.shared.nlconnection.isSome := by
    rw [socket, if_neg (by decide)]
    rfl
  have wrapped : last.shared.nlconnectionUsers = 0 := by
    rw [users]
    rfl
  refine ⟨last, ran, connected, wrapped, ?_⟩
  intro consistent
  have positive := consistent.1.mp connected
  rw [wrapped] at positive
  exact Nat.lt_irrefl 0 positive

end Module

end Netlink
end PythonEthtool
