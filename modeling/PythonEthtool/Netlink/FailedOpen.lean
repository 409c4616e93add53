import PythonEthtool.Netlink.UserCount

namespace PythonEthtool
namespace Netlink

open Foundations

/-!
# Opening that fails

`open_netlink` stores the allocated socket in the global before it tries to
connect, and returns 0 without taking it back when `nl_connect` fails.  The
next call, by any object, then finds a socket and takes it for an
established connection; the counter is still zero, so a deallocation in
between wraps it.

No such thing happens in a run where every socket that is allocated also
connects.  Failures of the allocation itself are harmless: they leave the
shared state and the tag as they were.
-/

namespace Module

/-- What is expected of one step.  An open that reports failure changes
nothing and leaves the next one to connect again; an open that reports
success has a connected socket; no decrement happens at zero. -/
def SoundStep (state : Module) (action : Action) (next : Module) : Prop :=
  match action with
  | .create _ _ _ => True
  | .query address libnl =>
      ((openNetlink state.shared (state.object address) libnl).returned = false ->
        next.shared = state.shared ∧
          (next.object address).nlcActive = (state.object address).nlcActive ∧
          next.shared.nlconnection = none) ∧
      ((openNetlink state.shared (state.object address) libnl).returned = true ->
        next.shared.nlconnection = some ⟨true⟩)
  | .dealloc _ =>
      state.shared.nlconnection.isSome -> 0 < state.shared.nlconnectionUsers.toNat

/-- A socket that this step allocates also connects. -/
def AllocatedConnects (state : Module) (action : Action) (_next : Module) : Prop :=
  match action with
  | .query _ libnl =>
      state.shared.nlconnection = none -> libnl.socketAlloc = true -> 0 ≤ libnl.connect
  | _ => True

/-- The global holds a connected socket exactly while the counter is
positive. -/
def Connected (state : Module) : Prop :=
  state.OpenWhileUsed ∧
    forall socket, state.shared.nlconnection = some socket -> socket = ⟨true⟩

variable {state next : Module}

theorem Connected.initial (memory : Nat -> PyEtherInfo) :
    (Module.initial memory).Connected := by
  refine ⟨(Consistent.initial memory).1, ?_⟩
  intro socket found
  cases found

theorem Connected.query {address : Nat} {libnl : LibnlOutcome} (connected : state.Connected)
    (connects : state.AllocatedConnects (.query address libnl) next)
    (room : state.RoomForUser (.query address libnl) next)
    (taken : state.step (.query address libnl) = some next) :
    next.Connected ∧ state.SoundStep (.query address libnl) next := by
  rcases step_query taken with ⟨_, shared, object, _⟩
  rcases openNetlink_cases state.shared (state.object address) libnl rfl with
    ⟨present, _, returned, sharedEq, _⟩ | ⟨present, inactive, returned, sharedEq, _⟩ |
    ⟨absent, _, _, returned, sharedEq, _⟩ | ⟨absent, allocated, failed, _⟩ |
    ⟨absent, _, returned, sharedEq, ethiEq⟩
  · rcases Option.isSome_iff_exists.mp present with ⟨socket, found⟩
    rw [sharedEq] at shared
    simp only [Connected, OpenWhileUsed, SoundStep, shared, returned]
    exact ⟨connected, by simp, fun _ => (connected.2 socket found) ▸ found⟩
  · rcases Option.isSome_iff_exists.mp present with ⟨socket, found⟩
    rw [sharedEq] at shared
    have space : state.shared.nlconnectionUsers.toNat + 1 < 2 ^ 32 :=
      room.resolve_left (fun active => active inactive)
    simp only [Connected, OpenWhileUsed, SoundStep, shared, returned, toNat_succ_users space]
    exact ⟨⟨by simp [present], connected.2⟩, by simp,
      fun _ => (connected.2 socket found) ▸ found⟩
  · rw [sharedEq] at shared
    have zero := connected.1.users_zero absent
    have space : state.shared.nlconnectionUsers.toNat + 1 < 2 ^ 32 := by
      rw [zero]
      decide
    simp only [Connected, OpenWhileUsed, SoundStep, shared, returned, toNat_succ_users space]
    exact ⟨⟨by simp, by simp⟩, by simp, fun _ => trivial⟩
  · exact absurd (connects absent allocated) (Int.not_le.mpr failed)
  · rw [sharedEq] at shared
    rw [ethiEq] at object
    simp only [Connected, OpenWhileUsed, SoundStep, shared, object, returned]
    exact ⟨connected, fun _ => ⟨trivial, trivial, absent⟩, by simp⟩

theorem Connected.dealloc {address : Nat} (connected : state.Connected)
    (taken : state.step (.dealloc address) = some next) : next.Connected := by
  rcases Option.eq_none_or_eq_some state.shared.nlconnection with closed | ⟨socket, found⟩
  · have shared := step_dealloc_closed closed taken
    simp only [Connected, OpenWhileUsed, shared]
    exact connected
  · have present : state.shared.nlconnection.isSome := by rw [found]; rfl
    refine ⟨(step_dealloc_counted present (connected.1.mp present) taken).2, ?_⟩
    intro left kept
    rcases closeNetlink_cases state.shared (state.object address) with closed | ⟨_, _, socketEq⟩
    · simp [closed.1] at present
    · rw [← (step_dealloc taken).2.1, kept] at socketEq
      split at socketEq
      · cases socketEq
      · exact connected.2 left socketEq.symm

theorem Connected.step {action : Action} (connected : state.Connected)
    (connects : state.AllocatedConnects action next) (room : state.RoomForUser action next)
    (taken : state.step action = some next) :
    next.Connected ∧ state.SoundStep action next := by
  cases action with
  | create address memory device =>
      have shared := (step_create taken).1
      simp only [Connected, OpenWhileUsed, shared]
      exact ⟨connected, trivial⟩
  | query address libnl => exact connected.query connects room taken
  | dealloc address => exact ⟨connected.dealloc taken, connected.1.mp⟩

/-- A socket that does not connect stays behind, so its step is not sound. -/
theorem SoundStep.allocatedConnects {action : Action} (sound : state.SoundStep action next)
    (taken : state.step action = some next) : state.AllocatedConnects action next := by
  cases action with
  | create address memory device => trivial
  | dealloc address => trivial
  | query address libnl =>
      intro absent allocated
      by_contra negative
      have failed : libnl.connect < 0 := Int.not_le.mp negative
      have opened : openNetlink state.shared (state.object address) libnl =
          { returned := false
            shared := { state.shared with nlconnection := some ⟨false⟩ }
            ethi := state.object address
            stderr := "" } := by
        simp [openNetlink, absent, allocated, failed]
      have restored := sound.1 (by rw [opened])
      have stored := (step_query taken).2.1
      rw [opened] at stored
      have left := restored.2.2
      rw [stored] at left
      cases left

/-- In every run in which allocated sockets connect, and the counter has
room for each new user, every step is sound.  Conversely a run of sound
steps has no socket that fails to connect. -/
theorem sound_runs (memory : Nat -> PyEtherInfo) (actions : List Action) :
    (EachStep Module.step
        (fun before action after =>
          before.AllocatedConnects action after ∧ before.RoomForUser action after)
        (Module.initial memory) actions ->
      EachStep Module.step SoundStep (Module.initial memory) actions) ∧
    (EachStep Module.step SoundStep (Module.initial memory) actions ->
      EachStep Module.step AllocatedConnects (Module.initial memory) actions) := by
  constructor
  · intro guarded
    exact eachStep_of_guarded
      (fun _ _ _ taken connected guard => (connected.step guard.1 guard.2 taken).1)
      (fun _ _ _ taken connected guard => (connected.step guard.1 guard.2 taken).2)
      (Connected.initial memory) guarded
  · intro sound
    exact sound.mono (fun _ _ _ taken step => step.allocatedConnects taken)

/-- One refused connection.  The failed open leaves its socket in the
global, a second object is then told that it is connected, and if instead
the first object goes away the counter wraps. -/
theorem unsound_refused_connection :
    ¬ EachStep Module.step SoundStep (Module.initial (fun _ => .cleared))
        [.create 0 .cleared eth0, .query 0 .refused] ∧
      (∃ last, run Module.step (Module.initial (fun _ => .cleared))
          [.create 0 .cleared eth0, .query 0 .refused, .create 1 .cleared eth0,
            .query 1 .success] = some last ∧
        last.shared.nlconnection = some ⟨false⟩ ∧ last.tagged = {1}) ∧
      ∃ last, run Module.step (Module.initial (fun _ => .cleared))
          [.create 0 .cleared eth0, .query 0 .refused, .dealloc 0] = some last ∧
        last.shared.nlconnectionUsers.toNat = 2 ^ 32 - 1 := by
  refine ⟨?_, ⟨_, rfl, rfl, by decide⟩, ⟨_, rfl, by decide⟩⟩
  intro sound
  have restored := ((sound _ rfl).2 _ rfl).1.1 rfl
  exact absurd restored.2.2 (by decide)

end Module

end Netlink
end PythonEthtool
