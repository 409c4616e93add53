import PythonEthtool.Netlink.AddressObject

namespace PythonEthtool
namespace Netlink

open Foundations
open Python

/-!
# The error label of the address constructor

Where the constructor jumps to its label, the label drops the object as far
as it has been built.  Deallocation reads all four references and follows the
address without a check.  What is asked here is that it finds each of them
assigned and the address there, and that an object that is returned has what
an address object should have.

The scope is assigned last and its statement never jumps, so no jump finds it
assigned.  The statement for the peer jumps on the wrong condition, and the
last one has no test at all; after a failure of these the constructor
succeeds with the string missing.
-/

/-- Every field that deallocation reads has been assigned, and the address is
not NULL. -/
structure PartialAddress.Droppable (memory : PartialAddress) : Prop where
  assigned : forall field : Reference, (memory.read field).isSome
  local_ : memory.local_ ≠ some none

/-- Dropping the object meets no fault precisely if it can be dropped. -/
theorem PartialAddress.droppable_iff {memory : PartialAddress} :
    memory.Droppable ↔ ∃ strings, netlinkIpAddressDealloc memory.read = .ok strings := by
  rw [netlinkIpAddressDealloc_ok_iff]
  exact ⟨fun droppable => ⟨droppable.assigned, droppable.local_⟩, fun ok => ⟨ok.1, ok.2⟩⟩

/-- The constructor leaves no object in a bad state: what its label drops can
be dropped, and what it returns has its address, its prefix and its scope,
and its peer if the record has one. -/
structure SafeConstruction (addr : RtnlAddr) (attempt : Attempt) : Prop where
  dropped : forall memory, attempt.dropped = some memory -> memory.Droppable
  local_ : forall memory, attempt.returned = some memory -> ∃ value,
    memory.local_ = some (some value)
  prefixlen : forall memory, attempt.returned = some memory -> memory.prefixlen.isSome
  scope : forall memory, attempt.returned = some memory -> ∃ value,
    memory.scope = some (some value)
  peer : forall memory, attempt.returned = some memory -> addr.peer.isSome -> ∃ value,
    memory.peer = some (some value)

section Finished

variable {text : AddressText} {addr : RtnlAddr} {building : Building}

theorem finished_peer_iff (present : addr.peer.isSome) :
    (∃ value, (finished text addr building).peer = some value) ↔ building.strPeer = true := by
  rcases Option.isSome_iff_exists.mp present with ⟨peer, found⟩
  simp only [finished, peerText, found]
  cases building.strPeer <;> simp

theorem finished_scope_iff :
    (∃ value, (finished text addr building).scope = some value) ↔ building.strScope = true := by
  simp only [finished]
  cases building.strScope <;> simp

/-- A finished object has what it should have if no string is missing. -/
theorem finished_safe_iff {pending : Option PyError} :
    SafeConstruction addr
        { returned := some (.ofMade (finished text addr building))
          dropped := none
          pending := pending } ↔
      building.lacksString addr = false := by
  have strings : building.lacksString addr = false ↔
      (addr.peer.isSome -> building.strPeer = true) ∧ building.strScope = true := by
    unfold Building.lacksString
    cases building.strScope <;> cases building.strPeer <;> cases addr.peer <;> simp
  rw [strings]
  constructor
  · intro safe
    have scope := safe.scope _ rfl
    simp only [HalfBuilt.ofMade, Option.some.injEq] at scope
    refine ⟨fun present => ?_, finished_scope_iff.mp scope⟩
    have peer := safe.peer _ rfl present
    simp only [HalfBuilt.ofMade, Option.some.injEq] at peer
    exact (finished_peer_iff present).mp peer
  · rintro ⟨peer, scope⟩
    constructor
    · intro memory same
      cases same
    · intro memory same
      cases same
      exact ⟨_, rfl⟩
    · intro memory same
      cases same
      rfl
    · intro memory same
      cases same
      simp only [HalfBuilt.ofMade, Option.some.injEq]
      exact finished_scope_iff.mpr scope
    · intro memory same present
      cases same
      simp only [HalfBuilt.ofMade, Option.some.injEq]
      exact (finished_peer_iff present).mpr (peer present)

end Finished

/-- The constructor leaves no bad object precisely if there is none, or if no
call fails that it makes for the record. -/
theorem safeConstruction_iff (text : AddressText) (addr : RtnlAddr) (building : Building)
    (pending : Option PyError) :
    SafeConstruction addr (pyNetlinkIPaddressFromRtnlAddr text addr building pending) ↔
      building.newObject = false ∨ (addr.Supported ∧ ¬ building.Raises addr) := by
  rw [clean_iff]
  cases allocated : building.newObject with
  | false =>
      rw [attempt_unallocated text pending allocated]
      simp only [true_or, iff_true]
      constructor <;> rintro memory same <;> cases same
  | true =>
      simp only [Bool.true_eq_false, false_or, true_and]
      by_cases onward : building.Onward addr
      · rw [attempt_finished text pending allocated onward, finished_safe_iff]
        exact ⟨fun complete => ⟨onward, complete⟩, And.right⟩
      · constructor
        · intro safe
          rcases @attempt_jumped text addr building pending allocated onward with
            ⟨memory, _, dropped, unassigned⟩
          have assigned := (safe.dropped memory dropped).assigned .scope
          rw [PartialAddress.read, unassigned] at assigned
          cases assigned
        · rintro ⟨fine, _⟩
          exact absurd fine onward

/-- The string of the broadcast address is not made: the scope is dropped
without ever having been assigned. -/
theorem drops_unassigned_scope :
    ¬ SafeConstruction eth0Addr
      (pyNetlinkIPaddressFromRtnlAddr plainText eth0Addr
        { Building.success with strBroadcast := false } none) := by
  intro safe
  have assigned := (safe.dropped _ rfl).assigned .scope
  cases assigned

/-- An object that has been made is dropped as the object in the hands of a
script is. -/
theorem HalfBuilt.dealloc_ofMade (made : PyNetlinkIPaddress) :
    (netlinkIpAddressDealloc (HalfBuilt.ofMade made).read).map (List.map PyValue.str) =
      (AddressObject.ofMade made).dealloc := by
  rcases made with ⟨family, address, peer, broadcast, prefixlen, scope⟩
  cases peer <;> cases broadcast <;> cases scope <;> rfl

end Netlink
end PythonEthtool
