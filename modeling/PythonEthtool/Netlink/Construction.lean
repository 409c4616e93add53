import PythonEthtool.Netlink.Addresses

namespace PythonEthtool
namespace Netlink

open Foundations
open Python

/-!
# How the address constructor ends

There are three ends.  Without memory for the object there is none, and an
exception.  Where no statement jumps, the object is finished, and only the
strings for the peer and for the scope may be missing in it, with an
exception.  And where a statement jumps, dropping the object meets a fault:
the scope is assigned last, so at no jump has it been assigned.
-/

/-- The families that have address objects. -/
def RtnlAddr.Supported (addr : RtnlAddr) : Prop :=
  addr.family = AF_INET ∨ addr.family = AF_INET6

instance (addr : RtnlAddr) : Decidable addr.Supported :=
  inferInstanceAs (Decidable (_ ∨ _))

/-- No call fails after which the constructor jumps. -/
structure Building.Onward (building : Building) (addr : RtnlAddr) : Prop where
  supported : addr.Supported
  local_ : building.ntopLocal = none ∧ building.strLocal = true
  broadcast : addr.family = AF_INET -> addr.broadcast.isSome ->
    building.ntopBroadcast = none ∧ building.strBroadcast = true

/-- One of the calls that the constructor makes for this record fails. -/
def Building.Raises (building : Building) (addr : RtnlAddr) : Prop :=
  building.newObject = false ∨ building.ntopLocal.isSome ∨ building.strLocal = false ∨
    (addr.peer.isSome ∧ building.strPeer = false) ∨
    (addr.family = AF_INET ∧ addr.broadcast.isSome ∧
      (building.ntopBroadcast.isSome ∨ building.strBroadcast = false)) ∨
    building.strScope = false

instance (building : Building) (addr : RtnlAddr) : Decidable (building.Raises addr) :=
  inferInstanceAs (Decidable (_ ∨ _))

/-- The text of the broadcast address, which only IPv4 has. -/
def broadcastText (text : AddressText) (addr : RtnlAddr) : Option String :=
  if addr.family = AF_INET then
    addr.broadcast.map (fun broadcast => text.inetNtop AF_INET broadcast.binary)
  else none

def peerText (text : AddressText) (addr : RtnlAddr) : Option String :=
  addr.peer.map (fun peer => text.nlAddr2str (some peer) sizeofBuf)

/-- The object with the data of a record. -/
def addressOf (text : AddressText) (addr : RtnlAddr) : PyNetlinkIPaddress where
  family := addr.family
  local_ := text.inetNtop addr.family addr.local_.binary
  peer := peerText text addr
  ipv4Broadcast := broadcastText text addr
  prefixlen := addr.prefixlen
  scope := some (text.rtnlScope2str addr.scope)

/-- The object when no statement jumps: two of its strings may be missing. -/
def finished (text : AddressText) (addr : RtnlAddr) (building : Building) :
    PyNetlinkIPaddress :=
  { addressOf text addr with
    peer := if building.strPeer then peerText text addr else none
    scope := if building.strScope then some (text.rtnlScope2str addr.scope) else none }

/-- The string for the peer or that for the scope is not made. -/
def Building.lacksString (building : Building) (addr : RtnlAddr) : Bool :=
  (addr.peer.isSome && !building.strPeer) || !building.strScope

/-- The exception behind a finished object. -/
def finishedPending (addr : RtnlAddr) (building : Building) (pending : Option PyError) :
    Option PyError :=
  if building.lacksString addr then some noMemory else pending

/-! ## One statement after the other -/

section Stages

variable {text : AddressText} {addr : RtnlAddr} {building : Building}
  {state next : Constructing}

theorem setFamily_ok_iff :
    setFamily addr state = .ok next ↔
      addr.Supported ∧
        next = { state with memory := { state.memory with family := some addr.family } } := by
  rw [setFamily, RtnlAddr.Supported]
  by_cases other : addr.family ≠ AF_INET ∧ addr.family ≠ AF_INET6
  · rw [if_pos other]
    simp [other]
  · rw [if_neg other]
    rw [not_and_or, not_not, not_not] at other
    rw [Except.ok.injEq, eq_comm]
    exact ⟨fun same => ⟨other, same⟩, And.right⟩

theorem setLocal_ok_iff :
    setLocal text addr building state = .ok next ↔
      (building.ntopLocal = none ∧ building.strLocal = true) ∧
        next =
          { state with
            memory :=
              { state.memory with
                local_ := some (some (text.inetNtop addr.family addr.local_.binary)) } } := by
  rw [setLocal]
  cases building.ntopLocal with
  | some errno => simp
  | none =>
      cases building.strLocal with
      | false => simp [pyStr]
      | true =>
          simp only [pyStr, if_true, reduceCtorEq, if_false, Except.ok.injEq, true_and]
          exact eq_comm

/-- Behind the statement for the address, the one for the peer goes on. -/
theorem setPeer_eq {value : String} (held : state.memory.local_ = some (some value)) :
    setPeer text addr building state =
      .ok
        { memory :=
            { state.memory with
              peer := some (if building.strPeer then peerText text addr else none) }
          pending :=
            if addr.peer.isSome ∧ building.strPeer = false then some noMemory
            else state.pending } := by
  rw [setPeer, peerText]
  cases addr.peer with
  | none => simp
  | some peer =>
      simp only [held, Option.some.injEq, reduceCtorEq, if_false]
      cases building.strPeer with
      | false => simp [pyStr]
      | true => simp [pyStr]

theorem setIpv4Broadcast_ok_iff (known : state.memory.family = some addr.family) :
    setIpv4Broadcast text addr building state = .ok next ↔
      (addr.family = AF_INET -> addr.broadcast.isSome ->
          building.ntopBroadcast = none ∧ building.strBroadcast = true) ∧
        next =
          { state with
            memory := { state.memory with ipv4Broadcast := some (broadcastText text addr) } } := by
  rw [setIpv4Broadcast, broadcastText]
  simp only [known, Option.some.injEq]
  by_cases inet : addr.family = AF_INET
  · rw [if_pos inet, if_pos inet]
    cases addr.broadcast with
    | none =>
        simp only [Option.isSome_none, Bool.false_eq_true, false_implies, implies_true, true_and,
          Option.map_none, Except.ok.injEq]
        exact eq_comm
    | some broadcast =>
        cases building.ntopBroadcast with
        | some errno => simp [inet]
        | none =>
            cases building.strBroadcast with
            | false => simp [inet, pyStr]
            | true =>
                simp only [pyStr, if_true, reduceCtorEq, if_false, and_self, implies_true,
                  true_and, Option.map_some, Except.ok.injEq]
                exact eq_comm
  · rw [if_neg inet, if_neg inet]
    simp only [inet, false_implies, true_and, Except.ok.injEq]
    exact eq_comm

end Stages

/-! ## All of them -/

section Construction

variable (text : AddressText) (addr : RtnlAddr) (building : Building)
  (pending : Option PyError)

/-- The constructor reaches its end precisely if no call fails after which it
jumps. -/
theorem construction_ok_iff {built : Constructing} :
    runStages (construction text addr building) { memory := .allocated, pending := pending } =
        .ok built ↔
      building.Onward addr ∧
        built =
          { memory := .ofMade (finished text addr building)
            pending := finishedPending addr building pending } := by
  have leaves : (pyStr building.strScope (text.rtnlScope2str addr.scope)
      (if addr.peer.isSome ∧ building.strPeer = false then some noMemory else pending)).2 =
        finishedPending addr building pending := by
    unfold finishedPending Building.lacksString
    cases building.strScope <;> cases building.strPeer <;> cases addr.peer <;> rfl
  rw [construction, beforeScope]
  simp only [List.cons_append, List.nil_append, runStages_ok_iff]
  constructor
  · rintro ⟨family, setsFamily, address, setsLocal, peer, setsPeer, prefixed, setsPrefixlen,
      broadcast, setsBroadcast, scope, setsScope, ends⟩
    rcases setFamily_ok_iff.mp setsFamily with ⟨supported, rfl⟩
    rcases setLocal_ok_iff.mp setsLocal with ⟨made, rfl⟩
    rw [setPeer_eq rfl] at setsPeer
    cases setsPeer
    cases setsPrefixlen
    rcases (setIpv4Broadcast_ok_iff rfl).mp setsBroadcast with ⟨converts, rfl⟩
    cases setsScope
    cases ends
    refine ⟨⟨supported, made, converts⟩, ?_⟩
    simp only [leaves, pyStr_fst]
    rfl
  · rintro ⟨onward, rfl⟩
    refine ⟨_, setFamily_ok_iff.mpr ⟨onward.supported, rfl⟩,
      _, setLocal_ok_iff.mpr ⟨onward.local_, rfl⟩, _, setPeer_eq rfl, _, rfl,
      _, (setIpv4Broadcast_ok_iff rfl).mpr ⟨onward.broadcast, rfl⟩, _, rfl, ?_⟩
    simp only [leaves, pyStr_fst, runStages]
    rfl

/-- No statement before the last assigns the scope. -/
theorem beforeScope_keeps :
    forall stage, stage ∈ beforeScope text addr building ->
      Stage.Keeps (fun state : Constructing => state.memory.scope = none) stage := by
  intro stage member state unassigned
  simp only [beforeScope, List.mem_cons, List.not_mem_nil, or_false] at member
  rcases member with rfl | rfl | rfl | rfl | rfl
  · rw [setFamily]
    split <;> exact unassigned
  · rw [setLocal]
    split
    · exact unassigned
    · dsimp only
      split <;> exact unassigned
  · rw [setPeer]
    split
    · exact unassigned
    · dsimp only
      split <;> exact unassigned
  · exact unassigned
  · rw [setIpv4Broadcast]
    split
    · split
      · exact unassigned
      · split
        · exact unassigned
        · dsimp only
          split <;> exact unassigned
    · exact unassigned

/-- At every jump the scope is unassigned. -/
theorem scope_unassigned {stopped : Constructing}
    (jumped : runStages (construction text addr building)
      { memory := .allocated, pending := pending } = .error stopped) :
    stopped.memory.scope = none := by
  have before := runStages_jump_before (fun _ => ⟨_, rfl⟩) jumped
  have unassigned := runStages_keeps (beforeScope_keeps text addr building)
    { memory := .allocated, pending := pending } rfl
  rw [before, reached] at unassigned
  exact unassigned

end Construction

/-! ## The three ends -/

section Ends

variable (text : AddressText) {addr : RtnlAddr} {building : Building} (pending : Option PyError)

theorem attempt_unallocated (unallocated : building.newObject = false) :
    pyNetlinkIPaddressFromRtnlAddr text addr building pending =
      { returned := none, dropped := none, pending := some noMemory } := by
  rw [pyNetlinkIPaddressFromRtnlAddr, unallocated]
  rfl

theorem attempt_finished (allocated : building.newObject = true)
    (onward : building.Onward addr) :
    pyNetlinkIPaddressFromRtnlAddr text addr building pending =
      { returned := some (.ofMade (finished text addr building))
        dropped := none
        pending := finishedPending addr building pending } := by
  rw [pyNetlinkIPaddressFromRtnlAddr, if_pos allocated,
    (construction_ok_iff text addr building pending).mpr ⟨onward, rfl⟩]

/-- Otherwise the label gets an object whose scope was never assigned. -/
theorem attempt_jumped (allocated : building.newObject = true)
    (jumps : ¬ building.Onward addr) :
    ∃ memory, (pyNetlinkIPaddressFromRtnlAddr text addr building pending).returned = none ∧
      (pyNetlinkIPaddressFromRtnlAddr text addr building pending).dropped = some memory ∧
      memory.scope = none := by
  rw [pyNetlinkIPaddressFromRtnlAddr, if_pos allocated]
  cases result : runStages (construction text addr building)
      { memory := .allocated, pending := pending } with
  | ok built => exact absurd ((construction_ok_iff text addr building pending).mp result).1 jumps
  | error stopped => exact ⟨_, rfl, rfl, scope_unassigned text addr building pending result⟩

/-- Dropping it meets a fault. -/
theorem dealloc_of_scope_unassigned {memory : PartialAddress} (unassigned : memory.scope = none) :
    ∃ fault, netlinkIpAddressDealloc memory.read = .error fault := by
  cases outcome : netlinkIpAddressDealloc memory.read with
  | error fault => exact ⟨fault, rfl⟩
  | ok values =>
      have assigned := ((netlinkIpAddressDealloc_ok_iff memory.read).mp ⟨values, outcome⟩).1 .scope
      rw [PartialAddress.read, unassigned] at assigned
      cases assigned

/-- What becomes of a record: no object for want of memory, a finished one, or
a fault. -/
theorem makePythonAddress_cases (supported : addr.Supported) :
    (building.newObject = false ∧
        makePythonAddressFromRtnlAddr text addr building pending =
          .ok { object := none, pending := some noMemory }) ∨
      (building.newObject = true ∧ building.Onward addr ∧
        makePythonAddressFromRtnlAddr text addr building pending =
          .ok
            { object := some (finished text addr building)
              pending := finishedPending addr building pending }) ∨
      (building.newObject = true ∧ ¬ building.Onward addr ∧
        ∃ fault, makePythonAddressFromRtnlAddr text addr building pending = .error fault) := by
  have entered : makePythonAddressFromRtnlAddr text addr building pending =
      (pyNetlinkIPaddressFromRtnlAddr text addr building pending).outcome := if_pos supported
  rw [entered]
  cases allocated : building.newObject with
  | false =>
      rw [attempt_unallocated text pending allocated]
      exact Or.inl ⟨rfl, rfl⟩
  | true =>
      by_cases onward : building.Onward addr
      · rw [attempt_finished text pending allocated onward]
        exact Or.inr (Or.inl ⟨rfl, onward, rfl⟩)
      · refine Or.inr (Or.inr ⟨rfl, onward, ?_⟩)
        rcases @attempt_jumped text addr building pending allocated onward with
          ⟨memory, _, dropped, unassigned⟩
        rcases dealloc_of_scope_unassigned unassigned with ⟨fault, faults⟩
        refine ⟨fault, ?_⟩
        rw [Attempt.outcome, dropped]
        simp only [faults]
        rfl

end Ends

/-! ## Failing calls -/

section Raises

variable (text : AddressText) {addr : RtnlAddr} {building : Building} (pending : Option PyError)

/-- No call fails precisely if there is an object, no statement jumps and no
string is missing. -/
theorem clean_iff :
    (addr.Supported ∧ ¬ building.Raises addr) ↔
      building.newObject = true ∧ building.Onward addr ∧ building.lacksString addr = false := by
  have strings : building.lacksString addr = false ↔
      (addr.peer.isSome -> building.strPeer = true) ∧ building.strScope = true := by
    unfold Building.lacksString
    cases building.strScope <;> cases building.strPeer <;> cases addr.peer <;> simp
  rw [strings]
  simp only [Building.Raises, not_or, not_and, Bool.not_eq_false, Option.not_isSome_iff_eq_none]
  constructor
  · rintro ⟨supported, allocated, converted, memory, peer, broadcast, scope⟩
    exact ⟨allocated, ⟨supported, ⟨converted, memory⟩, broadcast⟩, peer, scope⟩
  · rintro ⟨allocated, onward, peer, scope⟩
    exact ⟨onward.supported, allocated, onward.local_.1, onward.local_.2, peer, onward.broadcast,
      scope⟩

theorem finished_of_clean (complete : building.lacksString addr = false) :
    finished text addr building = addressOf text addr := by
  unfold Building.lacksString at complete
  unfold finished addressOf peerText
  cases peer : addr.peer with
  | none =>
      rw [peer] at complete
      have scope : building.strScope = true := by simpa using complete
      simp [scope]
  | some value =>
      rw [peer] at complete
      have both : building.strPeer = true ∧ building.strScope = true := by
        simpa [Bool.or_eq_false_iff] using complete
      simp [both]

/-- Where no call fails, the record has its object and nothing new is
pending. -/
theorem makePythonAddress_clean (supported : addr.Supported)
    (clean : ¬ building.Raises addr) :
    makePythonAddressFromRtnlAddr text addr building pending =
      .ok { object := some (addressOf text addr), pending := pending } := by
  rcases clean_iff.mp ⟨supported, clean⟩ with ⟨allocated, onward, complete⟩
  rcases @makePythonAddress_cases text addr building pending supported with
    ⟨unallocated, _⟩ | ⟨_, _, made⟩ | ⟨_, jumps, _⟩
  · rw [allocated] at unallocated
    cases unallocated
  · rw [made, finished_of_clean text complete, finishedPending, complete]
    rfl
  · exact absurd onward jumps

/-- An exception stays pending, and a record whose calls fail leaves one. -/
theorem makePythonAddress_pending (supported : addr.Supported)
    {made : Made} (returns : makePythonAddressFromRtnlAddr text addr building pending = .ok made)
    (failing : pending.isSome ∨ building.Raises addr) : made.pending.isSome := by
  rcases @makePythonAddress_cases text addr building pending supported with
    ⟨_, outcome⟩ | ⟨allocated, onward, outcome⟩ | ⟨_, _, fault, outcome⟩
  · rw [outcome] at returns
    cases returns
    rfl
  · rw [outcome] at returns
    cases returns
    rcases failing with earlier | raises
    · rw [finishedPending]
      split
      · rfl
      · exact earlier
    · have lacks : building.lacksString addr = true := by
        by_contra complete
        exact (clean_iff.mpr ⟨allocated, onward, Bool.eq_false_of_not_eq_true complete⟩).2 raises
      rw [finishedPending, if_pos lacks]
      rfl
  · rw [outcome] at returns
    cases returns

end Raises

end Netlink
end PythonEthtool
