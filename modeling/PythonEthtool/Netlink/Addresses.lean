import PythonEthtool.Foundations.Stages
import PythonEthtool.Netlink.DeviceIndex

namespace PythonEthtool
namespace Netlink

open Foundations
open Python

/-!
# Address objects

`netlink-address.c` turns one record of an address dump into a Python object.
`PyObject_New` does not clear the fields of the object.  The constructor
assigns them one after the other, and where a call fails it jumps to a label
that drops the object as far as it has been built.  Deallocation then reads
all four references: three of them may be NULL, the address may not.

The constructor is its statements in their order, on memory that tells apart
a field that is NULL and one that was never assigned.  The statement for the
peer tests the field `local` again in the place of its own, and the one for
the scope has no test at all, so those two failures leave an exception behind
a finished object.  Where C leaves the behaviour undefined, at a field that
was never assigned or at a NULL that is followed, there is no result.

The texts that libc and libnl make of an address or a scope are arguments, and
so are the outcomes of the calls that can fail.  All texts go through one
buffer, which is cleared before each of them and written from its start, so a
text never carries over into the next field.
-/

def AF_INET : Int :=
  2

def AF_INET6 : Int :=
  10

/-- An abstract address of libnl: its family, its bytes and the length of its
prefix in bits. -/
structure NlAddr where
  family : Int
  binary : List UInt8
  prefixlen : Nat
  deriving DecidableEq

/-- One record of an address cache. -/
structure RtnlAddr where
  ifindex : Int
  family : Int
  local_ : NlAddr
  peer : Option NlAddr
  prefixlen : Int
  broadcast : Option NlAddr
  scope : Int
  deriving DecidableEq

/-- The text of an address by `inet_ntop`, that of an address or of no address
by `nl_addr2str` within so many bytes, and that of a scope by
`rtnl_scope2str`. -/
structure AddressText where
  inetNtop : Int -> List UInt8 -> String
  nlAddr2str : Option NlAddr -> Nat -> String
  rtnlScope2str : Int -> String

/-- How the calls made for one record come out: the error number of a failing
`inet_ntop`, and whether there was memory for an object or a string.  `errno`
is what the variable holds beforehand. -/
structure Building where
  errno : Int
  newObject : Bool
  ntopLocal : Option Int
  strLocal : Bool
  strPeer : Bool
  ntopBroadcast : Option Int
  strBroadcast : Bool
  strScope : Bool
  deriving DecidableEq

/-- Every call succeeds. -/
def Building.success : Building where
  errno := 0
  newObject := true
  ntopLocal := none
  strLocal := true
  strPeer := true
  ntopBroadcast := none
  strBroadcast := true
  strScope := true

def noMemory : PyError :=
  ⟨.memoryError, .text ""⟩

def unsupportedFamily : PyError :=
  ⟨.runtimeError,
    .text "Only IPv4 (AF_INET) and IPv6 (AF_INET6) address types are supported"⟩

/-- `sizeof(buf)`, which is `INET6_ADDRSTRLEN+1`. -/
def sizeofBuf : Nat :=
  47

/-! ## The object as memory -/

/-- The fields of the object that are references. -/
inductive Reference where
  | local_
  | peer
  | ipv4Broadcast
  | scope
  deriving DecidableEq

/-- What goes wrong: a field is used that nothing has assigned, a NULL is
followed, or a variable for a cache is freed that nothing has assigned. -/
inductive Fault where
  | uninitialised (field : Reference)
  | null (field : Reference)
  | unfilledCache
  deriving DecidableEq

/-- The references of an object under construction.  The outer `none` is a
field that nothing has written since the allocation, the inner one is NULL. -/
structure PartialAddress where
  local_ : Option (Option String)
  peer : Option (Option String)
  ipv4Broadcast : Option (Option String)
  scope : Option (Option String)
  deriving DecidableEq

def PartialAddress.allocated : PartialAddress where
  local_ := none
  peer := none
  ipv4Broadcast := none
  scope := none

def PartialAddress.read (memory : PartialAddress) : Reference -> Option (Option String)
  | .local_ => memory.local_
  | .peer => memory.peer
  | .ipv4Broadcast => memory.ipv4Broadcast
  | .scope => memory.scope

/-- The object while it is built. -/
structure HalfBuilt extends PartialAddress where
  family : Option Int
  prefixlen : Option Int
  deriving DecidableEq

/-- The object as `PyObject_New` returns it. -/
def HalfBuilt.allocated : HalfBuilt where
  toPartialAddress := .allocated
  family := none
  prefixlen := none

/-- The object when every field has been assigned, NULL fields as `none`. -/
structure PyNetlinkIPaddress where
  family : Int
  local_ : String
  peer : Option String
  ipv4Broadcast : Option String
  prefixlen : Int
  scope : Option String
  deriving DecidableEq

/-- The memory of an object that has been made. -/
def HalfBuilt.ofMade (made : PyNetlinkIPaddress) : HalfBuilt where
  family := some made.family
  local_ := some (some made.local_)
  peer := some made.peer
  ipv4Broadcast := some made.ipv4Broadcast
  prefixlen := some made.prefixlen
  scope := some made.scope

/-- The memory as an object, where it is one. -/
def HalfBuilt.made? (memory : HalfBuilt) : Option PyNetlinkIPaddress := do
  let family ← memory.family
  let address ← memory.local_
  let address ← address
  let peer ← memory.peer
  let ipv4Broadcast ← memory.ipv4Broadcast
  let prefixlen ← memory.prefixlen
  let scope ← memory.scope
  return ⟨family, address, peer, ipv4Broadcast, prefixlen, scope⟩

/-! ## Deallocation -/

section Dealloc

variable {Value : Type} (memory : Reference -> Option (Option Value))

/-- `Py_DECREF` of a field. -/
def pyDecref (field : Reference) : Except Fault (List Value) :=
  match memory field with
  | none => .error (.uninitialised field)
  | some none => .error (.null field)
  | some (some value) => .ok [value]

/-- `Py_XDECREF` of a field. -/
def pyXdecref (field : Reference) : Except Fault (List Value) :=
  match memory field with
  | none => .error (.uninitialised field)
  | some value => .ok value.toList

/-- `netlink_ip_address_dealloc`: the values that are dropped, or the first
fault. -/
def netlinkIpAddressDealloc : Except Fault (List Value) := do
  let local_ ← pyDecref memory .local_
  let peer ← pyXdecref memory .peer
  let broadcast ← pyXdecref memory .ipv4Broadcast
  let scope ← pyXdecref memory .scope
  return local_ ++ (peer ++ broadcast ++ scope)

/-- Deallocation meets no fault precisely if every field has been assigned
and the address is not NULL. -/
theorem netlinkIpAddressDealloc_ok_iff :
    (∃ values, netlinkIpAddressDealloc memory = .ok values) ↔
      (forall field : Reference, (memory field).isSome) ∧ memory .local_ ≠ some none := by
  constructor
  · rintro ⟨values, dropped⟩
    unfold netlinkIpAddressDealloc pyDecref pyXdecref at dropped
    cases address : memory .local_ with
    | none => simp [address, bind, Except.bind] at dropped
    | some value =>
        cases value with
        | none => simp [address, bind, Except.bind] at dropped
        | some value =>
            cases peer : memory .peer with
            | none => simp [address, peer, bind, Except.bind] at dropped
            | some _ =>
                cases broadcast : memory .ipv4Broadcast with
                | none => simp [address, peer, broadcast, bind, Except.bind] at dropped
                | some _ =>
                    cases scope : memory .scope with
                    | none =>
                        simp [address, peer, broadcast, scope, bind, Except.bind] at dropped
                    | some _ =>
                        refine ⟨fun field => ?_, fun null => by cases null⟩
                        cases field
                        · rw [address]
                          rfl
                        · rw [peer]
                          rfl
                        · rw [broadcast]
                          rfl
                        · rw [scope]
                          rfl
  · rintro ⟨assigned, notNull⟩
    rcases Option.isSome_iff_exists.mp (assigned .local_) with ⟨address, hasAddress⟩
    rcases Option.isSome_iff_exists.mp (assigned .peer) with ⟨peer, hasPeer⟩
    rcases Option.isSome_iff_exists.mp (assigned .ipv4Broadcast) with ⟨broadcast, hasBroadcast⟩
    rcases Option.isSome_iff_exists.mp (assigned .scope) with ⟨scope, hasScope⟩
    cases address with
    | none => exact absurd hasAddress notNull
    | some value =>
        simp [netlinkIpAddressDealloc, pyDecref, pyXdecref, hasAddress, hasPeer, hasBroadcast,
          hasScope, bind, Except.bind, pure, Except.pure]

end Dealloc

/-! ## The statements of the constructor -/

/-- The object and the pending exception. -/
structure Constructing where
  memory : HalfBuilt
  pending : Option PyError
  deriving DecidableEq

/-- `PyStr_FromString`: a string, or NULL and an exception. -/
def pyStr (made : Bool) (text : String) (pending : Option PyError) :
    Option String × Option PyError :=
  if made then (some text, pending) else (none, some noMemory)

theorem pyStr_fst (made : Bool) (text : String) (pending : Option PyError) :
    (pyStr made text pending).1 = if made then some text else none := by
  cases made <;> rfl

section Statements

variable (text : AddressText) (addr : RtnlAddr) (building : Building)

def setFamily : Stage Constructing := fun state =>
  let memory : HalfBuilt := { state.memory with family := some addr.family }
  if addr.family ≠ AF_INET ∧ addr.family ≠ AF_INET6 then
    .error { memory := memory, pending := some unsupportedFamily }
  else .ok { state with memory := memory }

def setLocal : Stage Constructing := fun state =>
  match building.ntopLocal with
  | some errno =>
      .error
        { state with
          pending := some (PyError.over ⟨.runtimeError, .errno errno⟩ state.pending) }
  | none =>
      let made :=
        pyStr building.strLocal (text.inetNtop addr.family addr.local_.binary) state.pending
      let memory : HalfBuilt := { state.memory with local_ := some made.1 }
      if made.1 = none then .error { memory := memory, pending := made.2 }
      else .ok { memory := memory, pending := made.2 }

def setPeer : Stage Constructing := fun state =>
  match addr.peer with
  | none => .ok { state with memory := { state.memory with peer := some none } }
  | some peer =>
      let made := pyStr building.strPeer (text.nlAddr2str (some peer) sizeofBuf) state.pending
      let memory : HalfBuilt := { state.memory with peer := some made.1 }
      -- The field that is tested is the one of the statement before.
      if memory.local_ = some none then .error { memory := memory, pending := made.2 }
      else .ok { memory := memory, pending := made.2 }

def setPrefixlen : Stage Constructing := fun state =>
  .ok { state with memory := { state.memory with prefixlen := some addr.prefixlen } }

def setIpv4Broadcast : Stage Constructing := fun state =>
  let memory : HalfBuilt := { state.memory with ipv4Broadcast := some none }
  if memory.family = some AF_INET then
    match addr.broadcast with
    | none => .ok { state with memory := memory }
    | some broadcast =>
        match building.ntopBroadcast with
        | some errno =>
            .error
              { memory := memory
                pending := some (PyError.over ⟨.runtimeError, .errno errno⟩ state.pending) }
        | none =>
            let made :=
              pyStr building.strBroadcast (text.inetNtop AF_INET broadcast.binary) state.pending
            let memory : HalfBuilt := { memory with ipv4Broadcast := some made.1 }
            if made.1 = none then .error { memory := memory, pending := made.2 }
            else .ok { memory := memory, pending := made.2 }
  else .ok { state with memory := memory }

def setScope : Stage Constructing := fun state =>
  let made := pyStr building.strScope (text.rtnlScope2str addr.scope) state.pending
  .ok { memory := { state.memory with scope := some made.1 }, pending := made.2 }

/-- The statements that can jump, and the one for the prefix. -/
def beforeScope : List (Stage Constructing) :=
  [setFamily addr, setLocal text addr building, setPeer text addr building, setPrefixlen addr,
    setIpv4Broadcast text addr building]

def construction : List (Stage Constructing) :=
  beforeScope text addr building ++ [setScope text addr building]

end Statements

/-! ## The constructor -/

/-- What the constructor has made at its end, what its label is to drop, and
the pending exception. -/
structure Attempt where
  returned : Option HalfBuilt
  dropped : Option HalfBuilt
  pending : Option PyError

/-- The constructor starts with whatever exception is pending. -/
def pyNetlinkIPaddressFromRtnlAddr (text : AddressText) (addr : RtnlAddr) (building : Building)
    (pending : Option PyError) : Attempt :=
  if building.newObject then
    match runStages (construction text addr building)
        { memory := .allocated, pending := pending } with
    | .ok built => { returned := some built.memory, dropped := none, pending := built.pending }
    | .error stopped =>
        { returned := none, dropped := some stopped.memory, pending := stopped.pending }
  else { returned := none, dropped := none, pending := some noMemory }

/-- What a call gives its caller: the object or NULL, and the pending
exception. -/
structure Made where
  object : Option PyNetlinkIPaddress
  pending : Option PyError
  deriving DecidableEq

/-- The end of the constructor.  The label drops the object, and its fault is
the end of everything. -/
def Attempt.outcome (attempt : Attempt) : Except Fault Made :=
  match attempt.dropped with
  | none => .ok { object := attempt.returned.bind HalfBuilt.made?, pending := attempt.pending }
  | some memory => do
      let _ ← netlinkIpAddressDealloc memory.read
      return { object := none, pending := attempt.pending }

/-- The default branch makes an exception of whatever `errno` holds. -/
def makePythonAddressFromRtnlAddr (text : AddressText) (addr : RtnlAddr)
    (building : Building) (pending : Option PyError) : Except Fault Made :=
  if addr.family = AF_INET ∨ addr.family = AF_INET6 then
    (pyNetlinkIPaddressFromRtnlAddr text addr building pending).outcome
  else
    .ok
      { object := none
        pending := some (PyError.over ⟨.runtimeError, .errno building.errno⟩ pending) }

end Netlink
end PythonEthtool
