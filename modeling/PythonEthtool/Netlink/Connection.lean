import PythonEthtool.Foundations.CString
import PythonEthtool.Foundations.Runs

namespace PythonEthtool
namespace Netlink

open Foundations

/-!
# The shared netlink connection

`netlink.c` keeps one socket for the whole extension module and a counter of
the etherinfo objects that use it.  Each object carries its own tag.  The
functions here are `open_netlink`, `get_nlc` and `close_netlink` on that
state, with the results of libnl supplied as an argument.

The counter is the C `unsigned int` and the tag the C `unsigned short`, so
increments and decrements wrap as they do there.  `PyObject_New` initialises
the object header only: a fresh object keeps whatever its memory held in the
fields that `get_interfaces_info` does not assign, and `nlc_active` is one
of them.
-/

/-- A socket allocated by libnl, connected or not. -/
structure NlSock where
  connected : Bool
  deriving DecidableEq

/-- The Python object for one interface. -/
structure PyEtherInfo where
  device : CString
  index : Int
  hwaddress : Option String
  nlcActive : UInt16
  deriving DecidableEq

/-- The file-scope variables of `netlink.c`. -/
structure Shared where
  nlconnection : Option NlSock
  nlconnectionUsers : UInt32
  deriving DecidableEq

/-- What the calls made by one `open_netlink` return: whether
`nl_socket_alloc` yields a socket, the result of `nl_connect`, and the
error text when setting the close-on-exec flag fails. -/
structure LibnlOutcome where
  socketAlloc : Bool
  connect : Int
  fcntlError : Option String
  deriving DecidableEq

/-- `open_netlink` returns 1 or 0, here as a Boolean, and may warn on
standard error. -/
structure Opened where
  returned : Bool
  shared : Shared
  ethi : PyEtherInfo
  stderr : String
  deriving DecidableEq

def openNetlink (shared : Shared) (ethi : PyEtherInfo) (libnl : LibnlOutcome) : Opened :=
  match shared.nlconnection with
  | some _ =>
      { returned := true
        shared :=
          if ethi.nlcActive = 0 then
            { shared with nlconnectionUsers := shared.nlconnectionUsers + 1 }
          else shared
        ethi := { ethi with nlcActive := 1 }
        stderr := "" }
  | none =>
      if libnl.socketAlloc then
        if libnl.connect < 0 then
          -- The allocated socket stays in the global on this return.
          { returned := false
            shared := { shared with nlconnection := some ⟨false⟩ }
            ethi := ethi
            stderr := "" }
        else
          { returned := true
            shared :=
              { nlconnection := some ⟨true⟩
                nlconnectionUsers := shared.nlconnectionUsers + 1 }
            ethi := { ethi with nlcActive := 1 }
            stderr :=
              match libnl.fcntlError with
              | none => ""
              | some text =>
                  "**WARNING** Failed to set O_CLOEXEC on NETLINK socket: " ++ text ++ "\n" }
      else { returned := false, shared := shared, ethi := ethi, stderr := "" }

/-- The connection that the queries use.  Absence is a failed assertion. -/
def getNlc (shared : Shared) : Option NlSock :=
  shared.nlconnection

def closeNetlink (shared : Shared) (ethi : PyEtherInfo) : Shared × PyEtherInfo :=
  match shared.nlconnection with
  | none => (shared, ethi)
  | some socket =>
      let users := shared.nlconnectionUsers - 1
      let untagged := { ethi with nlcActive := 0 }
      if users > 0 then
        ({ nlconnection := some socket, nlconnectionUsers := users }, untagged)
      else ({ nlconnection := none, nlconnectionUsers := users }, untagged)

/-- The object that `get_interfaces_info` makes for one device name out of
freshly allocated memory. -/
def newEtherInfo (memory : PyEtherInfo) (device : CString) : PyEtherInfo :=
  { memory with device := device, hwaddress := none, index := -1 }

/-- The name `eth0`, for the concrete runs. -/
def eth0 : CString :=
  ⟨[101, 116, 104, 48], by simp⟩

/-- An object in cleared memory. -/
def PyEtherInfo.cleared : PyEtherInfo where
  device := eth0
  index := 0
  hwaddress := none
  nlcActive := 0

/-- Every libnl call succeeds. -/
def LibnlOutcome.success : LibnlOutcome where
  socketAlloc := true
  connect := 0
  fcntlError := none

/-- A socket is allocated and its connection refused. -/
def LibnlOutcome.refused : LibnlOutcome where
  socketAlloc := true
  connect := -1
  fcntlError := none

/-! ## The module over the lives of its objects -/

/-- The shared variables and the heap of etherinfo objects.  An address
outside `live` holds whatever was left there. -/
structure Module where
  shared : Shared
  live : Finset Nat
  object : Nat -> PyEtherInfo

/-- One object is created at an unused address, starts a query, or is
deallocated. -/
inductive Action where
  | create (address : Nat) (memory : PyEtherInfo) (device : CString)
  | query (address : Nat) (libnl : LibnlOutcome)
  | dealloc (address : Nat)

namespace Module

/-- The module as loaded, over memory that nothing has written yet. -/
def initial (memory : Nat -> PyEtherInfo) : Module where
  shared := { nlconnection := none, nlconnectionUsers := 0 }
  live := ∅
  object := memory

/-- The only part of a query that touches the shared state is the
`open_netlink` at its start, and of a deallocation the `close_netlink`. -/
def step (state : Module) : Action -> Option Module
  | .create address memory device =>
      if address ∈ state.live then none
      else some
        { state with
          live := insert address state.live
          object := Function.update state.object address (newEtherInfo memory device) }
  | .query address libnl =>
      if address ∈ state.live then
        let opened := openNetlink state.shared (state.object address) libnl
        some
          { state with
            shared := opened.shared
            object := Function.update state.object address opened.ethi }
      else none
  | .dealloc address =>
      if address ∈ state.live then
        let closed := closeNetlink state.shared (state.object address)
        some
          { shared := closed.1
            live := state.live.erase address
            object := Function.update state.object address closed.2 }
      else none

/-- The live objects that count themselves as users of the connection. -/
def tagged (state : Module) : Finset Nat :=
  state.live.filter (fun address => (state.object address).nlcActive ≠ 0)

theorem mem_tagged {state : Module} {address : Nat} :
    address ∈ state.tagged ↔ address ∈ state.live ∧ (state.object address).nlcActive ≠ 0 := by
  simp only [tagged, Finset.mem_filter]

/-! ## What one step does -/

theorem step_create {state next : Module} {address : Nat} {memory : PyEtherInfo}
    {device : CString} (taken : state.step (.create address memory device) = some next) :
    next.shared = state.shared ∧ address ∉ state.live ∧
      next.tagged =
        if memory.nlcActive = 0 then state.tagged else insert address state.tagged := by
  simp only [step] at taken
  split at taken
  · cases taken
  · rename_i unused
    cases taken
    refine ⟨rfl, unused, ?_⟩
    ext other
    by_cases same : other = address
    · subst same
      by_cases zero : memory.nlcActive = 0 <;> simp [mem_tagged, newEtherInfo, unused, zero]
    · by_cases zero : memory.nlcActive = 0 <;> simp [mem_tagged, same, zero]

theorem step_query {state next : Module} {address : Nat} {libnl : LibnlOutcome}
    (taken : state.step (.query address libnl) = some next) :
    address ∈ state.live ∧
      next.shared = (openNetlink state.shared (state.object address) libnl).shared ∧
      next.object address = (openNetlink state.shared (state.object address) libnl).ethi ∧
      next.tagged =
        if (openNetlink state.shared (state.object address) libnl).ethi.nlcActive = 0 then
          state.tagged.erase address
        else insert address state.tagged := by
  simp only [step] at taken
  split at taken
  · rename_i present
    cases taken
    refine ⟨present, rfl, Function.update_self .., ?_⟩
    ext other
    by_cases same : other = address
    · subst same
      split <;> simp_all [mem_tagged]
    · split <;> simp_all [mem_tagged]
  · cases taken

theorem step_dealloc {state next : Module} {address : Nat}
    (taken : state.step (.dealloc address) = some next) :
    address ∈ state.live ∧
      next.shared = (closeNetlink state.shared (state.object address)).1 ∧
      next.tagged = state.tagged.erase address := by
  simp only [step] at taken
  split at taken
  · rename_i present
    cases taken
    refine ⟨present, rfl, ?_⟩
    ext other
    by_cases same : other = address <;> simp [mem_tagged, same]
  · cases taken

end Module

/-! ## The two functions by cases -/

/-- The five ways through `open_netlink`: reuse by a tagged or by a new
user, a fresh connection, a socket that does not connect, and no socket. -/
theorem openNetlink_cases (shared : Shared) (ethi : PyEtherInfo) (libnl : LibnlOutcome)
    {opened : Opened} (result : openNetlink shared ethi libnl = opened) :
    (shared.nlconnection.isSome ∧ ethi.nlcActive ≠ 0 ∧ opened.returned = true ∧
      opened.shared = shared ∧ opened.ethi = { ethi with nlcActive := 1 }) ∨
    (shared.nlconnection.isSome ∧ ethi.nlcActive = 0 ∧ opened.returned = true ∧
      opened.shared = ⟨shared.nlconnection, shared.nlconnectionUsers + 1⟩ ∧
      opened.ethi = { ethi with nlcActive := 1 }) ∨
    (shared.nlconnection = none ∧ libnl.socketAlloc = true ∧ 0 ≤ libnl.connect ∧
      opened.returned = true ∧ opened.shared = ⟨some ⟨true⟩, shared.nlconnectionUsers + 1⟩ ∧
      opened.ethi = { ethi with nlcActive := 1 }) ∨
    (shared.nlconnection = none ∧ libnl.socketAlloc = true ∧ libnl.connect < 0 ∧
      opened.returned = false ∧ opened.shared = ⟨some ⟨false⟩, shared.nlconnectionUsers⟩ ∧
      opened.ethi = ethi) ∨
    (shared.nlconnection = none ∧ libnl.socketAlloc = false ∧
      opened.returned = false ∧ opened.shared = shared ∧ opened.ethi = ethi) := by
  subst result
  cases present : shared.nlconnection with
  | some socket =>
      by_cases zero : ethi.nlcActive = 0
      · refine Or.inr (Or.inl ?_)
        simp [openNetlink, present, zero]
      · refine Or.inl ?_
        simp [openNetlink, present, zero]
  | none =>
      refine Or.inr (Or.inr ?_)
      cases allocated : libnl.socketAlloc with
      | false => exact Or.inr (Or.inr (by simp [openNetlink, present, allocated]))
      | true =>
          by_cases negative : libnl.connect < 0
          · refine Or.inr (Or.inl ?_)
            simp [openNetlink, present, allocated, negative]
          · refine Or.inl ?_
            have connects : 0 ≤ libnl.connect := Int.not_lt.mp negative
            simp [openNetlink, present, allocated, negative, connects]

theorem openNetlink_connected (shared : Shared) (ethi : PyEtherInfo) (libnl : LibnlOutcome) :
    (openNetlink shared ethi libnl).shared.nlconnection.isSome =
      (shared.nlconnection.isSome || libnl.socketAlloc) := by
  rcases openNetlink_cases shared ethi libnl rfl with
    ⟨present, _, _, after, _⟩ | ⟨present, _, _, after, _⟩ | ⟨_, allocated, _, _, after, _⟩ |
    ⟨_, allocated, _, _, after, _⟩ | ⟨_, failed, _, after, _⟩
  · rw [after, present, Bool.true_or]
  · rw [after, present, Bool.true_or]
  · rw [after, allocated, Bool.or_true]
    rfl
  · rw [after, allocated, Bool.or_true]
    rfl
  · rw [after, failed, Bool.or_false]

/-- It succeeds with a connection, old or new. -/
theorem openNetlink_result (shared : Shared) (ethi : PyEtherInfo) (libnl : LibnlOutcome) :
    (openNetlink shared ethi libnl).returned =
      (shared.nlconnection.isSome || (libnl.socketAlloc && decide (0 ≤ libnl.connect))) := by
  rcases openNetlink_cases shared ethi libnl rfl with
    ⟨present, _, returned, _⟩ | ⟨present, _, returned, _⟩ | ⟨_, allocated, connects, returned, _⟩ |
    ⟨absent, _, refused, returned, _⟩ | ⟨absent, failed, returned, _⟩
  · rw [returned, present, Bool.true_or]
  · rw [returned, present, Bool.true_or]
  · simp [returned, allocated, connects]
  · simp [returned, absent, Int.not_le.mpr refused]
  · simp [returned, absent, failed]

/-- Without a connection nothing is closed.  Otherwise the counter goes
down by one, whoever asks, and the connection goes when it reaches zero. -/
theorem closeNetlink_cases (shared : Shared) (ethi : PyEtherInfo) :
    (shared.nlconnection = none ∧ (closeNetlink shared ethi).1 = shared) ∨
    (shared.nlconnection.isSome ∧
      (closeNetlink shared ethi).1.nlconnectionUsers = shared.nlconnectionUsers - 1 ∧
      (closeNetlink shared ethi).1.nlconnection =
        if shared.nlconnectionUsers - 1 = 0 then none else shared.nlconnection) := by
  cases present : shared.nlconnection with
  | none => exact Or.inl ⟨rfl, by simp [closeNetlink, present]⟩
  | some socket =>
      refine Or.inr ⟨rfl, ?_⟩
      simp only [closeNetlink, present]
      by_cases last : shared.nlconnectionUsers - 1 = 0
      · simp [last]
      · have more : 0 < shared.nlconnectionUsers - 1 := UInt32.pos_iff_ne_zero.mpr last
        simp [last, more]

end Netlink
end PythonEthtool
