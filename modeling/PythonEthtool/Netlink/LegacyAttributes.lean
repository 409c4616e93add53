import PythonEthtool.Netlink.Outcomes

namespace PythonEthtool
namespace Netlink

open Foundations
open Python

/-!
# The three IPv4 attributes from the time of one address

`ipv4_address`, `ipv4_netmask` and `ipv4_broadcast` come from before an
interface could have several addresses.  Each of them runs the whole query
again and shows the last entry of the list.  While the kernel does not change
they should show one entry, the last of what `get_ipv4_addresses` lists, or
raise its exception, however often and in whatever order they are read.

The reads do change the session: the first one opens the connection and stores
the index.  There are two ways in which what a read leaves behind changes what
the next one finds.  A socket that could not be connected stays, and the next
query takes it for the connection.  And an index of zero is refused and
stored, and the next query filters by it.  Where the address dump fails there
is no next read: the query frees a cache that it was not given.
-/

/-- A state of the kernel and of the process that does not change: how opening
a connection comes out, and what the dumps answer on each socket.  All address
records can be converted. -/
structure Kernel where
  opening : LibnlOutcome
  linkCache : NlSock -> Except String (List RtnlLink)
  addrCache : NlSock -> Except String (List (RtnlAddr × Building))
  addrAlloc : Bool
  converts : forall socket records, addrCache socket = .ok records ->
    forall record, record ∈ records -> ¬ record.2.Raises record.1

/-- The answers that a query of this session gets.  Without a socket it asks
for none. -/
def Kernel.calls (kernel : Kernel) (session : Session) : AddressCalls :=
  let opened := (openNetlink session.shared session.self kernel.opening).shared
  let socket := (getNlc opened).getD ⟨false⟩
  { opening := kernel.opening
    indexCache := kernel.linkCache socket
    addrCache := kernel.addrCache socket
    addrAlloc := kernel.addrAlloc }

inductive Ipv4Read where
  | addresses
  | address
  | netmask
  | broadcast

/-- What the interpreter makes of a call: the value, or the exception.  The
last two are calls that do not keep to one of the two, or do not end. -/
inductive Reading where
  | list (addresses : List PyNetlinkIPaddress)
  | value (value : PyValue)
  | raised (error : PyError)
  | broken
  | fault (fault : Fault)
  deriving DecidableEq

def Returned.reading {α : Type} (result : Returned α) (shown : α -> Reading) : Reading :=
  match result.value, result.session.pending with
  | some value, none => shown value
  | none, some error => .raised error
  | _, _ => .broken

/-- The reading, and the session for the next one, if there is one. -/
def readingOf {α : Type} (shown : α -> Reading) :
    Except Stopped (Returned α) -> Reading × Option Session
  | .ok result => (result.reading shown, some result.handled)
  | .error stopped => (.fault stopped.fault, none)

def readIpv4 (text : AddressText) (session : Session) (calls : AddressCalls) :
    Ipv4Read -> Reading × Option Session
  | .addresses => readingOf .list (getIpv4Addresses text session calls)
  | .address => readingOf .value (getIpv4Addr text session calls)
  | .netmask => readingOf .value (getIpv4Mask text session calls)
  | .broadcast => readingOf .value (getIpv4Bcast text session calls)

/-- A sequence of reads while the kernel does not change. -/
def readings (text : AddressText) (kernel : Kernel) (session : Session) :
    List Ipv4Read -> List Reading
  | [] => []
  | read :: reads =>
      let result := readIpv4 text session (kernel.calls session) read
      match result.2 with
      | some next => result.1 :: readings text kernel next reads
      | none => [result.1]

/-- What a read shows of a listing: the last entry of the list, the defaults
where there is none, or the exception. -/
def shownOf : Except PyError (List PyNetlinkIPaddress) -> Ipv4Read -> Reading
  | .error error, _ => .raised error
  | .ok listed, .addresses => .list listed
  | .ok listed, .address =>
      match listed.getLast? with
      | some last => .value (.str last.local_)
      | none => .value .none
  | .ok listed, .netmask =>
      match listed.getLast? with
      | some last => .value (.int last.prefixlen)
      | none => .value (.int 0)
  | .ok listed, .broadcast =>
      match listed.getLast? with
      | some last => .value (.str (last.ipv4Broadcast.getD "0.0.0.0"))
      | none => .value (.str "0.0.0.0")

/-- All reads, in whatever order, show one listing. -/
def ReadsAgree (text : AddressText) (kernel : Kernel) (session : Session) : Prop :=
  ∃ listing, forall reads,
    readings text kernel session reads = reads.map (shownOf listing)

namespace Kernel

/-- There is no connection yet, and the socket for it cannot be connected. -/
def ConnectFails (kernel : Kernel) (session : Session) : Prop :=
  session.shared.nlconnection = none ∧ kernel.opening.socketAlloc = true ∧
    kernel.opening.connect < 0

/-- The socket that a query works with: the one that is there, or a new one
that is connected. -/
def socket (kernel : Kernel) (session : Session) : Option NlSock :=
  match session.shared.nlconnection with
  | some socket => some socket
  | none =>
      if kernel.opening.socketAlloc ∧ 0 ≤ kernel.opening.connect then some ⟨true⟩ else none

/-- The object has no index yet, and its name is that of a link with the index
zero. -/
def FindsZero (kernel : Kernel) (session : Session) : Prop :=
  session.self.index < 0 ∧
    ∃ socket links link, kernel.socket session = some socket ∧
      kernel.linkCache socket = .ok links ∧
      rtnlLinkGetByName links session.self.device = some link ∧ link.ifindex = 0

/-- The query has a connection and an index, and its address dump fails. -/
def DumpFails (kernel : Kernel) (session : Session) : Prop :=
  ∃ socket index error, kernel.socket session = some socket ∧
    session.self.lookup (kernel.linkCache socket) = some index ∧
    kernel.addrCache socket = .error error

end Kernel

/-! ## One read -/

section OneRead

variable {text : AddressText} {session after : Session} {calls : AddressCalls}

theorem readIpv4_listed {listed : List PyNetlinkIPaddress}
    (returns : getEtherinfoAddress text session .addr4 calls =
      .ok { value := some listed, session := after })
    (clear : after.pending = none) (read : Ipv4Read) :
    readIpv4 text session calls read =
      (shownOf (.ok listed) read, some { after with pending := none }) := by
  cases read with
  | addresses =>
      simp [readIpv4, readingOf, getIpv4Addresses, returns, Returned.reading, Returned.handled,
        clear, shownOf]
  | address =>
      cases last : listed.getLast? <;>
        simp [readIpv4, readingOf, getIpv4Addr, returns, Except.map, lastIpv4,
          getLastIpv4Address, unlessPending, Returned.reading, Returned.handled, clear, shownOf,
          last]
  | netmask =>
      cases last : listed.getLast? <;>
        simp [readIpv4, readingOf, getIpv4Mask, returns, Except.map, lastIpv4,
          getLastIpv4Address, unlessPending, Returned.reading, Returned.handled, clear, shownOf,
          last]
  | broadcast =>
      cases last : listed.getLast? with
      | none =>
          simp [readIpv4, readingOf, getIpv4Bcast, returns, Except.map, lastIpv4,
            getLastIpv4Address, unlessPending, Returned.reading, Returned.handled, clear, shownOf,
            last]
      | some address =>
          cases broadcast : address.ipv4Broadcast <;>
            simp [readIpv4, readingOf, getIpv4Bcast, returns, Except.map, lastIpv4,
              getLastIpv4Address, unlessPending, Returned.reading, Returned.handled, clear,
              shownOf, last, broadcast]

theorem readIpv4_fault {stopped : Stopped}
    (stops : getEtherinfoAddress text session .addr4 calls = .error stopped) (read : Ipv4Read) :
    readIpv4 text session calls read = (.fault stopped.fault, none) := by
  cases read with
  | addresses => simp [readIpv4, readingOf, getIpv4Addresses, stops]
  | address => simp [readIpv4, readingOf, getIpv4Addr, stops, Except.map]
  | netmask => simp [readIpv4, readingOf, getIpv4Mask, stops, Except.map]
  | broadcast => simp [readIpv4, readingOf, getIpv4Bcast, stops, Except.map]

theorem readIpv4_raised {error : PyError}
    (returns : getEtherinfoAddress text session .addr4 calls =
      .ok { value := none, session := after })
    (pending : after.pending = some error) (read : Ipv4Read) :
    readIpv4 text session calls read =
      (.raised error, some { after with pending := none }) := by
  cases read with
  | addresses =>
      simp [readIpv4, readingOf, getIpv4Addresses, returns, Returned.reading, Returned.handled,
        pending]
  | address =>
      simp [readIpv4, readingOf, getIpv4Addr, returns, Except.map, lastIpv4,
        getLastIpv4Address, unlessPending, Returned.reading, Returned.handled, pending]
  | netmask =>
      simp [readIpv4, readingOf, getIpv4Mask, returns, Except.map, lastIpv4,
        getLastIpv4Address, unlessPending, Returned.reading, Returned.handled, pending]
  | broadcast =>
      simp [readIpv4, readingOf, getIpv4Bcast, returns, Except.map, lastIpv4,
        getLastIpv4Address, unlessPending, Returned.reading, Returned.handled, pending]

end OneRead

/-! ## The listing of a session -/

namespace Kernel

variable (text : AddressText) (kernel : Kernel)

/-- The index that a query works with, or the exception of the lookup. -/
def indexOf (self : PyEtherInfo) (socket : NlSock) : Except PyError Int :=
  if self.index < 0 then
    match kernel.linkCache socket with
    | .error error => .error ⟨.osError, .text error⟩
    | .ok links =>
        match (rtnlLinkGetByName links self.device).map RtnlLink.ifindex with
        | some index => if 0 < index then .ok index else .error ⟨.osError, .errno ENODEV⟩
        | none => .error ⟨.osError, .errno ENODEV⟩
  else .ok self.index

/-- The records of one index, or the exception of the filter.  If the dump
fails there is neither. -/
def recordsAt (socket : NlSock) (index : Int) :
    Option (Except PyError (List PyNetlinkIPaddress)) :=
  match kernel.addrCache socket with
  | .error _ => none
  | .ok records =>
      if kernel.addrAlloc then
        some (.ok ((records.filter (fun record =>
          record.1.ifindex = index ∧ record.1.family = NlQuery.addr4.family)).map
            (fun record => addressOf text record.1)))
      else some (.error ⟨.osError, .errno ENOMEM⟩)

/-- What `get_ipv4_addresses` lists, or the exception that it raises. -/
def listing (session : Session) : Option (Except PyError (List PyNetlinkIPaddress)) :=
  match kernel.socket session with
  | none => some (.error (openFailed session.self.device))
  | some socket =>
      match kernel.indexOf session.self socket with
      | .error error => some (.error error)
      | .ok index => kernel.recordsAt text socket index

variable {text kernel} {session : Session}

/-- What is raised behind the lookup is not what the lookup raises. -/
theorem recordsAt_raises {socket : NlSock} {index : Int} {error : PyError}
    (raises : kernel.recordsAt text socket index = some (.error error)) :
    error.kind = .osError ∧ error.detail ≠ .errno ENODEV := by
  unfold recordsAt at raises
  split at raises
  · cases raises
  · split at raises
    · cases raises
    · cases raises
      exact ⟨rfl, by decide⟩

theorem indexOf_raises {self : PyEtherInfo} {socket : NlSock} {error : PyError}
    (raises : kernel.indexOf self socket = .error error) : error.kind = .osError := by
  unfold indexOf at raises
  repeat' split at raises
  all_goals cases raises
  all_goals rfl

/-- With a socket the exception is an `OSError`. -/
theorem listing_raises {socket : NlSock} {error : PyError}
    (found : kernel.socket session = some socket)
    (raises : kernel.listing text session = some (.error error)) : error.kind = .osError := by
  simp only [listing, found] at raises
  cases looked : kernel.indexOf session.self socket with
  | error other =>
      simp only [looked] at raises
      cases raises
      exact indexOf_raises looked
  | ok index =>
      simp only [looked] at raises
      exact (recordsAt_raises raises).1

/-- The index is that of the lookup. -/
theorem indexOf_eq_ok_iff {self : PyEtherInfo} {socket : NlSock} {index : Int} :
    kernel.indexOf self socket = .ok index ↔
      self.lookup (kernel.linkCache socket) = some index := by
  unfold indexOf PyEtherInfo.lookup
  by_cases unset : self.index < 0
  · rw [if_pos unset, if_pos unset]
    cases kernel.linkCache socket with
    | error error => simp
    | ok links =>
        dsimp only
        cases (rtnlLinkGetByName links self.device).map RtnlLink.ifindex with
        | none => simp
        | some other =>
            by_cases positive : 0 < other
            · simp only [Option.filter_some, positive, decide_true, if_true, Except.ok.injEq,
                Option.some.injEq]
            · simp only [Option.filter_some, positive, decide_false, if_false, reduceCtorEq,
                Bool.false_eq_true]
  · rw [if_neg unset, if_neg unset, Except.ok.injEq, Option.some.injEq]

/-- There is a listing unless the dump fails. -/
theorem listing_eq_none_iff : kernel.listing text session = none ↔ kernel.DumpFails session := by
  constructor
  · intro absent
    unfold listing at absent
    cases found : kernel.socket session with
    | none => simp [found] at absent
    | some socket =>
        cases looked : kernel.indexOf session.self socket with
        | error error => simp [found, looked] at absent
        | ok index =>
            cases filled : kernel.addrCache socket with
            | error error =>
                exact ⟨socket, index, error, found, indexOf_eq_ok_iff.mp looked, filled⟩
            | ok records =>
                simp only [found, looked, recordsAt, filled] at absent
                split at absent <;> cases absent
  · rintro ⟨socket, index, error, found, looked, failed⟩
    simp only [listing, found, indexOf_eq_ok_iff.mpr looked, recordsAt, failed]

theorem socket_opened {socket : NlSock} (found : kernel.socket session = some socket) :
    (openNetlink session.shared session.self kernel.opening).returned = true ∧
      (openNetlink session.shared session.self kernel.opening).shared.nlconnection =
        some socket := by
  unfold Kernel.socket at found
  cases present : session.shared.nlconnection with
  | some other =>
      rw [present] at found
      cases found
      simp only [openNetlink, present, true_and]
      split
      · rfl
      · exact present
  | none =>
      rw [present] at found
      dsimp only at found
      split at found
      · rename_i opens
        cases found
        simp [openNetlink, present, opens.1, Int.not_lt.mpr opens.2]
      · cases found

theorem socket_refused (absent : kernel.socket session = none) :
    session.shared.nlconnection = none ∧
      (openNetlink session.shared session.self kernel.opening).returned = false := by
  unfold Kernel.socket at absent
  cases present : session.shared.nlconnection with
  | some socket =>
      rw [present] at absent
      cases absent
  | none =>
      rw [present] at absent
      dsimp only at absent
      split at absent
      · cases absent
      · rename_i refused
        refine ⟨rfl, ?_⟩
        cases allocated : kernel.opening.socketAlloc with
        | false => simp [openNetlink, present, allocated]
        | true =>
            have negative : kernel.opening.connect < 0 := by
              rw [allocated] at refused
              exact Int.not_le.mp (fun connects => refused ⟨rfl, connects⟩)
            simp [openNetlink, present, allocated, negative]

/-- The start of a query, on the socket that it works with. -/
theorem openAndSetIndex_calls {socket : NlSock} (found : kernel.socket session = some socket) :
    (openAndSetIndex session (kernel.calls session).toOpeningCalls).1 =
        (kernel.indexOf session.self socket).isOk ∧
      (kernel.calls session).addrCache = kernel.addrCache socket ∧
      (forall index, kernel.indexOf session.self socket = .ok index ->
        (openAndSetIndex session (kernel.calls session).toOpeningCalls).2.self.index = index ∧
          (openAndSetIndex session (kernel.calls session).toOpeningCalls).2.pending =
            session.pending) ∧
      (forall error, kernel.indexOf session.self socket = .error error ->
        session.pending = none ->
          (openAndSetIndex session (kernel.calls session).toOpeningCalls).2.pending =
            some error) := by
  rcases socket_opened found with ⟨returned, opened⟩
  have asked : kernel.calls session =
      { opening := kernel.opening
        indexCache := kernel.linkCache socket
        addrCache := kernel.addrCache socket
        addrAlloc := kernel.addrAlloc } := by
    simp only [calls, getNlc, opened, Option.getD_some]
  rw [asked]
  have connects : session.connects
      { opening := kernel.opening, indexCache := kernel.linkCache socket } = true :=
    (openNetlink_returned session _).symm.trans returned
  have tagged : (openNetlink session.shared session.self kernel.opening).ethi =
      { session.self with nlcActive := 1 } :=
    (openNetlink_ethi session _).trans (if_pos connects)
  simp only [openAndSetIndex, returned, if_true, tagged, setDeviceIndex, indexOf]
  by_cases unset : session.self.index < 0
  · simp only [if_pos unset]
    cases filled : kernel.linkCache socket with
    | error error => simp +contextual [Except.isOk, Except.toBool]
    | ok links =>
        cases named : rtnlLinkGetByName links session.self.device with
        | none => simp +contextual [named, Except.isOk, Except.toBool]
        | some link =>
            by_cases positive : 0 < link.ifindex
            · simp [named, positive, Except.isOk, Except.toBool]
            · simp +contextual [named, positive, Except.isOk, Except.toBool]
  · simp [if_neg unset, Except.isOk, Except.toBool]

/-- The records that a query walks over are converted. -/
theorem walk_converts {socket : NlSock} {records : List (RtnlAddr × Building)}
    (filled : kernel.addrCache socket = .ok records) (index : Int) (walk : Walk) :
    (records.filter (fun record =>
        record.1.ifindex = index ∧ record.1.family = NlQuery.addr4.family)).foldlM
          (callbackNlAddress text) walk =
      .ok
        { walk with
          addrlist := walk.addrlist ++
            (records.filter (fun record =>
              record.1.ifindex = index ∧ record.1.family = NlQuery.addr4.family)).map
                (fun record => addressOf text record.1) } := by
  refine foldlM_callbackNlAddress_clean text ?_ ?_ walk
  · intro record member
    exact Or.inl (of_decide_eq_true (List.mem_filter.mp member).2).2
  · intro record member
    exact kernel.converts socket records filled record (List.mem_filter.mp member).1

/-- A query that gets no index stops there. -/
theorem getEtherinfoAddress_stopped {query : NlQuery} {calls : AddressCalls}
    (stops : (openAndSetIndex session calls.toOpeningCalls).1 = false) :
    getEtherinfoAddress text session query calls =
      .ok { value := none, session := (openAndSetIndex session calls.toOpeningCalls).2 } := by
  simp only [getEtherinfoAddress, stops, Bool.false_eq_true, if_false]

/-- The query returns the list, or NULL with the exception, or meets a
fault. -/
theorem getEtherinfoAddress_listing (clear : session.pending = none) :
    (∃ listed after, kernel.listing text session = some (.ok listed) ∧
        getEtherinfoAddress text session .addr4 (kernel.calls session) =
          .ok { value := some listed, session := after } ∧
        after.pending = none) ∨
      (∃ error after, kernel.listing text session = some (.error error) ∧
        getEtherinfoAddress text session .addr4 (kernel.calls session) =
          .ok { value := none, session := after } ∧
        after.pending = some error) ∨
      (∃ stopped, kernel.listing text session = none ∧
        getEtherinfoAddress text session .addr4 (kernel.calls session) = .error stopped) := by
  cases found : kernel.socket session with
  | none =>
      have refused := (socket_refused found).2
      have stops : openAndSetIndex session (kernel.calls session).toOpeningCalls =
          (false, (openAndSetIndex session (kernel.calls session).toOpeningCalls).2) ∧
          (openAndSetIndex session (kernel.calls session).toOpeningCalls).2.pending =
            some (openFailed session.self.device) := by
        simp [openAndSetIndex, calls, refused, Session.setError, Session.record, clear]
      refine Or.inr (Or.inl ⟨openFailed session.self.device, _, ?_,
        getEtherinfoAddress_stopped (by rw [stops.1]), stops.2⟩)
      rw [listing, found]
  | some socket =>
      rcases openAndSetIndex_calls found with ⟨starts, dump, indexed, failed⟩
      cases looked : kernel.indexOf session.self socket with
      | error error =>
          rw [looked] at starts
          refine Or.inr (Or.inl ⟨error, _, ?_, getEtherinfoAddress_stopped starts,
            failed error looked clear⟩)
          simp only [listing, found, looked]
      | ok index =>
          rw [looked] at starts
          rcases indexed index looked with ⟨stored, pending⟩
          rw [clear] at pending
          have alloc : (kernel.calls session).addrAlloc = kernel.addrAlloc := rfl
          simp only [listing, found, looked, recordsAt, getEtherinfoAddress, starts, Except.isOk,
            Except.toBool, if_true, dump, alloc, stored, pending]
          cases filled : kernel.addrCache socket with
          | error error => exact Or.inr (Or.inr ⟨_, rfl, rfl⟩)
          | ok records =>
              cases kernel.addrAlloc with
              | false =>
                  exact Or.inr (Or.inl ⟨_, _, rfl, rfl,
                    by simp [Session.setError, Session.record, pending]⟩)
              | true =>
                  have walked := @walk_converts text kernel _ _ filled index
                    { addrlist := [], pending := none }
                  simp only [if_true, nlCacheForeachFilter]
                  rw [walked]
                  exact Or.inl ⟨_, _, rfl, rfl, rfl⟩

/-- Every read shows the listing of the session, and leaves a session behind
in which nothing is pending. -/
theorem readIpv4_calls (clear : session.pending = none)
    {listing : Except PyError (List PyNetlinkIPaddress)}
    (found : kernel.listing text session = some listing) (read : Ipv4Read) :
    ∃ after, readIpv4 text session (kernel.calls session) read =
        (shownOf listing read, some after) ∧
      after.pending = none ∧
      after.shared = (openNetlink session.shared session.self kernel.opening).shared ∧
      after.self = (openAndSetIndex session (kernel.calls session).toOpeningCalls).2.self := by
  rcases getEtherinfoAddress_listing clear with
    ⟨listed, after, same, returns, pending⟩ | ⟨error, after, same, returns, pending⟩ |
      ⟨stopped, absent, _⟩
  · rw [found, Option.some.injEq] at same
    rcases getEtherinfoAddress_session text returns with ⟨shared, self⟩
    rw [openAndSetIndex_shared] at shared
    rw [same]
    exact ⟨_, readIpv4_listed returns pending read, rfl, shared, self⟩
  · rw [found, Option.some.injEq] at same
    rcases getEtherinfoAddress_session text returns with ⟨shared, self⟩
    rw [openAndSetIndex_shared] at shared
    rw [same]
    exact ⟨_, readIpv4_raised returns pending read, rfl, shared, self⟩
  · rw [found] at absent
    cases absent

/-- Where there is no listing the process ends in a fault. -/
theorem readIpv4_unlisted (clear : session.pending = none)
    (absent : kernel.listing text session = none) (read : Ipv4Read) :
    ∃ fault, readIpv4 text session (kernel.calls session) read = (.fault fault, none) := by
  rcases getEtherinfoAddress_listing clear with
    ⟨_, _, found, _⟩ | ⟨_, _, found, _⟩ | ⟨stopped, _, stops⟩
  · rw [absent] at found
    cases found
  · rw [absent] at found
    cases found
  · exact ⟨stopped.fault, readIpv4_fault stops read⟩

/-! ## The session after a read -/

/-- The index that a query leaves in the object. -/
def storedIndex (kernel : Kernel) (self : PyEtherInfo) (socket : NlSock) : Int :=
  if self.index < 0 then
    match kernel.linkCache socket with
    | .error _ => self.index
    | .ok links =>
        ((rtnlLinkGetByName links self.device).map RtnlLink.ifindex).getD self.index
  else self.index

theorem openAndSetIndex_stores {socket : NlSock} (found : kernel.socket session = some socket) :
    let after := (openAndSetIndex session (kernel.calls session).toOpeningCalls).2.self
    after.device = session.self.device ∧
      after.index = kernel.storedIndex session.self socket := by
  dsimp only
  rcases socket_opened found with ⟨returned, opened⟩
  have cache : (kernel.calls session).indexCache = kernel.linkCache socket := by
    simp only [calls, getNlc, opened, Option.getD_some]
  have connects : session.connects (kernel.calls session).toOpeningCalls = true :=
    (openNetlink_returned session (kernel.calls session).toOpeningCalls).symm.trans returned
  rw [openAndSetIndex_self, if_pos connects, cache]
  unfold setDeviceIndex storedIndex
  by_cases unset : session.self.index < 0
  · simp only [if_pos unset]
    cases filled : kernel.linkCache socket with
    | error error => exact ⟨rfl, rfl⟩
    | ok links =>
        cases named : rtnlLinkGetByName links session.self.device with
        | none => simp [named]
        | some link => simp [named]
  · simp only [if_neg unset, and_self]

/-- The index that is left gives what the lookup gave, unless it is zero. -/
theorem indexOf_stored {self after : PyEtherInfo} {socket : NlSock}
    (device : after.device = self.device)
    (stored : after.index = kernel.storedIndex self socket)
    (nonzero : forall links link, self.index < 0 -> kernel.linkCache socket = .ok links ->
      rtnlLinkGetByName links self.device = some link -> link.ifindex ≠ 0) :
    kernel.indexOf after socket = kernel.indexOf self socket := by
  unfold storedIndex at stored
  by_cases unset : self.index < 0
  · rw [if_pos unset] at stored
    cases filled : kernel.linkCache socket with
    | error error =>
        simp only [filled] at stored
        simp only [indexOf, stored, filled]
    | ok links =>
        simp only [filled] at stored
        cases named : rtnlLinkGetByName links self.device with
        | none =>
            rw [named] at stored
            simp only [indexOf, stored, device, filled, named, Option.map_none, Option.getD_none]
        | some link =>
            rw [named] at stored
            have valid := nonzero links link unset filled named
            simp only [indexOf, stored, device, filled, named, Option.map_some,
              Option.getD_some, if_pos unset]
            by_cases negative : link.ifindex < 0
            · rw [if_pos negative]
            · have positive : 0 < link.ifindex := by omega
              rw [if_neg negative, if_pos positive]
  · rw [if_neg unset] at stored
    simp only [indexOf, stored, if_neg unset]

/-- The next query finds what this one found. -/
structure SameAnswers (kernel : Kernel) (session after : Session) : Prop where
  device : after.self.device = session.self.device
  socket : kernel.socket after = kernel.socket session
  index : forall socket, kernel.socket session = some socket ->
    kernel.indexOf after.self socket = kernel.indexOf session.self socket

theorem SameAnswers.listing {after : Session} (same : SameAnswers kernel session after) :
    kernel.listing text after = kernel.listing text session := by
  rw [Kernel.listing, Kernel.listing, same.socket, same.device]
  cases found : kernel.socket session with
  | none => rfl
  | some socket => simp only [same.index socket found]

section Next

variable {after : Session}
  (shared : after.shared = (openNetlink session.shared session.self kernel.opening).shared)
  (self : after.self = (openAndSetIndex session (kernel.calls session).toOpeningCalls).2.self)
include shared self

/-- So it is unless the connection fails or the index zero is found, and then
the next query is in the same position. -/
theorem sameAnswers_next (connects : ¬ kernel.ConnectFails session)
    (nonzero : ¬ kernel.FindsZero session) :
    SameAnswers kernel session after ∧ ¬ kernel.ConnectFails after ∧
      ¬ kernel.FindsZero after := by
  cases found : kernel.socket session with
  | none =>
      rcases socket_refused found with ⟨absent, refused⟩
      have unallocated : kernel.opening.socketAlloc = false := by
        by_contra allocated
        rw [Bool.not_eq_false] at allocated
        have negative : ¬ (0 ≤ kernel.opening.connect) := by
          intro positive
          simp [openNetlink, absent, allocated, Int.not_lt.mpr positive] at refused
        exact connects ⟨absent, allocated, Int.not_le.mp negative⟩
      have kept : after.shared = session.shared := by
        rw [shared]
        simp [openNetlink, absent, unallocated]
      have unopened : session.connects (kernel.calls session).toOpeningCalls = false :=
        (openNetlink_returned session (kernel.calls session).toOpeningCalls).symm.trans refused
      have same : after.self = session.self := by
        rw [self, openAndSetIndex_self, unopened]
        rfl
      have later : kernel.socket after = none := by
        simp [Kernel.socket, kept, absent, unallocated]
      refine ⟨⟨by rw [same], by rw [later, found], ?_⟩, ?_, ?_⟩
      · intro socket other
        rw [found] at other
        cases other
      · rintro ⟨_, allocated, _⟩
        rw [unallocated] at allocated
        cases allocated
      · rintro ⟨_, socket, _, _, other, _⟩
        rw [later] at other
        cases other
  | some socket =>
      have opened := (socket_opened found).2
      have later : kernel.socket after = some socket := by
        simp only [Kernel.socket, shared, opened]
      rcases openAndSetIndex_stores found with ⟨device, index⟩
      rw [← self] at device index
      refine ⟨⟨device, by rw [later, found], ?_⟩, ?_, ?_⟩
      · intro other same
        rw [found] at same
        cases same
        refine indexOf_stored device index (fun links link unset filled named zero => ?_)
        exact nonzero ⟨unset, socket, links, link, found, filled, named, zero⟩
      · rintro ⟨absent, _⟩
        rw [shared, opened] at absent
        cases absent
      · rintro ⟨unset, other, links, link, same, filled, named, zero⟩
        rw [later] at same
        cases same
        rw [device] at named
        have earlier : session.self.index < 0 := by
          by_contra resolved
          rw [index, storedIndex, if_neg resolved] at unset
          exact resolved unset
        exact nonzero ⟨earlier, socket, links, link, found, filled, named, zero⟩

end Next

end Kernel

/-! ## Any sequence of reads -/

section Reads

variable (text : AddressText) (kernel : Kernel) {session : Session}

theorem readings_listing (clear : session.pending = none)
    (connects : ¬ kernel.ConnectFails session) (nonzero : ¬ kernel.FindsZero session)
    {listing : Except PyError (List PyNetlinkIPaddress)}
    (found : kernel.listing text session = some listing) (reads : List Ipv4Read) :
    readings text kernel session reads = reads.map (shownOf listing) := by
  induction reads generalizing session with
  | nil => rfl
  | cons read reads ih =>
      rcases Kernel.readIpv4_calls clear found read with ⟨after, shows, quiet, shared, self⟩
      rcases Kernel.sameAnswers_next shared self connects nonzero with
        ⟨same, connectsNext, nonzeroNext⟩
      simp only [readings, shows, List.map_cons]
      rw [ih quiet connectsNext nonzeroNext (same.listing.trans found)]

/-- A read shows one listing. -/
theorem shownOf_addresses {first second : Except PyError (List PyNetlinkIPaddress)}
    (same : shownOf first .addresses = shownOf second .addresses) : first = second := by
  cases first with
  | ok listed =>
      cases second with
      | ok others => exact congrArg Except.ok (Reading.list.inj same)
      | error error => cases same
  | error error =>
      cases second with
      | ok others => cases same
      | error other => exact congrArg Except.error (Reading.raised.inj same)

/-- Where the reads agree, the second one finds what the first one found. -/
theorem readings_twice (clear : session.pending = none)
    {listing : Except PyError (List PyNetlinkIPaddress)}
    (found : kernel.listing text session = some listing) :
    ∃ after, after.shared = (openNetlink session.shared session.self kernel.opening).shared ∧
      after.self = (openAndSetIndex session (kernel.calls session).toOpeningCalls).2.self ∧
      (ReadsAgree text kernel session -> kernel.listing text after = some listing) := by
  rcases Kernel.readIpv4_calls clear found .addresses with ⟨after, shows, quiet, shared, self⟩
  refine ⟨after, shared, self, ?_⟩
  rintro ⟨agreed, agree⟩
  have both := agree [.addresses, .addresses]
  cases second : kernel.listing text after with
  | none =>
      rcases @Kernel.readIpv4_unlisted text kernel _ quiet second .addresses with ⟨fault, faults⟩
      simp only [readings, shows, faults, List.map_cons, List.map_nil, List.cons.injEq,
        and_true] at both
      cases agreed with
      | ok listed => cases both.2
      | error error => cases both.2
  | some other =>
      rcases Kernel.readIpv4_calls quiet second .addresses with ⟨last, showsAgain, _⟩
      simp only [readings, shows, showsAgain, List.map_cons, List.map_nil, List.cons.injEq,
        and_true] at both
      rw [shownOf_addresses (both.2.trans both.1.symm)]

/-- After a connection that failed, the next query runs on the socket that was
left, and does not raise the same exception. -/
theorem not_readsAgree_connectFails (clear : session.pending = none)
    (fails : kernel.ConnectFails session) : ¬ ReadsAgree text kernel session := by
  rcases fails with ⟨absent, allocated, negative⟩
  have unconnected : kernel.socket session = none := by
    simp [Kernel.socket, absent, Int.not_le.mpr negative]
  have raised : kernel.listing text session = some (.error (openFailed session.self.device)) := by
    rw [Kernel.listing, unconnected]
  rcases readings_twice text kernel clear raised with ⟨after, shared, _, agree⟩
  intro agrees
  have stays : kernel.socket after = some ⟨false⟩ := by
    simp [Kernel.socket, shared, openNetlink, absent, allocated, negative]
  cases Kernel.listing_raises stays (agree agrees)

/-- After the index zero is refused, the next query does not look it up. -/
theorem not_readsAgree_findsZero (clear : session.pending = none)
    (zero : kernel.FindsZero session) : ¬ ReadsAgree text kernel session := by
  rcases zero with ⟨unset, socket, links, link, found, filled, named, zero⟩
  have raised : kernel.listing text session = some (.error ⟨.osError, .errno ENODEV⟩) := by
    simp [Kernel.listing, found, Kernel.indexOf, unset, filled, named, zero]
  rcases readings_twice text kernel clear raised with ⟨after, shared, self, agree⟩
  intro agrees
  have stays : kernel.socket after = some socket := by
    simp only [Kernel.socket, shared, (Kernel.socket_opened found).2]
  have stored : after.self.index = 0 := by
    rw [self, (Kernel.openAndSetIndex_stores found).2]
    simp [Kernel.storedIndex, unset, filled, named, zero]
  have resolved : kernel.indexOf after.self socket = .ok 0 := by
    simp [Kernel.indexOf, stored]
  have raises : kernel.recordsAt text socket 0 = some (.error ⟨.osError, .errno ENODEV⟩) := by
    calc kernel.recordsAt text socket 0
        = kernel.listing text after := by simp only [Kernel.listing, stays, resolved]
      _ = some (.error ⟨.osError, .errno ENODEV⟩) := agree agrees
  exact (Kernel.recordsAt_raises raises).2 rfl

/-- Where the dump fails, the first read shows nothing. -/
theorem not_readsAgree_dumpFails (clear : session.pending = none)
    (fails : kernel.DumpFails session) : ¬ ReadsAgree text kernel session := by
  rintro ⟨listing, agree⟩
  have absent : kernel.listing text session = none := Kernel.listing_eq_none_iff.mpr fails
  rcases @Kernel.readIpv4_unlisted text kernel _ clear absent .addresses with ⟨fault, faults⟩
  have first := agree [.addresses]
  simp only [readings, faults, List.map_cons, List.map_nil, List.cons.injEq, and_true] at first
  cases listing with
  | ok listed => cases first
  | error error => cases first

/-- The reads agree unless the first one fails to connect its socket, finds
the index zero, or gets no dump. -/
theorem readsAgree_iff (clear : session.pending = none) :
    ReadsAgree text kernel session ↔
      ¬ kernel.ConnectFails session ∧ ¬ kernel.FindsZero session ∧
        ¬ kernel.DumpFails session := by
  constructor
  · intro agrees
    exact ⟨fun fails => not_readsAgree_connectFails text kernel clear fails agrees,
      fun zero => not_readsAgree_findsZero text kernel clear zero agrees,
      fun fails => not_readsAgree_dumpFails text kernel clear fails agrees⟩
  · rintro ⟨connects, nonzero, dumps⟩
    cases found : kernel.listing text session with
    | none => exact absurd (Kernel.listing_eq_none_iff.mp found) dumps
    | some listing =>
        exact ⟨listing, readings_listing text kernel clear connects nonzero found⟩

end Reads

/-- A kernel that answers on a connected socket, with two addresses of the
interface `eth0` among those of other families and interfaces. -/
def quietKernel : Kernel where
  opening := .success
  linkCache := fun socket =>
    if socket.connected then .ok [eth0Link.toRtnlLink] else .error "Bad socket"
  addrCache := fun socket =>
    if socket.connected then
      .ok [({ eth0Addr with broadcast := none }, .success), (eth0Addr6, .success),
        (eth0Addr, .success), ({ eth0Addr with ifindex := 3 }, .success)]
    else .error "Bad socket"
  addrAlloc := true
  converts := by
    intro socket records filled record member
    split at filled
    · cases filled
      revert record
      decide
    · cases filled

theorem readsAgree_quiet :
    ReadsAgree plainText quietKernel .fresh ∧
      readings plainText quietKernel .fresh [.broadcast, .address, .addresses] =
        [.value (.str "10.0.0.255"), .value (.str "10.0.0.1"),
          .list [addressOf plainText { eth0Addr with broadcast := none },
            addressOf plainText eth0Addr]] := by
  refine ⟨(readsAgree_iff plainText quietKernel rfl).mpr ⟨?_, ?_, ?_⟩, by decide⟩
  · rintro ⟨_, _, negative⟩
    cases negative
  · rintro ⟨_, socket, links, link, found, filled, named, zero⟩
    cases found
    cases filled
    cases named
    cases zero
  · rintro ⟨socket, _, _, found, _, failed⟩
    cases found
    cases failed

/-- The same kernel, but the link has the index zero. -/
def zeroKernel : Kernel :=
  { quietKernel with linkCache := fun _ => .ok [{ name := eth0, ifindex := 0 }] }

/-- The list raises the first time, and is empty the second time. -/
theorem zeroKernel_reads_disagree : ¬ ReadsAgree plainText zeroKernel .fresh := by
  rintro ⟨listing, agree⟩
  have both := agree [.addresses, .addresses]
  have shown : readings plainText zeroKernel .fresh [.addresses, .addresses] =
      [.raised ⟨.osError, .errno ENODEV⟩, .list []] := by decide
  rw [shown] at both
  cases listing with
  | ok listed => cases both
  | error error => cases both

end Netlink
end PythonEthtool
