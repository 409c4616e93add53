import PythonEthtool.Netlink.Outcomes

namespace PythonEthtool
namespace Netlink

open Foundations
open Python

/-!
# What the interpreter is told

A C function tells the interpreter of a failure twice: it returns NULL and it
leaves an exception pending.  The functions here do not always do both.
`mac_address` returns what the object holds whatever became of the query.  The
string is made of the results of three queries whatever became of them.  A
list of addresses is returned although the exception of a skipped record is
pending.  And where a record cannot be taken apart again there is nothing to
return at all.  Each theorem says under which condition on the state and on
libnl's answers the two agree.
-/

/-- A value and no exception, or NULL and an exception. -/
def Returned.Proper {α : Type} (result : Returned α) : Prop :=
  (result.value.isSome ∧ result.session.pending = none) ∨
    (result.value = none ∧ result.session.pending.isSome)

/-- The function ends, and does so. -/
def Proper {α : Type} (outcome : Except Stopped (Returned α)) : Prop :=
  ∃ result, outcome = .ok result ∧ result.Proper

/-! ## The hardware address -/

/-- The connection, the lookup of the name or the dump of the links fails.
The dump needs the cache and the link that serves as its filter. -/
def Session.LinkFails (session : Session) (calls : LinkCalls) : Prop :=
  session.connects calls.toOpeningCalls = false ∨
    session.self.lookup calls.indexCache = none ∨
    (∃ error, calls.linkCache = .error error) ∨ calls.linkAlloc = false

/-- The dump has a link with the index of the object. -/
def Session.LinkPresent (session : Session) (calls : LinkCalls) : Prop :=
  ∃ index links link, session.self.lookup calls.indexCache = some index ∧
    calls.linkCache = .ok links ∧ link ∈ links ∧ link.ifindex = index

section HardwareAddress

variable (text : AddressText) {session : Session} {calls : LinkCalls}

theorem linksFor_eq_none_iff : session.linksFor calls = none ↔ session.LinkFails calls := by
  unfold Session.linksFor Session.indexFor Session.LinkFails
  cases connected : session.connects calls.toOpeningCalls with
  | false => simp
  | true =>
      cases found : session.self.lookup calls.indexCache with
      | none => simp
      | some index =>
          cases filled : calls.linkCache with
          | error error => simp
          | ok links => simp

theorem linksFor_nonempty_iff {links : List LinkRecord}
    (walked : session.linksFor calls = some links) :
    links ≠ [] ↔ session.LinkPresent calls := by
  rcases linksFor_walked walked with ⟨index, dump, indexed, filled, _, rfl⟩
  have looked := (Session.indexFor_eq_some indexed).2
  simp only [ne_eq, List.filter_eq_nil_iff, decide_eq_true_eq, not_forall, not_not]
  constructor
  · rintro ⟨link, member, same⟩
    exact ⟨index, dump, link, looked, filled, member, same⟩
  · rintro ⟨other, others, link, found, listed, member, same⟩
    rw [looked] at found
    rw [filled] at listed
    cases found
    cases listed
    exact ⟨link, member, same⟩

/-- A failure is reported as an exception, and nothing else is: the string
comes without an exception, and NULL comes with one precisely when the query
fails or the link is not there. -/
structure ReportsLinkFailure (session : Session) (calls : LinkCalls) : Prop where
  proper : (getMacAddr text session calls).Proper
  raises_iff :
    ((getMacAddr text session calls).value = none ∧
        (getMacAddr text session calls).session.pending.isSome) ↔
      session.LinkFails calls ∨ ¬ session.LinkPresent calls

theorem reportsLinkFailure_iff (clear : session.pending = none) :
    ReportsLinkFailure text session calls ↔
      (session.LinkFails calls ∧ session.self.hwaddress = none) ∨
        (¬ session.LinkFails calls ∧ session.LinkPresent calls) := by
  cases walked : session.linksFor calls with
  | none =>
      have fails := linksFor_eq_none_iff.mp walked
      rcases getEtherinfoLink_failed text walked with ⟨_, hwaddress, pending⟩
      have value : (getMacAddr text session calls).value = session.self.hwaddress := hwaddress
      constructor
      · intro reports
        refine Or.inl ⟨fails, ?_⟩
        rw [← value]
        exact (reports.raises_iff.mpr (Or.inl fails)).1
      · rintro (⟨_, uncached⟩ | ⟨succeeds, _⟩)
        · rw [uncached] at value
          exact ⟨Or.inr ⟨value, pending⟩, fun _ => Or.inl fails, fun _ => ⟨value, pending⟩⟩
        · exact absurd fails succeeds
  | some links =>
      have succeeds : ¬ session.LinkFails calls := by
        rw [← linksFor_eq_none_iff, walked]
        exact Option.some_ne_none links
      rcases getEtherinfoLink_walked text walked with ⟨_, hwaddress, pending⟩
      rw [clear] at pending
      -- Nothing is pending, so the read must not fail and the link must be there.
      have quiet : (getMacAddr text session calls).session.pending = none := pending
      constructor
      · intro reports
        refine Or.inr ⟨succeeds, ?_⟩
        by_contra absent
        have raised := reports.raises_iff.mpr (Or.inr absent)
        rw [quiet] at raised
        cases raised.2
      · rintro (⟨fails, _⟩ | ⟨_, present⟩)
        · exact absurd fails succeeds
        · have given : (getMacAddr text session calls).value.isSome := by
            have nonempty := (linksFor_nonempty_iff walked).mpr present
            simp [getMacAddr, hwaddress, nonempty]
          refine ⟨Or.inl ⟨given, quiet⟩, ?_, ?_⟩
          · rintro ⟨_, raised⟩
            rw [quiet] at raised
            cases raised
          · rintro (fails | absent)
            · exact absurd fails succeeds
            · exact absurd present absent

end HardwareAddress

theorem not_linkFails_eth0 : ¬ Session.fresh.LinkFails (.dump [eth0Link]) := by
  rintro (refused | missing | ⟨_, failed⟩ | unallocated)
  · cases refused
  · cases missing
  · cases failed
  · cases unallocated

theorem reportsLinkFailure_eth0 :
    ReportsLinkFailure plainText .fresh (.dump [eth0Link]) := by
  refine (reportsLinkFailure_iff plainText rfl).mpr (Or.inr ⟨not_linkFails_eth0, ?_⟩)
  exact ⟨2, [eth0Link], eth0Link, rfl, rfl, List.mem_singleton_self _, rfl⟩

/-- The first read stores the address.  The dump of the second one fails, and
the stored address is returned while that exception is pending. -/
theorem cached_address_with_exception :
    ¬ ReportsLinkFailure plainText (getMacAddr plainText .fresh (.dump [eth0Link])).handled
      { LinkCalls.dump [] with linkCache := .error "Out of memory" } := by
  intro reports
  have raised := reports.raises_iff.mpr (Or.inl (Or.inr (Or.inr (Or.inl ⟨_, rfl⟩))))
  cases raised.1

/-! ## The lists of addresses -/

/-- The constructor makes no object of the record. -/
def recordFails (text : AddressText) (record : RtnlAddr × Building) : Bool :=
  (pyNetlinkIPaddressFromRtnlAddr text record.1 record.2 none).returned.isNone

/-- A list is returned if no record failed, and then nothing is pending.  If
one failed, NULL is returned with the exception, and the three attributes
that show an entry of the list have no value while one is pending. -/
structure FailsAsWhole (text : AddressText) (session : Session) (query : NlQuery)
    (calls : AddressCalls) (records : List (RtnlAddr × Building)) : Prop where
  listed_iff : (∃ listed, Returns (getEtherinfoAddress text session query calls) listed) ↔
    forall record, record ∈ records -> recordFails text record = false
  listed_clear : forall result, getEtherinfoAddress text session query calls = .ok result ->
    result.value.isSome -> result.session.pending = none
  failed_raises : (∃ record, record ∈ records ∧ recordFails text record = true) ->
    ∃ result, getEtherinfoAddress text session query calls = .ok result ∧
      result.value = none ∧ result.session.pending.isSome
  address_clear : query = .addr4 -> forall result, getIpv4Addr text session calls = .ok result ->
    result.value.isSome -> result.session.pending = none
  netmask_clear : query = .addr4 -> forall result, getIpv4Mask text session calls = .ok result ->
    result.value.isSome -> result.session.pending = none
  broadcast_clear : query = .addr4 ->
    forall result, getIpv4Bcast text session calls = .ok result ->
      result.value.isSome -> result.session.pending = none

section Addresses

variable (text : AddressText) {session : Session} {query : NlQuery} {calls : AddressCalls}

theorem recordFails_clean {record : RtnlAddr × Building} (supported : record.1.Supported)
    (clean : ¬ record.2.Raises record.1) : recordFails text record = false := by
  rcases clean_iff.mp ⟨supported, clean⟩ with ⟨allocated, onward, _⟩
  rw [recordFails, attempt_finished text none allocated onward]
  rfl

/-- A walk that meets a fault meets it at a record that gets no object. -/
theorem recordFails_of_fault {records : List (RtnlAddr × Building)} {walk : Walk} {fault : Fault}
    (stopped : records.foldlM (callbackNlAddress text) walk = .error fault) :
    ∃ record, record ∈ records ∧ recordFails text record = true := by
  induction records generalizing walk with
  | nil => cases stopped
  | cons record records ih =>
      rw [List.foldlM_cons] at stopped
      cases called : callbackNlAddress text walk record with
      | ok next =>
          rw [called] at stopped
          rcases ih stopped with ⟨failing, member, fails⟩
          exact ⟨failing, List.mem_cons_of_mem record member, fails⟩
      | error other =>
          refine ⟨record, List.mem_cons_self, ?_⟩
          rw [callbackNlAddress] at called
          by_cases unknown : record.1.family ≠ AF_INET ∧ record.1.family ≠ AF_INET6
          · rw [if_pos unknown] at called
            cases called
          · rw [if_neg unknown] at called
            have supported : record.1.Supported := by
              rw [not_and_or, not_not, not_not] at unknown
              exact unknown
            rcases @makePythonAddress_cases text record.1 record.2 walk.pending supported with
              ⟨_, made⟩ | ⟨_, _, made⟩ | ⟨allocated, jumps, _⟩
            · rw [made] at called
              cases called
            · rw [made] at called
              cases called
            · rcases @attempt_jumped text record.1 record.2 none allocated jumps with
                ⟨memory, returned, _⟩
              rw [recordFails, returned]
              rfl

/-- The query does so precisely when no call that is made for one of its
records fails. -/
theorem failsAsWhole_iff (clear : session.pending = none)
    {records : List (RtnlAddr × Building)}
    (walked : session.addressesFor query calls = some records) :
    FailsAsWhole text session query calls records ↔
      forall record, record ∈ records -> ¬ record.2.Raises record.1 := by
  constructor
  · intro whole record member raises
    cases outcome : getEtherinfoAddress text session query calls with
    | ok result =>
        rcases getEtherinfoAddress_raises text walked member raises outcome with
          ⟨listed, pending⟩
        rw [whole.listed_clear result outcome listed] at pending
        cases pending
    | error fault =>
        have stopped := outcome
        rw [getEtherinfoAddress_walked text walked] at stopped
        cases walk : records.foldlM (callbackNlAddress text)
            { addrlist := [], pending := session.pending } with
        | ok last =>
            rw [walk] at stopped
            cases stopped
        | error other =>
            rcases whole.failed_raises (recordFails_of_fault text walk) with ⟨result, ended, _⟩
            rw [outcome] at ended
            cases ended
  · intro clean
    rcases getEtherinfoAddress_clean text walked clean with ⟨after, returns, pending⟩
    rw [clear] at pending
    have fine : forall record, record ∈ records -> recordFails text record = false :=
      fun record member =>
        recordFails_clean text (addressesFor_supported walked member) (clean record member)
    -- The three attributes leave the session as the query does.
    have last (field : PyNetlinkIPaddress -> Option PyValue) (absent : PyValue)
        (result : Returned PyValue)
        (ended : (getEtherinfoAddress text session query calls).map (lastIpv4 field absent) =
          .ok result) : result.session.pending = none := by
      rw [returns] at ended
      cases ended
      rw [lastIpv4_session]
      exact pending
    refine ⟨⟨fun _ => fine, fun _ => ⟨_, after, returns⟩⟩, ?_, ?_, ?_, ?_, ?_⟩
    · intro result ended _
      rw [returns] at ended
      cases ended
      exact pending
    · rintro ⟨record, member, failed⟩
      rw [fine record member] at failed
      cases failed
    · rintro rfl result ended _
      exact last _ _ result ended
    · rintro rfl result ended _
      exact last _ _ result ended
    · rintro rfl result ended _
      exact last _ _ result ended

end Addresses

/-- Two addresses, and no memory for the object of the first. -/
def outOfMemory : List (RtnlAddr × Building) :=
  [(eth0Addr, { Building.success with newObject := false }),
    ({ eth0Addr with prefixlen := 8 }, .success)]

theorem failsAsWhole_eth0 :
    FailsAsWhole plainText .fresh .addr4
      (.dump [(eth0Addr, .success), (eth0Addr6, { Building.success with strPeer := false })])
      [(eth0Addr, .success)] :=
  (failsAsWhole_iff plainText rfl rfl).mpr (by decide)

/-- The list is returned with the second address only, and the exception of
the first. -/
theorem returns_list_with_exception :
    Session.fresh.addressesFor .addr4 (.dump outOfMemory) = some outOfMemory ∧
      ¬ FailsAsWhole plainText .fresh .addr4 (.dump outOfMemory) outOfMemory := by
  refine ⟨rfl, ?_⟩
  intro whole
  have listed := whole.listed_clear _ rfl rfl
  cases listed

/-! ## The string -/

/-- The exceptions that were pending when the queries of a log started. -/
def startsOf (log : List QueryEvent) : List (Option PyError) :=
  log.filterMap (fun event =>
    match event with
    | .started pending => some pending
    | _ => none)

/-- The string comes without an exception, or NULL with one, and none of the
three queries starts while an exception is pending. -/
structure StringProtocol (text : AddressText) (session : Session) (link : LinkCalls)
    (ipv4 ipv6 : AddressCalls) : Prop where
  proper : Proper (ethtoolEtherinfoStr text session link ipv4 ipv6)
  starts : forall result, ethtoolEtherinfoStr text session link ipv4 ipv6 = .ok result ->
    startsOf result.session.log = startsOf session.log ++ [none, none, none]

/-- The dump comes, and no call that is made for one of its records of this
index and family fails. -/
def AddressCalls.Clean (calls : AddressCalls) (index : Int) (query : NlQuery) : Prop :=
  calls.addrAlloc = true ∧ ∃ records, calls.addrCache = .ok records ∧
    forall record, record ∈ records -> record.1.ifindex = index ->
      record.1.family = query.family -> ¬ record.2.Raises record.1

@[simp] theorem startsOf_append (log events : List QueryEvent) :
    startsOf (log ++ events) = startsOf log ++ startsOf events :=
  List.filterMap_append

theorem startsOf_libnl (events : List LibnlEvent) :
    startsOf (events.map QueryEvent.libnl) = [] := by
  simp [startsOf]

theorem startsOf_lookupEvents (self : PyEtherInfo) (cache : Except String (List RtnlLink)) :
    startsOf (lookupEvents self cache) = [] := by
  unfold lookupEvents
  split
  · cases cache <;> rfl
  · rfl

section Starts

variable (text : AddressText) (session : Session)

theorem startsOf_openAndSetIndex (calls : OpeningCalls) :
    startsOf (openAndSetIndex session calls).2.log =
      startsOf session.log ++ [session.pending] := by
  unfold openAndSetIndex
  dsimp only
  split
  · simp only [Session.record, startsOf_append, startsOf_lookupEvents, startsOf_libnl,
      List.append_nil]
    rfl
  · simp only [Session.record, Session.setError, startsOf_append]
    rfl

theorem startsOf_perform {query : Query} {after : Session}
    (performed : query.perform text session = .ok after) :
    startsOf after.log = startsOf session.log ++ [session.pending] := by
  rcases query.perform_log text session with ⟨first, last, walk, log, walked⟩
  rw [performed] at log
  have log : after.log = _ := log
  simp only [log, startsOf_append, startsOf_libnl, startsOf_openAndSetIndex, List.append_nil,
    List.nil_append]
  rcases walked with rfl | ⟨_, family, rfl⟩
  · exact List.append_nil _
  · exact List.append_nil _

end Starts

section EtherinfoString

variable (text : AddressText) {session : Session}

theorem getEtherinfoLink_pending_iff (clear : session.pending = none) (calls : LinkCalls) :
    (getEtherinfoLink text session calls).2.pending = none ↔ ¬ session.LinkFails calls := by
  rw [← linksFor_eq_none_iff]
  cases walked : session.linksFor calls with
  | none =>
      have pending := (getEtherinfoLink_failed text walked).2.2
      simp [Option.isSome_iff_ne_none.mp pending]
  | some links =>
      have pending := (getEtherinfoLink_walked text walked).2.2
      simp [pending, clear]

theorem getEtherinfoLink_settled {calls : LinkCalls} (succeeds : ¬ session.LinkFails calls) :
    (getEtherinfoLink text session calls).2.Settled ∧
      session.self.lookup calls.indexCache =
        some (getEtherinfoLink text session calls).2.self.index := by
  have connects : session.connects calls.toOpeningCalls = true := by
    cases connected : session.connects calls.toOpeningCalls with
    | false => exact absurd (Or.inl connected) succeeds
    | true => rfl
  cases found : session.self.lookup calls.indexCache with
  | none => exact absurd (Or.inr (Or.inl found)) succeeds
  | some index =>
      have indexed : session.indexFor calls.toOpeningCalls = some index := by
        rw [Session.indexFor, if_pos connects, found]
      have settled := openAndSetIndex_settled indexed
      rcases getEtherinfoLink_session text session calls with ⟨shared, same, _⟩
      refine ⟨⟨?_, ?_⟩, ?_⟩
      · rw [shared]
        exact settled.connected
      · rw [same]
        exact settled.resolved
      · rw [same, (openAndSetIndex_found indexed).2.1]

theorem getEtherinfoAddress_settled (settled : session.Settled) {query : NlQuery}
    {calls : AddressCalls} {result : Returned (List PyNetlinkIPaddress)}
    (returns : getEtherinfoAddress text session query calls = .ok result) :
    result.session.Settled ∧ result.session.self.index = session.self.index := by
  have indexed := settled.indexFor calls.toOpeningCalls
  have later := openAndSetIndex_settled indexed
  rcases getEtherinfoAddress_session text returns with ⟨shared, self⟩
  refine ⟨⟨?_, ?_⟩, ?_⟩
  · rw [shared]
    exact later.connected
  · rw [self]
    exact later.resolved
  · rw [self, (openAndSetIndex_found indexed).2.1]

/-- A query of an object that has its index leaves nothing pending precisely
if its dump comes and all records are converted. -/
theorem getEtherinfoAddress_quiet_iff (clear : session.pending = none)
    (settled : session.Settled) (query : NlQuery) (calls : AddressCalls) :
    (∃ result, getEtherinfoAddress text session query calls = .ok result ∧
        result.session.pending = none) ↔
      calls.Clean session.self.index query := by
  have indexed := settled.indexFor calls.toOpeningCalls
  cases walked : session.addressesFor query calls with
  | none =>
      constructor
      · rintro ⟨result, ended, quiet⟩
        have pending := (getEtherinfoAddress_failed text walked ended).2
        rw [quiet] at pending
        cases pending
      · rintro ⟨allocated, records, filled, _⟩
        simp [Session.addressesFor, indexed, filled, allocated] at walked
  | some records =>
      rcases addressesFor_walked walked with ⟨index, dump, found, filled, allocated, same⟩
      have index_eq : session.self.index = index := by
        rw [indexed] at found
        exact Option.some.inj found
      constructor
      · rintro ⟨result, ended, quiet⟩
        refine ⟨allocated, dump, filled, ?_⟩
        intro record member own family raises
        have matching : record ∈ records := by
          rw [same]
          exact List.mem_filter.mpr ⟨member, decide_eq_true ⟨own.trans index_eq, family⟩⟩
        have pending := (getEtherinfoAddress_raises text walked matching raises ended).2
        rw [quiet] at pending
        cases pending
      · rintro ⟨_, others, listed, clean⟩
        rw [filled] at listed
        cases listed
        have fine : forall record, record ∈ records -> ¬ record.2.Raises record.1 := by
          intro record member
          rw [same] at member
          rcases List.mem_filter.mp member with ⟨present, matching⟩
          have parts := of_decide_eq_true matching
          exact clean record present (parts.1.trans index_eq.symm) parts.2
        rcases getEtherinfoAddress_clean text walked fine with ⟨after, returns, pending⟩
        exact ⟨_, returns, pending.trans clear⟩

/-- What a query lists, without an exception, has its scope. -/
theorem scope_of_quiet {query : NlQuery} {calls : AddressCalls}
    {result : Returned (List PyNetlinkIPaddress)}
    (returns : getEtherinfoAddress text session query calls = .ok result)
    (quiet : result.session.pending = none) {address : PyNetlinkIPaddress}
    (member : address ∈ result.value.getD []) : address.scope.isSome := by
  cases walked : session.addressesFor query calls with
  | none =>
      rw [(getEtherinfoAddress_failed text walked returns).1] at member
      cases member
  | some records =>
      have clean : forall record, record ∈ records -> ¬ record.2.Raises record.1 := by
        intro record inside raises
        have pending := (getEtherinfoAddress_raises text walked inside raises returns).2
        rw [quiet] at pending
        cases pending
      rcases getEtherinfoAddress_clean text walked clean with ⟨after, listed, _⟩
      rw [listed] at returns
      cases returns
      rcases List.mem_map.mp member with ⟨record, _, rfl⟩
      rfl

theorem ipv4Line_ok (address : PyNetlinkIPaddress) (_ : address.scope.isSome) :
    ∃ made, ipv4Line address = .ok made :=
  ⟨_, rfl⟩

theorem ipv6Line_ok (address : PyNetlinkIPaddress) (scoped_ : address.scope.isSome) :
    ∃ made, ipv6Line address = .ok made := by
  rcases Option.isSome_iff_exists.mp scoped_ with ⟨scope, found⟩
  rw [ipv6Line, found]
  exact ⟨_, rfl⟩

/-- The lines of a list are all made where each of them is. -/
theorem appendLines_ok {line : PyNetlinkIPaddress -> Except Fault String}
    {addresses : List PyNetlinkIPaddress}
    (fine : forall address, address ∈ addresses -> ∃ made, line address = .ok made)
    (ret : String) : ∃ whole, appendLines line ret (some addresses) = .ok whole := by
  unfold appendLines
  rw [Option.getD_some]
  induction addresses generalizing ret with
  | nil => exact ⟨ret, rfl⟩
  | cons address rest ih =>
      rcases fine address List.mem_cons_self with ⟨made, first⟩
      rw [List.foldlM_cons, first]
      exact ih (fun later member => fine later (List.mem_cons_of_mem address member)) (ret ++ made)

theorem appendLines_listed {query : NlQuery} {calls : AddressCalls}
    {result : Returned (List PyNetlinkIPaddress)} (quiet : result.session.pending = none)
    {line : PyNetlinkIPaddress -> Except Fault String}
    (fine : forall address : PyNetlinkIPaddress, address.scope.isSome ->
      ∃ made, line address = .ok made)
    (returns : getEtherinfoAddress text session query calls = .ok result) (ret : String) :
    ∃ whole, appendLines line ret result.value = .ok whole := by
  have made := appendLines_ok (fun address member =>
    fine address (scope_of_quiet text returns quiet member)) ret
  rw [appendLines] at made ⊢
  exact made

/-- The exceptions with which the three queries start. -/
theorem startsOf_ethtoolEtherinfoStr {link : LinkCalls} {ipv4 ipv6 : AddressCalls}
    {listed4 listed6 : Returned (List PyNetlinkIPaddress)}
    (returns4 : getEtherinfoAddress text (getEtherinfoLink text session link).2 .addr4 ipv4 =
      .ok listed4)
    (returns6 : getEtherinfoAddress text listed4.session .addr6 ipv6 = .ok listed6) :
    startsOf listed6.session.log = startsOf session.log ++
      [session.pending, (getEtherinfoLink text session link).2.pending,
        listed4.session.pending] := by
  have first := startsOf_perform text session
    (rfl : (Query.link link).perform text session = .ok (getEtherinfoLink text session link).2)
  have second : startsOf listed4.session.log = _ :=
    startsOf_perform text (getEtherinfoLink text session link).2
      (by rw [Query.perform, returns4]; rfl : (Query.address .addr4 ipv4).perform text
        (getEtherinfoLink text session link).2 = .ok listed4.session)
  have third : startsOf listed6.session.log = _ :=
    startsOf_perform text listed4.session
      (by rw [Query.perform, returns6]; rfl : (Query.address .addr6 ipv6).perform text
        listed4.session = .ok listed6.session)
  rw [third, second, first]
  simp only [List.append_assoc, List.cons_append, List.nil_append]

/-- The string keeps to the protocol precisely when none of the three queries
fails and all records of the interface are converted. -/
theorem stringProtocol_iff (clear : session.pending = none) (link : LinkCalls)
    (ipv4 ipv6 : AddressCalls) :
    StringProtocol text session link ipv4 ipv6 ↔
      ¬ session.LinkFails link ∧
        forall index, session.self.lookup link.indexCache = some index ->
          ipv4.Clean index .addr4 ∧ ipv6.Clean index .addr6 := by
  constructor
  · rintro ⟨⟨result, ended, proper⟩, starts⟩
    rcases ethtoolEtherinfoStr_queries text ended with
      ⟨listed4, listed6, returns4, returns6, value, same⟩
    have quiet : listed6.session.pending = none := by
      rcases proper with ⟨_, pending⟩ | ⟨absent, _⟩
      · rw [← same]
        exact pending
      · rw [absent] at value
        cases value
    have started := starts result ended
    rw [same, startsOf_ethtoolEtherinfoStr text returns4 returns6] at started
    have entries := List.append_cancel_left started
    simp only [List.cons.injEq, and_true] at entries
    rcases entries with ⟨_, linked, listed⟩
    have succeeds := (getEtherinfoLink_pending_iff text clear link).mp linked
    rcases getEtherinfoLink_settled text succeeds with ⟨settled, looked⟩
    rcases getEtherinfoAddress_settled text settled returns4 with ⟨settled4, kept⟩
    refine ⟨succeeds, fun index found => ?_⟩
    rw [looked] at found
    cases found
    refine ⟨(getEtherinfoAddress_quiet_iff text linked settled .addr4 ipv4).mp
      ⟨listed4, returns4, listed⟩, ?_⟩
    rw [← kept]
    exact (getEtherinfoAddress_quiet_iff text listed settled4 .addr6 ipv6).mp
      ⟨listed6, returns6, quiet⟩
  · rintro ⟨succeeds, clean⟩
    have linked := (getEtherinfoLink_pending_iff text clear link).mpr succeeds
    rcases getEtherinfoLink_settled text succeeds with ⟨settled, looked⟩
    rcases clean _ looked with ⟨clean4, clean6⟩
    rcases (getEtherinfoAddress_quiet_iff text linked settled .addr4 ipv4).mpr clean4 with
      ⟨listed4, returns4, quiet4⟩
    rcases getEtherinfoAddress_settled text settled returns4 with ⟨settled4, kept⟩
    rw [← kept] at clean6
    rcases (getEtherinfoAddress_quiet_iff text quiet4 settled4 .addr6 ipv6).mpr clean6 with
      ⟨listed6, returns6, quiet6⟩
    have lines4 := appendLines_listed text quiet4 ipv4Line_ok returns4
    have lines6 := appendLines_listed text quiet6 ipv6Line_ok returns6
    have ends : ∃ ret, ethtoolEtherinfoStr text session link ipv4 ipv6 =
        .ok { value := some ret, session := listed6.session } := by
      rcases lines4 (deviceLines (getEtherinfoLink text session link).2.self) with
        ⟨ret4, appended4⟩
      rcases lines6 ret4 with ⟨ret6, appended6⟩
      refine ⟨ret6, ?_⟩
      simp only [ethtoolEtherinfoStr, bind, Except.bind, returns4, appended4, returns6, appended6,
        Session.orStop_ok]
      rfl
    rcases ends with ⟨ret, ended⟩
    refine ⟨⟨_, ended, Or.inl ⟨rfl, quiet6⟩⟩, ?_⟩
    intro result again
    rw [ended] at again
    cases again
    rw [startsOf_ethtoolEtherinfoStr text returns4 returns6, clear, linked, quiet4]

end EtherinfoString

theorem stringProtocol_eth0 :
    StringProtocol plainText .fresh (.dump [eth0Link]) (.dump [(eth0Addr, .success)])
      (.dump [(eth0Addr, .success)]) := by
  refine (stringProtocol_iff plainText rfl _ _ _).mpr ⟨not_linkFails_eth0, ?_⟩
  intro index found
  cases found
  exact ⟨⟨rfl, _, rfl, by decide⟩, ⟨rfl, _, rfl, by decide⟩⟩

/-- There is no link of this name: the string is returned all the same, and
the exception of the last query with it. -/
theorem string_of_unknown_device :
    ¬ StringProtocol plainText .fresh (.dump [])
      { AddressCalls.dump [] with indexCache := .ok [] }
      { AddressCalls.dump [] with indexCache := .ok [] } := by
  intro protocol
  rcases protocol.proper with ⟨result, ended, ⟨_, clear⟩ | ⟨absent, _⟩⟩
  · cases ended
    cases clear
  · cases ended
    cases absent

end Netlink
end PythonEthtool
