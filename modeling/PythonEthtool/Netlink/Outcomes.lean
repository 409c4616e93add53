import PythonEthtool.Netlink.Construction
import PythonEthtool.Netlink.Queries

namespace PythonEthtool
namespace Netlink

open Foundations
open Python

/-!
# How a query comes out

Whether a query reaches its dump depends on the state before it and on what
libnl answers, and on nothing that the query computes.  The predicates here
say when that is so and which records of the dump it then walks over.  Each
query has one lemma for either case.  A walk that meets a fault has no end,
and neither has an address query whose dump fails, so what is said of the
state after a query is said of its result, if it has one.
-/

/-! ## Reaching the dump -/

/-- There is a connection, or one can be made. -/
def Session.connects (session : Session) (calls : OpeningCalls) : Bool :=
  session.shared.nlconnection.isSome ||
    (calls.opening.socketAlloc && decide (0 ≤ calls.opening.connect))

/-- The index that the object has already, or else the positive index of the
link of its name. -/
def PyEtherInfo.lookup (self : PyEtherInfo) (indexCache : Except String (List RtnlLink)) :
    Option Int :=
  if self.index < 0 then
    match indexCache with
    | .error _ => none
    | .ok links =>
        ((rtnlLinkGetByName links self.device).map RtnlLink.ifindex).filter (fun index => 0 < index)
  else some self.index

theorem PyEtherInfo.lookup_resolved {self : PyEtherInfo} (resolved : 0 ≤ self.index)
    (indexCache : Except String (List RtnlLink)) : self.lookup indexCache = some self.index :=
  if_neg (Int.not_lt.mpr resolved)

/-- The index that a query gets to work with: the connection is there and the
object has an index. -/
def Session.indexFor (session : Session) (calls : OpeningCalls) : Option Int :=
  if session.connects calls then session.self.lookup calls.indexCache else none

theorem Session.indexFor_eq_some {session : Session} {calls : OpeningCalls} {index : Int}
    (found : session.indexFor calls = some index) :
    session.connects calls = true ∧ session.self.lookup calls.indexCache = some index := by
  unfold Session.indexFor at found
  split at found
  · rename_i connects
    exact ⟨connects, found⟩
  · cases found

theorem openNetlink_returned (session : Session) (calls : OpeningCalls) :
    (openNetlink session.shared session.self calls.opening).returned =
      session.connects calls := by
  exact openNetlink_result session.shared session.self calls.opening

theorem openNetlink_ethi (session : Session) (calls : OpeningCalls) :
    (openNetlink session.shared session.self calls.opening).ethi =
      if session.connects calls then { session.self with nlcActive := 1 } else session.self := by
  rw [← openNetlink_returned]
  rcases openNetlink_cases session.shared session.self calls.opening rfl with
    ⟨_, _, opened, _, ethi⟩ | ⟨_, _, opened, _, ethi⟩ | ⟨_, _, _, opened, _, ethi⟩ |
      ⟨_, _, _, failed, _, ethi⟩ | ⟨_, _, failed, _, ethi⟩
  · rw [opened, if_pos rfl, ethi]
  · rw [opened, if_pos rfl, ethi]
  · rw [opened, if_pos rfl, ethi]
  · rw [failed, if_neg Bool.false_ne_true, ethi]
  · rw [failed, if_neg Bool.false_ne_true, ethi]

/-- `_set_device_index` succeeds precisely with an index, and otherwise sets
an exception. -/
theorem setDeviceIndex_lookup (self : PyEtherInfo)
    (indexCache : Except String (List RtnlLink)) :
    match self.lookup indexCache with
    | some index =>
        (setDeviceIndex self indexCache).returned = true ∧
          (setDeviceIndex self indexCache).self = { self with index := index } ∧
          (setDeviceIndex self indexCache).pending = none
    | none =>
        (setDeviceIndex self indexCache).returned = false ∧
          (setDeviceIndex self indexCache).self.hwaddress = self.hwaddress ∧
          (setDeviceIndex self indexCache).pending.isSome := by
  unfold setDeviceIndex PyEtherInfo.lookup
  by_cases unset : self.index < 0
  · rw [if_pos unset, if_pos unset]
    cases indexCache with
    | error text => exact ⟨rfl, rfl, rfl⟩
    | ok links =>
        cases found : rtnlLinkGetByName links self.device with
        | none => simp [found]
        | some link =>
            by_cases positive : 0 < link.ifindex
            · simp [found, positive, Option.filter]
            · simp [found, positive, Option.filter]
  · rw [if_neg unset, if_neg unset]
    exact ⟨rfl, rfl, rfl⟩

theorem openAndSetIndex_found {session : Session} {calls : OpeningCalls} {index : Int}
    (found : session.indexFor calls = some index) :
    (openAndSetIndex session calls).1 = true ∧
      (openAndSetIndex session calls).2.self =
        { session.self with index := index, nlcActive := 1 } ∧
      (openAndSetIndex session calls).2.pending = session.pending := by
  rcases Session.indexFor_eq_some found with ⟨connects, looked⟩
  have set := setDeviceIndex_lookup { session.self with nlcActive := 1 } calls.indexCache
  have same : ({ session.self with nlcActive := 1 } : PyEtherInfo).lookup calls.indexCache =
    some index := looked
  rw [same] at set
  rcases set with ⟨returned, self, pending⟩
  simp only [openAndSetIndex, openNetlink_returned, openNetlink_ethi, connects, if_true,
    returned, self, pending, Option.map_none, Option.none_or, and_self]

theorem openAndSetIndex_missing {session : Session} {calls : OpeningCalls}
    (missing : session.indexFor calls = none) :
    (openAndSetIndex session calls).1 = false ∧
      (openAndSetIndex session calls).2.self.hwaddress = session.self.hwaddress ∧
      (openAndSetIndex session calls).2.pending.isSome := by
  unfold Session.indexFor at missing
  split at missing
  · rename_i connects
    have set := setDeviceIndex_lookup { session.self with nlcActive := 1 } calls.indexCache
    have same : ({ session.self with nlcActive := 1 } : PyEtherInfo).lookup calls.indexCache =
      none := missing
    rw [same] at set
    rcases set with ⟨returned, hwaddress, pending⟩
    simp only [openAndSetIndex, openNetlink_returned, openNetlink_ethi, connects, if_true]
    exact ⟨returned, hwaddress, by simp [pending]⟩
  · rename_i refused
    simp only [openAndSetIndex, openNetlink_returned, openNetlink_ethi, refused]
    exact ⟨rfl, rfl, rfl⟩

theorem openAndSetIndex_shared (session : Session) (calls : OpeningCalls) :
    (openAndSetIndex session calls).2.shared =
      (openNetlink session.shared session.self calls.opening).shared := by
  unfold openAndSetIndex
  dsimp only
  split <;> rfl

theorem openAndSetIndex_self (session : Session) (calls : OpeningCalls) :
    (openAndSetIndex session calls).2.self =
      if session.connects calls then
        (setDeviceIndex { session.self with nlcActive := 1 } calls.indexCache).self
      else session.self := by
  unfold openAndSetIndex
  simp only [openNetlink_returned, openNetlink_ethi]
  split
  · rfl
  · rfl

theorem PyEtherInfo.lookup_nonneg {self : PyEtherInfo}
    {indexCache : Except String (List RtnlLink)} {index : Int}
    (found : self.lookup indexCache = some index) : 0 ≤ index := by
  unfold PyEtherInfo.lookup at found
  split at found
  · split at found
    · cases found
    · exact Int.le_of_lt (of_decide_eq_true (Option.filter_eq_some_iff.mp found).2)
  · rename_i resolved
    cases found
    exact Int.not_lt.mp resolved

/-- The object has its index and the module its connection. -/
structure Session.Settled (session : Session) : Prop where
  connected : session.shared.nlconnection.isSome
  resolved : 0 ≤ session.self.index

theorem Session.Settled.indexFor {session : Session} (settled : session.Settled)
    (calls : OpeningCalls) : session.indexFor calls = some session.self.index := by
  have connects : session.connects calls = true := by
    simp [Session.connects, settled.connected]
  rw [Session.indexFor, if_pos connects, PyEtherInfo.lookup_resolved settled.resolved]

/-- Once a query has got its index, the later ones have it too. -/
theorem openAndSetIndex_settled {session : Session} {calls : OpeningCalls} {index : Int}
    (found : session.indexFor calls = some index) :
    (openAndSetIndex session calls).2.Settled := by
  have self := (openAndSetIndex_found found).2.1
  rcases Session.indexFor_eq_some found with ⟨connects, looked⟩
  refine ⟨?_, ?_⟩
  · rw [openAndSetIndex_shared]
    rw [← openNetlink_returned] at connects
    rcases openNetlink_cases session.shared session.self calls.opening rfl with
      ⟨present, _, _, shared, _⟩ | ⟨present, _, _, shared, _⟩ | ⟨_, _, _, _, shared, _⟩ |
        ⟨_, _, _, failed, _⟩ | ⟨_, _, failed, _⟩
    · rw [shared]
      exact present
    · rw [shared]
      exact present
    · rw [shared]
      rfl
    · rw [failed] at connects
      cases connects
    · rw [failed] at connects
      cases connects
  · rw [self]
    exact PyEtherInfo.lookup_nonneg looked

/-! ## The link query -/

/-- The links that the query walks over, where it gets that far. -/
def Session.linksFor (session : Session) (calls : LinkCalls) : Option (List LinkRecord) :=
  match session.indexFor calls.toOpeningCalls, calls.linkCache with
  | some index, .ok links =>
      if calls.linkAlloc then some (links.filter (fun link => link.ifindex = index)) else none
  | _, _ => none

/-- Only the first link counts, and only where there is no address yet. -/
theorem foldlM_callbackNlLink (text : AddressText) (ethi : PyEtherInfo)
    (links : List LinkRecord) :
    (links.foldlM (callbackNlLink text) ethi).run =
      { ethi with
        hwaddress :=
          ethi.hwaddress.or
            (links.head?.map (fun link => text.nlAddr2str link.addr sizeofHwaddr)) } := by
  induction links generalizing ethi with
  | nil => simp
  | cons link links ih =>
      rw [List.foldlM_cons, Id.run_bind, ih]
      cases cached : ethi.hwaddress with
      | some hwaddress => simp [callbackNlLink, cached, Id.run]
      | none => simp [callbackNlLink, cached, Id.run]

section Link

variable (text : AddressText) {session : Session} {calls : LinkCalls}

/-- The link query touches the connection and the index only at its start. -/
theorem getEtherinfoLink_session (session : Session) (calls : LinkCalls) :
    (getEtherinfoLink text session calls).2.shared =
        (openAndSetIndex session calls.toOpeningCalls).2.shared ∧
      (getEtherinfoLink text session calls).2.self.index =
        (openAndSetIndex session calls.toOpeningCalls).2.self.index ∧
      (getEtherinfoLink text session calls).2.self.device =
        (openAndSetIndex session calls.toOpeningCalls).2.self.device := by
  unfold getEtherinfoLink
  dsimp only
  split
  · split
    · exact ⟨rfl, rfl, rfl⟩
    · split
      · rw [nlCacheForeachFilter, foldlM_callbackNlLink]
        exact ⟨rfl, rfl, rfl⟩
      · exact ⟨rfl, rfl, rfl⟩
  · exact ⟨rfl, rfl, rfl⟩

/-- A query that walks has its index, its dump and its filter. -/
theorem linksFor_walked {links : List LinkRecord}
    (walked : session.linksFor calls = some links) :
    ∃ index dump, session.indexFor calls.toOpeningCalls = some index ∧
      calls.linkCache = .ok dump ∧ calls.linkAlloc = true ∧
      links = dump.filter (fun link => link.ifindex = index) := by
  unfold Session.linksFor at walked
  split at walked
  · rename_i index dump indexed filled
    split at walked
    · rename_i allocated
      cases walked
      exact ⟨index, dump, indexed, filled, allocated, rfl⟩
    · cases walked
  · cases walked

theorem getEtherinfoLink_walked {links : List LinkRecord}
    (walked : session.linksFor calls = some links) :
    (getEtherinfoLink text session calls).1 = true ∧
      (getEtherinfoLink text session calls).2.self.hwaddress =
        session.self.hwaddress.or
          (links.head?.map (fun link => text.nlAddr2str link.addr sizeofHwaddr)) ∧
      (getEtherinfoLink text session calls).2.pending = session.pending := by
  rcases linksFor_walked walked with ⟨index, dump, indexed, filled, allocated, rfl⟩
  rcases openAndSetIndex_found indexed with ⟨returned, self, pending⟩
  simp only [getEtherinfoLink, returned, filled, allocated, if_true, self,
    nlCacheForeachFilter, foldlM_callbackNlLink]
  exact ⟨trivial, trivial, pending⟩

theorem getEtherinfoLink_failed (failed : session.linksFor calls = none) :
    (getEtherinfoLink text session calls).1 = false ∧
      (getEtherinfoLink text session calls).2.self.hwaddress = session.self.hwaddress ∧
      (getEtherinfoLink text session calls).2.pending.isSome := by
  cases indexed : session.indexFor calls.toOpeningCalls with
  | none =>
      rcases openAndSetIndex_missing indexed with ⟨returned, hwaddress, pending⟩
      simp only [getEtherinfoLink, returned, Bool.false_eq_true, if_false]
      exact ⟨trivial, hwaddress, pending⟩
  | some index =>
      rcases openAndSetIndex_found indexed with ⟨returned, self, pending⟩
      cases filled : calls.linkCache with
      | error error =>
          simp only [getEtherinfoLink, returned, filled, if_true, Session.setError, self]
          exact ⟨trivial, trivial, rfl⟩
      | ok links =>
          cases allocated : calls.linkAlloc with
          | true => simp [Session.linksFor, indexed, filled, allocated] at failed
          | false =>
              simp only [getEtherinfoLink, returned, filled, allocated, if_true,
                Bool.false_eq_true, if_false, Session.setError, Session.record, self]
              exact ⟨trivial, trivial, rfl⟩

end Link

/-! ## The address queries -/

/-- The records that the query walks over, where it gets that far. -/
def Session.addressesFor (session : Session) (query : NlQuery) (calls : AddressCalls) :
    Option (List (RtnlAddr × Building)) :=
  match session.indexFor calls.toOpeningCalls, calls.addrCache with
  | some index, .ok records =>
      if calls.addrAlloc then
        some (records.filter (fun record =>
          record.1.ifindex = index ∧ record.1.family = query.family))
      else none
  | _, _ => none

theorem NlQuery.supported {query : NlQuery} {addr : RtnlAddr}
    (family : addr.family = query.family) : addr.Supported := by
  cases query with
  | addr4 => exact Or.inl family
  | addr6 => exact Or.inr family

section Walk

variable (text : AddressText)

theorem supported_known {addr : RtnlAddr} (supported : addr.Supported) :
    ¬ (addr.family ≠ AF_INET ∧ addr.family ≠ AF_INET6) := by
  rintro ⟨other, another⟩
  rcases supported with inet | inet6
  · exact other inet
  · exact another inet6

theorem callbackNlAddress_clean {record : RtnlAddr × Building}
    (supported : record.1.Supported) (clean : ¬ record.2.Raises record.1) (walk : Walk) :
    callbackNlAddress text walk record =
      .ok { walk with addrlist := walk.addrlist ++ [addressOf text record.1] } := by
  rw [callbackNlAddress, if_neg (supported_known supported),
    makePythonAddress_clean text walk.pending supported clean]
  rfl

/-- An exception stays pending, and a record whose calls fail leaves one. -/
theorem callbackNlAddress_pending {record : RtnlAddr × Building} {walk next : Walk}
    (called : callbackNlAddress text walk record = .ok next)
    (failing : walk.pending.isSome ∨ (record.1.Supported ∧ record.2.Raises record.1)) :
    next.pending.isSome := by
  rw [callbackNlAddress] at called
  by_cases unknown : record.1.family ≠ AF_INET ∧ record.1.family ≠ AF_INET6
  · rw [if_pos unknown] at called
    cases called
    rcases failing with earlier | ⟨supported, _⟩
    · exact earlier
    · exact absurd unknown (supported_known supported)
  · rw [if_neg unknown] at called
    have supported : record.1.Supported := by
      rw [not_and_or, not_not, not_not] at unknown
      exact unknown
    cases made : makePythonAddressFromRtnlAddr text record.1 record.2 walk.pending with
    | error fault =>
        rw [made] at called
        cases called
    | ok result =>
        have pending := makePythonAddress_pending text walk.pending supported made
          (failing.imp id And.right)
        rw [made] at called
        cases object : result.object with
        | none =>
            simp only [bind, Except.bind, object] at called
            cases called
            exact pending
        | some value =>
            simp only [bind, Except.bind, object] at called
            cases called
            exact pending

/-- Without failures every record gets its object, in order. -/
theorem foldlM_callbackNlAddress_clean {records : List (RtnlAddr × Building)}
    (supported : forall record, record ∈ records -> record.1.Supported)
    (clean : forall record, record ∈ records -> ¬ record.2.Raises record.1) (walk : Walk) :
    records.foldlM (callbackNlAddress text) walk =
      .ok
        { walk with
          addrlist :=
            walk.addrlist ++ records.map (fun record => addressOf text record.1) } := by
  induction records generalizing walk with
  | nil => simp [pure, Except.pure]
  | cons record records ih =>
      have first := callbackNlAddress_clean text (supported record List.mem_cons_self)
        (clean record List.mem_cons_self) walk
      rw [List.foldlM_cons, first]
      change records.foldlM (callbackNlAddress text) _ = _
      rw [ih (fun later member => supported later (List.mem_cons_of_mem record member))
        (fun later member => clean later (List.mem_cons_of_mem record member))]
      simp

/-- A failure at any record is still pending at the end, if there is one. -/
theorem foldlM_callbackNlAddress_pending {records : List (RtnlAddr × Building)}
    {walk last : Walk} (walked : records.foldlM (callbackNlAddress text) walk = .ok last)
    (failing : walk.pending.isSome ∨
      ∃ record, record ∈ records ∧ record.1.Supported ∧ record.2.Raises record.1) :
    last.pending.isSome := by
  induction records generalizing walk with
  | nil =>
      cases walked
      rcases failing with earlier | ⟨record, member, _⟩
      · exact earlier
      · cases member
  | cons record records ih =>
      rw [List.foldlM_cons] at walked
      cases called : callbackNlAddress text walk record with
      | error fault =>
          rw [called] at walked
          cases walked
      | ok next =>
          rw [called] at walked
          apply ih walked
          rcases failing with earlier | ⟨failing, member, failure⟩
          · exact Or.inl (callbackNlAddress_pending text called (Or.inl earlier))
          · rcases List.mem_cons.mp member with rfl | later
            · exact Or.inl (callbackNlAddress_pending text called (Or.inr failure))
            · exact Or.inr ⟨failing, later, failure⟩

end Walk

/-- The session in which a query walks over its dump. -/
def Session.walking (session : Session) (calls : OpeningCalls) (query : NlQuery) : Session :=
  let entered := (openAndSetIndex session calls).2
  entered.record
    [.libnl (.acquired .cache), .libnl (.acquired .addr),
      .filter entered.self.index (some query.family)]

/-- The session in which a walk ends. -/
def Session.afterWalk (session : Session) (calls : OpeningCalls) (query : NlQuery)
    (walk : Walk) : Session :=
  { (session.walking calls query).record
      [.libnl (.released .addr), .libnl (.released .cache)] with
    pending := walk.pending }

section Address

variable (text : AddressText) {session : Session} {query : NlQuery} {calls : AddressCalls}

/-- A query that walks has its index, its dump and its filter. -/
theorem addressesFor_walked {records : List (RtnlAddr × Building)}
    (walked : session.addressesFor query calls = some records) :
    ∃ index dump, session.indexFor calls.toOpeningCalls = some index ∧
      calls.addrCache = .ok dump ∧ calls.addrAlloc = true ∧
      records = dump.filter (fun record =>
        record.1.ifindex = index ∧ record.1.family = query.family) := by
  unfold Session.addressesFor at walked
  split at walked
  · rename_i index dump indexed filled
    split at walked
    · rename_i allocated
      cases walked
      exact ⟨index, dump, indexed, filled, allocated, rfl⟩
    · cases walked
  · cases walked

theorem addressesFor_supported {records : List (RtnlAddr × Building)}
    (walked : session.addressesFor query calls = some records) {record : RtnlAddr × Building}
    (member : record ∈ records) : record.1.Supported := by
  rcases addressesFor_walked walked with ⟨index, dump, _, _, _, rfl⟩
  have matching := of_decide_eq_true (List.mem_filter.mp member).2
  exact NlQuery.supported matching.2

/-- A query that gets to its dump is the walk over its records. -/
theorem getEtherinfoAddress_walked {records : List (RtnlAddr × Building)}
    (walked : session.addressesFor query calls = some records) :
    getEtherinfoAddress text session query calls =
      ((session.walking calls.toOpeningCalls query).orStop
        (records.foldlM (callbackNlAddress text)
          { addrlist := [], pending := session.pending })).map (fun walk =>
            { value := some walk.addrlist
              session := session.afterWalk calls.toOpeningCalls query walk }) := by
  rcases addressesFor_walked walked with ⟨index, dump, indexed, filled, allocated, rfl⟩
  rcases openAndSetIndex_found indexed with ⟨returned, self, pending⟩
  simp only [getEtherinfoAddress, returned, filled, allocated, if_true, self, pending,
    nlCacheForeachFilter, Session.walking, Session.afterWalk]
  rfl

/-- A query that does not get to its dump returns NULL and an exception, if
it returns. -/
theorem getEtherinfoAddress_failed (failed : session.addressesFor query calls = none)
    {result : Returned (List PyNetlinkIPaddress)}
    (returns : getEtherinfoAddress text session query calls = .ok result) :
    result.value = none ∧ result.session.pending.isSome := by
  unfold getEtherinfoAddress at returns
  cases indexed : session.indexFor calls.toOpeningCalls with
  | none =>
      rcases openAndSetIndex_missing indexed with ⟨returned, _, pending⟩
      simp only [returned, Bool.false_eq_true, if_false] at returns
      cases returns
      exact ⟨rfl, pending⟩
  | some index =>
      rcases openAndSetIndex_found indexed with ⟨returned, _, _⟩
      cases filled : calls.addrCache with
      | error error =>
          simp only [returned, filled, if_true] at returns
          cases returns
      | ok records =>
          cases allocated : calls.addrAlloc with
          | true => simp [Session.addressesFor, indexed, filled, allocated] at failed
          | false =>
              simp only [returned, filled, allocated, if_true, Bool.false_eq_true,
                if_false] at returns
              cases returns
              exact ⟨rfl, rfl⟩

/-- An address query touches the connection and the object only at its
start. -/
theorem getEtherinfoAddress_session {result : Returned (List PyNetlinkIPaddress)}
    (returns : getEtherinfoAddress text session query calls = .ok result) :
    result.session.shared = (openAndSetIndex session calls.toOpeningCalls).2.shared ∧
      result.session.self = (openAndSetIndex session calls.toOpeningCalls).2.self := by
  unfold getEtherinfoAddress at returns
  dsimp only at returns
  split at returns
  · split at returns
    · cases returns
    · split at returns
      · rcases except_bind_eq_ok returns with ⟨walk, _, ends⟩
        cases ends
        exact ⟨rfl, rfl⟩
      · cases returns
        exact ⟨rfl, rfl⟩
  · cases returns
    exact ⟨rfl, rfl⟩

theorem getEtherinfoAddress_clean {records : List (RtnlAddr × Building)}
    (walked : session.addressesFor query calls = some records)
    (clean : forall record, record ∈ records -> ¬ record.2.Raises record.1) :
    ∃ after, getEtherinfoAddress text session query calls =
        .ok
          { value := some (records.map (fun record => addressOf text record.1))
            session := after } ∧
      after.pending = session.pending := by
  have supported : forall record, record ∈ records -> record.1.Supported :=
    fun record member => addressesFor_supported walked member
  rw [getEtherinfoAddress_walked text walked, foldlM_callbackNlAddress_clean text supported clean]
  exact ⟨_, rfl, rfl⟩

theorem getEtherinfoAddress_raises {records : List (RtnlAddr × Building)}
    (walked : session.addressesFor query calls = some records)
    {record : RtnlAddr × Building} (member : record ∈ records)
    (raises : record.2.Raises record.1) {result : Returned (List PyNetlinkIPaddress)}
    (returns : getEtherinfoAddress text session query calls = .ok result) :
    result.value.isSome ∧ result.session.pending.isSome := by
  rw [getEtherinfoAddress_walked text walked] at returns
  rcases except_map_eq_ok returns with ⟨walk, ends, rfl⟩
  have ends := except_mapError_eq_ok.mp ends
  have failing := addressesFor_supported walked member
  exact ⟨rfl, foldlM_callbackNlAddress_pending text ends (Or.inr ⟨record, member, failing, raises⟩)⟩

/-- The getters leave the session as the query does. -/
@[simp] theorem lastIpv4_session (field : PyNetlinkIPaddress -> Option PyValue)
    (absent : PyValue) (listed : Returned (List PyNetlinkIPaddress)) :
    (lastIpv4 field absent listed).session = listed.session := by
  unfold lastIpv4
  split <;> rfl

end Address

/-- The three queries behind a string. -/
theorem ethtoolEtherinfoStr_queries (text : AddressText) {session : Session}
    {link : LinkCalls} {ipv4 ipv6 : AddressCalls}
    {result : Returned String}
    (ended : ethtoolEtherinfoStr text session link ipv4 ipv6 = .ok result) :
    ∃ listed4 listed6,
      getEtherinfoAddress text (getEtherinfoLink text session link).2 .addr4 ipv4 =
        .ok listed4 ∧
      getEtherinfoAddress text listed4.session .addr6 ipv6 = .ok listed6 ∧
      result.value.isSome ∧ result.session = listed6.session := by
  rcases except_bind_eq_ok ended with ⟨listed4, returns4, ended⟩
  rcases except_bind_eq_ok ended with ⟨ret4, _, ended⟩
  rcases except_bind_eq_ok ended with ⟨listed6, returns6, ended⟩
  rcases except_bind_eq_ok ended with ⟨ret6, _, ended⟩
  cases ended
  exact ⟨listed4, listed6, returns4, returns6, rfl, rfl⟩

/-! ## Either query -/

/-- One of the two queries that every read is made of. -/
inductive Query where
  | link (calls : LinkCalls)
  | address (query : NlQuery) (calls : AddressCalls)

def Query.opening : Query -> OpeningCalls
  | .link calls => calls.toOpeningCalls
  | .address _ calls => calls.toOpeningCalls

def Query.perform (text : AddressText) (session : Session) : Query -> Except Stopped Session
  | .link calls => .ok (getEtherinfoLink text session calls).2
  | .address query calls =>
      (getEtherinfoAddress text session query calls).map Returned.session

/-- The session that is come to, at the end or where it stops. -/
def sessionOf : Except Stopped Session -> Session
  | .ok after => after
  | .error stopped => stopped.session

@[simp] theorem sessionOf_ok (after : Session) : sessionOf (.ok after) = after :=
  rfl

namespace Query

variable (text : AddressText) (session : Session) (query : Query)

/-- A query touches the connection and the index only at its start. -/
theorem perform_session :
    (sessionOf (query.perform text session)).shared =
        (openAndSetIndex session query.opening).2.shared ∧
      (sessionOf (query.perform text session)).self.index =
        (openAndSetIndex session query.opening).2.self.index ∧
      (sessionOf (query.perform text session)).self.device =
        (openAndSetIndex session query.opening).2.self.device := by
  cases query with
  | link calls => exact getEtherinfoLink_session text session calls
  | address kind calls =>
      simp only [perform, opening]
      unfold getEtherinfoAddress
      dsimp only
      split
      · split
        · exact ⟨rfl, rfl, rfl⟩
        · split
          · rename_i records _ _
            cases nlCacheForeachFilter records _ (callbackNlAddress text) _ with
            | error fault => exact ⟨rfl, rfl, rfl⟩
            | ok walk => exact ⟨rfl, rfl, rfl⟩
          · exact ⟨rfl, rfl, rfl⟩
      · exact ⟨rfl, rfl, rfl⟩

/-- After its start a query logs what it acquires and releases and, if it
walks over its dump, one filter with the index of the object. -/
theorem perform_log :
    ∃ (first last : List LibnlEvent) (walk : List QueryEvent),
      (sessionOf (query.perform text session)).log =
        (openAndSetIndex session query.opening).2.log ++
          (first.map QueryEvent.libnl ++ (walk ++ last.map QueryEvent.libnl)) ∧
      (walk = [] ∨
        ((openAndSetIndex session query.opening).1 = true ∧
          ∃ family,
            walk = [.filter (openAndSetIndex session query.opening).2.self.index family])) := by
  cases query with
  | link calls =>
      simp only [opening, perform, getEtherinfoLink]
      split
      · rename_i returned
        split
        · exact ⟨[], [], [], (List.append_nil _).symm, Or.inl rfl⟩
        · split
          · exact ⟨[.acquired .cache, .acquired .link], [.released .link, .released .cache], _,
              rfl, Or.inr ⟨returned, none, rfl⟩⟩
          · exact ⟨[.acquired .cache], [], [], rfl, Or.inl rfl⟩
      · exact ⟨[], [], [], (List.append_nil _).symm, Or.inl rfl⟩
  | address kind calls =>
      simp only [perform, opening]
      unfold getEtherinfoAddress
      dsimp only
      split
      · rename_i returned
        split
        · exact ⟨[.released .cache], [], [], rfl, Or.inl rfl⟩
        · split
          · rename_i records _ _
            cases nlCacheForeachFilter records _ (callbackNlAddress text) _ with
            | error fault =>
                -- The walk stops before anything is released.
                exact ⟨[.acquired .cache, .acquired .addr], [], _, rfl,
                  Or.inr ⟨returned, some kind.family, rfl⟩⟩
            | ok walk =>
                refine ⟨[.acquired .cache, .acquired .addr], [.released .addr, .released .cache],
                  _, ?_, Or.inr ⟨returned, some kind.family, rfl⟩⟩
                exact List.append_assoc (openAndSetIndex session calls.toOpeningCalls).2.log _ _
          · exact ⟨[.acquired .cache], [], [], rfl, Or.inl rfl⟩
      · exact ⟨[], [], [], (List.append_nil _).symm, Or.inl rfl⟩

end Query

end Netlink
end PythonEthtool
