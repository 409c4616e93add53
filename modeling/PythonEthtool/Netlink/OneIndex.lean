import PythonEthtool.Netlink.Outcomes

namespace PythonEthtool
namespace Netlink

open Foundations
open Python

/-!
# The index over the life of an object

An object looks its index up once and keeps it.  A negative index says that
this is still to be done.  `_set_device_index` stores what the lookup gives
before it checks it, so an index of zero is refused and kept: the object then
takes it for its own, looks nothing up any more and filters by it.  Every
other failure leaves a negative index behind.

The runs here are those of one object, whatever the other objects do to the
shared connection in between and whatever the kernel's tables hold.
-/

/-- Whatever Python can ask the object for. -/
inductive Read where
  | macAddress (calls : LinkCalls)
  | ipv4Address (calls : AddressCalls)
  | ipv4Netmask (calls : AddressCalls)
  | ipv4Broadcast (calls : AddressCalls)
  | ipv4Addresses (calls : AddressCalls)
  | ipv6Addresses (calls : AddressCalls)
  | str (link : LinkCalls) (ipv4 ipv6 : AddressCalls)

/-- The session after a read, unless it stops. -/
def Read.perform (text : AddressText) (session : Session) : Read -> Except Stopped Session
  | .macAddress calls => .ok (getMacAddr text session calls).session
  | .ipv4Address calls => (getIpv4Addr text session calls).map Returned.session
  | .ipv4Netmask calls => (getIpv4Mask text session calls).map Returned.session
  | .ipv4Broadcast calls => (getIpv4Bcast text session calls).map Returned.session
  | .ipv4Addresses calls => (getIpv4Addresses text session calls).map Returned.session
  | .ipv6Addresses calls => (getIpv6Addresses text session calls).map Returned.session
  | .str link ipv4 ipv6 =>
      (ethtoolEtherinfoStr text session link ipv4 ipv6).map Returned.session

def Read.queries : Read -> List Query
  | .macAddress calls => [.link calls]
  | .ipv4Address calls => [.address .addr4 calls]
  | .ipv4Netmask calls => [.address .addr4 calls]
  | .ipv4Broadcast calls => [.address .addr4 calls]
  | .ipv4Addresses calls => [.address .addr4 calls]
  | .ipv6Addresses calls => [.address .addr6 calls]
  | .str link ipv4 ipv6 => [.link link, .address .addr4 ipv4, .address .addr6 ipv6]

/-- The object is read, or something else happens in the process: other
objects change the shared connection, and exceptions are raised or handled. -/
inductive ObjectAction where
  | read (read : Read)
  | elsewhere (shared : Shared) (pending : Option PyError)

/-- The session of the object, and the fault in which the process has ended,
if it has. -/
structure ObjectState where
  session : Session
  fault : Option Fault

/-- The session that a read ends in, or that it stops in. -/
def endsIn : Except Stopped Session -> ObjectState
  | .ok after => { session := after, fault := none }
  | .error stopped => { session := stopped.session, fault := some stopped.fault }

/-- After a fault nothing more is done. -/
def objectStep (text : AddressText) (state : ObjectState) (action : ObjectAction) :
    Option ObjectState :=
  match state.fault, action with
  | some _, _ => none
  | none, .read read => some (endsIn (read.perform text state.session))
  | none, .elsewhere shared pending =>
      some
        { state with session := { state.session with shared := shared, pending := pending } }

/-! ## The property -/

/-- The indexes that successful lookups found, in order. -/
def foundIndexes (log : List QueryEvent) : List Int :=
  log.filterMap (fun event =>
    match event with
    | .lookedUp (some index) => if 0 < index then some index else none
    | _ => none)

/-- The indexes that the filters carried. -/
def filterIndexes (log : List QueryEvent) : List Int :=
  log.filterMap (fun event =>
    match event with
    | .filter index _ => some index
    | _ => none)

/-- Until a lookup succeeds the index is negative, and the next query looks
the name up again.  From then on the index is the one that was found first,
and every filter carries it. -/
structure OneIndex (session : Session) : Prop where
  unresolved : foundIndexes session.log = [] -> session.self.index < 0
  retries : foundIndexes session.log = [] ->
    forall links, lookupEvents session.self (.ok links) =
      [.lookedUp ((rtnlLinkGetByName links session.self.device).map RtnlLink.ifindex)]
  resolved : forall index, (foundIndexes session.log).head? = some index ->
    0 < index ∧ session.self.index = index
  filters : forall index, index ∈ filterIndexes session.log ->
    (foundIndexes session.log).head? = some index

/-- Once a lookup has succeeded, the index does not change. -/
def KeepsIndex (before : ObjectState) (_ : ObjectAction) (after : ObjectState) : Prop :=
  foundIndexes before.session.log ≠ [] ->
    after.session.self.index = before.session.self.index

/-- A lookup that this query makes does not find the index zero. -/
def Query.Sound (query : Query) (session : Session) : Prop :=
  session.self.index < 0 -> session.connects query.opening = true ->
    forall links link, query.opening.indexCache = .ok links ->
      rtnlLinkGetByName links session.self.device = some link -> link.ifindex ≠ 0

/-- So it is for the queries of a read, one after the other. -/
def SoundQueries (text : AddressText) : Session -> List Query -> Prop
  | _, [] => True
  | session, query :: queries =>
      query.Sound session ∧
        forall after, query.perform text session = .ok after ->
          SoundQueries text after queries

def ObjectAction.Sound (text : AddressText) (state : ObjectState) : ObjectAction -> Prop
  | .read asked => SoundQueries text state.session asked.queries
  | .elsewhere _ _ => True

/-! ## What one query does -/

/-- The session after all the queries, or the one in which they stop. -/
def performQueries (text : AddressText) (session : Session) (queries : List Query) :
    Except Stopped Session :=
  queries.foldlM (fun before query => query.perform text before) session

/-- The lines of the IPv4 addresses are there for whatever is listed. -/
theorem appendLines_ipv4Line (ret : String) (listed : Option (List PyNetlinkIPaddress)) :
    ∃ whole, appendLines ipv4Line ret listed = .ok whole := by
  unfold appendLines
  induction listed.getD [] generalizing ret with
  | nil => exact ⟨ret, rfl⟩
  | cons address rest ih =>
      rw [List.foldlM_cons]
      exact ih _

/-- A read comes to the session that its queries come to. -/
theorem Read.perform_session (text : AddressText) (session : Session) (read : Read) :
    sessionOf (read.perform text session) =
      sessionOf (performQueries text session read.queries) := by
  cases read with
  | macAddress calls => rfl
  | ipv4Address calls =>
      simp only [perform, getIpv4Addr, performQueries, queries, List.foldlM_cons, Query.perform]
      cases getEtherinfoAddress text session .addr4 calls with
      | error stopped => rfl
      | ok listed => exact lastIpv4_session _ _ listed
  | ipv4Netmask calls =>
      simp only [perform, getIpv4Mask, performQueries, queries, List.foldlM_cons, Query.perform]
      cases getEtherinfoAddress text session .addr4 calls with
      | error stopped => rfl
      | ok listed => exact lastIpv4_session _ _ listed
  | ipv4Broadcast calls =>
      simp only [perform, getIpv4Bcast, performQueries, queries, List.foldlM_cons, Query.perform]
      cases getEtherinfoAddress text session .addr4 calls with
      | error stopped => rfl
      | ok listed => exact lastIpv4_session _ _ listed
  | ipv4Addresses calls =>
      simp only [perform, getIpv4Addresses, performQueries, queries, List.foldlM_cons,
        Query.perform]
      cases getEtherinfoAddress text session .addr4 calls <;> rfl
  | ipv6Addresses calls =>
      simp only [perform, getIpv6Addresses, performQueries, queries, List.foldlM_cons,
        Query.perform]
      cases getEtherinfoAddress text session .addr6 calls <;> rfl
  | str link ipv4 ipv6 =>
      simp only [perform, ethtoolEtherinfoStr, performQueries, queries, List.foldlM_cons,
        Query.perform, bind, Except.bind]
      cases getEtherinfoAddress text (getEtherinfoLink text session link).2 .addr4 ipv4 with
      | error stopped => rfl
      | ok listed4 =>
          rcases appendLines_ipv4Line
            (deviceLines (getEtherinfoLink text session link).2.self) listed4.value with
            ⟨ret, appended⟩
          simp only [appended, Session.orStop_ok, Except.map]
          cases getEtherinfoAddress text listed4.session .addr6 ipv6 with
          | error stopped => rfl
          | ok listed6 =>
              -- The lines stop in the session in which the queries end.
              dsimp only
              cases appendLines ipv6Line ret listed6.value <;> rfl

@[simp] theorem foundIndexes_append (log events : List QueryEvent) :
    foundIndexes (log ++ events) = foundIndexes log ++ foundIndexes events :=
  List.filterMap_append

@[simp] theorem filterIndexes_append (log events : List QueryEvent) :
    filterIndexes (log ++ events) = filterIndexes log ++ filterIndexes events :=
  List.filterMap_append

theorem foundIndexes_libnl (events : List LibnlEvent) :
    foundIndexes (events.map QueryEvent.libnl) = [] := by
  simp [foundIndexes]

theorem filterIndexes_libnl (events : List LibnlEvent) :
    filterIndexes (events.map QueryEvent.libnl) = [] := by
  simp [filterIndexes]

theorem filterIndexes_lookupEvents (self : PyEtherInfo)
    (cache : Except String (List RtnlLink)) :
    filterIndexes (lookupEvents self cache) = [] := by
  unfold lookupEvents
  split
  · cases cache <;> rfl
  · rfl

theorem foundIndexes_positive {log : List QueryEvent} {index : Int}
    (member : index ∈ foundIndexes log) : 0 < index := by
  rcases List.mem_filterMap.mp member with ⟨event, _, found⟩
  split at found
  · split at found
    · rename_i positive
      cases found
      exact positive
    · cases found
  · cases found

/-- The start of a query keeps the index, or stores the one that a lookup
gives. -/
theorem openAndSetIndex_cases (session : Session) (calls : OpeningCalls) :
    let after := (openAndSetIndex session calls).2
    after.self.device = session.self.device ∧
    filterIndexes after.log = filterIndexes session.log ∧
    ((after.self.index = session.self.index ∧
        foundIndexes after.log = foundIndexes session.log ∧
        ((openAndSetIndex session calls).1 = true -> 0 ≤ session.self.index)) ∨
      (session.self.index < 0 ∧ session.connects calls = true ∧
        ∃ links link, calls.indexCache = .ok links ∧
          rtnlLinkGetByName links session.self.device = some link ∧
          after.self.index = link.ifindex ∧
          foundIndexes after.log =
            foundIndexes session.log ++ (if 0 < link.ifindex then [link.ifindex] else []) ∧
          ((openAndSetIndex session calls).1 = true -> 0 < link.ifindex))) := by
  dsimp only
  unfold openAndSetIndex
  simp only [openNetlink_returned, openNetlink_ethi]
  cases connected : session.connects calls with
  | false =>
      refine ⟨rfl, ?_, Or.inl ⟨rfl, ?_, ?_⟩⟩
      · simp [Session.record, Session.setError, filterIndexes]
      · simp [Session.record, Session.setError, foundIndexes]
      · intro returned
        cases returned
  | true =>
      simp only [if_true, Session.record, filterIndexes_append, foundIndexes_append,
        filterIndexes_libnl, foundIndexes_libnl, filterIndexes_lookupEvents, List.append_nil]
      by_cases unset : session.self.index < 0
      · cases filled : calls.indexCache with
        | error error =>
            simp [setDeviceIndex, lookupEvents, unset, filterIndexes, foundIndexes]
        | ok links =>
            cases found : rtnlLinkGetByName links session.self.device with
            | none =>
                simp [setDeviceIndex, lookupEvents, unset, found, filterIndexes, foundIndexes]
            | some link =>
                by_cases positive : 0 < link.ifindex
                · simp [setDeviceIndex, lookupEvents, unset, found, filterIndexes, foundIndexes,
                    positive]
                · simp [setDeviceIndex, lookupEvents, unset, found, filterIndexes, foundIndexes,
                    positive, Int.not_lt.mp positive]
      · simp [setDeviceIndex, lookupEvents, unset, filterIndexes, foundIndexes,
          Int.not_lt.mp unset]

/-- The rest of a query uses the index that its start left, in one filter at
most. -/
theorem Query.perform_rest (text : AddressText) (session : Session) (query : Query) :
    let entered := openAndSetIndex session query.opening
    let after := sessionOf (query.perform text session)
    foundIndexes after.log = foundIndexes entered.2.log ∧
    (filterIndexes after.log = filterIndexes entered.2.log ∨
      (entered.1 = true ∧
        filterIndexes after.log = filterIndexes entered.2.log ++ [entered.2.self.index])) := by
  dsimp only
  rcases query.perform_log text session with ⟨first, last, walk, log, walked⟩
  simp only [log, foundIndexes_append, filterIndexes_append, foundIndexes_libnl,
    filterIndexes_libnl, List.append_nil, List.nil_append]
  rcases walked with rfl | ⟨returned, family, rfl⟩
  · exact ⟨List.append_nil _, Or.inl (List.append_nil _)⟩
  · exact ⟨List.append_nil _, Or.inr ⟨returned, rfl⟩⟩

/-- What a whole query does to the index, the lookups and the filters. -/
theorem Query.perform_cases (text : AddressText) (session : Session) (query : Query) :
    let after := sessionOf (query.perform text session)
    after.self.device = session.self.device ∧
    ((after.self.index = session.self.index ∧
        foundIndexes after.log = foundIndexes session.log ∧
        forall index, index ∈ filterIndexes after.log ->
          index ∈ filterIndexes session.log ∨
            (0 ≤ session.self.index ∧ index = session.self.index)) ∨
      (session.self.index < 0 ∧ session.connects query.opening = true ∧
        ∃ links link, query.opening.indexCache = .ok links ∧
          rtnlLinkGetByName links session.self.device = some link ∧
          after.self.index = link.ifindex ∧
          foundIndexes after.log =
            foundIndexes session.log ++ (if 0 < link.ifindex then [link.ifindex] else []) ∧
          forall index, index ∈ filterIndexes after.log ->
            index ∈ filterIndexes session.log ∨ (0 < link.ifindex ∧ index = link.ifindex))) := by
  dsimp only
  rcases query.perform_rest text session with ⟨found, filters⟩
  rcases query.perform_session text session with ⟨_, index, device⟩
  rcases openAndSetIndex_cases session query.opening with ⟨sameDevice, sameFilters, outcome⟩
  rw [index, device, found]
  refine ⟨sameDevice, ?_⟩
  -- The filter, if there is one, carries the index that the start left.
  have carried : forall carried, carried ∈ filterIndexes (sessionOf (query.perform text session)).log ->
      carried ∈ filterIndexes session.log ∨
        ((openAndSetIndex session query.opening).1 = true ∧
          carried = (openAndSetIndex session query.opening).2.self.index) := by
    intro carried member
    rcases filters with unused | ⟨returned, used⟩
    · rw [unused, sameFilters] at member
      exact Or.inl member
    · rw [used, sameFilters, List.mem_append, List.mem_singleton] at member
      rcases member with earlier | now
      · exact Or.inl earlier
      · exact Or.inr ⟨returned, now⟩
  rcases outcome with ⟨kept, foundSame, valid⟩ |
    ⟨unset, connects, links, link, filled, named, stored, foundMore, valid⟩
  · refine Or.inl ⟨kept, foundSame, fun other member => ?_⟩
    rcases carried other member with earlier | ⟨returned, now⟩
    · exact Or.inl earlier
    · exact Or.inr ⟨valid returned, now.trans kept⟩
  · refine Or.inr ⟨unset, connects, links, link, filled, named, stored, foundMore,
      fun other member => ?_⟩
    rcases carried other member with earlier | ⟨returned, now⟩
    · exact Or.inl earlier
    · exact Or.inr ⟨valid returned, now.trans stored⟩

/-! ## Preservation, and how the property is lost -/

theorem oneIndex_of {session : Session}
    (unresolved : foundIndexes session.log = [] -> session.self.index < 0)
    (resolved : forall index, (foundIndexes session.log).head? = some index ->
      session.self.index = index)
    (filters : forall index, index ∈ filterIndexes session.log ->
      (foundIndexes session.log).head? = some index) : OneIndex session where
  unresolved := unresolved
  retries := fun nothing links => by
    rw [lookupEvents, if_pos (unresolved nothing)]
  resolved := fun index first =>
    ⟨foundIndexes_positive (List.mem_of_head? first), resolved index first⟩
  filters := filters

theorem OneIndex.start (shared : Shared) (memory : PyEtherInfo) (device : CString) :
    OneIndex (Session.start shared memory device) := by
  refine oneIndex_of (fun _ => ?_) (fun index first => ?_) (fun index member => ?_)
  · exact Int.negSucc_lt_zero 0
  · cases first
  · cases member

/-- While the index is negative nothing has been found. -/
theorem OneIndex.found_nil {session : Session} (one : OneIndex session)
    (unset : session.self.index < 0) : foundIndexes session.log = [] := by
  cases found : foundIndexes session.log with
  | nil => rfl
  | cons index rest =>
      have first : (foundIndexes session.log).head? = some index := by
        rw [found]
        rfl
      rcases one.resolved index first with ⟨positive, same⟩
      omega

/-- Nor has an index been used. -/
theorem OneIndex.unused {session : Session} (one : OneIndex session)
    (unset : session.self.index < 0) (index : Int) : index ∉ filterIndexes session.log := by
  intro member
  have first := one.filters index member
  rw [one.found_nil unset] at first
  cases first

theorem OneIndex.query {session : Session} (one : OneIndex session) (text : AddressText)
    {query : Query} (sound : query.Sound session) :
    OneIndex (sessionOf (query.perform text session)) := by
  rcases query.perform_cases text session with
    ⟨_, ⟨kept, found, filters⟩ |
      ⟨unset, connects, links, link, filled, named, stored, found, filters⟩⟩
  · refine oneIndex_of ?_ ?_ ?_
    · rw [found, kept]
      exact one.unresolved
    · rw [found, kept]
      exact fun index first => (one.resolved index first).2
    · intro index member
      rw [found]
      rcases filters index member with earlier | ⟨resolved, rfl⟩
      · exact one.filters index earlier
      · cases first : foundIndexes session.log with
        | nil =>
            have negative := one.unresolved first
            omega
        | cons other rest =>
            have same := one.resolved other (by rw [first]; rfl)
            rw [same.2]
            rfl
  · rw [one.found_nil unset, List.nil_append] at found
    by_cases positive : 0 < link.ifindex
    · rw [if_pos positive] at found
      refine oneIndex_of ?_ ?_ ?_
      · rw [found]
        exact fun empty => absurd empty (List.cons_ne_nil _ _)
      · rw [found, stored]
        exact fun index first => Option.some.inj first
      · intro index member
        rw [found]
        rcases filters index member with earlier | ⟨_, rfl⟩
        · exact absurd earlier (one.unused unset index)
        · rfl
    · rw [if_neg positive] at found
      have nonzero := sound unset connects links link filled named
      refine oneIndex_of ?_ ?_ ?_
      · intro _
        rw [stored]
        omega
      · rw [found]
        exact fun index first => nomatch first
      · intro index member
        rcases filters index member with earlier | ⟨valid, _⟩
        · exact absurd earlier (one.unused unset index)
        · exact absurd valid positive

/-- The index is zero, and no lookup has found one. -/
structure StuckAtZero (session : Session) : Prop where
  index : session.self.index = 0
  found : foundIndexes session.log = []

theorem StuckAtZero.not_oneIndex {session : Session} (stuck : StuckAtZero session) :
    ¬ OneIndex session := by
  intro one
  have negative := one.unresolved stuck.found
  rw [stuck.index] at negative
  exact absurd negative (Int.lt_irrefl 0)

theorem StuckAtZero.query {session : Session} (stuck : StuckAtZero session)
    (text : AddressText) (query : Query) :
    StuckAtZero (sessionOf (query.perform text session)) := by
  rcases query.perform_cases text session with ⟨_, ⟨kept, found, _⟩ | ⟨unset, _⟩⟩
  · exact ⟨kept.trans stuck.index, found.trans stuck.found⟩
  · rw [stuck.index] at unset
    exact absurd unset (Int.lt_irrefl 0)

/-- A lookup that finds zero leaves the object stuck there. -/
theorem OneIndex.stuck {session : Session} (one : OneIndex session) (text : AddressText)
    {query : Query} (unsound : ¬ query.Sound session) :
    StuckAtZero (sessionOf (query.perform text session)) := by
  simp only [Query.Sound, not_forall, not_not] at unsound
  rcases unsound with ⟨unset, connects, links, link, filled, named, zero⟩
  have index : (sessionOf (query.perform text session)).self.index = 0 := by
    rw [(query.perform_session text session).2.1, openAndSetIndex_self, if_pos connects]
    simp [setDeviceIndex, unset, filled, named, zero]
  have nothing := one.found_nil unset
  refine ⟨index, ?_⟩
  rcases query.perform_cases text session with
    ⟨_, ⟨_, found, _⟩ | ⟨_, _, _, other, _, _, stored, found, _⟩⟩
  · rw [found, nothing]
  · have refused : ¬ 0 < other.ifindex := by
      rw [← stored, index]
      exact Int.lt_irrefl 0
    rw [found, nothing, if_neg refused, List.nil_append]

/-- The first of several queries either stops, or is followed by the rest. -/
theorem performQueries_cons (text : AddressText) (session : Session) (query : Query)
    (queries : List Query) :
    performQueries text session (query :: queries) =
      (query.perform text session).bind (fun after => performQueries text after queries) := by
  rw [performQueries, List.foldlM_cons]
  rfl

theorem StuckAtZero.queries {session : Session} (stuck : StuckAtZero session)
    (text : AddressText) (queries : List Query) :
    StuckAtZero (sessionOf (performQueries text session queries)) := by
  induction queries generalizing session with
  | nil => exact stuck
  | cons query queries ih =>
      have first := stuck.query text query
      rw [performQueries_cons]
      cases performed : query.perform text session with
      | error stopped =>
          rw [performed] at first
          exact first
      | ok after =>
          rw [performed] at first
          exact ih first

/-- The queries of a read keep the property if they are sound, and leave the
object stuck if they are not. -/
theorem OneIndex.queries {session : Session} (one : OneIndex session) (text : AddressText)
    (queries : List Query) :
    (SoundQueries text session queries ∧
        OneIndex (sessionOf (performQueries text session queries))) ∨
      (¬ SoundQueries text session queries ∧
        StuckAtZero (sessionOf (performQueries text session queries))) := by
  induction queries generalizing session with
  | nil => exact Or.inl ⟨trivial, one⟩
  | cons query queries ih =>
      rw [performQueries_cons]
      by_cases sound : query.Sound session
      · have first := one.query text sound
        cases performed : query.perform text session with
        | error stopped =>
            -- What comes after a query that stops is not asked.
            rw [performed] at first
            refine Or.inl ⟨⟨sound, fun after ended => ?_⟩, first⟩
            rw [performed] at ended
            cases ended
        | ok after =>
            rw [performed] at first
            rcases ih first with ⟨later, kept⟩ | ⟨later, stuck⟩
            · refine Or.inl ⟨⟨sound, fun other ended => ?_⟩, kept⟩
              rw [performed] at ended
              cases ended
              exact later
            · exact Or.inr ⟨fun all => later (all.2 after performed), stuck⟩
      · refine Or.inr ⟨fun all => sound all.1, ?_⟩
        have stuck := one.stuck text sound
        cases performed : query.perform text session with
        | error stopped =>
            rw [performed] at stuck
            exact stuck
        | ok after =>
            rw [performed] at stuck
            exact stuck.queries text queries

theorem objectStep_read {text : AddressText} {state next : ObjectState} {read : Read}
    (taken : objectStep text state (.read read) = some next) :
    next.session = sessionOf (performQueries text state.session read.queries) := by
  rw [← read.perform_session text state.session]
  unfold objectStep at taken
  split at taken
  · cases taken
  · rename_i asked same
    cases same
    cases taken
    cases read.perform text state.session <;> rfl
  · rename_i same
    cases same

theorem objectStep_elsewhere {text : AddressText} {state next : ObjectState} {shared : Shared}
    {pending : Option PyError}
    (taken : objectStep text state (.elsewhere shared pending) = some next) :
    next.session = { state.session with shared := shared, pending := pending } := by
  unfold objectStep at taken
  split at taken
  · cases taken
  · rename_i same
    cases same
  · rename_i same
    cases same
    cases taken
    rfl

theorem OneIndex.action_iff {state next : ObjectState} (one : OneIndex state.session)
    {text : AddressText} {action : ObjectAction}
    (taken : objectStep text state action = some next) :
    OneIndex next.session ↔ action.Sound text state := by
  cases action with
  | read asked =>
      rw [objectStep_read taken]
      rcases one.queries text asked.queries with ⟨sound, kept⟩ | ⟨unsound, stuck⟩
      · exact ⟨fun _ => sound, fun _ => kept⟩
      · exact ⟨fun later => absurd later stuck.not_oneIndex, fun sound => absurd sound unsound⟩
  | elsewhere shared pending =>
      rw [objectStep_elsewhere taken]
      refine ⟨fun _ => trivial, fun _ => ?_⟩
      exact oneIndex_of one.unresolved (fun index first => (one.resolved index first).2)
        one.filters

/-! ## Whole runs -/

theorem foundIndexes_query (text : AddressText) (session : Session) (query : Query) :
    foundIndexes session.log <+: foundIndexes (sessionOf (query.perform text session)).log := by
  rcases query.perform_cases text session with
    ⟨_, ⟨_, found, _⟩ | ⟨_, _, _, _, _, _, _, found, _⟩⟩
  · rw [found]
  · rw [found]
    exact List.prefix_append _ _

theorem foundIndexes_queries (text : AddressText) (session : Session) (queries : List Query) :
    foundIndexes session.log <+:
      foundIndexes (sessionOf (performQueries text session queries)).log := by
  induction queries generalizing session with
  | nil => exact List.prefix_rfl
  | cons query queries ih =>
      have first := foundIndexes_query text session query
      rw [performQueries_cons]
      cases performed : query.perform text session with
      | error stopped =>
          rw [performed] at first
          exact first
      | ok after =>
          rw [performed] at first
          exact first.trans (ih after)

/-- Between two states with the property, a found index stays. -/
theorem OneIndex.keepsIndex {before after : ObjectState} (one : OneIndex before.session)
    (later : OneIndex after.session) {text : AddressText} {action : ObjectAction}
    (taken : objectStep text before action = some after) : KeepsIndex before action after := by
  have longer : foundIndexes before.session.log <+: foundIndexes after.session.log := by
    cases action with
    | read asked =>
        rw [objectStep_read taken]
        exact foundIndexes_queries text before.session asked.queries
    | elsewhere shared pending =>
        rw [objectStep_elsewhere taken]
  intro known
  rcases longer with ⟨rest, whole⟩
  cases first : foundIndexes before.session.log with
  | nil => exact absurd first known
  | cons index others =>
      rw [first] at whole
      have head : (foundIndexes before.session.log).head? = some index := by
        rw [first]
        rfl
      have same : (foundIndexes after.session.log).head? = some index := by
        rw [← whole]
        rfl
      rw [(one.resolved index head).2, (later.resolved index same).2]

/-- The object as it is made, before anything has happened. -/
def ObjectState.start (shared : Shared) (memory : PyEtherInfo) (device : CString) : ObjectState where
  session := .start shared memory device
  fault := none

/-- The object has one index along precisely the runs in which no lookup
finds the index zero. -/
theorem oneIndex_run_iff (text : AddressText) (shared : Shared) (memory : PyEtherInfo)
    (device : CString) (actions : List ObjectAction) :
    (Always (objectStep text) (fun state => OneIndex state.session)
          (.start shared memory device) actions ∧
        EachStep (objectStep text) KeepsIndex (.start shared memory device) actions) ↔
      EachStep (objectStep text) (fun state action _ => action.Sound text state)
        (.start shared memory device) actions := by
  constructor
  · rintro ⟨always, _⟩
    exact eachStep_of_always
      (fun _ _ _ taken one later => (OneIndex.action_iff one taken).mp later) always
  · intro sound
    have always : Always (objectStep text) (fun state => OneIndex state.session)
        (.start shared memory device) actions :=
      always_of_guarded (fun _ _ _ taken one guard => (OneIndex.action_iff one taken).mpr guard)
        (OneIndex.start shared memory device) sound
    refine ⟨always, eachStep_of_always ?_ always⟩
    intro before action after taken one later
    exact OneIndex.keepsIndex one later taken

/-- The link `eth0` with the index zero. -/
def zeroLink : RtnlLink where
  name := eth0
  ifindex := 0

/-- One read whose lookup finds that link. -/
def zeroRead : List ObjectAction :=
  [.read (.ipv4Addresses { AddressCalls.dump [] with indexCache := .ok [zeroLink] })]

/-- The lookup finds the index zero, raises, and leaves it in the object. -/
theorem keeps_index_zero :
    ¬ (Always (objectStep plainText) (fun state => OneIndex state.session)
          (.start ⟨none, 0⟩ .cleared eth0) zeroRead ∧
        EachStep (objectStep plainText) KeepsIndex (.start ⟨none, 0⟩ .cleared eth0)
          zeroRead) := by
  rintro ⟨always, _⟩
  have last := (always.2 _ rfl).unresolved rfl
  exact absurd last (Int.lt_irrefl 0)

end Netlink
end PythonEthtool
