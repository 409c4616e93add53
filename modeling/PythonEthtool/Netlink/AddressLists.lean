import PythonEthtool.Netlink.Outcomes

namespace PythonEthtool
namespace Netlink

open Foundations
open Python

/-!
# The lists of addresses

Where every record can be converted, a query lists the records of one
interface and one family as the dump has them: none is lost, none is added,
and the order is that of the dump.  The two queries then share no object and
together hold every IPv4 and IPv6 record of the interface.
-/

/-- The object carries the data of the record. -/
structure Describes (text : AddressText) (addr : RtnlAddr) (object : PyNetlinkIPaddress) :
    Prop where
  family : object.family = addr.family
  address : object.local_ = text.inetNtop addr.family addr.local_.binary
  prefixlen : object.prefixlen = addr.prefixlen
  scope : object.scope = some (text.rtnlScope2str addr.scope)
  peer : object.peer = addr.peer.map (fun peer => text.nlAddr2str (some peer) sizeofBuf)
  broadcast_isSome : object.ipv4Broadcast.isSome ↔ addr.family = AF_INET ∧ addr.broadcast.isSome
  broadcast : forall broadcast, addr.family = AF_INET -> addr.broadcast = some broadcast ->
    object.ipv4Broadcast = some (text.inetNtop AF_INET broadcast.binary)

theorem describes_addressOf (text : AddressText) (addr : RtnlAddr) :
    Describes text addr (addressOf text addr) where
  family := rfl
  address := rfl
  prefixlen := rfl
  scope := rfl
  peer := rfl
  broadcast_isSome := by
    by_cases inet : addr.family = AF_INET
    · simp [addressOf, broadcastText, inet]
    · simp [addressOf, broadcastText, inet]
  broadcast := by
    intro broadcast inet present
    simp [addressOf, broadcastText, inet, present]

/-- The records of an interface in one of the families, as the dump has
them. -/
def recordsOf (dump : List RtnlAddr) (index : Int) (families : List Int) : List RtnlAddr :=
  dump.filter (fun addr => addr.ifindex = index ∧ addr.family ∈ families)

/-- The records of two different families make up the records of both. -/
theorem recordsOf_perm (dump : List RtnlAddr) (index : Int) {first second : Int}
    (different : first ≠ second) :
    (recordsOf dump index [first] ++ recordsOf dump index [second]).Perm
      (recordsOf dump index [first, second]) := by
  have parts := List.filter_append_perm (fun addr : RtnlAddr => decide (addr.family = first))
    (recordsOf dump index [first, second])
  have left : (recordsOf dump index [first, second]).filter
      (fun addr => decide (addr.family = first)) = recordsOf dump index [first] := by
    rw [recordsOf, List.filter_filter]
    apply List.filter_congr
    intro addr _
    by_cases same : addr.family = first <;> simp [same]
  have right : (recordsOf dump index [first, second]).filter
      (fun addr => !decide (addr.family = first)) = recordsOf dump index [second] := by
    rw [recordsOf, List.filter_filter]
    apply List.filter_congr
    intro addr _
    by_cases same : addr.family = first
    · simp [same, different]
    · simp [same]
  rw [left, right] at parts
  exact parts

/-- What a query walks over, without the outcomes of the calls. -/
theorem addressesFor_records {session : Session} {calls : AddressCalls}
    {dump : List (RtnlAddr × Building)} (resolved : 0 ≤ session.self.index)
    (connects : session.connects calls.toOpeningCalls = true)
    (dumped : calls.addrCache = .ok dump) (allocated : calls.addrAlloc = true)
    (query : NlQuery) :
    ∃ records, session.addressesFor query calls = some records ∧
      (forall record, record ∈ records -> record ∈ dump) ∧
      records.map Prod.fst =
        recordsOf (dump.map Prod.fst) session.self.index [query.family] := by
  have index : session.indexFor calls.toOpeningCalls = some session.self.index := by
    rw [Session.indexFor, if_pos connects, PyEtherInfo.lookup_resolved resolved]
  refine ⟨dump.filter (fun record =>
    record.1.ifindex = session.self.index ∧ record.1.family = query.family), ?_, ?_, ?_⟩
  · simp only [Session.addressesFor, index, dumped, allocated, if_true]
  · intro record member
    exact (List.mem_filter.mp member).1
  · rw [recordsOf, List.filter_map]
    congr 1
    apply List.filter_congr
    intro record _
    simp

/-- One object for each record that matches, in the order of the dump. -/
theorem getEtherinfoAddress_forall₂ (text : AddressText) {session : Session}
    {calls : AddressCalls} {dump : List (RtnlAddr × Building)}
    (resolved : 0 ≤ session.self.index)
    (connects : session.connects calls.toOpeningCalls = true)
    (dumped : calls.addrCache = .ok dump) (allocated : calls.addrAlloc = true)
    (converts : forall record, record ∈ dump -> ¬ record.2.Raises record.1)
    (query : NlQuery) :
    ∃ listed, Returns (getEtherinfoAddress text session query calls) listed ∧
      List.Forall₂ (Describes text)
        (recordsOf (dump.map Prod.fst) session.self.index [query.family]) listed := by
  rcases addressesFor_records resolved connects dumped allocated query with
    ⟨records, walked, among, same⟩
  have clean : forall record, record ∈ records -> ¬ record.2.Raises record.1 :=
    fun record member => converts record (among record member)
  rcases getEtherinfoAddress_clean text walked clean with ⟨after, returns, _⟩
  refine ⟨_, ⟨after, returns⟩, ?_⟩
  rw [← same, List.forall₂_map_left_iff, List.forall₂_map_right_iff]
  exact List.forall₂_same.mpr (fun record _ => describes_addressOf text record.1)

/-- Every object of a list belongs to a record. -/
theorem exists_described {text : AddressText} {records : List RtnlAddr}
    {listed : List PyNetlinkIPaddress}
    (described : List.Forall₂ (Describes text) records listed)
    {object : PyNetlinkIPaddress} (member : object ∈ listed) :
    ∃ addr, addr ∈ records ∧ Describes text addr object := by
  induction described with
  | nil => cases member
  | cons head _ ih =>
      rcases List.mem_cons.mp member with rfl | later
      · exact ⟨_, List.mem_cons_self, head⟩
      · rcases ih later with ⟨addr, present, describes⟩
        exact ⟨addr, List.mem_cons_of_mem _ present, describes⟩

theorem family_of_described {text : AddressText} {dump : List RtnlAddr} {index family : Int}
    {listed : List PyNetlinkIPaddress}
    (described : List.Forall₂ (Describes text) (recordsOf dump index [family]) listed)
    {object : PyNetlinkIPaddress} (member : object ∈ listed) : object.family = family := by
  rcases exists_described described member with ⟨addr, present, describes⟩
  have matching := of_decide_eq_true (List.mem_filter.mp present).2
  rw [describes.family]
  exact List.mem_singleton.mp matching.2

/-- The address queries lose, invent and reorder nothing. -/
theorem getEtherinfoAddress_lists (text : AddressText) {session : Session}
    {calls : AddressCalls} {dump : List (RtnlAddr × Building)}
    (resolved : 0 ≤ session.self.index)
    (connects : session.connects calls.toOpeningCalls = true)
    (dumped : calls.addrCache = .ok dump) (allocated : calls.addrAlloc = true)
    (converts : forall record, record ∈ dump -> ¬ record.2.Raises record.1) :
    ∃ ipv4 ipv6,
      Returns (getEtherinfoAddress text session .addr4 calls) ipv4 ∧
      Returns (getEtherinfoAddress text session .addr6 calls) ipv6 ∧
      List.Forall₂ (Describes text)
        (recordsOf (dump.map Prod.fst) session.self.index [AF_INET]) ipv4 ∧
      List.Forall₂ (Describes text)
        (recordsOf (dump.map Prod.fst) session.self.index [AF_INET6]) ipv6 ∧
      List.Disjoint ipv4 ipv6 ∧
      ∃ records,
        records.Perm (recordsOf (dump.map Prod.fst) session.self.index [AF_INET, AF_INET6]) ∧
        List.Forall₂ (Describes text) records (ipv4 ++ ipv6) := by
  rcases getEtherinfoAddress_forall₂ text resolved connects dumped allocated converts .addr4 with
    ⟨ipv4, value4, described4⟩
  rcases getEtherinfoAddress_forall₂ text resolved connects dumped allocated converts .addr6 with
    ⟨ipv6, value6, described6⟩
  refine ⟨ipv4, ipv6, value4, value6, described4, described6, ?_, _,
    recordsOf_perm _ _ (by decide), List.rel_append described4 described6⟩
  intro object member4 member6
  have family4 := family_of_described described4 member4
  have family6 := family_of_described described6 member6
  rw [family4] at family6
  exact absurd family6 (by decide)

/-- An object that has looked its index up and is connected. -/
def Session.ready : Session where
  shared := { nlconnection := some ⟨true⟩, nlconnectionUsers := 1 }
  self := { device := eth0, index := 2, hwaddress := none, nlcActive := 1 }
  pending := none
  log := []

/-- Records of two interfaces and three families. -/
def mixedDump : List (RtnlAddr × Building) :=
  [(eth0Addr, .success), ({ eth0Addr with ifindex := 3 }, .success), (eth0Addr6, .success),
    ({ eth0Addr with family := 28 }, .success), ({ eth0Addr6 with ifindex := 3 }, .success),
    ({ eth0Addr with prefixlen := 8, broadcast := none }, .success)]

theorem getEtherinfoAddress_lists_eth0 :
    ∃ ipv4 ipv6,
      Returns (getEtherinfoAddress plainText .ready .addr4 (.dump mixedDump)) ipv4 ∧
      Returns (getEtherinfoAddress plainText .ready .addr6 (.dump mixedDump)) ipv6 ∧
      List.Forall₂ (Describes plainText)
        [eth0Addr, { eth0Addr with prefixlen := 8, broadcast := none }] ipv4 ∧
      List.Forall₂ (Describes plainText) [eth0Addr6] ipv6 ∧
      List.Disjoint ipv4 ipv6 ∧
      ∃ records,
        records.Perm
          [eth0Addr, eth0Addr6, { eth0Addr with prefixlen := 8, broadcast := none }] ∧
        List.Forall₂ (Describes plainText) records (ipv4 ++ ipv6) :=
  @getEtherinfoAddress_lists plainText .ready (.dump mixedDump) mixedDump (by decide) rfl rfl rfl
    (by decide)

end Netlink
end PythonEthtool
