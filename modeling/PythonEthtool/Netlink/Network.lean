import PythonEthtool.Netlink.LegacyAttributes

namespace PythonEthtool
namespace Netlink

open Foundations
open Python

/-!
# The kernel behind the objects

The tables of the kernel are links and addresses.  What a read of an object
is to show is `Network.observe`, which knows the tables, the name of the
device and the link-layer address that the object met first, and neither a
connection nor an index.

A read asks each of its queries once, and any call of a query may fail.  An
object whose index is unset or that of the link of its name is faithful; its
queries walk over that link or the addresses of that link and nothing else,
or they leave an exception, if they end.
-/

/-! ## The kernel as it is meant to be seen -/

/-- The tables of the kernel.  Its indexes are positive and distinct. -/
structure Network where
  links : List LinkRecord
  addresses : List RtnlAddr
  positive : forall link, link ∈ links -> 0 < link.ifindex
  distinct : (links.map (fun link => link.ifindex)).Nodup

/-- What a script can read of an object. -/
inductive Attribute where
  | device
  | macAddress
  | ipv4 (read : Ipv4Read)
  | ipv6Addresses
  | str

/-- A read that ends with a value and without an exception. -/
def Reading.Normal : Reading -> Prop
  | .list _ => True
  | .value _ => True
  | .raised _ => False
  | .broken => False
  | .fault _ => False

/-- A read that ends normally tells the truth, and one in which nothing fails
is the truth. -/
structure Reading.Tells (reading truth : Reading) (faultless : Prop) : Prop where
  normal : reading.Normal -> reading = truth
  faultless : faultless -> reading = truth

/-- The exception for a device that has no link. -/
def noDevice : PyError :=
  ⟨.osError, .errno ENODEV⟩

section Texts

variable (text : AddressText) (addr : RtnlAddr)

/-- The lines of one address in the string of an object. -/
def ipv4Text : String :=
  "\tIPv4 address: " ++ text.inetNtop addr.family addr.local_.binary ++ "/" ++
    toString addr.prefixlen ++
    match broadcastText text addr with
    | some broadcast => "\tBroadcast: " ++ broadcast ++ "\n"
    | none => "\n"

def ipv6Text : String :=
  "\tIPv6 address: [" ++ text.rtnlScope2str addr.scope ++ "] " ++
    text.inetNtop addr.family addr.local_.binary ++ "/" ++ toString addr.prefixlen ++ "\n"

end Texts

namespace Network

def link (network : Network) (device : CString) : Option LinkRecord :=
  network.links.find? (fun link => link.name = device)

/-- The addresses of a link, in the order of the table. -/
def addressesOf (network : Network) (query : NlQuery) (link : LinkRecord) : List RtnlAddr :=
  network.addresses.filter (fun addr => addr.ifindex = link.ifindex ∧ addr.family = query.family)

def listed (text : AddressText) (network : Network) (query : NlQuery) (link : LinkRecord) :
    List PyNetlinkIPaddress :=
  (network.addressesOf query link).map (addressOf text)

def hwaddress (text : AddressText) (link : LinkRecord) : String :=
  text.nlAddr2str link.addr sizeofHwaddr

/-- The text of a device. -/
def description (text : AddressText) (network : Network) (device : CString) (link : LinkRecord)
    (hwaddress : String) : String :=
  "Device " ++ deviceText device ++ ":\n" ++ ("\tMAC address: " ++ hwaddress ++ "\n") ++
    String.join ((network.addressesOf .addr4 link).map (ipv4Text text)) ++
    String.join ((network.addressesOf .addr6 link).map (ipv6Text text))

/-- What a read is to show.  The link-layer address is the one that was met
first, if there was one.  The string of a device that does not exist is
returned together with an exception. -/
def observe (text : AddressText) (network : Network) (device : CString)
    (first : Option String) : Attribute -> Reading
  | .device => .value (.str (deviceText device))
  | .macAddress =>
      match network.link device with
      | some link => .value (.str (first.getD (hwaddress text link)))
      | none => .raised noDevice
  | .ipv4 read =>
      match network.link device with
      | some link => shownOf (.ok (network.listed text .addr4 link)) read
      | none => .raised noDevice
  | .ipv6Addresses =>
      match network.link device with
      | some link => .list (network.listed text .addr6 link)
      | none => .raised noDevice
  | .str =>
      match network.link device with
      | some link =>
          .value (.str (network.description text device link (first.getD (hwaddress text link))))
      | none => .broken

end Network

/-! ## One read -/

/-- The queries that a read can be made of, each of them once. -/
inductive Asked where
  | link
  | address (query : NlQuery)

/-- How the calls of one query come out: the connection, the texts of the
errors of the two dumps, the allocation of the filter, and the objects for the
records of the dump. -/
structure Faults where
  opening : LibnlOutcome
  indexDump : Option String
  dump : Option String
  alloc : Bool
  building : Nat -> Building

/-- Every call succeeds. -/
structure Faults.None (faults : Faults) : Prop where
  socket : faults.opening.socketAlloc = true
  connect : 0 ≤ faults.opening.connect
  indexDump : faults.indexDump = none
  dump : faults.dump = none
  alloc : faults.alloc = true
  building : forall position addr, ¬ (faults.building position).Raises addr

/-- A table, or the error of the call that was to fetch it. -/
def fetched {Table : Type} (table : Table) : Option String -> Except String Table
  | none => .ok table
  | some error => .error error

namespace Network

def openingCalls (network : Network) (faults : Faults) : OpeningCalls where
  opening := faults.opening
  indexCache := fetched (network.links.map LinkRecord.toRtnlLink) faults.indexDump

def linkCalls (network : Network) (faults : Faults) : LinkCalls where
  toOpeningCalls := network.openingCalls faults
  linkCache := fetched network.links faults.dump
  linkAlloc := faults.alloc

/-- The records come with what happens to them at their place in the dump. -/
def records (network : Network) (faults : Faults) : List (RtnlAddr × Building) :=
  network.addresses.zipIdx.map (fun entry => (entry.1, faults.building entry.2))

def addressCalls (network : Network) (faults : Faults) : AddressCalls where
  toOpeningCalls := network.openingCalls faults
  addrCache := fetched (network.records faults) faults.dump
  addrAlloc := faults.alloc

end Network

/-- The getter of the attribute `device`. -/
def Session.getDevice (session : Session) : Returned PyValue where
  value := some (.str (deviceText session.self.device))
  session := session

/-- One read, with what the interpreter makes of it, and the session after it,
if there is one. -/
def readAttribute (text : AddressText) (network : Network) (faults : Asked -> Faults)
    (session : Session) : Attribute -> Reading × Option Session
  | .device => readingOf .value (.ok session.getDevice)
  | .macAddress =>
      readingOf (fun hwaddress => .value (.str hwaddress))
        (.ok (getMacAddr text session (network.linkCalls (faults .link))))
  | .ipv4 read =>
      readIpv4 text session (network.addressCalls (faults (.address .addr4))) read
  | .ipv6Addresses =>
      readingOf .list
        (getIpv6Addresses text session (network.addressCalls (faults (.address .addr6))))
  | .str =>
      readingOf (fun string => .value (.str string))
        (ethtoolEtherinfoStr text session (network.linkCalls (faults .link))
          (network.addressCalls (faults (.address .addr4)))
          (network.addressCalls (faults (.address .addr6))))

/-! ## The tables -/

section Tables

variable {network : Network} {device : CString} {link : LinkRecord}

theorem Network.link_mem (found : network.link device = some link) : link ∈ network.links :=
  List.mem_of_find?_eq_some found

theorem Network.rtnlLinkGetByName_links (network : Network) (device : CString) :
    rtnlLinkGetByName (network.links.map LinkRecord.toRtnlLink) device =
      (network.link device).map LinkRecord.toRtnlLink := by
  rw [rtnlLinkGetByName, List.find?_map]
  rfl

/-- Where a key is distinct, it selects one entry. -/
theorem filter_of_nodup {Entry Key : Type} [DecidableEq Key] (key : Entry -> Key)
    {entries : List Entry} (distinct : (entries.map key).Nodup) {entry : Entry}
    (member : entry ∈ entries) :
    entries.filter (fun other => key other = key entry) = [entry] := by
  induction entries with
  | nil => cases member
  | cons first rest ih =>
      rw [List.map_cons, List.nodup_cons] at distinct
      rcases List.mem_cons.mp member with rfl | later
      · have others : rest.filter (fun other => key other = key entry) = [] := by
          rw [List.filter_eq_nil_iff]
          intro other inside same
          rw [decide_eq_true_eq] at same
          exact distinct.1 (same ▸ List.mem_map_of_mem inside)
        rw [List.filter_cons_of_pos (by simp), others]
      · have other : key first ≠ key entry := fun same =>
          distinct.1 (same ▸ List.mem_map_of_mem later)
        rw [List.filter_cons_of_neg (by simpa using other)]
        exact ih distinct.2 later

theorem Network.filter_links (found : network.link device = some link) :
    network.links.filter (fun other => other.ifindex = link.ifindex) = [link] :=
  filter_of_nodup (fun link : LinkRecord => link.ifindex) network.distinct
    (Network.link_mem found)

/-- Filtering the records filters the addresses. -/
theorem Network.map_records (network : Network) (faults : Faults) :
    (network.records faults).map Prod.fst = network.addresses := by
  rw [Network.records, List.map_map]
  exact List.zipIdx_map_fst 0 network.addresses

theorem Network.listed_records (text : AddressText) (faults : Faults) (query : NlQuery)
    (link : LinkRecord) :
    ((network.records faults).filter (fun record =>
        record.1.ifindex = link.ifindex ∧ record.1.family = query.family)).map
          (fun record => addressOf text record.1) = network.listed text query link := by
  rw [Network.listed, Network.addressesOf, ← network.map_records faults, List.filter_map,
    List.map_map]
  rfl

end Tables

/-! ## What an object keeps -/

/-- The object has looked up nothing yet, or it has the index of the link of
its device. -/
def Faithful (network : Network) (ethi : PyEtherInfo) : Prop :=
  (ethi.index < 0 ∧ ethi.hwaddress = none) ∨
    ∃ link, network.link ethi.device = some link ∧ ethi.index = link.ifindex

section Keeping

variable {network : Network} {ethi : PyEtherInfo} {faults : Faults}

theorem faithful_new (memory : PyEtherInfo) (device : CString) :
    Faithful network (newEtherInfo memory device) :=
  Or.inl ⟨Int.negSucc_lt_zero 0, rfl⟩

/-- What is kept stays right as long as the link keeps its index, if that is
known at all. -/
theorem Faithful.change {other : Network} (faithful : Faithful network ethi)
    (kept : 0 ≤ ethi.index -> (other.link ethi.device).map (fun link => link.ifindex) =
      (network.link ethi.device).map (fun link => link.ifindex)) :
    Faithful other ethi := by
  rcases faithful with unset | ⟨link, found, index⟩
  · exact Or.inl unset
  · have positive := network.positive link (Network.link_mem found)
    have same := kept (by omega)
    rw [found, Option.map_some] at same
    rcases Option.map_eq_some_iff.mp same with ⟨again, foundAgain, sameIndex⟩
    exact Or.inr ⟨again, foundAgain, index.trans sameIndex.symm⟩

/-- The index is only ever that of the link. -/
theorem Faithful.lookup (faithful : Faithful network ethi) {index : Int}
    (looked : ethi.lookup (network.openingCalls faults).indexCache = some index) :
    ∃ link, network.link ethi.device = some link ∧ index = link.ifindex := by
  unfold PyEtherInfo.lookup at looked
  rcases faithful with ⟨unset, _⟩ | ⟨link, found, kept⟩
  · rw [if_pos unset] at looked
    cases failed : faults.indexDump with
    | some error => simp [Network.openingCalls, fetched, failed] at looked
    | none =>
        simp only [Network.openingCalls, fetched, failed, Network.rtnlLinkGetByName_links] at looked
        rcases Option.filter_eq_some_iff.mp looked with ⟨mapped, _⟩
        rw [Option.map_map] at mapped
        rcases Option.map_eq_some_iff.mp mapped with ⟨link, found, rfl⟩
        exact ⟨link, found, rfl⟩
  · have positive := network.positive link (Network.link_mem found)
    rw [if_neg (by omega)] at looked
    exact ⟨link, found, (Option.some.inj looked).symm.trans kept⟩

/-- Where the dump is there, the index of an existing link is found. -/
theorem Faithful.lookup_link (faithful : Faithful network ethi)
    (dumped : faults.indexDump = none) {link : LinkRecord}
    (found : network.link ethi.device = some link) :
    ethi.lookup (network.openingCalls faults).indexCache = some link.ifindex := by
  have positive := network.positive link (Network.link_mem found)
  unfold PyEtherInfo.lookup
  rcases faithful with ⟨unset, _⟩ | ⟨known, same, kept⟩
  · rw [if_pos unset]
    simp only [Network.openingCalls, fetched, dumped, Network.rtnlLinkGetByName_links, found]
    exact Option.filter_eq_some_iff.mpr ⟨rfl, decide_eq_true positive⟩
  · rw [found] at same
    cases same
    rw [if_neg (by omega), kept]

theorem setDeviceIndex_device (self : PyEtherInfo) (cache : Except String (List RtnlLink)) :
    (setDeviceIndex self cache).self.device = self.device ∧
      (setDeviceIndex self cache).self.hwaddress = self.hwaddress := by
  unfold setDeviceIndex
  split
  · split
    · exact ⟨rfl, rfl⟩
    · split
      · exact ⟨rfl, rfl⟩
      · exact ⟨rfl, rfl⟩
  · exact ⟨rfl, rfl⟩

/-- A lookup that fails leaves the object as it is, and for want of a link it
says so. -/
theorem Faithful.setDeviceIndex_none
    (missing : ethi.lookup (network.openingCalls faults).indexCache = none) :
    (setDeviceIndex ethi (network.openingCalls faults).indexCache).self = ethi ∧
      (faults.indexDump = none ->
        (setDeviceIndex ethi (network.openingCalls faults).indexCache).pending =
          some noDevice) := by
  unfold PyEtherInfo.lookup at missing
  unfold setDeviceIndex
  split at missing
  · rename_i unset
    rw [if_pos unset]
    cases failed : faults.indexDump with
    | some error =>
        simp only [Network.openingCalls, fetched, failed, reduceCtorEq, false_implies, and_self]
    | none =>
        simp only [Network.openingCalls, fetched, failed,
          Network.rtnlLinkGetByName_links] at missing ⊢
        cases found : network.link ethi.device with
        | none =>
            simp only [Option.map_none]
            exact ⟨trivial, fun _ => rfl⟩
        | some link =>
            have positive := network.positive link (Network.link_mem found)
            rw [found] at missing
            simp [positive, Option.filter] at missing
  · cases missing

/-- A lookup stores the index of the link, or leaves the object as it is. -/
theorem Faithful.setDeviceIndex (faithful : Faithful network ethi) :
    Faithful network (setDeviceIndex ethi (network.openingCalls faults).indexCache).self := by
  have set := setDeviceIndex_lookup ethi (network.openingCalls faults).indexCache
  cases looked : ethi.lookup (network.openingCalls faults).indexCache with
  | some index =>
      rw [looked] at set
      rcases faithful.lookup looked with ⟨link, found, rfl⟩
      rw [set.2.1]
      exact Or.inr ⟨link, found, rfl⟩
  | none =>
      rw [(Faithful.setDeviceIndex_none looked).1]
      exact faithful

end Keeping

/-! ## One query -/

/-- The query of a kind, over these tables. -/
def Network.query (network : Network) (faults : Asked -> Faults) : Asked -> Query
  | .link => .link (network.linkCalls (faults .link))
  | .address kind => .address kind (network.addressCalls (faults (.address kind)))

section OneQuery

variable {network : Network} {session : Session} {faults : Faults} {kind : NlQuery}

/-- A query starts with the same device, and keeps what was right. -/
theorem Faithful.openAndSetIndex (faithful : Faithful network session.self)
    (faults : Faults) :
    Faithful network (openAndSetIndex session (network.openingCalls faults)).2.self := by
  have tagged : Faithful network { session.self with nlcActive := 1 } := faithful
  rw [openAndSetIndex_self]
  split
  · exact tagged.setDeviceIndex
  · exact faithful

theorem openAndSetIndex_device (session : Session) (calls : OpeningCalls) :
    (openAndSetIndex session calls).2.self.device = session.self.device ∧
      (openAndSetIndex session calls).2.self.hwaddress = session.self.hwaddress := by
  rw [openAndSetIndex_self]
  split
  · exact setDeviceIndex_device _ _
  · exact ⟨rfl, rfl⟩

/-- The link query walks over the link of the device and no other. -/
theorem Faithful.linksFor (faithful : Faithful network session.self)
    {links : List LinkRecord}
    (walked : session.linksFor (network.linkCalls faults) = some links) :
    ∃ link, network.link session.self.device = some link ∧
      session.indexFor (network.openingCalls faults) = some link.ifindex ∧ links = [link] := by
  rcases linksFor_walked walked with ⟨index, dump, indexed, filled, _, rfl⟩
  rcases faithful.lookup (Session.indexFor_eq_some indexed).2 with ⟨link, found, rfl⟩
  refine ⟨link, found, indexed, ?_⟩
  cases failed : faults.dump with
  | some error => simp [Network.linkCalls, fetched, failed] at filled
  | none =>
      simp only [Network.linkCalls, fetched, failed, Except.ok.injEq] at filled
      rw [← filled]
      exact Network.filter_links found

/-- So does an address query over the addresses of that link. -/
theorem Faithful.addressesFor (faithful : Faithful network session.self)
    {records : List (RtnlAddr × Building)}
    (walked : session.addressesFor kind (network.addressCalls faults) = some records) :
    ∃ link, network.link session.self.device = some link ∧
      records = (network.records faults).filter (fun record =>
        record.1.ifindex = link.ifindex ∧ record.1.family = kind.family) := by
  rcases addressesFor_walked walked with ⟨index, dump, indexed, filled, _, rfl⟩
  rcases faithful.lookup (Session.indexFor_eq_some indexed).2 with ⟨link, found, rfl⟩
  refine ⟨link, found, ?_⟩
  cases failed : faults.dump with
  | some error => simp [Network.addressCalls, fetched, failed] at filled
  | none =>
      simp only [Network.addressCalls, fetched, failed, Except.ok.injEq] at filled
      rw [← filled]

namespace Faults.None

variable (none : faults.None) (faithful : Faithful network session.self)
include none

theorem connects (session : Session) : session.connects (network.openingCalls faults) = true := by
  simp [Session.connects, Network.openingCalls, none.socket, none.connect]

/-- None of the records raises where nothing fails. -/
theorem clean {record : RtnlAddr × Building}
    (member : record ∈ network.records faults) : ¬ record.2.Raises record.1 := by
  rcases List.mem_map.mp member with ⟨entry, _, rfl⟩
  exact none.building entry.2 entry.1

include faithful

/-- Without failures a query of an existing device has its index. -/
theorem indexFor {link : LinkRecord} (found : network.link session.self.device = some link) :
    session.indexFor (network.openingCalls faults) = some link.ifindex := by
  rw [Session.indexFor, if_pos (none.connects session)]
  exact faithful.lookup_link none.indexDump found

theorem linksFor {link : LinkRecord} (found : network.link session.self.device = some link) :
    (session.linksFor (network.linkCalls faults)).isSome := by
  have indexed := none.indexFor faithful found
  have filled : (network.linkCalls faults).linkCache = .ok network.links := by
    simp only [Network.linkCalls, fetched, none.dump]
  have allocated : (network.linkCalls faults).linkAlloc = true := none.alloc
  simp only [Session.linksFor, show (network.linkCalls faults).toOpeningCalls =
    network.openingCalls faults from rfl, indexed, filled, allocated, if_true, Option.isSome_some]

theorem addressesFor {link : LinkRecord}
    (found : network.link session.self.device = some link) :
    (session.addressesFor kind (network.addressCalls faults)).isSome := by
  have indexed := none.indexFor faithful found
  have filled : (network.addressCalls faults).addrCache = .ok (network.records faults) := by
    simp only [Network.addressCalls, fetched, none.dump]
  have allocated : (network.addressCalls faults).addrAlloc = true := none.alloc
  simp only [Session.addressesFor, show (network.addressCalls faults).toOpeningCalls =
    network.openingCalls faults from rfl, indexed, filled, allocated, if_true, Option.isSome_some]

/-- And a query of a device without a link stops, and says so. -/
theorem missing (absent : network.link session.self.device = Option.none) :
    (openAndSetIndex session (network.openingCalls faults)).1 = false ∧
      (session.pending = Option.none ->
        (openAndSetIndex session (network.openingCalls faults)).2.pending = some noDevice) ∧
      session.self.hwaddress = Option.none := by
  have tagged : Faithful network { session.self with nlcActive := 1 } := faithful
  have unlooked : ({ session.self with nlcActive := 1 } : PyEtherInfo).lookup
      (network.openingCalls faults).indexCache = Option.none := by
    cases looked : ({ session.self with nlcActive := 1 } : PyEtherInfo).lookup
        (network.openingCalls faults).indexCache with
    | none => rfl
    | some index =>
        rcases tagged.lookup looked with ⟨link, found, _⟩
        have device : network.link session.self.device = some link := found
        rw [absent] at device
        cases device
  have connects : session.connects (network.openingCalls faults) = true :=
    none.connects session
  have stops : session.indexFor (network.openingCalls faults) = Option.none := by
    rw [Session.indexFor, if_pos connects]
    exact unlooked
  refine ⟨(openAndSetIndex_missing stops).1, fun clear => ?_, ?_⟩
  · have said := (Faithful.setDeviceIndex_none unlooked).2 none.indexDump
    simp only [openAndSetIndex, openNetlink_returned, openNetlink_ethi, connects, if_true, said,
      clear, Option.map_some, PyError.over_none, Option.some_or]
  · rcases faithful with ⟨_, nothing⟩ | ⟨link, found, _⟩
    · exact nothing
    · rw [absent] at found
      cases found

end Faults.None

end OneQuery

/-- What a link query leaves: the address of the link, unless there was one,
without a new exception; or an exception. -/
theorem link_query (text : AddressText) {network : Network} {session : Session}
    (faults : Faults) (faithful : Faithful network session.self) :
    (∃ link, network.link session.self.device = some link ∧
        (getEtherinfoLink text session (network.linkCalls faults)).2.self.index = link.ifindex ∧
        (getEtherinfoLink text session (network.linkCalls faults)).2.self.hwaddress =
          some (session.self.hwaddress.getD (Network.hwaddress text link)) ∧
        (getEtherinfoLink text session (network.linkCalls faults)).2.pending =
          session.pending) ∨
      ((getEtherinfoLink text session (network.linkCalls faults)).2.self.hwaddress =
          session.self.hwaddress ∧
        (getEtherinfoLink text session (network.linkCalls faults)).2.pending.isSome ∧
        (faults.None -> network.link session.self.device = none ∧
          session.self.hwaddress = none ∧
          (session.pending = none ->
            (getEtherinfoLink text session (network.linkCalls faults)).2.pending =
              some noDevice))) := by
  cases walked : session.linksFor (network.linkCalls faults) with
  | some links =>
      rcases faithful.linksFor walked with ⟨link, found, indexed, rfl⟩
      rcases getEtherinfoLink_walked text walked with ⟨_, hwaddress, pending⟩
      have index : (getEtherinfoLink text session (network.linkCalls faults)).2.self.index =
          link.ifindex := by
        rw [(getEtherinfoLink_session text session (network.linkCalls faults)).2.1]
        exact congrArg PyEtherInfo.index (openAndSetIndex_found indexed).2.1
      refine Or.inl ⟨link, found, index, ?_, pending⟩
      rw [hwaddress]
      cases session.self.hwaddress with
      | none => rfl
      | some hwaddress => rfl
  | none =>
      rcases getEtherinfoLink_failed text walked with ⟨_, hwaddress, pending⟩
      refine Or.inr ⟨hwaddress, pending, fun none => ?_⟩
      have absent : network.link session.self.device = Option.none := by
        cases found : network.link session.self.device with
        | none => rfl
        | some link =>
            have reached := none.linksFor faithful found
            rw [walked] at reached
            cases reached
      rcases none.missing faithful absent with ⟨stops, raised, nothing⟩
      refine ⟨absent, nothing, ?_⟩
      have stopped : (openAndSetIndex session
          (network.linkCalls faults).toOpeningCalls).1 = false := stops
      simp only [getEtherinfoLink, stopped, Bool.false_eq_true, if_false]
      exact raised

/-- What an address query leaves: the list of the table without a new
exception; or an exception, if it ends at all. -/
theorem address_query (text : AddressText) {network : Network} {session : Session}
    (faults : Faults) (kind : NlQuery) (faithful : Faithful network session.self) :
    (∃ link after, network.link session.self.device = some link ∧
        getEtherinfoAddress text session kind (network.addressCalls faults) =
          .ok { value := some (network.listed text kind link), session := after } ∧
        after.pending = session.pending) ∨
      ((forall result,
          getEtherinfoAddress text session kind (network.addressCalls faults) = .ok result ->
            result.session.pending.isSome) ∧
        (faults.None -> network.link session.self.device = none ∧
          ∃ after, getEtherinfoAddress text session kind (network.addressCalls faults) =
              .ok { value := none, session := after } ∧
            (session.pending = none -> after.pending = some noDevice))) := by
  cases walked : session.addressesFor kind (network.addressCalls faults) with
  | some records =>
      rcases faithful.addressesFor walked with ⟨link, found, selected⟩
      by_cases clean : forall record, record ∈ records -> ¬ record.2.Raises record.1
      · rcases getEtherinfoAddress_clean text walked clean with ⟨after, returns, pending⟩
        refine Or.inl ⟨link, after, found, ?_, pending⟩
        rw [returns, selected, Network.listed_records]
      · push Not at clean
        rcases clean with ⟨record, member, raises⟩
        refine Or.inr ⟨fun result returns =>
          (getEtherinfoAddress_raises text walked member raises returns).2, fun none => ?_⟩
        rw [selected] at member
        exact absurd raises (none.clean (List.mem_filter.mp member).1)
  | none =>
      refine Or.inr ⟨fun result returns => ?_, fun none => ?_⟩
      · exact (getEtherinfoAddress_failed text walked returns).2
      · have absent : network.link session.self.device = Option.none := by
          cases found : network.link session.self.device with
          | none => rfl
          | some link =>
              have reached : (session.addressesFor kind (network.addressCalls faults)).isSome :=
                none.addressesFor faithful found
              rw [walked] at reached
              cases reached
        rcases none.missing faithful absent with ⟨stops, raised, _⟩
        exact ⟨absent, _, Kernel.getEtherinfoAddress_stopped stops, raised⟩

end Netlink
end PythonEthtool
