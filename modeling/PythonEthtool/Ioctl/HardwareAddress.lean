import PythonEthtool.Ioctl.Names
import PythonEthtool.Netlink.Outcomes

namespace PythonEthtool
namespace Ioctl

open Foundations
open Python
open Netlink (AddressText NlAddr LinkRecord LinkCalls Session Shared PyEtherInfo LibnlOutcome)

/-!
# Two ways to the hardware address

`get_hwaddr` asks by `ioctl` and always prints six bytes of the reply.  The
attribute `mac_address` takes the address out of a link dump and prints all of
it.  The two strings are the same for addresses of six bytes and for no
others: a shorter address is filled up with zeros on the first way, and a
longer one is cut off.
-/

/-- The bytes in hexadecimal, with colons between them. -/
def hexText : List UInt8 -> String
  | [] => ""
  | [byte] => hexByte byte
  | byte :: next :: bytes => hexByte byte ++ ":" ++ hexText (next :: bytes)

/-- The records of a link dump. -/
def Host.linkRecords (host : Host) (hwaddr : Interface -> NlAddr) : List LinkRecord :=
  host.interfaces.map (fun interface =>
    { toRtnlLink := interface.link, addr := some (hwaddr interface) })

/-- Every call of the link query succeeds and sees the same links. -/
def Host.linkCalls (host : Host) (hwaddr : Interface -> NlAddr) (opening : LibnlOutcome) :
    LinkCalls where
  opening := opening
  indexCache := .ok host.links
  linkCache := .ok (host.linkRecords hwaddr)
  linkAlloc := true

/-- A state of the kernel in which both ways can be gone: names and indexes
are distinct, addresses have 1 to 32 bytes, a control socket opens,
`SIOCGIFHWADDR` copies what fits of the address into the 14 cleared bytes of
`sa_data`, and `nl_addr2str` prints every byte. -/
structure ShowsAddresses (host : Host) (hwaddr : Interface -> NlAddr) (text : AddressText) :
    Prop where
  names : (host.interfaces.map Interface.name).Nodup
  indexes : (host.interfaces.map Interface.ifindex).Nodup
  lengths : forall interface, interface ∈ host.interfaces ->
    1 ≤ (hwaddr interface).binary.length ∧ (hwaddr interface).binary.length ≤ 32
  socket : 0 ≤ host.socket
  accepts : forall interface request, interface ∈ host.interfaces ->
    request.code = .siocgifhwaddr -> 0 ≤ (host.answer interface request).result
  copies : forall interface request, interface ∈ host.interfaces ->
    request.code = .siocgifhwaddr -> forall index, index < 14 ->
      saData (host.answer interface request).ifru index =
        (hwaddr interface).binary.getD index 0
  prints : forall interface, interface ∈ host.interfaces ->
    text.nlAddr2str (some (hwaddr interface)) Netlink.sizeofHwaddr =
      hexText (hwaddr interface).binary

/-- Both return the same string. -/
def PathsAgree (hwaddr : CallResult) (mac : Netlink.Returned String) : Prop :=
  ∃ shown, hwaddr.value = some (.value (.str shown)) ∧ mac.value = some shown

/-! ## The texts -/

theorem length_hexByte (byte : UInt8) : (hexByte byte).length = 2 := by
  rw [hexByte, String.length_ofList]
  rfl

theorem length_hexText {bytes : List UInt8} (nonempty : 1 ≤ bytes.length) :
    (hexText bytes).length + 1 = 3 * bytes.length := by
  induction bytes with
  | nil => cases nonempty
  | cons byte bytes ih =>
      cases bytes with
      | nil => rw [hexText, length_hexByte, List.length_singleton]
      | cons next bytes =>
          have rest := ih (Nat.succ_le_succ (Nat.zero_le _))
          rw [hexText, String.length_append, String.length_append, length_hexByte]
          simp only [List.length_cons] at rest ⊢
          have colon : ":".length = 1 := rfl
          omega

/-- The six bytes that `get_hwaddr` prints. -/
def sixBytes (ifru : Memory) : List UInt8 :=
  [saData ifru 0, saData ifru 1, saData ifru 2, saData ifru 3, saData ifru 4, saData ifru 5]

theorem formatHwaddr_eq (ifru : Memory) : formatHwaddr ifru = hexText (sixBytes ifru) := by
  simp only [formatHwaddr, sixBytes, hexText, String.append_assoc]

theorem hexText_sixBytes_iff {ifru : Memory} {bytes : List UInt8}
    (nonempty : 1 ≤ bytes.length)
    (copied : forall index, index < 14 -> saData ifru index = bytes.getD index 0) :
    hexText (sixBytes ifru) = hexText bytes ↔ bytes.length = 6 := by
  constructor
  · intro same
    have shown := length_hexText nonempty
    have six : (hexText (sixBytes ifru)).length + 1 = 3 * 6 :=
      length_hexText (Nat.succ_le_succ (Nat.zero_le _))
    rw [same] at six
    omega
  · intro six
    match bytes, six with
    | [_, _, _, _, _, _], _ => simp [sixBytes, copied]

/-! ## The two ways -/

/-- Where a key is distinct, looking it up finds its owner. -/
theorem find?_of_nodup {Entry Key : Type} [DecidableEq Key] (key : Entry -> Key)
    {entries : List Entry} (distinct : (entries.map key).Nodup) {entry : Entry}
    (member : entry ∈ entries) :
    entries.find? (fun other => key other = key entry) = some entry := by
  induction entries with
  | nil => cases member
  | cons first rest ih =>
      rw [List.map_cons, List.nodup_cons] at distinct
      rcases List.mem_cons.mp member with rfl | later
      · simp
      · have other : key first ≠ key entry := fun same =>
          distinct.1 (same ▸ List.mem_map_of_mem later)
        rw [List.find?_cons_of_neg (by simpa using other)]
        exact ih distinct.2 later

section Ways

variable {host : Host} {hwaddr : Interface -> NlAddr} {text : AddressText}
  (shows : ShowsAddresses host hwaddr text) {interface : Interface}
  (member : interface ∈ host.interfaces)

include shows member

theorem findByName_interface :
    findByName host.interfaces interface.name.bytes = some interface := by
  have distinct : (host.interfaces.map (fun other => other.name.bytes)).Nodup := by
    have bytes := shows.names.map (f := CString.bytes) (fun _ _ => CString.ext_bytes)
    rw [List.map_map] at bytes
    exact bytes
  exact find?_of_nodup (fun other : Interface => other.name.bytes) distinct member

theorem resolve_interface : host.resolve (ifrName interface.name) = some interface := by
  have short : interface.name.bytes.length ≤ 15 := Nat.lt_succ_iff.mp interface.short
  rw [resolve_ifrName, List.take_of_length_le short]
  exact findByName_interface shows member

theorem getHwaddress_value :
    ∃ ifru, (getHwaddress host interface.name).value =
        some (.value (.str (hexText (sixBytes ifru)))) ∧
      forall index, index < 14 -> saData ifru index = (hwaddr interface).binary.getD index 0 := by
  have answered : host.ioctl ⟨.siocgifhwaddr, ifrName interface.name, noData⟩ =
      host.answer interface ⟨.siocgifhwaddr, ifrName interface.name, noData⟩ := by
    rw [Host.ioctl, resolve_interface shows member]
  have accepted := shows.accepts interface ⟨.siocgifhwaddr, ifrName interface.name, noData⟩
    member rfl
  refine ⟨(host.answer interface ⟨.siocgifhwaddr, ifrName interface.name, noData⟩).ifru, ?_,
    shows.copies interface _ member rfl⟩
  rw [getHwaddress, ifreqCall, if_neg (Int.not_lt.mpr shows.socket)]
  simp only [answered, if_neg (Int.not_lt.mpr accepted), formatHwaddr_eq]
  rfl

theorem lookup_interface (memory : PyEtherInfo) :
    (Netlink.newEtherInfo memory interface.name).lookup (.ok host.links) =
      some interface.ifindex := by
  have unset : (Netlink.newEtherInfo memory interface.name).index < 0 := Int.negSucc_lt_zero 0
  have found : Netlink.rtnlLinkGetByName host.links interface.name = some interface.link := by
    rw [rtnlLinkGetByName_links, findByName_interface shows member]
    rfl
  have named : Netlink.rtnlLinkGetByName host.links
      (Netlink.newEtherInfo memory interface.name).device = some interface.link := found
  simp only [Netlink.PyEtherInfo.lookup, if_pos unset, named]
  exact Option.filter_eq_some_iff.mpr ⟨rfl, decide_eq_true interface.positive⟩

theorem getMacAddr_value {shared : Shared} {memory : PyEtherInfo} {opening : LibnlOutcome}
    (connects : (Session.start shared memory interface.name).connects
      (host.linkCalls hwaddr opening).toOpeningCalls = true) :
    (Netlink.getMacAddr text (.start shared memory interface.name)
        (host.linkCalls hwaddr opening)).value =
      some (hexText (hwaddr interface).binary) := by
  have indexed : (Session.start shared memory interface.name).indexFor
      (host.linkCalls hwaddr opening).toOpeningCalls = some interface.ifindex := by
    rw [Session.indexFor, if_pos connects]
    exact lookup_interface shows member memory
  have walked : (Session.start shared memory interface.name).linksFor
      (host.linkCalls hwaddr opening) =
        some ((host.linkRecords hwaddr).filter
          (fun link => link.ifindex = interface.ifindex)) := by
    rw [Session.linksFor, indexed]
    rfl
  have first : ((host.linkRecords hwaddr).filter
      (fun link => link.ifindex = interface.ifindex)).head? =
        some { toRtnlLink := interface.link, addr := some (hwaddr interface) } := by
    rw [List.head?_filter, Host.linkRecords, List.find?_map]
    exact congrArg _ (find?_of_nodup Interface.ifindex shows.indexes member)
  have stored := (Netlink.getEtherinfoLink_walked text walked).2.1
  rw [first] at stored
  refine stored.trans ?_
  rw [← shows.prints interface member]
  rfl

theorem length_of_pathsAgree {shared : Shared} {memory : PyEtherInfo} {opening : LibnlOutcome}
    (connects : (Session.start shared memory interface.name).connects
      (host.linkCalls hwaddr opening).toOpeningCalls = true)
    (agree : PathsAgree (getHwaddress host interface.name)
      (Netlink.getMacAddr text (.start shared memory interface.name)
        (host.linkCalls hwaddr opening))) :
    (hwaddr interface).binary.length = 6 := by
  rcases getHwaddress_value shows member with ⟨ifru, value, copied⟩
  rcases agree with ⟨shown, left, right⟩
  rw [value] at left
  rw [getMacAddr_value shows member connects] at right
  apply (hexText_sixBytes_iff (shows.lengths interface member).1 copied).mp
  injection left with object
  injection object with string
  injection string with same
  rw [same]
  exact (Option.some.inj right).symm

/-- The two ways give the same string precisely for addresses of six bytes. -/
theorem paths_agree_iff {shared : Shared} {memory : PyEtherInfo} {opening : LibnlOutcome}
    (connects : (Session.start shared memory interface.name).connects
      (host.linkCalls hwaddr opening).toOpeningCalls = true) :
    PathsAgree (getHwaddress host interface.name)
        (Netlink.getMacAddr text (.start shared memory interface.name)
          (host.linkCalls hwaddr opening)) ↔
      (hwaddr interface).binary.length = 6 := by
  constructor
  · exact length_of_pathsAgree shows member connects
  · intro six
    rcases getHwaddress_value shows member with ⟨ifru, value, copied⟩
    have same := (hexText_sixBytes_iff (shows.lengths interface member).1 copied).mpr six
    refine ⟨_, value, ?_⟩
    rw [same]
    exact getMacAddr_value shows member connects

end Ways

/-! ## Concrete addresses -/

/-- A machine with the interface `em1`, which answers with this address. -/
def showingHost (address : NlAddr) : Host :=
  { acceptingHost [em1] with
    answer := fun _ request =>
      { result := 0
        errno := 0
        ifru := fun offset => if offset < 2 then 0 else address.binary.getD (offset - 2) 0
        data := request.data } }

def hexAddressText : AddressText :=
  { Netlink.plainText with
    nlAddr2str := fun addr _ =>
      match addr with
      | none => "none"
      | some addr => hexText addr.binary }

theorem showingHost_shows (address : NlAddr)
    (lengths : 1 ≤ address.binary.length ∧ address.binary.length ≤ 32) :
    ShowsAddresses (showingHost address) (fun _ => address) hexAddressText where
  names := List.nodup_singleton _
  indexes := List.nodup_singleton _
  lengths := fun _ _ => lengths
  socket := Int.natCast_nonneg 3
  accepts := fun _ _ _ _ => Int.le_refl 0
  copies := by
    intro interface request _ _ index _
    have data : ¬ 2 + index < 2 := by omega
    simp only [saData, showingHost, if_neg data, Nat.add_sub_cancel_left]
  prints := fun _ _ => rfl

/-- An Ethernet address. -/
def ethernet : NlAddr where
  family := 0
  binary := [0x52, 0x54, 0x00, 0xff, 0x80, 0x01]
  prefixlen := 48

/-- An InfiniBand address of 20 bytes. -/
def infiniband : NlAddr where
  family := 0
  binary :=
    [0x80, 0x00, 0x00, 0x48, 0xfe, 0x80, 0x00, 0x00, 0x00, 0x00, 0x00, 0x00, 0xf4, 0x52, 0x14,
      0x03, 0x00, 0x7b, 0xcb, 0xa1]
  prefixlen := 160

theorem paths_agree_ethernet :
    PathsAgree (getHwaddress (showingHost ethernet) em1.name)
      (Netlink.getMacAddr hexAddressText (.start ⟨none, 0⟩ .cleared em1.name)
        ((showingHost ethernet).linkCalls (fun _ => ethernet) .success)) :=
  (paths_agree_iff (showingHost_shows ethernet (by decide)) (List.mem_singleton_self em1)
    rfl).mpr rfl

/-- Only the first six bytes of a longer address are printed on one of the
ways. -/
theorem paths_differ_infiniband :
    ¬ PathsAgree (getHwaddress (showingHost infiniband) em1.name)
      (Netlink.getMacAddr hexAddressText (.start ⟨none, 0⟩ .cleared em1.name)
        ((showingHost infiniband).linkCalls (fun _ => infiniband) .success)) := by
  intro agree
  have six := length_of_pathsAgree (showingHost_shows infiniband (by decide))
    (List.mem_singleton_self em1) rfl agree
  exact absurd six (by decide)

end Ioctl
end PythonEthtool
