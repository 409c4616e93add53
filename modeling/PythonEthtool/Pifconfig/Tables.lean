import PythonEthtool.Ioctl.Calls
import PythonEthtool.Ioctl.HardwareAddress
import PythonEthtool.Netlink.Network
import PythonEthtool.Pifconfig.Sections

namespace PythonEthtool
namespace Pifconfig

open Foundations
open Ioctl
open Netlink (AddressText LinkRecord Network NlAddr RtnlAddr)
open Python

/-!
# What the kernel tells by `ioctl`

The tables of the kernel are the truth: interfaces with names, flag words,
hardware addresses of any length and IP addresses.  Netlink dumps them as they
are and finds an interface by its whole name.  A request by `ioctl` looks a
device up by 15 bytes of its name, its answer holds 16 of the flags, and the
module prints six bytes of the hardware address.  For names of the kernel's
own length, and addresses of six bytes, that is all the same.
-/

/-! ## The kernel -/

/-- What the kernel knows: its interfaces, with their flags and hardware
addresses, and the IP addresses of all of them. -/
structure Tables where
  interfaces : List Interface
  distinct : (interfaces.map Interface.ifindex).Nodup
  flags : Interface -> UInt32
  hwaddr : Interface -> NlAddr
  addresses : List RtnlAddr

namespace Tables

/-- The interface of exactly this name. -/
def interface (tables : Tables) (device : String) : Option Interface :=
  findByName tables.interfaces (utf8Bytes device)

def record (tables : Tables) (interface : Interface) : LinkRecord where
  toRtnlLink := interface.link
  addr := some (tables.hwaddr interface)

/-- The tables as netlink dumps them. -/
def network (tables : Tables) : Network where
  links := tables.interfaces.map tables.record
  addresses := tables.addresses
  positive := by
    intro link member
    rcases List.mem_map.mp member with ⟨interface, _, rfl⟩
    exact interface.positive
  distinct := by
    rw [List.map_map]
    exact tables.distinct

/-- What there is to be shown of an interface. -/
def data (tables : Tables) (text : AddressText) (interface : Interface) : DeviceData where
  flags := (tables.flags interface).toNat
  hwaddr := hexText (tables.hwaddr interface).binary
  ipv4 := tables.network.listed text .addr4 (tables.record interface)
  ipv6 := tables.network.listed text .addr6 (tables.record interface)

/-- A machine with these tables.  A request that succeeds is answered with
the low half of the flag word, or with what fits of the hardware address into
the 14 cleared bytes of `sa_data`. -/
structure ToldBy (tables : Tables) (host : Host) : Prop where
  interfaces : host.interfaces = tables.interfaces
  flags : forall interface request, interface ∈ tables.interfaces ->
    request.code = .siocgifflags -> 0 ≤ (host.answer interface request).result ->
      flagWord (host.answer interface request).ifru = (tables.flags interface).toNat % 2 ^ 16
  copies : forall interface request, interface ∈ tables.interfaces ->
    request.code = .siocgifhwaddr -> 0 ≤ (host.answer interface request).result ->
      forall index, index < 14 -> saData (host.answer interface request).ifru index =
        (tables.hwaddr interface).binary.getD index 0

end Tables

/-- A name that could be one of the kernel, for an interface whose hardware
address has the usual six bytes, or is not shown. -/
structure Tables.Usual (tables : Tables) (device : String) : Prop where
  named : (cstringOf device).isSome
  short : (utf8Bytes device).length ≤ 15
  six : forall interface, tables.interface device = some interface ->
    Int.land (tables.flags interface).toNat IFF_LOOPBACK = 0 ->
      (tables.hwaddr interface).binary.length = 6

/-- The name of a device as `get_interfaces_info` keeps it. -/
def deviceName (device : String) : CString :=
  .ofBuffer (utf8Bytes device ++ [0])

/-! ## Names -/

section Naming

variable {tables : Tables} {device : String} {interface : Interface}

theorem Tables.interface_mem (found : tables.interface device = some interface) :
    interface ∈ tables.interfaces :=
  List.mem_of_find?_eq_some found

/-- The whole name is kept where there is such an interface. -/
theorem Tables.interface_name (found : tables.interface device = some interface) :
    deviceName device = interface.name := by
  have bytes : interface.name.bytes = utf8Bytes device := findByName_name found
  apply CString.ext_bytes
  rw [bytes]
  change readString (utf8Bytes device ++ [0]) = utf8Bytes device
  rw [← bytes]
  exact readString_terminated interface.name.noNul []

theorem Tables.network_link (found : tables.interface device = some interface) :
    tables.network.link (deviceName device) = some (tables.record interface) := by
  have same : (fun other : Interface => decide ((tables.record other).name = deviceName device)) =
      fun other => decide (other.name.bytes = utf8Bytes device) := by
    funext other
    rw [Tables.interface_name found, ← findByName_name found]
    exact decide_eq_decide.mpr
      ⟨congrArg CString.bytes, fun bytes => CString.ext_bytes bytes⟩
  rw [Network.link, Tables.network, List.find?_map]
  change (tables.interfaces.find? (fun other =>
    decide ((tables.record other).name = deviceName device))).map tables.record = _
  rw [same]
  exact congrArg (Option.map tables.record) found

/-- Fifteen bytes are enough for a short name. -/
theorem Tables.resolve_short {host : Host} (told : tables.ToldBy host)
    {devname : CString} (named : cstringOf device = some devname)
    (short : (utf8Bytes device).length ≤ 15) :
    host.resolve (ifrName devname) = tables.interface device := by
  have bytes := bytes_of_cstringOf named
  rw [resolve_ifrName, bytes, List.take_of_length_le short, told.interfaces]
  rfl

end Naming

/-! ## The requests -/

/-- A function that takes the name of a device. -/
def invoke (host : Host) (device : String) (body : Host -> CString -> CallResult) :
    Except PyError PyObject :=
  match cstringOf device with
  | none => .error ⟨.valueError, .text "embedded null character"⟩
  | some devname => returned (body host devname)

/-- What the kernel answers about a device. -/
def reply (host : Host) (code : IoctlCode) (device : String) : IoctlReply :=
  host.ioctl { code := code, ifrName := ifrName (deviceName device), data := noData }

/-- The union after a request, if it is made and succeeds. -/
def requested (host : Host) (code : IoctlCode) (device : String) : Except PyError Memory :=
  if (cstringOf device).isNone then .error ⟨.valueError, .text "embedded null character"⟩
  else if host.socket < 0 then .error (setFromErrno host.socketErrno)
  else if (reply host code device).result < 0 then
    .error (setFromErrno (reply host code device).errno)
  else .ok (reply host code device).ifru

theorem returned_ifreqCall (host : Host) (code : IoctlCode) (devname : CString) (data : Memory)
    (onReply : IoctlReply -> CallResult) :
    returned (ifreqCall host code devname data onReply) =
      (let reply := host.ioctl { code := code, ifrName := ifrName devname, data := data }
      if host.socket < 0 then .error (setFromErrno host.socketErrno)
      else if reply.result < 0 then .error (setFromErrno reply.errno)
      else returned (onReply reply)) := by
  unfold ifreqCall
  split
  · rfl
  · dsimp only
    split
    · rfl
    · rfl

section Requests

variable {tables : Tables} {host : Host} {code : IoctlCode} {device : String}

theorem invoke_ifreqCall {Value : Type} {body : Host -> CString -> CallResult}
    {read : PyObject -> Except PyError Value} {format : Memory -> Value}
    {onReply : IoctlReply -> CallResult}
    (calls : forall devname, body host devname = ifreqCall host code devname noData onReply)
    (reads : forall reply, returned (onReply reply) >>= read = .ok (format reply.ifru)) :
    (invoke host device body >>= read) = (requested host code device).map format := by
  unfold invoke requested
  cases named : cstringOf device with
  | none => rfl
  | some devname =>
      have same : deviceName device = devname := ofBuffer_of_cstringOf named
      simp only [calls, returned_ifreqCall, reply, same, Option.isNone_some, Bool.false_eq_true,
        if_false]
      split
      · rfl
      · split
        · rfl
        · exact reads _

theorem invoke_getFlags :
    (invoke host device getFlags >>= readInt) =
      (requested host .siocgifflags device).map ifrFlags :=
  invoke_ifreqCall (fun _ => rfl) (fun _ => rfl)

theorem invoke_getHwaddress :
    (invoke host device getHwaddress >>= readStr) =
      (requested host .siocgifhwaddr device).map formatHwaddr :=
  invoke_ifreqCall (fun _ => rfl) (fun _ => rfl)

/-- A request for a short name reaches the interface of this name. -/
theorem reply_short (told : tables.ToldBy host) (named : (cstringOf device).isSome)
    (short : (utf8Bytes device).length ≤ 15) :
    ∃ request : IoctlRequest, request.code = code ∧
      match tables.interface device with
      | some interface => reply host code device = host.answer interface request
      | none => reply host code device =
          { result := -1, errno := ENODEV, ifru := fun _ => 0, data := noData } := by
  rcases Option.isSome_iff_exists.mp named with ⟨devname, converted⟩
  have same : deviceName device = devname := ofBuffer_of_cstringOf converted
  refine ⟨{ code := code, ifrName := ifrName devname, data := noData }, rfl, ?_⟩
  have resolved := Tables.resolve_short told converted short
  rw [reply, same, Host.ioctl, resolved]
  cases tables.interface device with
  | some interface => rfl
  | none => rfl

/-- What a successful request brings is from the interface of this name. -/
theorem requested_eq_ok (told : tables.ToldBy host) (usual : tables.Usual device)
    {ifru : Memory} (made : requested host code device = .ok ifru) :
    ∃ interface request, tables.interface device = some interface ∧ request.code = code ∧
      0 ≤ (host.answer interface request).result ∧
      ifru = (host.answer interface request).ifru := by
  rcases @reply_short tables host code device told usual.named usual.short with
    ⟨request, asked, answered⟩
  unfold requested at made
  split at made
  · cases made
  · split at made
    · cases made
    · split at made
      · cases made
      · rename_i accepted
        cases made
        cases found : tables.interface device with
        | some interface =>
            simp only [found] at answered
            rw [answered] at accepted ⊢
            exact ⟨interface, request, rfl, asked, Int.not_lt.mp accepted, rfl⟩
        | none =>
            simp only [found] at answered
            rw [answered] at accepted
            exact absurd (by decide) accepted

theorem requested_of_succeeds (told : tables.ToldBy host) (usual : tables.Usual device)
    (opens : 0 ≤ host.socket) {interface : Interface}
    (found : tables.interface device = some interface)
    (accepts : forall request, request.code = code -> 0 ≤ (host.answer interface request).result) :
    ∃ ifru, requested host code device = .ok ifru := by
  rcases @reply_short tables host code device told usual.named usual.short with
    ⟨request, asked, answered⟩
  simp only [found] at answered
  refine ⟨(reply host code device).ifru, ?_⟩
  rw [requested, if_neg (by simp [Option.isSome_iff_ne_none.mp usual.named]),
    if_neg (Int.not_lt.mpr opens),
    if_neg (by rw [answered]; exact Int.not_lt.mpr (accepts request asked))]

/-- A device that does not exist. -/
theorem requested_of_unknown (told : tables.ToldBy host) (usual : tables.Usual device)
    (opens : 0 ≤ host.socket) (unknown : tables.interface device = none) :
    requested host code device = .error (setFromErrno ENODEV) := by
  rcases @reply_short tables host code device told usual.named usual.short with
    ⟨_, _, refused⟩
  simp only [unknown] at refused
  rw [requested, if_neg (by simp [Option.isSome_iff_ne_none.mp usual.named]),
    if_neg (Int.not_lt.mpr opens), refused]
  rfl

end Requests

section Answers

variable {tables : Tables} {host : Host} {device : String} {interface : Interface}

/-- The flags that are returned are those of the interface, as far as a
`short` holds them. -/
theorem flags_told (told : tables.ToldBy host) (usual : tables.Usual device) {ifru : Memory}
    (made : requested host .siocgifflags device = .ok ifru) :
    ∃ interface, tables.interface device = some interface ∧
      ifrFlags ifru ≡ (tables.flags interface).toNat [ZMOD 2 ^ 16] := by
  rcases requested_eq_ok told usual made with ⟨interface, request, found, asked, accepted, rfl⟩
  refine ⟨interface, found, ?_⟩
  have word := told.flags interface request (Tables.interface_mem found) asked accepted
  rw [ifrFlags_eq, word]
  have low : (((tables.flags interface).toNat % 2 ^ 16 : Nat) : Int) ≡
      (tables.flags interface).toNat [ZMOD (2 ^ 16 : Nat)] := by
    rw [Int.natCast_mod]
    exact Int.mod_modEq _ _
  have signed : Int.bmod ((tables.flags interface).toNat % 2 ^ 16 : Nat) (2 ^ 16) ≡
      ((tables.flags interface).toNat % 2 ^ 16 : Nat) [ZMOD (2 ^ 16 : Nat)] :=
    Int.bmod_emod
  exact signed.trans low

/-- The address that is returned is the whole address of the interface. -/
theorem hwaddr_told (told : tables.ToldBy host) (usual : tables.Usual device)
    (found : tables.interface device = some interface)
    (plain : Int.land (tables.flags interface).toNat IFF_LOOPBACK = 0) {ifru : Memory}
    (made : requested host .siocgifhwaddr device = .ok ifru) :
    formatHwaddr ifru = hexText (tables.hwaddr interface).binary := by
  rcases requested_eq_ok told usual made with ⟨reached, request, same, asked, accepted, rfl⟩
  rw [found] at same
  cases same
  have six := usual.six interface found plain
  have copied := told.copies interface request (Tables.interface_mem found) asked accepted
  rw [formatHwaddr_eq]
  exact (hexText_sixBytes_iff (by omega) copied).mpr six

end Answers

/-! ## A machine -/

/-- The machine with these tables that accepts every request. -/
def Tables.machine (tables : Tables) : Host :=
  { acceptingHost tables.interfaces with
    answer := fun interface request =>
      { result := 0
        errno := 0
        ifru := fun offset =>
          match request.code with
          | .siocgifflags =>
              UInt8.ofNat ((tables.flags interface).toNat / 256 ^ offset)
          | _ => if offset < 2 then 0 else (tables.hwaddr interface).binary.getD (offset - 2) 0
        data := request.data } }

theorem Tables.machine_tells (tables : Tables) : tables.ToldBy tables.machine where
  interfaces := rfl
  flags := by
    rintro interface ⟨code, ifrName, data⟩ _ rfl _
    simp only [flagWord, Tables.machine, UInt8.toNat_ofNat', pow_zero, Nat.div_one, pow_one]
    omega
  copies := by
    rintro interface ⟨code, ifrName, data⟩ _ rfl _ index _
    have address : ¬ 2 + index < 2 := by omega
    simp only [saData, Tables.machine, if_neg address, Nat.add_sub_cancel_left]

end Pifconfig
end PythonEthtool
