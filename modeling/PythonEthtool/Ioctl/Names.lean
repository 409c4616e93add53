import PythonEthtool.Ioctl.Functions
import PythonEthtool.Netlink.DeviceIndex

namespace PythonEthtool
namespace Ioctl

open Foundations
open Python

/-!
# Which interface a call acts on

Every function of this family makes at most one request and names the device
in it with the first 15 bytes of its argument.  The kernel never has a
longer name, so for names that fit the request reaches the device that was
named or none.  A longer string reaches the interface that is called like
its first 15 bytes, where there is one.  The netlink path, which looks up the
whole string, finds none then.
-/

/-- The functions that take a device name and go through `ioctl`, with the
further argument that the setters take. -/
inductive DeviceFunction where
  | getHwaddr
  | getIpaddr
  | getFlags
  | getNetmask
  | getBroadcast
  | getBusinfo
  | getWirelessProtocol
  | getTso
  | getUfo
  | getGso
  | getGro
  | getSg
  | getCoalesce
  | getRingparam
  | setTso (value : PyValue)
  | setGso (value : PyValue)
  | setGro (value : PyValue)
  | setCoalesce (object : PyObject)
  | setRingparam (object : PyObject)

def DeviceFunction.call (host : Host) (devname : CString) : DeviceFunction -> CallResult
  | .getHwaddr => getHwaddress host devname
  | .getIpaddr => getIpaddress host devname
  | .getFlags => Ioctl.getFlags host devname
  | .getNetmask => Ioctl.getNetmask host devname
  | .getBroadcast => Ioctl.getBroadcast host devname
  | .getBusinfo => Ioctl.getBusinfo host devname
  | .getWirelessProtocol => Ioctl.getWirelessProtocol host devname
  | .getTso => Ioctl.getTso host devname
  | .getUfo => Ioctl.getUfo host devname
  | .getGso => Ioctl.getGso host devname
  | .getGro => Ioctl.getGro host devname
  | .getSg => Ioctl.getSg host devname
  | .getCoalesce => Ioctl.getCoalesce host devname
  | .getRingparam => Ioctl.getRingparam host devname
  | .setTso value => Ioctl.setTso host devname value
  | .setGso value => Ioctl.setGso host devname value
  | .setGro value => Ioctl.setGro host devname value
  | .setCoalesce object => Ioctl.setCoalesce host devname object
  | .setRingparam object => Ioctl.setRingparam host devname object

/-- The interfaces that the requests of a call read or change. -/
def CallResult.touched (result : CallResult) (host : Host) : List Interface :=
  result.requests.filterMap (fun request => host.resolve request.ifrName)

/-- The call acted on the interface of exactly this name, or it raised and
acted on none. -/
def CallResult.ActsOnNamed (result : CallResult) (host : Host) (devname : CString) : Prop :=
  (∃ interface, result.touched host = [interface] ∧ interface.name = devname) ∨
    (result.Raises ∧ result.touched host = [])

/-! ## The name in the request -/

/-- One byte less makes no difference in a cleared structure. -/
theorem iwrName_eq_ifrName (devname : CString) : iwrName devname = ifrName devname :=
  strncpy_set_last 15 devname

/-- The kernel reads back the first 15 bytes. -/
theorem resolve_ifrName (host : Host) (devname : CString) :
    host.resolve (ifrName devname) = findByName host.interfaces (devname.bytes.take 15) := by
  rw [Host.resolve, ifrName_eq, readString_strncpyTerminated]

theorem ifrName_eq_iff (devname other : CString) :
    ifrName devname = ifrName other ↔ devname.bytes.take 15 = other.bytes.take 15 := by
  rw [ifrName_eq, ifrName_eq]
  exact strncpyTerminated_eq_iff 15 devname other

theorem findByName_name {interfaces : List Interface} {name : List UInt8} {interface : Interface}
    (found : findByName interfaces name = some interface) : interface.name.bytes = name := by
  have matching := List.find?_some found
  exact of_decide_eq_true matching

/-! ## One request for each call -/

/-- The call made no request and raised, or it made one with this name in
it, and raised if the kernel has no such interface. -/
def CallResult.RequestsName (result : CallResult) (host : Host) (devname : CString) : Prop :=
  (result.requests = [] ∧ result.Raises) ∨
    ((∃ request, result.requests = [request] ∧ request.ifrName = ifrName devname) ∧
      (host.resolve (ifrName devname) = none -> result.Raises))

section Requests

variable (host : Host) (devname : CString)

theorem ioctl_unknown (request : IoctlRequest)
    (unknown : host.resolve request.ifrName = none) : (host.ioctl request).result = -1 := by
  rw [Host.ioctl, unknown]

theorem ifreqCall_requestsName (code : IoctlCode) (data : Memory)
    (onReply : IoctlReply -> CallResult) :
    (ifreqCall host code devname data onReply).RequestsName host devname := by
  unfold ifreqCall
  by_cases closed : host.socket < 0
  · rw [if_pos closed]
    exact Or.inl ⟨rfl, Or.inl rfl⟩
  · rw [if_neg closed]
    apply Or.inr
    by_cases failed : (host.ioctl ⟨code, ifrName devname, data⟩).result < 0
    · simp only [if_pos failed]
      exact ⟨⟨_, rfl, rfl⟩, fun _ => Or.inl rfl⟩
    · simp only [if_neg failed]
      refine ⟨⟨_, rfl, rfl⟩, ?_⟩
      intro unknown
      rw [ioctl_unknown host _ unknown] at failed
      exact absurd (by decide) failed

/-- `send_command` makes the request and reports a failure, or reports that
it could not. -/
theorem sendCommand_requests (cmd : UInt32) (value : Memory) (pending : Option PyError) :
    ((sendCommand host cmd devname value pending).requests = [] ∧
        (sendCommand host cmd devname value pending).err = -1 ∧
        (sendCommand host cmd devname value pending).pending.isSome) ∨
      ((∃ request, (sendCommand host cmd devname value pending).requests = [request] ∧
          request.ifrName = ifrName devname) ∧
        (host.resolve (ifrName devname) = none ->
          (sendCommand host cmd devname value pending).err = -1 ∧
            (sendCommand host cmd devname value pending).pending.isSome)) := by
  unfold sendCommand
  by_cases closed : host.socket < 0
  · rw [if_pos closed]
    exact Or.inl ⟨rfl, rfl, rfl⟩
  · rw [if_neg closed]
    refine Or.inr ⟨⟨_, rfl, rfl⟩, ?_⟩
    intro unknown
    have failed := ioctl_unknown host
      ⟨.siocethtool, ifrName devname, writeCmd value cmd⟩ unknown
    simp only [failed]
    exact ⟨trivial, rfl⟩

/-- A call that passes on the requests and the exception of `send_command`. -/
theorem requestsName_of_sendCommand {result : CallResult} {cmd : UInt32} {value : Memory}
    {pending : Option PyError}
    (requests : result.requests = (sendCommand host cmd devname value pending).requests)
    (reported : result.pending = (sendCommand host cmd devname value pending).pending) :
    result.RequestsName host devname := by
  rw [CallResult.RequestsName, CallResult.Raises, requests, reported]
  rcases sendCommand_requests host devname cmd value pending with
    ⟨none, _, raised⟩ | ⟨one, unknown⟩
  · exact Or.inl ⟨none, Or.inr raised⟩
  · exact Or.inr ⟨one, fun absent => Or.inr (unknown absent).2⟩

theorem getDevIntValue_requestsName (cmd : UInt32) :
    (getDevIntValue host cmd devname).RequestsName host devname := by
  unfold getDevIntValue
  by_cases failed : (getDevValue host cmd devname).err < 0
  · simp only [if_pos failed]
    exact requestsName_of_sendCommand host devname rfl rfl
  · simp only [if_neg failed]
    exact requestsName_of_sendCommand host devname rfl rfl

theorem getSettings_requestsName (settings : Settings) (cmd : UInt32) :
    (getSettings settings host cmd devname).RequestsName host devname := by
  unfold getSettings
  by_cases failed : (getDevValue host cmd devname).err < 0
  · simp only [if_pos failed]
    exact requestsName_of_sendCommand host devname rfl rfl
  · simp only [if_neg failed]
    exact requestsName_of_sendCommand host devname rfl rfl

theorem devSetIntValue_requestsName (cmd : UInt32) (value : PyValue) :
    (devSetIntValue host cmd devname value).RequestsName host devname := by
  unfold devSetIntValue
  cases parseInt host.width value with
  | error error => exact Or.inl ⟨rfl, Or.inl rfl⟩
  | ok data => exact requestsName_of_sendCommand host devname rfl rfl

theorem setSettings_requestsName (settings : Settings) (cmd : UInt32) (object : PyObject) :
    (setSettings settings host cmd devname object).RequestsName host devname := by
  unfold setSettings
  by_cases complete :
      (structDescFromDict host.width object settings.desc host.stack none).returned = 0
  · simp only [if_pos complete]
    exact requestsName_of_sendCommand host devname rfl rfl
  · simp only [if_neg complete]
    exact Or.inl ⟨rfl, Or.inl rfl⟩

theorem getWirelessProtocol_requestsName :
    (getWirelessProtocol host devname).RequestsName host devname := by
  have body : getWirelessProtocol host devname =
      ifreqCall host .siocgiwname devname noData
        (fun reply => pyStrFromString (stringAt reply.ifru 0 16)) := by
    unfold getWirelessProtocol ifreqCall
    rw [iwrName_eq_ifrName]
  rw [body]
  exact ifreqCall_requestsName host devname _ _ _

theorem call_requestsName (function : DeviceFunction) :
    (function.call host devname).RequestsName host devname := by
  cases function with
  | getHwaddr => exact ifreqCall_requestsName host devname .siocgifhwaddr noData _
  | getIpaddr => exact ifreqCall_requestsName host devname .siocgifaddr noData _
  | getFlags => exact ifreqCall_requestsName host devname .siocgifflags noData _
  | getNetmask => exact ifreqCall_requestsName host devname .siocgifnetmask noData _
  | getBroadcast => exact ifreqCall_requestsName host devname .siocgifbrdaddr noData _
  | getBusinfo =>
      rw [DeviceFunction.call, Ioctl.getBusinfo]
      exact ifreqCall_requestsName host devname .siocethtool (drvinfoBuffer host.stack) _
  | getWirelessProtocol => exact getWirelessProtocol_requestsName host devname
  | getTso => exact getDevIntValue_requestsName host devname ETHTOOL_GTSO
  | getUfo => exact getDevIntValue_requestsName host devname ETHTOOL_GUFO
  | getGso => exact getDevIntValue_requestsName host devname ETHTOOL_GGSO
  | getGro => exact getDevIntValue_requestsName host devname ETHTOOL_GGRO
  | getSg => exact getDevIntValue_requestsName host devname ETHTOOL_GSG
  | getCoalesce => exact getSettings_requestsName host devname .coalesce ETHTOOL_GCOALESCE
  | getRingparam => exact getSettings_requestsName host devname .ringparam ETHTOOL_GRINGPARAM
  | setTso value => exact devSetIntValue_requestsName host devname ETHTOOL_STSO value
  | setGso value => exact devSetIntValue_requestsName host devname ETHTOOL_SGSO value
  | setGro value => exact devSetIntValue_requestsName host devname ETHTOOL_SGRO value
  | setCoalesce object =>
      exact setSettings_requestsName host devname .coalesce ETHTOOL_SCOALESCE object
  | setRingparam object =>
      exact setSettings_requestsName host devname .ringparam ETHTOOL_SRINGPARAM object

end Requests

/-- Every call touches the interface that the kernel resolves the name to,
and nothing else. -/
theorem call_touched (host : Host) (devname : CString) (function : DeviceFunction) :
    ((function.call host devname).touched host = [] ∧ (function.call host devname).Raises) ∨
      ∃ interface, host.resolve (ifrName devname) = some interface ∧
        (function.call host devname).touched host = [interface] := by
  rcases call_requestsName host devname function with
    ⟨none, raises⟩ | ⟨⟨request, one, name⟩, unknown⟩
  · rw [CallResult.touched, none]
    exact Or.inl ⟨rfl, raises⟩
  · rw [CallResult.touched, one]
    cases resolved : host.resolve (ifrName devname) with
    | none =>
        refine Or.inl ⟨?_, unknown resolved⟩
        rw [List.filterMap_cons_none (by rw [name, resolved]), List.filterMap_nil]
    | some interface =>
        refine Or.inr ⟨interface, rfl, ?_⟩
        rw [List.filterMap_cons_some (by rw [name, resolved]), List.filterMap_nil]

/-! ## Two paths to an interface -/

def Interface.link (interface : Interface) : Netlink.RtnlLink where
  name := interface.name
  ifindex := interface.ifindex

/-- The cache that `rtnl_link_alloc_cache` fills. -/
def Host.links (host : Host) : List Netlink.RtnlLink :=
  host.interfaces.map Interface.link

/-- The request and the netlink lookup arrive at the same interface or both
fail, and a fresh etherinfo object settles on its index. -/
def AgreesWithNetlink (host : Host) (devname : CString) : Prop :=
  Netlink.rtnlLinkGetByName host.links devname =
      (host.resolve (ifrName devname)).map Interface.link ∧
    forall memory,
      (Netlink.setDeviceIndex (Netlink.newEtherInfo memory devname) (.ok host.links)).resolved =
        (host.resolve (ifrName devname)).map Interface.ifindex

theorem rtnlLinkGetByName_links (host : Host) (devname : CString) :
    Netlink.rtnlLinkGetByName host.links devname =
      (findByName host.interfaces devname.bytes).map Interface.link := by
  have same : ((fun link : Netlink.RtnlLink => decide (link.name = devname)) ∘ Interface.link) =
      fun interface => decide (interface.name.bytes = devname.bytes) := by
    funext interface
    apply decide_eq_decide.mpr
    exact ⟨congrArg CString.bytes, CString.ext_bytes⟩
  rw [Netlink.rtnlLinkGetByName, Host.links, List.find?_map, same, findByName]

theorem setDeviceIndex_links (host : Host) (memory : Netlink.PyEtherInfo) (devname : CString) :
    (Netlink.setDeviceIndex (Netlink.newEtherInfo memory devname) (.ok host.links)).resolved =
      (findByName host.interfaces devname.bytes).map Interface.ifindex := by
  have positive : forall link, link ∈ host.links -> 0 < link.ifindex := by
    intro link member
    rcases List.mem_map.mp member with ⟨interface, _, rfl⟩
    exact interface.positive
  have unset : (Netlink.newEtherInfo memory devname).index < 0 := by
    change (-1 : Int) < 0
    decide
  rw [Netlink.setDeviceIndex_resolved unset positive]
  change (Netlink.rtnlLinkGetByName host.links devname).map Netlink.RtnlLink.ifindex = _
  rw [rtnlLinkGetByName_links, Option.map_map]
  rfl

theorem agreesWithNetlink_iff (host : Host) (devname : CString) :
    AgreesWithNetlink host devname ↔
      findByName host.interfaces (devname.bytes.take 15) =
        findByName host.interfaces devname.bytes := by
  have linkInjective : Function.Injective Interface.link := by
    intro left right same
    cases left
    cases right
    cases same
    rfl
  simp only [AgreesWithNetlink, rtnlLinkGetByName_links, setDeviceIndex_links, resolve_ifrName]
  constructor
  · rintro ⟨links, _⟩
    exact (Option.map_injective linkInjective links).symm
  · intro same
    rw [same]
    exact ⟨rfl, fun _ => rfl⟩

/-! ## Names that fit, and names that do not -/

/-- No interface is called like the first 15 bytes of a longer string. -/
def NoPrefixAlias (interfaces : List Interface) (devname : CString) : Prop :=
  devname.length < IFNAMSIZ ∨
    forall interface, interface ∈ interfaces -> interface.name.bytes ≠ devname.bytes.take 15

theorem findByName_eq_none_iff (interfaces : List Interface) (name : List UInt8) :
    findByName interfaces name = none ↔
      forall interface, interface ∈ interfaces -> interface.name.bytes ≠ name := by
  simp only [findByName, List.find?_eq_none, decide_eq_true_eq, ne_eq]

theorem findByName_take_iff (interfaces : List Interface) (devname : CString) :
    findByName interfaces (devname.bytes.take 15) = findByName interfaces devname.bytes ↔
      NoPrefixAlias interfaces devname := by
  by_cases fits : devname.length < IFNAMSIZ
  · have whole : devname.bytes.take 15 = devname.bytes :=
      List.take_of_length_le (Nat.lt_succ_iff.mp fits)
    rw [whole]
    exact iff_of_true rfl (Or.inl fits)
  · have absent : findByName interfaces devname.bytes = none := by
      apply (findByName_eq_none_iff interfaces devname.bytes).mpr
      intro interface _ same
      apply fits
      rw [CString.length, ← same]
      exact interface.short
    rw [absent, findByName_eq_none_iff, NoPrefixAlias, or_iff_right fits]

/-- For every function and every machine with these interfaces, only the
named one is touched. -/
def ActsOnNamedOnly (interfaces : List Interface) (devname : CString) : Prop :=
  forall host : Host, host.interfaces = interfaces ->
    (forall function : DeviceFunction,
      (function.call host devname).ActsOnNamed host devname) ∧
    AgreesWithNetlink host devname

theorem actsOnNamed_of_noPrefixAlias {host : Host} {devname : CString}
    (distinct : NoPrefixAlias host.interfaces devname) (function : DeviceFunction) :
    (function.call host devname).ActsOnNamed host devname := by
  rcases call_touched host devname function with ⟨none, raises⟩ | ⟨interface, resolved, one⟩
  · exact Or.inr ⟨raises, none⟩
  · refine Or.inl ⟨interface, one, ?_⟩
    rw [resolve_ifrName, (findByName_take_iff host.interfaces devname).mpr distinct] at resolved
    exact CString.ext_bytes (findByName_name resolved)

/-- A name of 15 bytes, `enp0s20f0u1u2i5`. -/
def enp : Interface where
  name := ⟨[101, 110, 112, 48, 115, 50, 48, 102, 48, 117, 49, 117, 50, 105, 53], by simp⟩
  ifindex := 3
  nonempty := by decide
  short := by decide
  positive := by decide

/-- The same with one more digit, which no interface can be called. -/
def enp57 : CString :=
  ⟨enp.name.bytes ++ [55], by simp [enp]⟩

end Ioctl
end PythonEthtool
