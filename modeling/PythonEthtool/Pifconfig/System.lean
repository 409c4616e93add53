import PythonEthtool.Devices.Active
import PythonEthtool.Netlink.InterfacesInfo
import PythonEthtool.Netlink.Objects
import PythonEthtool.Pifconfig.Tables

namespace PythonEthtool
namespace Pifconfig

open Devices (IfAddr Listing)
open Foundations
open Foundations.Program
open Ioctl
open Netlink (AddressText Asked Attribute Faults Network NlQuery Process PyEtherInfo
  PyNetlinkIPaddress Returned Stopped)
open Python

/-!
# `pifconfig` over the extension module

Here the extension takes the place of the module that the script is written
against.  The flags and the hardware address come from `ioctl`; the IP
addresses come from netlink, through a connection that is shared and objects
that remember what they have looked up; the active devices come from
`getifaddrs`.

The tables of the kernel stay as they are during a run.  Any request and any
call of libnl may fail in any call of the script, and so may the allocation
of an object.
-/

/-! ## The surroundings -/

/-- What the module runs on.  The machine and the failures are given by the
number of the call of the script in which they are met. -/
structure Surroundings where
  tables : Tables
  host : Nat -> Host
  tells : forall number, tables.ToldBy (host number)
  ifaddr : Except Int (List IfAddr)
  text : AddressText
  pyObjectNew : Nat -> Except Int PyEtherInfo
  faults : Nat -> Asked -> Faults

/-- The process, the objects that the script holds, the number for the next
one, and how many calls there were. -/
structure System where
  process : Process
  held : List Nat
  fresh : Nat
  calls : Nat

namespace System

def initial (memory : Nat -> PyEtherInfo) (network : Network) : System where
  process := .initial memory network
  held := []
  fresh := 0
  calls := 0

def drop (text : AddressText) (system : System) (info : Nat) : System :=
  { system with
    process := (system.process.step text (.dealloc info)).getD system.process }

/-- The function `show_config` leaves no object behind when it returns. -/
def release (text : AddressText) (system : System) : System :=
  { system.held.foldl (drop text) system with held := [] }

def adopt (system : System) (ethi : PyEtherInfo) : System :=
  { system with
    process :=
      { system.process with
        live := insert system.fresh system.process.live
        object := Function.update system.process.object system.fresh ethi }
    held := system.held ++ [system.fresh]
    fresh := system.fresh + 1 }

/-- The system after an object has been read. -/
def read (surroundings : Surroundings) (system : System) (info : Nat) (attr : Attribute) :
    System :=
  { system with
    process :=
      (system.process.step surroundings.text
        (.read info attr (surroundings.faults system.calls))).getD system.process }

def called (system : System) : System :=
  { system with calls := system.calls + 1 }

end System

/-! ## The calls -/

/-- An exception of the module. -/
def orRaised {Value : Type} (result : Except PyError Value) : Except (Failure PyError) Value :=
  result.mapError Failure.raised

def ofListing : Listing -> Except (Failure PyError) (List String)
  | .names names => .ok names
  | .raised error => .error (.raised error)
  | .undefined => .error .crashed

/-- What the interpreter makes of a method: a fault is the end, and a list
with an exception, or neither of them, is an exception of its own. -/
def ofReturned {Value : Type} :
    Except Stopped (Returned Value) -> Except (Failure PyError) Value
  | .error _ => .error .crashed
  | .ok result =>
      match result.value, result.session.pending with
      | some value, none => .ok value
      | none, some error => .error (.raised error)
      | _, _ => .error (.raised ⟨.systemError, .own⟩)

/-- The argument of `get_interfaces_info`. -/
def pyText (device : String) : Netlink.PyArgument :=
  .str (device.toList.map .scalar)

def makeInfos (surroundings : Surroundings) (system : System) (device : String) :
    Except (Failure PyError) (List Nat) × System :=
  let made := Netlink.getInterfacesInfo (fun _ => surroundings.pyObjectNew system.calls)
    [pyText device]
  match made with
  | .objects objects =>
      (.ok (List.range' system.fresh objects.length), objects.foldl System.adopt system)
  | .raised error => (.error (.raised error), system)
  | .undefined => (.error .crashed, system)

def readAddresses (surroundings : Surroundings) (system : System) (info : Nat) (kind : NlQuery) :
    Except (Failure PyError) (List PyNetlinkIPaddress) :=
  let calls := system.process.network.addressCalls
    (surroundings.faults system.calls (.address kind))
  match kind with
  | .addr4 =>
      ofReturned (Netlink.getIpv4Addresses surroundings.text (system.process.session info) calls)
  | .addr6 =>
      ofReturned (Netlink.getIpv6Addresses surroundings.text (system.process.session info) calls)

/-- The module that the script calls. -/
def extension (surroundings : Surroundings) : Ethtool System where
  answer call system :=
    let host := surroundings.host system.calls
    match call with
    | .getActiveDevices =>
        (ofListing (Devices.getActiveDevices surroundings.ifaddr), system.called)
    | .getFlags device => (orRaised (invoke host device getFlags >>= readInt), system.called)
    | .getHwaddr device => (orRaised (invoke host device getHwaddress >>= readStr), system.called)
    | .getInterfacesInfo device =>
        let made := makeInfos surroundings (system.release surroundings.text) device
        (made.1, made.2.called)
    | .getIpv4Addresses info =>
        (readAddresses surroundings system info .addr4,
          (system.read surroundings info (.ipv4 .addresses)).called)
    | .getIpv6Addresses info =>
        (readAddresses surroundings system info .addr6,
          (system.read surroundings info .ipv6Addresses).called)

/-! ## The truth -/

/-- What there is to be shown of a device, if the kernel has an interface of
this name. -/
def Surroundings.known (surroundings : Surroundings) (device : String) : Option DeviceData :=
  (surroundings.tables.interface device).map (surroundings.tables.data surroundings.text)

/-- The network is this one, the objects have kept nothing wrong, and the
next number is unused. -/
structure System.Sound (network : Network) (system : System) : Prop where
  network : system.process.network = network
  kept : system.process.Sound
  older : forall info, info ∈ system.process.live -> info < system.fresh

/-- An object of the script, for this device. -/
def System.Owns (system : System) (info : Nat) (device : String) : Prop :=
  info ∈ system.process.live ∧ (system.process.object info).device = deviceName device

/-! ## The objects -/

section Objects

variable {surroundings : Surroundings} {network : Network} {system : System} {info : Nat}
  {device : String}

theorem System.Sound.dropped (sound : system.Sound network) (text : AddressText) (info : Nat) :
    (system.drop text info).Sound network := by
  unfold System.drop
  cases taken : system.process.step text (.dealloc info) with
  | none => exact sound
  | some next =>
      have kept := sound.kept.step taken trivial
      rcases (Process.step_cases taken).2 with ⟨_, rfl⟩
      refine ⟨sound.network, kept, ?_⟩
      exact fun other member => sound.older other (Finset.mem_of_mem_erase member)

theorem System.Sound.released (sound : system.Sound network) (text : AddressText) :
    (system.release text).Sound network := by
  have all : (system.held.foldl (System.drop text) system).Sound network := by
    generalize system.held = held
    induction held generalizing system with
    | nil => exact sound
    | cons info held ih => exact ih (sound.dropped text info)
  exact ⟨all.network, all.kept, all.older⟩

/-- A new object has looked up nothing. -/
theorem System.Sound.adopted (sound : system.Sound network) (memory : PyEtherInfo) :
    (system.adopt (Netlink.newEtherInfo memory (deviceName device))).Sound network := by
  refine ⟨sound.network, ?_, ?_⟩
  · intro info member
    by_cases same : info = system.fresh
    · rw [same]
      simpa [System.adopt] using Netlink.faithful_new memory (deviceName device)
    · have old := (Finset.mem_insert.mp member).resolve_left same
      simpa [System.adopt, same] using sound.kept info old
  · intro info member
    rcases Finset.mem_insert.mp member with rfl | old
    · exact Nat.lt_succ_self _
    · exact Nat.lt_succ_of_lt (sound.older info old)

/-- A read keeps all objects and their devices. -/
theorem System.Sound.afterRead (sound : system.Sound network) (attr : Attribute) :
    (system.read surroundings info attr).Sound network := by
  unfold System.read
  cases taken : system.process.step surroundings.text
      (.read info attr (surroundings.faults system.calls)) with
  | none => exact sound
  | some next =>
      have kept := sound.kept.step taken trivial
      rcases (Process.step_cases taken).2 with ⟨_, rfl⟩
      have live := Process.afterRead_live system.process info
        (Netlink.readAttribute surroundings.text system.process.network
          (surroundings.faults system.calls) (system.process.session info) attr).2
      refine ⟨live.2.trans sound.network, kept, fun other member => sound.older other ?_⟩
      rw [← live.1]
      exact member

/-- A read leaves an object with its device. -/
theorem System.Owns.afterRead {other : Nat} (sound : system.Sound network)
    (owns : system.Owns other device) (attr : Attribute) :
    (system.read surroundings info attr).Owns other device := by
  unfold System.read
  cases taken : system.process.step surroundings.text
      (.read info attr (surroundings.faults system.calls)) with
  | none => exact owns
  | some next =>
      rcases (Process.step_cases taken).2 with ⟨alive, rfl⟩
      refine ⟨?_, ?_⟩
      · exact (Process.afterRead_live system.process info _).1 ▸ owns.1
      · by_cases same : other = info
        · have kept := @Process.afterRead_keeps surroundings.text _ sound.kept info alive attr
            (surroundings.faults system.calls)
          rw [same]
          exact kept.remembers.device.trans (same ▸ owns.2)
        · exact (congrArg PyEtherInfo.device
            (Process.afterRead_onlyAt system.process info _ other same)).trans owns.2

end Objects

/-! ## What the objects tell -/

section Telling

variable {surroundings : Surroundings} {system : System} {info : Nat} {device : String}
  {interface : Interface}

theorem ofReturned_eq_ok_iff {result : Except Stopped (Returned (List PyNetlinkIPaddress))}
    {listed : List PyNetlinkIPaddress} :
    ofReturned result = .ok listed ↔ (Netlink.readingOf .list result).1 = .list listed := by
  cases result with
  | error stopped => simp [ofReturned, Netlink.readingOf]
  | ok result =>
      simp only [ofReturned, Netlink.readingOf, Returned.reading]
      cases result.value with
      | none =>
          cases result.session.pending with
          | none => simp
          | some error => simp
      | some value =>
          cases result.session.pending with
          | none => simp
          | some error => simp

/-- The list of a kind as an attribute. -/
def listOf : NlQuery -> Attribute
  | .addr4 => .ipv4 .addresses
  | .addr6 => .ipv6Addresses

theorem readAddresses_eq_ok_iff {kind : NlQuery} {listed : List PyNetlinkIPaddress} :
    readAddresses surroundings system info kind = .ok listed ↔
      system.process.shows surroundings.text info (listOf kind)
        (surroundings.faults system.calls) = .list listed := by
  cases kind with
  | addr4 => exact ofReturned_eq_ok_iff
  | addr6 => exact ofReturned_eq_ok_iff

theorem observe_listOf (text : AddressText) (first : Option String) (kind : NlQuery)
    {tables : Tables} (found : tables.interface device = some interface) :
    tables.network.observe text (deviceName device) first (listOf kind) =
      .list (tables.network.listed text kind (tables.record interface)) := by
  have link := Tables.network_link found
  cases kind with
  | addr4 => simp [Network.observe, listOf, link, Netlink.shownOf]
  | addr6 => simp [Network.observe, listOf, link]

variable (sound : system.Sound surroundings.tables.network) (owns : system.Owns info device)
  (found : surroundings.tables.interface device = some interface) (kind : NlQuery)
include sound owns found

theorem shows_tells :
    (system.process.shows surroundings.text info (listOf kind)
      (surroundings.faults system.calls)).Tells
        (.list (surroundings.tables.network.listed surroundings.text kind
          (surroundings.tables.record interface)))
        (forall asked, (surroundings.faults system.calls asked).None) := by
  have tells := (@Netlink.readAttribute_tells surroundings.text system.process.network
    (system.process.session info) rfl (sound.kept info owns.1)
    (surroundings.faults system.calls) (listOf kind)).tells
  have device : (system.process.session info).self.device = deviceName device := owns.2
  rw [device, sound.network, observe_listOf _ _ kind found] at tells
  rw [Process.shows, sound.network]
  exact tells

/-- A list that is returned is the list of the interface. -/
theorem readAddresses_tells {listed : List PyNetlinkIPaddress}
    (returns : readAddresses surroundings system info kind = .ok listed) :
    listed = surroundings.tables.network.listed surroundings.text kind
      (surroundings.tables.record interface) := by
  have shown := readAddresses_eq_ok_iff.mp returns
  have same := (shows_tells sound owns found kind).normal (by rw [shown]; trivial)
  rw [shown] at same
  injection same

theorem readAddresses_returns
    (faultless : forall asked, (surroundings.faults system.calls asked).None) :
    readAddresses surroundings system info kind =
      .ok (surroundings.tables.network.listed surroundings.text kind
        (surroundings.tables.record interface)) :=
  readAddresses_eq_ok_iff.mpr ((shows_tells sound owns found kind).faultless faultless)

end Telling

/-! ## New objects -/

section Making

variable {surroundings : Surroundings} {network : Network} {system : System} {device : String}

/-- One object for the device, as long as there is memory. -/
theorem makeInfos_eq (surroundings : Surroundings) (system : System) (device : String) :
    makeInfos surroundings system device =
      match surroundings.pyObjectNew system.calls with
      | .error errno => (.error (.raised ⟨.osError, .errno errno⟩), system)
      | .ok memory =>
          (.ok [system.fresh], system.adopt (Netlink.newEtherInfo memory (deviceName device))) := by
  have encoded : Netlink.pyTextAsString (device.toList.map .scalar) = some (utf8Bytes device) :=
    Netlink.pyTextAsString_eq_some_iff.mpr ⟨device.toList, rfl, rfl⟩
  have made : Netlink.getInterfacesInfo (fun _ => surroundings.pyObjectNew system.calls)
      [pyText device] =
        Netlink.makeObjects (fun _ => surroundings.pyObjectNew system.calls) []
          [some (utf8Bytes device)] := by
    rw [← encoded]
    rfl
  unfold makeInfos
  rw [made, Netlink.makeObjects]
  cases surroundings.pyObjectNew system.calls with
  | error errno => rfl
  | ok memory => rfl

theorem System.Sound.made (sound : system.Sound network) :
    (makeInfos surroundings system device).2.Sound network := by
  rw [makeInfos_eq]
  cases surroundings.pyObjectNew system.calls with
  | error errno => exact sound
  | ok memory => exact sound.adopted memory

theorem makeInfos_owns {infos : List Nat}
    (made : (makeInfos surroundings system device).1 = .ok infos) :
    ∃ info, infos = [info] ∧ (makeInfos surroundings system device).2.Owns info device := by
  rw [makeInfos_eq] at made ⊢
  cases allocated : surroundings.pyObjectNew system.calls with
  | error errno =>
      rw [allocated] at made
      cases made
  | ok memory =>
      rw [allocated] at made
      cases made
      refine ⟨system.fresh, rfl, Finset.mem_insert_self _ _, ?_⟩
      simp only [System.adopt, Function.update_self]
      rfl

end Making

/-! ## The assumptions of the script -/

section Assumptions

variable {surroundings : Surroundings} {network : Network}

theorem System.Sound.called {system : System} (sound : system.Sound network) :
    system.called.Sound network :=
  ⟨sound.network, sound.kept, sound.older⟩

theorem extension_keeps (call : Call) {system : System} (sound : system.Sound network) :
    ((extension surroundings).answer call system).2.Sound network := by
  cases call with
  | getActiveDevices => exact sound.called
  | getFlags device => exact sound.called
  | getHwaddr device => exact sound.called
  | getInterfacesInfo device => exact (sound.released surroundings.text).made.called
  | getIpv4Addresses info => exact (sound.afterRead (.ipv4 .addresses)).called
  | getIpv6Addresses info => exact (sound.afterRead .ipv6Addresses).called

theorem extension_keepsOwner {call : Call} {system : System} {info : Nat} {device : String}
    (inside : call.Inside) (sound : system.Sound network) (owns : system.Owns info device) :
    ((extension surroundings).answer call system).2.Owns info device := by
  cases call with
  | getActiveDevices => exact absurd inside not_false
  | getFlags device => exact absurd inside not_false
  | getInterfacesInfo device => exact absurd inside not_false
  | getHwaddr device => exact owns
  | getIpv4Addresses other => exact owns.afterRead sound (.ipv4 .addresses)
  | getIpv6Addresses other => exact owns.afterRead sound .ipv6Addresses

theorem noExit_map (failure : Failure PyError) : (failure.map ScriptError.python).NoExit := by
  cases failure <;> trivial

theorem orRaised_eq_ok {Value : Type} {result : Except PyError Value} {value : Value}
    (returns : orRaised result = .ok value) : result = .ok value := by
  cases result with
  | ok other => exact congrArg Except.ok (Except.ok.inj returns)
  | error error => cases returns

theorem Surroundings.known_eq_some {device : String} {data : DeviceData}
    (known : surroundings.known device = some data) :
    ∃ interface, surroundings.tables.interface device = some interface ∧
      data = surroundings.tables.data surroundings.text interface := by
  rcases Option.map_eq_some_iff.mp known with ⟨interface, found, rfl⟩
  exact ⟨interface, found, rfl⟩

theorem known_flags {device : String} {flags : Int}
    (told : ∃ interface, surroundings.tables.interface device = some interface ∧
      flags ≡ (surroundings.tables.flags interface).toNat [ZMOD 2 ^ 16]) :
    ∃ data, surroundings.known device = some data ∧ flags ≡ data.flags [ZMOD 2 ^ 16] := by
  rcases told with ⟨interface, found, same⟩
  exact ⟨surroundings.tables.data surroundings.text interface,
    congrArg (Option.map (surroundings.tables.data surroundings.text)) found, same⟩

/-- Every scope in a list is there. -/
theorem Surroundings.known_scopes {device : String} {data : DeviceData}
    {addr : PyNetlinkIPaddress} (known : surroundings.known device = some data)
    (member : addr ∈ data.ipv6) : addr.scope.isSome := by
  rcases Surroundings.known_eq_some known with ⟨interface, _, rfl⟩
  rcases List.mem_map.mp member with ⟨record, _, rfl⟩
  rfl

/-- Whatever fails, the extension tells nothing wrong. -/
theorem extension_reports (surroundings : Surroundings) :
    Reports (extension surroundings) surroundings.tables.Usual Failure.NoExit
      (System.Sound surroundings.tables.network) System.Owns surroundings.known where
  keeps := fun call _ sound => extension_keeps call sound
  keepsOwner := fun _ _ _ _ inside sound owns => extension_keepsOwner inside sound owns
  getFlags := by
    refine fun device system usual _ => ⟨?_, fun failure _ => noExit_map failure⟩
    intro flags answered
    have returns := orRaised_eq_ok answered
    rw [invoke_getFlags] at returns
    rcases except_map_eq_ok returns with ⟨ifru, made, rfl⟩
    exact known_flags (flags_told (surroundings.tells _) usual made)
  makesObject := fun _ _ _ _ made => makeInfos_owns made
  makesNoObject := fun _ _ failure _ _ => noExit_map failure
  getHwaddr := by
    refine fun device data system usual known plain _ => ⟨?_, fun failure _ => noExit_map failure⟩
    intro hwaddr answered
    have returns := orRaised_eq_ok answered
    rw [invoke_getHwaddress] at returns
    rcases except_map_eq_ok returns with ⟨ifru, made, rfl⟩
    rcases Surroundings.known_eq_some known with ⟨interface, found, rfl⟩
    exact hwaddr_told (surroundings.tells _) usual found (not_not.mp plain) made
  getIpv4Addresses := by
    refine fun device data info system known sound owns => ⟨?_, fun failure _ => noExit_map failure⟩
    intro listed returns
    rcases Surroundings.known_eq_some known with ⟨interface, found, rfl⟩
    exact readAddresses_tells sound owns found .addr4 returns
  getIpv6Addresses := by
    refine fun device data info system known sound owns => ⟨?_, fun failure _ => noExit_map failure⟩
    intro listed returns
    rcases Surroundings.known_eq_some known with ⟨interface, found, rfl⟩
    exact readAddresses_tells sound owns found .addr6 returns
  masks := fun _ _ _ _ _ _ failed => bits2netmask_noExit failed
  scopes := fun _ _ _ known member => Surroundings.known_scopes known member

/-- No call fails, and every prefix of an IPv4 address has a netmask. -/
structure Surroundings.Faultless (surroundings : Surroundings) : Prop where
  opens : forall number, 0 ≤ (surroundings.host number).socket
  accepts : forall number interface request, interface ∈ surroundings.tables.interfaces ->
    0 ≤ ((surroundings.host number).answer interface request).result
  allocates : forall number, ∃ memory, surroundings.pyObjectNew number = .ok memory
  none : forall number asked, (surroundings.faults number asked).None
  prefixes : forall addr, addr ∈ surroundings.tables.addresses -> addr.family = Netlink.AF_INET ->
    0 ≤ addr.prefixlen ∧ addr.prefixlen ≤ 32

/-- A device that the kernel has. -/
def Surroundings.has (surroundings : Surroundings) (device : String) : Bool :=
  (surroundings.tables.interface device).isSome

theorem tells_of_ok {Reply : Type} {right : Reply -> Prop}
    {allowed : Failure ScriptError -> Prop} {result : Except (Failure PyError) Reply}
    {reply : Reply} (returns : result = .ok reply) (holds : right reply) :
    Tells allowed right result where
  tells := by
    intro other same
    rw [returns] at same
    cases same
    exact holds
  fails := by
    intro failure same
    rw [returns] at same
    cases same

/-- Where no call fails, the extension tells everything. -/
theorem extension_tellsAll (faultless : surroundings.Faultless) :
    Reports (extension surroundings)
      (fun device => surroundings.tables.Usual device ∧ surroundings.has device = true)
      (fun _ => False) (System.Sound surroundings.tables.network) System.Owns
      surroundings.known where
  keeps := fun call _ sound => extension_keeps call sound
  keepsOwner := fun _ _ _ _ inside sound owns => extension_keepsOwner inside sound owns
  getFlags := by
    rintro device system ⟨usual, present⟩ _
    rcases Option.isSome_iff_exists.mp present with ⟨interface, found⟩
    rcases requested_of_succeeds (surroundings.tells system.calls) usual
      (faultless.opens system.calls) found
      (fun request (_ : request.code = .siocgifflags) =>
        faultless.accepts _ interface request (Tables.interface_mem found)) with ⟨ifru, made⟩
    refine tells_of_ok ?_ (known_flags (flags_told (surroundings.tells _) usual made))
    change orRaised (invoke (surroundings.host system.calls) device getFlags >>= readInt) = _
    rw [invoke_getFlags, made]
    rfl
  makesObject := fun _ _ _ _ made => makeInfos_owns made
  makesNoObject := by
    intro device system failure _ failed
    rcases faultless.allocates (system.release surroundings.text).calls with ⟨memory, allocated⟩
    change (makeInfos surroundings (system.release surroundings.text) device).1 = _ at failed
    rw [makeInfos_eq, allocated] at failed
    cases failed
  getHwaddr := by
    rintro device data system ⟨usual, _⟩ known plain _
    rcases Surroundings.known_eq_some known with ⟨interface, found, rfl⟩
    rcases requested_of_succeeds (surroundings.tells system.calls) usual
      (faultless.opens system.calls) found
      (fun request (_ : request.code = .siocgifhwaddr) =>
        faultless.accepts _ interface request (Tables.interface_mem found)) with ⟨ifru, made⟩
    refine tells_of_ok ?_
      (hwaddr_told (surroundings.tells _) usual found (not_not.mp plain) made)
    change orRaised (invoke (surroundings.host system.calls) device getHwaddress >>= readStr) = _
    rw [invoke_getHwaddress, made]
    rfl
  getIpv4Addresses := by
    intro device data info system known sound owns
    rcases Surroundings.known_eq_some known with ⟨interface, found, rfl⟩
    exact tells_of_ok (readAddresses_returns sound owns found .addr4 (faultless.none _)) rfl
  getIpv6Addresses := by
    intro device data info system known sound owns
    rcases Surroundings.known_eq_some known with ⟨interface, found, rfl⟩
    exact tells_of_ok (readAddresses_returns sound owns found .addr6 (faultless.none _)) rfl
  masks := by
    intro device data addr error known member failed
    rcases Surroundings.known_eq_some known with ⟨interface, _, rfl⟩
    rcases List.mem_map.mp member with ⟨record, selected, rfl⟩
    rcases List.mem_filter.mp selected with ⟨listed, chosen⟩
    have family : record.family = Netlink.AF_INET := (of_decide_eq_true chosen).2
    have bounds := faultless.prefixes record listed family
    have natural : record.prefixlen = (record.prefixlen.toNat : Int) := by omega
    change bits2netmask record.prefixlen = _ at failed
    rw [natural, bits2netmask_of_small (by omega)] at failed
    cases failed
  scopes := fun _ _ _ known member => Surroundings.known_scopes known member

end Assumptions

/-! ## A concrete system -/

def loInterface : Interface where
  name := ⟨[108, 111], by simp⟩
  ifindex := 1
  nonempty := by decide
  short := by decide
  positive := one_pos

def eth0Interface : Interface where
  name := Netlink.eth0
  ifindex := 2
  nonempty := by decide
  short := by decide
  positive := two_pos

/-- Two interfaces.  The flag word of `eth0` has a bit above the first 16. -/
def eth0Tables : Tables where
  interfaces := [loInterface, eth0Interface]
  distinct := by decide
  flags := fun interface => if interface.ifindex = 1 then 0x49 else 0x11043
  hwaddr := fun interface =>
    if interface.ifindex = 1 then { family := 0, binary := [0, 0, 0, 0, 0, 0], prefixlen := 48 }
    else ethernet
  addresses := [Netlink.eth0Addr, Netlink.eth0Addr6]

/-- No call fails but those of the queries given. -/
def eth0Surroundings (faults : Nat -> Asked -> Faults) : Surroundings where
  tables := eth0Tables
  host := fun _ => eth0Tables.machine
  tells := fun _ => eth0Tables.machine_tells
  ifaddr := .ok []
  text := Netlink.plainText
  pyObjectNew := fun _ => .ok .cleared
  faults := faults

theorem eth0Surroundings_faultless : (eth0Surroundings (fun _ _ => .none)).Faultless where
  opens := fun _ => Int.natCast_nonneg 3
  accepts := fun _ _ _ _ => Int.le_refl 0
  allocates := fun _ => ⟨.cleared, rfl⟩
  none := fun _ _ => ⟨rfl, Int.le_refl 0, rfl, rfl, rfl, fun _ addr => by
    simp [eth0Surroundings, Faults.none, Netlink.Building.Raises, Netlink.Building.success]⟩
  prefixes := by decide

/-- One name of the kernel, and one that it does not have. -/
theorem eth0Tables_usual {device : String} (member : device ∈ ["lo", "eth0", "eth1"]) :
    eth0Tables.Usual device := by
  have converted : forall name, name ∈ ["lo", "eth0", "eth1"] ->
      (cstringOf name).isSome ∧ (utf8Bytes name).length ≤ 15 := by
    decide +kernel
  refine ⟨(converted device member).1, (converted device member).2, ?_⟩
  intro interface found plain
  have listed : interface ∈ [loInterface, eth0Interface] := Tables.interface_mem found
  rcases List.mem_pair.mp listed with rfl | rfl
  · exact absurd plain (by decide)
  · rfl

/-! ## The script -/

theorem System.sound_initial (memory : Nat -> PyEtherInfo) (network : Network) :
    (System.initial memory network).Sound network where
  network := rfl
  kept := fun _ member => absurd member (Finset.notMem_empty _)
  older := fun _ member => absurd member (Finset.notMem_empty _)

/-- The script is started with nothing done yet. -/
def Surroundings.start (surroundings : Surroundings) (memory : Nat -> PyEtherInfo) : System :=
  .initial memory surroundings.tables.network

/-- All sections, or those in front of the first device without an interface
and the line about it. -/
def PrintsExisting (surroundings : Surroundings) (errors : ErrorTexts) (devices : List String)
    (result : Except (Failure ScriptError) Unit) (texts : List String) : Prop :=
  let shown := (devices.takeWhile surroundings.has).flatMap (sectionOf surroundings.known)
  match devices.dropWhile surroundings.has with
  | [] => result = .ok () ∧ texts = shown
  | device :: _ =>
      result = .error (.raised (.systemExit 2)) ∧
        texts = shown ++ [errorLine errors device (.python ⟨.osError, .errno ENODEV⟩) ++ "\n"]

section Exact

variable {surroundings : Surroundings}

/-- The first call for a device without an interface. -/
theorem getFlags_unknown (faultless : surroundings.Faultless) {device : String}
    (usual : surroundings.tables.Usual device) (absent : surroundings.has device = false)
    (system : System) :
    ((extension surroundings).answer (.getFlags device) system).1 =
      .error (.raised (setFromErrno ENODEV)) := by
  have unknown : surroundings.tables.interface device = none :=
    Option.isNone_iff_eq_none.mp (by simpa [Surroundings.has] using absent)
  change orRaised (invoke (surroundings.host system.calls) device Ioctl.getFlags >>= readInt) = _
  rw [invoke_getFlags, requested_of_unknown (surroundings.tells system.calls) usual
    (faultless.opens system.calls) unknown]
  rfl

end Exact

end Pifconfig
end PythonEthtool
