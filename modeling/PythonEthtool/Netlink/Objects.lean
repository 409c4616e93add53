import PythonEthtool.Netlink.Network

namespace PythonEthtool
namespace Netlink

open Foundations
open Python

/-!
# All objects of a process, and what they show

The objects of a process share one connection, and each of them keeps what
it has looked up: its index and its link-layer address.  The address is kept
for good, so `mac_address` shows the one that the object met first.  All else
that a read shows is to be the state of the kernel at that moment, whichever
other objects exist, whatever they have read, and whether the connection was
closed and made again in the meantime.

The calls of `Faults` may fail in any read.  A read then ends with an
exception, or with the process, and never with a wrong answer; where none of
them fails it shows what `Network.observe` says.

The index is the exception to the freedom of the kernel: the link of a device
that a living object has looked up keeps its index.  Its addresses, its own
link-layer address and the links of all other devices may change at any time.
-/

/-! ## The process -/

/-- The module with its objects, the kernel, and whether the process has met
a fault. -/
structure Process extends Module where
  network : Network
  crashed : Bool

inductive ProcessAction where
  | create (address : Nat) (memory : PyEtherInfo) (device : CString)
  | read (address : Nat) (attr : Attribute) (faults : Asked -> Faults)
  | dealloc (address : Nat)
  | change (network : Network)

namespace Process

/-- The module as loaded. -/
def initial (memory : Nat -> PyEtherInfo) (network : Network) : Process where
  toModule := .initial memory
  network := network
  crashed := false

/-- The session in which an object is read.  The exception of an earlier read
has been handled. -/
def session (process : Process) (address : Nat) : Session where
  shared := process.shared
  self := process.object address
  pending := none
  log := []

/-- What a read of this object shows. -/
def shows (text : AddressText) (process : Process) (address : Nat) (attr : Attribute)
    (faults : Asked -> Faults) : Reading :=
  (readAttribute text process.network faults (process.session address) attr).1

/-- The process after a read of this object. -/
def afterRead (process : Process) (address : Nat) : Option Session -> Process
  | some after =>
      { process with
        shared := after.shared
        object := Function.update process.object address after.self }
  | none => { process with crashed := true }

/-- After a fault there are no more actions. -/
def step (text : AddressText) (process : Process) (action : ProcessAction) : Option Process :=
  if process.crashed then none
  else
    match action with
    | .create address memory device =>
        (process.toModule.step (.create address memory device)).map
          (fun created => { process with toModule := created })
    | .read address attr faults =>
        if address ∈ process.live then
          some (process.afterRead address
            (readAttribute text process.network faults (process.session address) attr).2)
        else none
    | .dealloc address =>
        (process.toModule.step (.dealloc address)).map
          (fun closed => { process with toModule := closed })
    | .change network => some { process with network := network }

/-- The reads that ask for the link. -/
def AsksLink : Attribute -> Prop
  | .macAddress => True
  | .str => True
  | _ => False

/-- The link-layer address of an object stays, or is the first one. -/
structure Remembers (text : AddressText) (network : Network) (before after : PyEtherInfo) :
    Prop where
  device : after.device = before.device
  hwaddress : after.hwaddress = before.hwaddress ∨
    (before.hwaddress = none ∧ ∃ link, network.link before.device = some link ∧
      after.hwaddress = some (Network.hwaddress text link))

/-- No other object is touched. -/
def OnlyAt (process : Process) (address : Nat) (next : Process) : Prop :=
  forall other, other ≠ address -> next.object other = process.object other

/-- A read shows the state of the kernel, or an exception or the end where a
call fails, and the object remembers the first link-layer address. -/
structure TruthfulRead (text : AddressText) (process : Process) (address : Nat)
    (attr : Attribute) (faults : Asked -> Faults) (next : Process) : Prop where
  tells : (process.shows text address attr faults).Tells
    (process.network.observe text (process.object address).device
      (process.object address).hwaddress attr)
    (forall asked, (faults asked).None)
  remembers : Remembers text process.network (process.object address) (next.object address)
  learns : AsksLink attr -> (process.shows text address attr faults).Normal ->
    (next.object address).hwaddress.isSome
  others : process.OnlyAt address next

def Truthful (text : AddressText) (process : Process) (action : ProcessAction)
    (next : Process) : Prop :=
  match action with
  | .create address _ device =>
      (next.object address).device = device ∧ (next.object address).hwaddress = none ∧
        process.OnlyAt address next
  | .read address attr faults => process.TruthfulRead text address attr faults next
  | .dealloc address => process.OnlyAt address next
  | .change _ => next.object = process.object

/-- The link of a device keeps its index while a living object has it. -/
def KeepsLinks (process : Process) (action : ProcessAction) (_next : Process) : Prop :=
  match action with
  | .change network =>
      forall address, address ∈ process.live -> 0 ≤ (process.object address).index ->
        (network.link (process.object address).device).map (fun link => link.ifindex) =
          (process.network.link (process.object address).device).map (fun link => link.ifindex)
  | _ => True

end Process

/-! ## What a query keeps -/

/-- A query keeps what is right, the device, and the link-layer address or
its want. -/
structure Keeps (text : AddressText) (network : Network) (before after : PyEtherInfo) : Prop where
  faithful : Faithful network after
  remembers : Process.Remembers text network before after

theorem Keeps.refl {text : AddressText} {network : Network} {ethi : PyEtherInfo}
    (faithful : Faithful network ethi) : Keeps text network ethi ethi :=
  ⟨faithful, rfl, Or.inl rfl⟩

theorem Keeps.trans {text : AddressText} {network : Network} {first second third : PyEtherInfo}
    (early : Keeps text network first second) (late : Keeps text network second third) :
    Keeps text network first third := by
  refine ⟨late.faithful, late.remembers.device.trans early.remembers.device, ?_⟩
  rcases late.remembers.hwaddress with same | ⟨nothing, link, found, learned⟩
  · rw [same]
    exact early.remembers.hwaddress
  · rw [early.remembers.device] at found
    rcases early.remembers.hwaddress with same | ⟨_, _, _, learnedBefore⟩
    · exact Or.inr ⟨same ▸ nothing, link, found, learned⟩
    · rw [learnedBefore] at nothing
      cases nothing

/-- An address that is there stays. -/
theorem Process.Remembers.isSome {text : AddressText} {network : Network}
    {before after : PyEtherInfo} (remembers : Process.Remembers text network before after)
    (present : before.hwaddress.isSome) : after.hwaddress.isSome := by
  rcases remembers.hwaddress with same | ⟨nothing, _⟩
  · rw [same]
    exact present
  · rw [nothing] at present
    cases present

section Perform

variable {text : AddressText} {network : Network} {session : Session}
  (faithful : Faithful network session.self)
include faithful

theorem keeps_link (faults : Faults) :
    Keeps text network session.self
      (getEtherinfoLink text session (network.linkCalls faults)).2.self := by
  have kept := openAndSetIndex_device session (network.openingCalls faults)
  rcases getEtherinfoLink_session text session (network.linkCalls faults) with ⟨_, index, device⟩
  have device : (getEtherinfoLink text session (network.linkCalls faults)).2.self.device =
      session.self.device := device.trans kept.1
  rcases link_query text faults faithful with
    ⟨link, found, stored, cached, _⟩ | ⟨unchanged, _⟩
  · refine ⟨Or.inr ⟨link, device.symm ▸ found, stored⟩, device, ?_⟩
    cases before : session.self.hwaddress with
    | none =>
        rw [before] at cached
        exact Or.inr ⟨rfl, link, found, cached⟩
    | some hwaddress =>
        rw [before] at cached
        exact Or.inl cached
  · refine ⟨?_, device, Or.inl unchanged⟩
    rcases faithful.openAndSetIndex faults with ⟨unset, nothing⟩ | ⟨link, found, same⟩
    · exact Or.inl ⟨index.trans_lt unset, unchanged.trans (kept.2.symm.trans nothing)⟩
    · rw [kept.1] at found
      exact Or.inr ⟨link, device.symm ▸ found, index.trans same⟩

theorem keeps_address (faults : Faults) (kind : NlQuery)
    {result : Returned (List PyNetlinkIPaddress)}
    (returns : getEtherinfoAddress text session kind (network.addressCalls faults) =
      .ok result) :
    Keeps text network session.self result.session.self := by
  have kept := openAndSetIndex_device session (network.openingCalls faults)
  have self : result.session.self =
      (openAndSetIndex session (network.openingCalls faults)).2.self :=
    (getEtherinfoAddress_session text returns).2
  rw [self]
  exact ⟨faithful.openAndSetIndex faults, kept.1, Or.inl kept.2⟩

end Perform

/-! ## Readings -/

section OneRead

variable {α : Type} {result : Returned α} {shown : α -> Reading}

theorem reading_clear {value : α} (returned : result.value = some value)
    (clear : result.session.pending = none) : result.reading shown = shown value := by
  simp only [Returned.reading, returned, clear]

theorem reading_raised {error : PyError} (returned : result.value = none)
    (pending : result.session.pending = some error) : result.reading shown = .raised error := by
  simp only [Returned.reading, returned, pending]

theorem reading_broken {value : α} (returned : result.value = some value)
    (pending : result.session.pending.isSome) : result.reading shown = .broken := by
  rcases Option.isSome_iff_exists.mp pending with ⟨error, set⟩
  simp only [Returned.reading, returned, set]

/-- With an exception pending no read ends normally. -/
theorem reading_pending (pending : result.session.pending.isSome) :
    ¬ (result.reading shown).Normal := by
  rcases Option.isSome_iff_exists.mp pending with ⟨error, set⟩
  cases returned : result.value with
  | none =>
      rw [reading_raised returned set]
      exact not_false
  | some value =>
      rw [reading_broken returned pending]
      exact not_false

theorem tells_of_eq {reading truth : Reading} {faultless : Prop} (same : reading = truth) :
    reading.Tells truth faultless :=
  ⟨fun _ => same, fun _ => same⟩

/-- A read that does not end normally has to be right where nothing fails. -/
theorem tells_of_pending {reading truth : Reading} {faultless : Prop}
    (abnormal : ¬ reading.Normal) (same : faultless -> reading = truth) :
    reading.Tells truth faultless :=
  ⟨fun normal => absurd normal abnormal, same⟩

end OneRead

/-- What is proved of a read, of its value and of the object after it. -/
structure ReadTells (text : AddressText) (network : Network) (session : Session)
    (attr : Attribute) (faults : Asked -> Faults) (read : Reading × Option Session) : Prop where
  tells : read.1.Tells
    (network.observe text session.self.device session.self.hwaddress attr)
    (forall asked, (faults asked).None)
  keeps : forall after, read.2 = some after -> Keeps text network session.self after.self
  learns : Process.AsksLink attr -> read.1.Normal ->
    ∃ after, read.2 = some after ∧ after.self.hwaddress.isSome

section Reads

variable {text : AddressText} {network : Network} {session : Session}
  (clear : session.pending = none) (faithful : Faithful network session.self)
  (faults : Asked -> Faults)
include clear faithful

theorem device_tells :
    ReadTells text network session .device faults
      (readAttribute text network faults session .device) where
  tells := tells_of_eq (@reading_clear _ session.getDevice _ _ rfl clear)
  keeps := by
    intro after same
    cases same
    exact .refl faithful
  learns := False.elim

theorem macAddress_tells :
    ReadTells text network session .macAddress faults
      (readAttribute text network faults session .macAddress) where
  tells := by
    rcases link_query text (faults .link) faithful with
      ⟨link, found, _, cached, pending⟩ | ⟨kept, pending, absent⟩
    · apply tells_of_eq
      simp only [Network.observe, found]
      exact reading_clear cached (pending.trans clear)
    · apply tells_of_pending (reading_pending pending)
      intro none
      rcases absent (none .link) with ⟨gone, nothing, raised⟩
      simp only [Network.observe, gone]
      exact reading_raised (kept.trans nothing) (raised clear)
  keeps := by
    intro after same
    cases same
    exact keeps_link faithful (faults .link)
  learns := by
    intro _ normal
    refine ⟨_, rfl, ?_⟩
    rcases link_query text (faults .link) faithful with
      ⟨_, _, _, cached, _⟩ | ⟨_, pending, _⟩
    · exact Option.isSome_iff_exists.mpr ⟨_, cached⟩
    · exact absurd normal (reading_pending pending)

omit clear faithful in
/-- The four reads of the IPv4 addresses leave the session of the query. -/
theorem readIpv4_ended {calls : AddressCalls} {result : Returned (List PyNetlinkIPaddress)}
    (returns : getEtherinfoAddress text session .addr4 calls = .ok result) (read : Ipv4Read) :
    (readIpv4 text session calls read).2 = some result.handled ∧
      (result.session.pending.isSome -> ¬ (readIpv4 text session calls read).1.Normal) := by
  have field (field : PyNetlinkIPaddress -> Option PyValue) (absent : PyValue) :
      (readingOf .value ((getEtherinfoAddress text session .addr4 calls).map
          (lastIpv4 field absent))).2 = some result.handled ∧
        (result.session.pending.isSome ->
          ¬ (readingOf .value ((getEtherinfoAddress text session .addr4 calls).map
            (lastIpv4 field absent))).1.Normal) := by
    rw [returns]
    refine ⟨?_, fun pending => reading_pending ?_⟩
    · simp only [Except.map, readingOf, Returned.handled, lastIpv4_session]
    · rw [lastIpv4_session]
      exact pending
  cases read with
  | addresses =>
      simp only [readIpv4, getIpv4Addresses, returns]
      exact ⟨rfl, reading_pending⟩
  | address => exact field _ _
  | netmask => exact field _ _
  | broadcast => exact field _ _

omit clear faithful in
theorem readIpv4_stopped {calls : AddressCalls} {stopped : Stopped}
    (stops : getEtherinfoAddress text session .addr4 calls = .error stopped) (read : Ipv4Read) :
    readIpv4 text session calls read = (.fault stopped.fault, none) := by
  cases read with
  | addresses => simp only [readIpv4, getIpv4Addresses, stops, readingOf]
  | address => simp only [readIpv4, getIpv4Addr, stops, Except.map, readingOf]
  | netmask => simp only [readIpv4, getIpv4Mask, stops, Except.map, readingOf]
  | broadcast => simp only [readIpv4, getIpv4Bcast, stops, Except.map, readingOf]

theorem ipv4_tells (read : Ipv4Read) :
    ReadTells text network session (.ipv4 read) faults
      (readAttribute text network faults session (.ipv4 read)) where
  tells := by
    rcases address_query text (faults (.address .addr4)) .addr4 faithful with
      ⟨link, after, found, returns, pending⟩ | ⟨pending, absent⟩
    · apply tells_of_eq
      simp only [readAttribute, Network.observe, found,
        readIpv4_listed returns (pending.trans clear) read]
    · apply tells_of_pending
      · cases ended : getEtherinfoAddress text session .addr4
            (network.addressCalls (faults (.address .addr4))) with
        | ok result =>
            exact (readIpv4_ended ended read).2 (pending result ended)
        | error stopped =>
            rw [readAttribute, readIpv4_stopped ended read]
            exact not_false
      · intro none
        rcases absent (none (.address .addr4)) with ⟨gone, after, returns, raised⟩
        simp only [readAttribute, Network.observe, gone, readIpv4_raised returns (raised clear) read]
  keeps := by
    intro after same
    cases ended : getEtherinfoAddress text session .addr4
        (network.addressCalls (faults (.address .addr4))) with
    | ok result =>
        rw [readAttribute, (readIpv4_ended ended read).1] at same
        cases same
        exact keeps_address faithful _ _ ended
    | error stopped =>
        rw [readAttribute, readIpv4_stopped ended read] at same
        cases same
  learns := False.elim

theorem ipv6_tells :
    ReadTells text network session .ipv6Addresses faults
      (readAttribute text network faults session .ipv6Addresses) where
  tells := by
    rcases address_query text (faults (.address .addr6)) .addr6 faithful with
      ⟨link, after, found, returns, pending⟩ | ⟨pending, absent⟩
    · apply tells_of_eq
      simp only [readAttribute, getIpv6Addresses, Network.observe, found, returns]
      exact reading_clear rfl (pending.trans clear)
    · apply tells_of_pending
      · simp only [readAttribute, getIpv6Addresses]
        cases ended : getEtherinfoAddress text session .addr6
            (network.addressCalls (faults (.address .addr6))) with
        | ok result => exact reading_pending (pending result ended)
        | error stopped => exact not_false
      · intro none
        rcases absent (none (.address .addr6)) with ⟨gone, after, returns, raised⟩
        simp only [readAttribute, getIpv6Addresses, Network.observe, gone, returns]
        exact reading_raised rfl (raised clear)
  keeps := by
    intro after same
    simp only [readAttribute, getIpv6Addresses] at same
    cases ended : getEtherinfoAddress text session .addr6
        (network.addressCalls (faults (.address .addr6))) with
    | ok result =>
        rw [ended] at same
        cases same
        exact keeps_address faithful _ _ ended
    | error stopped =>
        rw [ended] at same
        cases same
  learns := False.elim

end Reads

/-! ## The string -/

/-- The lines of a list, if each address has one. -/
theorem appendLines_map {Entry : Type} {line : PyNetlinkIPaddress -> Except Fault String}
    {made : Entry -> PyNetlinkIPaddress} {shown : Entry -> String}
    (each : forall entry, line (made entry) = .ok (shown entry)) (entries : List Entry)
    (ret : String) :
    appendLines line ret (some (entries.map made)) =
      .ok (ret ++ String.join (entries.map shown)) := by
  unfold appendLines
  rw [Option.getD_some]
  induction entries generalizing ret with
  | nil => simp [pure, Except.pure]
  | cons entry entries ih =>
      rw [List.map_cons, List.foldlM_cons, each entry, List.map_cons, String.join_cons,
        ← String.append_assoc]
      exact ih (ret ++ shown entry)

section Str

variable {text : AddressText} {network : Network} {session : Session}
  (faithful : Faithful network session.self) (faults : Asked -> Faults)

/-- The session between the link and the addresses. -/
def linkedSession (text : AddressText) (network : Network) (faults : Asked -> Faults)
    (session : Session) : Session :=
  (getEtherinfoLink text session (network.linkCalls (faults .link))).2

def describe (text : AddressText) (network : Network) (faults : Asked -> Faults)
    (session : Session) : Except Stopped (Returned String) :=
  ethtoolEtherinfoStr text session (network.linkCalls (faults .link))
    (network.addressCalls (faults (.address .addr4)))
    (network.addressCalls (faults (.address .addr6)))

include faithful

/-- An exception that is pending stays so through an address query. -/
theorem address_pending {faults : Faults} {kind : NlQuery}
    {result : Returned (List PyNetlinkIPaddress)} (raised : session.pending.isSome)
    (returns : getEtherinfoAddress text session kind (network.addressCalls faults) =
      .ok result) : result.session.pending.isSome := by
  rcases address_query text faults kind faithful with
    ⟨_, after, _, listed, pending⟩ | ⟨pending, _⟩
  · rw [listed] at returns
    cases returns
    rw [pending]
    exact raised
  · exact pending result returns

/-- The string of a device whose three queries are answered. -/
theorem describe_answered {link : LinkRecord} {hwaddress : String} {after4 after6 : Session}
    (cached : (linkedSession text network faults session).self.hwaddress = some hwaddress)
    (returns4 : getEtherinfoAddress text (linkedSession text network faults session) .addr4
      (network.addressCalls (faults (.address .addr4))) =
        .ok { value := some (network.listed text .addr4 link), session := after4 })
    (returns6 : getEtherinfoAddress text after4 .addr6
      (network.addressCalls (faults (.address .addr6))) =
        .ok { value := some (network.listed text .addr6 link), session := after6 }) :
    describe text network faults session =
      .ok
        { value := some (network.description text session.self.device link hwaddress)
          session := after6 } := by
  have device : (linkedSession text network faults session).self.device = session.self.device :=
    (@keeps_link text network session faithful (faults .link)).remembers.device
  have linked : (getEtherinfoLink text session (network.linkCalls (faults .link))).2 =
      linkedSession text network faults session := rfl
  have start : deviceLines (linkedSession text network faults session).self =
      "Device " ++ deviceText session.self.device ++ ":\n" ++
        ("\tMAC address: " ++ hwaddress ++ "\n") := by
    rw [deviceLines, device, cached]
  have lines4 := @appendLines_map _ ipv4Line (addressOf text) (ipv4Text text)
    (fun _ => rfl) (network.addressesOf .addr4 link)
  have lines6 := @appendLines_map _ ipv6Line (addressOf text) (ipv6Text text)
    (fun _ => rfl) (network.addressesOf .addr6 link)
  rw [Network.listed] at returns4 returns6
  simp only [describe, ethtoolEtherinfoStr, linked, start, bind, Except.bind, returns4, lines4,
    returns6, lines6, Session.orStop_ok]
  rfl

omit faithful in
/-- The string where neither list is there. -/
theorem describe_unlisted {after4 after6 : Session}
    (returns4 : getEtherinfoAddress text (linkedSession text network faults session) .addr4
      (network.addressCalls (faults (.address .addr4))) =
        .ok { value := none, session := after4 })
    (returns6 : getEtherinfoAddress text after4 .addr6
      (network.addressCalls (faults (.address .addr6))) =
        .ok { value := none, session := after6 }) :
    ∃ ret, describe text network faults session =
      .ok { value := some ret, session := after6 } := by
  have linked : (getEtherinfoLink text session (network.linkCalls (faults .link))).2 =
      linkedSession text network faults session := rfl
  have nothing (line : PyNetlinkIPaddress -> Except Fault String) (ret : String) :
      appendLines line ret none = .ok ret := rfl
  refine ⟨deviceLines (linkedSession text network faults session).self, ?_⟩
  simp only [describe, ethtoolEtherinfoStr, linked, bind, Except.bind, returns4, returns6, nothing,
    Session.orStop_ok]
  rfl

/-- The object after its string has been made. -/
theorem describe_keeps {result : Returned String}
    (ended : describe text network faults session = .ok result) :
    Keeps text network session.self result.session.self ∧
      ((linkedSession text network faults session).self.hwaddress.isSome ->
        result.session.self.hwaddress.isSome) := by
  rcases ethtoolEtherinfoStr_queries text ended with
    ⟨listed4, listed6, returns4, returns6, _, same⟩
  have linked : Keeps text network session.self (linkedSession text network faults session).self :=
    keeps_link faithful (faults .link)
  have first := keeps_address linked.faithful _ _ returns4
  have second := first.trans (keeps_address first.faithful _ _ returns6)
  rw [same]
  exact ⟨linked.trans second, second.remembers.isSome⟩

omit faithful in
/-- If its last query leaves an exception, the string does not end
normally. -/
theorem describe_abnormal
    (raised : forall listed4 listed6,
      getEtherinfoAddress text (linkedSession text network faults session) .addr4
        (network.addressCalls (faults (.address .addr4))) = .ok listed4 ->
      getEtherinfoAddress text listed4.session .addr6
        (network.addressCalls (faults (.address .addr6))) = .ok listed6 ->
          listed6.session.pending.isSome) (shown : String -> Reading) :
    ¬ (readingOf shown (describe text network faults session)).1.Normal := by
  cases ended : describe text network faults session with
  | error stopped => exact not_false
  | ok result =>
      rcases ethtoolEtherinfoStr_queries text ended with
        ⟨listed4, listed6, returns4, returns6, _, same⟩
      apply reading_pending
      rw [same]
      exact raised listed4 listed6 returns4 returns6

theorem describe_tells (clear : session.pending = none) :
    (readingOf (fun string => .value (.str string))
        (describe text network faults session)).1.Tells
      (network.observe text session.self.device session.self.hwaddress .str)
      (forall asked, (faults asked).None) := by
  have linked : Keeps text network session.self (linkedSession text network faults session).self :=
    keeps_link faithful (faults .link)
  rcases link_query text (faults .link) faithful with
    ⟨link, found, _, cached, pending⟩ | ⟨_, pending, absent⟩
  · have exists_ (gone : network.link session.self.device = none) : False := by
      rw [found] at gone
      cases gone
    rcases address_query text (faults (.address .addr4)) .addr4 linked.faithful with
      ⟨link4, after4, found4, returns4, pending4⟩ | ⟨pending4, absent4⟩
    · have listed := keeps_address linked.faithful _ _ returns4
      have device4 : after4.self.device = session.self.device :=
        listed.remembers.device.trans linked.remembers.device
      rcases address_query text (faults (.address .addr6)) .addr6 listed.faithful with
        ⟨link6, after6, found6, returns6, pending6⟩ | ⟨pending6, absent6⟩
      · rw [linked.remembers.device, found] at found4
        rw [device4, found] at found6
        cases found4
        cases found6
        apply tells_of_eq
        simp only [Network.observe, found]
        rw [describe_answered faithful faults cached returns4 returns6]
        exact reading_clear rfl (pending6.trans (pending4.trans (pending.trans clear)))
      · refine tells_of_pending (describe_abnormal faults ?_ _) (fun none => ?_)
        · intro listed4 listed6 again4 again6
          rw [returns4] at again4
          cases again4
          exact pending6 listed6 again6
        · exact (exists_ (device4 ▸ (absent6 (none _)).1)).elim
    · refine tells_of_pending (describe_abnormal faults ?_ _) (fun none => ?_)
      · intro listed4 listed6 returns4 returns6
        have listed := keeps_address linked.faithful _ _ returns4
        exact address_pending listed.faithful (pending4 listed4 returns4) returns6
      · exact (exists_ (linked.remembers.device ▸ (absent4 (none _)).1)).elim
  · have raised : forall listed4 listed6,
        getEtherinfoAddress text (linkedSession text network faults session) .addr4
          (network.addressCalls (faults (.address .addr4))) = .ok listed4 ->
        getEtherinfoAddress text listed4.session .addr6
          (network.addressCalls (faults (.address .addr6))) = .ok listed6 ->
            listed6.session.pending.isSome := by
      intro listed4 listed6 returns4 returns6
      have listed := keeps_address linked.faithful _ _ returns4
      exact address_pending listed.faithful (address_pending linked.faithful pending returns4)
        returns6
    refine tells_of_pending (describe_abnormal faults raised _) (fun none => ?_)
    -- There is no link of this name, and each of the queries says so.
    have gone := (absent (none .link)).1
    rcases address_query text (faults (.address .addr4)) .addr4 linked.faithful with
      ⟨_, _, found4, _⟩ | ⟨_, absent4⟩
    · rw [linked.remembers.device, gone] at found4
      cases found4
    rcases (absent4 (none _)).2 with ⟨after4, returns4, _⟩
    have listed := keeps_address linked.faithful _ _ returns4
    rcases address_query text (faults (.address .addr6)) .addr6 listed.faithful with
      ⟨_, _, found6, _⟩ | ⟨_, absent6⟩
    · rw [listed.remembers.device, linked.remembers.device, gone] at found6
      cases found6
    rcases (absent6 (none _)).2 with ⟨after6, returns6, _⟩
    rcases describe_unlisted faults returns4 returns6 with ⟨ret, ended⟩
    simp only [Network.observe, gone]
    rw [ended]
    exact reading_broken rfl (raised _ _ returns4 returns6)

theorem str_tells (clear : session.pending = none) :
    ReadTells text network session .str faults
      (readAttribute text network faults session .str) where
  tells := describe_tells faithful faults clear
  keeps := by
    intro after same
    cases ended : describe text network faults session with
    | error stopped =>
        rw [describe] at ended
        rw [readAttribute, ended] at same
        cases same
    | ok result =>
        have kept := (describe_keeps faithful faults ended).1
        rw [describe] at ended
        rw [readAttribute, ended] at same
        cases same
        exact kept
  learns := by
    intro _ normal
    change (readingOf _ (describe text network faults session)).1.Normal at normal
    change ∃ after, (readingOf _ (describe text network faults session)).2 = some after ∧ _
    cases ended : describe text network faults session with
    | error stopped =>
        rw [ended] at normal
        exact normal.elim
    | ok result =>
        refine ⟨_, rfl, (describe_keeps faithful faults ended).2 ?_⟩
        rcases link_query text (faults .link) faithful with
          ⟨_, _, _, cached, _⟩ | ⟨_, pending, _⟩
        · exact Option.isSome_iff_exists.mpr ⟨_, cached⟩
        · rcases ethtoolEtherinfoStr_queries text ended with
            ⟨listed4, listed6, returns4, returns6, _, same⟩
          have linked : Keeps text network session.self
              (linkedSession text network faults session).self :=
            keeps_link faithful (faults .link)
          have listed := keeps_address linked.faithful _ _ returns4
          have raised := address_pending listed.faithful
            (address_pending linked.faithful pending returns4) returns6
          rw [ended] at normal
          exact absurd normal (reading_pending (same ▸ raised))

end Str

/-! ## Runs of the process -/

section Runs

variable {text : AddressText}

theorem readAttribute_tells {network : Network} (session : Session)
    (clear : session.pending = none) (faithful : Faithful network session.self)
    (faults : Asked -> Faults) (attr : Attribute) :
    ReadTells text network session attr faults (readAttribute text network faults session attr) := by
  cases attr with
  | device => exact device_tells clear faithful faults
  | macAddress => exact macAddress_tells clear faithful faults
  | ipv4 read => exact ipv4_tells clear faithful faults read
  | ipv6Addresses => exact ipv6_tells clear faithful faults
  | str => exact str_tells faithful faults clear

namespace Process

/-- Every living object has kept only what is right. -/
def Sound (process : Process) : Prop :=
  forall address, address ∈ process.live -> Faithful process.network (process.object address)

/-- The ways of one step. -/
theorem step_cases {process next : Process} {action : ProcessAction}
    (taken : process.step text action = some next) :
    process.crashed = false ∧
      match action with
      | .create address memory device =>
          address ∉ process.live ∧ next =
            { process with
              live := insert address process.live
              object := Function.update process.object address (newEtherInfo memory device) }
      | .read address attr faults =>
          address ∈ process.live ∧ next = process.afterRead address
            (readAttribute text process.network faults (process.session address) attr).2
      | .dealloc address =>
          address ∈ process.live ∧ next =
            { process with
              shared := (closeNetlink process.shared (process.object address)).1
              live := process.live.erase address
              object := Function.update process.object address
                (closeNetlink process.shared (process.object address)).2 }
      | .change network => next = { process with network := network } := by
  unfold step at taken
  split at taken
  · cases taken
  · rename_i running
    refine ⟨Bool.eq_false_iff.mpr running, ?_⟩
    cases action with
    | create address memory device =>
        rcases Option.map_eq_some_iff.mp taken with ⟨created, made, rfl⟩
        simp only [Module.step] at made
        split at made
        · cases made
        · rename_i unused
          cases made
          exact ⟨unused, rfl⟩
    | read address attr faults =>
        dsimp only at taken
        split at taken
        · rename_i alive
          cases taken
          exact ⟨alive, rfl⟩
        · cases taken
    | dealloc address =>
        rcases Option.map_eq_some_iff.mp taken with ⟨closed, done, rfl⟩
        simp only [Module.step] at done
        split at done
        · rename_i alive
          cases done
          exact ⟨alive, rfl⟩
        · cases done
    | change network =>
        cases taken
        rfl

theorem onlyAt_update {process next : Process} {address : Nat} {ethi : PyEtherInfo}
    (object : next.object = Function.update process.object address ethi) :
    process.OnlyAt address next := by
  intro other different
  rw [object, Function.update_of_ne different]

theorem afterRead_live (process : Process) (address : Nat) (after : Option Session) :
    (process.afterRead address after).live = process.live ∧
      (process.afterRead address after).network = process.network := by
  cases after <;> exact ⟨rfl, rfl⟩

/-- What a read does to the object, whether it ends or not. -/
theorem afterRead_keeps {process : Process} (sound : process.Sound) {address : Nat}
    (alive : address ∈ process.live) (attr : Attribute) (faults : Asked -> Faults) :
    Keeps text process.network (process.object address)
      ((process.afterRead address
        (readAttribute text process.network faults (process.session address) attr).2).object
          address) := by
  have tells := @readAttribute_tells text process.network (process.session address) rfl
    (sound address alive) faults attr
  cases after : (readAttribute text process.network faults (process.session address) attr).2 with
  | none => exact .refl (sound address alive)
  | some session =>
      have kept : Keeps text process.network (process.object address) session.self :=
        tells.keeps session after
      simpa [afterRead] using kept

theorem afterRead_onlyAt (process : Process) (address : Nat) (after : Option Session) :
    process.OnlyAt address (process.afterRead address after) := by
  cases after with
  | none => exact fun _ _ => rfl
  | some session => exact onlyAt_update rfl

theorem Sound.step {process next : Process} {action : ProcessAction}
    (taken : process.step text action = some next) (sound : process.Sound)
    (keeps : process.KeepsLinks action next) : next.Sound := by
  have cases_ := (step_cases taken).2
  cases action with
  | create address memory device =>
      rcases cases_ with ⟨_, rfl⟩
      intro other member
      by_cases same : other = address
      · rw [same]
        simpa using faithful_new memory device
      · have old := (Finset.mem_insert.mp member).resolve_left same
        simpa [same] using sound other old
  | read address attr faults =>
      rcases cases_ with ⟨alive, rfl⟩
      intro other member
      rw [(afterRead_live process address _).1] at member
      rw [(afterRead_live process address _).2]
      by_cases same : other = address
      · rw [same]
        exact (afterRead_keeps sound alive attr faults).faithful
      · rw [afterRead_onlyAt process address _ other same]
        exact sound other member
  | dealloc address =>
      rcases cases_ with ⟨_, rfl⟩
      intro other member
      rcases Finset.mem_erase.mp member with ⟨different, old⟩
      simpa [different] using sound other old
  | change network =>
      cases cases_
      intro address member
      exact (sound address member).change (keeps address member)

theorem Sound.truthful {process next : Process} {action : ProcessAction}
    (taken : process.step text action = some next) (sound : process.Sound) :
    process.Truthful text action next := by
  have cases_ := (step_cases taken).2
  cases action with
  | create address memory device =>
      rcases cases_ with ⟨_, rfl⟩
      refine ⟨?_, ?_, onlyAt_update rfl⟩
      · simp [newEtherInfo]
      · simp [newEtherInfo]
  | read address attr faults =>
      rcases cases_ with ⟨alive, rfl⟩
      have tells := @readAttribute_tells text process.network (process.session address) rfl
        (sound address alive) faults attr
      refine ⟨tells.tells, (afterRead_keeps sound alive attr faults).remembers, ?_,
        afterRead_onlyAt process address _⟩
      intro asks normal
      rcases tells.learns asks normal with ⟨after, same, present⟩
      rw [same]
      simpa [afterRead] using present
  | dealloc address =>
      rcases cases_ with ⟨_, rfl⟩
      exact onlyAt_update rfl
  | change network =>
      cases cases_
      rfl

/-- The links keep their indexes where nothing but addresses changes. -/
theorem keepsLinks_of_links {process : Process} {actions : List ProcessAction}
    (same : forall network, .change network ∈ actions ->
      forall device, (network.link device).map (fun link => link.ifindex) =
        (process.network.link device).map (fun link => link.ifindex)) :
    EachStep (step text) KeepsLinks process actions := by
  have preserved : forall (state : Process) (action : ProcessAction) (next : Process),
      state.step text action = some next ->
        (forall device, (state.network.link device).map (fun link => link.ifindex) =
          (process.network.link device).map (fun link => link.ifindex)) ->
          (forall network, action = .change network ->
            forall device, (network.link device).map (fun link => link.ifindex) =
              (process.network.link device).map (fun link => link.ifindex)) ->
              forall device, (next.network.link device).map (fun link => link.ifindex) =
                (process.network.link device).map (fun link => link.ifindex) := by
    intro state action next taken before guarded
    have cases_ := (step_cases taken).2
    cases action with
    | change network =>
        cases cases_
        exact guarded network rfl
    | create address memory device =>
        rcases cases_ with ⟨_, rfl⟩
        exact before
    | dealloc address =>
        rcases cases_ with ⟨_, rfl⟩
        exact before
    | read address attr faults =>
        rcases cases_ with ⟨_, rfl⟩
        rw [(afterRead_live state address _).2]
        exact before
  refine eachStep_of_guarded preserved ?_ (fun _ => rfl) ?_
  · intro state action next taken before guarded
    cases action with
    | change network =>
        intro address _ _
        rw [guarded network rfl, before]
    | create address memory device => trivial
    | dealloc address => trivial
    | read address attr faults => trivial
  · apply eachStep_of_forall_mem
    rintro action member network rfl
    exact same network member

end Process

end Runs

/-- Every call succeeds. -/
def Faults.none : Faults where
  opening := .success
  indexDump := Option.none
  dump := Option.none
  alloc := true
  building := fun _ => .success

/-- The link `eth0` with these addresses. -/
def eth0Network (addresses : List RtnlAddr) : Network where
  links := [eth0Link]
  addresses := addresses
  positive := by decide
  distinct := by decide

/-- The link has got another link-layer address, and an address. -/
def renumbered : Network where
  links :=
    [{ eth0Link with addr := some { family := 0, binary := [2, 0, 0, 0, 0, 1], prefixlen := 48 } }]
  addresses := [eth0Addr]
  positive := by decide
  distinct := by decide

end Netlink
end PythonEthtool
