import PythonEthtool.Netlink.Addresses

namespace PythonEthtool
namespace Netlink

open Foundations
open Python

/-!
# The queries of an etherinfo object

`etherinfo.c` answers from dumps: it opens the shared connection, looks the
index of the device up unless the object has one already, fills a cache and
walks over the records of the cache that match a filter.  The functions here
pass on the shared connection, the object and the exception that is pending
in the interpreter.  What libnl answers is an argument of each query.

A failing call sets an exception and returns early, whether another one is
pending or not, and nothing clears it.  A record that cannot be converted may
take the whole process with it, and so does an address dump that fails, after
which the query frees a cache that it was not given: the functions that meet
addresses stop with a fault then, in the session that they have come to.  The
log keeps what happened in order: it is what the properties of whole runs
speak about.
-/

/-- A link with its link-layer address, which may be missing. -/
structure LinkRecord extends RtnlLink where
  addr : Option NlAddr
  deriving DecidableEq

/-- What a query does, in order.  A query that starts notes the exception
that is pending at that moment; a lookup notes the index it finds; a filter
the index and, for addresses, the family it carries. -/
inductive QueryEvent where
  | started (pending : Option PyError)
  | opened (returned : Bool) (stderr : String)
  | lookedUp (ifindex : Option Int)
  | filter (ifindex : Int) (family : Option Int)
  | libnl (event : LibnlEvent)
  deriving DecidableEq

structure Session where
  shared : Shared
  self : PyEtherInfo
  pending : Option PyError
  log : List QueryEvent

/-- What a function returns, NULL as `none`, and the session after it. -/
structure Returned (α : Type) where
  value : Option α
  session : Session

/-- Undefined behaviour, and the session in which it is met. -/
structure Stopped where
  fault : Fault
  session : Session

/-- The function ends, and returns this value. -/
def Returns {α : Type} (outcome : Except Stopped (Returned α)) (value : α) : Prop :=
  ∃ after, outcome = .ok { value := some value, session := after }

/-- The exception of a read is handled before the next one. -/
def Returned.handled {α : Type} (result : Returned α) : Session :=
  { result.session with pending := none }

namespace Session

/-- The object as `get_interfaces_info` makes it. -/
def start (shared : Shared) (memory : PyEtherInfo) (device : CString) : Session where
  shared := shared
  self := newEtherInfo memory device
  pending := none
  log := []

def record (session : Session) (events : List QueryEvent) : Session :=
  { session with log := session.log ++ events }

def setError (session : Session) (error : PyError) : Session :=
  { session with pending := some (error.over session.pending) }

/-- What is done in this session, and may stop there. -/
def orStop {α : Type} (session : Session) (result : Except Fault α) : Except Stopped α :=
  result.mapError (fun fault => { fault := fault, session := session })

@[simp] theorem orStop_ok {α : Type} (session : Session) (value : α) :
    session.orStop (.ok value) = .ok value :=
  rfl

end Session

/-- How the calls come out that every query begins with. -/
structure OpeningCalls where
  opening : LibnlOutcome
  indexCache : Except String (List RtnlLink)

structure LinkCalls extends OpeningCalls where
  linkCache : Except String (List LinkRecord)
  linkAlloc : Bool

/-- The records of the dump come with the outcomes of the calls that each of
them takes. -/
structure AddressCalls extends OpeningCalls where
  addrCache : Except String (List (RtnlAddr × Building))
  addrAlloc : Bool

/-- The bytes of a device name are the UTF-8 of a Python string. -/
def deviceText (device : CString) : String :=
  (String.fromUTF8? ⟨device.bytes.toArray⟩).getD ""

def openFailed (device : CString) : PyError :=
  ⟨.runtimeError, .text ("Could not open a NETLINK connection for " ++ deviceText device)⟩

/-- The lookup by name that `_set_device_index` makes, if it gets to it. -/
def lookupEvents (self : PyEtherInfo) (indexCache : Except String (List RtnlLink)) :
    List QueryEvent :=
  if self.index < 0 then
    match indexCache with
    | .error _ => []
    | .ok links => [.lookedUp ((rtnlLinkGetByName links self.device).map RtnlLink.ifindex)]
  else []

/-- The two calls at the start of both queries. -/
def openAndSetIndex (session : Session) (calls : OpeningCalls) : Bool × Session :=
  let opened := openNetlink session.shared session.self calls.opening
  let connected :=
    { session.record [.started session.pending, .opened opened.returned opened.stderr] with
      shared := opened.shared
      self := opened.ethi }
  if opened.returned then
    let set := setDeviceIndex opened.ethi calls.indexCache
    (set.returned,
      { connected.record
          (lookupEvents opened.ethi calls.indexCache ++ set.events.map QueryEvent.libnl) with
        self := set.self
        pending := (set.pending.map (fun error => error.over session.pending)).or session.pending })
  else (false, connected.setError (openFailed session.self.device))

/-- The callback is called in order for each record that matches the filter. -/
def nlCacheForeachFilter {m : Type -> Type} [Monad m] {Entry State : Type} (cache : List Entry)
    (filter : Entry -> Bool) (callback : State -> Entry -> m State) (arg : State) : m State :=
  (cache.filter filter).foldlM callback arg

/-! ## The link -/

/-- `sizeof(hwaddr)`. -/
def sizeofHwaddr : Nat :=
  130

def callbackNlLink (text : AddressText) (ethi : PyEtherInfo) (link : LinkRecord) :
    Id PyEtherInfo :=
  match ethi.hwaddress with
  | some _ => ethi
  | none => { ethi with hwaddress := some (text.nlAddr2str link.addr sizeofHwaddr) }

def getEtherinfoLink (text : AddressText) (session : Session) (calls : LinkCalls) :
    Bool × Session :=
  let entered := openAndSetIndex session calls.toOpeningCalls
  if entered.1 then
    match calls.linkCache with
    | .error error => (false, entered.2.setError ⟨.osError, .text error⟩)
    | .ok links =>
        if calls.linkAlloc then
          let index := entered.2.self.index
          (true,
            { entered.2.record
                [.libnl (.acquired .cache), .libnl (.acquired .link), .filter index none,
                  .libnl (.released .link), .libnl (.released .cache)] with
              self :=
                (nlCacheForeachFilter links (fun link => link.ifindex = index)
                  (callbackNlLink text) entered.2.self).run })
        else
          -- The cache is not freed on this return.
          (false,
            (entered.2.record [.libnl (.acquired .cache)]).setError ⟨.osError, .errno ENOMEM⟩)
  else (false, entered.2)

/-! ## The addresses -/

inductive NlQuery where
  | addr4
  | addr6
  deriving DecidableEq

def NlQuery.family : NlQuery -> Int
  | .addr4 => AF_INET
  | .addr6 => AF_INET6

/-- The list that the callback is given, and the pending exception. -/
structure Walk where
  addrlist : List PyNetlinkIPaddress
  pending : Option PyError

/-- A record without an object is skipped, and its exception stays. -/
def callbackNlAddress (text : AddressText) (walk : Walk) (record : RtnlAddr × Building) :
    Except Fault Walk :=
  if record.1.family ≠ AF_INET ∧ record.1.family ≠ AF_INET6 then .ok walk
  else do
    let made ← makePythonAddressFromRtnlAddr text record.1 record.2 walk.pending
    match made.object with
    | none => return { walk with pending := made.pending }
    | some object =>
        return { addrlist := walk.addrlist ++ [object], pending := made.pending }

def getEtherinfoAddress (text : AddressText) (session : Session) (query : NlQuery)
    (calls : AddressCalls) : Except Stopped (Returned (List PyNetlinkIPaddress)) :=
  let entered := openAndSetIndex session calls.toOpeningCalls
  if entered.1 then
    match calls.addrCache with
    | .error error =>
        -- The variable that is freed here is set by a successful dump only.
        .error
          { fault := .unfilledCache
            session :=
              (entered.2.setError ⟨.osError, .text error⟩).record [.libnl (.released .cache)] }
    | .ok records =>
        if calls.addrAlloc then do
          let index := entered.2.self.index
          let walking := entered.2.record
            [.libnl (.acquired .cache), .libnl (.acquired .addr),
              .filter index (some query.family)]
          let walked ← walking.orStop
            (nlCacheForeachFilter records
              (fun record => record.1.ifindex = index ∧ record.1.family = query.family)
              (callbackNlAddress text) { addrlist := [], pending := entered.2.pending })
          return {
            value := some walked.addrlist
            session :=
              { walking.record [.libnl (.released .addr), .libnl (.released .cache)] with
                pending := walked.pending } }
        else
          -- Nor is the cache freed on this return.
          .ok
            { value := none
              session :=
                (entered.2.record [.libnl (.acquired .cache)]).setError
                  ⟨.osError, .errno ENOMEM⟩ }
  else .ok { value := none, session := entered.2 }

/-! ## Attributes, methods and the string -/

def getMacAddr (text : AddressText) (session : Session) (calls : LinkCalls) : Returned String :=
  let queried := (getEtherinfoLink text session calls).2
  { value := queried.self.hwaddress, session := queried }

def getIpv4Addresses (text : AddressText) (session : Session) (calls : AddressCalls) :
    Except Stopped (Returned (List PyNetlinkIPaddress)) :=
  getEtherinfoAddress text session .addr4 calls

def getIpv6Addresses (text : AddressText) (session : Session) (calls : AddressCalls) :
    Except Stopped (Returned (List PyNetlinkIPaddress)) :=
  getEtherinfoAddress text session .addr6 calls

def getLastIpv4Address (addrlist : Option (List PyNetlinkIPaddress)) :
    Option PyNetlinkIPaddress :=
  addrlist.bind List.getLast?

/-- The end of the three getters: NULL while an exception is pending, else
the default. -/
def unlessPending (session : Session) (value : PyValue) : Option PyValue :=
  if session.pending.isSome then none else some value

/-- The body of the three getters: what is taken from the last address, and
what is returned where there is nothing to take. -/
def lastIpv4 (field : PyNetlinkIPaddress -> Option PyValue) (absent : PyValue)
    (listed : Returned (List PyNetlinkIPaddress)) : Returned PyValue :=
  match (getLastIpv4Address listed.value).bind field with
  | some value => { value := some value, session := listed.session }
  | none => { value := unlessPending listed.session absent, session := listed.session }

def getIpv4Addr (text : AddressText) (session : Session) (calls : AddressCalls) :
    Except Stopped (Returned PyValue) :=
  (getEtherinfoAddress text session .addr4 calls).map
    (lastIpv4 (fun address => some (.str address.local_)) .none)

def getIpv4Mask (text : AddressText) (session : Session) (calls : AddressCalls) :
    Except Stopped (Returned PyValue) :=
  (getEtherinfoAddress text session .addr4 calls).map
    (lastIpv4 (fun address => some (.int address.prefixlen)) (.int 0))

def getIpv4Bcast (text : AddressText) (session : Session) (calls : AddressCalls) :
    Except Stopped (Returned PyValue) :=
  (getEtherinfoAddress text session .addr4 calls).map
    (lastIpv4 (fun address => address.ipv4Broadcast.map PyValue.str) (.str "0.0.0.0"))

/-- The reference goes into a format, which follows it. -/
def formatted (field : Reference) : Option String -> Except Fault String
  | some text => .ok text
  | none => .error (.null field)

def ipv4Line (address : PyNetlinkIPaddress) : Except Fault String :=
  .ok
    ("\tIPv4 address: " ++ address.local_ ++ "/" ++ toString address.prefixlen ++
      match address.ipv4Broadcast with
      | some broadcast => "\tBroadcast: " ++ broadcast ++ "\n"
      | none => "\n")

def ipv6Line (address : PyNetlinkIPaddress) : Except Fault String := do
  let scope ← formatted .scope address.scope
  return "\tIPv6 address: [" ++ scope ++ "] " ++ address.local_ ++ "/" ++
    toString address.prefixlen ++ "\n"

/-- The loop that appends the lines of a list, if the query returned one. -/
def appendLines (line : PyNetlinkIPaddress -> Except Fault String) (ret : String)
    (listed : Option (List PyNetlinkIPaddress)) : Except Fault String :=
  (listed.getD []).foldlM (fun ret address => do return ret ++ (← line address)) ret

/-- The lines before the addresses. -/
def deviceLines (ethi : PyEtherInfo) : String :=
  "Device " ++ deviceText ethi.device ++ ":\n" ++
    match ethi.hwaddress with
    | some hwaddress => "\tMAC address: " ++ hwaddress ++ "\n"
    | none => ""

/-- The string is made of what the three queries left, whether they failed
or not. -/
def ethtoolEtherinfoStr (text : AddressText) (session : Session) (link : LinkCalls)
    (ipv4 ipv6 : AddressCalls) : Except Stopped (Returned String) := do
  let linked := (getEtherinfoLink text session link).2
  let ipv4addrs ← getEtherinfoAddress text linked .addr4 ipv4
  let ret ← ipv4addrs.session.orStop
    (appendLines ipv4Line (deviceLines linked.self) ipv4addrs.value)
  let ipv6addrs ← getEtherinfoAddress text ipv4addrs.session .addr6 ipv6
  let ret ← ipv6addrs.session.orStop (appendLines ipv6Line ret ipv6addrs.value)
  return { value := some ret, session := ipv6addrs.session }

/-! ## Values for the concrete runs -/

/-- The texts of IPv4 addresses, of link-layer addresses and of the global
scope. -/
def plainText : AddressText where
  inetNtop := fun _ binary => ".".intercalate (binary.map (fun byte => toString byte.toNat))
  nlAddr2str := fun addr _ =>
    match addr with
    | none => "none"
    | some addr => ":".intercalate (addr.binary.map hexByte)
  rtnlScope2str := fun _ => "global"

/-- The link `eth0` with a link-layer address. -/
def eth0Link : LinkRecord where
  name := eth0
  ifindex := 2
  addr := some { family := 0, binary := [2, 66, 172, 17, 0, 2], prefixlen := 48 }

/-- The address 10.0.0.1/24 of the link. -/
def eth0Addr : RtnlAddr where
  ifindex := 2
  family := AF_INET
  local_ := { family := AF_INET, binary := [10, 0, 0, 1], prefixlen := 24 }
  peer := none
  prefixlen := 24
  broadcast := some { family := AF_INET, binary := [10, 0, 0, 255], prefixlen := 32 }
  scope := 0

/-- The address fe80::1/64 of the same link, with a peer. -/
def eth0Addr6 : RtnlAddr where
  ifindex := 2
  family := AF_INET6
  local_ := { family := AF_INET6, binary := [254, 128, 0, 1], prefixlen := 128 }
  peer := some { family := AF_INET6, binary := [254, 128, 0, 2], prefixlen := 128 }
  prefixlen := 64
  broadcast := none
  scope := 253

/-- A fresh object for `eth0`, before the first connection. -/
def Session.fresh : Session :=
  .start { nlconnection := none, nlconnectionUsers := 0 } .cleared eth0

/-- The calls succeed, and the dumps hold these records. -/
def LinkCalls.dump (links : List LinkRecord) : LinkCalls where
  opening := .success
  indexCache := .ok (links.map LinkRecord.toRtnlLink)
  linkCache := .ok links
  linkAlloc := true

def AddressCalls.dump (records : List (RtnlAddr × Building)) : AddressCalls where
  opening := .success
  indexCache := .ok [eth0Link.toRtnlLink]
  addrCache := .ok records
  addrAlloc := true

end Netlink
end PythonEthtool
