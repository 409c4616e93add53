import PythonEthtool.Foundations.Holding
import PythonEthtool.Netlink.Objects

namespace PythonEthtool
namespace Netlink

open Foundations
open Foundations.Program
open Python

/-!
# The references of etherinfo objects

A reference that a function of the extension has got belongs to it until it
is dropped, stored or returned.  Here the functions behind the attributes are
their statements in order, down to the callbacks of the two walks and the
constructor of address objects, and each call of the interpreter says which
references it gives and which it takes.  `PyStr_Concat` gives a new reference
and drops neither of its arguments, and a list of addresses is not dropped by
the functions that look only at its last element.

A list holds its address objects and these hold their strings: such a
reference has been given away as soon as it is in the object.  An object that
is created keeps its strings until it is deallocated.

The calls that `Faults` does not name are taken to succeed, which are those
that make the strings of `_ethtool_etherinfo_str`, lists and numbers, and
`PyList_Append`.  Over a whole run that meets no fault the references
outstanding are those that the living objects store, and a number that grows
with each read that leaves some behind.  The number is exact.
-/

/-! ## Calls of the interpreter -/

/-- What a reference is to. -/
inductive Owned where
  | value (value : PyValue)
  | list
  | address
  deriving DecidableEq

def Owned.str (text : String) : Owned :=
  .value (.str text)

/-- What a function returns unless it is NULL. -/
inductive Answer where
  | value (value : PyValue)
  | list (addresses : List PyNetlinkIPaddress)

/-- The reference that the caller gets. -/
def Answer.owned : Answer -> Owned
  | .value object => .value object
  | .list _ => .list

def Answer.shown : Answer -> Reading
  | .value object => .value object
  | .list addresses => .list addresses

/-- A function, which ends with a value or NULL, or with a fault. -/
abbrev Method (Value : Type) :=
  Program Session (Movement Owned) Fault Value

def pyStrFromFormat (text : String) : Method String := do
  acquire (.str text)
  pure text

def pyStrConcat (left right : String) : Method String :=
  pyStrFromFormat (left ++ right)

/-- The list takes a reference of its own. -/
def pyListAppend (addrlist : List PyNetlinkIPaddress) (object : PyNetlinkIPaddress) :
    Method (List PyNetlinkIPaddress) := do
  acquire .address
  release .address
  pure (addrlist ++ [object])

/-- A new reference for the caller, be it to a new value or by `Py_INCREF`. -/
def returnNew (value : PyValue) : Method (Option Answer) := do
  acquire (.value value)
  pure (some (.value value))

/-! ## The link query -/

section Functions

variable (text : AddressText)

/-- No reference moves at the start of a query. -/
def openingSteps (calls : OpeningCalls) : Method Bool := do
  let entered ← read (fun session => openAndSetIndex session calls)
  change (fun _ => entered.2)
  pure entered.1

def callbackNlLinkSteps (link : LinkRecord) : Method Unit := do
  let hwaddress ← read (fun session => session.self.hwaddress)
  match hwaddress with
  | some _ => pure ()
  | none => do
      let hwaddress ← pyStrFromFormat (text.nlAddr2str link.addr sizeofHwaddr)
      change (fun session =>
        { session with self := { session.self with hwaddress := some hwaddress } })

def linkWalkSteps (links : List LinkRecord) : Method Unit := do
  let index ← read (fun session => session.self.index)
  change (fun session =>
    session.record
      [.libnl (.acquired .cache), .libnl (.acquired .link), .filter index none])
  nlCacheForeachFilter links (fun link => link.ifindex = index)
    (fun _ link => callbackNlLinkSteps text link) ()
  change (fun session =>
    session.record [.libnl (.released .link), .libnl (.released .cache)])

def linkDumpSteps (calls : LinkCalls) : Method Unit :=
  match calls.linkCache with
  | .error error => change (fun session => session.setError ⟨.osError, .text error⟩)
  | .ok links =>
      if calls.linkAlloc then linkWalkSteps text links
      else
        change (fun session =>
          (session.record [.libnl (.acquired .cache)]).setError ⟨.osError, .errno ENOMEM⟩)

/-- `get_etherinfo_link`, whose result nobody looks at. -/
def linkSteps (calls : LinkCalls) : Method Unit := do
  let entered ← openingSteps calls.toOpeningCalls
  if entered then linkDumpSteps text calls else pure ()

/-! ## The constructor of address objects -/

/-- A string that is made for a field of the object and goes with it. -/
def storeString (text : String) : Method Unit := do
  acquire (.str text)
  release (.str text)

/-- One statement, with the field that gets its string. -/
def statementSteps (statement : Stage Constructing × Option Reference) (state : Constructing) :
    Method (Except Constructing Constructing) := do
  let ended := statement.1 state
  let string := (statement.2.bind (fun field => (reached ended).memory.read field)).join
  forEach string.toList storeString
  pure ended

/-- The statements up to the first jump. -/
def statementsSteps : List (Stage Constructing × Option Reference) -> Constructing ->
    Method (Except Constructing Constructing)
  | [], state => pure (.ok state)
  | statement :: statements, state => do
      let ended ← statementSteps statement state
      match ended with
      | .ok next => statementsSteps statements next
      | .error stopped => pure (.error stopped)

variable (addr : RtnlAddr) (building : Building)

/-- The statements of the constructor and the fields that get a string. -/
def constructionFields : List (Stage Constructing × Option Reference) :=
  (construction text addr building).zip
    [none, some .local_, some .peer, none, some .ipv4Broadcast, some .scope]

/-- The label drops the object.  What it holds goes with it. -/
def pyNetlinkIPaddressSteps : Method (Option PyNetlinkIPaddress) :=
  if building.newObject then do
    acquire .address
    let pending ← read (fun session => session.pending)
    let ended ← statementsSteps (constructionFields text addr building)
      { memory := .allocated, pending := pending }
    match ended with
    | .ok built => do
        change (fun session => { session with pending := built.pending })
        pure built.memory.made?
    | .error stopped => do
        change (fun session => { session with pending := stopped.pending })
        let _ ← ofExcept (netlinkIpAddressDealloc stopped.memory.read)
        release .address
        pure none
  else do
    change (fun session => { session with pending := some noMemory })
    pure none

def makePythonAddressSteps : Method (Option PyNetlinkIPaddress) :=
  if addr.family = AF_INET ∨ addr.family = AF_INET6 then
    pyNetlinkIPaddressSteps text addr building
  else do
    change (fun session => session.setError ⟨.runtimeError, .errno building.errno⟩)
    pure none

/-! ## The address query -/

/-- The list refers to the object, and the callback drops its own reference. -/
def callbackNlAddressSteps (addrlist : List PyNetlinkIPaddress)
    (record : RtnlAddr × Building) : Method (List PyNetlinkIPaddress) :=
  if record.1.family ≠ AF_INET ∧ record.1.family ≠ AF_INET6 then pure addrlist
  else do
    let made ← makePythonAddressSteps text record.1 record.2
    match made with
    | none => pure addrlist
    | some object => do
        let addrlist ← pyListAppend addrlist object
        release .address
        pure addrlist

def addressWalkSteps (query : NlQuery) (records : List (RtnlAddr × Building)) :
    Method (Option (List PyNetlinkIPaddress)) := do
  let index ← read (fun session => session.self.index)
  change (fun session =>
    session.record
      [.libnl (.acquired .cache), .libnl (.acquired .addr), .filter index (some query.family)])
  acquire .list
  let addrlist ← nlCacheForeachFilter records
    (fun record => record.1.ifindex = index ∧ record.1.family = query.family)
    (callbackNlAddressSteps text) []
  change (fun session =>
    session.record [.libnl (.released .addr), .libnl (.released .cache)])
  pure (some addrlist)

def addressDumpSteps (query : NlQuery) (calls : AddressCalls) :
    Method (Option (List PyNetlinkIPaddress)) :=
  match calls.addrCache with
  | .error error => do
      change (fun session =>
        (session.setError ⟨.osError, .text error⟩).record [.libnl (.released .cache)])
      raise .unfilledCache
  | .ok records =>
      if calls.addrAlloc then addressWalkSteps text query records
      else do
        change (fun session =>
          (session.record [.libnl (.acquired .cache)]).setError ⟨.osError, .errno ENOMEM⟩)
        pure none

/-- `get_etherinfo_address`. -/
def addressSteps (query : NlQuery) (calls : AddressCalls) :
    Method (Option (List PyNetlinkIPaddress)) := do
  let entered ← openingSteps calls.toOpeningCalls
  if entered then addressDumpSteps text query calls else pure none

/-! ## The attributes -/

def deviceSteps : Method (Option Answer) := do
  let device ← read (fun session => deviceText session.self.device)
  returnNew (.str device)

def macAddrSteps (calls : LinkCalls) : Method (Option Answer) := do
  linkSteps text calls
  let hwaddress ← read (fun session => session.self.hwaddress)
  match hwaddress with
  | none => pure none
  | some hwaddress => returnNew (.str hwaddress)

def addressesSteps (query : NlQuery) (calls : AddressCalls) : Method (Option Answer) := do
  let addrlist ← addressSteps text query calls
  pure (addrlist.map Answer.list)

/-- The end of the three getters. -/
def unlessPendingSteps (value : PyValue) : Method (Option Answer) := do
  let pending ← read (fun session => session.pending.isSome)
  if pending then pure none else returnNew value

def lastField (field : PyNetlinkIPaddress -> Option PyValue) (absent : PyValue)
    (addrlist : Option (List PyNetlinkIPaddress)) : Method (Option Answer) :=
  match (getLastIpv4Address addrlist).bind field with
  | some value => returnNew value
  | none => unlessPendingSteps absent

/-- The three getters for the last address, with what each of them takes from
it and what it returns where there is nothing.  The list stays. -/
def lastIpv4Steps (calls : AddressCalls) (field : PyNetlinkIPaddress -> Option PyValue)
    (absent : PyValue) : Method (Option Answer) := do
  let addrlist ← addressSteps text .addr4 calls
  lastField field absent addrlist

def ipv4AddrSteps (calls : AddressCalls) : Method (Option Answer) :=
  lastIpv4Steps text calls (fun address => some (.str address.local_)) .none

def ipv4MaskSteps (calls : AddressCalls) : Method (Option Answer) :=
  lastIpv4Steps text calls (fun address => some (.int address.prefixlen)) (.int 0)

def ipv4BcastSteps (calls : AddressCalls) : Method (Option Answer) :=
  lastIpv4Steps text calls (fun address => address.ipv4Broadcast.map PyValue.str)
    (.str "0.0.0.0")

end Functions

/-! ## The string -/

def ipv4Ending : Option String -> String
  | some broadcast => "\tBroadcast: " ++ broadcast ++ "\n"
  | none => "\n"

def ipv4LineSteps (address : PyNetlinkIPaddress) : Method String := do
  let tmp ← pyStrFromFormat "\tIPv4 address: "
  let tmp ← pyStrConcat tmp address.local_
  let netmask ← pyStrFromFormat ("/" ++ toString address.prefixlen)
  let tmp ← pyStrConcat tmp netmask
  let ending ← pyStrFromFormat (ipv4Ending address.ipv4Broadcast)
  pyStrConcat tmp ending

def ipv6LineSteps (address : PyNetlinkIPaddress) : Method String := do
  let scope ← ofExcept (formatted .scope address.scope)
  pyStrFromFormat
    ("\tIPv6 address: [" ++ scope ++ "] " ++ address.local_ ++ "/" ++
      toString address.prefixlen ++ "\n")

/-- The loop over a list of addresses. -/
def appendLinesSteps (line : PyNetlinkIPaddress -> Method String) (ret : String) :
    List PyNetlinkIPaddress -> Method String
  | [] => pure ret
  | address :: rest => do
      let tmp ← line address
      let ret ← pyStrConcat ret tmp
      appendLinesSteps line ret rest

def appendHwaddress (ret : String) : Option String -> Method String
  | none => pure ret
  | some hwaddress => do
      let line ← pyStrFromFormat ("\tMAC address: " ++ hwaddress ++ "\n")
      pyStrConcat ret line

/-- Neither list is dropped. -/
def strSteps (text : AddressText) (link : LinkCalls) (ipv4 ipv6 : AddressCalls) :
    Method (Option Answer) := do
  linkSteps text link
  let self ← read (fun session => session.self)
  let ret ← pyStrFromFormat ("Device " ++ deviceText self.device ++ ":\n")
  let ret ← appendHwaddress ret self.hwaddress
  let ipv4addrs ← addressSteps text .addr4 ipv4
  let ret ← appendLinesSteps ipv4LineSteps ret (ipv4addrs.getD [])
  let ipv6addrs ← addressSteps text .addr6 ipv6
  let ret ← appendLinesSteps ipv6LineSteps ret (ipv6addrs.getD [])
  pure (some (.value (.str ret)))

/-- The function behind a read. -/
def attributeSteps (text : AddressText) (network : Network) (faults : Asked -> Faults) :
    Attribute -> Method (Option Answer)
  | .device => deviceSteps
  | .macAddress => macAddrSteps text (network.linkCalls (faults .link))
  | .ipv4 .addresses =>
      addressesSteps text .addr4 (network.addressCalls (faults (.address .addr4)))
  | .ipv4 .address => ipv4AddrSteps text (network.addressCalls (faults (.address .addr4)))
  | .ipv4 .netmask => ipv4MaskSteps text (network.addressCalls (faults (.address .addr4)))
  | .ipv4 .broadcast => ipv4BcastSteps text (network.addressCalls (faults (.address .addr4)))
  | .ipv6Addresses =>
      addressesSteps text .addr6 (network.addressCalls (faults (.address .addr6)))
  | .str =>
      strSteps text (network.linkCalls (faults .link))
        (network.addressCalls (faults (.address .addr4)))
        (network.addressCalls (faults (.address .addr6)))

/-! ## What the queries move -/

/-- The references that an object stores. -/
def stored (ethi : PyEtherInfo) : Multiset Owned :=
  .str (deviceText ethi.device) ::ₘ ((ethi.hwaddress.map Owned.str).toList : Multiset Owned)

section Queries

variable (text : AddressText) {session : Session} {held : Multiset Owned}

theorem settles_openingSteps (calls : OpeningCalls) :
    Settles (openingSteps calls) session held (openAndSetIndex session calls).1
      (openAndSetIndex session calls).2 held :=
  settles_bind (settles_read _) (settles_bind (settles_change _) (settles_pure _))

theorem settles_pyStrFromFormat (string : String) :
    Settles (pyStrFromFormat string) session held string session (.str string ::ₘ held) :=
  settles_bind (settles_acquire _) (settles_pure _)

theorem settles_returnNew (value : PyValue) :
    Settles (returnNew value) session held (some (.value value)) session
      (.value value ::ₘ held) :=
  settles_bind (settles_acquire _) (settles_pure _)

/-- The string of the callback is stored. -/
theorem settles_callbackNlLinkSteps (link : LinkRecord) :
    Settles (callbackNlLinkSteps text link) session (stored session.self) ()
      { session with self := (callbackNlLink text session.self link).run }
      (stored (callbackNlLink text session.self link).run) := by
  refine settles_bind (settles_read _) ?_
  unfold callbackNlLink
  cases cached : session.self.hwaddress with
  | some hwaddress => exact settles_pure ()
  | none =>
      refine settles_bind (settles_pyStrFromFormat _) ?_
      have moved : Owned.str (text.nlAddr2str link.addr sizeofHwaddr) ::ₘ stored session.self =
          stored { session.self with
            hwaddress := some (text.nlAddr2str link.addr sizeofHwaddr) } := by
        rw [stored, stored, cached, Multiset.cons_swap]
        rfl
      rw [moved]
      exact settles_change _

theorem settles_linkWalk (links : List LinkRecord) :
    Settles (links.foldlM (fun _ link => callbackNlLinkSteps text link) ()) session
      (stored session.self) ()
      { session with self := (links.foldlM (callbackNlLink text) session.self).run }
      (stored (links.foldlM (callbackNlLink text) session.self).run) := by
  induction links generalizing session with
  | nil => exact settles_pure ()
  | cons link links ih =>
      rw [List.foldlM_cons, List.foldlM_cons]
      exact settles_bind (settles_callbackNlLinkSteps text link) ih

theorem settles_linkWalkSteps (links : List LinkRecord) :
    Settles (linkWalkSteps text links) session (stored session.self) ()
      { session.record
          [.libnl (.acquired .cache), .libnl (.acquired .link),
            .filter session.self.index none, .libnl (.released .link),
            .libnl (.released .cache)] with
        self :=
          (nlCacheForeachFilter links (fun link => link.ifindex = session.self.index)
            (callbackNlLink text) session.self).run }
      (stored (nlCacheForeachFilter links (fun link => link.ifindex = session.self.index)
        (callbackNlLink text) session.self).run) := by
  refine settles_bind (settles_read _) (settles_bind (settles_change _)
    (settles_bind (settles_linkWalk text _) ?_))
  have both : session.log ++ [.libnl (.acquired .cache), .libnl (.acquired .link),
        .filter session.self.index none] ++ [.libnl (.released .link), .libnl (.released .cache)] =
      session.log ++ [.libnl (.acquired .cache), .libnl (.acquired .link),
        .filter session.self.index none, .libnl (.released .link), .libnl (.released .cache)] :=
    List.append_assoc _ _ _
  unfold Session.record
  dsimp only
  rw [← both]
  exact settles_change _

theorem openAndSetIndex_stored (session : Session) (calls : OpeningCalls) :
    stored (openAndSetIndex session calls).2.self = stored session.self := by
  have kept := openAndSetIndex_device session calls
  rw [stored, stored, kept.1, kept.2]

/-- What the link query acquires is stored. -/
theorem settles_linkSteps (calls : LinkCalls) :
    Settles (linkSteps text calls) session (stored session.self) ()
      (getEtherinfoLink text session calls).2
      (stored (getEtherinfoLink text session calls).2.self) := by
  refine settles_bind (settles_openingSteps calls.toOpeningCalls) ?_
  rw [← openAndSetIndex_stored session calls.toOpeningCalls]
  unfold getEtherinfoLink
  dsimp only
  cases (openAndSetIndex session calls.toOpeningCalls).1 with
  | false => exact settles_pure ()
  | true =>
      simp only [if_true, linkDumpSteps]
      cases calls.linkCache with
      | error error => exact settles_change _
      | ok links =>
          cases calls.linkAlloc with
          | false => exact settles_change _
          | true =>
              exact settles_linkWalkSteps text links

/-- What a statement makes has gone with the object. -/
theorem settles_statementSteps (statement : Stage Constructing × Option Reference)
    (state : Constructing) :
    Settles (statementSteps statement state) session held (statement.1 state) session held := by
  have storing : forall string : Option String,
      Settles (forEach string.toList storeString : Method Unit) session held () session held := by
    intro string
    cases string with
    | none => exact settles_pure ()
    | some string =>
        exact settles_bind (settles_bind (settles_acquire _) (settles_release _)) (settles_pure ())
  exact settles_bind (storing _) (settles_pure _)

theorem settles_statementsSteps (statements : List (Stage Constructing × Option Reference))
    (state : Constructing) :
    Settles (statementsSteps statements state) session held
      (runStages (statements.map Prod.fst) state) session held := by
  induction statements generalizing state with
  | nil => exact settles_pure _
  | cons statement statements ih =>
      refine settles_bind (settles_statementSteps statement state) ?_
      rw [List.map_cons, runStages]
      cases statement.1 state with
      | error stopped => exact settles_pure _
      | ok next => exact ih next

variable (addr : RtnlAddr) (building : Building)

theorem constructionFields_fst :
    (constructionFields text addr building).map Prod.fst = construction text addr building :=
  rfl

/-- The reference that comes with what is returned, unless it is NULL. -/
def refTo {Value : Type} (owned : Owned) (returned : Option Value) : Multiset Owned :=
  ((returned.map (fun _ => owned)).toList : Multiset Owned)

theorem refTo_none {Value : Type} (owned : Owned) (held : Multiset Owned) :
    refTo owned (none : Option Value) + held = held :=
  zero_add held

theorem settles_null {Value : Type} (owned : Owned) :
    Settles (pure none : Method (Option Value)) session held none session
      (refTo owned (none : Option Value) + held) := by
  rw [refTo_none]
  exact settles_pure none

/-- The constructor gives the object, or has dropped it at its label. -/
theorem settles_pyNetlinkIPaddressSteps {made : Made}
    (returns : (pyNetlinkIPaddressFromRtnlAddr text addr building session.pending).outcome =
      .ok made) :
    Settles (pyNetlinkIPaddressSteps text addr building) session held made.object
      { session with pending := made.pending } (refTo .address made.object + held) := by
  unfold pyNetlinkIPaddressFromRtnlAddr at returns
  unfold pyNetlinkIPaddressSteps
  cases allocated : building.newObject with
  | false =>
      rw [allocated, if_neg Bool.false_ne_true] at returns
      cases returns
      rw [if_neg Bool.false_ne_true]
      exact settles_bind (settles_change _) (settles_null _)
  | true =>
      rw [if_pos allocated] at returns
      rw [if_pos rfl]
      have statements := @settles_statementsSteps session (.address ::ₘ held)
        (constructionFields text addr building)
        { memory := .allocated, pending := session.pending }
      rw [constructionFields_fst] at statements
      refine settles_bind (settles_acquire _) (settles_bind (settles_read _)
        (settles_bind statements ?_))
      cases ended : runStages (construction text addr building)
          { memory := .allocated, pending := session.pending } with
      | ok built =>
          rw [ended] at returns
          rcases (construction_ok_iff text addr building session.pending).mp ended with
            ⟨_, whole⟩
          cases returns
          refine settles_bind (settles_change _) ?_
          rw [whole]
          exact settles_pure _
      | error stopped =>
          rw [ended] at returns
          rcases except_bind_eq_ok returns with ⟨strings, dropped, rest⟩
          cases rest
          exact settles_bind (settles_change _) (settles_bind (settles_ofExcept dropped)
            (settles_bind (settles_release _) (settles_null _)))

theorem settles_makePythonAddressSteps {made : Made}
    (returns : makePythonAddressFromRtnlAddr text addr building session.pending = .ok made) :
    Settles (makePythonAddressSteps text addr building) session held made.object
      { session with pending := made.pending } (refTo .address made.object + held) := by
  unfold makePythonAddressFromRtnlAddr at returns
  unfold makePythonAddressSteps
  split at returns
  · rename_i supported
    rw [if_pos supported]
    exact settles_pyNetlinkIPaddressSteps text addr building returns
  · rename_i other
    rw [if_neg other]
    cases returns
    exact settles_bind (settles_change _) (settles_null _)

theorem settles_pyListAppend (addrlist : List PyNetlinkIPaddress) (object : PyNetlinkIPaddress) :
    Settles (pyListAppend addrlist object) session held (addrlist ++ [object]) session held :=
  settles_bind (settles_acquire _) (settles_bind (settles_release _) (settles_pure _))

/-- The callback keeps no reference: the object is in the list. -/
theorem settles_callbackNlAddressSteps {addrlist : List PyNetlinkIPaddress}
    {record : RtnlAddr × Building} {next : Walk}
    (called : callbackNlAddress text { addrlist := addrlist, pending := session.pending } record =
      .ok next) :
    Settles (callbackNlAddressSteps text addrlist record) session held next.addrlist
      { session with pending := next.pending } held := by
  unfold callbackNlAddress at called
  unfold callbackNlAddressSteps
  split at called
  · rename_i unknown
    rw [if_pos unknown]
    cases called
    exact settles_pure _
  · rename_i known
    rw [if_neg known]
    rcases except_bind_eq_ok called with ⟨made, returns, called⟩
    refine settles_bind (settles_makePythonAddressSteps text _ _ returns) ?_
    cases converted : made.object with
    | none =>
        simp only [converted] at called
        cases called
        rw [refTo_none]
        exact settles_pure addrlist
    | some object =>
        simp only [converted] at called
        cases called
        refine settles_bind (settles_pyListAppend addrlist object) ?_
        exact settles_bind (settles_release Owned.address) (settles_pure _)

theorem settles_addressWalk {addrlist : List PyNetlinkIPaddress}
    {records : List (RtnlAddr × Building)} {last : Walk}
    (walked : records.foldlM (callbackNlAddress text)
      { addrlist := addrlist, pending := session.pending } = .ok last) :
    Settles (records.foldlM (callbackNlAddressSteps text) addrlist) session held last.addrlist
      { session with pending := last.pending } held := by
  induction records generalizing session addrlist with
  | nil =>
      cases walked
      exact settles_pure _
  | cons record records ih =>
      rw [List.foldlM_cons] at walked ⊢
      rcases except_bind_eq_ok walked with ⟨next, called, rest⟩
      refine settles_bind (settles_callbackNlAddressSteps text called) ?_
      apply ih
      exact rest

/-- An address query gives the list, if there is one. -/
theorem settles_addressSteps {query : NlQuery} {calls : AddressCalls}
    {result : Returned (List PyNetlinkIPaddress)}
    (returns : getEtherinfoAddress text session query calls = .ok result) :
    Settles (addressSteps text query calls) session held result.value result.session
      (refTo .list result.value + held) := by
  refine settles_bind (settles_openingSteps calls.toOpeningCalls) ?_
  unfold getEtherinfoAddress at returns
  dsimp only at returns
  cases entered : (openAndSetIndex session calls.toOpeningCalls).1 with
  | false =>
      rw [entered] at returns
      cases returns
      exact settles_null _
  | true =>
      rw [entered] at returns
      simp only [if_true, addressDumpSteps] at returns ⊢
      cases filled : calls.addrCache with
      | error error =>
          rw [filled] at returns
          cases returns
      | ok records =>
          rw [filled] at returns
          cases allocated : calls.addrAlloc with
          | false =>
              rw [allocated] at returns
              cases returns
              exact settles_bind (settles_change _) (settles_null _)
          | true =>
              rw [allocated] at returns
              rcases except_bind_eq_ok returns with ⟨walk, walked, rest⟩
              cases rest
              refine settles_bind (settles_read _) (settles_bind (settles_change _)
                (settles_bind (settles_acquire _) (settles_bind
                  (settles_addressWalk text (except_mapError_eq_ok.mp walked))
                  (settles_bind (settles_change _) (settles_pure _)))))

end Queries

/-! ## Strings -/

/-- The function makes these strings, and returns one. -/
def Builds (method : Method String) (made : List String) (result : String) : Prop :=
  forall session held, Settles method session held result session
    ((made.map Owned.str : Multiset Owned) + held)

theorem builds_pure (text : String) : Builds (pure text) [] text := by
  intro session held
  rw [List.map_nil, Multiset.coe_nil, zero_add]
  exact settles_pure text

theorem builds_pyStrFromFormat (text : String) : Builds (pyStrFromFormat text) [text] text :=
  fun _ _ => settles_pyStrFromFormat text

theorem builds_pyStrConcat (left right : String) :
    Builds (pyStrConcat left right) [left ++ right] (left ++ right) :=
  builds_pyStrFromFormat (left ++ right)

theorem builds_ofExcept_bind {Value : Type} {result : Except Fault Value} {value : Value}
    {next : Value -> Method String} {made : List String} {string : String}
    (ok : result = .ok value) (later : Builds (next value) made string) :
    Builds (ofExcept result >>= next) made string :=
  fun session held => settles_bind (settles_ofExcept ok) (later session held)

theorem builds_bind {first : Method String} {next : String -> Method String}
    {made later : List String} {middle result : String} (early : Builds first made middle)
    (late : Builds (next middle) later result) :
    Builds (first >>= next) (made ++ later) result := by
  intro session held
  have both : ((made ++ later).map Owned.str : Multiset Owned) + held =
      (later.map Owned.str : Multiset Owned) + ((made.map Owned.str : Multiset Owned) + held) := by
    rw [List.map_append, ← Multiset.coe_add]
    abel
  rw [both]
  exact settles_bind (early session held) (late session _)

/-- The strings of a line with an IPv4 address. -/
def ipv4LineMade (address : PyNetlinkIPaddress) : List String :=
  let start := "\tIPv4 address: " ++ address.local_
  let netmask := "/" ++ toString address.prefixlen
  ["\tIPv4 address: ", start, netmask, start ++ netmask, ipv4Ending address.ipv4Broadcast,
    start ++ netmask ++ ipv4Ending address.ipv4Broadcast]

theorem ipv4Line_eq (address : PyNetlinkIPaddress) :
    ipv4Line address =
      .ok ("\tIPv4 address: " ++ address.local_ ++ ("/" ++ toString address.prefixlen) ++
        ipv4Ending address.ipv4Broadcast) := by
  unfold ipv4Line
  cases address.ipv4Broadcast with
  | none => simp only [ipv4Ending, String.append_assoc]
  | some broadcast => simp only [ipv4Ending, String.append_assoc]

/-- Six strings for the line of an IPv4 address. -/
theorem builds_ipv4Line {address : PyNetlinkIPaddress} {line : String}
    (ends : ipv4Line address = .ok line) :
    ∃ made, Builds (ipv4LineSteps address) made line ∧ made.length = 6 := by
  rw [ipv4Line_eq] at ends
  cases ends
  exact ⟨ipv4LineMade address,
    builds_bind (builds_pyStrFromFormat _) (builds_bind (builds_pyStrConcat _ _)
      (builds_bind (builds_pyStrFromFormat _) (builds_bind (builds_pyStrConcat _ _)
        (builds_bind (builds_pyStrFromFormat _) (builds_pyStrConcat _ _))))), rfl⟩

/-- And one for that of an IPv6 address. -/
theorem builds_ipv6Line {address : PyNetlinkIPaddress} {line : String}
    (ends : ipv6Line address = .ok line) :
    ∃ made, Builds (ipv6LineSteps address) made line ∧ made.length = 1 := by
  rcases except_bind_eq_ok ends with ⟨scope, formats, rest⟩
  cases rest
  exact ⟨[_], builds_ofExcept_bind formats (builds_pyStrFromFormat _), rfl⟩

/-- A loop makes two strings more than its lines for each address: the line,
and the text so far with the line at its end. -/
theorem builds_appendLines {line : PyNetlinkIPaddress -> Except Fault String}
    {lineSteps : PyNetlinkIPaddress -> Method String} {each : Nat}
    (builds : forall {address text}, line address = .ok text ->
      ∃ made, Builds (lineSteps address) made text ∧ made.length = each)
    {listed : Option (List PyNetlinkIPaddress)} {ret result : String}
    (ends : appendLines line ret listed = .ok result) :
    ∃ made, Builds (appendLinesSteps lineSteps ret (listed.getD [])) made result ∧
      result ∈ ret :: made ∧ made.length = (each + 1) * (listed.getD []).length := by
  unfold appendLines at ends
  generalize listed.getD [] = addresses at ends ⊢
  induction addresses generalizing ret with
  | nil =>
      cases ends
      exact ⟨[], builds_pure _, List.mem_singleton_self _, rfl⟩
  | cons address rest ih =>
      rw [List.foldlM_cons] at ends
      rcases except_bind_eq_ok ends with ⟨next, first, later⟩
      rcases except_bind_eq_ok first with ⟨tmp, lined, appended⟩
      cases appended
      rcases builds lined with ⟨lineMade, built, length⟩
      rcases ih later with ⟨made, whole, member, count⟩
      refine ⟨lineMade ++ ([ret ++ tmp] ++ made),
        builds_bind built (builds_bind (builds_pyStrConcat _ _) whole), ?_, ?_⟩
      · rw [List.mem_cons, List.mem_append, List.singleton_append]
        exact Or.inr (Or.inr member)
      · simp only [List.length_append, length, count, List.length_cons, List.length_nil]
        ring

/-- Two strings for the line with the hardware address. -/
theorem builds_appendHwaddress (ethi : PyEtherInfo) :
    ∃ made, Builds (appendHwaddress ("Device " ++ deviceText ethi.device ++ ":\n")
        ethi.hwaddress) made (deviceLines ethi) ∧
      deviceLines ethi ∈ ("Device " ++ deviceText ethi.device ++ ":\n") :: made ∧
      made.length = if ethi.hwaddress.isSome then 2 else 0 := by
  unfold deviceLines
  cases ethi.hwaddress with
  | none =>
      rw [show forall text : String, text ++ "" = text from fun _ => String.append_empty]
      exact ⟨[], builds_pure _, List.mem_singleton_self _, rfl⟩
  | some hwaddress =>
      exact ⟨_, builds_bind (builds_pyStrFromFormat _) (builds_pyStrConcat _ _), by simp, rfl⟩

/-! ## What a read leaves behind -/

/-- The reference that the caller gets. -/
def answerRef (answer : Option Answer) : Multiset Owned :=
  ((answer.map Answer.owned).toList : Multiset Owned)

/-- A read shows this, and of the references that its function has got all but
some are stored or returned. -/
def Leaves (steps : Method (Option Answer)) (session : Session)
    (shows : Reading × Option Session) (scraps : Nat) : Prop :=
  ∃ answer last left,
    Settles steps session (stored session.self) answer last
      (answerRef answer + (left + stored last.self)) ∧
    shows = readingOf Answer.shown (.ok { value := answer, session := last }) ∧
    left.card = scraps

/-- The references that a list leaves behind: its own, and some for each
address. -/
def listScraps (each : Nat) : Option (List PyNetlinkIPaddress) -> Nat
  | none => 0
  | some addresses => each * addresses.length + 1

/-- The list of an address query, if there is one. -/
def listedBy (outcome : Except Stopped (Returned (List PyNetlinkIPaddress))) :
    Option (List PyNetlinkIPaddress) :=
  match outcome with
  | .ok result => result.value
  | .error _ => none

/-- The references that the string leaves behind, from what its three queries
give: two for the hardware address, seven for each IPv4 address, two for each
IPv6 address, and the two lists. -/
def strScraps (text : AddressText) (link : LinkCalls) (ipv4 ipv6 : AddressCalls)
    (session : Session) : Nat :=
  let linked := (getEtherinfoLink text session link).2
  match getEtherinfoAddress text linked .addr4 ipv4 with
  | .ok listed =>
      (if linked.self.hwaddress.isSome then 2 else 0) + listScraps 7 listed.value +
        listScraps 2 (listedBy (getEtherinfoAddress text listed.session .addr6 ipv6))
  | .error _ => 0

section Reads

variable (text : AddressText) {session : Session}

/-- What ends is a result. -/
theorem readingOf_ended {Value : Type} {shown : Value -> Reading}
    {outcome : Except Stopped (Returned Value)} {after : Session}
    (ended : (readingOf shown outcome).2 = some after) :
    ∃ result, outcome = .ok result ∧ after = result.handled := by
  cases outcome with
  | error stopped => cases ended
  | ok result =>
      cases ended
      exact ⟨result, rfl, rfl⟩

/-- A reading does not depend on the way to it. -/
theorem readingOf_map {Value : Type} (result : Returned Value) (wrap : Value -> Answer) :
    readingOf Answer.shown
        (.ok { value := result.value.map wrap, session := result.session }) =
      readingOf (fun value => (wrap value).shown) (.ok result) := by
  rcases result with ⟨value, shared, self, pending, log⟩
  cases value <;> cases pending <;> rfl

/-- An address query stores nothing. -/
theorem stored_address {query : NlQuery} {calls : AddressCalls}
    {result : Returned (List PyNetlinkIPaddress)}
    (returns : getEtherinfoAddress text session query calls = .ok result) :
    stored result.session.self = stored session.self := by
  rw [(getEtherinfoAddress_session text returns).2, openAndSetIndex_stored]

theorem deviceSteps_leaves :
    Leaves deviceSteps session (readingOf .value (.ok session.getDevice)) 0 := by
  have shown := readingOf_map session.getDevice Answer.value
  refine ⟨_, _, 0, settles_bind (settles_read _) ?_, shown.symm, rfl⟩
  rw [zero_add]
  exact settles_returnNew _

theorem macAddrSteps_leaves (calls : LinkCalls) :
    Leaves (macAddrSteps text calls) session
      (readingOf (fun hwaddress => .value (.str hwaddress)) (.ok (getMacAddr text session calls)))
      0 := by
  have shown := readingOf_map (getMacAddr text session calls)
    (fun hwaddress => Answer.value (.str hwaddress))
  refine ⟨_, _, 0, settles_bind (settles_linkSteps text calls)
    (settles_bind (settles_read _) ?_), shown.symm, rfl⟩
  rw [zero_add]
  dsimp only [getMacAddr]
  cases (getEtherinfoLink text session calls).2.self.hwaddress with
  | none =>
      rw [answerRef, Option.map_none, Option.map_none, Option.toList_none, Multiset.coe_nil,
        zero_add]
      exact settles_pure none
  | some hwaddress => exact settles_returnNew _

theorem addressesSteps_leaves {query : NlQuery} {calls : AddressCalls}
    {after : Session}
    (ended : (readingOf .list (getEtherinfoAddress text session query calls)).2 = some after) :
    Leaves (addressesSteps text query calls) session
      (readingOf .list (getEtherinfoAddress text session query calls)) 0 := by
  rcases readingOf_ended ended with ⟨result, returns, _⟩
  rw [returns]
  have shown := readingOf_map result Answer.list
  refine ⟨_, _, 0, settles_bind (settles_addressSteps text returns) ?_, shown.symm, rfl⟩
  rw [zero_add, stored_address text returns]
  cases result.value with
  | none => exact settles_pure none
  | some addresses => exact settles_pure _

theorem settles_unlessPendingSteps (value : PyValue) (held : Multiset Owned) :
    Settles (unlessPendingSteps value) session held
      ((unlessPending session value).map Answer.value) session
      (answerRef ((unlessPending session value).map Answer.value) + held) := by
  refine settles_bind (settles_read _) ?_
  rw [unlessPending]
  cases session.pending.isSome with
  | true =>
      rw [answerRef]
      exact settles_null .address
  | false => exact settles_returnNew value

/-- The list stays behind where there is one, whatever is taken from it. -/
theorem lastIpv4Steps_leaves {calls : AddressCalls}
    (field : PyNetlinkIPaddress -> Option PyValue) (absent : PyValue) {after : Session}
    (ended : (readingOf .value ((getEtherinfoAddress text session .addr4 calls).map
      (lastIpv4 field absent))).2 = some after) :
    Leaves (lastIpv4Steps text calls field absent) session
      (readingOf .value ((getEtherinfoAddress text session .addr4 calls).map
        (lastIpv4 field absent)))
      (listScraps 0 (listedBy (getEtherinfoAddress text session .addr4 calls))) := by
  rcases readingOf_ended ended with ⟨result, ends, _⟩
  rcases except_map_eq_ok ends with ⟨listed, returns, _⟩
  rw [returns]
  have shown := readingOf_map (lastIpv4 field absent listed) Answer.value
  have count : (refTo .list listed.value).card = listScraps 0 listed.value := by
    cases listed.value with
    | none => rfl
    | some addresses => simp [refTo, listScraps]
  refine ⟨_, _, refTo .list listed.value,
    settles_bind (settles_addressSteps text returns) ?_, shown.symm, count⟩
  rw [lastIpv4_session, stored_address text returns]
  unfold lastField lastIpv4
  cases (getLastIpv4Address listed.value).bind field with
  | some value => exact settles_returnNew value
  | none => exact settles_unlessPendingSteps absent _

end Reads

/-! ## What the string leaves behind -/

theorem card_refTo_add (each : Nat) {made : List String}
    {listed : Option (List PyNetlinkIPaddress)}
    (count : made.length = each * (listed.getD []).length) :
    made.length + (refTo .list listed).card = listScraps each listed := by
  rw [count]
  cases listed <;> rfl

theorem strSteps_leaves (text : AddressText) {session : Session} {link : LinkCalls}
    {ipv4 ipv6 : AddressCalls} {after : Session}
    (ended : (readingOf (fun string => .value (.str string))
      (ethtoolEtherinfoStr text session link ipv4 ipv6)).2 = some after) :
    Leaves (strSteps text link ipv4 ipv6) session
      (readingOf (fun string => .value (.str string))
        (ethtoolEtherinfoStr text session link ipv4 ipv6))
      (strScraps text link ipv4 ipv6 session) := by
  rcases readingOf_ended ended with ⟨result, ends, _⟩
  rw [ends]
  rcases except_bind_eq_ok ends with ⟨listed4, returns4, ends⟩
  rcases except_bind_eq_ok ends with ⟨ret4, lined4, ends⟩
  rcases except_bind_eq_ok ends with ⟨listed6, returns6, ends⟩
  rcases except_bind_eq_ok ends with ⟨ret6, lined6, ends⟩
  cases ends
  have linked := @settles_linkSteps text session link
  have scraps : strScraps text link ipv4 ipv6 session =
      (if (getEtherinfoLink text session link).2.self.hwaddress.isSome then 2 else 0) +
        listScraps 7 listed4.value + listScraps 2 listed6.value := by
    simp only [strScraps, returns4, returns6, listedBy]
  rw [scraps]
  generalize (getEtherinfoLink text session link).2 = linkedSession at *
  have kept : stored listed6.session.self = stored linkedSession.self :=
    (stored_address text returns6).trans (stored_address text returns4)
  rcases builds_appendHwaddress linkedSession.self with ⟨madeMac, mac, memberMac, countMac⟩
  rcases builds_appendLines builds_ipv4Line (except_mapError_eq_ok.mp lined4) with
    ⟨made4, lines4, member4, count4⟩
  rcases builds_appendLines builds_ipv6Line (except_mapError_eq_ok.mp lined6) with
    ⟨made6, lines6, member6, count6⟩
  generalize ret0_eq : "Device " ++ deviceText linkedSession.self.device ++ ":\n" = ret0 at *
  have member : ret6 ∈ ret0 :: (madeMac ++ (made4 ++ made6)) := by
    simp only [List.mem_cons, List.mem_append] at memberMac member4 member6 ⊢
    grind
  -- One of the strings is returned, and all others are left.
  have strings : ((ret0 :: (madeMac ++ (made4 ++ made6))).map Owned.str : Multiset Owned) =
      ((ret6 :: (ret0 :: (madeMac ++ (made4 ++ made6))).erase ret6).map Owned.str :
        Multiset Owned) :=
    Multiset.coe_eq_coe.mpr ((List.perm_cons_erase member).map Owned.str)
  have lengths := List.length_erase_add_one member
  have shown := readingOf_map { value := some ret6, session := listed6.session }
    (fun string => Answer.value (.str string))
  generalize (ret0 :: (madeMac ++ (made4 ++ made6))).erase ret6 = others at strings lengths
  have account : (made6.map Owned.str : Multiset Owned) + (refTo .list listed6.value +
        ((made4.map Owned.str : Multiset Owned) + (refTo .list listed4.value +
          ((madeMac.map Owned.str : Multiset Owned) +
            (Owned.str ret0 ::ₘ stored linkedSession.self))))) =
      answerRef (some (.value (.str ret6))) +
        ((others.map Owned.str : Multiset Owned) + refTo .list listed4.value +
          refTo .list listed6.value + stored listed6.session.self) := by
    rw [kept]
    have returned : answerRef (some (.value (.str ret6))) = {Owned.str ret6} := rfl
    simp only [List.map_cons, List.map_append, ← Multiset.cons_coe, ← Multiset.coe_add,
      ← Multiset.singleton_add] at strings ⊢
    calc
      _ = ({Owned.str ret0} + ((madeMac.map Owned.str : Multiset Owned) +
            ((made4.map Owned.str : Multiset Owned) + (made6.map Owned.str : Multiset Owned)))) +
            refTo .list listed4.value + refTo .list listed6.value +
            stored linkedSession.self := by abel
      _ = _ := by
            rw [strings, returned]
            abel
  refine ⟨some (.value (.str ret6)), listed6.session,
    (others.map Owned.str : Multiset Owned) + refTo .list listed4.value +
      refTo .list listed6.value, ?_, shown.symm, ?_⟩
  · refine settles_bind linked (settles_bind (settles_read _) ?_)
    rw [← account, ret0_eq]
    exact settles_bind (settles_pyStrFromFormat ret0) (settles_bind (mac _ _)
      (settles_bind (settles_addressSteps text returns4) (settles_bind (lines4 _ _)
        (settles_bind (settles_addressSteps text returns6) (settles_bind (lines6 _ _)
          (settles_pure _))))))
  · have lists4 := card_refTo_add 7 count4
    have lists6 := card_refTo_add 2 count6
    simp only [Multiset.card_add, Multiset.coe_card, List.length_map, List.length_cons,
      List.length_append] at lengths ⊢
    omega

/-- The references that a read leaves behind. -/
def Attribute.scraps (text : AddressText) (network : Network) (faults : Asked -> Faults)
    (session : Session) : Attribute -> Nat
  | .device => 0
  | .macAddress => 0
  | .ipv4 .addresses => 0
  | .ipv4 _ =>
      listScraps 0 (listedBy (getEtherinfoAddress text session .addr4
        (network.addressCalls (faults (.address .addr4)))))
  | .ipv6Addresses => 0
  | .str =>
      strScraps text (network.linkCalls (faults .link))
        (network.addressCalls (faults (.address .addr4)))
        (network.addressCalls (faults (.address .addr6))) session

/-- The statements give what the functions are known to show. -/
theorem attributeSteps_leaves (text : AddressText) (network : Network)
    (faults : Asked -> Faults) {session after : Session} (attr : Attribute)
    (ended : (readAttribute text network faults session attr).2 = some after) :
    Leaves (attributeSteps text network faults attr) session
      (readAttribute text network faults session attr)
      (attr.scraps text network faults session) := by
  cases attr with
  | device => exact deviceSteps_leaves
  | macAddress => exact macAddrSteps_leaves text _
  | ipv6Addresses => exact addressesSteps_leaves text ended
  | str => exact strSteps_leaves text ended
  | ipv4 read =>
      cases read with
      | addresses => exact addressesSteps_leaves text ended
      | address => exact lastIpv4Steps_leaves text _ _ ended
      | netmask => exact lastIpv4Steps_leaves text _ _ ended
      | broadcast => exact lastIpv4Steps_leaves text _ _ ended

/-! ## Runs of the process -/

/-- The caller takes over what is returned. -/
def handedOver : Except Fault (Option Answer) -> List (Movement Owned)
  | .ok answer => (answer.map Answer.owned).toList.map Movement.released
  | .error _ => []

/-- What an object drops when it is deallocated. -/
def dropped (ethi : PyEtherInfo) : List Owned :=
  .str (deviceText ethi.device) :: (ethi.hwaddress.map Owned.str).toList

def ProcessAction.movements (text : AddressText) (process : Process) :
    ProcessAction -> List (Movement Owned)
  | .create _ _ device => [.acquired (.str (deviceText device))]
  | .read address attr faults =>
      let outcome :=
        (attributeSteps text process.network faults attr).run (process.session address)
      outcome.events ++ handedOver outcome.result
  | .dealloc address => (dropped (process.object address)).map Movement.released
  | .change _ => []

def ProcessAction.scraps (text : AddressText) (process : Process) : ProcessAction -> Nat
  | .read address attr faults =>
      attr.scraps text process.network faults (process.session address)
  | _ => 0

namespace Process

/-- The references that the living objects store. -/
def stored (process : Process) : Multiset Owned :=
  ∑ address ∈ process.live, Netlink.stored (process.object address)

theorem stored_split {process : Process} {address : Nat} (alive : address ∈ process.live) :
    process.stored = Netlink.stored (process.object address) +
      ∑ other ∈ process.live.erase address, Netlink.stored (process.object other) :=
  (Finset.add_sum_erase _ _ alive).symm

theorem sum_update (live : Finset Nat) (object : Nat -> PyEtherInfo) (address : Nat)
    (ethi : PyEtherInfo) :
    ∑ other ∈ live.erase address, Netlink.stored (Function.update object address ethi other) =
      ∑ other ∈ live.erase address, Netlink.stored (object other) := by
  apply Finset.sum_congr rfl
  intro other member
  rw [Function.update_of_ne (Finset.ne_of_mem_erase member)]

/-- What a read acquires is stored, returned or left behind. -/
theorem read_settles {text : AddressText} {process : Process} {address : Nat}
    (alive : address ∈ process.live) (attr : Attribute) (faults : Asked -> Faults)
    {after : Session}
    (ended : (readAttribute text process.network faults (process.session address) attr).2 =
      some after) (left : Multiset Owned) :
    ∃ more : Multiset Owned,
      settle (process.stored + left)
          ((ProcessAction.read address attr faults).movements text process) =
        some ((process.afterRead address (some after)).stored + (left + more)) ∧
      more.card = attr.scraps text process.network faults (process.session address) := by
  rcases attributeSteps_leaves text process.network faults attr ended with
    ⟨answer, last, more, settled, shown, count⟩
  refine ⟨more, ?_, count⟩
  rw [shown] at ended
  cases ended
  have rest := sum_update process.live process.object address last.self
  have sum : (process.afterRead address (some
      ({ value := answer, session := last } : Returned Answer).handled)).stored =
        Netlink.stored last.self +
          ∑ other ∈ process.live.erase address, Netlink.stored (process.object other) := by
    rw [@stored_split (process.afterRead address (some _)) address alive]
    simp only [afterRead, Returned.handled, Function.update_self, rest]
  have beside := settled.beside
    (∑ other ∈ process.live.erase address, Netlink.stored (process.object other) + left)
  have before : Netlink.stored (process.session address).self +
      (∑ other ∈ process.live.erase address, Netlink.stored (process.object other) + left) =
        process.stored + left := by
    rw [stored_split alive, add_assoc]
    rfl
  rw [before] at beside
  have behind : answerRef answer + (more + Netlink.stored last.self) +
      (∑ other ∈ process.live.erase address, Netlink.stored (process.object other) + left) =
        Netlink.stored last.self +
          ∑ other ∈ process.live.erase address, Netlink.stored (process.object other) +
            (left + more) + ((answer.map Answer.owned).toList : Multiset Owned) := by
    rw [answerRef]
    abel
  simp only [ProcessAction.movements, handedOver, beside.result]
  rw [settle_append, beside.settles, Option.bind_some, behind, settle_released, sum]

/-- What an action acquires is stored, returned or left behind. -/
theorem step_settles {text : AddressText} {process next : Process} {action : ProcessAction}
    (taken : process.step text action = some next) (running : next.crashed = false)
    (left : Multiset Owned) :
    ∃ more : Multiset Owned,
      settle (process.stored + left) (action.movements text process) =
          some (next.stored + (left + more)) ∧
        more.card = action.scraps text process := by
  have cases_ := (step_cases taken).2
  cases action with
  | create address memory device =>
      rcases cases_ with ⟨unused, rfl⟩
      refine ⟨0, ?_, rfl⟩
      have sum : ∑ other ∈ insert address process.live, Netlink.stored
          (Function.update process.object address (newEtherInfo memory device) other) =
            Netlink.stored (newEtherInfo memory device) + process.stored := by
        rw [Finset.sum_insert unused, Function.update_self]
        congr 1
        apply Finset.sum_congr rfl
        intro other member
        have different : other ≠ address := by
          rintro rfl
          exact unused member
        rw [Function.update_of_ne different]
      change some (_ ::ₘ (process.stored + left)) = some (∑ other ∈ _, _ + (left + 0))
      rw [sum]
      simp [Netlink.stored, newEtherInfo]
  | dealloc address =>
      rcases cases_ with ⟨alive, rfl⟩
      refine ⟨0, ?_, rfl⟩
      have rest := sum_update process.live process.object address
        (closeNetlink process.shared (process.object address)).2
      have settled := settle_released
        ((∑ other ∈ process.live.erase address, Netlink.stored (process.object other)) + left)
        (dropped (process.object address))
      have whole : process.stored + left =
          (∑ other ∈ process.live.erase address, Netlink.stored (process.object other)) + left +
            (dropped (process.object address) : Multiset Owned) := by
        rw [stored_split alive]
        change Netlink.stored (process.object address) + _ + left =
          _ + left + Netlink.stored (process.object address)
        abel
      rw [whole]
      refine settled.trans (congrArg some ?_)
      rw [add_zero]
      exact congrArg (fun sum => sum + left) rest.symm
  | change network =>
      cases cases_
      exact ⟨0, congrArg some (by rw [add_zero]; rfl), rfl⟩
  | read address attr faults =>
      rcases cases_ with ⟨alive, rfl⟩
      cases ended : (readAttribute text process.network faults (process.session address) attr).2
        with
      | none =>
          rw [ended] at running
          cases running
      | some after => exact read_settles alive attr faults ended left

/-- A run that goes on, or ends without a fault, has met none before. -/
theorem running_of_run {text : AddressText} {process last : Process}
    {actions : List ProcessAction} (runs : run (step text) process actions = some last)
    (running : last.crashed = false) : process.crashed = false := by
  cases actions with
  | nil =>
      cases runs
      exact running
  | cons action actions =>
      rcases Option.bind_eq_some_iff.mp runs with ⟨next, taken, _⟩
      exact (step_cases taken).1

/-- The movements of a run, as long as no action is refused. -/
def movements (text : AddressText) : Process -> List ProcessAction -> List (Movement Owned)
  | _, [] => []
  | process, action :: actions =>
      match process.step text action with
      | none => []
      | some next => action.movements text process ++ movements text next actions

/-- The references that its reads leave behind. -/
def scraps (text : AddressText) : Process -> List ProcessAction -> Nat
  | _, [] => 0
  | process, action :: actions =>
      match process.step text action with
      | none => 0
      | some next => action.scraps text process + scraps text next actions

theorem run_settles {text : AddressText} {process last : Process} {actions : List ProcessAction}
    (runs : run (step text) process actions = some last) (running : last.crashed = false)
    (left : Multiset Owned) :
    ∃ more : Multiset Owned,
      settle (process.stored + left) (process.movements text actions) =
          some (last.stored + (left + more)) ∧
        more.card = process.scraps text actions := by
  induction actions generalizing process left with
  | nil =>
      cases runs
      exact ⟨0, congrArg some (by rw [add_zero]), rfl⟩
  | cons action actions ih =>
      rcases Option.bind_eq_some_iff.mp runs with ⟨next, taken, rest⟩
      rcases step_settles taken (running_of_run rest running) left with ⟨first, settled, count⟩
      rcases ih rest (left + first) with ⟨later, settledLater, countLater⟩
      refine ⟨first + later, ?_, ?_⟩
      · simp only [movements, taken]
        rw [settle_append, settled, Option.bind_some, settledLater, add_assoc]
      · simp only [scraps, taken]
        rw [Multiset.card_add, count, countLater]

/-- However the objects of a process are created, read and dropped, and
whichever calls of their queries fail, as long as no fault is met: the
references that its functions have got and neither dropped, given away nor
returned are those that the living objects store, and as many as the reads
have left behind, each of them a number that is known. -/
theorem run_outstanding (text : AddressText) (memory : Nat -> PyEtherInfo) (network : Network)
    {actions : List ProcessAction} {last : Process}
    (runs : run (step text) (initial memory network) actions = some last)
    (running : last.crashed = false) :
    ∃ left : Multiset Owned,
      settle 0 ((initial memory network).movements text actions) = some (last.stored + left) ∧
        left.card = (initial memory network).scraps text actions := by
  rcases run_settles runs running 0 with ⟨left, settled, count⟩
  rw [zero_add] at settled
  exact ⟨left, settled, count⟩

end Process

/-- The string of an object with one IPv4 address leaves eleven references
behind, and one of the old attributes one more.  That of the second object,
for whose only record there is no memory, leaves four: its list is empty. -/
theorem run_outstanding_eth0 :
    ∃ last, run (Process.step plainText) (.initial (fun _ => .cleared) (eth0Network [eth0Addr]))
        [.create 0 .cleared eth0, .create 1 .cleared eth0, .read 0 .str (fun _ => .none),
          .read 0 (.ipv4 .address) (fun _ => .none), .dealloc 0,
          .read 1 .str (fun _ => { Faults.none with
            building := fun _ => { Building.success with newObject := false } })] = some last ∧
      ∃ left : Multiset Owned,
        settle 0 (Process.movements plainText
            (.initial (fun _ => .cleared) (eth0Network [eth0Addr]))
            [.create 0 .cleared eth0, .create 1 .cleared eth0, .read 0 .str (fun _ => .none),
              .read 0 (.ipv4 .address) (fun _ => .none), .dealloc 0,
              .read 1 .str (fun _ => { Faults.none with
                building := fun _ => { Building.success with newObject := false } })]) =
          some (last.stored + left) ∧ left.card = 16 := by
  have taken : (run (Process.step plainText)
      (.initial (fun _ => .cleared) (eth0Network [eth0Addr]))
      [.create 0 .cleared eth0, .create 1 .cleared eth0, .read 0 .str (fun _ => .none),
        .read 0 (.ipv4 .address) (fun _ => .none), .dealloc 0,
        .read 1 .str (fun _ => { Faults.none with
          building := fun _ => { Building.success with newObject := false } })]).isSome := rfl
  rcases Option.isSome_iff_exists.mp taken with ⟨last, runs⟩
  have running : last.crashed = false := by
    cases runs
    rfl
  rcases Process.run_outstanding _ _ _ runs running with ⟨left, settled, count⟩
  refine ⟨last, runs, left, settled, count.trans ?_⟩
  decide +kernel

end Netlink
end PythonEthtool
