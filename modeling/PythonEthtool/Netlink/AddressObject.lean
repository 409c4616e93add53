import PythonEthtool.Foundations.Runs
import PythonEthtool.Netlink.Construction
import PythonEthtool.Netlink.Queries

namespace PythonEthtool
namespace Netlink

open Foundations
open Python

/-!
# Address objects in the hands of a script

The constructor of an address object fills its fields with strings, and the
functions for `repr` and for deallocation rely on that.  In between the
object belongs to the script, and the member table of the type decides what
the script can do with it.  No member of the table is read-only: a reference
can be replaced by any object, and deleted, which stores NULL.

The object stays as its functions expect it along exactly those runs in
which the references are replaced by strings only, the address and the scope
are not deleted, and every string that `repr` formats has UTF-8.  A string
with a surrogate is a string, but `PyStr_AsString` gives NULL for it.
-/

/-- The object as memory: references may be NULL and may be to anything. -/
structure AddressObject where
  family : Int
  prefixlen : Int
  references : Reference -> Option PyValue

/-- The object that the constructor has made. -/
def AddressObject.ofMade (made : PyNetlinkIPaddress) : AddressObject where
  family := made.family
  prefixlen := made.prefixlen
  references
    | .local_ => some (.str made.local_)
    | .peer => made.peer.map PyValue.str
    | .ipv4Broadcast => made.ipv4Broadcast.map PyValue.str
    | .scope => made.scope.map PyValue.str

/-! ## Deallocation and `repr` -/

/-- All references have been assigned. -/
def AddressObject.dealloc (object : AddressObject) : Except Fault (List PyValue) :=
  netlinkIpAddressDealloc (fun field => some (object.references field))

/-- The bytes of a string up to its first NUL, as text.  NULL is followed, and
for what is no string or has no UTF-8 NULL is returned. -/
def pyStrAsString : Option PyValue -> Option String
  | some (.str text) => some (String.ofList (text.toList.takeWhile (fun char => char.toNat ≠ 0)))
  | _ => none

/-- A part of the text for a reference that is checked for NULL. -/
def optionalPart (field : Reference) (label : String) (value : Option PyValue) :
    Except Fault String :=
  match value with
  | none => .ok ""
  | some value =>
      (formatted field (pyStrAsString (some value))).map (fun text => label ++ text ++ "'")

def netmaskPart (object : AddressObject) : String :=
  if object.family = AF_INET then "', netmask=" ++ toString object.prefixlen
  else if object.family = AF_INET6 then "/" ++ toString object.prefixlen ++ "'"
  else ""

def broadcastPart (object : AddressObject) : Except Fault String :=
  if object.family = AF_INET then
    optionalPart .ipv4Broadcast ", broadcast='" (object.references .ipv4Broadcast)
  else .ok ""

/-- The text that `repr` makes, or the fault with which a format follows NULL.
`nlAf2str` gives the name of an address family. -/
def netlinkIpAddressRepr (nlAf2str : Int -> String) (object : AddressObject) :
    Except Fault String := do
  let address ← formatted .local_ (pyStrAsString (object.references .local_))
  let peer ← optionalPart .peer ", peer_address='" (object.references .peer)
  let broadcast ← broadcastPart object
  let scope ← formatted .scope (pyStrAsString (object.references .scope))
  return "ethtool.NetlinkIPaddress(family=" ++ nlAf2str object.family ++ ", address='" ++
    address ++ netmaskPart object ++ peer ++ broadcast ++ ", scope=" ++ scope ++ ")"

/-! ## The member table -/

/-- The kinds of members: `T_OBJECT` and `T_OBJECT_EX` at the offset of a
reference, and `T_INT` at that of the prefix length. -/
inductive MemberKind where
  | object (field : Reference)
  | objectEx (field : Reference)
  | int
  deriving DecidableEq

def ethtoolNetlinkIpAddressMembers : List (String × MemberKind) :=
  [("address", .objectEx .local_),
    ("peer_address", .objectEx .peer),
    ("netmask", .int),
    ("broadcast", .object .ipv4Broadcast),
    ("scope", .objectEx .scope)]

/-- The text of an `AttributeError` is the interpreter's own. -/
def noAttribute : PyError :=
  ⟨.attributeError, .own⟩

namespace AddressObject

def store (object : AddressObject) (field : Reference) (value : Option PyValue) :
    AddressObject :=
  { object with references := Function.update object.references field value }

@[simp] theorem references_store (object : AddressObject) (field : Reference)
    (value : Option PyValue) :
    (object.store field value).references = Function.update object.references field value :=
  rfl

/-- `PyMember_GetOne`: NULL is `None` for the one kind and an exception for
the other. -/
def getMember (object : AddressObject) (name : String) : Except PyError PyValue :=
  match ethtoolNetlinkIpAddressMembers.lookup name with
  | none => .error noAttribute
  | some (.object field) => .ok ((object.references field).getD .none)
  | some (.objectEx field) =>
      match object.references field with
      | none => .error noAttribute
      | some value => .ok value
  | some .int => .ok (.int object.prefixlen)

/-- `PyMember_SetOne`, where a deletion comes with NULL for the value. -/
def setMember (width : LongWidth) (object : AddressObject) (name : String)
    (value : Option PyValue) : Except PyError AddressObject :=
  match ethtoolNetlinkIpAddressMembers.lookup name with
  | none => .error noAttribute
  | some (.object field) => .ok (object.store field value)
  | some (.objectEx field) =>
      if value = none ∧ object.references field = none then
        .error noAttribute
      else .ok (object.store field value)
  | some .int =>
      match value with
      | none => .error ⟨.typeError, .text "can't delete numeric/char attribute"⟩
      | some number =>
          match pyLongAsLong width number with
          | (_, some error) => .error error
          | (long, none) => .ok { object with prefixlen := Int.bmod long (2 ^ 32) }

end AddressObject

/-- What a script does with an attribute. -/
inductive AttributeAction where
  | read (name : String)
  | assign (name : String) (value : PyValue)
  | delete (name : String)

/-- An operation that raises leaves the object as it was. -/
def attributeStep (width : LongWidth) (object : AddressObject) :
    AttributeAction -> Option AddressObject
  | .read _ => some object
  | .assign name value => some ((object.setMember width name (some value)).toOption.getD object)
  | .delete name => some ((object.setMember width name none).toOption.getD object)

theorem attributeStep_total (width : LongWidth) (object : AddressObject)
    (action : AttributeAction) : (attributeStep width object action).isSome := by
  cases action <;> rfl

/-! ## Well-formed objects -/

/-- The fields that deallocation and `repr` use without a check. -/
def Reference.Required : Reference -> Prop
  | .local_ => True
  | .scope => True
  | _ => False

/-- The fields whose strings `repr` formats.  It leaves out the broadcast
address of what is not IPv4. -/
def Reference.Formatted (family : Int) (field : Reference) : Prop :=
  field = .ipv4Broadcast -> family = AF_INET

/-- A string, with UTF-8 or without. -/
def IsStr (value : PyValue) : Prop :=
  (∃ text, value = .str text) ∨ ∃ text, value = .surrogates text

/-- A string with UTF-8. -/
def HasUtf8 (value : PyValue) : Prop :=
  ∃ text, value = .str text

/-- What may stand in a field: a string, or nothing where that is checked. -/
def Reference.Fits (field : Reference) : Option PyValue -> Prop
  | none => ¬ field.Required
  | some value => IsStr value

/-- The object as its functions expect it. -/
structure AddressObject.WellFormed (nlAf2str : Int -> String) (object : AddressObject) : Prop where
  fits : forall field : Reference, field.Fits (object.references field)
  formats : ∃ text, netlinkIpAddressRepr nlAf2str object = .ok text
  drops : ∃ values, object.dealloc = .ok values

/-- Strings only, with UTF-8 where they are formatted. -/
def Reference.Admits (field : Reference) (family : Int) : Option PyValue -> Prop
  | none => ¬ field.Required
  | some value => IsStr value ∧ (field.Formatted family -> HasUtf8 value)

/-- The operation assigns strings only, with UTF-8 where `repr` formats them,
and deletes neither the address nor the scope. -/
def AttributeAction.KeepsStrings (family : Int) : AttributeAction -> Prop
  | .read _ => True
  | .assign name value =>
      name ∈ ["address", "peer_address", "broadcast", "scope"] ->
        IsStr value ∧ ((name = "broadcast" -> family = AF_INET) -> HasUtf8 value)
  | .delete name => name ≠ "address" ∧ name ≠ "scope"

section WellFormed

variable {nlAf2str : Int -> String} {object : AddressObject}

theorem formatted_ok_iff {field : Reference} {value : PyValue} :
    (∃ text, formatted field (pyStrAsString (some value)) = .ok text) ↔ HasUtf8 value := by
  constructor
  · rintro ⟨text, formats⟩
    cases value with
    | str text => exact ⟨text, rfl⟩
    | none => cases formats
    | int value => cases formats
    | surrogates text => cases formats
    | other identity index => cases formats
  · rintro ⟨text, rfl⟩
    exact ⟨_, rfl⟩

theorem optionalPart_ok_iff {field : Reference} {label : String} {value : Option PyValue} :
    (∃ text, optionalPart field label value = .ok text) ↔
      forall present, value = some present -> HasUtf8 present := by
  cases value with
  | none => exact ⟨fun _ present same => (by cases same), fun _ => ⟨_, rfl⟩⟩
  | some value =>
      simp only [Option.some.injEq, forall_eq']
      rw [← @formatted_ok_iff field]
      constructor
      · rintro ⟨text, made⟩
        rcases except_map_eq_ok made with ⟨inner, formats, _⟩
        exact ⟨inner, formats⟩
      · rintro ⟨inner, formats⟩
        exact ⟨_, by simp only [optionalPart, formats]; rfl⟩

/-- The function `repr` gets to its end precisely if the two references that
it does not check are there, and all that it formats have UTF-8. -/
theorem repr_ok_iff :
    (∃ text, netlinkIpAddressRepr nlAf2str object = .ok text) ↔
      (∃ address scope, object.references .local_ = some address ∧
        object.references .scope = some scope ∧ HasUtf8 address ∧ HasUtf8 scope) ∧
      (forall peer, object.references .peer = some peer -> HasUtf8 peer) ∧
      (object.family = AF_INET -> forall broadcast,
        object.references .ipv4Broadcast = some broadcast -> HasUtf8 broadcast) := by
  constructor
  · rintro ⟨text, made⟩
    rcases except_bind_eq_ok made with ⟨address, formatsAddress, made⟩
    rcases except_bind_eq_ok made with ⟨peer, formatsPeer, made⟩
    rcases except_bind_eq_ok made with ⟨broadcast, formatsBroadcast, made⟩
    rcases except_bind_eq_ok made with ⟨scope, formatsScope, _⟩
    refine ⟨?_, optionalPart_ok_iff.mp ⟨peer, formatsPeer⟩, fun inet => ?_⟩
    · cases hasAddress : object.references .local_ with
      | none =>
          rw [hasAddress] at formatsAddress
          cases formatsAddress
      | some address =>
          cases hasScope : object.references .scope with
          | none =>
              rw [hasScope] at formatsScope
              cases formatsScope
          | some scope =>
              rw [hasAddress] at formatsAddress
              rw [hasScope] at formatsScope
              exact ⟨address, scope, rfl, rfl, formatted_ok_iff.mp ⟨_, formatsAddress⟩,
                formatted_ok_iff.mp ⟨_, formatsScope⟩⟩
    · rw [broadcastPart, if_pos inet] at formatsBroadcast
      exact optionalPart_ok_iff.mp ⟨broadcast, formatsBroadcast⟩
  · rintro ⟨⟨address, scope, hasAddress, hasScope, addressUtf8, scopeUtf8⟩, peerUtf8,
      broadcastUtf8⟩
    rcases (@formatted_ok_iff .local_ address).mpr addressUtf8 with ⟨_, formatsAddress⟩
    rcases (@formatted_ok_iff .scope scope).mpr scopeUtf8 with ⟨_, formatsScope⟩
    rcases (@optionalPart_ok_iff .peer ", peer_address='" _).mpr peerUtf8 with ⟨_, formatsPeer⟩
    have formatsBroadcast : ∃ text, broadcastPart object = .ok text := by
      unfold broadcastPart
      by_cases inet : object.family = AF_INET
      · rw [if_pos inet]
        exact optionalPart_ok_iff.mpr (broadcastUtf8 inet)
      · rw [if_neg inet]
        exact ⟨_, rfl⟩
    rcases formatsBroadcast with ⟨_, formatsBroadcast⟩
    rw [netlinkIpAddressRepr, hasAddress, formatsAddress, hasScope, formatsScope, formatsPeer,
      formatsBroadcast]
    exact ⟨_, rfl⟩

/-- The functions need no more than the right kinds of references. -/
theorem wellFormed_iff :
    object.WellFormed nlAf2str ↔
      forall field : Reference, field.Admits object.family (object.references field) := by
  constructor
  · rintro ⟨fits, formats, _⟩
    rcases repr_ok_iff.mp formats with
      ⟨⟨address, scope, hasAddress, hasScope, addressUtf8, scopeUtf8⟩, peerUtf8, broadcastUtf8⟩
    intro field
    have fit := fits field
    cases held : object.references field with
    | none =>
        rw [held] at fit
        exact fit
    | some value =>
        rw [held] at fit
        refine ⟨fit, fun shown => ?_⟩
        cases field with
        | local_ =>
            rw [hasAddress] at held
            cases held
            exact addressUtf8
        | peer => exact peerUtf8 value held
        | ipv4Broadcast => exact broadcastUtf8 (shown rfl) value held
        | scope =>
            rw [hasScope] at held
            cases held
            exact scopeUtf8
  · intro admits
    have utf8 (field : Reference) (shown : field.Formatted object.family) (value : PyValue)
        (held : object.references field = some value) : HasUtf8 value := by
      have admitted := admits field
      rw [held] at admitted
      exact admitted.2 shown
    have present (field : Reference) (required : field.Required) :
        ∃ value, object.references field = some value := by
      have admitted := admits field
      cases held : object.references field with
      | none =>
          rw [held] at admitted
          exact absurd required admitted
      | some value => exact ⟨value, rfl⟩
    rcases present .local_ trivial with ⟨address, hasAddress⟩
    rcases present .scope trivial with ⟨scope, hasScope⟩
    refine ⟨fun field => ?_, repr_ok_iff.mpr ⟨⟨address, scope, hasAddress, hasScope, ?_, ?_⟩,
      ?_, ?_⟩, ?_⟩
    · have admitted := admits field
      cases held : object.references field with
      | none =>
          rw [held] at admitted
          exact admitted
      | some value =>
          rw [held] at admitted
          exact admitted.1
    · exact utf8 .local_ (fun other => by cases other) address hasAddress
    · exact utf8 .scope (fun other => by cases other) scope hasScope
    · exact fun peer held => utf8 .peer (fun other => by cases other) peer held
    · exact fun inet broadcast held => utf8 .ipv4Broadcast (fun _ => inet) broadcast held
    · refine (netlinkIpAddressDealloc_ok_iff _).mpr ⟨fun _ => rfl, ?_⟩
      rw [hasAddress]
      exact fun null => by cases null

/-- An object whose strings have all been made is well formed. -/
theorem ofMade_wellFormed {made : PyNetlinkIPaddress} (complete : made.scope.isSome) :
    (AddressObject.ofMade made).WellFormed nlAf2str := by
  have admitted (field : Reference) (value : Option String)
      (required : field.Required -> value.isSome) (family : Int) :
      field.Admits family (value.map PyValue.str) := by
    cases value with
    | none => exact fun needed => absurd (required needed) Bool.false_ne_true
    | some text => exact ⟨Or.inl ⟨text, rfl⟩, fun _ => ⟨text, rfl⟩⟩
  apply wellFormed_iff.mpr
  intro field
  cases field with
  | local_ => exact admitted .local_ (some made.local_) (fun _ => rfl) _
  | peer => exact admitted .peer made.peer (fun needed => absurd needed not_false) _
  | ipv4Broadcast =>
      exact admitted .ipv4Broadcast made.ipv4Broadcast (fun needed => absurd needed not_false) _
  | scope => exact admitted .scope made.scope (fun _ => complete) _

/-- A store keeps the object well formed exactly if the value is admitted. -/
theorem store_wellFormed_iff (wellFormed : object.WellFormed nlAf2str) {field : Reference}
    {value : Option PyValue} :
    (object.store field value).WellFormed nlAf2str ↔ field.Admits object.family value := by
  rw [wellFormed_iff]
  constructor
  · intro admits
    have stored := admits field
    rw [AddressObject.references_store, Function.update_self] at stored
    exact stored
  · intro admitted other
    rw [AddressObject.references_store]
    by_cases same : other = field
    · subst same
      rw [Function.update_self]
      exact admitted
    · rw [Function.update_of_ne same]
      exact wellFormed_iff.mp wellFormed other

/-- A script reads strings from the two members that are always there. -/
theorem getMember_required (wellFormed : object.WellFormed nlAf2str) {name : String}
    (required : name = "address" ∨ name = "scope") :
    ∃ value, object.getMember name = .ok value ∧ IsStr value := by
  have held (field : Reference) (needed : field.Required) :
      ∃ value, object.references field = some value ∧ IsStr value := by
    have fits := wellFormed.fits field
    cases present : object.references field with
    | none =>
        rw [present] at fits
        exact absurd needed fits
    | some value =>
        rw [present] at fits
        exact ⟨value, rfl, fits⟩
  rcases required with rfl | rfl
  · have listed : ethtoolNetlinkIpAddressMembers.lookup "address" = some (.objectEx .local_) :=
      rfl
    rcases held .local_ trivial with ⟨value, present, str⟩
    exact ⟨value, by simp only [AddressObject.getMember, listed, present], str⟩
  · have listed : ethtoolNetlinkIpAddressMembers.lookup "scope" = some (.objectEx .scope) :=
      rfl
    rcases held .scope trivial with ⟨value, present, str⟩
    exact ⟨value, by simp only [AddressObject.getMember, listed, present], str⟩

end WellFormed

/-! ## One operation -/

/-- Every name is that of a member that is a reference, is `netmask`, or is
not in the table. -/
theorem lookup_members (name : String) :
    (∃ field, (ethtoolNetlinkIpAddressMembers.lookup name = some (.object field) ∨
          ethtoolNetlinkIpAddressMembers.lookup name = some (.objectEx field)) ∧
        name ∈ ["address", "peer_address", "broadcast", "scope"] ∧
        (field.Required ↔ name = "address" ∨ name = "scope") ∧
        (field = .ipv4Broadcast ↔ name = "broadcast")) ∨
      ((ethtoolNetlinkIpAddressMembers.lookup name = some .int ∨
          ethtoolNetlinkIpAddressMembers.lookup name = none) ∧
        name ∉ ["address", "peer_address", "broadcast", "scope"]) := by
  by_cases address : name = "address"
  · subst address
    exact Or.inl ⟨.local_, Or.inr rfl, by decide, by simp [Reference.Required], by simp⟩
  · by_cases peer : name = "peer_address"
    · subst peer
      exact Or.inl ⟨.peer, Or.inr rfl, by decide, by simp [Reference.Required], by simp⟩
    · by_cases netmask : name = "netmask"
      · subst netmask
        exact Or.inr ⟨Or.inl rfl, by decide⟩
      · by_cases broadcast : name = "broadcast"
        · subst broadcast
          exact Or.inl ⟨.ipv4Broadcast, Or.inl rfl, by decide, by simp [Reference.Required],
            by simp⟩
        · by_cases scope : name = "scope"
          · subst scope
            exact Or.inl ⟨.scope, Or.inr rfl, by decide, by simp [Reference.Required], by simp⟩
          · refine Or.inr ⟨Or.inr ?_, ?_⟩
            · simp [ethtoolNetlinkIpAddressMembers, List.lookup, beq_eq_false_iff_ne.mpr, address,
                peer, netmask, broadcast, scope]
            · simp [address, peer, broadcast, scope]

section Operation

variable {nlAf2str : Int -> String} {width : LongWidth} {object next : AddressObject}

/-- `netmask` and unknown names do not touch the references. -/
theorem setMember_other {name : String} {value : Option PyValue}
    (wellFormed : object.WellFormed nlAf2str)
    (other : ethtoolNetlinkIpAddressMembers.lookup name = some .int ∨
      ethtoolNetlinkIpAddressMembers.lookup name = none) :
    ((object.setMember width name value).toOption.getD object).WellFormed nlAf2str := by
  rcases other with int | absent
  · simp only [AddressObject.setMember, int]
    cases value with
    | none => exact wellFormed
    | some number =>
        rcases converted : pyLongAsLong width number with ⟨long, failed⟩
        simp only [converted]
        cases failed with
        | some error => exact wellFormed
        | none => exact wellFormed_iff.mpr (fun field => wellFormed_iff.mp wellFormed field)
  · simp only [AddressObject.setMember, absent]
    exact wellFormed

/-- An assignment is a store. -/
theorem setMember_assign {name : String} {field : Reference} (value : PyValue)
    (found : ethtoolNetlinkIpAddressMembers.lookup name = some (.object field) ∨
      ethtoolNetlinkIpAddressMembers.lookup name = some (.objectEx field)) :
    object.setMember width name (some value) = .ok (object.store field (some value)) := by
  rcases found with plain | strict
  · simp only [AddressObject.setMember, plain]
  · simp [AddressObject.setMember, strict]

/-- A deletion stores NULL, or finds it there already. -/
theorem setMember_delete {name : String} {field : Reference}
    (found : ethtoolNetlinkIpAddressMembers.lookup name = some (.object field) ∨
      ethtoolNetlinkIpAddressMembers.lookup name = some (.objectEx field)) :
    (object.setMember width name none).toOption.getD object = object.store field none := by
  rcases found with plain | strict
  · simp only [AddressObject.setMember, plain]
    rfl
  · simp only [AddressObject.setMember, strict, true_and]
    by_cases null : object.references field = none
    · rw [if_pos null, AddressObject.store, ← null, Function.update_eq_self]
      rfl
    · rw [if_neg null]
      rfl

/-- Nothing that a script does changes the family. -/
theorem attributeStep_family {action : AttributeAction}
    (taken : attributeStep width object action = some next) : next.family = object.family := by
  have set (name : String) (value : Option PyValue) :
      ((object.setMember width name value).toOption.getD object).family = object.family := by
    rcases lookup_members name with ⟨field, found, _⟩ | ⟨other, _⟩
    · cases value with
      | none =>
          rw [setMember_delete found]
          rfl
      | some value =>
          rw [setMember_assign value found]
          rfl
    · rcases other with int | absent
      · simp only [AddressObject.setMember, int]
        cases value with
        | none => rfl
        | some number =>
            rcases converted : pyLongAsLong width number with ⟨long, failed⟩
            simp only [converted]
            cases failed <;> rfl
      · simp only [AddressObject.setMember, absent]
        rfl
  cases action with
  | read name =>
      cases taken
      rfl
  | assign name value =>
      cases taken
      exact set name (some value)
  | delete name =>
      cases taken
      exact set name none

/-- One operation keeps the object well formed exactly if it keeps the
strings. -/
theorem attributeStep_wellFormed_iff {action : AttributeAction}
    (wellFormed : object.WellFormed nlAf2str)
    (taken : attributeStep width object action = some next) :
    next.WellFormed nlAf2str ↔ action.KeepsStrings object.family := by
  cases action with
  | read name =>
      cases taken
      exact ⟨fun _ => trivial, fun _ => wellFormed⟩
  | assign name value =>
      cases taken
      rcases lookup_members name with ⟨field, found, listed, _, broadcast⟩ | ⟨other, unlisted⟩
      · rw [setMember_assign value found]
        change (object.store field (some value)).WellFormed nlAf2str ↔ _
        rw [store_wellFormed_iff wellFormed]
        simp only [Reference.Admits, Reference.Formatted, broadcast]
        exact ⟨fun admits _ => admits, fun keeps => keeps listed⟩
      · exact ⟨fun _ listed => absurd listed unlisted, fun _ => setMember_other wellFormed other⟩
  | delete name =>
      cases taken
      rcases lookup_members name with ⟨field, found, _, required, _⟩ | ⟨other, unlisted⟩
      · rw [setMember_delete found, store_wellFormed_iff wellFormed]
        change ¬ field.Required ↔ name ≠ "address" ∧ name ≠ "scope"
        rw [required, not_or]
      · refine ⟨fun _ => ⟨?_, ?_⟩, fun _ => setMember_other wellFormed other⟩
        · rintro rfl
          exact unlisted (by decide)
        · rintro rfl
          exact unlisted (by decide)

end Operation

/-! ## Runs -/

/-- What the constructor returns without an exception has all its strings. -/
theorem scope_of_constructed {text : AddressText} {addr : RtnlAddr} {building : Building}
    {made : PyNetlinkIPaddress}
    (constructed : makePythonAddressFromRtnlAddr text addr building none =
      .ok { object := some made, pending := none }) : made.scope.isSome := by
  have supported : addr.Supported := by
    by_contra other
    unfold RtnlAddr.Supported at other
    rw [makePythonAddressFromRtnlAddr, if_neg other] at constructed
    cases constructed
  have clean : ¬ building.Raises addr := fun raises =>
    absurd (makePythonAddress_pending text none supported constructed (Or.inr raises))
      Bool.false_ne_true
  rw [makePythonAddress_clean text none supported clean] at constructed
  cases constructed
  rfl

/-- An object that the constructor has made without a failure is well formed
in every state of a run exactly if all operations of the run keep the
strings. -/
theorem always_wellFormed_iff (nlAf2str : Int -> String) (width : LongWidth)
    {text : AddressText} {addr : RtnlAddr} {building : Building} {made : PyNetlinkIPaddress}
    (constructed : makePythonAddressFromRtnlAddr text addr building none =
      .ok { object := some made, pending := none }) (actions : List AttributeAction) :
    Always (attributeStep width) (fun object => object.WellFormed nlAf2str) (.ofMade made)
        actions ↔
      forall action, action ∈ actions -> action.KeepsStrings made.family := by
  have start := @ofMade_wellFormed nlAf2str made (scope_of_constructed constructed)
  have sameFamily : Always (attributeStep width) (fun object => object.family = made.family)
      (.ofMade made) actions :=
    always_of_guarded
      (fun _ _ _ taken same _ => (attributeStep_family taken).trans same) rfl
      (eachStep_of_forall_mem (fun action _ => trivial) _)
  constructor
  · intro always
    have each : EachStep (attributeStep width)
        (fun _ action _ => action.KeepsStrings made.family) (.ofMade made) actions := by
      refine eachStep_of_always ?_ (always.and sameFamily)
      intro object action next taken before after
      rw [← before.2]
      exact (attributeStep_wellFormed_iff before.1 taken).mp after.1
    exact forall_mem_of_eachStep (attributeStep_total width) each
  · intro keeps
    have guarded : EachStep (attributeStep width)
        (fun _ action _ => action.KeepsStrings made.family) (.ofMade made) actions :=
      eachStep_of_forall_mem keeps _
    have both := always_of_guarded
      (fun object action next taken (before : object.WellFormed nlAf2str ∧
          object.family = made.family) kept =>
        ⟨(attributeStep_wellFormed_iff before.1 taken).mpr (before.2.symm ▸ kept),
          (attributeStep_family taken).trans before.2⟩)
      ⟨start, rfl⟩ guarded
    exact both.mono (fun _ => And.left)

/-- A string that is a lone surrogate. -/
def loneSurrogate : SurrogateText where
  text := [.surrogate 0]
  surrogate := ⟨0, List.mem_singleton_self _⟩

/-- Strings are assigned, and what may be absent is deleted. -/
theorem always_wellFormed_eth0 :
    Always (attributeStep .bits64) (fun object => object.WellFormed (fun _ => "inet"))
      (.ofMade (addressOf plainText eth0Addr))
      [.assign "scope" (.str "link"), .delete "broadcast", .read "broadcast",
        .assign "netmask" (.surrogates loneSurrogate), .delete "peer_address",
        .assign "peer_address" (.str "10.0.0.2")] := by
  refine (always_wellFormed_iff (fun _ => "inet") .bits64
    (rfl : makePythonAddressFromRtnlAddr plainText eth0Addr .success none = _) _).mpr ?_
  intro action member
  simp only [List.mem_cons, List.not_mem_nil, or_false] at member
  rcases member with rfl | rfl | rfl | rfl | rfl | rfl
  · exact fun _ => ⟨Or.inl ⟨_, rfl⟩, fun _ => ⟨_, rfl⟩⟩
  · exact ⟨by decide, by decide⟩
  · trivial
  · exact fun listed => absurd listed (by decide)
  · exact ⟨by decide, by decide⟩
  · exact fun _ => ⟨Or.inl ⟨_, rfl⟩, fun _ => ⟨_, rfl⟩⟩

/-- After the address is deleted, deallocation drops NULL. -/
theorem deleted_address_not_wellFormed :
    ¬ Always (attributeStep .bits64) (fun object => object.WellFormed (fun _ => "inet"))
      (.ofMade (addressOf plainText eth0Addr)) [.delete "address"] := by
  intro always
  rcases (always.2 _ rfl).drops with ⟨values, deleted⟩
  cases deleted

end Netlink
end PythonEthtool
