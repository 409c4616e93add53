import PythonEthtool.Foundations.Cells
import PythonEthtool.Foundations.Stages
import PythonEthtool.Ioctl.Calls
import PythonEthtool.Ioctl.LongWidth
import PythonEthtool.Pethtool.Requests

namespace PythonEthtool
namespace Pethtool

open Foundations
open Ioctl
open Python

/-!
# The script over the extension module

Here the functions of the extension module take the place of the module that
the script is written against.  A call of the script becomes a call of the C
function with the bytes of the device name; the kernel sees the requests that
the C function makes, and the script gets back what the interpreter makes of
its result.

What the drivers hold is seen as one word for each setting of each device.
The kernel is an argument.  It is assumed to behave as the requests document
it: a query shows the words of its device and changes nothing, and a request
that sets something stores what it carries if it succeeds, and nothing if it
fails.  Which requests succeed is left open.
-/

/-! ## Settings of a device -/

/-- A field of one of the two structures, or a feature. -/
inductive Knob where
  | field (settings : Settings) (name : String)
  | feature (feature : Feature)
  deriving DecidableEq

/-- What one request of the driver carries. -/
inductive Group where
  | ofSettings (settings : Settings)
  | ofFeature (feature : Feature)
  deriving DecidableEq

/-- The settings in the structure of a request, with their offsets. -/
def Group.layout : Group -> List (Knob × Nat)
  | .ofSettings settings =>
      settings.desc.map (fun row => (.field settings row.name, row.offset))
  | .ofFeature feature => [(.feature feature, ethtoolValue.offsetof "data")]

def Group.getCmd : Group -> UInt32
  | .ofSettings .coalesce => ETHTOOL_GCOALESCE
  | .ofSettings .ringparam => ETHTOOL_GRINGPARAM
  | .ofFeature .sg => ETHTOOL_GSG
  | .ofFeature .tso => ETHTOOL_GTSO
  | .ofFeature .ufo => ETHTOOL_GUFO
  | .ofFeature .gso => ETHTOOL_GGSO
  | .ofFeature .gro => ETHTOOL_GGRO

/-- The module sets no scatter-gather and no UDP fragmentation offload. -/
def Group.setCmd : Group -> Option UInt32
  | .ofSettings .coalesce => some ETHTOOL_SCOALESCE
  | .ofSettings .ringparam => some ETHTOOL_SRINGPARAM
  | .ofFeature .sg => none
  | .ofFeature .tso => some ETHTOOL_STSO
  | .ofFeature .ufo => none
  | .ofFeature .gso => some ETHTOOL_SGSO
  | .ofFeature .gro => some ETHTOOL_SGRO

/-- The words of a structure as assignments to the settings. -/
def Group.carried (group : Group) (data : Memory) : List (Knob × UInt32) :=
  group.layout.map (fun entry => (entry.1, load32 data entry.2))

/-- The settings of the devices, by the names under which the kernel has
them. -/
abbrev Words :=
  Cells (List UInt8) Knob UInt32

abbrev Write :=
  CellWrite (List UInt8) Knob UInt32

/-! ## Calls -/

/-- The entries of a dictionary from names to integers. -/
def settingsEntries : List (PyValue × PyValue) -> Option (List (String × Int))
  | [] => some []
  | (.str name, .int value) :: entries =>
      (settingsEntries entries).map (fun rest => (name, value) :: rest)
  | _ => none

/-- A dictionary of the module as the script uses it.  The functions of the
module return no other objects. -/
def readSettings (settings : Settings) (object : PyObject) :
    Except PyError (CurrentSettings settings) :=
  let unusable : PyError := ⟨.typeError, .text "not a dictionary of settings"⟩
  match object with
  | .value _ => .error unusable
  | .dict dict =>
      match settingsEntries dict.entries with
      | none => .error unusable
      | some entries =>
          if nodup : (entries.map Prod.fst).Nodup then
            let map : SettingsMap := ⟨entries, nodup⟩
            if complete : forall name, name ∈ settings.struct.fields -> (map.get? name).isSome then
              .ok ⟨map, complete⟩
            else .error unusable
          else .error unusable

/-- The functions `get_sg`, `get_tso`, `get_ufo`, `get_gso` and `get_gro`. -/
def featureGetter : Feature -> Host -> CString -> CallResult
  | .sg => getSg
  | .tso => getTso
  | .ufo => getUfo
  | .gso => getGso
  | .gro => getGro

/-- The functions `set_tso`, `set_gso` and `set_gro`.  There are no others. -/
def featureSetter (feature : Feature) (value : PyValue) :
    Option (Host -> CString -> CallResult) :=
  match feature with
  | .sg => none
  | .tso => some (fun host devname => setTso host devname value)
  | .ufo => none
  | .gso => some (fun host devname => setGso host devname value)
  | .gro => some (fun host devname => setGro host devname value)

/-- The kernel as the module sees it in each state, what a request makes of
the state, and the answers to the calls that are not about settings. -/
structure Machine (State : Type) where
  host : State -> Host
  after : State -> IoctlRequest -> State
  others : Ethtool State

section Calls

variable {State : Type} (machine : Machine State)

/-- One call of a C function. -/
def Machine.invoke (state : State) (interface : String) (body : Host -> CString -> CallResult) :
    Except PyError PyObject × State :=
  match cstringOf interface with
  | none => (.error ⟨.valueError, .text "embedded null character"⟩, state)
  | some devname =>
      let result := body (machine.host state) devname
      (returned result, result.requests.foldl machine.after state)

/-- The module that the script calls. -/
def Machine.ethtool : Ethtool State where
  answer call state :=
    match call with
    | .getSettings settings interface =>
        let made := machine.invoke state interface (getter settings)
        (made.1 >>= readSettings settings, made.2)
    | .setSettings settings interface map =>
        let made := machine.invoke state interface
          (fun host devname => settings.set host devname (.dict (toPyDict map)))
        (made.1.map (fun _ => ()), made.2)
    | .getFeature feature interface =>
        let made := machine.invoke state interface (featureGetter feature)
        (made.1 >>= readInt, made.2)
    | .setFeature feature interface value =>
        match featureSetter feature (.int value) with
        | none => (.error ⟨.attributeError, .text "module 'ethtool' has no such attribute"⟩, state)
        | some body =>
            let made := machine.invoke state interface body
            (made.1.map (fun _ => ()), made.2)
    | call => machine.others.answer call state

end Calls

/-! ## Drivers that store their settings -/

/-- The machine keeps its settings in these words. -/
structure Machine.Stores {State : Type} (machine : Machine State) (width : LongWidth)
    (words : State -> Words) : Prop where
  width_eq : forall state, (machine.host state).width = width
  result_le : forall state request, request.code = .siocethtool ->
    ((machine.host state).ioctl request).result ≤ 0
  shows : forall state request (group : Group), request.code = .siocethtool ->
    load32 request.data 0 = group.getCmd -> ((machine.host state).ioctl request).result = 0 ->
    forall entry, entry ∈ group.layout ->
      load32 ((machine.host state).ioctl request).data entry.2 =
        words state (readString request.ifrName) entry.1
  looks : forall state request (group : Group), request.code = .siocethtool ->
    load32 request.data 0 = group.getCmd -> words (machine.after state request) = words state
  stores : forall state request (group : Group), request.code = .siocethtool ->
    group.setCmd = some (load32 request.data 0) ->
    words (machine.after state request) =
      if ((machine.host state).ioctl request).result = 0 then
        (words state).put ⟨readString request.ifrName, group.carried request.data⟩
      else words state
  apart : forall call state, words (machine.others.answer call state).2 = words state

section Requests

variable {State : Type} {machine : Machine State} {width : LongWidth} {words : State -> Words}
  {state : State} {group : Group} {cmd : UInt32} {devname : CString} {value : Memory}
  {pending : Option PyError}

theorem readString_ifrName (devname : CString) :
    readString (ifrName devname) = devname.bytes.take 15 := by
  rw [ifrName_eq, readString_strncpyTerminated]

/-- The command is written in front of the settings. -/
theorem load_writeCmd_layout (data : Memory) (cmd : UInt32) {entry : Knob × Nat}
    (member : entry ∈ group.layout) :
    load32 (writeCmd data cmd) entry.2 = load32 data entry.2 := by
  rw [writeCmd_eq]
  apply load32_store32_disjoint
  cases group with
  | ofSettings settings =>
      rcases List.mem_map.mp member with ⟨row, rowMember, rfl⟩
      exact settings.covers.cmd_disjoint rowMember
  | ofFeature feature =>
      rw [List.mem_singleton.mp member]
      exact Or.inr (Nat.le_refl 4)

theorem carried_writeCmd (data : Memory) (cmd : UInt32) :
    group.carried (writeCmd data cmd) = group.carried data :=
  List.map_congr_left (fun entry member =>
    congrArg (Prod.mk entry.1) (load_writeCmd_layout data cmd member))

theorem sendCommand_closed (closed : (machine.host state).socket < 0) :
    sendCommand (machine.host state) cmd devname value pending =
      { err := -1
        value := writeCmd value cmd
        pending := some ((setFromErrno (machine.host state).socketErrno).over pending)
        requests := [] } := by
  rw [sendCommand, if_pos closed]

/-- The request that `send_command` makes. -/
def commandRequest (cmd : UInt32) (devname : CString) (value : Memory) : IoctlRequest where
  code := .siocethtool
  ifrName := ifrName devname
  data := writeCmd value cmd

theorem sendCommand_open (opens : 0 ≤ (machine.host state).socket) :
    sendCommand (machine.host state) cmd devname value pending =
      { err := ((machine.host state).ioctl (commandRequest cmd devname value)).result
        value := ((machine.host state).ioctl (commandRequest cmd devname value)).data
        pending :=
          if ((machine.host state).ioctl (commandRequest cmd devname value)).result < 0 then
            some ((setFromErrno
              ((machine.host state).ioctl (commandRequest cmd devname value)).errno).over pending)
          else pending
        requests := [commandRequest cmd devname value] } := by
  rw [sendCommand, if_neg (Int.not_lt.mpr opens)]
  rfl

theorem load_commandRequest (cmd : UInt32) (devname : CString) (value : Memory) :
    load32 (commandRequest cmd devname value).data 0 = cmd := by
  change load32 (writeCmd value cmd) 0 = cmd
  rw [writeCmd_eq, load32_store32]

theorem readString_commandRequest (cmd : UInt32) (devname : CString) (value : Memory) :
    readString (commandRequest cmd devname value).ifrName = devname.bytes.take 15 :=
  readString_ifrName devname

variable (stores : machine.Stores width words)
include stores

/-- A query changes nothing. -/
theorem sendCommand_looks (query : cmd = group.getCmd) :
    words ((sendCommand (machine.host state) cmd devname value pending).requests.foldl
      machine.after state) = words state := by
  by_cases closed : (machine.host state).socket < 0
  · rw [sendCommand_closed closed]
    rfl
  · rw [sendCommand_open (Int.not_lt.mp closed)]
    apply stores.looks state (commandRequest cmd devname value) group rfl
    rw [load_commandRequest, query]

/-- A query that does not fail shows the settings. -/
theorem sendCommand_shows (query : cmd = group.getCmd)
    (fine : ¬ (sendCommand (machine.host state) cmd devname value pending).err < 0)
    {entry : Knob × Nat} (member : entry ∈ group.layout) :
    load32 (sendCommand (machine.host state) cmd devname value pending).value entry.2 =
      words state (devname.bytes.take 15) entry.1 := by
  by_cases closed : (machine.host state).socket < 0
  · rw [sendCommand_closed closed] at fine
    exact absurd (by decide : (-1 : Int) < 0) fine
  · rw [sendCommand_open (Int.not_lt.mp closed)] at fine ⊢
    have upper := stores.result_le state (commandRequest cmd devname value) rfl
    have zero : ((machine.host state).ioctl (commandRequest cmd devname value)).result = 0 :=
      Int.le_antisymm upper (Int.not_lt.mp fine)
    rw [← readString_commandRequest cmd devname value]
    refine stores.shows state _ group rfl ?_ zero entry member
    rw [load_commandRequest, query]

/-- A request that sets something stores all that it carries, or fails and
stores nothing. -/
theorem sendCommand_stores (sets : group.setCmd = some cmd) (state : State) (devname : CString)
    (value : Memory) (pending : Option PyError) :
    words ((sendCommand (machine.host state) cmd devname value pending).requests.foldl
        machine.after state) =
      if (sendCommand (machine.host state) cmd devname value pending).err = 0 then
        (words state).put ⟨devname.bytes.take 15, group.carried value⟩
      else words state := by
  by_cases closed : (machine.host state).socket < 0
  · rw [sendCommand_closed closed]
    rfl
  · rw [sendCommand_open (Int.not_lt.mp closed)]
    have stored := stores.stores state (commandRequest cmd devname value) group rfl (by
      rw [load_commandRequest, sets])
    rw [readString_commandRequest] at stored
    change words (machine.after state (commandRequest cmd devname value)) = _
    rw [stored]
    change (if _ = 0 then (words state).put ⟨_, group.carried (writeCmd value cmd)⟩
      else words state) = _
    rw [carried_writeCmd]

end Requests

/-! ## What a value becomes

A word of a driver reaches the script as an integer and comes back as the
word that it was, whatever the width of `long`.  An integer that fits no
`long` is sent as -1.
-/

/-- The word that the setters of dictionaries send for an integer. -/
def sentWord (width : LongWidth) (value : Int) : UInt32 :=
  UInt32.ofInt (intAsLong width value).1

theorem toLong_bounds (width : LongWidth) (word : UInt32) :
    -width.bound ≤ toLong width word ∧ toLong width word < width.bound := by
  have bound := UInt32.toNat_lt word
  by_cases small : (word.toNat : Int) < width.bound
  · rw [toLong, if_pos small]
    cases width with
    | bits32 => simp only [LongWidth.bound] at small ⊢; omega
    | bits64 => simp only [LongWidth.bound] at small ⊢; omega
  · rw [toLong, if_neg small]
    cases width with
    | bits32 => simp only [LongWidth.bound] at small ⊢; omega
    | bits64 => simp only [LongWidth.bound] at small; omega

theorem toLong_emod (width : LongWidth) (word : UInt32) :
    toLong width word % 2 ^ 32 = word.toNat := by
  have bound := UInt32.toNat_lt word
  by_cases small : (word.toNat : Int) < width.bound
  · rw [toLong, if_pos small]
    omega
  · rw [toLong, if_neg small]
    cases width with
    | bits32 => simp only [LongWidth.bound]; omega
    | bits64 => simp only [LongWidth.bound] at small; omega

theorem sentWord_toLong (width : LongWidth) (word : UInt32) :
    sentWord width (toLong width word) = word := by
  have same := toLong_emod width word
  have bound := UInt32.toNat_lt word
  rw [sentWord, intAsLong, if_pos (toLong_bounds width word)]
  apply UInt32.toNat_inj.mp
  simp only [UInt32.ofInt, UInt32.toNat_ofNat']
  omega

/-- The write of these values to fields of a device. -/
def fieldWrite (width : LongWidth) (settings : Settings) (interface : String)
    (assignments : List (String × Int)) : Write where
  owner := kernelName interface
  assignments := assignments.map
    (fun assignment => (.field settings assignment.1, sentWord width assignment.2))

/-- The write that sets one feature. -/
def featureWrite (feature : Feature) (interface : String) (value : Int) : Write where
  owner := kernelName interface
  assignments := [(.feature feature, UInt32.ofInt value)]

/-! ## Dictionaries back and forth -/

section Dictionaries

variable {settings : Settings}

theorem settingsEntries_pyEntries (entries : List (String × Int)) :
    settingsEntries (pyEntries entries) = some entries := by
  induction entries with
  | nil => rfl
  | cons entry entries ih =>
      change (settingsEntries (pyEntries entries)).map _ = _
      rw [ih]
      rfl

theorem pyEntries_of_settingsEntries {objects : List (PyValue × PyValue)}
    {entries : List (String × Int)} (read : settingsEntries objects = some entries) :
    objects = pyEntries entries := by
  fun_induction settingsEntries objects generalizing entries with
  | case1 =>
      cases read
      rfl
  | case2 name value rest ih =>
      rcases Option.map_eq_some_iff.mp read with ⟨others, readRest, rfl⟩
      rw [ih readRest]
      rfl
  | case3 => cases read

/-- What the module returns is read as it is. -/
theorem readSettings_toPyDict (current : CurrentSettings settings) :
    readSettings settings (.dict (toPyDict current.map)) = .ok current := by
  have entries : settingsEntries (toPyDict current.map).entries = some current.map.entries :=
    settingsEntries_pyEntries current.map.entries
  simp only [readSettings, entries]
  rw [dif_pos current.map.nodup, dif_pos current.complete]

theorem get?_of_readSettings {dict : PyDict} {current : CurrentSettings settings}
    (read : readSettings settings (.dict dict) = .ok current) (name : String) :
    dict.get? (.str name) = (current.map.get? name).map PyValue.int := by
  cases objects : settingsEntries dict.entries with
  | none =>
      simp only [readSettings, objects] at read
      cases read
  | some entries =>
      simp only [readSettings, objects] at read
      by_cases nodup : (entries.map Prod.fst).Nodup
      · rw [dif_pos nodup] at read
        split at read
        · cases read
          rw [Dictionary.get?, pyEntries_of_settingsEntries objects]
          exact lookup_pyEntries entries name
        · cases read
      · rw [dif_neg nodup] at read
        cases read

end Dictionaries

/-! ## Calls that look -/

section Looking

variable {State : Type} {machine : Machine State} {width : LongWidth} {words : State -> Words}
  {settings : Settings} {interface : String} {state : State}

theorem cstringOf_bytes {devname : CString} (named : cstringOf interface = some devname) :
    devname.bytes.take 15 = kernelName interface :=
  congrArg (List.take 15) (bytes_of_cstringOf named)

theorem getter_eq (settings : Settings) (host : Host) (devname : CString) :
    getter settings host devname =
      Ioctl.getSettings settings host (Group.ofSettings settings).getCmd devname := by
  cases settings with
  | coalesce => rfl
  | ringparam => rfl

theorem featureGetter_eq (feature : Feature) (host : Host) (devname : CString) :
    featureGetter feature host devname =
      getDevIntValue host (Group.ofFeature feature).getCmd devname := by
  cases feature with
  | sg => rfl
  | tso => rfl
  | ufo => rfl
  | gso => rfl
  | gro => rfl

/-- A function that makes the request of a query. -/
def Queries (body : Host -> CString -> CallResult) : Prop :=
  ∃ group : Group, forall host devname,
    (body host devname).requests = (getDevValue host group.getCmd devname).requests

theorem queries_getter (settings : Settings) : Queries (getter settings) := by
  refine ⟨.ofSettings settings, ?_⟩
  intro host devname
  rw [getter_eq, Ioctl.getSettings]
  split <;> rfl

theorem queries_featureGetter (feature : Feature) : Queries (featureGetter feature) := by
  refine ⟨.ofFeature feature, ?_⟩
  intro host devname
  rw [featureGetter_eq, getDevIntValue]
  split <;> rfl

variable (stores : machine.Stores width words)
include stores

theorem invoke_queries {body : Host -> CString -> CallResult} (queries : Queries body) :
    words (machine.invoke state interface body).2 = words state := by
  rw [Machine.invoke]
  cases cstringOf interface with
  | none => rfl
  | some devname =>
      rcases queries with ⟨group, same⟩
      change words ((body (machine.host state) devname).requests.foldl machine.after state) = _
      rw [same]
      exact sendCommand_looks stores rfl

/-- A getter that returns something returns the words of the device. -/
theorem getter_shows {devname : CString} {object : PyObject}
    (value : (getter settings (machine.host state) devname).value = some object) :
    ∃ dict, object = .dict dict ∧ forall name, name ∈ settings.struct.fields ->
      dict.get? (.str name) =
        some (.int (toLong width (words state (devname.bytes.take 15) (.field settings name)))) := by
  rw [getter_eq, Ioctl.getSettings] at value
  by_cases failed : (getDevValue (machine.host state) (Group.ofSettings settings).getCmd
      devname).err < 0
  · simp only [if_pos failed] at value
    cases value
  · rcases createDict_get settings (machine.host state).width (getDevValue (machine.host state)
      (Group.ofSettings settings).getCmd devname).value with ⟨dict, created, _, fields⟩
    simp only [if_neg failed, created, Option.map_some] at value
    refine ⟨dict, (Option.some.inj value).symm, ?_⟩
    intro name field
    rcases settings.covers.row_of_field field with ⟨row, member, rfl⟩
    have listed : (Knob.field settings row.name, row.offset) ∈
        (Group.ofSettings settings).layout := List.mem_map_of_mem member
    have shown : load32 (getDevValue (machine.host state) (Group.ofSettings settings).getCmd
        devname).value row.offset =
          words state (devname.bytes.take 15) (.field settings row.name) :=
      sendCommand_shows stores rfl failed listed
    rw [fields row.name field, ← settings.covers.offset member, shown, stores.width_eq]

/-- The script reads the words of the device. -/
theorem getSettings_shows {current : CurrentSettings settings}
    (read : (machine.ethtool.answer (.getSettings settings interface) state).1 = .ok current)
    {name : String} (field : name ∈ settings.struct.fields) :
    current.map.get? name =
      some (toLong width (words state (kernelName interface) (.field settings name))) := by
  change ((machine.invoke state interface (getter settings)).1 >>= readSettings settings) =
    .ok current at read
  rcases except_bind_eq_ok read with ⟨object, made, decoded⟩
  rw [Machine.invoke] at made
  cases named : cstringOf interface with
  | none =>
      rw [named] at made
      cases made
  | some devname =>
      rw [named] at made
      rcases getter_shows stores (returned_eq_ok made).1 with ⟨dict, rfl, fields⟩
      have entry := (get?_of_readSettings decoded name).symm.trans (fields name field)
      rw [cstringOf_bytes named] at entry
      rcases Option.map_eq_some_iff.mp entry with ⟨value, found, same⟩
      rw [found, PyValue.int.inj same]

end Looking

/-! ## Calls that store -/

section Storing

variable {State : Type} {machine : Machine State} {width : LongWidth} {words : State -> Words}
  {settings : Settings} {interface : String} {state : State} {map : SettingsMap}

/-- The write of a map that has a value for every field. -/
def wholeWrite (width : LongWidth) (settings : Settings) (interface : String)
    (map : SettingsMap) : Write where
  owner := kernelName interface
  assignments := settings.struct.fields.map
    (fun name => (.field settings name, sentWord width ((map.get? name).getD 0)))

theorem allPresent_toPyDict
    (complete : forall name, name ∈ settings.struct.fields -> (map.get? name).isSome) :
    AllPresent (.dict (toPyDict map)) settings.desc := by
  rw [allPresent_iff_fields]
  intro name field
  rw [pyDictGetItemString, get?_toPyDict, Option.isSome_map]
  exact complete name field

/-- The structure that a setter fills carries the whole map. -/
theorem carried_fromDict (width : LongWidth) (prior : Memory)
    (complete : forall name, name ∈ settings.struct.fields -> (map.get? name).isSome) :
    (Group.ofSettings settings).carried
        (structDescFromDict width (.dict (toPyDict map)) settings.desc prior none).target =
      (wholeWrite width settings interface map).assignments := by
  have covers := settings.covers
  simp only [Group.carried, Group.layout, wholeWrite, covers.fields, List.map_map]
  apply List.map_congr_left
  intro row member
  have field : row.name ∈ settings.struct.fields := by
    rw [covers.fields]
    exact List.mem_map_of_mem member
  rcases Option.isSome_iff_exists.mp (complete row.name field) with ⟨value, present⟩
  have found : pyDictGetItemString (.dict (toPyDict map)) row.name = some (.int value) := by
    rw [pyDictGetItemString, get?_toPyDict, present]
    rfl
  have loaded : load32 (structDescFromDict width (.dict (toPyDict map)) settings.desc prior
      none).target row.offset = UInt32.ofInt (pyLongAsLong width (.int value)).1 :=
    fromDict_load (fun _ => covers.size) covers.pairwise (allPresent_toPyDict complete) member
      found prior none
  simp only [Function.comp_apply, loaded, present, Option.getD_some]
  rfl

theorem set_eq (settings : Settings) (host : Host) (devname : CString) (object : PyObject) :
    ∃ cmd, (Group.ofSettings settings).setCmd = some cmd ∧
      settings.set host devname object = Ioctl.setSettings settings host cmd devname object := by
  cases settings with
  | coalesce => exact ⟨ETHTOOL_SCOALESCE, rfl, rfl⟩
  | ringparam => exact ⟨ETHTOOL_SRINGPARAM, rfl, rfl⟩

/-- What the setter sends of a map with every field. -/
theorem set_sends (interface : String) (devname : CString)
    (complete : forall name, name ∈ settings.struct.fields -> (map.get? name).isSome)
    (host : Host) : ∃ cmd value pending, (Group.ofSettings settings).setCmd = some cmd ∧
      (Group.ofSettings settings).carried value =
        (wholeWrite host.width settings interface map).assignments ∧
      (settings.set host devname (.dict (toPyDict map))).requests =
        (sendCommand host cmd devname value pending).requests ∧
      ((settings.set host devname (.dict (toPyDict map))).value = none ↔
        (sendCommand host cmd devname value pending).err ≠ 0) ∧
      (settings.set host devname (.dict (toPyDict map))).pending =
        (sendCommand host cmd devname value pending).pending ∧
      pending = (structDescFromDict host.width (.dict (toPyDict map)) settings.desc host.stack
        none).pending := by
  have sizes : forall row, row ∈ settings.desc -> row.size = 4 := fun _ => settings.covers.size
  have runs : (structDescFromDict host.width (.dict (toPyDict map)) settings.desc host.stack
      none).returned = 0 :=
    (fromDict_returned_iff sizes host.stack none).mpr (allPresent_toPyDict complete)
  rcases set_eq settings host devname (.dict (toPyDict map)) with ⟨cmd, sets, same⟩
  refine ⟨cmd, _, _, sets, carried_fromDict host.width host.stack complete, ?_, ?_, ?_, rfl⟩
  · rw [same, Ioctl.setSettings]
    simp only [if_pos runs]
  · rw [same, Ioctl.setSettings]
    simp only [if_pos runs]
    split
    · rename_i zero
      exact iff_of_false (by simp) (not_not.mpr zero)
    · rename_i nonzero
      exact iff_of_true rfl nonzero
  · rw [same, Ioctl.setSettings]
    simp only [if_pos runs]

/-- The setters of features are one body with their own commands. -/
theorem featureSetter_eq (feature : Feature) (value : Int) :
    featureSetter feature (.int value) = none ∨
      ∃ cmd body, featureSetter feature (.int value) = some body ∧
        (Group.ofFeature feature).setCmd = some cmd ∧
        body = fun host devname => devSetIntValue host cmd devname (.int value) := by
  cases feature with
  | sg => exact Or.inl rfl
  | ufo => exact Or.inl rfl
  | tso => exact Or.inr ⟨ETHTOOL_STSO, _, rfl, rfl, rfl⟩
  | gso => exact Or.inr ⟨ETHTOOL_SGSO, _, rfl, rfl, rfl⟩
  | gro => exact Or.inr ⟨ETHTOOL_SGRO, _, rfl, rfl, rfl⟩

theorem parseInt_value {width : LongWidth} {value data : Int}
    (parsed : parseInt width (.int value) = .ok data) : data = value := by
  rw [parseInt, pyLongAsLong, intAsLong] at parsed
  by_cases fits : -width.bound ≤ value ∧ value < width.bound
  · rw [if_pos fits] at parsed
    dsimp only at parsed
    split at parsed
    · cases parsed
    · split at parsed
      · cases parsed
      · cases parsed
        rfl
  · rw [if_neg fits] at parsed
    cases parsed

/-- An integer that the format `i` refuses is not sent. -/
theorem devSetIntValue_sends (host : Host) (cmd : UInt32) (devname : CString) (value : Int) :
    (devSetIntValue host cmd devname (.int value)).requests = [] ∨
      (parseInt host.width (.int value) = .ok value ∧
        (devSetIntValue host cmd devname (.int value)).requests =
          (sendCommand host cmd devname (store32 host.stack (ethtoolValue.offsetof "data")
            (UInt32.ofInt value)) none).requests) := by
  cases parsed : parseInt host.width (.int value) with
  | error error =>
      apply Or.inl
      simp only [devSetIntValue, parsed]
  | ok data =>
      have same : data = value := parseInt_value parsed
      subst same
      apply Or.inr
      refine ⟨rfl, ?_⟩
      simp only [devSetIntValue, parsed]

theorem carried_feature (feature : Feature) (stack : Memory) (word : UInt32) :
    (Group.ofFeature feature).carried (store32 stack (ethtoolValue.offsetof "data") word) =
      [(.feature feature, word)] := by
  change [(Knob.feature feature,
    load32 (store32 stack (ethtoolValue.offsetof "data") word) _)] = _
  rw [load32_store32]

variable (stores : machine.Stores width words)
include stores

/-- Writing settings stores the whole map or nothing. -/
theorem setSettings_words (state : State)
    (complete : forall name, name ∈ settings.struct.fields -> (map.get? name).isSome) :
    words (machine.ethtool.answer (.setSettings settings interface map) state).2 = words state ∨
      words (machine.ethtool.answer (.setSettings settings interface map) state).2 =
        (words state).put (wholeWrite width settings interface map) := by
  change words (machine.invoke state interface _).2 = _ ∨ words (machine.invoke state interface
    (fun host devname => settings.set host devname (.dict (toPyDict map)))).2 = _
  rw [Machine.invoke]
  cases named : cstringOf interface with
  | none => exact Or.inl rfl
  | some devname =>
      rcases set_sends interface devname complete (machine.host state) with
        ⟨cmd, value, pending, sets, carried, requests, _⟩
      have stored := sendCommand_stores stores sets state devname value pending
      rw [carried, cstringOf_bytes named, stores.width_eq] at stored
      change words ((settings.set (machine.host state) devname
        (.dict (toPyDict map))).requests.foldl machine.after state) = _ ∨
          words ((settings.set (machine.host state) devname
            (.dict (toPyDict map))).requests.foldl machine.after state) = _
      rw [requests, stored]
      split
      · exact Or.inr rfl
      · exact Or.inl rfl

/-- Setting a feature stores its word or nothing. -/
theorem setFeature_words (feature : Feature) (interface : String) (value : Int)
    (state : State) :
    words (machine.ethtool.answer (.setFeature feature interface value) state).2 = words state ∨
      words (machine.ethtool.answer (.setFeature feature interface value) state).2 =
        (words state).put (featureWrite feature interface value) := by
  rcases featureSetter_eq feature value with absent | ⟨cmd, body, setter, sets, same⟩
  · apply Or.inl
    simp only [Machine.ethtool, absent]
  · simp only [Machine.ethtool, setter]
    rw [Machine.invoke]
    cases named : cstringOf interface with
    | none => exact Or.inl rfl
    | some devname =>
        change words ((body (machine.host state) devname).requests.foldl machine.after state) = _ ∨
          words ((body (machine.host state) devname).requests.foldl machine.after state) = _
        rw [same]
        rcases devSetIntValue_sends (machine.host state) cmd devname value with
          none | ⟨_, requests⟩
        · exact Or.inl (by rw [none]; rfl)
        · have stored := sendCommand_stores stores sets state devname
            (store32 (machine.host state).stack (ethtoolValue.offsetof "data")
              (UInt32.ofInt value)) none
          rw [carried_feature, cstringOf_bytes named] at stored
          rw [requests, stored]
          split
          · exact Or.inr rfl
          · exact Or.inl rfl

end Storing

/-! ## Devices that are served -/

/-- Whatever the state, requests for this device are answered and
successful. -/
structure Machine.Serves {State : Type} (machine : Machine State) (interface : String) :
    Prop where
  named : (cstringOf interface).isSome
  opens : forall state, 0 ≤ (machine.host state).socket
  answers : forall state request, request.code = .siocethtool ->
    readString request.ifrName = kernelName interface ->
      ((machine.host state).ioctl request).result = 0

section Serving

variable {State : Type} {machine : Machine State} {width : LongWidth} {words : State -> Words}
  {settings : Settings} {interface : String} {state : State} {map : SettingsMap}
  (serves : machine.Serves interface)
include serves

theorem sendCommand_serves (state : State) {devname : CString} (named : cstringOf interface = some devname)
    (cmd : UInt32) (value : Memory) (pending : Option PyError) :
    (sendCommand (machine.host state) cmd devname value pending).err = 0 ∧
      (sendCommand (machine.host state) cmd devname value pending).pending = pending := by
  have zero := serves.answers state (commandRequest cmd devname value) rfl (by
    rw [readString_commandRequest, cstringOf_bytes named])
  rw [sendCommand_open (serves.opens state), zero]
  exact ⟨rfl, rfl⟩

/-- Reading succeeds, -/
theorem getSettings_serves (settings : Settings) (state : State) :
    ∃ current, (machine.ethtool.answer (.getSettings settings interface) state).1 =
      .ok current := by
  rcases Option.isSome_iff_exists.mp serves.named with ⟨devname, named⟩
  have sent := sendCommand_serves serves state named
    (Group.ofSettings settings).getCmd (machine.host state).stack none
  have alive : ¬ (getDevValue (machine.host state) (Group.ofSettings settings).getCmd
      devname).err < 0 := by
    rw [getDevValue, sent.1]
    decide
  rcases createDict_get settings (machine.host state).width (getDevValue (machine.host state)
    (Group.ofSettings settings).getCmd devname).value with ⟨dict, created, _, _⟩
  have value : (getter settings (machine.host state) devname).value = some (.dict dict) := by
    rw [getter_eq, Ioctl.getSettings]
    simp only [if_neg alive, created, Option.map_some]
  have pending : (getter settings (machine.host state) devname).pending = none := by
    rw [getter_eq, Ioctl.getSettings]
    simp only [if_neg alive]
    exact sent.2
  rcases getter_value value with ⟨values, same⟩
  refine ⟨currentSettingsOf settings (machine.host state).width values, ?_⟩
  change ((machine.invoke state interface (getter settings)).1 >>= readSettings settings) = _
  rw [Machine.invoke, named]
  change (returned (getter settings (machine.host state) devname) >>= readSettings settings) = _
  rw [returned, value, pending, same]
  exact readSettings_toPyDict _

/-- and so does writing values that fit a `long`. -/
theorem setSettings_returns
    (complete : forall name, name ∈ settings.struct.fields -> (map.get? name).isSome)
    (width_eq : (machine.host state).width = width)
    (fits : forall name value, name ∈ settings.struct.fields -> map.get? name = some value ->
      -width.bound ≤ value ∧ value < width.bound) :
    (machine.ethtool.answer (.setSettings settings interface map) state).1 = .ok () := by
  rcases Option.isSome_iff_exists.mp serves.named with ⟨devname, named⟩
  rcases set_sends interface devname complete (machine.host state) with
    ⟨cmd, value, pending, sets, carried, requests, fails_iff, left, before⟩
  have sent := sendCommand_serves serves state named cmd value pending
  have quiet : pending = none := by
    rw [before]
    apply fromDict_pending (fun _ => settings.covers.size)
    intro row member
    have field : row.name ∈ settings.struct.fields := by
      rw [settings.covers.fields]
      exact List.mem_map_of_mem member
    rcases Option.isSome_iff_exists.mp (complete row.name field) with ⟨number, present⟩
    refine ⟨.int number, ?_, ?_⟩
    · rw [pyDictGetItemString, get?_toPyDict, present]
      rfl
    · rw [width_eq, pyLongAsLong, intAsLong, if_pos (fits row.name number field present)]
  change (machine.invoke state interface
    (fun host devname => settings.set host devname (.dict (toPyDict map)))).1.map _ = _
  rw [Machine.invoke, named]
  change (returned (settings.set (machine.host state) devname (.dict (toPyDict map)))).map _ = _
  cases result : (settings.set (machine.host state) devname (.dict (toPyDict map))).value with
  | none => exact absurd sent.1 (fails_iff.mp result)
  | some object =>
      rw [returned, result, left, sent.2, quiet]
      rfl

/-- A value that fits no `long` makes it raise. -/
theorem setSettings_raises
    (complete : forall name, name ∈ settings.struct.fields -> (map.get? name).isSome)
    (width_eq : (machine.host state).width = width) {name : String} {value : Int}
    (field : name ∈ settings.struct.fields) (present : map.get? name = some value)
    (misfit : ¬ (-width.bound ≤ value ∧ value < width.bound)) :
    ∃ error, (machine.ethtool.answer (.setSettings settings interface map) state).1 =
      .error error := by
  rcases Option.isSome_iff_exists.mp serves.named with ⟨devname, named⟩
  rcases set_sends interface devname complete (machine.host state) with
    ⟨cmd, sent, pending, sets, _, _, _, left, before⟩
  have quiet := (sendCommand_serves serves state named cmd sent pending).2
  rcases settings.covers.row_of_field field with ⟨row, member, rfl⟩
  have found : pyDictGetItemString (.dict (toPyDict map)) row.name = some (.int value) := by
    rw [pyDictGetItemString, get?_toPyDict, present]
    rfl
  have raised : (pyLongAsLong (machine.host state).width (.int value)).2.isSome := by
    rw [width_eq, pyLongAsLong, intAsLong, if_neg misfit]
    rfl
  have behind : (settings.set (machine.host state) devname
      (.dict (toPyDict map))).pending.isSome := by
    rw [left, quiet, before]
    exact fromDict_raised member found raised (machine.host state).stack none
  change ∃ error, (machine.invoke state interface
    (fun host devname => settings.set host devname (.dict (toPyDict map)))).1.map _ = _
  rw [Machine.invoke, named]
  change ∃ error, (returned (settings.set (machine.host state) devname
    (.dict (toPyDict map)))).map _ = _
  cases ended : returned (settings.set (machine.host state) devname (.dict (toPyDict map))) with
  | error error => exact ⟨error, rfl⟩
  | ok object =>
      rw [(returned_eq_ok ended).2] at behind
      cases behind

variable (stores : machine.Stores width words)
include stores

theorem setSettings_serves
    (complete : forall name, name ∈ settings.struct.fields -> (map.get? name).isSome) :
    words (machine.ethtool.answer (.setSettings settings interface map) state).2 =
      (words state).put (wholeWrite width settings interface map) := by
  rcases Option.isSome_iff_exists.mp serves.named with ⟨devname, named⟩
  rcases set_sends interface devname complete (machine.host state) with
    ⟨cmd, value, pending, sets, carried, requests, _⟩
  have stored := sendCommand_stores stores sets state devname value pending
  rw [carried, cstringOf_bytes named, stores.width_eq,
    if_pos (sendCommand_serves serves state named cmd value pending).1] at stored
  change words (machine.invoke state interface
    (fun host devname => settings.set host devname (.dict (toPyDict map)))).2 = _
  rw [Machine.invoke, named]
  change words ((settings.set (machine.host state) devname
    (.dict (toPyDict map))).requests.foldl machine.after state) = _
  rw [requests, stored]
  rfl

/-- A feature that can be set is set. -/
theorem setFeature_serves {feature : Feature} {value : Int}
    (settable : (Group.ofFeature feature).setCmd.isSome) (small : value = 0 ∨ value = 1) :
    words (machine.ethtool.answer (.setFeature feature interface value) state).2 =
      (words state).put (featureWrite feature interface value) := by
  rcases featureSetter_eq feature value with absent | ⟨cmd, body, setter, sets, same⟩
  · exfalso
    revert absent settable
    cases feature <;> simp [featureSetter, Group.setCmd]
  · rcases Option.isSome_iff_exists.mp serves.named with ⟨devname, named⟩
    have parsed : parseInt (machine.host state).width (.int value) = .ok value := by
      rcases small with rfl | rfl
      · cases (machine.host state).width <;> rfl
      · cases (machine.host state).width <;> rfl
    have stored := sendCommand_stores stores sets state devname
      (store32 (machine.host state).stack (ethtoolValue.offsetof "data")
        (UInt32.ofInt value)) none
    rw [carried_feature, cstringOf_bytes named,
      if_pos (sendCommand_serves serves state named _ _ _).1] at stored
    simp only [Machine.ethtool, setter]
    rw [Machine.invoke, named]
    change words ((body (machine.host state) devname).requests.foldl machine.after state) = _
    rw [same]
    simp only [devSetIntValue, parsed]
    exact stored

end Serving

end Pethtool
end PythonEthtool
