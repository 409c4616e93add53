import PythonEthtool.Pethtool.Display

namespace PythonEthtool
namespace Pethtool

open Foundations
open Foundations.Program
open Ioctl
open Python

/-!
# Copying the settings of a device

The listing of one device is entered for another: the script runs twice over
the extension module, and between the two runs somebody reads the lines of the
first and types what they say as the options of the second.  What the drivers
hold afterwards is stated exactly, for every setting of every device.
-/

/-- What a listing makes of a field: the word shown, of the words about
adaptive coalescing only whether they are zero, and of the maximum sizes
nothing. -/
def copiedWord (name : String) (source held : UInt32) : UInt32 :=
  if name ∈ adaptiveFields then if source = 0 then 0 else 1
  else if name ∈ maximumFields then held
  else source

/-- The settings of one kind, copied from one device to another. -/
def copySettings (settings : Settings) (source target : List UInt8) (cells : Words) : Words :=
  fun device knob =>
    match knob with
    | .field kind name =>
        if device = target ∧ kind = settings ∧ name ∈ settings.struct.fields then
          copiedWord name (cells source knob) (cells device knob)
        else cells device knob
    | .feature _ => cells device knob

/-- The lines that the script prints for this command line. -/
def Machine.printedBy {State : Type} (machine : Machine State) (state : State)
    (argv : List String) : List String :=
  printedLines ((main machine.ethtool argv).run (.start state)).events

section Copying

variable {State : Type} {machine : Machine State} {width : LongWidth} {words : State -> Words}
  {devices : List String} {settings : Settings} {interface : String} {state : State}

/-! ## The listing of a device -/

theorem keys_settingsMapOf (settings : Settings) (width : LongWidth) (values : Memory) :
    (settingsMapOf width values settings.desc).keys = settings.struct.fields := by
  have names : (settings.desc.map
      (fun row => (row.name, toLong width (load32 values row.offset)))).map Prod.fst =
        settings.struct.fields := by
    rw [settings.covers.fields, List.map_map]
    rfl
  have distinct : settings.struct.fields.Nodup := by
    cases settings with
    | coalesce => decide
    | ringparam => decide
  rw [settingsMapOf, Dictionary.keys_override_of_fresh]
  · rw [names]
    rfl
  · rw [names]
    exact distinct

/-- What the module returns has a key for each field and no others. -/
theorem getSettings_keys {current : CurrentSettings settings}
    (read : (machine.ethtool.answer (.getSettings settings interface) state).1 = .ok current) :
    current.map.keys.length = settings.struct.fields.length := by
  change ((machine.invoke state interface (getter settings)).1 >>= readSettings settings) =
    .ok current at read
  rcases except_bind_eq_ok read with ⟨object, made, decoded⟩
  rw [Machine.invoke] at made
  cases named : cstringOf interface with
  | none =>
      rw [named] at made
      cases made
  | some devname =>
      rw [named] at made
      rcases getter_value (returned_eq_ok made).1 with ⟨values, rfl⟩
      rw [readSettings_toPyDict] at decoded
      cases decoded
      exact congrArg List.length (keys_settingsMapOf settings _ values)

theorem Machine.Reliable.nonempty (reliable : machine.Reliable devices) (state : State)
    {device : String} (existing : device ∈ devices) : device ≠ "" := by
  rcases reliable.lists state with ⟨names, _, same⟩
  rw [← same] at existing
  rcases List.mem_map.mp existing with ⟨name, _, rfl⟩
  exact name.nonempty

/-- Listing the settings of a device prints them. -/
theorem printedBy_listing (reliable : machine.Reliable devices)
    (serves : machine.Serves interface) {opt : String}
    (row : (opt, .display (listingCommand settings)) ∈ optionTable)
    (existing : interface ∈ devices) (plain : startsWith interface "-" = false) (state : State) :
    ∃ active current, (machine.ethtool.answer .getActiveDevices state).1 = .ok active ∧
      (machine.ethtool.answer (.getSettings settings interface)
        (machine.ethtool.answer .getActiveDevices state).2).1 = .ok current ∧
      machine.printedBy state [opt, interface] =
        heading settings interface :: listing settings current.map := by
  rcases reliable.active state with ⟨active, listed⟩
  rcases getSettings_serves serves settings
    (machine.ethtool.answer .getActiveDevices state).2 with ⟨current, read⟩
  refine ⟨active, current, listed, read, ?_⟩
  have named : (some interface).filter (fun name => name ≠ "") = some interface := by
    simp [reliable.nonempty state existing]
  have same : main machine.ethtool [opt, interface] =
      runCmd machine.ethtool (listingCommand settings) (some interface) none := by
    rw [main, getopt_option row [] plain]
    exact dispatch_eq_run machine.ethtool row "" [] [interface]
  have calls : ((perform machine.ethtool .getActiveDevices).run (World.start state)).result =
      .ok active := listed
  rw [Machine.printedBy, same, runCmd, run_bind_ok _ _ calls, named]
  exact listing_lines rfl none read (getSettings_keys read)

/-! ## Entering it -/

/-- What the listing shows of a field. -/
theorem shown_eq (stores : machine.Stores width words) {current : CurrentSettings settings}
    (read : (machine.ethtool.answer (.getSettings settings interface) state).1 = .ok current)
    {name : String} (field : name ∈ settings.struct.fields) :
    shown current.map name =
      toLong width (words state (kernelName interface) (.field settings name)) := by
  rw [shown, getSettings_shows stores read field]
  rfl

theorem toLong_eq_zero_iff (width : LongWidth) (word : UInt32) :
    toLong width word = 0 ↔ word = 0 := by
  constructor
  · intro zero
    have same := toLong_emod width word
    rw [zero] at same
    apply UInt32.toNat_inj.mp
    exact (Int.natCast_eq_zero.mp same.symm)
  · rintro rfl
    cases width with
    | bits32 => simp [toLong, LongWidth.bound]
    | bits64 => simp [toLong, LongWidth.bound]

/-- What is entered for a field that the listing shows. -/
theorem sentWord_listed (stores : machine.Stores width words) {current : CurrentSettings settings}
    (read : (machine.ethtool.answer (.getSettings settings interface) state).1 = .ok current)
    {name : String} (field : name ∈ settings.struct.fields) (held : UInt32) :
    ((lastValue name (accepted settings (adaptiveOptions settings current.map ++
        (settingRows settings).flatMap (rowOptions current.map)))).map (sentWord width)).getD held =
      copiedWord name (words state (kernelName interface) (.field settings name)) held := by
  rw [lastValue_accepted current.map field, copiedWord, shown_eq stores read field]
  by_cases adaptive : name ∈ adaptiveFields
  · rw [if_pos adaptive, if_pos adaptive]
    by_cases zero : words state (kernelName interface) (.field settings name) = 0
    · rw [if_pos zero, if_pos ((toLong_eq_zero_iff width _).mpr zero)]
      cases width with
      | bits32 => rfl
      | bits64 => rfl
    · rw [if_neg zero, if_neg (fun equal => zero ((toLong_eq_zero_iff width _).mp equal))]
      cases width with
      | bits32 => rfl
      | bits64 => rfl
  · rw [if_neg adaptive, if_neg adaptive]
    by_cases maximum : name ∈ maximumFields
    · rw [if_pos maximum, if_pos maximum]
      rfl
    · rw [if_neg maximum, if_neg maximum]
      exact sentWord_toLong width _

/-- The options that are entered. -/
def entered (settings : Settings) (map : SettingsMap) : List String :=
  adaptiveOptions settings map ++ (settingRows settings).flatMap (rowOptions map)

theorem entered_ne_nil (settings : Settings) (map : SettingsMap) : entered settings map ≠ [] := by
  cases settings with
  | coalesce => exact List.cons_ne_nil _ _
  | ringparam => exact List.cons_ne_nil _ _

theorem not_raises_entered (settings : Settings) (map : SettingsMap) :
    ¬ ProcessingRaises settings (entered settings map) :=
  not_raises_append (not_raises_adaptive map) (not_raises_rows map)

/-- The write of what a listing shows copies the settings. -/
theorem put_entered (stores : machine.Stores width words) {current : CurrentSettings settings}
    (read : (machine.ethtool.answer (.getSettings settings interface) state).1 = .ok current)
    (target : String) :
    (words state).put
        (fieldWrite width settings target (accepted settings (entered settings current.map))) =
      copySettings settings (kernelName interface) (kernelName target) (words state) := by
  have row (name : String) := lastValue_map (settingKey_injective settings) (sentWord width) name
    (accepted settings (entered settings current.map))
  have others : forall knob, (forall name, name ∈ settings.struct.fields ->
      knob ≠ .field settings name) -> lastValue knob (fieldWrite width settings target
        (accepted settings (entered settings current.map))).assignments = none := by
    intro knob apart
    apply lastValue_eq_none_iff.mpr
    intro assignment member
    rcases List.mem_map.mp member with ⟨given, givenMember, rfl⟩
    exact apart given.1 (accepted_within given givenMember)
  funext device knob
  by_cases same : device = kernelName target
  · rw [Cells.put, if_pos (show device = (fieldWrite width settings target _).owner from same)]
    by_cases field : ∃ name, name ∈ settings.struct.fields ∧ knob = .field settings name
    · rcases field with ⟨name, member, rfl⟩
      rw [copySettings, if_pos ⟨same, rfl, member⟩, ← sentWord_listed stores read member]
      exact congrArg (fun last => Option.getD last _) (row name)
    · rw [others knob (fun name member equal => field ⟨name, member, equal⟩)]
      cases knob with
      | feature feature => rfl
      | field kind name =>
          rw [copySettings, if_neg]
          · rfl
          · rintro ⟨_, rfl, member⟩
            exact field ⟨name, member, rfl⟩
  · rw [Cells.put, if_neg (show device ≠ (fieldWrite width settings target _).owner from same)]
    cases knob with
    | feature feature => rfl
    | field kind name => exact (if_neg (fun all => same all.1)).symm

/-- Where both devices are served, entering the listing of one for the other
copies the settings that it shows, but for the maximum sizes of rings, and
nothing else changes. -/
theorem listing_copies (stores : machine.Stores width words)
    (reliable : machine.Reliable devices) (settings : Settings)
    (showing setting source target : String)
    (shows : (showing, .display (listingCommand settings)) ∈ optionTable)
    (sets : (setting, settingsCommand settings) ∈ setterOptions)
    (sourceExists : source ∈ devices) (targetExists : target ∈ devices)
    (sourcePlain : startsWith source "-" = false) (targetPlain : startsWith target "-" = false)
    (sourceServed : machine.Serves source) (targetServed : machine.Serves target)
    (state : State) :
    words (machine.session state [[showing, source],
        setting :: target :: optionsOfListing (machine.printedBy state [showing, source])]) =
      copySettings settings (kernelName source) (kernelName target) (words state) := by
  rcases printedBy_listing reliable sourceServed shows sourceExists sourcePlain state with
    ⟨active, current, listed, read, printed⟩
  have lists : lineOrder devices [showing, source] = none := by
    simp only [lineOrder, getopt_option shows [] sourcePlain, lookup_optionTable shows,
      Action.order]
  have nonempty := entered_ne_nil settings current.map
  have written : lineStored width devices (setting :: target :: entered settings current.map) =
      [fieldWrite width settings target (accepted settings (entered settings current.map))] :=
    lineStored_settings sets targetExists targetPlain nonempty
      (not_raises_entered settings current.map)
  have served : machine.ServesLines width devices [[showing, source],
      setting :: target :: entered settings current.map] := by
    intro argv member
    simp only [List.mem_cons, List.not_mem_nil, or_false] at member
    rcases member with rfl | rfl
    · intro device reached
      rw [lineReached, lists] at reached
      cases reached
    · intro device reached
      rw [lineReached_settings sets targetExists targetPlain nonempty] at reached
      rw [List.mem_singleton.mp reached]
      exact targetServed
  have looks : words (machine.ethtool.answer .getActiveDevices state).2 = words state :=
    stores.apart _ state
  rw [printed, optionsOfListing_eq]
  change words (machine.session state
    [[showing, source], setting :: target :: entered settings current.map]) = _
  rw [session_effect stores reliable served, List.flatMap_cons, lineStored, lists,
    Option.elim_none, List.nil_append, List.flatMap_singleton, written, Cells.replay_singleton,
    ← looks]
  exact put_entered stores read target

end Copying

/-! ## Two interfaces -/

def em2 : Interface where
  name := ⟨[101, 109, 50], by simp⟩
  ifindex := 4
  nonempty := by decide
  short := by decide
  positive := by decide

def em2Device : DeviceName where
  name := "em2"
  nonempty := by decide

/-- The interfaces `em1` and `em2`, beside `lo`. -/
def keepingPair : Machine Words :=
  keeping [em1, em2] [em1Device, loDevice, em2Device]

theorem utf8Bytes_em2 : utf8Bytes "em2" = em2.name.bytes := by
  have letters : "em2".toList = [101, 109, 50].map Char.ofUInt8 := rfl
  rw [utf8Bytes, letters, flatMap_utf8EncodeChar_ascii (by simp)]
  rfl

theorem keepingPair_serves : keepingPair.Serves "em1" ∧ keepingPair.Serves "em2" := by
  constructor
  · apply keeping_serves _ utf8Bytes_em1
    rw [kernelName, utf8Bytes_em1]
    rfl
  · apply keeping_serves _ utf8Bytes_em2
    rw [kernelName, utf8Bytes_em2]
    rfl

/-- The coalescing of `em1`, where all words are 7, copied to `em2`. -/
theorem listing_copies_pair :
    let cells : Words := fun device _ => if device = em1.name.bytes then 7 else 0
    id (keepingPair.session cells [["-c", "em1"],
        "-C" :: "em2" :: optionsOfListing (keepingPair.printedBy cells ["-c", "em1"])]) =
      copySettings .coalesce (kernelName "em1") (kernelName "em2") (id cells) :=
  listing_copies (keeping_stores _ _) (keeping_reliable [em1, em2] [em1Device, loDevice, em2Device])
    .coalesce "-c" "-C" "em1" "em2" (by decide) (by decide) (by decide) (by decide) (by decide)
    (by decide) keepingPair_serves.1 keepingPair_serves.2
    (fun device _ => if device = em1.name.bytes then 7 else 0)

end Pethtool
end PythonEthtool
