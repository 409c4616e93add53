import PythonEthtool.Pethtool.Accounts
import PythonEthtool.Pethtool.Machine
import PythonEthtool.Pethtool.Options

namespace PythonEthtool
namespace Pethtool

open Foundations
open Foundations.Program
open Ioctl
open Python

/-!
# What command lines do to the drivers

A command line that sets something is for the device that it names, or for
each device.  For each of them the script makes a write of its words, with
the values as the script reads them: what it ignores or misreads is ignored
or misread here.  The script runs over the extension module, and what the
drivers hold is compared with these writes.

Each write is stored as a whole or not at all, in the order of the command
lines, and nothing else is stored, whichever calls fail.  Devices that are
served take all writes, up to the first write with a value that fits no
`long`: it is stored, and the script ends with an exception.  Reading,
changing and writing whole structures is not visible in this: the fields
that a command line does not name come back as they were.
-/

/-! ## What the script makes of the words -/

instance (settings : Settings) (args : List String) : Decidable (ProcessingRaises settings args) :=
  inferInstanceAs (Decidable (_ ∨ (_ ∧ ∃ pair, pair ∈ wordPairs args ∧ _)))

/-- What a setter makes of its words for a device. -/
def settingsWrites (width : LongWidth) (settings : Settings) (args : List String)
    (interface : String) : List Write :=
  if ProcessingRaises settings args then []
  else [fieldWrite width settings interface (accepted settings args)]

/-- Every value but `on` is read as zero. -/
def offloadWrites (args : List String) (interface : String) : List Write :=
  match args.map pyLower with
  | [cmd, value] =>
      let number := if value = "on" then 1 else 0
      if cmd = "tso" then [featureWrite .tso interface number]
      else if cmd = "gso" then [featureWrite .gso interface number]
      else if cmd = "gro" then [featureWrite .gro interface number]
      else []
  | _ => []

def Command.writes (width : LongWidth) (command : Command) (args : List String)
    (interface : String) : List Write :=
  match command with
  | .setCoalesce => settingsWrites width .coalesce args interface
  | .setRingparam => settingsWrites width .ringparam args interface
  | .setOffload => offloadWrites args interface
  | _ => []

/-- The settings that a command writes. -/
def Command.settings : Command -> Option Settings
  | .setCoalesce => some .coalesce
  | .setRingparam => some .ringparam
  | _ => none

/-- Some field is given a last value that fits no `long`. -/
def Overflows (width : LongWidth) (settings : Settings) (args : List String) : Prop :=
  ∃ assignment, assignment ∈ accepted settings args ∧
    lastValue assignment.1 (accepted settings args) = some assignment.2 ∧
      ¬ (-width.bound ≤ assignment.2 ∧ assignment.2 < width.bound)

instance (width : LongWidth) (settings : Settings) (args : List String) :
    Decidable (Overflows width settings args) :=
  inferInstanceAs (Decidable (∃ assignment, assignment ∈ accepted settings args ∧ _))

/-- A value fits no `long`, so that the script ends with the first device to
which it writes it. -/
def Command.Stops (width : LongWidth) (command : Command) (args : List String) : Prop :=
  ∃ settings, command.settings = some settings ∧ Overflows width settings args

instance (width : LongWidth) (command : Command) (args : List String) :
    Decidable (command.Stops width args) :=
  decidable_of_iff (∃ settings, settings ∈ command.settings.toList ∧
      Overflows width settings args) (by
    simp only [Command.Stops, Option.mem_toList])

/-- A setter, its words and the devices that it is for. -/
structure Order where
  command : Command
  args : List String
  devices : List String

/-- What a command line orders, where these devices exist. -/
def Action.order (devices : List String) (action : Action) (args : List String) :
    Option Order :=
  match action, args with
  | .change command, first :: second :: rest =>
      if first ∈ devices then some ⟨command, second :: rest, [first]⟩
      else some ⟨command, first :: second :: rest, devices⟩
  | _, _ => none

def lineOrder (devices : List String) (argv : List String) : Option Order :=
  match getopt argv shortopts longopts with
  | .ok ((opt, _) :: _, args) =>
      match optionTable.lookup opt with
      | some action => action.order devices args
      | none => none
  | _ => none

namespace Order

variable (width : LongWidth) (order : Order)

/-- The writes that the script makes of the words, one for each device. -/
def writes : List Write :=
  order.devices.flatMap (order.command.writes width order.args)

/-- The devices that are reached if all of them are served. -/
def reached : List String :=
  if order.command.Stops width order.args then order.devices.take 1 else order.devices

def stored : List Write :=
  (order.reached width).flatMap (order.command.writes width order.args)

end Order

/-- What the script makes of the words of a command line. -/
def lineWrites (width : LongWidth) (devices : List String) (argv : List String) : List Write :=
  (lineOrder devices argv).elim [] (Order.writes width)

/-- The devices that a command line reaches if they are served. -/
def lineReached (width : LongWidth) (devices : List String) (argv : List String) :
    List String :=
  (lineOrder devices argv).elim [] (Order.reached width)

/-- What it makes of its words for these. -/
def lineStored (width : LongWidth) (devices : List String) (argv : List String) : List Write :=
  (lineOrder devices argv).elim [] (Order.stored width)

/-! ## One device -/

section Bodies

variable {State : Type} {machine : Machine State} {width : LongWidth} {words : State -> Words}

/-- The settings of the drivers, as a view on the world of the script. -/
def seen (words : State -> Words) (world : World State) : Words :=
  words world.kernel

theorem settingKey_injective (settings : Settings) :
    Function.Injective (Knob.field settings) := by
  intro first second same
  cases same
  rfl

/-- Where a structure was read, writing it back with some fields assigned is
the write of these fields. -/
theorem put_wholeWrite {settings : Settings} {interface : String} {current : SettingsMap}
    {cells : Words} {assignments : List (String × Int)}
    (read : forall name, name ∈ settings.struct.fields -> current.get? name =
      some (toLong width (cells (kernelName interface) (.field settings name))))
    (within : forall assignment, assignment ∈ assignments ->
      assignment.1 ∈ settings.struct.fields) :
    cells.put (wholeWrite width settings interface (current.override assignments)) =
      cells.put (fieldWrite width settings interface assignments) := by
  apply Cells.put_congr
  intro key
  by_cases field : ∃ name, name ∈ settings.struct.fields ∧ key = .field settings name
  · rcases field with ⟨name, member, rfl⟩
    rw [lastValue_row (settingKey_injective settings) _ member,
      lastValue_map (settingKey_injective settings), Dictionary.get?_override, read name member]
    cases lastValue name assignments with
    | none => exact sentWord_toLong width _
    | some value => rfl
  · rw [lastValue_row_none, lastValue_eq_none_iff.mpr]
    · intro assignment member same
      rcases List.mem_map.mp member with ⟨given, givenMember, rfl⟩
      exact field ⟨given.1, within given givenMember, same⟩
    · intro name member same
      exact field ⟨name, member, same⟩

theorem accepted_within {settings : Settings} {args : List String} :
    forall assignment, assignment ∈ accepted settings args ->
      assignment.1 ∈ settings.struct.fields := by
  intro assignment member
  rcases List.mem_filterMap.mp member with ⟨pair, _, read⟩
  exact entryOf_field (readAs_eq_some_iff.mp read).1

theorem complete_override {settings : Settings} (current : CurrentSettings settings)
    (assignments : List (String × Int)) :
    forall name, name ∈ settings.struct.fields ->
      ((current.map.override assignments).get? name).isSome := by
  intro name field
  rw [Dictionary.get?_override, Option.isSome_or, current.complete name field, Bool.or_true]

theorem exceptIOError_world {handler : Script State Unit} {world : World State}
    (handling : (handler.run world).world.kernel = world.kernel) (error : PyError) :
    ((exceptIOError handler error).run world).world.kernel = world.kernel := by
  unfold exceptIOError
  split
  · exact handling
  · rfl

variable (stores : machine.Stores width words)
include stores

/-- Calls that change nothing do not change the settings. -/
theorem reads_harmless (call : Call) (state : State) (reads : call.Reads) :
    words (machine.ethtool.answer call state).2 = words state := by
  cases call with
  | getSettings settings interface => exact invoke_queries stores (queries_getter settings)
  | getFeature feature interface => exact invoke_queries stores (queries_featureGetter feature)
  | setSettings settings interface map => cases reads
  | setFeature feature interface value => cases reads
  | getDevices => exact stores.apart _ state
  | getActiveDevices => exact stores.apart _ state
  | getModule interface => exact stores.apart _ state
  | getBusinfo interface => exact stores.apart _ state

section Setter

variable {settings : Settings} {interface : String} {args : List String} {world : World State}

/-- A setter that cannot read the settings, or cannot process its arguments,
stores nothing. -/
theorem setter_stores_nothing
    (fails : ProcessingRaises settings args ∨ ∃ error,
      (machine.ethtool.answer (.getSettings settings interface) world.kernel).1 = .error error) :
    seen words ((setter machine.ethtool settings interface (some args)).run world).world =
      seen words world := by
  have looks := reads_harmless stores (.getSettings settings interface) world.kernel rfl
  cases read : (machine.ethtool.answer (.getSettings settings interface) world.kernel).1 with
  | error error =>
      rcases setter_eq_setSettings machine.ethtool settings with ⟨unsupported, body⟩
      rw [body, setSettings, run_tryElse_error _ _ _ read]
      change words (World.kernel _) = _
      rw [exceptIOError_world rfl]
      exact looks
  | ok current =>
      rcases fails with raises | ⟨error, failed⟩
      · rcases setter_run_of_raises raises read with ⟨error, run⟩
        rw [run]
        exact looks
      · rw [read] at failed
        cases failed

/-- A setter that has read the settings leaves them as they are, where its
words repeat them, or writes what it makes of its words. -/
theorem setter_after_read {current : CurrentSettings settings}
    (fine : ¬ ProcessingRaises settings args)
    (read : (machine.ethtool.answer (.getSettings settings interface) world.kernel).1 =
      .ok current) :
    (((setter machine.ethtool settings interface (some args)).run world).result = .ok () ∧
      seen words ((setter machine.ethtool settings interface (some args)).run world).world =
        seen words world ∧
      (seen words world).put (fieldWrite width settings interface (accepted settings args)) =
        seen words world ∧
      ¬ Overflows width settings args) ∨
    ∃ state map, words state = seen words world ∧
      (forall name, name ∈ settings.struct.fields -> (map.get? name).isSome) ∧
      (forall name, name ∈ settings.struct.fields ->
        map.get? name = (lastValue name (accepted settings args)).or
          (some (toLong width (seen words world (kernelName interface) (.field settings name))))) ∧
      ((setter machine.ethtool settings interface (some args)).run world).result =
        (machine.ethtool.answer (.setSettings settings interface map) state).1 ∧
      seen words ((setter machine.ethtool settings interface (some args)).run world).world =
        words (machine.ethtool.answer (.setSettings settings interface map) state).2 ∧
      (seen words world).put (wholeWrite width settings interface map) =
        (seen words world).put
          (fieldWrite width settings interface (accepted settings args)) := by
  have looks := reads_harmless stores (.getSettings settings interface) world.kernel rfl
  have shown : forall name, name ∈ settings.struct.fields -> current.map.get? name =
      some (toLong width (seen words world (kernelName interface) (.field settings name))) :=
    fun name field => getSettings_shows stores read field
  cases differing : differs current.map (accepted settings args) with
  | true =>
      apply Or.inr
      rw [setter_run_of_differs fine read differing]
      refine ⟨_, current.map.override (accepted settings args), looks,
        complete_override current _, ?_, rfl, rfl, put_wholeWrite shown accepted_within⟩
      intro name field
      rw [Dictionary.get?_override, shown name field]
  | false =>
      apply Or.inl
      rw [setter_run_of_repeats fine read differing]
      have repeats : forall given, given ∈ accepted settings args -> given.2 =
          toLong width (seen words world (kernelName interface) (.field settings given.1)) := by
        intro given member
        exact Option.some.inj ((differs_eq_false_iff.mp differing given member).symm.trans
          (shown given.1 (accepted_within given member)))
      refine ⟨rfl, looks, ?_, ?_⟩
      · apply Cells.put_eq_self
        intro assignment member
        rcases List.mem_map.mp member with ⟨given, givenMember, rfl⟩
        rw [repeats given givenMember]
        exact (sentWord_toLong width _).symm
      · rintro ⟨given, member, _, misfit⟩
        rw [repeats given member] at misfit
        exact misfit (toLong_bounds width _)

theorem setter_attempts (settings : Settings) (interface : String) (args : List String)
    (world : World State) :
    Attempts (seen words) Cells.put (settingsWrites width settings args interface)
      (setter machine.ethtool settings interface (some args)) world := by
  by_cases raises : ProcessingRaises settings args
  · exact attempts_of_unchanged _ (setter_stores_nothing stores (Or.inl raises))
  · rw [settingsWrites, if_neg raises]
    cases read : (machine.ethtool.answer (.getSettings settings interface) world.kernel).1 with
    | error error =>
        exact attempts_of_unchanged _ (setter_stores_nothing stores (Or.inr ⟨error, read⟩))
    | ok current =>
        rcases setter_after_read stores raises read with
          ⟨_, unchanged, _⟩ | ⟨state, map, same, complete, _, _, after, whole⟩
        · exact attempts_of_unchanged _ unchanged
        · rcases setSettings_words stores state complete with nothing | stored
          · exact attempts_of_unchanged _ (after.trans (nothing.trans same))
          · refine ⟨_, List.Sublist.refl _, ?_⟩
            rw [after, stored, same, whole]
            rfl

/-- On a device that is served the write is stored, also where the script
raises afterwards. -/
theorem setter_effect (settings : Settings) (serves : machine.Serves interface) :
    seen words ((setter machine.ethtool settings interface (some args)).run world).world =
      (seen words world).replay (settingsWrites width settings args interface) := by
  by_cases raises : ProcessingRaises settings args
  · rw [settingsWrites, if_pos raises]
    exact setter_stores_nothing stores (Or.inl raises)
  · rw [settingsWrites, if_neg raises]
    rcases getSettings_serves serves settings world.kernel with ⟨current, read⟩
    rcases setter_after_read stores raises read with
      ⟨_, unchanged, repeats, _⟩ | ⟨state, map, same, complete, _, _, after, whole⟩
    · exact unchanged.trans repeats.symm
    · rw [after, setSettings_serves serves stores complete, same, whole]
      rfl

/-- It returns unless a value fits no `long`, -/
theorem setter_returns (serves : machine.Serves interface)
    (fine : ¬ ProcessingRaises settings args) (fits : ¬ Overflows width settings args) :
    ((setter machine.ethtool settings interface (some args)).run world).result = .ok () := by
  rcases getSettings_serves serves settings world.kernel with ⟨current, read⟩
  rcases setter_after_read stores fine read with
    ⟨ends, _⟩ | ⟨state, map, _, complete, origin, ends, _⟩
  · exact ends
  · rw [ends]
    apply setSettings_returns serves complete (stores.width_eq state)
    intro name value field present
    rw [origin name field] at present
    cases last : lastValue name (accepted settings args) with
    | none =>
        rw [last, Option.none_or] at present
        cases present
        exact toLong_bounds width _
    | some given =>
        rw [last, Option.some_or] at present
        cases present
        by_contra misfit
        exact fits ⟨(name, value), lastValue_mem last, last, misfit⟩

/-- and raises if one does. -/
theorem setter_raises (serves : machine.Serves interface)
    (fine : ¬ ProcessingRaises settings args) (overflows : Overflows width settings args) :
    ∃ error, ((setter machine.ethtool settings interface (some args)).run world).result =
      .error error := by
  rcases getSettings_serves serves settings world.kernel with ⟨current, read⟩
  rcases setter_after_read stores fine read with
    ⟨_, _, _, fits⟩ | ⟨state, map, _, complete, origin, ends, _⟩
  · exact absurd overflows fits
  · rcases overflows with ⟨given, member, last, misfit⟩
    have field := accepted_within given member
    rw [ends]
    apply setSettings_raises serves complete (stores.width_eq state) field ?_ misfit
    rw [origin given.1 field, last, Option.some_or]

end Setter

section Offload

variable {interface : String} {args : List String} {world : World State}

omit stores in
/-- One branch of `set_offload` makes its call and returns. -/
theorem setFeature_run (machine : Machine State) (words : State -> Words) (feature : Feature)
    (interface value : String) (world : World State) :
    (∃ ended, ((setFeature machine.ethtool feature interface value).run world).result =
        .ok ended) ∧
      seen words ((setFeature machine.ethtool feature interface value).run world).world =
        words (machine.ethtool.answer (.setFeature feature interface
          (if value = "on" then 1 else 0)) world.kernel).2 := by
  cases result : (machine.ethtool.answer (.setFeature feature interface
      (if value = "on" then 1 else 0)) world.kernel).1 with
  | ok reply =>
      rw [setFeature, run_tryElse_ok _ _ _ result]
      exact ⟨⟨(), rfl⟩, rfl⟩
  | error error =>
      rw [setFeature, run_tryElse_error _ _ _ result]
      exact ⟨⟨(), rfl⟩, rfl⟩

theorem setFeature_attempts (feature : Feature) (interface value : String)
    (world : World State) :
    Attempts (seen words) Cells.put
      [featureWrite feature interface (if value = "on" then 1 else 0)]
      (setFeature machine.ethtool feature interface value) world := by
  have after := (setFeature_run machine words feature interface value world).2
  rcases setFeature_words stores feature interface (if value = "on" then 1 else 0)
    world.kernel with nothing | stored
  · exact attempts_of_unchanged _ (after.trans nothing)
  · exact ⟨_, List.Sublist.refl _, after.trans stored⟩

theorem setFeature_performs {feature : Feature}
    (settable : (Group.ofFeature feature).setCmd.isSome) (serves : machine.Serves interface)
    (value : String) (world : World State) :
    Performs (seen words) Cells.put
      [featureWrite feature interface (if value = "on" then 1 else 0)]
      (setFeature machine.ethtool feature interface value) world := by
  have run := setFeature_run machine words feature interface value world
  refine ⟨run.1, run.2.trans ?_⟩
  apply setFeature_serves serves stores settable
  split
  · exact Or.inr rfl
  · exact Or.inl rfl

theorem setOffload_attempts (args : List String) (interface : String) (world : World State) :
    Attempts (seen words) Cells.put (offloadWrites args interface)
      (setOffload machine.ethtool interface (some args)) world := by
  apply attempts_after rfl
  intro found unpacked
  have same : args.map pyLower = found := Except.ok.inj unpacked
  rw [offloadWrites, same]
  match found with
  | [cmd, value] =>
      simp only
      split
      · exact setFeature_attempts stores .tso _ _ _
      · split
        · exact setFeature_attempts stores .gso _ _ _
        · split
          · exact setFeature_attempts stores .gro _ _ _
          · exact attempts_of_unchanged _ rfl
  | [] => exact attempts_of_unchanged _ rfl
  | [_] => exact attempts_of_unchanged _ rfl
  | _ :: _ :: _ :: _ => exact attempts_of_unchanged _ rfl

/-- Two words are always processed. -/
theorem setOffload_performs (two : args.length = 2) (serves : machine.Serves interface)
    (world : World State) :
    Performs (seen words) Cells.put (offloadWrites args interface)
      (setOffload machine.ethtool interface (some args)) world := by
  rcases List.length_eq_two.mp two with ⟨option, token, rfl⟩
  have unpacked : ((ofExcept (lowered (some [option, token])) : Script State _).run world).result =
      .ok [pyLower option, pyLower token] := rfl
  rw [setOffload, Performs, run_bind_ok _ _ unpacked]
  change Performs (seen words) Cells.put (offloadWrites [option, token] interface) _ world
  rw [offloadWrites]
  simp only [List.map_cons, List.map_nil]
  split
  · exact setFeature_performs stores rfl serves _ _
  · split
    · exact setFeature_performs stores rfl serves _ _
    · split
      · exact setFeature_performs stores rfl serves _ _
      · exact ⟨⟨(), rfl⟩, rfl⟩

end Offload

/-- Every command on one device. -/
theorem body_attempts (command : Command) (args : List String) (interface : String)
    (world : World State) :
    Attempts (seen words) Cells.put (command.writes width args interface)
      (command.body machine.ethtool interface (some args)) world := by
  by_cases setter : command.IsSetter
  · rcases setter with rfl | rfl | rfl
    · exact setOffload_attempts stores args interface world
    · exact setter_attempts stores .coalesce interface args world
    · exact setter_attempts stores .ringparam interface args world
  · apply attempts_of_unchanged
    exact body_unchanged setter interface (some args) words
      (fun call kernel reads => reads_harmless stores call kernel reads) world

/-- The arguments stop a setter before it has done anything. -/
def Command.Refuses (command : Command) (args : List String) : Prop :=
  match command with
  | .setCoalesce => ProcessingRaises .coalesce args
  | .setRingparam => ProcessingRaises .ringparam args
  | .setOffload => args.length ≠ 2
  | _ => False

omit stores in
theorem writes_of_refuses {command : Command} {args : List String}
    (refuses : command.Refuses args) (interface : String) :
    command.writes width args interface = [] := by
  cases command with
  | setCoalesce => exact if_pos refuses
  | setRingparam => exact if_pos refuses
  | setOffload =>
      have length : (args.map pyLower).length ≠ 2 := by
        rw [List.length_map]
        exact refuses
      change offloadWrites args interface = []
      rw [offloadWrites]
      split
      · rename_i same
        rw [same] at length
        exact absurd rfl length
      · rfl
  | showCoalesce => rfl
  | showDriver => rfl
  | showOffload => rfl
  | showRing => rfl

theorem body_effect {command : Command} {args : List String} {interface : String}
    (setter : command.IsSetter) (serves : machine.Serves interface) (world : World State) :
    seen words ((command.body machine.ethtool interface (some args)).run world).world =
      (seen words world).replay (command.writes width args interface) := by
  rcases setter with rfl | rfl | rfl
  · by_cases two : args.length = 2
    · exact (setOffload_performs stores two serves world).2
    · have refuses : Command.setOffload.Refuses args := two
      have none : offloadWrites args interface = [] :=
        @writes_of_refuses width .setOffload args refuses interface
      rcases setOffload_attempts stores args interface world with ⟨done, within, after⟩
      rw [none, List.sublist_nil] at within
      change _ = (seen words world).replay (offloadWrites args interface)
      rw [none]
      exact after.trans (by rw [within]; rfl)
  · exact setter_effect stores .coalesce serves
  · exact setter_effect stores .ringparam serves

theorem body_performs {command : Command} {args : List String} {interface : String}
    (setter : command.IsSetter) (accepts : ¬ command.Refuses args)
    (goes : ¬ command.Stops width args) (serves : machine.Serves interface)
    (world : World State) :
    Performs (seen words) Cells.put (command.writes width args interface)
      (command.body machine.ethtool interface (some args)) world := by
  refine ⟨?_, body_effect stores setter serves world⟩
  rcases setter with rfl | rfl | rfl
  · exact (setOffload_performs stores (not_not.mp accepts) serves world).1
  · exact ⟨(), setter_returns stores serves accepts (fun wide => goes ⟨.coalesce, rfl, wide⟩)⟩
  · exact ⟨(), setter_returns stores serves accepts (fun wide => goes ⟨.ringparam, rfl, wide⟩)⟩

/-- A value that fits no `long` ends the script, after the write. -/
theorem body_raises {command : Command} {args : List String} {interface : String}
    (accepts : ¬ command.Refuses args) (stops : command.Stops width args)
    (serves : machine.Serves interface) (world : World State) :
    ∃ error, ((command.body machine.ethtool interface (some args)).run world).result =
      .error error := by
  rcases stops with ⟨settings, writes, overflows⟩
  cases command with
  | setCoalesce =>
      cases writes
      exact setter_raises stores serves accepts overflows
  | setRingparam =>
      cases writes
      exact setter_raises stores serves accepts overflows
  | setOffload => cases writes
  | showCoalesce => cases writes
  | showDriver => cases writes
  | showOffload => cases writes
  | showRing => cases writes

end Bodies

/-! ## One command line -/

section Lines

variable {State : Type} {machine : Machine State} {width : LongWidth} {words : State -> Words}
  {devices : List String}

/-- Whenever the devices can be listed, they are these. -/
def Machine.Lists (machine : Machine State) (devices : List String) : Prop :=
  forall state names, (machine.others.answer .getDevices state).1 = .ok names ->
    names.map DeviceName.name = devices

variable (stores : machine.Stores width words)
include stores

theorem seen_afterCall (call : Call) (reads : call.Reads) (world : World State) :
    seen words (world.afterCall machine.ethtool call) = seen words world :=
  reads_harmless stores call world.kernel reads

/-- A command for one device. -/
theorem runCmd_one_attempts {command : Command} {args : List String} {interface : String}
    (named : interface ≠ "") (world : World State) :
    Attempts (seen words) Cells.put (command.writes width args interface)
      (runCmd machine.ethtool command (some interface) (some args)) world := by
  apply attempts_after (seen_afterCall stores .getActiveDevices rfl world)
  intro activeDevices _
  have kept : (some interface).filter (fun name => name ≠ "") = some interface := by
    simp [named]
  rw [kept]
  apply attempts_after rfl
  intro _ _
  exact body_attempts stores command args interface _

/-- A command for all devices. -/
theorem runCmd_all_attempts (command : Command) (args : List String) (world : World State) :
    Attempts (seen words) Cells.put (world.allDevices.flatMap (command.writes width args))
      (runCmd machine.ethtool command none (some args)) world := by
  apply attempts_after (seen_afterCall stores .getActiveDevices rfl world)
  intro activeDevices _
  apply attempts_after rfl
  intro _ _
  apply attempts_after rfl
  intro allDevices same
  cases same
  refine attempts_forEach ?_ _
  intro interface _ world
  apply attempts_after rfl
  intro _ _
  apply attempts_after rfl
  intro _ _
  exact body_attempts stores command args interface _

theorem runCmd_display_unchanged {command : Command} (shows : ¬ command.IsSetter)
    (interface : Option String) (world : World State) :
    Attempts (seen words) Cells.put [] (runCmd machine.ethtool command interface none) world := by
  have body (interface : String) (world : World State) :
      Attempts (seen words) Cells.put [] (command.body machine.ethtool interface none) world :=
    attempts_of_unchanged _ (body_unchanged shows interface none words
      (fun call kernel reads => reads_harmless stores call kernel reads) world)
  apply attempts_after (seen_afterCall stores .getActiveDevices rfl world)
  intro activeDevices _
  split
  · apply attempts_after rfl
    intro _ _
    apply attempts_after rfl
    intro allDevices _
    have none : allDevices.flatMap (fun _ => ([] : List Write)) = [] := by simp
    rw [← none]
    refine attempts_forEach ?_ _
    intro interface _ world
    apply attempts_after rfl
    intro _ _
    apply attempts_after rfl
    intro _ _
    exact body interface _
  · apply attempts_after rfl
    intro _ _
    exact body _ _

theorem assignAllDevices_seen (world : World State) :
    seen words ((assignAllDevices machine.ethtool).run world).world = seen words world := by
  have looks := seen_afterCall stores .getDevices rfl world
  cases listed : (machine.ethtool.answer .getDevices world.kernel).1 with
  | ok names =>
      rw [assignAllDevices, run_bind_ok _ _ listed]
      exact looks
  | error error =>
      rw [assignAllDevices, run_bind_error _ _ listed]
      exact looks

omit stores in
/-- The names in `all_devices` are those of the listing. -/
theorem assignAllDevices_ok (lists : machine.Lists devices) {world : World State}
    {found : List String}
    (ended : ((assignAllDevices machine.ethtool).run world).result = .ok found) :
    found = devices ∧ ((assignAllDevices machine.ethtool).run world).world.allDevices = devices ∧
      forall name, name ∈ devices -> name ≠ "" := by
  cases listed : (machine.ethtool.answer .getDevices world.kernel).1 with
  | error error =>
      rw [assignAllDevices, run_bind_error _ _ listed] at ended
      cases ended
  | ok names =>
      have same := lists world.kernel names listed
      rw [assignAllDevices, run_bind_ok _ _ listed] at ended ⊢
      cases ended
      refine ⟨same, same, ?_⟩
      intro name member
      rw [← same] at member
      rcases List.mem_map.mp member with ⟨device, _, rfl⟩
      exact device.nonempty

theorem runSetter_attempts (lists : machine.Lists devices) (command : Command)
    (args : List String) (world : World State) :
    Attempts (seen words) Cells.put
      (((Action.change command).order devices args).elim [] (Order.writes width))
      (runSetter machine.ethtool command args) world := by
  apply attempts_after (assignAllDevices_seen stores world)
  intro found ended
  rcases assignAllDevices_ok lists ended with ⟨rfl, all, nonempty⟩
  match args with
  | [] => exact attempts_of_unchanged _ rfl
  | [_] => exact attempts_of_unchanged _ rfl
  | first :: second :: rest =>
      simp only [Action.order]
      split
      · rename_i existing
        simp only [Option.elim_some, Order.writes, List.flatMap_singleton]
        exact runCmd_one_attempts stores (nonempty first existing) _
      · have attempts := runCmd_all_attempts stores command (first :: second :: rest)
          ((assignAllDevices machine.ethtool).run world).world
        rw [all] at attempts
        exact attempts

/-- A command line stores some of the writes of its words, in order. -/
theorem main_attempts (lists : machine.Lists devices) (argv : List String)
    (world : World State) :
    Attempts (seen words) Cells.put (lineWrites width devices argv)
      (main machine.ethtool argv) world := by
  rcases main_cases machine.ethtool argv with
    ⟨message, _, refused⟩ | ⟨_, _, refused⟩ |
      ⟨opt, optarg, opts, args, action, parsed, row, same⟩
  · rw [refused]
    exact attempts_of_unchanged _ rfl
  · rw [refused]
    exact attempts_of_unchanged _ rfl
  · simp only [lineWrites, lineOrder, parsed, lookup_optionTable row]
    rw [same]
    cases action with
    | help => exact attempts_of_unchanged _ rfl
    | change command => exact runSetter_attempts stores lists command args world
    | display command =>
        have shows := display_not_setter row
        change Attempts (seen words) Cells.put [] (runCmdNoargs machine.ethtool command args)
          world
        cases args with
        | cons interface rest => exact runCmd_display_unchanged stores shows _ _
        | nil =>
            apply attempts_after (assignAllDevices_seen stores world)
            intro _ _
            exact runCmd_display_unchanged stores shows _ _

omit stores in
/-- A row of steps that is empty leaves nothing to be stored. -/
theorem attempts_nil {Value : Type} {program : Script State Value} {world : World State}
    (attempts : Attempts (seen words) Cells.put [] program world) :
    seen words (program.run world).world = seen words world := by
  rcases attempts with ⟨done, within, after⟩
  rw [List.sublist_nil.mp within] at after
  exact after

end Lines

/-! ## One command line, its devices served -/

/-- The devices can always be listed. -/
structure Machine.Reliable {State : Type} (machine : Machine State) (devices : List String) :
    Prop where
  lists : forall state, ∃ names,
    (machine.others.answer .getDevices state).1 = .ok names ∧
      names.map DeviceName.name = devices
  active : forall state, ∃ names, (machine.others.answer .getActiveDevices state).1 = .ok names

section Served

variable {State : Type} {machine : Machine State} {width : LongWidth} {words : State -> Words}
  {devices : List String}

theorem Machine.Reliable.only (reliable : machine.Reliable devices) : machine.Lists devices := by
  intro state names listed
  rcases reliable.lists state with ⟨others, found, same⟩
  rw [listed] at found
  cases found
  exact same

/-- Nothing is written for words that cannot be processed. -/
theorem stored_of_refuses {order : Order} (refuses : order.command.Refuses order.args) :
    order.stored width = [] ∧ order.writes width = [] := by
  have none : forall device, device ∈ order.devices ->
      order.command.writes width order.args device = [] :=
    fun device _ => writes_of_refuses refuses device
  refine ⟨?_, List.flatMap_eq_nil_iff.mpr none⟩
  exact List.flatMap_eq_nil_iff.mpr (fun device _ => writes_of_refuses refuses device)

variable (stores : machine.Stores width words) (reliable : machine.Reliable devices)
include stores reliable

theorem runCmd_one_effect {command : Command} (setter : command.IsSetter) {args : List String}
    {interface : String} (serves : machine.Serves interface) (named : interface ≠ "")
    (world : World State) :
    seen words ((runCmd machine.ethtool command (some interface) (some args)).run world).world =
      (seen words world).replay (command.writes width args interface) := by
  have looks := seen_afterCall stores .getActiveDevices rfl world
  rcases reliable.active world.kernel with ⟨active, listed⟩
  have kept : (some interface).filter (fun name => name ≠ "") = some interface := by
    simp [named]
  rw [runCmd, run_bind_ok (perform machine.ethtool .getActiveDevices) _ listed, kept, ← looks]
  exact body_effect stores setter serves _

/-- A command for all devices gets as far as the first value that fits no
`long`. -/
theorem runCmd_all_effect {order : Order} (setter : order.command.IsSetter)
    (serves : forall device, device ∈ order.reached width -> machine.Serves device)
    {world : World State} (all : world.allDevices = order.devices) :
    seen words ((runCmd machine.ethtool order.command none (some order.args)).run world).world =
      (seen words world).replay (order.stored width) := by
  have attempts := runCmd_all_attempts stores order.command order.args world
  rw [all] at attempts
  change Attempts _ _ (order.writes width) _ _ at attempts
  by_cases refuses : order.command.Refuses order.args
  · rw [(stored_of_refuses refuses).2] at attempts
    rw [(@stored_of_refuses width order refuses).1]
    exact attempts_nil attempts
  · have looks := seen_afterCall stores .getActiveDevices rfl world
    rcases reliable.active world.kernel with ⟨active, listed⟩
    rw [runCmd, run_bind_ok (perform machine.ethtool .getActiveDevices) _ listed, ← looks]
    let start : World State :=
      { world.afterCall machine.ethtool .getActiveDevices with tab := "  " }
    have loop : seen words ((forEach order.devices
        (runOn machine.ethtool order.command (some order.args) active)).run start).world =
          (seen words start).replay (order.stored width) := by
      by_cases stops : order.command.Stops width order.args
      · have reached : order.reached width = order.devices.take 1 := if_pos stops
        rw [Order.stored, reached]
        rw [reached] at serves
        cases devices_eq : order.devices with
        | nil => rfl
        | cons first rest =>
            rw [devices_eq] at serves
            have served := serves first List.mem_cons_self
            rcases body_raises stores refuses stops served start with ⟨error, raised⟩
            rw [List.take_succ_cons, List.take_zero, List.flatMap_singleton, forEach,
              run_bind_error (runOn machine.ethtool order.command (some order.args) active first) _
                raised]
            exact body_effect stores setter served start
      · have reached : order.reached width = order.devices := if_neg stops
        rw [Order.stored, reached]
        rw [reached] at serves
        have performs : Performs (seen words) Cells.put
            (order.devices.flatMap (order.command.writes width order.args))
            (forEach order.devices
              (runOn machine.ethtool order.command (some order.args) active)) start := by
          apply performs_forEach
          intro device member world
          exact body_performs stores setter refuses stops (serves device member) world
        exact performs.2
    rw [← all] at loop
    exact loop

theorem runSetter_effect {command : Command} (setter : command.IsSetter) (args : List String)
    (serves : forall device,
      device ∈ ((Action.change command).order devices args).elim [] (Order.reached width) ->
        machine.Serves device) (world : World State) :
    seen words ((runSetter machine.ethtool command args).run world).world =
      (seen words world).replay
        (((Action.change command).order devices args).elim [] (Order.stored width)) := by
  have looks := assignAllDevices_seen stores world
  rcases reliable.lists world.kernel with ⟨names, listed, same⟩
  have assigned : ((assignAllDevices machine.ethtool).run world).result = .ok devices := by
    rw [← same]
    exact (run_assignAllDevices listed).1
  rcases assignAllDevices_ok reliable.only assigned with ⟨_, all, nonempty⟩
  rw [runSetter, run_bind_ok _ _ assigned, ← looks]
  rcases args with _ | ⟨first, _ | ⟨second, rest⟩⟩
  · rfl
  · rfl
  · simp only [Action.order] at serves ⊢
    by_cases existing : first ∈ devices
    · rw [if_pos existing] at serves
      rw [if_pos existing, if_pos existing]
      have reached : Order.reached width ⟨command, second :: rest, [first]⟩ = [first] :=
        ite_self _
      simp only [Option.elim_some, Order.stored, reached, List.flatMap_singleton] at serves ⊢
      exact runCmd_one_effect stores reliable setter (serves first List.mem_cons_self)
        (nonempty first existing) _
    · rw [if_neg existing] at serves
      rw [if_neg existing, if_neg existing]
      exact @runCmd_all_effect _ _ _ _ _ stores reliable
        ⟨command, first :: second :: rest, devices⟩ setter serves _ all

/-- Where the devices that it reaches are served, a command line stores
exactly what it makes of its words for them. -/
theorem main_effect {argv : List String}
    (serves : forall device, device ∈ lineReached width devices argv -> machine.Serves device)
    (world : World State) :
    seen words ((main machine.ethtool argv).run world).world =
      (seen words world).replay (lineStored width devices argv) := by
  have attempts := main_attempts stores reliable.only argv world
  rcases main_cases machine.ethtool argv with
    ⟨message, failed, _⟩ | ⟨args, none, _⟩ |
      ⟨opt, optarg, opts, args, action, parsed, row, same⟩
  · simp only [lineWrites, lineStored, lineOrder, failed] at attempts ⊢
    exact attempts_nil attempts
  · simp only [lineWrites, lineStored, lineOrder, none] at attempts ⊢
    exact attempts_nil attempts
  · simp only [lineWrites, lineStored, lineReached, lineOrder, parsed, lookup_optionTable row]
      at attempts serves ⊢
    cases action with
    | help => exact attempts_nil attempts
    | display command => exact attempts_nil attempts
    | change command =>
        rw [same]
        exact runSetter_effect stores reliable (change_setter row) args serves world

end Served

end Pethtool
end PythonEthtool
