import PythonEthtool.Pethtool.Arguments

namespace PythonEthtool
namespace Pethtool

open Foundations
open Foundations.Program
open Ioctl (Settings)
open Python

/-!
# The setters as an override

`set_coalesce` and `set_ringparam` change the dictionary that they have read
in place and remember in a flag whether a value was different when it was
assigned.  The law behind this is simpler: the dictionary is overridden, from
left to right, by the pairs that are recognised, and it is written at most
once, namely as it is after the last pair.  Where nothing is written the
override would have changed nothing.

Which token is an integer literal is for `int` to say, in the script and in
the law alike.

The converse fails, since the flag is never taken back, and so does the rule
that an unknown option changes nothing: one table has rows that are not
options.  Both sections below say for which arguments.
-/

/-- The calls of a run that change a device. -/
def setCalls (events : List Event) : List Call :=
  events.filterMap (fun event =>
    match event with
    | .called call => if call.target.isSome then some call else none
    | _ => none)

/-- The limits that the driver sets. -/
def maxPending : List String :=
  ["rx_max_pending", "rx_mini_max_pending", "rx_jumbo_max_pending", "tx_max_pending"]

/-- The current settings overridden by the recognised pairs. -/
def finalSettings {settings : Settings} (current : CurrentSettings settings) (args : List String) :
    SettingsMap :=
  current.map.override (accepted settings args)

/-- What a setter does with its arguments once it has read the settings. -/
structure AppliesOverride {Kernel : Type} (ethtool : Ethtool Kernel) (world : World Kernel)
    (settings : Settings) (interface : String) (args : List String)
    (current : CurrentSettings settings) : Prop where
  writes : forall processed,
    processArgs (recogniserOf settings) current.map (some args) = .ok processed ->
      setCalls ((setter ethtool settings interface (some args)).run world).events =
          [.setSettings settings interface (finalSettings current args)] ∨
        (setCalls ((setter ethtool settings interface (some args)).run world).events = [] ∧
          finalSettings current args = current.map)
  keys : (finalSettings current args).keys = current.map.keys
  maxima : settings = .ringparam -> forall name, name ∈ maxPending ->
    (finalSettings current args).get? name = current.map.get? name
  odd : args.length % 2 = 1 ->
    (∃ error, ((setter ethtool settings interface (some args)).run world).result =
      .error error) ∧
    setCalls ((setter ethtool settings interface (some args)).run world).events = []

section Override

variable {settings : Settings} {current : CurrentSettings settings} {args : List String}

/-- Only fields are assigned to. -/
theorem accepted_field {assignment : String × Int}
    (member : assignment ∈ accepted settings args) :
    ∃ arg, entryOf settings arg = .ok (some assignment.1) := by
  rcases List.mem_filterMap.mp member with ⟨pair, _, read⟩
  exact ⟨pyLower pair.1, (readAs_eq_some_iff.mp read).1⟩

theorem mem_keys_of_entryOf (current : CurrentSettings settings) {arg field : String}
    (found : entryOf settings arg = .ok (some field)) :
    field ∈ current.map.keys := by
  by_contra absent
  have present := current.complete field (entryOf_field found)
  rw [Dictionary.get?_eq_none_of_not_mem _ absent] at present
  cases present

theorem finalSettings_keys : (finalSettings current args).keys = current.map.keys := by
  apply Dictionary.keys_override
  intro assignment member
  rcases accepted_field member with ⟨arg, found⟩
  exact mem_keys_of_entryOf current found

/-- The table of ring options has no limit in it. -/
theorem finalSettings_maxPending {current : CurrentSettings .ringparam} {name : String}
    (limit : name ∈ maxPending) :
    (finalSettings current args).get? name = current.map.get? name := by
  have table : forall entry, entry ∈ ethtoolRingparamMap -> entry.2 ∉ maxPending := by
    decide
  have unassigned : lastValue name (accepted .ringparam args) = none := by
    apply lastValue_eq_none_iff.mpr
    intro assignment member same
    rcases accepted_field member with ⟨arg, found⟩
    apply table (arg, assignment.1) (entryOf_ringparam_mem found)
    rw [← same]
    exact limit
  rw [finalSettings, Dictionary.get?_override, unassigned, Option.none_or]

theorem not_raises_of_processed {processed : SettingsMap × Bool}
    (fine : processArgs (recogniserOf settings) current.map (some args) = .ok processed) :
    ¬ ProcessingRaises settings args := by
  intro raises
  rcases assigned_of_raises raises with ⟨error, failed⟩
  rw [processArgs_eq (recogniserOf_within settings), failed] at fine
  cases fine

/-- Once the settings are read, the override is written if a pair differs
from them. -/
theorem setCalls_setter {Kernel : Type} {ethtool : Ethtool Kernel} {world : World Kernel}
    {interface : String} (fine : ¬ ProcessingRaises settings args)
    (known : (ethtool.answer (.getSettings settings interface) world.kernel).1 = .ok current) :
    setCalls ((setter ethtool settings interface (some args)).run world).events =
      if differs current.map (accepted settings args) then
        [.setSettings settings interface (finalSettings current args)]
      else [] := by
  cases differing : differs current.map (accepted settings args) with
  | true =>
      rw [setter_run_of_differs fine known differing]
      rfl
  | false =>
      rw [setter_run_of_repeats fine known differing]
      rfl

/-- The setters override the settings that they have read, from left to
right, and write the result once if at all. -/
theorem setter_appliesOverride {Kernel : Type} (ethtool : Ethtool Kernel) (world : World Kernel)
    (settings : Settings) (interface : String) (args : List String)
    (current : CurrentSettings settings)
    (known : (ethtool.answer (.getSettings settings interface) world.kernel).1 = .ok current) :
    AppliesOverride ethtool world settings interface args current where
  writes := by
    intro processed fine
    rw [setCalls_setter (not_raises_of_processed fine) known]
    cases differing : differs current.map (accepted settings args) with
    | true => exact Or.inl rfl
    | false =>
        exact Or.inr ⟨rfl, Dictionary.override_eq_self (differs_eq_false_iff.mp differing)⟩
  keys := finalSettings_keys
  maxima := by
    rintro rfl name limit
    exact finalSettings_maxPending limit
  odd := by
    intro odd
    rcases setter_run_of_raises (Or.inl odd) known with ⟨error, run⟩
    rw [run]
    exact ⟨⟨error, rfl⟩, rfl⟩

end Override

/-- Four words for the same field of a machine with cleared settings. -/
theorem setter_appliesOverride_repeated :
    AppliesOverride twoDevices (.start ()) .ringparam "eth0" ["rx", "512", "RX", "256"]
      (.zero .ringparam) :=
  setter_appliesOverride twoDevices (.start ()) .ringparam "eth0" ["rx", "512", "RX", "256"]
    (.zero .ringparam) rfl

/-! ## Needless writes

The flag `changed` is set by a pair whose value differs from the dictionary
at that moment, and nothing takes it back.  Where a field is assigned to
twice, the pairs can undo each other, and they do so again in every later
run.
-/

/-- A recognised option is given two different values. -/
def Conflicts (settings : Settings) (args : List String) : Prop :=
  ∃ field first second, (field, first) ∈ accepted settings args ∧
    (field, second) ∈ accepted settings args ∧ first ≠ second

/-- Two dictionaries that are equal in Python: the order of the entries
plays no role. -/
def SameEntries (first second : SettingsMap) : Prop :=
  forall name, first.get? name = second.get? name

/-- Every value fits a field of the structure. -/
def InRange (map : SettingsMap) : Prop :=
  forall name value, map.get? name = some value -> 0 ≤ value ∧ value < 2 ^ 32

/-- A device is written to only if something differs.  The second run is
made on any machine that reports what the first run has asked for. -/
structure WritesOnlyChanges {Kernel : Type} (ethtool : Ethtool Kernel) (world : World Kernel)
    (settings : Settings) (interface : String) (args : List String)
    (current : CurrentSettings settings) : Prop where
  changed : forall map,
    .setSettings settings interface map ∈
        setCalls ((setter ethtool settings interface (some args)).run world).events ->
      ¬ SameEntries map current.map
  settled : InRange (finalSettings current args) ->
    forall (later : Ethtool Kernel) (after : World Kernel) (stored : CurrentSettings settings),
      (later.answer (.getSettings settings interface) after.kernel).1 = .ok stored ->
      SameEntries stored.map (finalSettings current args) ->
      setCalls ((setter later settings interface (some args)).run after).events = []

/-- The settings of a device that has stored them. -/
def CurrentSettings.after {settings : Settings} (current : CurrentSettings settings)
    (args : List String) : CurrentSettings settings where
  map := finalSettings current args
  complete := by
    intro name member
    rw [finalSettings, Dictionary.get?_override, Option.isSome_or, current.complete name member,
      Bool.or_true]

/-- The same machine with a device that reports these settings. -/
def Ethtool.reporting {Kernel : Type} (ethtool : Ethtool Kernel) {settings : Settings}
    (stored : CurrentSettings settings) : Ethtool Kernel where
  answer call kernel :=
    match call with
    | .getSettings kind interface =>
        if same : settings = kind then (.ok (same ▸ stored), kernel)
        else ethtool.answer (.getSettings kind interface) kernel
    | call => ethtool.answer call kernel

theorem reporting_answer {Kernel : Type} (ethtool : Ethtool Kernel) {settings : Settings}
    (stored : CurrentSettings settings) (interface : String) (kernel : Kernel) :
    ((ethtool.reporting stored).answer (.getSettings settings interface) kernel).1 =
      .ok stored := by
  simp only [Ethtool.reporting, dif_pos]

/-- The arguments leave no needless write: no two values for one field, or
else a net effect on the settings and a value that no device can store. -/
def NoNeedlessWrite (settings : Settings) (args : List String) (current : SettingsMap) : Prop :=
  ¬ Conflicts settings args ∨
    ((∃ field value, lastValue field (accepted settings args) = some value ∧
        current.get? field ≠ some value) ∧
      ∃ field value, (lastValue field (accepted settings args)).or (current.get? field) =
        some value ∧ ¬ (0 ≤ value ∧ value < 2 ^ 32))

section NeedlessWrites

variable {settings : Settings} {args : List String}

/-- Every value given for a field is the last one. -/
theorem lastValue_of_not_conflicts (fine : ¬ Conflicts settings args) {assignment : String × Int}
    (member : assignment ∈ accepted settings args) :
    lastValue assignment.1 (accepted settings args) = some assignment.2 := by
  rcases assignment with ⟨field, number⟩
  cases last : lastValue field (accepted settings args) with
  | none => exact absurd rfl (lastValue_eq_none_iff.mp last (field, number) member)
  | some value =>
      by_contra different
      apply fine
      exact ⟨field, value, number, lastValue_mem last, member, fun same => different (by rw [same])⟩

theorem differs_of_conflicts (conflict : Conflicts settings args) (map : SettingsMap) :
    differs map (accepted settings args) = true := by
  rcases conflict with ⟨field, first, second, one, other, different⟩
  apply differs_eq_true_iff.mpr
  by_cases same : map.get? field = some first
  · refine ⟨(field, second), other, ?_⟩
    intro also
    exact different (Option.some.inj (same.symm.trans also))
  · exact ⟨(field, first), one, same⟩

variable {current : CurrentSettings settings}

theorem get?_finalSettings (name : String) :
    (finalSettings current args).get? name =
      (lastValue name (accepted settings args)).or (current.map.get? name) :=
  Dictionary.get?_override current.map (accepted settings args) name

/-- On the settings that it has asked for, a command without conflicts
finds nothing to do. -/
theorem differs_stored {stored : SettingsMap} (fine : ¬ Conflicts settings args)
    (same : SameEntries stored (finalSettings current args)) :
    differs stored (accepted settings args) = false := by
  apply differs_eq_false_iff.mpr
  intro assignment member
  rw [same, get?_finalSettings, lastValue_of_not_conflicts fine member, Option.some_or]

theorem sameEntries_final_iff :
    SameEntries (finalSettings current args) current.map ↔
      forall field value, lastValue field (accepted settings args) = some value ->
        current.map.get? field = some value := by
  constructor
  · intro same field value last
    rw [← same field, get?_finalSettings, last, Option.some_or]
  · intro kept field
    rw [get?_finalSettings]
    cases last : lastValue field (accepted settings args) with
    | none => exact Option.none_or
    | some value =>
        rw [Option.some_or]
        exact (kept field value last).symm

section Exactly

variable {Kernel : Type} {ethtool : Ethtool Kernel} {world : World Kernel} {interface : String}

/-- What is written differs from what was read as soon as some field has a
new last value; without conflicts there is one. -/
theorem changed_of_noNeedlessWrite (fine : ¬ ProcessingRaises settings args)
    (known : (ethtool.answer (.getSettings settings interface) world.kernel).1 = .ok current)
    (noNeedless : NoNeedlessWrite settings args current.map) (map : SettingsMap)
    (made : .setSettings settings interface map ∈
      setCalls ((setter ethtool settings interface (some args)).run world).events) :
    ¬ SameEntries map current.map := by
  rw [setCalls_setter fine known] at made
  cases differing : differs current.map (accepted settings args) with
  | false =>
      rw [differing] at made
      cases made
  | true =>
      rw [differing, if_pos rfl, List.mem_singleton] at made
      cases made
      rw [sameEntries_final_iff]
      intro kept
      rcases noNeedless with noConflict | ⟨⟨field, value, last, different⟩, _⟩
      · rcases differs_eq_true_iff.mp differing with ⟨assignment, member, different⟩
        exact different (kept _ _ (lastValue_of_not_conflicts noConflict member))
      · exact different (kept field value last)

theorem settled_of_noNeedlessWrite (fine : ¬ ProcessingRaises settings args)
    (noNeedless : NoNeedlessWrite settings args current.map)
    (storable : InRange (finalSettings current args)) {stored : CurrentSettings settings}
    (known : (ethtool.answer (.getSettings settings interface) world.kernel).1 = .ok stored)
    (same : SameEntries stored.map (finalSettings current args)) :
    setCalls ((setter ethtool settings interface (some args)).run world).events = [] := by
  rcases noNeedless with noConflict | ⟨_, field, value, final, unfit⟩
  · rw [setCalls_setter fine known, differs_stored noConflict same]
    rfl
  · rw [← get?_finalSettings] at final
    exact absurd (storable field value final) unfit

/-- Where a value is taken back, the second run shows it if the device can
store the result, and the first run otherwise. -/
theorem noNeedlessWrite_of_writesOnlyChanges (fine : ¬ ProcessingRaises settings args)
    (known : (ethtool.answer (.getSettings settings interface) world.kernel).1 = .ok current)
    (writes : WritesOnlyChanges ethtool world settings interface args current) :
    NoNeedlessWrite settings args current.map := by
  by_cases conflict : Conflicts settings args
  · apply Or.inr
    constructor
    · by_contra unchanged
      apply writes.changed (finalSettings current args)
      · rw [setCalls_setter fine known, differs_of_conflicts conflict, if_pos rfl]
        exact List.mem_singleton_self _
      · apply sameEntries_final_iff.mpr
        intro field value last
        by_contra different
        exact unchanged ⟨field, value, last, different⟩
    · by_contra allFit
      have storable : InRange (finalSettings current args) := by
        intro field value final
        rw [get?_finalSettings] at final
        by_contra unfit
        exact allFit ⟨field, value, final, unfit⟩
      have reported := reporting_answer ethtool (current.after args) interface world.kernel
      have quiet := writes.settled storable _ world _ reported (fun _ => rfl)
      rw [setCalls_setter fine reported, differs_of_conflicts conflict] at quiet
      cases quiet
  · exact Or.inl conflict

end Exactly

end NeedlessWrites

/-- The setters write only changes exactly where no value is taken back, or
the net effect is a change that no device can store. -/
theorem setter_writesOnlyChanges_iff {Kernel : Type} (ethtool : Ethtool Kernel)
    (world : World Kernel) (settings : Settings) (interface : String) (args : List String)
    (current : CurrentSettings settings)
    (known : (ethtool.answer (.getSettings settings interface) world.kernel).1 = .ok current)
    (processed : SettingsMap × Bool)
    (processes : processArgs (recogniserOf settings) current.map (some args) = .ok processed) :
    WritesOnlyChanges ethtool world settings interface args current ↔
      NoNeedlessWrite settings args current.map := by
  have fine := not_raises_of_processed processes
  constructor
  · exact noNeedlessWrite_of_writesOnlyChanges fine known
  · intro noNeedless
    constructor
    · exact changed_of_noNeedlessWrite fine known noNeedless
    · intro storable later after stored reported same
      exact settled_of_noNeedlessWrite fine noNeedless storable reported same

/-- One value for each of two fields: written once, and not again. -/
theorem setter_writesOnlyChanges_two :
    WritesOnlyChanges twoDevices (.start ()) .ringparam "eth0" ["rx", "512", "tx", "256"]
      (.zero .ringparam) := by
  have noConflict : ¬ Conflicts .ringparam ["rx", "512", "tx", "256"] := by
    rintro ⟨field, first, second, one, other, different⟩
    change (field, first) ∈ [("rx_pending", (512 : Int)), ("tx_pending", 256)] at one
    change (field, second) ∈ [("rx_pending", (512 : Int)), ("tx_pending", 256)] at other
    simp at one other
    grind
  exact (setter_writesOnlyChanges_iff twoDevices (.start ()) .ringparam "eth0"
    ["rx", "512", "tx", "256"] (.zero .ringparam) rfl _ rfl).mpr (Or.inl noConflict)

/-- A value that is taken back: the dictionary that was read is written. -/
theorem setter_writes_unchanged :
    ¬ WritesOnlyChanges twoDevices (.start ()) .ringparam "eth0" ["rx", "512", "rx", "0"]
      (.zero .ringparam) := by
  intro writes
  have made : setCalls ((setter twoDevices .ringparam "eth0" (some ["rx", "512", "rx", "0"])).run
      (.start ())).events = [.setSettings .ringparam "eth0"
        (finalSettings (.zero .ringparam) ["rx", "512", "rx", "0"])] := by
    rfl
  apply writes.changed (finalSettings (.zero .ringparam) ["rx", "512", "rx", "0"])
  · rw [made]
    exact List.mem_singleton_self _
  · intro name
    rfl

/-! ## Unknown options

A pair that is not recognised is passed over.  The lookup indexes every row
of the table as if it were a pair, and the separators, which are strings of
one character, are found under the name of a line feed.
-/

/-- No pair of words stops the processing: each option is looked up to a key
of the dictionary or to nothing, and what is recognised is applied. -/
structure IgnoresUnknown (settings : Settings) (args : List String)
    (current : CurrentSettings settings) : Prop where
  lookup : forall pair, pair ∈ wordPairs args ->
    ∃ entry, entryOf settings (pyLower pair.1) = .ok entry ∧
      forall field, entry = some field -> field ∈ current.map.keys
  applied : ∃ changed, processArgs (recogniserOf settings) current.map (some args) =
    .ok (finalSettings current args, changed)

/-- Every even list of words is processed, except those that have a line
feed for an option of `set_coalesce`. -/
theorem processArgs_ignoresUnknown_iff (settings : Settings) (args : List String)
    (current : CurrentSettings settings) (even : args.length % 2 = 0) :
    IgnoresUnknown settings args current ↔
      ¬ (settings = .coalesce ∧ ∃ pair, pair ∈ wordPairs args ∧ pyLower pair.1 = "\n") := by
  constructor
  · rintro ignores ⟨coalesce, pair, member, feed⟩
    rcases ignores.lookup pair member with ⟨entry, found, _⟩
    rcases entryOf_error_iff.mpr ⟨coalesce, feed⟩ with ⟨error, failed⟩
    rw [failed] at found
    cases found
  · intro noFeed
    have fine : ¬ ProcessingRaises settings args := by
      rintro (odd | feed)
      · omega
      · exact noFeed feed
    constructor
    · intro pair member
      cases found : entryOf settings (pyLower pair.1) with
      | error error =>
          rcases entryOf_error_iff.mp ⟨error, found⟩ with ⟨coalesce, feed⟩
          exact absurd ⟨coalesce, pair, member, feed⟩ noFeed
      | ok entry =>
          refine ⟨entry, rfl, ?_⟩
          rintro field rfl
          exact mem_keys_of_entryOf current found
    · refine ⟨differs current.map (accepted settings args), ?_⟩
      rw [processArgs_eq (recogniserOf_within settings), assigned_of_not_raises fine]
      rfl

/-- An unknown option and a word that is no number, with a pair after them. -/
theorem processArgs_ignoresUnknown_three :
    IgnoresUnknown .coalesce ["speed", "100", "rx-usecs", "fast", "tx-usecs", "8"]
      (.zero .coalesce) := by
  apply (processArgs_ignoresUnknown_iff .coalesce
    ["speed", "100", "rx-usecs", "fast", "tx-usecs", "8"] (.zero .coalesce) rfl).mpr
  rintro ⟨_, pair, member, feed⟩
  revert feed
  revert member
  revert pair
  decide

/-- A line feed is looked up to a separator, which has no second item. -/
theorem processArgs_line_feed : ¬ IgnoresUnknown .coalesce ["\n", "1"] (.zero .coalesce) := by
  intro ignores
  rcases ignores.applied with ⟨changed, processed⟩
  have raises : processArgs (recogniserOf .coalesce) (CurrentSettings.zero .coalesce).map
      (some ["\n", "1"]) = .error ⟨.indexError, .text "string index out of range"⟩ := by
    rfl
  rw [raises] at processed
  cases processed

end Pethtool
end PythonEthtool
