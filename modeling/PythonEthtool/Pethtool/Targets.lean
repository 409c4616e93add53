import PythonEthtool.Pethtool.Arguments

namespace PythonEthtool
namespace Pethtool

open Foundations
open Foundations.Program
open Ioctl (Settings)
open Python

/-!
# Which devices the setters change

A command changes no device but the one it is invoked for.  If the first
argument is an existing device, the command is invoked for this device
alone.  If it is not, the command is invoked for every device with the first
argument still in the list, and the list then has one word too many: the
pairing of the words, or the unpacking into two, raises before anything is
written.
-/

/-- Events that printing, the getters and the setters of one device may
leave behind. -/
structure Permits (allowed : Event -> Prop) (permitted : Call -> Prop) : Prop where
  printed : forall line, allowed (.printed line)
  called : forall call, permitted call -> allowed (.called call)

/-- A call that changes nothing. -/
def Call.Reads (call : Call) : Prop :=
  call.target = none

/-- A call that changes at most this device. -/
def Call.Serves (interface : String) (call : Call) : Prop :=
  call.target = none ∨ call.target = some interface

/-! ## The parts of a command -/

section Parts

variable {Kernel Value : Type} {ethtool : Ethtool Kernel} {allowed : Event -> Prop}

theorem emits_perform {call : Call} (fine : allowed (.called call)) :
    Emits allowed (perform ethtool call) := by
  constructor
  intro world event member
  rw [List.mem_singleton.mp member]
  exact fine

theorem emits_tell {update : World Kernel -> World Kernel} {events : List Event}
    (fine : forall event, event ∈ events -> allowed event) :
    Emits allowed (tell update events : Script Kernel Unit) := by
  constructor
  intro world event member
  exact fine event member

variable {permitted : Call -> Prop} (permits : Permits allowed permitted)
include permits

theorem emits_printLine (line : String) : Emits allowed (printLine line : Script Kernel Unit) := by
  apply emits_tell
  intro event member
  rw [List.mem_singleton.mp member]
  exact permits.printed line

theorem emits_printtab (msg : String) : Emits allowed (printtab msg : Script Kernel Unit) := by
  apply emits_bind (emits_read World.tab)
  intro tab
  exact emits_printLine permits (tab ++ msg)

omit permits in
theorem emits_exceptIOError {handler : Script Kernel Value} (handling : Emits allowed handler)
    (error : PyError) : Emits allowed (exceptIOError handler error) := by
  unfold exceptIOError
  split
  · exact handling
  · exact emits_raise error

theorem emits_showOthers (map : SettingsMap) (printed : List String) :
    Emits allowed (showOthers map printed : Script Kernel Unit) := by
  unfold showOthers
  split
  · apply emits_forEach
    intro tunable _
    split
    · exact emits_pure ()
    · apply emits_bind (emits_ofExcept _)
      intro value
      exact emits_printtab permits _
  · exact emits_pure ()

theorem emits_showCoalesceRow (coal : SettingsMap) (tunable : MsgRow) :
    Emits allowed (showCoalesceRow coal tunable : Script Kernel Unit) := by
  apply emits_bind (emits_ofExcept _)
  intro first
  split
  · exact emits_pure ()
  · apply emits_bind (emits_ofExcept _)
    intro entry
    apply emits_bind (emits_ofExcept _)
    intro value
    exact emits_printtab permits _

theorem emits_showRingRow (ring : SettingsMap) (tunable : RingRow) :
    Emits allowed (showRingRow ring tunable : Script Kernel Unit) := by
  cases tunable with
  | heading title => exact emits_printtab permits _
  | value title entry =>
      apply emits_bind (emits_ofExcept _)
      intro value
      exact emits_printtab permits _

end Parts

/-! ## The commands that show something -/

section Showing

variable {Kernel : Type} {ethtool : Ethtool Kernel} {allowed : Event -> Prop}
  {permitted : Call -> Prop} (permits : Permits allowed permitted)
  (reads : forall call : Call, call.Reads -> permitted call)
include permits reads

theorem emits_reading {call : Call} (reading : call.Reads) :
    Emits allowed (perform ethtool call) :=
  emits_perform (permits.called call (reads call reading))

theorem emits_showCoalesce (interface : String) :
    Emits allowed (showCoalesce ethtool interface) := by
  apply emits_bind (emits_printtab permits _)
  intro _
  apply emits_tryElse
  · exact emits_reading permits reads rfl
  · exact emits_exceptIOError (emits_printtab permits _)
  · intro coal
    apply emits_bind (emits_ofExcept _)
    intro rx
    apply emits_bind (emits_ofExcept _)
    intro tx
    apply emits_bind (emits_printtab permits _)
    intro _
    apply emits_bind
    · exact emits_forEach (fun tunable _ => emits_showCoalesceRow permits coal.map tunable)
    · intro _
      exact emits_showOthers permits _ _

theorem emits_showRing (interface : String) : Emits allowed (showRing ethtool interface) := by
  apply emits_bind (emits_printtab permits _)
  intro _
  apply emits_tryElse
  · exact emits_reading permits reads rfl
  · exact emits_exceptIOError (emits_printtab permits _)
  · intro ring
    apply emits_bind
    · exact emits_forEach (fun tunable _ => emits_showRingRow permits ring.map tunable)
    · intro _
      exact emits_showOthers permits _ _

theorem emits_featureText (feature : Feature) (interface : String) :
    Emits allowed (featureText ethtool feature interface) := by
  apply emits_tryElse
  · exact emits_reading permits reads rfl
  · exact emits_exceptIOError (emits_pure _)
  · intro value
    exact emits_pure _

theorem emits_showOffload (interface : String) :
    Emits allowed (showOffload ethtool interface) := by
  apply emits_bind (emits_featureText permits reads _ _)
  intro sg
  apply emits_bind (emits_featureText permits reads _ _)
  intro tso
  apply emits_bind (emits_featureText permits reads _ _)
  intro ufo
  apply emits_bind (emits_featureText permits reads _ _)
  intro gso
  apply emits_bind (emits_featureText permits reads _ _)
  intro gro
  apply emits_bind (emits_printtab permits _)
  intro _
  apply emits_bind (emits_printtab permits _)
  intro _
  apply emits_bind (emits_printtab permits _)
  intro _
  apply emits_bind (emits_printtab permits _)
  intro _
  exact emits_printtab permits _

theorem emits_showDriver (interface : String) :
    Emits allowed (showDriver ethtool interface) := by
  apply emits_bind
  · apply emits_tryElse
    · exact emits_reading permits reads rfl
    · exact emits_exceptIOError (emits_pure _)
    · exact emits_pure
  · intro driver
    apply emits_bind
    · apply emits_tryElse
      · exact emits_reading permits reads rfl
      · exact emits_exceptIOError (emits_pure _)
      · exact emits_pure
    · intro bus
      apply emits_bind (emits_printtab permits _)
      intro _
      exact emits_printtab permits _

end Showing

/-! ## The commands that set something -/

section Setting

variable {Kernel : Type} {ethtool : Ethtool Kernel} {allowed : Event -> Prop}
  {permitted : Call -> Prop} (permits : Permits allowed permitted)
  (reads : forall call : Call, call.Reads -> permitted call) {interface : String}
  {args : Option (List String)}
include permits reads

/-- Only a successful pass over the arguments leads to a write. -/
theorem emits_setSettings {settings : Settings} {unsupported : String} {recognise : Recognise}
    (writes : forall current final changed,
      processArgs recognise current args = .ok (final, changed) ->
        permitted (.setSettings settings interface final)) :
    Emits allowed (setSettings ethtool settings unsupported recognise interface args) := by
  apply emits_tryElse
  · exact emits_reading permits reads rfl
  · exact emits_exceptIOError (emits_printtab permits _)
  · intro current
    apply emits_ofExcept_bind
    rintro ⟨final, changed⟩ processed
    cases changed with
    | true => exact emits_perform (permits.called _ (writes current.map final true processed))
    | false => exact emits_pure ()

omit reads in
theorem emits_setFeature {feature : Feature} {value : String}
    (writes : forall number, permitted (.setFeature feature interface number)) :
    Emits allowed (setFeature ethtool feature interface value) := by
  apply emits_tryElse
  · exact emits_perform (permits.called _ (writes _))
  · intro _
    exact emits_pure ()
  · intro _
    exact emits_pure ()

omit reads in
theorem emits_setOffload
    (writes : forall cmd value feature number, lowered args = .ok [cmd, value] ->
      permitted (.setFeature feature interface number)) :
    Emits allowed (setOffload ethtool interface args) := by
  apply emits_ofExcept_bind
  intro words unpacked
  match words, unpacked with
  | [cmd, value], unpacked =>
      have writing (feature : Feature) :
          Emits allowed (setFeature ethtool feature interface value) :=
        emits_setFeature permits (fun number => writes cmd value feature number unpacked)
      simp only
      split
      · exact writing .tso
      · split
        · exact writing .gso
        · split
          · exact writing .gro
          · exact emits_pure ()
  | [], _ => exact emits_raise _
  | [_], _ => exact emits_raise _
  | _ :: _ :: _ :: _, _ => exact emits_raise _

end Setting

/-- A command changes at most the device it is invoked for. -/
theorem emits_body {Kernel : Type} {ethtool : Ethtool Kernel} {allowed : Event -> Prop}
    {interface : String} (permits : Permits allowed (Call.Serves interface)) (command : Command)
    (args : Option (List String)) : Emits allowed (command.body ethtool interface args) := by
  have reads : forall call : Call, call.Reads -> call.Serves interface := fun _ => Or.inl
  cases command with
  | showCoalesce => exact emits_showCoalesce permits reads interface
  | showDriver => exact emits_showDriver permits reads interface
  | showOffload => exact emits_showOffload permits reads interface
  | showRing => exact emits_showRing permits reads interface
  | setOffload => exact emits_setOffload permits (fun _ _ _ _ _ => Or.inr rfl)
  | setCoalesce => exact emits_setSettings permits reads (fun _ _ _ _ => Or.inr rfl)
  | setRingparam => exact emits_setSettings permits reads (fun _ _ _ _ => Or.inr rfl)

/-! ## One word too many -/

/-- The words that a command can use: two for `set_offload`, pairs for the
setters of dictionaries. -/
def Command.WellFormed (command : Command) (args : List String) : Prop :=
  match command with
  | .setOffload => args.length = 2
  | .setCoalesce | .setRingparam => args.length % 2 = 0
  | _ => True

/-- The setters of this module, which `main` can run with arguments. -/
def Command.IsSetter (command : Command) : Prop :=
  command = .setOffload ∨ command = .setCoalesce ∨ command = .setRingparam

/-- With a word in front of usable arguments nothing is written. -/
theorem emits_body_extra_word {Kernel : Type} {ethtool : Ethtool Kernel}
    {allowed : Event -> Prop} (permits : Permits allowed Call.Reads) {command : Command}
    (setter : command.IsSetter) {args : List String} (fine : command.WellFormed args)
    (extra interface : String) :
    Emits allowed (command.body ethtool interface (some (extra :: args))) := by
  have reads : forall call : Call, call.Reads -> call.Reads := fun _ reading => reading
  rcases setter with rfl | rfl | rfl
  · apply emits_setOffload permits
    intro cmd value feature number unpacked
    have lengths := congrArg List.length (Except.ok.inj unpacked)
    simp only [List.length_map, List.length_cons, List.length_nil] at lengths
    change args.length = 2 at fine
    omega
  all_goals
    apply emits_setSettings permits reads
    intro current final changed processed
    have odd : (extra :: args).length % 2 = 1 := by
      change args.length % 2 = 0 at fine
      simp only [List.length_cons]
      omega
    rcases processArgs_odd _ current odd with ⟨error, failed⟩
    rw [failed] at processed
    cases processed

/-! ## From the command line to the devices -/

/-- The options that set something, and what they run. -/
def setterOptions : List (String × Command) :=
  [("-K", .setOffload), ("--offload", .setOffload),
    ("-C", .setCoalesce), ("--coalesce", .setCoalesce),
    ("-G", .setRingparam), ("--set-ring", .setRingparam)]

theorem setterOptions_isSetter {opt : String} {command : Command}
    (option : (opt, command) ∈ setterOptions) : command.IsSetter := by
  simp only [setterOptions, List.mem_cons, Prod.mk.injEq, List.not_mem_nil, or_false] at option
  rcases option with ⟨_, rfl⟩ | ⟨_, rfl⟩ | ⟨_, rfl⟩ | ⟨_, rfl⟩ | ⟨_, rfl⟩ | ⟨_, rfl⟩
  all_goals simp only [Command.IsSetter, reduceCtorEq, true_or, or_true]

section Main

variable {Kernel : Type} {ethtool : Ethtool Kernel} {world : World Kernel}
  {allowed : Event -> Prop}

theorem dispatch_setter {opt optarg : String} {command : Command}
    (option : (opt, command) ∈ setterOptions) (opts : List (String × String))
    (args : List String) :
    dispatch ethtool ((opt, optarg) :: opts) args = runSetter ethtool command args := by
  simp only [setterOptions, List.mem_cons, Prod.mk.injEq, List.not_mem_nil, or_false] at option
  rcases option with ⟨rfl, rfl⟩ | ⟨rfl, rfl⟩ | ⟨rfl, rfl⟩ | ⟨rfl, rfl⟩ | ⟨rfl, rfl⟩ | ⟨rfl, rfl⟩
  all_goals simp [dispatch]

theorem main_setter {argv args : List String} {opt optarg : String}
    {opts : List (String × String)} {command : Command}
    (parsed : getopt argv shortopts longopts = .ok ((opt, optarg) :: opts, args))
    (option : (opt, command) ∈ setterOptions) :
    main ethtool argv = runSetter ethtool command args := by
  rw [main, parsed]
  exact dispatch_setter option opts args

theorem run_assignAllDevices {devices : List DeviceName}
    (existing : (ethtool.answer .getDevices world.kernel).1 = .ok devices) :
    ((assignAllDevices ethtool).run world).result = .ok (devices.map DeviceName.name) ∧
      ((assignAllDevices ethtool).run world).events = [.called .getDevices] := by
  rw [assignAllDevices, run_bind_ok _ _ existing]
  exact ⟨rfl, rfl⟩

/-- The command is invoked for the first argument if that is a device, and
with all the arguments for every device if it is not. -/
theorem runSetter_events {devices : List DeviceName} {command : Command} {first second : String}
    {rest : List String}
    (existing : (ethtool.answer .getDevices world.kernel).1 = .ok devices) :
    ((runSetter ethtool command (first :: second :: rest)).run world).events =
      .called .getDevices ::
        ((if first ∈ devices.map DeviceName.name then
            runCmd ethtool command (some first) (some (second :: rest))
          else runCmd ethtool command none (some (first :: second :: rest))).run
            ((assignAllDevices ethtool).run world).world).events := by
  have assigned := run_assignAllDevices existing
  rw [runSetter, run_bind_ok _ _ assigned.1, assigned.2]
  rfl

theorem emits_invoke {command : Command} {interface : String} {args : Option (List String)}
    (recorded : allowed (.invoked interface))
    (body : Emits allowed (command.body ethtool interface args)) :
    Emits allowed (invoke ethtool command interface args) := by
  apply emits_bind
  · apply emits_tell
    intro event member
    rw [List.mem_singleton.mp member]
    exact recorded
  · intro _
    exact body

theorem emits_runCmd_one {permitted : Call -> Prop} (permits : Permits allowed permitted)
    (reads : forall call : Call, call.Reads -> permitted call) {command : Command}
    {interface : String} {args : Option (List String)} (named : interface ≠ "")
    (body : Emits allowed (invoke ethtool command interface args)) :
    Emits allowed (runCmd ethtool command (some interface) args) := by
  apply emits_bind
  · exact emits_reading permits reads rfl
  · intro activeDevices
    have kept : (some interface).filter (fun name => name ≠ "") = some interface := by
      simp [named]
    rw [kept]
    exact body

theorem emits_runCmd_all {permitted : Call -> Prop} (permits : Permits allowed permitted)
    (reads : forall call : Call, call.Reads -> permitted call) {command : Command}
    {args : Option (List String)}
    (body : forall interface, Emits allowed (invoke ethtool command interface args)) :
    Emits allowed (runCmd ethtool command none args) := by
  apply emits_bind
  · exact emits_reading permits reads rfl
  · intro activeDevices
    apply emits_bind
    · apply emits_tell
      intro event member
      cases member
    · intro _
      apply emits_bind (emits_read World.allDevices)
      intro allDevices
      apply emits_forEach
      intro interface _
      apply emits_bind (emits_printLine permits _)
      intro _
      exact body interface

/-- The setters of the command line keep to the selected device: nothing
but an existing first argument is changed, and with usable settings after
an argument that is no device nothing is changed at all. -/
theorem main_setter_targets (ethtool : Ethtool Kernel) (world : World Kernel)
    (argv : List String) (opt optarg : String) (opts : List (String × String))
    (first second : String) (rest : List String) (command : Command) (devices : List DeviceName)
    (parsed : getopt argv shortopts longopts =
      .ok ((opt, optarg) :: opts, first :: second :: rest))
    (option : (opt, command) ∈ setterOptions)
    (existing : (ethtool.answer .getDevices world.kernel).1 = .ok devices) :
    (first ∈ devices.map DeviceName.name ->
      forall event, event ∈ ((main ethtool argv).run world).events ->
        event.target = none ∨ event.target = some first) ∧
    (first ∉ devices.map DeviceName.name -> command.WellFormed (second :: rest) ->
      forall event, event ∈ ((main ethtool argv).run world).events -> event.target = none) := by
  rw [main_setter parsed option, runSetter_events existing]
  constructor
  · intro exists_ event member
    rw [if_pos exists_] at member
    rcases List.mem_cons.mp member with rfl | later
    · exact Or.inl rfl
    · have permits : Permits (fun event => event.target = none ∨ event.target = some first)
          (Call.Serves first) := ⟨fun _ => Or.inl rfl, fun _ serves => serves⟩
      have named : first ≠ "" := by
        rcases List.mem_map.mp exists_ with ⟨device, _, rfl⟩
        exact device.nonempty
      apply (emits_runCmd_one permits (fun _ => Or.inl) named _).allows later
      exact emits_invoke (Or.inl rfl) (emits_body permits command _)
  · intro unknown fine event member
    rw [if_neg unknown] at member
    rcases List.mem_cons.mp member with rfl | later
    · rfl
    · have permits : Permits (fun event => event.target = none) Call.Reads :=
        ⟨fun _ => rfl, fun _ reading => reading⟩
      apply (emits_runCmd_all permits (fun _ reading => reading) _).allows later
      intro interface
      exact emits_invoke rfl
        (emits_body_extra_word permits (setterOptions_isSetter option) fine first interface)

end Main

/-- Coalescing is set for `eth0` alone, and the unknown `eth9` in its place
changes nothing. -/
theorem main_setter_targets_eth0_eth9 :
    (forall event, event ∈
        ((main twoDevices ["-C", "eth0", "rx-usecs", "5"]).run (.start ())).events ->
      event.target = none ∨ event.target = some "eth0") ∧
    (forall event, event ∈
        ((main twoDevices ["-C", "eth9", "rx-usecs", "5"]).run (.start ())).events ->
      event.target = none) := by
  constructor
  · exact (main_setter_targets twoDevices (.start ()) ["-C", "eth0", "rx-usecs", "5"]
      "-C" "" [] "eth0" "rx-usecs" ["5"] .setCoalesce _ rfl (by decide) rfl).1 (by decide)
  · exact (main_setter_targets twoDevices (.start ()) ["-C", "eth9", "rx-usecs", "5"]
      "-C" "" [] "eth9" "rx-usecs" ["5"] .setCoalesce _ rfl (by decide) rfl).2 (by decide) rfl

end Pethtool
end PythonEthtool
