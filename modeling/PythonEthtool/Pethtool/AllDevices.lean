import PythonEthtool.Pethtool.Targets

namespace PythonEthtool
namespace Pethtool

open Foundations
open Foundations.Program
open Ioctl (Settings)
open Python

/-!
# Commands for all devices

Without an interface `run_cmd` goes through all devices, and an exception
that a command lets through ends the loop.  The commands that show something
catch the `IOError` of each of their reads, and `set_offload` catches
everything.  `set_coalesce` and `set_ringparam` guard the read and leave the
write unguarded: a device that refuses the write ends the loop, and the
devices after it are not reached.
-/

/-- Calls of the module fail with `IOError` only. -/
def Ethtool.OnlyIOErrors {Kernel : Type} (ethtool : Ethtool Kernel) : Prop :=
  forall call kernel error, (ethtool.answer call kernel).1 = .error error -> error.kind = .osError

/-- The device for which a command is entered. -/
def Event.entered : Event -> Option String
  | .invoked interface => some interface
  | _ => none

/-- The devices for which a command is entered, in order. -/
def invokedDevices (events : List Event) : List String :=
  events.filterMap Event.entered

/-- The command is entered once for each device, in order. -/
def ReachesAll {Kernel : Type} (ethtool : Ethtool Kernel) (world : World Kernel)
    (command : Command) (args : List String) : Prop :=
  invokedDevices ((runCmd ethtool command none (some args)).run world).events = world.allDevices

/-! ## Commands that show something return -/

section Showing

variable {Kernel Value : Type} {ethtool : Ethtool Kernel}

theorem returns_printtab (msg : String) : Returns (printtab msg : Script Kernel Unit) := by
  apply returns_bind (returns_read World.tab)
  intro tab
  exact returns_tell _ _

theorem getItem_of_field {settings : Settings} (current : CurrentSettings settings)
    {name : String} (field : name ∈ settings.struct.fields) :
    ∃ value, getItem current.map name = .ok value := by
  rcases Option.isSome_iff_exists.mp (current.complete name field) with ⟨value, present⟩
  exact ⟨value, getItem_eq_ok.mpr present⟩

theorem returns_showOthers (map : SettingsMap) (printed : List String) :
    Returns (showOthers map printed : Script Kernel Unit) := by
  unfold showOthers
  split
  · apply returns_forEach
    intro tunable member
    split
    · exact returns_pure ()
    · rcases Option.isSome_iff_exists.mp (map.get?_isSome_of_mem member) with ⟨value, present⟩
      apply returns_ofExcept_bind (getItem_eq_ok.mpr present)
      exact returns_printtab _
  · exact returns_pure ()

/-- Every row is a separator or shows a field. -/
theorem returns_showCoalesceRow (coal : CurrentSettings .coalesce) {tunable : MsgRow}
    (member : tunable ∈ ethtoolCoalesceMsgs) :
    Returns (showCoalesceRow coal.map tunable : Script Kernel Unit) := by
  have table : forall row, row ∈ ethtoolCoalesceMsgs -> row = .text "\n" ∨
      (row.printed.length = 1 ∧ forall entry, entry ∈ row.printed ->
        entry ∈ Settings.coalesce.struct.fields) := by
    decide
  cases tunable with
  | text content =>
      rcases table _ member with separator | ⟨single, _⟩
      · cases separator
        apply returns_ofExcept_bind rfl
        exact returns_pure ()
      · cases single
  | pair name entry =>
      rcases table _ member with separator | ⟨_, fields⟩
      · cases separator
      · rcases getItem_of_field coal (fields entry (List.mem_singleton_self entry)) with
          ⟨value, present⟩
        apply returns_ofExcept_bind rfl
        split
        · exact returns_pure ()
        · apply returns_ofExcept_bind rfl
          apply returns_ofExcept_bind present
          exact returns_printtab _

theorem returns_showRingRow (ring : CurrentSettings .ringparam) {tunable : RingRow}
    (member : tunable ∈ ethtoolRingparamMsgs) :
    Returns (showRingRow ring.map tunable : Script Kernel Unit) := by
  have table : forall row, row ∈ ethtoolRingparamMsgs -> forall entry, entry ∈ row.printed ->
      entry ∈ Settings.ringparam.struct.fields := by
    decide
  cases tunable with
  | heading title => exact returns_printtab _
  | value title entry =>
      rcases getItem_of_field ring (table _ member entry (List.mem_singleton_self entry)) with
        ⟨value, present⟩
      apply returns_ofExcept_bind present
      exact returns_printtab _

variable (ioOnly : ethtool.OnlyIOErrors)
include ioOnly

/-- A guarded call with a handler and a continuation that return. -/
theorem returns_guarded {call : Call} {handler : Script Kernel Value}
    {next : call.Reply -> Script Kernel Value} (handling : Returns handler)
    (continuing : forall value, Returns (next value)) :
    Returns (tryElse (perform ethtool call) (exceptIOError handler) next) := by
  apply returns_tryElse
  · intro world error failed
    have io : error.kind = .osError := ioOnly call world.kernel error failed
    rw [exceptIOError, if_pos io]
    exact handling
  · exact continuing

theorem returns_showCoalesce (interface : String) :
    Returns (showCoalesce ethtool interface) := by
  apply returns_bind (returns_printtab _)
  intro _
  apply returns_guarded ioOnly (returns_printtab _)
  intro coal
  rcases getItem_of_field coal (by decide : "use_adaptive_rx_coalesce" ∈
    Settings.coalesce.struct.fields) with ⟨rx, rxPresent⟩
  rcases getItem_of_field coal (by decide : "use_adaptive_tx_coalesce" ∈
    Settings.coalesce.struct.fields) with ⟨tx, txPresent⟩
  apply returns_ofExcept_bind rxPresent
  apply returns_ofExcept_bind txPresent
  apply returns_bind (returns_printtab _)
  intro _
  apply returns_bind
  · exact returns_forEach (fun tunable member => returns_showCoalesceRow coal member)
  · intro _
    exact returns_showOthers _ _

theorem returns_showRing (interface : String) : Returns (showRing ethtool interface) := by
  apply returns_bind (returns_printtab _)
  intro _
  apply returns_guarded ioOnly (returns_printtab _)
  intro ring
  apply returns_bind
  · exact returns_forEach (fun tunable member => returns_showRingRow ring member)
  · intro _
    exact returns_showOthers _ _

theorem returns_featureText (feature : Feature) (interface : String) :
    Returns (featureText ethtool feature interface) :=
  returns_guarded ioOnly (returns_pure _) (fun _ => returns_pure _)

theorem returns_showOffload (interface : String) : Returns (showOffload ethtool interface) := by
  apply returns_bind (returns_featureText ioOnly _ _)
  intro sg
  apply returns_bind (returns_featureText ioOnly _ _)
  intro tso
  apply returns_bind (returns_featureText ioOnly _ _)
  intro ufo
  apply returns_bind (returns_featureText ioOnly _ _)
  intro gso
  apply returns_bind (returns_featureText ioOnly _ _)
  intro gro
  apply returns_bind (returns_printtab _)
  intro _
  apply returns_bind (returns_printtab _)
  intro _
  apply returns_bind (returns_printtab _)
  intro _
  apply returns_bind (returns_printtab _)
  intro _
  exact returns_printtab _

theorem returns_showDriver (interface : String) : Returns (showDriver ethtool interface) := by
  apply returns_bind (returns_guarded ioOnly (returns_pure _) returns_pure)
  intro driver
  apply returns_bind (returns_guarded ioOnly (returns_pure _) returns_pure)
  intro bus
  apply returns_bind (returns_printtab _)
  intro _
  exact returns_printtab _

end Showing

/-! ## When a setter gets through -/

/-- On this device and in this state of the kernel a setter of dictionaries
returns: the settings cannot be read, or no option is a line feed and a
write, which is made if some assignment differs from the settings, is
accepted. -/
def SetterSurvives {Kernel : Type} (ethtool : Ethtool Kernel) (settings : Settings)
    (args : List String) (interface : String) (world : World Kernel) : Prop :=
  forall current,
    (ethtool.answer (.getSettings settings interface) world.kernel).1 = .ok current ->
      ¬ (settings = .coalesce ∧ ∃ pair, pair ∈ wordPairs args ∧ pyLower pair.1 = "\n") ∧
      ((∃ assignment, assignment ∈ accepted settings args ∧
          current.map.get? assignment.1 ≠ some assignment.2) ->
        ∃ reply, (ethtool.answer (.setSettings settings interface
            (current.map.override (accepted settings args)))
          (world.afterCall ethtool (.getSettings settings interface)).kernel).1 = .ok reply)

/-- The other commands always return. -/
def Command.Survives {Kernel : Type} (ethtool : Ethtool Kernel) (command : Command)
    (args : List String) (interface : String) (world : World Kernel) : Prop :=
  match command with
  | .setCoalesce => SetterSurvives ethtool .coalesce args interface world
  | .setRingparam => SetterSurvives ethtool .ringparam args interface world
  | _ => True

section Turns

variable {Kernel : Type} {ethtool : Ethtool Kernel} {world : World Kernel} {interface : String}
  {args : List String}

/-- Once the settings are read, a setter survives if no option is a line
feed and the write, if there is one, is accepted. -/
theorem setterSurvives_iff_of_read {settings : Settings} {current : CurrentSettings settings}
    (even : args.length % 2 = 0)
    (read : (ethtool.answer (.getSettings settings interface) world.kernel).1 = .ok current) :
    SetterSurvives ethtool settings args interface world ↔
      ¬ ProcessingRaises settings args ∧
        (differs current.map (accepted settings args) = true ->
          ∃ reply, (ethtool.answer (.setSettings settings interface
              (current.map.override (accepted settings args)))
            (world.afterCall ethtool (.getSettings settings interface)).kernel).1 =
              .ok reply) := by
  have raises_iff : ProcessingRaises settings args ↔
      settings = .coalesce ∧ ∃ pair, pair ∈ wordPairs args ∧ pyLower pair.1 = "\n" := by
    apply or_iff_right
    omega
  rw [raises_iff, differs_eq_true_iff]
  constructor
  · intro survives
    exact survives current read
  · intro fine other known
    rw [read] at known
    cases known
    exact fine

theorem setter_returns_iff (ioOnly : ethtool.OnlyIOErrors) (settings : Settings)
    (even : args.length % 2 = 0) :
    (∃ value, ((setter ethtool settings interface (some args)).run world).result = .ok value) ↔
      SetterSurvives ethtool settings args interface world := by
  cases read : (ethtool.answer (.getSettings settings interface) world.kernel).1 with
  | error error =>
      apply iff_of_true
      · rcases setter_eq_setSettings ethtool settings with ⟨unsupported, body⟩
        have io : error.kind = .osError := ioOnly _ _ error read
        rw [body, setSettings, run_tryElse_error _ _ _ read, exceptIOError, if_pos io]
        exact (returns_printtab _).ends _
      · intro current known
        rw [read] at known
        cases known
  | ok current =>
      rw [setterSurvives_iff_of_read even read]
      by_cases raises : ProcessingRaises settings args
      · rcases setter_run_of_raises raises read with ⟨error, run⟩
        rw [run]
        apply iff_of_false
        · rintro ⟨value, ended⟩
          cases ended
        · exact fun fine => fine.1 raises
      · rw [and_iff_right raises]
        cases differing : differs current.map (accepted settings args) with
        | true =>
            rw [setter_run_of_differs raises read differing]
            exact ⟨fun ended _ => ended, fun accepts => accepts rfl⟩
        | false =>
            rw [setter_run_of_repeats raises read differing]
            exact iff_of_true ⟨(), rfl⟩ (fun impossible => by cases impossible)

theorem returns_setFeature (feature : Feature) (value : String) :
    Returns (setFeature ethtool feature interface value) :=
  returns_tryElse (fun _ _ _ => returns_pure ()) (fun _ => returns_pure ())

theorem returns_setOffload (two : args.length = 2) :
    Returns (setOffload ethtool interface (some args)) := by
  rcases List.length_eq_two.mp two with ⟨option, token, rfl⟩
  apply returns_ofExcept_bind rfl
  simp only [List.map_cons, List.map_nil]
  split
  · exact returns_setFeature .tso _
  · split
    · exact returns_setFeature .gso _
    · split
      · exact returns_setFeature .gro _
      · exact returns_pure ()

/-- A command with usable arguments returns precisely when it survives. -/
theorem body_returns_iff (ioOnly : ethtool.OnlyIOErrors) {command : Command}
    (fine : command.WellFormed args) :
    (∃ value, ((command.body ethtool interface (some args)).run world).result = .ok value) ↔
      command.Survives ethtool args interface world := by
  cases command with
  | setCoalesce => exact setter_returns_iff ioOnly .coalesce fine
  | setRingparam => exact setter_returns_iff ioOnly .ringparam fine
  | setOffload => exact iff_of_true ((returns_setOffload fine).ends world) trivial
  | showCoalesce => exact iff_of_true ((returns_showCoalesce ioOnly interface).ends world) trivial
  | showDriver => exact iff_of_true ((returns_showDriver ioOnly interface).ends world) trivial
  | showOffload => exact iff_of_true ((returns_showOffload ioOnly interface).ends world) trivial
  | showRing => exact iff_of_true ((returns_showRing ioOnly interface).ends world) trivial

end Turns

/-! ## The loop -/

/-- Every device but the last one survives its turn, in the state that the
turns before it left behind. -/
def EveryTurn {Kernel : Type} (ethtool : Ethtool Kernel) (command : Command)
    (args : List String) : World Kernel -> List String -> Prop
  | _, [] => True
  | _, [_] => True
  | world, interface :: next :: rest =>
      command.Survives ethtool args interface world ∧
        EveryTurn ethtool command args
          ((command.body ethtool interface (some args)).run world).world (next :: rest)

section Loop

variable {Kernel : Type} {ethtool : Ethtool Kernel} {command : Command} {args : List String}

theorem invokedDevices_append (before after : List Event) :
    invokedDevices (before ++ after) = invokedDevices before ++ invokedDevices after :=
  List.filterMap_append

/-- A turn enters the command for its device and for no other. -/
theorem invokedDevices_runOn (activeDevices : List String) (interface : String)
    (world : World Kernel) :
    invokedDevices
      ((runOn ethtool command (some args) activeDevices interface).run world).events =
        [interface] := by
  have permits : Permits (fun event => event.entered = none) (Call.Serves interface) :=
    ⟨fun _ => rfl, fun _ _ => rfl⟩
  have quiet : invokedDevices
      ((command.body ethtool interface (some args)).run world).events = [] := by
    apply List.filterMap_eq_nil_iff.mpr
    intro event member
    exact (emits_body permits command (some args)).allows member
  change interface :: invokedDevices
    ((command.body ethtool interface (some args)).run world).events = [interface]
  rw [quiet]

theorem forEach_reaches_iff (ioOnly : ethtool.OnlyIOErrors) (fine : command.WellFormed args)
    (activeDevices : List String) (devices : List String) (world : World Kernel) :
    invokedDevices
        ((forEach devices (runOn ethtool command (some args) activeDevices)).run world).events =
          devices ↔ EveryTurn ethtool command args world devices := by
  induction devices generalizing world with
  | nil => exact iff_of_true rfl trivial
  | cons interface rest ih =>
      have entered : invokedDevices
          ((runOn ethtool command (some args) activeDevices interface).run world).events =
            [interface] :=
        invokedDevices_runOn activeDevices interface world
      have returns : (∃ value,
          ((runOn ethtool command (some args) activeDevices interface).run world).result =
            .ok value) ↔ command.Survives ethtool args interface world :=
        body_returns_iff ioOnly fine
      rw [forEach]
      cases ended : ((runOn ethtool command (some args) activeDevices interface).run
          world).result with
      | ok value =>
          rw [run_bind_ok _ _ ended, invokedDevices_append, entered, List.singleton_append,
            List.cons.injEq, and_iff_right rfl, ih]
          cases rest with
          | nil => exact Iff.rfl
          | cons next rest =>
              exact (and_iff_right (returns.mp ⟨value, ended⟩)).symm
      | error error =>
          rw [run_bind_error _ _ ended, entered]
          cases rest with
          | nil => exact iff_of_true rfl trivial
          | cons next rest =>
              apply iff_of_false
              · intro same
                cases same
              · intro turns
                rcases returns.mpr turns.1 with ⟨value, other⟩
                rw [ended] at other
                cases other

/-- The state in which the loop starts: the active devices have been asked
for, and the output is indented. -/
def loopStart (ethtool : Ethtool Kernel) (world : World Kernel) : World Kernel :=
  { world.afterCall ethtool .getActiveDevices with tab := "  " }

theorem reachesAll_iff_of_listed {world : World Kernel} (ioOnly : ethtool.OnlyIOErrors)
    (fine : command.WellFormed args) {activeDevices : List String}
    (listed : (ethtool.answer .getActiveDevices world.kernel).1 = .ok activeDevices) :
    ReachesAll ethtool world command args ↔
      EveryTurn ethtool command args (loopStart ethtool world) world.allDevices := by
  rw [ReachesAll, runCmd, run_bind_ok _ _ listed]
  change invokedDevices ((forEach world.allDevices
    (runOn ethtool command (some args) activeDevices)).run
      (loopStart ethtool world)).events = world.allDevices ↔ _
  exact forEach_reaches_iff ioOnly fine activeDevices world.allDevices _

/-- A command reaches all devices precisely when the active devices can be
listed and every device but the last one survives its turn. -/
theorem reachesAll_iff (ethtool : Ethtool Kernel) (world : World Kernel) (command : Command)
    (args : List String) (ioOnly : ethtool.OnlyIOErrors) (fine : command.WellFormed args) :
    ReachesAll ethtool world command args ↔
      world.allDevices = [] ∨
        ((∃ activeDevices,
            (ethtool.answer .getActiveDevices world.kernel).1 = .ok activeDevices) ∧
          EveryTurn ethtool command args (loopStart ethtool world) world.allDevices) := by
  cases listed : (ethtool.answer .getActiveDevices world.kernel).1 with
  | error error =>
      rw [ReachesAll, runCmd, run_bind_error _ _ listed]
      change [] = world.allDevices ↔ _
      constructor
      · intro same
        exact Or.inl same.symm
      · rintro (none | ⟨⟨_, impossible⟩, _⟩)
        · exact none.symm
        · cases impossible
  | ok activeDevices =>
      rw [reachesAll_iff_of_listed ioOnly fine listed]
      constructor
      · intro turns
        exact Or.inr ⟨⟨activeDevices, rfl⟩, turns⟩
      · rintro (none | ⟨_, turns⟩)
        · rw [none]
          trivial
        · exact turns

end Loop

theorem twoDevices_onlyIOErrors : twoDevices.OnlyIOErrors := by
  intro call kernel error failed
  cases call with
  | setSettings settings interface map =>
      simp only [twoDevices] at failed
      split at failed
      · cases failed
      · cases failed
        rfl
  | setFeature feature interface value =>
      simp only [twoDevices] at failed
      split at failed
      · cases failed
      · cases failed
        rfl
  | _ => cases failed

/-- The device that refuses the write comes last, and both are reached. -/
theorem reachesAll_refusing_last :
    ReachesAll twoDevices ⟨(), "", ["eth0", "eth1"]⟩ .setCoalesce ["rx-usecs", "5"] := by
  apply (reachesAll_iff twoDevices ⟨(), "", ["eth0", "eth1"]⟩ .setCoalesce ["rx-usecs", "5"]
    twoDevices_onlyIOErrors rfl).mpr
  refine Or.inr ⟨⟨["eth0"], rfl⟩, ?_, trivial⟩
  intro current known
  refine ⟨?_, fun _ => ⟨(), rfl⟩⟩
  rintro ⟨_, pair, member, feed⟩
  rw [List.mem_singleton.mp member] at feed
  revert feed
  decide

/-- The device that refuses the write comes first, and the other one is not
reached. -/
theorem unreached_after_refusal :
    ¬ ReachesAll twoDevices ⟨(), "", ["eth1", "eth0"]⟩ .setCoalesce ["rx-usecs", "5"] := by
  have even : Command.setCoalesce.WellFormed ["rx-usecs", "5"] := rfl
  have listed : (twoDevices.answer .getActiveDevices ()).1 = .ok ["eth0"] := rfl
  rw [reachesAll_iff_of_listed twoDevices_onlyIOErrors even listed]
  rintro ⟨survives, _⟩
  have before : (CurrentSettings.zero .coalesce).map.get? "rx_coalesce_usecs" = some 0 :=
    get?_zeros (by decide)
  rcases (survives (.zero .coalesce) rfl).2 ⟨("rx_coalesce_usecs", 5), by decide, by
    rw [before]; decide⟩ with ⟨reply, accepts⟩
  cases accepts

end Pethtool
end PythonEthtool
