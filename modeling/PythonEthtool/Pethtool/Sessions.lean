import PythonEthtool.Ioctl.Names
import PythonEthtool.Pethtool.Store

namespace PythonEthtool
namespace Pethtool

open Foundations
open Foundations.Program
open Ioctl
open Python

/-!
# Command lines one after the other

An administrator enters command lines, and each of them starts the script
anew.  What the drivers hold in the end is compared with the writes that the
script makes of the words of all lines together.

In general the writes that were carried out are some of these, in the order
of the lines.  Where the devices that a line reaches are served they are all
of those for them, and three laws follow: a setting has the last value that
was given for it, entering the lines once more changes nothing, and two lines
for one device may be joined to one.
-/

/-- The script run once, in this state of the kernel. -/
def Machine.runLine {State : Type} (machine : Machine State) (state : State)
    (argv : List String) : State :=
  ((main machine.ethtool argv).run (.start state)).world.kernel

def Machine.session {State : Type} (machine : Machine State) (state : State)
    (lines : List (List String)) : State :=
  lines.foldl machine.runLine state

/-! ## A machine that keeps what it is sent -/

def groups : List Group :=
  [.ofSettings .coalesce, .ofSettings .ringparam, .ofFeature .sg, .ofFeature .tso,
    .ofFeature .ufo, .ofFeature .gso, .ofFeature .gro]

/-- The structure that a driver fills in for a query. -/
def fill (cells : Knob -> UInt32) (layout : List (Knob × Nat)) (data : Memory) : Memory :=
  layout.foldl (fun data entry => store32 data entry.2 (cells entry.1)) data

def keepingHost (interfaces : List Interface) (words : Words) : Host where
  width := .bits64
  stack := fun _ => 0xff
  interfaces := interfaces
  socket := 3
  socketErrno := 0
  answer := fun interface request =>
    { result := 0
      errno := 0
      ifru := fun _ => 0
      data :=
        match groups.find? (fun group => group.getCmd = load32 request.data 0) with
        | some group => fill (words interface.name.bytes) group.layout request.data
        | none => request.data }

/-- The drivers of these interfaces take every value. -/
def keeping (interfaces : List Interface) (names : List DeviceName) : Machine Words where
  host := keepingHost interfaces
  after words request :=
    match findByName interfaces (readString request.ifrName) with
    | none => words
    | some interface =>
        match groups.find? (fun group => group.setCmd = some (load32 request.data 0)) with
        | some group => words.put ⟨interface.name.bytes, group.carried request.data⟩
        | none => words
  others :=
    { answer := fun call words =>
        let refusal : PyError := ⟨.osError, .errno 95⟩
        let reply : Except PyError call.Reply :=
          match call with
          | .getDevices => .ok names
          | .getActiveDevices => .ok (names.map DeviceName.name)
          | _ => .error refusal
        (reply, words) }

section Keeping

variable {interfaces : List Interface} {names : List DeviceName}

theorem mem_groups (group : Group) : group ∈ groups := by
  cases group with
  | ofSettings settings => cases settings <;> decide
  | ofFeature feature => cases feature <;> decide

theorem find_getCmd (group : Group) :
    groups.find? (fun other => other.getCmd = group.getCmd) = some group := by
  have table : forall group, group ∈ groups ->
      groups.find? (fun other => other.getCmd = group.getCmd) = some group := by
    decide
  exact table group (mem_groups group)

theorem find_setCmd {group : Group} {cmd : UInt32} (sets : group.setCmd = some cmd) :
    groups.find? (fun other => other.setCmd = some cmd) = some group := by
  have table : forall group, group ∈ groups -> group.setCmd ≠ none ->
      groups.find? (fun other => other.setCmd = group.setCmd) = some group := by
    decide
  have found := table group (mem_groups group) (by rw [sets]; exact Option.some_ne_none cmd)
  rw [sets] at found
  exact found

/-- No query is a request that sets something. -/
theorem find_setCmd_query (group : Group) :
    groups.find? (fun other => other.setCmd = some group.getCmd) = none := by
  have table : forall group, group ∈ groups ->
      groups.find? (fun other => other.setCmd = some group.getCmd) = none := by
    decide
  exact table group (mem_groups group)

theorem load_fill_other (cells : Knob -> UInt32) {layout : List (Knob × Nat)} {offset : Nat}
    (apart : forall entry, entry ∈ layout -> Disjoint32 offset entry.2) (data : Memory) :
    load32 (fill cells layout data) offset = load32 data offset := by
  induction layout generalizing data with
  | nil => rfl
  | cons entry layout ih =>
      have rest := ih (fun later member => apart later (List.mem_cons_of_mem entry member))
        (store32 data entry.2 (cells entry.1))
      exact rest.trans (load32_store32_disjoint _ _ (apart entry List.mem_cons_self))

theorem load_fill (cells : Knob -> UInt32) {layout : List (Knob × Nat)}
    (apart : layout.Pairwise (fun first second => Disjoint32 first.2 second.2))
    {entry : Knob × Nat} (member : entry ∈ layout) (data : Memory) :
    load32 (fill cells layout data) entry.2 = cells entry.1 := by
  induction layout generalizing data with
  | nil => cases member
  | cons first layout ih =>
      have parts := List.pairwise_cons.mp apart
      rcases List.mem_cons.mp member with rfl | later
      · have kept := load_fill_other cells parts.1 (store32 data entry.2 (cells entry.1))
        exact kept.trans (load32_store32 _ _ _)
      · exact ih parts.2 later _

theorem layout_apart (group : Group) :
    group.layout.Pairwise (fun first second => Disjoint32 first.2 second.2) := by
  cases group with
  | ofSettings settings =>
      apply List.pairwise_map.mpr
      exact settings.covers.pairwise.imp (fun both => both.2)
  | ofFeature feature => exact List.pairwise_singleton _ _

theorem keeping_ioctl_of_found {words : Words} {request : IoctlRequest} {interface : Interface}
    (found : findByName interfaces (readString request.ifrName) = some interface) :
    ((keeping interfaces names).host words).ioctl request =
      (keepingHost interfaces words).answer interface request := by
  have resolved : ((keeping interfaces names).host words).resolve request.ifrName =
      some interface := found
  simp only [Host.ioctl, resolved]
  rfl

theorem keeping_ioctl_of_missing {words : Words} {request : IoctlRequest}
    (missing : findByName interfaces (readString request.ifrName) = none) :
    (((keeping interfaces names).host words).ioctl request).result = -1 := by
  have resolved : ((keeping interfaces names).host words).resolve request.ifrName = none :=
    missing
  simp only [Host.ioctl, resolved]

theorem keeping_stores (interfaces : List Interface) (names : List DeviceName) :
    (keeping interfaces names).Stores .bits64 id where
  width_eq := fun _ => rfl
  result_le := by
    intro words request _
    cases found : findByName interfaces (readString request.ifrName) with
    | none =>
        rw [keeping_ioctl_of_missing found]
        decide
    | some interface =>
        rw [keeping_ioctl_of_found found]
        exact Int.le_refl 0
  shows := by
    intro words request group _ query zero entry member
    cases found : findByName interfaces (readString request.ifrName) with
    | none =>
        rw [keeping_ioctl_of_missing found] at zero
        cases zero
    | some interface =>
        rw [keeping_ioctl_of_found found, ← findByName_name found]
        simp only [keepingHost, query, find_getCmd]
        exact load_fill _ (layout_apart group) member _
  looks := by
    intro words request group _ query
    simp only [keeping, query, find_setCmd_query, id_eq]
    split <;> rfl
  stores := by
    intro words request group _ sets
    cases found : findByName interfaces (readString request.ifrName) with
    | none =>
        rw [keeping_ioctl_of_missing found, if_neg (by decide)]
        simp only [keeping, found, id_eq]
    | some interface =>
        rw [keeping_ioctl_of_found found, ← findByName_name found]
        simp only [keeping, found, find_setCmd sets, id_eq]
        exact (if_pos rfl).symm
  apart := fun _ _ => rfl

end Keeping

/-- Requests for an interface by its name are served. -/
theorem keeping_serves {interfaces : List Interface} (names : List DeviceName) {device : String}
    {interface : Interface} (named : utf8Bytes device = interface.name.bytes)
    (found : findByName interfaces (kernelName device) = some interface) :
    (keeping interfaces names).Serves device where
  named := by
    have noNul : forall byte, byte ∈ utf8Bytes device -> byte ≠ 0 := by
      rw [named]
      exact interface.name.noNul
    rw [cstringOf, dif_pos noNul]
    rfl
  opens := fun _ => (by decide : (0 : Int) ≤ 3)
  answers := by
    intro words request _ asked
    have known : findByName interfaces (readString request.ifrName) = some interface := by
      rw [asked]
      exact found
    rw [keeping_ioctl_of_found known]
    rfl

def em1Device : DeviceName where
  name := "em1"
  nonempty := by decide

def loDevice : DeviceName where
  name := "lo"
  nonempty := by decide

/-- The interface `em1` alone. -/
def keepingEm1 : Machine Words :=
  keeping [em1] [em1Device]

/-- The interface `em1` beside `lo`, for which there is no driver. -/
def keepingBesideLo : Machine Words :=
  keeping [em1] [em1Device, loDevice]

theorem keepingEm1_stores : keepingEm1.Stores .bits64 id :=
  keeping_stores [em1] _

theorem utf8Bytes_em1 : utf8Bytes "em1" = em1.name.bytes := by
  have letters : "em1".toList = [101, 109, 49].map Char.ofUInt8 := rfl
  rw [utf8Bytes, letters, flatMap_utf8EncodeChar_ascii (by simp)]
  rfl

theorem keeping_reliable (interfaces : List Interface) (names : List DeviceName) :
    (keeping interfaces names).Reliable (names.map DeviceName.name) where
  lists := fun _ => ⟨names, rfl, rfl⟩
  active := fun _ => ⟨_, rfl⟩

theorem keepingEm1_reliable : keepingEm1.Reliable ["em1"] :=
  keeping_reliable [em1] [em1Device]

theorem keepingEm1_serves : keepingEm1.Serves "em1" := by
  apply keeping_serves _ utf8Bytes_em1
  rw [kernelName, utf8Bytes_em1]
  rfl

theorem keepingBesideLo_serves : keepingBesideLo.Serves "em1" := by
  apply keeping_serves _ utf8Bytes_em1
  rw [kernelName, utf8Bytes_em1]
  rfl

/-! ## Runs of command lines -/

section Sessions

variable {State : Type} {machine : Machine State} {width : LongWidth} {words : State -> Words}
  {devices : List String}

/-- The devices that the lines reach are served. -/
def Machine.ServesLines (machine : Machine State) (width : LongWidth) (devices : List String)
    (lines : List (List String)) : Prop :=
  forall argv, argv ∈ lines -> forall device, device ∈ lineReached width devices argv ->
    machine.Serves device

/-- A line reaches only listed devices. -/
theorem mem_of_reached {argv : List String} {device : String}
    (reached : device ∈ lineReached width devices argv) : device ∈ devices := by
  have within (order : Order) (member : device ∈ order.reached width) :
      device ∈ order.devices := by
    rw [Order.reached] at member
    split at member
    · exact List.mem_of_mem_take member
    · exact member
  have ordered (action : Action) (args : List String)
      (member : device ∈ (action.order devices args).elim [] (Order.reached width)) :
      device ∈ devices := by
    rw [Action.order.eq_def] at member
    split at member
    · split at member
      · rename_i existing
        rw [List.mem_singleton.mp (within _ member)]
        exact existing
      · exact within _ member
    · cases member
  rw [lineReached, lineOrder] at reached
  split at reached
  · split at reached
    · exact ordered _ _ reached
    · cases reached
  · cases reached

theorem session_effect (stores : machine.Stores width words)
    (reliable : machine.Reliable devices) {lines : List (List String)}
    (serves : machine.ServesLines width devices lines) (state : State) :
    words (machine.session state lines) =
      (words state).replay (lines.flatMap (lineStored width devices)) := by
  induction lines generalizing state with
  | nil => rfl
  | cons argv lines ih =>
      have first := main_effect stores reliable (serves argv List.mem_cons_self) (.start state)
      have rest := ih (fun later member => serves later (List.mem_cons_of_mem argv member))
        (machine.runLine state argv)
      rw [List.flatMap_cons, Cells.replay_append]
      exact rest.trans (congrArg (fun cells : Words => cells.replay _) first)

theorem keepingEm1_servesLines (lines : List (List String)) :
    keepingEm1.ServesLines .bits64 ["em1"] lines := by
  intro argv _ device reached
  rw [List.mem_singleton.mp (mem_of_reached reached)]
  exact keepingEm1_serves

/-- Entering the same command lines again does not change what the drivers
hold, although it may write to them. -/
theorem session_again (stores : machine.Stores width words)
    (reliable : machine.Reliable devices) (lines : List (List String))
    (serves : machine.ServesLines width devices lines) (state : State) :
    words (machine.session state (lines ++ lines)) = words (machine.session state lines) := by
  have both : machine.ServesLines width devices (lines ++ lines) := by
    intro argv member
    exact serves argv ((List.mem_append.mp member).elim id id)
  rw [session_effect stores reliable both, session_effect stores reliable serves,
    List.flatMap_append, Cells.replay_again]

theorem session_again_em1 :
    id (keepingEm1.session (fun _ _ => 64) ([["-G", "RX", "256"],
        ["-G", "tx", "99999999999999999999"]] ++ [["-G", "RX", "256"],
          ["-G", "tx", "99999999999999999999"]])) =
      id (keepingEm1.session (fun _ _ => 64) [["-G", "RX", "256"],
        ["-G", "tx", "99999999999999999999"]]) :=
  session_again keepingEm1_stores keepingEm1_reliable
    [["-G", "RX", "256"], ["-G", "tx", "99999999999999999999"]] (keepingEm1_servesLines _)
    (fun _ _ => 64)

/-! ### Joining command lines -/

theorem getopt_setter {opt : String} {command : Command}
    (option : (opt, command) ∈ setterOptions) {interface : String} (args : List String)
    (plain : startsWith interface "-" = false) :
    getopt (opt :: interface :: args) shortopts longopts =
      .ok ([(opt, "")], interface :: args) :=
  getopt_option (setterOptions_row option) args plain

/-- The command that sets settings of a kind. -/
def settingsCommand : Settings -> Command
  | .coalesce => .setCoalesce
  | .ringparam => .setRingparam

theorem wordPairs_append {first : List String} (even : first.length % 2 = 0)
    (second : List String) : wordPairs (first ++ second) = wordPairs first ++ wordPairs second := by
  fun_induction wordPairs first with
  | case1 => rfl
  | case2 word => cases even
  | case3 arg value args ih =>
      have rest : args.length % 2 = 0 := by
        simp only [List.length_cons] at even
        omega
      rw [List.cons_append, List.cons_append, wordPairs, ih rest, List.cons_append]

theorem accepted_append {settings : Settings} {first : List String}
    (even : first.length % 2 = 0) (second : List String) :
    accepted settings (first ++ second) = accepted settings first ++ accepted settings second := by
  rw [accepted, wordPairs_append even, List.filterMap_append]
  rfl

theorem not_raises_append {settings : Settings} {first second : List String}
    (fine : ¬ ProcessingRaises settings first) (also : ¬ ProcessingRaises settings second) :
    ¬ ProcessingRaises settings (first ++ second) := by
  have even : first.length % 2 = 0 := by
    by_contra odd
    exact fine (Or.inl (by omega))
  rintro (odd | ⟨coalesce, pair, member, feed⟩)
  · apply also
    apply Or.inl
    rw [List.length_append] at odd
    omega
  · rw [wordPairs_append even] at member
    rcases List.mem_append.mp member with early | late
    · exact fine (Or.inr ⟨coalesce, pair, early, feed⟩)
    · exact also (Or.inr ⟨coalesce, pair, late, feed⟩)

theorem fieldWrite_append (width : LongWidth) (settings : Settings) (interface : String)
    (first second : List (String × Int)) :
    fieldWrite width settings interface (first ++ second) =
      ⟨kernelName interface, (fieldWrite width settings interface first).assignments ++
        (fieldWrite width settings interface second).assignments⟩ := by
  rw [fieldWrite, List.map_append]
  rfl

/-- A command line for one device orders for this one. -/
theorem lineOrder_settings {opt interface : String} {settings : Settings} {args : List String}
    (option : (opt, settingsCommand settings) ∈ setterOptions) (existing : interface ∈ devices)
    (plain : startsWith interface "-" = false) (nonempty : args ≠ []) :
    lineOrder devices (opt :: interface :: args) =
      some ⟨settingsCommand settings, args, [interface]⟩ := by
  have row := lookup_optionTable (setterOptions_row option)
  cases args with
  | nil => exact absurd rfl nonempty
  | cons first rest =>
      simp only [lineOrder, getopt_setter option _ plain, row, Action.order, if_pos existing]

theorem lineReached_settings {opt interface : String} {settings : Settings}
    {args : List String} (option : (opt, settingsCommand settings) ∈ setterOptions)
    (existing : interface ∈ devices) (plain : startsWith interface "-" = false)
    (nonempty : args ≠ []) :
    lineReached width devices (opt :: interface :: args) = [interface] := by
  rw [lineReached, lineOrder_settings option existing plain nonempty]
  exact ite_self _

/-- Where the words can be processed it stores one write. -/
theorem lineStored_settings {opt interface : String} {settings : Settings} {args : List String}
    (option : (opt, settingsCommand settings) ∈ setterOptions) (existing : interface ∈ devices)
    (plain : startsWith interface "-" = false) (nonempty : args ≠ [])
    (fine : ¬ ProcessingRaises settings args) :
    lineStored width devices (opt :: interface :: args) =
      [fieldWrite width settings interface (accepted settings args)] := by
  have reached : Order.reached width ⟨settingsCommand settings, args, [interface]⟩ =
      [interface] := ite_self _
  rw [lineStored, lineOrder_settings option existing plain nonempty, Option.elim_some,
    Order.stored, reached, List.flatMap_singleton]
  cases settings with
  | coalesce => exact if_neg fine
  | ringparam => exact if_neg fine

/-- Two command lines for one device and one kind of settings may be joined:
the words of the second are appended to those of the first. -/
theorem session_joins (stores : machine.Stores width words)
    (reliable : machine.Reliable devices) (opt interface : String) (settings : Settings)
    (first second : List String)
    (option : (opt, settingsCommand settings) ∈ setterOptions) (existing : interface ∈ devices)
    (plain : startsWith interface "-" = false) (serves : machine.Serves interface)
    (nonempty : first ≠ [] ∧ second ≠ [])
    (fine : ¬ ProcessingRaises settings first) (also : ¬ ProcessingRaises settings second)
    (state : State) :
    words (machine.session state [opt :: interface :: first, opt :: interface :: second]) =
      words (machine.session state [opt :: interface :: (first ++ second)]) := by
  have even : first.length % 2 = 0 := by
    by_contra odd
    exact fine (Or.inl (by omega))
  have joined : first ++ second ≠ [] := by
    intro empty
    exact nonempty.1 (List.append_eq_nil_iff.mp empty).1
  have served {args : List String} (some_ : args ≠ []) : forall device,
      device ∈ lineReached width devices (opt :: interface :: args) -> machine.Serves device := by
    intro device reached
    rw [lineReached_settings option existing plain some_] at reached
    rw [List.mem_singleton.mp reached]
    exact serves
  have both : machine.ServesLines width devices
      [opt :: interface :: first, opt :: interface :: second] := by
    intro argv member
    simp only [List.mem_cons, List.not_mem_nil, or_false] at member
    rcases member with rfl | rfl
    · exact served nonempty.1
    · exact served nonempty.2
  have one : machine.ServesLines width devices [opt :: interface :: (first ++ second)] := by
    intro argv member
    rw [List.mem_singleton.mp member]
    exact served joined
  rw [session_effect stores reliable both, session_effect stores reliable one]
  apply Cells.replay_congr
  intro owner
  rw [List.flatMap_cons, List.flatMap_singleton, List.flatMap_singleton,
    lineStored_settings option existing plain nonempty.1 fine,
    lineStored_settings option existing plain nonempty.2 also,
    lineStored_settings option existing plain joined (not_raises_append fine also),
    accepted_append even, fieldWrite_append]
  exact assignmentsTo_join owner (kernelName interface) _ _

end Sessions

/-- Two lines for `em1`, beside a device that is not served. -/
theorem session_joins_em1 :
    id (keepingBesideLo.session (fun _ _ => 64)
        [["-G", "em1", "rx", "512"], ["-G", "em1", "rx", "256", "tx", "128"]]) =
      id (keepingBesideLo.session (fun _ _ => 64)
        [["-G", "em1", "rx", "512", "rx", "256", "tx", "128"]]) :=
  session_joins (keeping_stores [em1] [em1Device, loDevice])
    (keeping_reliable [em1] [em1Device, loDevice]) "-G" "em1" .ringparam ["rx", "512"]
    ["rx", "256", "tx", "128"] (by decide) (by decide) (by decide) keepingBesideLo_serves
    (by decide) (by decide) (by decide) (fun _ _ => 64)

end Pethtool
end PythonEthtool
