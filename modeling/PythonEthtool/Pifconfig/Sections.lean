import PythonEthtool.Pifconfig.Config

namespace PythonEthtool
namespace Pifconfig

open Foundations
open Foundations.Program
open Ioctl
open Netlink (PyNetlinkIPaddress)
open Python

/-!
# The sections that `pifconfig` prints

What there is to be known of a device is given in advance, if the device
exists.  The calls may fail, each of them and at any time, but where they
answer they tell what is known.  Then everything printed is a beginning of
the sections of the devices, in their order: either all of them, or those in
front of a device that cannot be shown, a part of its section, and the line
that names it.  After undefined behaviour there is not even that line.
-/

/-- What is to be known of a device.  The flags are the word of the kernel. -/
structure DeviceData where
  flags : Nat
  hwaddr : String
  ipv4 : List PyNetlinkIPaddress
  ipv6 : List PyNetlinkIPaddress

def DeviceData.Loopback (data : DeviceData) : Prop :=
  Int.land data.flags IFF_LOOPBACK ≠ 0

/-! ## The texts -/

/-- The netmask of a prefix of at most 32 bits. -/
def maskText (prefixlen : Int) : String :=
  dotted (bigEndian (maskOf prefixlen.toNat))

def ipv4Texts (flags : Int) (addr : PyNetlinkIPaddress) : List String :=
  ["\tinet addr:" ++ addr.local_ ++ " "] ++
    ((if Int.land flags (Int.lor IFF_LOOPBACK IFF_POINTOPOINT) = 0 then
        ["Bcast:" ++ noneText addr.ipv4Broadcast ++ " "]
      else []) ++
    ["Mask:" ++ maskText addr.prefixlen ++ "\n"])

def ipv6Text (addr : PyNetlinkIPaddress) : String :=
  "\tinet6 addr: " ++ addr.local_ ++ "/" ++ toString addr.prefixlen ++ " Scope: " ++
    addr.scope.getD "" ++ "\n"

def infoTexts (device : String) (data : DeviceData) : List String :=
  [device ++ "\n"] ++
    ((if Int.land data.flags IFF_LOOPBACK = 0 then ["\tHWaddr " ++ data.hwaddr ++ "\n"] else []) ++
    (data.ipv4.flatMap (ipv4Texts data.flags) ++ data.ipv6.map ipv6Text))

/-- The section of a device. -/
def sectionTexts (device : String) (data : DeviceData) : List String :=
  infoTexts device data ++ ["\t" ++ flags2str data.flags ++ "\n" ++ "\n"]

/-- Nothing is printed of a device that does not exist. -/
def sectionOf (truth : String -> Option DeviceData) (device : String) : List String :=
  match truth device with
  | some data => sectionTexts device data
  | none => []

/-! ## What is assumed of the module -/

/-- A call tells something right, or it fails as is allowed. -/
structure Tells {Reply : Type} (allowed : Failure ScriptError -> Prop) (right : Reply -> Prop)
    (result : Except (Failure PyError) Reply) : Prop where
  tells : forall reply, result = .ok reply -> right reply
  fails : forall failure, result = .error failure -> allowed (failure.map .python)

/-- The calls in the middle of a section. -/
def Call.Inside : Call -> Prop
  | .getHwaddr _ => True
  | .getIpv4Addresses _ => True
  | .getIpv6Addresses _ => True
  | _ => False

/-- Where the calls answer, they tell what is known of these devices, and the
flags with all bits of a `short`.  The objects belong to devices, and they do
so to the end of the section.  Which failures there may be is a part of the
assumption. -/
structure Reports {Kernel : Type} (ethtool : Ethtool Kernel) (about : String -> Prop)
    (allowed : Failure ScriptError -> Prop) (sound : Kernel -> Prop)
    (owns : Kernel -> Nat -> String -> Prop) (truth : String -> Option DeviceData) : Prop where
  keeps : forall call kernel, sound kernel -> sound (ethtool.answer call kernel).2
  keepsOwner : forall call kernel info device, call.Inside -> sound kernel ->
    owns kernel info device -> owns (ethtool.answer call kernel).2 info device
  getFlags : forall device kernel, about device -> sound kernel ->
    Tells allowed (fun flags => ∃ data, truth device = some data ∧ flags ≡ data.flags [ZMOD 2 ^ 16])
      (ethtool.answer (.getFlags device) kernel).1
  makesObject : forall device kernel infos, sound kernel ->
    (ethtool.answer (.getInterfacesInfo device) kernel).1 = .ok infos ->
      ∃ info, infos = [info] ∧
        owns (ethtool.answer (.getInterfacesInfo device) kernel).2 info device
  makesNoObject : forall device kernel failure, sound kernel ->
    (ethtool.answer (.getInterfacesInfo device) kernel).1 = .error failure ->
      allowed (failure.map .python)
  getHwaddr : forall device data kernel, about device -> truth device = some data ->
    ¬ data.Loopback -> sound kernel ->
      Tells allowed (fun hwaddr => hwaddr = data.hwaddr)
        (ethtool.answer (.getHwaddr device) kernel).1
  getIpv4Addresses : forall device data info kernel, truth device = some data -> sound kernel ->
    owns kernel info device ->
      Tells allowed (fun ipv4 => ipv4 = data.ipv4)
        (ethtool.answer (.getIpv4Addresses info) kernel).1
  getIpv6Addresses : forall device data info kernel, truth device = some data -> sound kernel ->
    owns kernel info device ->
      Tells allowed (fun ipv6 => ipv6 = data.ipv6)
        (ethtool.answer (.getIpv6Addresses info) kernel).1
  masks : forall device data addr error, truth device = some data -> addr ∈ data.ipv4 ->
    bits2netmask addr.prefixlen = .error error -> allowed (.raised error)
  scopes : forall device data addr, truth device = some data -> addr ∈ data.ipv6 ->
    addr.scope.isSome

section Writing

variable {Kernel : Type} {ethtool : Ethtool Kernel} {about : String -> Prop}
  {allowed : Failure ScriptError -> Prop} {sound : Kernel -> Prop}
  {owns : Kernel -> Nat -> String -> Prop} {truth : String -> Option DeviceData}
  {device : String} {data : DeviceData}

theorem writes_pyPrint {before after : Kernel -> Prop} (text ending : String)
    (ensures : forall kernel, before kernel -> after kernel) :
    Writes Event.text allowed before [text ++ ending]
      (pyPrint text ending : Script Kernel Unit) (fun _ => after) :=
  writes_tell id [Event.wrote (text ++ ending)] ensures

/-- A line or nothing. -/
theorem writes_onlyIf {before : Kernel -> Prop} {condition : Prop} [Decidable condition]
    {texts : List String} {program : Script Kernel Unit}
    (writes : condition -> Writes Event.text allowed before texts program (fun _ => before)) :
    Writes Event.text allowed before (if condition then texts else [])
      (onlyIf condition program) (fun _ => before) := by
  by_cases holds : condition
  · rw [onlyIf, if_pos holds, if_pos holds]
    exact writes holds
  · rw [onlyIf, if_neg holds, if_neg holds]
    exact writes_pure (fun _ before => before)

/-- A call writes nothing. -/
theorem writes_perform {before : Kernel -> Prop} {call : Call}
    {after : call.Reply -> Kernel -> Prop}
    (ensures : forall kernel reply, before kernel -> (ethtool.answer call kernel).1 = .ok reply ->
      after reply (ethtool.answer call kernel).2)
    (fails : forall kernel failure, before kernel ->
      (ethtool.answer call kernel).1 = .error failure -> allowed (failure.map .python)) :
    Writes Event.text allowed before [] (perform ethtool call) after where
  begins := fun _ _ => List.nil_prefix
  whole := by
    intro kernel reply holds ended
    refine ⟨rfl, ensures kernel reply holds ?_⟩
    change (ethtool.answer call kernel).1.mapError (Failure.map ScriptError.python) =
      .ok reply at ended
    cases answered : (ethtool.answer call kernel).1 with
    | ok found =>
        rw [answered] at ended
        cases ended
        rfl
    | error failure =>
        rw [answered] at ended
        cases ended
  raises := by
    intro kernel failure holds raised
    change (ethtool.answer call kernel).1.mapError (Failure.map ScriptError.python) =
      .error failure at raised
    cases answered : (ethtool.answer call kernel).1 with
    | ok found =>
        rw [answered] at raised
        cases raised
    | error other =>
        rw [answered] at raised
        cases raised
        exact fails kernel other holds answered

/-- A call, and what follows its replies if they are right. -/
theorem writes_perform_bind {before : Kernel -> Prop} {call : Call}
    {right : call.Reply -> Prop} {texts : List String} {next : call.Reply -> Script Kernel Unit}
    {after : Unit -> Kernel -> Prop}
    (tells : forall kernel, before kernel ->
      Tells allowed right (ethtool.answer call kernel).1 ∧ before (ethtool.answer call kernel).2)
    (continuing : forall reply, right reply ->
      Writes Event.text allowed before texts (next reply) after) :
    Writes Event.text allowed before texts (perform ethtool call >>= next) after := by
  apply writes_silent_bind (fun reply kernel => right reply ∧ before kernel)
  · apply writes_perform
    · intro kernel reply holds answered
      exact ⟨(tells kernel holds).1.tells reply answered, (tells kernel holds).2⟩
    · intro kernel failure holds answered
      exact (tells kernel holds).1.fails failure answered
  · intro reply
    exact writes_of_fact (continuing reply)

/-- The value of an expression is used, or its exception is one of those. -/
theorem writes_evaluate_bind {Value : Type} {before : Kernel -> Prop}
    {result : Except ScriptError Value} {texts : List String}
    {next : Value -> Script Kernel Unit} {after : Unit -> Kernel -> Prop}
    (failing : forall error, result = .error error -> allowed (.raised error))
    (continuing : forall value, result = .ok value ->
      Writes Event.text allowed before texts (next value) after) :
    Writes Event.text allowed before texts (evaluate result >>= next) after := by
  apply writes_ofExcept_bind
  · intro failure failed
    cases result with
    | ok value => cases failed
    | error error =>
        cases failed
        exact failing error rfl
  · intro value made
    cases result with
    | ok found => exact continuing value (congrArg Except.ok (Except.ok.inj made))
    | error error => cases made

theorem writes_showIpv4 {before : Kernel -> Prop} {flags word : Int}
    (same : flags ≡ word [ZMOD 2 ^ 16]) {addr : PyNetlinkIPaddress}
    (masks : forall error, bits2netmask addr.prefixlen = .error error -> allowed (.raised error)) :
    Writes Event.text allowed before (ipv4Texts word addr)
      (showIpv4 flags addr : Script Kernel Unit) (fun _ => before) := by
  have kind : Int.land flags (Int.lor IFF_LOOPBACK IFF_POINTOPOINT) =
      Int.land word (Int.lor IFF_LOOPBACK IFF_POINTOPOINT) :=
    @land_eq_of_modEq 16 0x18 _ _ (by decide) same
  unfold showIpv4
  rw [kind]
  apply writes_bind (writes_pyPrint _ _ (fun _ holds => holds))
  intro _
  apply writes_bind (writes_onlyIf (fun _ => writes_pyPrint _ _ (fun _ holds => holds)))
  intro _
  apply writes_evaluate_bind masks
  intro mask made
  rcases bits2netmask_ok_iff.mp made with ⟨length, natural, _, rfl⟩
  rw [maskText, natural, Int.toNat_natCast]
  exact writes_pyPrint _ _ (fun _ holds => holds)

theorem writes_showIpv6 {before : Kernel -> Prop} {addr : PyNetlinkIPaddress}
    (present : addr.scope.isSome) :
    Writes Event.text allowed before [ipv6Text addr] (showIpv6 addr : Script Kernel Unit)
      (fun _ => before) := by
  rcases Option.isSome_iff_exists.mp present with ⟨scope, held⟩
  unfold showIpv6 ipv6Text
  apply writes_evaluate_bind
  · intro error failed
    rw [scopeOf, held] at failed
    cases failed
  · intro value made
    rw [scopeOf, held] at made
    cases made
    rw [held]
    exact writes_pyPrint _ _ (fun _ holds => holds)

variable (reports : Reports ethtool about allowed sound owns truth) (known : about device)
include reports known

theorem writes_showInfo {flags : Int} (found : truth device = some data)
    (same : flags ≡ data.flags [ZMOD 2 ^ 16]) (info : Nat) :
    Writes Event.text allowed (fun kernel => sound kernel ∧ owns kernel info device)
      (infoTexts device data) (showInfo ethtool device flags info)
      (fun _ kernel => sound kernel ∧ owns kernel info device) := by
  have keeps : forall (call : Call) kernel, call.Inside ->
      sound kernel ∧ owns kernel info device ->
        sound (ethtool.answer call kernel).2 ∧
          owns (ethtool.answer call kernel).2 info device := fun call kernel inside holds =>
    ⟨reports.keeps call kernel holds.1,
      reports.keepsOwner call kernel info device inside holds.1 holds.2⟩
  have kind : Int.land flags IFF_LOOPBACK = Int.land data.flags IFF_LOOPBACK :=
    @land_eq_of_modEq 16 0x8 _ _ (by decide) same
  unfold showInfo
  rw [kind]
  apply writes_bind (writes_pyPrint _ _ (fun _ holds => holds))
  intro _
  apply writes_bind
  · apply writes_onlyIf
    intro plain
    apply writes_perform_bind
    · exact fun kernel holds =>
        ⟨reports.getHwaddr device data kernel known found (not_not_intro plain) holds.1,
          keeps _ kernel trivial holds⟩
    · rintro _ rfl
      exact writes_pyPrint _ _ (fun _ holds => holds)
  · intro _
    apply writes_perform_bind
    · exact fun kernel holds =>
        ⟨reports.getIpv4Addresses device data info kernel found holds.1 holds.2,
          keeps _ kernel trivial holds⟩
    · rintro _ rfl
      apply writes_bind
      · apply writes_forEach
        intro addr member
        exact writes_showIpv4 same (fun error => reports.masks device data addr error found member)
      · intro _
        apply writes_perform_bind
        · exact fun kernel holds =>
            ⟨reports.getIpv6Addresses device data info kernel found holds.1 holds.2,
              keeps _ kernel trivial holds⟩
        · rintro _ rfl
          rw [← List.flatMap_pure_eq_map]
          exact writes_forEach (fun addr member =>
            writes_showIpv6 (reports.scopes device data addr found member))

/-- The function writes the section of its device, which exists if it
returns. -/
theorem writes_showConfig :
    Writes Event.text allowed sound (sectionOf truth device) (showConfig ethtool device)
      (fun _ kernel => (truth device).isSome ∧ sound kernel) := by
  apply writes_perform_bind
  · exact fun kernel holds =>
      ⟨reports.getFlags device kernel known holds, reports.keeps _ kernel holds⟩
  · rintro flags ⟨data, found, same⟩
    have shown : sectionOf truth device = sectionTexts device data := by
      rw [sectionOf, found]
    rw [shown]
    apply writes_silent_bind (fun infos kernel =>
      infos = [infos.headD 0] ∧ sound kernel ∧ owns kernel (infos.headD 0) device)
    · apply writes_perform
      · intro kernel infos holds answered
        rcases reports.makesObject device kernel infos holds answered with ⟨info, rfl, owned⟩
        exact ⟨rfl, reports.keeps _ kernel holds, owned⟩
      · intro kernel failure holds answered
        exact reports.makesNoObject device kernel failure holds answered
    · intro infos
      apply writes_of_fact
      intro single
      generalize infos.headD 0 = info at single ⊢
      subst single
      have loop : Writes Event.text allowed (fun kernel => sound kernel ∧ owns kernel info device)
          ([info].flatMap (fun _ => infoTexts device data))
          (forEach [info] (showInfo ethtool device flags))
          (fun _ kernel => sound kernel ∧ owns kernel info device) := by
        apply writes_forEach
        intro item member
        rw [List.mem_singleton.mp member]
        exact writes_showInfo reports known found same info
      rw [List.flatMap_singleton] at loop
      apply writes_bind loop
      intro _
      rw [flags2str_eq_iff.mpr same]
      exact writes_pyPrint _ _ (fun _ holds => ⟨Option.isSome_of_eq_some found, holds.1⟩)

end Writing

/-! ## The script -/

/-- A run that does not get to the end: the whole sections of the devices in
front of this one, which exist, and a beginning of its own. -/
inductive Stops (truth : String -> Option DeviceData) :
    List String -> String -> List String -> Prop where
  | here {device : String} {devices part : List String} (begins : part <+: sectionOf truth device) :
      Stops truth (device :: devices) device part
  | later {first device : String} {devices texts : List String} (shown : (truth first).isSome)
      (rest : Stops truth devices device texts) :
      Stops truth (first :: devices) device (sectionOf truth first ++ texts)

/-- A run ends with all the sections, with the error of a device, or without
a word. -/
inductive Ending (allowed : Failure ScriptError -> Prop) (texts : ErrorTexts)
    (truth : String -> Option DeviceData) (devices : List String) :
    Except (Failure ScriptError) Unit -> List String -> Prop where
  | complete (shown : forall device, device ∈ devices -> (truth device).isSome) :
      Ending allowed texts truth devices (.ok ()) (devices.flatMap (sectionOf truth))
  | reported {device : String} {error : ScriptError} {written : List String}
      (reason : allowed (.raised error)) (stops : Stops truth devices device written) :
      Ending allowed texts truth devices (.error (.raised (.systemExit 2)))
        (written ++ [errorLine texts device error ++ "\n"])
  | crashed {device : String} {written : List String} (reason : allowed .crashed)
      (stops : Stops truth devices device written) :
      Ending allowed texts truth devices (.error .crashed) written

/-- A section in front of a run. -/
theorem Ending.cons {allowed : Failure ScriptError -> Prop} {texts : ErrorTexts}
    {truth : String -> Option DeviceData} {device : String} {devices written : List String}
    {result : Except (Failure ScriptError) Unit} (present : (truth device).isSome)
    (rest : Ending allowed texts truth devices result written) :
    Ending allowed texts truth (device :: devices) result (sectionOf truth device ++ written) := by
  cases rest with
  | complete shown =>
      have whole : Ending allowed texts truth (device :: devices) _ _ :=
        .complete (List.forall_mem_cons.mpr ⟨present, shown⟩)
      exact whole
  | reported reason stops =>
      rw [← List.append_assoc]
      exact .reported reason (.later present stops)
  | crashed reason stops => exact .crashed reason (.later present stops)

/-- The clause `except Exception` is not passed by a request to exit. -/
def Failure.NoExit : Failure ScriptError -> Prop
  | .raised (.systemExit _) => False
  | _ => True

theorem bits2netmask_noExit {bits : Int} {error : ScriptError}
    (failed : bits2netmask bits = .error error) : (Failure.raised error).NoExit := by
  unfold bits2netmask structPackL at failed
  split at failed
  · cases failed
    trivial
  · dsimp only at failed
    split at failed
    · cases failed
    · cases failed
      trivial

section Running

variable {Kernel : Type} {ethtool : Ethtool Kernel} {about : String -> Prop}
  {allowed : Failure ScriptError -> Prop} {sound : Kernel -> Prop}
  {owns : Kernel -> Nat -> String -> Prop} {truth : String -> Option DeviceData}

theorem exitWithError_raised {error : ScriptError} (noExit : (Failure.raised error).NoExit)
    (texts : ErrorTexts) (device : String) (kernel : Kernel) :
    (exitWithError texts device (.raised error) : Script Kernel Unit).run kernel =
      { result := .error (.raised (.systemExit 2))
        world := kernel
        events := [.wrote (errorLine texts device error ++ "\n")] } := by
  cases error with
  | python error => rfl
  | struct message => rfl
  | systemExit status => exact absurd noExit not_false

/-- The devices whose sections are printed, or how the script ends before the
first of them. -/
def chosen (ethtool : Ethtool Kernel) (kernel : Kernel) (argv : List String) :
    Except (Failure ScriptError) (List String) :=
  match parseArgs argv with
  | .error error => .error (.raised error)
  | .ok [] => (ethtool.answer .getActiveDevices kernel).1.mapError (Failure.map ScriptError.python)
  | .ok args => .ok args

/-- How the script ends: before the first device and without a text, or as
the loop over the devices does. -/
def Ends (ethtool : Ethtool Kernel) (allowed : Failure ScriptError -> Prop) (texts : ErrorTexts)
    (truth : String -> Option DeviceData) (kernel : Kernel) (argv : List String) : Prop :=
  match chosen ethtool kernel argv with
  | .error failure =>
      ((main ethtool texts argv).run kernel).result = .error failure ∧
        written Event.text ((main ethtool texts argv).run kernel).events = []
  | .ok devices =>
      Ending allowed texts truth devices ((main ethtool texts argv).run kernel).result
        (written Event.text ((main ethtool texts argv).run kernel).events)

theorem main_run (texts : ErrorTexts) {argv args : List String}
    (parsed : parseArgs argv = .ok args) (kernel : Kernel) :
    (main ethtool texts argv).run kernel = (selDevs ethtool args >>= fun devices =>
      forEach devices (showOrExit ethtool texts)).run kernel := by
  rw [main, parsed]
  rfl

/-- Where devices are chosen, the run is that of the loop, from the state
that the question for the active ones may have left. -/
theorem main_loops (texts : ErrorTexts) {argv devices : List String} {kernel : Kernel}
    (given : chosen ethtool kernel argv = .ok devices) :
    ∃ after, (after = kernel ∨ after = (ethtool.answer .getActiveDevices kernel).2) ∧
      ((main ethtool texts argv).run kernel).result =
        ((forEach devices (showOrExit ethtool texts)).run after).result ∧
      written Event.text ((main ethtool texts argv).run kernel).events =
        written Event.text ((forEach devices (showOrExit ethtool texts)).run after).events := by
  cases parsed : parseArgs argv with
  | error error =>
      rw [chosen, parsed] at given
      cases given
  | ok args =>
      rw [main_run texts parsed]
      rw [chosen, parsed] at given
      cases args with
      | cons first args =>
          cases given
          exact ⟨kernel, Or.inl rfl, rfl, rfl⟩
      | nil =>
          have listed : ((selDevs ethtool []).run kernel).result = .ok devices := given
          rw [run_bind_ok _ _ listed, written_append]
          exact ⟨(ethtool.answer .getActiveDevices kernel).2, Or.inr rfl, rfl, rfl⟩

theorem main_fails (texts : ErrorTexts) {argv : List String} {kernel : Kernel}
    {failure : Failure ScriptError} (given : chosen ethtool kernel argv = .error failure) :
    ((main ethtool texts argv).run kernel).result = .error failure ∧
      written Event.text ((main ethtool texts argv).run kernel).events = [] := by
  cases parsed : parseArgs argv with
  | error other =>
      rw [chosen, parsed] at given
      cases given
      rw [main, parsed]
      exact ⟨rfl, rfl⟩
  | ok args =>
      rw [main_run texts parsed]
      rw [chosen, parsed] at given
      cases args with
      | cons first args => cases given
      | nil =>
          have failed : ((selDevs ethtool []).run kernel).result = .error failure := given
          rw [run_bind_error _ _ failed]
          exact ⟨rfl, rfl⟩

/-- A device whose flags cannot be read. -/
theorem showOrExit_fails (texts : ErrorTexts) {device : String} {kernel : Kernel}
    {error : PyError}
    (failed : (ethtool.answer (.getFlags device) kernel).1 = .error (.raised error)) :
    ((showOrExit ethtool texts device).run kernel).result =
        .error (.raised (.systemExit 2)) ∧
      written Event.text ((showOrExit ethtool texts device).run kernel).events =
        [errorLine texts device (.python error) ++ "\n"] := by
  have asked : ((perform ethtool (.getFlags device)).run kernel).result =
      .error (.raised (.python error)) := by
    change (ethtool.answer (.getFlags device) kernel).1.mapError
      (Failure.map ScriptError.python) = _
    rw [failed]
    rfl
  have stopped : ((showConfig ethtool device).run kernel).result =
      .error (.raised (.python error)) := by
    rw [showConfig, run_bind_error _ _ asked]
  rw [showOrExit, run_tryElse_error _ _ _ stopped, written_append]
  refine ⟨rfl, ?_⟩
  rw [showConfig, run_bind_error _ _ asked]
  rfl

/-- Where nothing fails, the loop prints all the sections. -/
theorem writes_showOrExit (reports : Reports ethtool about (fun _ => False) sound owns truth)
    (texts : ErrorTexts) {devices : List String}
    (known : forall device, device ∈ devices -> about device) :
    Writes Event.text (fun _ => False) sound (devices.flatMap (sectionOf truth))
      (forEach devices (showOrExit ethtool texts)) (fun _ => sound) := by
  apply writes_forEach
  intro device member
  have shown : Writes Event.text (fun _ => False) sound (sectionOf truth device ++ [])
      (showOrExit ethtool texts device) (fun _ => sound) :=
    writes_tryElse (writes_showConfig reports (known device member))
      (fun _ => writes_pure (fun _ holds => holds.2))
  rw [List.append_nil] at shown
  exact shown

variable (reports : Reports ethtool about allowed sound owns truth)
  (noExit : forall failure, allowed failure -> failure.NoExit) (texts : ErrorTexts)
include reports noExit

/-- The loop over the devices prints their sections, and stops at the first
that it cannot show. -/
theorem forEach_ends {devices : List String} (known : forall device, device ∈ devices -> about device)
    {kernel : Kernel} (holds : sound kernel) :
    Ending allowed texts truth devices
      ((forEach devices (showOrExit ethtool texts)).run kernel).result
      (written Event.text ((forEach devices (showOrExit ethtool texts)).run kernel).events) := by
  induction devices generalizing kernel with
  | nil => exact .complete (fun _ member => absurd member List.not_mem_nil)
  | cons device devices ih =>
      have shows := writes_showConfig reports (known device List.mem_cons_self)
      cases ended : ((showConfig ethtool device).run kernel).result with
      | ok value =>
          rcases shows.whole kernel value holds ended with ⟨whole, present, after⟩
          have done : (showOrExit ethtool texts device).run kernel =
              { result := .ok ()
                world := ((showConfig ethtool device).run kernel).world
                events := ((showConfig ethtool device).run kernel).events ++ [] } :=
            run_tryElse_ok _ _ _ ended
          have returned : ((showOrExit ethtool texts device).run kernel).result = .ok () := by
            rw [done]
          have rest := ih (fun other member => known other (List.mem_cons_of_mem device member))
            after
          rw [forEach, run_bind_ok _ _ returned, done, written_append, List.append_nil, whole]
          exact rest.cons present
      | error failure =>
          have reason := shows.raises kernel failure holds ended
          have begun := shows.begins kernel holds
          have handled := run_tryElse_error (showConfig ethtool device)
            (exitWithError texts device) (fun _ => pure ()) ended
          cases failure with
          | crashed =>
              have stopped : ((showOrExit ethtool texts device).run kernel).result =
                  .error .crashed := by
                rw [showOrExit, handled]
                rfl
              rw [forEach, run_bind_error _ _ stopped, showOrExit, handled, written_append]
              simp only [exitWithError, run_raise, written, List.filterMap_nil, List.append_nil]
              exact .crashed reason (.here begun)
          | raised error =>
              rw [exitWithError_raised (noExit _ reason)] at handled
              have stopped : ((showOrExit ethtool texts device).run kernel).result =
                  .error (.raised (.systemExit 2)) := by
                rw [showOrExit, handled]
              rw [forEach, run_bind_error _ _ stopped, showOrExit, handled, written_append]
              exact .reported reason (.here begun)

/-- Whichever devices are asked for, the script ends before the first of
them, or as the loop does. -/
theorem main_ends (argv : List String) {kernel : Kernel} (holds : sound kernel)
    (known : forall devices, chosen ethtool kernel argv = .ok devices ->
      forall device, device ∈ devices -> about device) :
    Ends ethtool allowed texts truth kernel argv := by
  unfold Ends
  cases given : chosen ethtool kernel argv with
  | error failure => exact main_fails texts given
  | ok devices =>
      rcases main_loops texts given with ⟨after, left, result, shown⟩
      have inside : sound after := by
        rcases left with rfl | rfl
        · exact holds
        · exact reports.keeps _ kernel holds
      dsimp only
      rw [result, shown]
      exact forEach_ends reports noExit texts (known devices given) inside

end Running

end Pifconfig
end PythonEthtool
