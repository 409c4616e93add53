import PythonEthtool.Pethtool.World
import PythonEthtool.Python.Getopt
import PythonEthtool.Python.Text

namespace PythonEthtool
namespace Pethtool

open Foundations
open Foundations.Program
open Ioctl (Settings)
open Python

/-!
# The script

The functions of `pethtool` in their order.  A bare `print`, which the
script has in place of an empty line, is an expression without effect and is
left out.
-/

/-! ## Usage -/

inductive Grammar where
  | onOff
  | number
  deriving DecidableEq

/-- An option as the usage text lists it, with the field of the structure
that it is about. -/
structure UsageOption where
  name : String
  grammar : Grammar
  field : String
  deriving DecidableEq

def coalesceUsage : List UsageOption :=
  [⟨"adaptive-rx", .onOff, "use_adaptive_rx_coalesce"⟩,
    ⟨"adaptive-tx", .onOff, "use_adaptive_tx_coalesce"⟩,
    ⟨"rx-usecs", .number, "rx_coalesce_usecs"⟩,
    ⟨"rx-frames", .number, "rx_max_coalesced_frames"⟩,
    ⟨"rx-usecs-irq", .number, "rx_coalesce_usecs_irq"⟩,
    ⟨"rx-frames-irq", .number, "rx_max_coalesced_frames_irq"⟩,
    ⟨"tx-usecs", .number, "tx_coalesce_usecs"⟩,
    ⟨"tx-frames", .number, "tx_max_coalesced_frames"⟩,
    ⟨"tx-usecs-irq", .number, "tx_coalesce_usecs_irq"⟩,
    ⟨"tx-frames-irq", .number, "tx_max_coalesced_frames_irq"⟩,
    ⟨"stats-block-usecs", .number, "stats_block_coalesce_usecs"⟩,
    ⟨"pkt-rate-low", .number, "pkt_rate_low"⟩,
    ⟨"rx-usecs-low", .number, "rx_coalesce_usecs_low"⟩,
    ⟨"rx-frames-low", .number, "rx_max_coalesced_frames_low"⟩,
    ⟨"tx-usecs-low", .number, "tx_coalesce_usecs_low"⟩,
    ⟨"tx-frames-low", .number, "tx_max_coalesced_frames_low"⟩,
    ⟨"pkt-rate-high", .number, "pkt_rate_high"⟩,
    ⟨"rx-usecs-high", .number, "rx_coalesce_usecs_high"⟩,
    ⟨"rx-frames-high", .number, "rx_max_coalesced_frames_high"⟩,
    ⟨"tx-usecs-high", .number, "tx_coalesce_usecs_high"⟩,
    ⟨"tx-frames-high", .number, "tx_max_coalesced_frames_high"⟩,
    ⟨"sample-interval", .number, "rate_sample_interval"⟩]

def ringparamUsage : List UsageOption :=
  [⟨"rx", .number, "rx_pending"⟩,
    ⟨"rx-mini", .number, "rx_mini_pending"⟩,
    ⟨"rx-jumbo", .number, "rx_jumbo_pending"⟩,
    ⟨"tx", .number, "tx_pending"⟩]

def usageLine (option : UsageOption) : String :=
  "        [" ++ option.name ++
    (match option.grammar with
      | .onOff => " on|off"
      | .number => " N") ++ "]"

def usageLines : List String :=
  ["Usage: pethtool [OPTIONS] [<interface>]",
    "    -h|--help               Give this help list",
    "    -c|--show-coalesce      Show coalesce options",
    "    -C|--coalesce        Set coalesce options"] ++
  coalesceUsage.map usageLine ++
  ["    -g|--show-ring          Show ring parameters",
    "    -G|--set-ring           Set ring parameters"] ++
  ringparamUsage.map usageLine ++
  ["    -i|--driver             Show driver information",
    "    -k|--show-offload       Get protocol offload information",
    "    -K|--offload            Set protocol offload",
    "        [ tso on|off ]"]

section Script

variable {Kernel : Type}

def usage : Script Kernel Unit :=
  printLine (String.intercalate "\n" usageLines)

/-! ## Coalescing -/

/-- A row of `ethtool_coalesce_msgs`.  Parentheses around a single string
make no tuple: the separators are strings. -/
inductive MsgRow where
  | pair (name entry : String)
  | text (content : String)
  deriving DecidableEq

/-- A subscript of a row, which is a tuple or a string. -/
def MsgRow.item (row : MsgRow) (index : Nat) : Except PyError String :=
  match row, index with
  | .pair name _, 0 => .ok name
  | .pair _ entry, 1 => .ok entry
  | .pair _ _, _ => .error ⟨.indexError, .text "tuple index out of range"⟩
  | .text content, index =>
      match content.toList[index]? with
      | some char => .ok (String.ofList [char])
      | none => .error ⟨.indexError, .text "string index out of range"⟩

def ethtoolCoalesceMsgs : List MsgRow :=
  [.pair "stats-block-usecs" "stats_block_coalesce_usecs",
    .pair "sample-interval" "rate_sample_interval",
    .pair "pkt-rate-low" "pkt_rate_low",
    .pair "pkt-rate-high" "pkt_rate_high",
    .text "\n",
    .pair "rx-usecs" "rx_coalesce_usecs",
    .pair "rx-frames" "rx_max_coalesced_frames",
    .pair "rx-usecs-irq" "rx_coalesce_usecs_irq",
    .pair "rx-frames-irq" "rx_max_coalesced_frames_irq",
    .text "\n",
    .pair "tx-usecs" "tx_coalesce_usecs",
    .pair "tx-frames" "tx_max_coalesced_frames",
    .pair "tx-usecs-irq" "tx_coalesce_usecs_irq",
    .pair "tx-frames-irq" "tx_max_coalesced_frames_irq",
    .text "\n",
    .pair "rx-usecs-low" "rx_coalesce_usecs_low",
    .pair "rx-frame-low" "rx_max_coalesced_frames_low",
    .pair "tx-usecs-low" "tx_coalesce_usecs_low",
    .pair "tx-frame-low" "tx_max_coalesced_frames_low",
    .text "\n",
    .pair "rx-usecs-high" "rx_coalesce_usecs_high",
    .pair "rx-frame-high" "rx_max_coalesced_frames_high",
    .pair "tx-usecs-high" "tx_coalesce_usecs_high",
    .pair "tx-frame-high" "tx_max_coalesced_frames_high"]

/-- The loop of `get_coalesce_dict_entry`. -/
def findEntry (ethtoolName : String) : List MsgRow -> Except PyError (Option String)
  | [] => .ok none
  | row :: rows =>
      match row.item 0 with
      | .error error => .error error
      | .ok first =>
          if first = ethtoolName then (row.item 1).map some else findEntry ethtoolName rows

def getCoalesceDictEntry (ethtoolName : String) : Except PyError (Option String) :=
  if ethtoolName = "adaptive-rx" then .ok (some "use_adaptive_rx_coalesce")
  else if ethtoolName = "adaptive-tx" then .ok (some "use_adaptive_tx_coalesce")
  else findEntry ethtoolName ethtoolCoalesceMsgs

/-- The expression `value and 'on' or 'off'`. -/
def onOrOff (value : Int) : String :=
  if value ≠ 0 then "on" else "off"

variable (ethtool : Ethtool Kernel)

/-- The keys that are in no row, at the end of a listing. -/
def showOthers (map : SettingsMap) (printed : List String) : Script Kernel Unit :=
  if map.keys.length ≠ printed.length then
    forEach map.keys (fun tunable =>
      if tunable ∈ printed then pure ()
      else do
        let value ← ofExcept (getItem map tunable)
        printtab (tunable ++ " " ++ toString value))
  else pure ()

def showCoalesceRow (coal : SettingsMap) (tunable : MsgRow) : Script Kernel Unit := do
  let first ← ofExcept (tunable.item 0)
  if first = "\n" then pure ()
  else do
    let entry ← ofExcept (tunable.item 1)
    let value ← ofExcept (getItem coal entry)
    printtab (first ++ ": " ++ toString value)

/-- The entry that a row adds to the list of those printed. -/
def MsgRow.printed : MsgRow -> List String
  | .pair _ entry => [entry]
  | .text _ => []

def showCoalesce (interface : String) : Script Kernel Unit := do
  printtab ("Coalesce parameters for " ++ interface ++ ":")
  tryElse (perform ethtool (.getSettings .coalesce interface))
    (exceptIOError (printtab "  NOT supported!"))
    (fun coal => do
      let rx ← ofExcept (getItem coal.map "use_adaptive_rx_coalesce")
      let tx ← ofExcept (getItem coal.map "use_adaptive_tx_coalesce")
      printtab ("Adaptive RX: " ++ onOrOff rx ++ "  TX: " ++ onOrOff tx)
      forEach ethtoolCoalesceMsgs (showCoalesceRow coal.map)
      showOthers coal.map
        (["use_adaptive_rx_coalesce", "use_adaptive_tx_coalesce"] ++
          ethtoolCoalesceMsgs.flatMap MsgRow.printed))

/-! ## Setting a dictionary

`set_coalesce` and `set_ringparam` read the current settings, go through the
arguments in pairs, and write the result if an assignment was made.  They
differ in the table of names and in the values they take. -/

/-- The arguments in lower case.  `None` is not iterable. -/
def lowered (args : Option (List String)) : Except PyError (List String) :=
  match args with
  | some args => .ok (args.map pyLower)
  | none => .error ⟨.typeError, .text "'NoneType' object is not iterable"⟩

/-- The list `[(args[i], args[i + 1]) for i in range(0, len(args), 2)]`. -/
def pairUp : List String -> Except PyError (List (String × String))
  | [] => .ok []
  | [_] => .error ⟨.indexError, .text "list index out of range"⟩
  | arg :: value :: args => (pairUp args).map (fun pairs => (arg, value) :: pairs)

/-- What one pair assigns, if anything: a key and a value. -/
abbrev Recognise :=
  String -> String -> Except PyError (Option (String × Int))

/-- The loop over the pairs, with the dictionary and the flag `changed`. -/
def applyPairs (recognise : Recognise) (map : SettingsMap) (changed : Bool) :
    List (String × String) -> Except PyError (SettingsMap × Bool)
  | [] => .ok (map, changed)
  | (arg, value) :: pairs =>
      match recognise arg value with
      | .error error => .error error
      | .ok none => applyPairs recognise map changed pairs
      | .ok (some (realArg, number)) =>
          match getItem map realArg with
          | .error error => .error error
          | .ok current =>
              if current ≠ number then
                applyPairs recognise (map.set realArg number) true pairs
              else applyPairs recognise map changed pairs

def processArgs (recognise : Recognise) (map : SettingsMap) (args : Option (List String)) :
    Except PyError (SettingsMap × Bool) := do
  let words ← lowered args
  let pairs ← pairUp words
  applyPairs recognise map false pairs

def setSettings (settings : Settings) (unsupported : String) (recognise : Recognise)
    (interface : String) (args : Option (List String)) : Script Kernel Unit :=
  tryElse (perform ethtool (.getSettings settings interface))
    (exceptIOError (printtab (unsupported ++ interface ++ "!")))
    (fun current => do
      let final ← ofExcept (processArgs recognise current.map args)
      if final.2 then perform ethtool (.setSettings settings interface final.1) else pure ())

def recogniseCoalesce : Recognise :=
  fun arg value =>
    match getCoalesceDictEntry arg with
    | .error error => .error error
    | .ok none => .ok none
    | .ok (some realArg) =>
        if value = "on" then .ok (some (realArg, 1))
        else if value = "off" then .ok (some (realArg, 0))
        else .ok ((pyInt value).map (fun number => (realArg, number)))

def setCoalesce (interface : String) (args : Option (List String)) : Script Kernel Unit :=
  setSettings ethtool .coalesce "Interrupt coalescing NOT supported on " recogniseCoalesce
    interface args

/-! ## Offload -/

/-- One of the five queries of `show_offload`. -/
def featureText (feature : Feature) (interface : String) : Script Kernel String :=
  tryElse (perform ethtool (.getFeature feature interface))
    (exceptIOError (pure "not supported"))
    (fun value => pure (onOrOff value))

def showOffload (interface : String) : Script Kernel Unit := do
  let sg ← featureText ethtool .sg interface
  let tso ← featureText ethtool .tso interface
  let ufo ← featureText ethtool .ufo interface
  let gso ← featureText ethtool .gso interface
  let gro ← featureText ethtool .gro interface
  printtab ("scatter-gather: " ++ sg)
  printtab ("tcp segmentation offload: " ++ tso)
  printtab ("udp fragmentation offload: " ++ ufo)
  printtab ("generic segmentation offload: " ++ gso)
  printtab ("generic receive offload: " ++ gro)

/-- One branch of `set_offload`, whose `except` catches everything. -/
def setFeature (feature : Feature) (interface value : String) : Script Kernel Unit :=
  tryElse (perform ethtool (.setFeature feature interface (if value = "on" then 1 else 0)))
    (fun _ => pure ())
    (fun _ => pure ())

def setOffload (interface : String) (args : Option (List String)) : Script Kernel Unit := do
  let words ← ofExcept (lowered args)
  match words with
  | [cmd, value] =>
      if cmd = "tso" then setFeature ethtool .tso interface value
      else if cmd = "gso" then setFeature ethtool .gso interface value
      else if cmd = "gro" then setFeature ethtool .gro interface value
      else pure ()
  | [] => raise ⟨.valueError, .text "not enough values to unpack (expected 2, got 0)"⟩
  | [_] => raise ⟨.valueError, .text "not enough values to unpack (expected 2, got 1)"⟩
  | _ => raise ⟨.valueError, .text "too many values to unpack (expected 2)"⟩

/-! ## Rings -/

/-- A row of `ethtool_ringparam_msgs`: a heading, or a title with a key. -/
inductive RingRow where
  | heading (title : String)
  | value (title entry : String)
  deriving DecidableEq

def ethtoolRingparamMsgs : List RingRow :=
  [.heading "Pre-set maximums",
    .value "RX:\t\t" "rx_max_pending",
    .value "RX Mini:\t" "rx_mini_max_pending",
    .value "RX Jumbo:\t" "rx_jumbo_max_pending",
    .value "TX:\t\t" "tx_max_pending",
    .heading "Current hardware settings",
    .value "RX:\t\t" "rx_pending",
    .value "RX Mini:\t" "rx_mini_pending",
    .value "RX Jumbo:\t" "rx_jumbo_pending",
    .value "TX:\t\t" "tx_pending"]

def showRingRow (ring : SettingsMap) : RingRow -> Script Kernel Unit
  | .heading title => printtab (title ++ ":")
  | .value title entry => do
      let value ← ofExcept (getItem ring entry)
      printtab (title ++ " " ++ toString value)

def RingRow.printed : RingRow -> List String
  | .heading _ => []
  | .value _ entry => [entry]

def showRing (interface : String) : Script Kernel Unit := do
  printtab ("Ring parameters for " ++ interface ++ ":")
  tryElse (perform ethtool (.getSettings .ringparam interface))
    (exceptIOError (printtab "  NOT supported!"))
    (fun ring => do
      forEach ethtoolRingparamMsgs (showRingRow ring.map)
      showOthers ring.map (ethtoolRingparamMsgs.flatMap RingRow.printed))

def ethtoolRingparamMap : List (String × String) :=
  [("rx", "rx_pending"),
    ("rx-mini", "rx_mini_pending"),
    ("rx-jumbo", "rx_jumbo_pending"),
    ("tx", "tx_pending")]

def recogniseRingparam : Recognise :=
  fun arg value =>
    match ethtoolRingparamMap.lookup arg with
    | none => .ok none
    | some realArg => .ok ((pyInt value).map (fun number => (realArg, number)))

def setRingparam (interface : String) (args : Option (List String)) : Script Kernel Unit :=
  setSettings ethtool .ringparam "ring parameters NOT supported on " recogniseRingparam
    interface args

/-! ## Driver -/

def showDriver (interface : String) : Script Kernel Unit := do
  let driver ← tryElse (perform ethtool (.getModule interface))
    (exceptIOError (pure "not implemented")) pure
  let bus ← tryElse (perform ethtool (.getBusinfo interface))
    (exceptIOError (pure "not available")) pure
  printtab ("driver: " ++ driver)
  printtab ("bus-info: " ++ bus)

/-! ## Running a command -/

inductive Command where
  | showCoalesce
  | showDriver
  | showOffload
  | showRing
  | setOffload
  | setCoalesce
  | setRingparam
  deriving DecidableEq

/-- The functions that show something ignore their arguments. -/
def Command.body (command : Command) (interface : String) (args : Option (List String)) :
    Script Kernel Unit :=
  match command with
  | .showCoalesce => Pethtool.showCoalesce ethtool interface
  | .showDriver => Pethtool.showDriver ethtool interface
  | .showOffload => Pethtool.showOffload ethtool interface
  | .showRing => Pethtool.showRing ethtool interface
  | .setOffload => Pethtool.setOffload ethtool interface args
  | .setCoalesce => Pethtool.setCoalesce ethtool interface args
  | .setRingparam => Pethtool.setRingparam ethtool interface args

/-- The call `cmd(interface, args)`, which is recorded. -/
def invoke (command : Command) (interface : String) (args : Option (List String)) :
    Script Kernel Unit := do
  tell id [.invoked interface]
  command.body ethtool interface args

/-- The loop body of `run_cmd`. -/
def runOn (command : Command) (args : Option (List String)) (activeDevices : List String)
    (interface : String) : Script Kernel Unit := do
  printLine (interface ++ (if interface ∈ activeDevices then "" else " (not active)") ++ ":")
  invoke ethtool command interface args

/-- No interface, or an empty name, stands for all devices. -/
def runCmd (command : Command) (interface : Option String) (args : Option (List String)) :
    Script Kernel Unit := do
  let activeDevices ← perform ethtool .getActiveDevices
  match interface.filter (fun name => name ≠ "") with
  | none => do
      tell (fun world => { world with tab := "  " }) []
      let allDevices ← read World.allDevices
      forEach allDevices (runOn ethtool command args activeDevices)
  | some name => invoke ethtool command name args

/-- The assignment `all_devices = ethtool.get_devices()`. -/
def assignAllDevices : Script Kernel (List String) := do
  let devices : List DeviceName ← perform ethtool .getDevices
  tell (fun world => { world with allDevices := devices.map DeviceName.name }) []
  pure (devices.map DeviceName.name)

def runCmdNoargs (command : Command) (args : List String) : Script Kernel Unit :=
  match args with
  | interface :: _ => runCmd ethtool command (some interface) none
  | [] => do
      let _ ← assignAllDevices ethtool
      runCmd ethtool command none none

/-! ## Main -/

def sysExit (status : Int) : Script Kernel Unit :=
  raise ⟨.systemExit, .errno status⟩

/-- The branch of the options that set something. -/
def runSetter (command : Command) (args : List String) : Script Kernel Unit := do
  let allDevices ← assignAllDevices ethtool
  match args with
  | first :: second :: rest =>
      if first ∈ allDevices then runCmd ethtool command (some first) (some (second :: rest))
      else runCmd ethtool command none (some (first :: second :: rest))
  | _ => do
      usage
      sysExit 1

/-- The loop over the options.  Every branch leaves it. -/
def dispatch (opts : List (String × String)) (args : List String) : Script Kernel Unit :=
  match opts with
  | [] => pure ()
  | (opt, _) :: opts =>
      if opt = "-h" ∨ opt = "--help" then usage
      else if opt = "-c" ∨ opt = "--show-coalesce" then runCmdNoargs ethtool .showCoalesce args
      else if opt = "-i" ∨ opt = "--driver" then runCmdNoargs ethtool .showDriver args
      else if opt = "-k" ∨ opt = "--show-offload" then runCmdNoargs ethtool .showOffload args
      else if opt = "-g" ∨ opt = "--show-ring" then runCmdNoargs ethtool .showRing args
      else if opt = "-K" ∨ opt = "--offload" then runSetter ethtool .setOffload args
      else if opt = "-C" ∨ opt = "--coalesce" then runSetter ethtool .setCoalesce args
      else if opt = "-G" ∨ opt = "--set-ring" then runSetter ethtool .setRingparam args
      else dispatch opts args

def shortopts : String :=
  "hcCgGikK"

def longopts : List String :=
  ["help", "show-coalesce", "coalesce", "show-ring", "set-ring", "driver", "show-offload",
    "offload"]

/-- `argv` are the arguments of the script, without its own name. -/
def main (argv : List String) : Script Kernel Unit :=
  match getopt argv shortopts longopts with
  | .error message => do
      usage
      printLine message
      sysExit 2
  | .ok ([], _) => do
      usage
      sysExit 0
  | .ok (opts, args) => dispatch ethtool opts args

end Script

end Pethtool
end PythonEthtool
