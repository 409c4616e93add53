import PythonEthtool.Foundations.Program
import PythonEthtool.Ioctl.StructDesc

namespace PythonEthtool
namespace Pethtool

open Foundations
open Python

/-!
# The surroundings of the script

`pethtool` prints, calls functions of the module `ethtool`, and keeps two
global variables.  The module and the kernel behind it are an argument: each
call is answered with a value or an exception, and may change the kernel.
What the script does is recorded as the list of lines printed, calls made
and commands entered, in this order.

The dictionaries that travel between the script and the module have strings
as keys and integers as values.  Those that are read hold every field of
their structure, which the encoding loop of the module guarantees.
-/

open Ioctl (Settings)

abbrev SettingsMap :=
  Dictionary String Int

/-- A dictionary as the module returns it. -/
structure CurrentSettings (settings : Settings) where
  map : SettingsMap
  complete : forall name, name ∈ settings.struct.fields -> (map.get? name).isSome

/-- A name as it stands in `/proc/net/dev`. -/
structure DeviceName where
  name : String
  nonempty : name ≠ ""

/-- The features of a device that are on or off. -/
inductive Feature where
  | sg
  | tso
  | ufo
  | gso
  | gro
  deriving DecidableEq

/-- The calls of the module `ethtool` that the script makes. -/
inductive Call where
  | getDevices
  | getActiveDevices
  | getSettings (settings : Settings) (interface : String)
  | setSettings (settings : Settings) (interface : String) (map : SettingsMap)
  | getFeature (feature : Feature) (interface : String)
  | setFeature (feature : Feature) (interface : String) (value : Int)
  | getModule (interface : String)
  | getBusinfo (interface : String)

@[reducible] def Call.Reply : Call -> Type
  | .getDevices => List DeviceName
  | .getActiveDevices => List String
  | .getSettings settings _ => CurrentSettings settings
  | .setSettings _ _ _ => Unit
  | .getFeature _ _ => Int
  | .setFeature _ _ _ => Unit
  | .getModule _ => String
  | .getBusinfo _ => String

/-- The module with the kernel behind it. -/
structure Ethtool (Kernel : Type) where
  answer : (call : Call) -> Kernel -> Except PyError call.Reply × Kernel

/-- The kernel and the global variables of the script. -/
structure World (Kernel : Type) where
  kernel : Kernel
  tab : String
  allDevices : List String

inductive Event where
  | printed (line : String)
  | called (call : Call)
  | invoked (interface : String)

/-- The device that a call changes. -/
def Call.target : Call -> Option String
  | .setSettings _ interface _ => some interface
  | .setFeature _ interface _ => some interface
  | _ => none

/-- The device that a step changes. -/
def Event.target : Event -> Option String
  | .called call => call.target
  | _ => none

abbrev Script (Kernel Value : Type) :=
  Program (World Kernel) Event PyError Value

variable {Kernel Value : Type}

def World.afterCall (world : World Kernel) (ethtool : Ethtool Kernel) (call : Call) :
    World Kernel :=
  { world with kernel := (ethtool.answer call world.kernel).2 }

def perform (ethtool : Ethtool Kernel) (call : Call) : Script Kernel call.Reply :=
  ⟨fun world =>
    { result := (ethtool.answer call world.kernel).1
      world := world.afterCall ethtool call
      events := [.called call] }⟩

def printLine (line : String) : Script Kernel Unit :=
  Program.tell id [.printed line]

def printtab (msg : String) : Script Kernel Unit := do
  let tab ← Program.read World.tab
  printLine (tab ++ msg)

/-- The clause `except IOError`. -/
def exceptIOError (handler : Script Kernel Value) (error : PyError) : Script Kernel Value :=
  if error.kind = .osError then handler else Program.raise error

/-- A subscript `map[key]`. -/
def getItem (map : SettingsMap) (key : String) : Except PyError Int :=
  match map.get? key with
  | some value => .ok value
  | none => .error ⟨.keyError, .text key⟩

theorem getItem_eq_ok {map : SettingsMap} {key : String} {value : Int} :
    getItem map key = .ok value ↔ map.get? key = some value := by
  rw [getItem]
  cases map.get? key with
  | none => simp
  | some found => simp

/-! ## A machine for concrete runs -/

def zeros (names : List String) : SettingsMap :=
  names.foldr (fun name map => map.set name 0) Dictionary.empty

theorem get?_zeros {names : List String} {name : String} (member : name ∈ names) :
    (zeros names).get? name = some 0 := by
  induction names with
  | nil => cases member
  | cons first rest ih =>
      change ((zeros rest).set first 0).get? name = some 0
      rw [Dictionary.get?_set]
      by_cases same : name = first
      · rw [if_pos same]
      · rw [if_neg same]
        exact ih ((List.mem_cons.mp member).resolve_left same)

def CurrentSettings.zero (settings : Settings) : CurrentSettings settings where
  map := zeros settings.struct.fields
  complete := by
    intro name member
    rw [get?_zeros member]
    rfl

/-- Two devices whose settings are all zero.  The first accepts every
write, the second refuses them. -/
def twoDevices : Ethtool Unit where
  answer call kernel :=
    let refusal : PyError := ⟨.osError, .errno 95⟩
    let reply : Except PyError call.Reply :=
      match call with
      | .getDevices => .ok [⟨"eth0", by decide⟩, ⟨"eth1", by decide⟩]
      | .getActiveDevices => .ok ["eth0"]
      | .getSettings settings _ => .ok (CurrentSettings.zero settings)
      | .setSettings _ interface _ => if interface = "eth0" then .ok () else .error refusal
      | .getFeature _ _ => .ok 0
      | .setFeature _ interface _ => if interface = "eth0" then .ok () else .error refusal
      | .getModule _ => .ok "e1000"
      | .getBusinfo _ => .ok "0000:00:1f.6"
    (reply, kernel)

/-- The script as it starts. -/
def World.start (kernel : Kernel) : World Kernel where
  kernel := kernel
  tab := ""
  allDevices := []

end Pethtool
end PythonEthtool
