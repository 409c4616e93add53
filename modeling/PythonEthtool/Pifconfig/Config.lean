import PythonEthtool.Foundations.Output
import PythonEthtool.Netlink.Addresses
import PythonEthtool.Pifconfig.Flags
import PythonEthtool.Pifconfig.Netmask
import PythonEthtool.Python.Getopt

namespace PythonEthtool
namespace Pifconfig

open Foundations
open Foundations.Program
open Ioctl
open Netlink (PyNetlinkIPaddress)
open Python

/-!
# The script `pifconfig`

The script prints a section for each device and stops at the first one that
it cannot show.  The module `ethtool` with the kernel behind it is an
argument, as for `pethtool`; the objects of `get_interfaces_info` are known
by numbers.  What the script does is recorded as the list of texts written
and calls made.

A section is written piece by piece, in the order of the calls, so an
exception can leave a part of it behind, even a part of a line.  A call can
also end in undefined behaviour.  Nothing of the script is run after it, no
`except` clause either, and what has been written may be lost with the buffer
that `print` fills.
-/

/-! ## The surroundings -/

/-- The calls of the module `ethtool` and of its objects. -/
inductive Call where
  | getActiveDevices
  | getFlags (device : String)
  | getInterfacesInfo (device : String)
  | getHwaddr (device : String)
  | getIpv4Addresses (info : Nat)
  | getIpv6Addresses (info : Nat)

@[reducible] def Call.Reply : Call -> Type
  | .getActiveDevices => List String
  | .getFlags _ => Int
  | .getInterfacesInfo _ => List Nat
  | .getHwaddr _ => String
  | .getIpv4Addresses _ => List PyNetlinkIPaddress
  | .getIpv6Addresses _ => List PyNetlinkIPaddress

/-- How a call or a part of the script ends without a value. -/
inductive Failure (Error : Type) where
  | raised (error : Error)
  | crashed
  deriving DecidableEq

def Failure.map {Error Other : Type} (convert : Error -> Other) : Failure Error -> Failure Other
  | .raised error => .raised (convert error)
  | .crashed => .crashed

structure Ethtool (Kernel : Type) where
  answer : (call : Call) -> Kernel -> Except (Failure PyError) call.Reply × Kernel

inductive Event where
  | wrote (text : String)
  | called (call : Call)

def Event.text : Event -> Option String
  | .wrote text => some text
  | .called _ => none

abbrev Script (Kernel Value : Type) :=
  Program Kernel Event (Failure ScriptError) Value

variable {Kernel : Type} (ethtool : Ethtool Kernel)

def perform (call : Call) : Script Kernel call.Reply :=
  ⟨fun kernel =>
    { result := (ethtool.answer call kernel).1.mapError (Failure.map ScriptError.python)
      world := (ethtool.answer call kernel).2
      events := [.called call] }⟩

/-- The call `print(text, end=ending)`. -/
def pyPrint (text ending : String) : Script Kernel Unit :=
  tell id [.wrote (text ++ ending)]

/-- An expression without effects. -/
def evaluate {Value : Type} (result : Except ScriptError Value) : Script Kernel Value :=
  ofExcept (result.mapError Failure.raised)

/-- A conditional statement without `else`. -/
def onlyIf (condition : Prop) [Decidable condition] (program : Script Kernel Unit) :
    Script Kernel Unit :=
  if condition then program else pure ()

/-! ## One section -/

/-- An attribute in a text, which may be `None`. -/
def noneText : Option String -> String
  | some text => text
  | none => "None"

/-- The attribute `scope`, which there is not where the field is NULL. -/
def scopeOf (addr : PyNetlinkIPaddress) : Except ScriptError String :=
  match addr.scope with
  | some scope => .ok scope
  | none => .error (.python ⟨.attributeError, .own⟩)

def showIpv4 (flags : Int) (addr : PyNetlinkIPaddress) : Script Kernel Unit := do
  pyPrint ("\tinet addr:" ++ addr.local_) " "
  onlyIf (Int.land flags (Int.lor IFF_LOOPBACK IFF_POINTOPOINT) = 0)
    (pyPrint ("Bcast:" ++ noneText addr.ipv4Broadcast) " ")
  let mask ← evaluate (bits2netmask addr.prefixlen)
  pyPrint ("Mask:" ++ mask) "\n"

def showIpv6 (addr : PyNetlinkIPaddress) : Script Kernel Unit := do
  let scope ← evaluate (scopeOf addr)
  pyPrint ("\tinet6 addr: " ++ addr.local_ ++ "/" ++ toString addr.prefixlen ++ " Scope: " ++
    scope) "\n"

/-- The body of the loop over the objects. -/
def showInfo (device : String) (flags : Int) (info : Nat) : Script Kernel Unit := do
  pyPrint device "\n"
  onlyIf (Int.land flags IFF_LOOPBACK = 0) (do
    let hwaddr ← perform ethtool (.getHwaddr device)
    pyPrint ("\tHWaddr " ++ hwaddr) "\n")
  let ipv4 ← perform ethtool (.getIpv4Addresses info)
  forEach ipv4 (showIpv4 flags)
  let ipv6 ← perform ethtool (.getIpv6Addresses info)
  forEach ipv6 showIpv6

/-- The last line of the function names `print` without calling it. -/
def showConfig (device : String) : Script Kernel Unit := do
  let flags ← perform ethtool (.getFlags device)
  let infos ← perform ethtool (.getInterfacesInfo device)
  forEach infos (showInfo ethtool device flags)
  pyPrint ("\t" ++ flags2str flags ++ "\n") "\n"

/-! ## Main -/

/-- The method `parse_args` of a parser that knows no option but the help.
Where it stops the script, the texts that it prints are left out. -/
def parseArgs : List String -> Except ScriptError (List String)
  | [] => .ok []
  | arg :: args =>
      if arg = "--" then .ok args
      else if startsWith arg "--" then
        .error (.systemExit (if startsWith "--help" arg then 0 else 2))
      else if startsWith arg "-" ∧ arg ≠ "-" then
        .error (.systemExit (if arg.toList[1]? = some 'h' then 0 else 2))
      else (parseArgs args).map (fun rest => arg :: rest)

/-- The texts that come from elsewhere: of the error numbers, and of the
exceptions with a message of the interpreter's own. -/
structure ErrorTexts where
  strerror : Int -> String
  own : ErrorKind -> String

/-- The text `str(ex)`. -/
def errorText (texts : ErrorTexts) : ScriptError -> String
  | .struct message => message
  | .systemExit status => toString status
  | .python ⟨_, .text message⟩ => message
  | .python ⟨kind, .own⟩ => texts.own kind
  | .python ⟨.osError, .errno code⟩ =>
      "[Errno " ++ toString code ++ "] " ++ texts.strerror code
  | .python ⟨_, .errno code⟩ => "(" ++ toString code ++ ", '" ++ texts.strerror code ++ "')"

def errorLine (texts : ErrorTexts) (device : String) (error : ScriptError) : String :=
  "** ERROR ** [Device " ++ device ++ "]: " ++ errorText texts error

/-- The clause `except Exception`, which a request to exit passes. -/
def exitWithError (texts : ErrorTexts) (device : String) :
    Failure ScriptError -> Script Kernel Unit
  | .crashed => raise .crashed
  | .raised (.systemExit status) => raise (.raised (.systemExit status))
  | .raised error => do
      pyPrint (errorLine texts device error) "\n"
      raise (.raised (.systemExit 2))

/-- The body of the loop over the devices. -/
def showOrExit (texts : ErrorTexts) (device : String) : Script Kernel Unit :=
  tryElse (showConfig ethtool device) (exitWithError texts device) (fun _ => pure ())

/-- The devices that are named, or the active ones. -/
def selDevs (args : List String) : Script Kernel (List String) :=
  if args = [] then perform ethtool .getActiveDevices else pure args

/-- `argv` are the arguments of the script, without its own name. -/
def main (texts : ErrorTexts) (argv : List String) : Script Kernel Unit := do
  let args ← evaluate (parseArgs argv)
  let devices ← selDevs ethtool args
  forEach devices (showOrExit ethtool texts)

end Pifconfig
end PythonEthtool
