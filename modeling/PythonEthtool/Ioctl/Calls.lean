import PythonEthtool.Ioctl.Functions

namespace PythonEthtool
namespace Ioctl

open Foundations
open Python

/-!
# Calls from Python

A script calls the C functions with strings, and gets back an object or an
exception.  The name of the device is converted by the format `s`, which
takes no string with a NUL; whatever a function returns, the interpreter
looks at the pending exception as well.
-/

/-! ## The arguments -/

def utf8Bytes (text : String) : List UInt8 :=
  text.toList.flatMap String.utf8EncodeChar

/-- The format `s` of `PyArg_ParseTuple`. -/
def cstringOf (text : String) : Option CString :=
  if noNul : forall byte, byte ∈ utf8Bytes text -> byte ≠ 0 then some ⟨utf8Bytes text, noNul⟩
  else none

/-- The name by which the kernel looks a device up: the request has room for
15 bytes. -/
def kernelName (interface : String) : List UInt8 :=
  (utf8Bytes interface).take 15

theorem bytes_of_cstringOf {text : String} {devname : CString}
    (named : cstringOf text = some devname) : devname.bytes = utf8Bytes text := by
  rw [cstringOf] at named
  split at named
  · cases named
    rfl
  · cases named

/-- A string that the format takes is read back as it is. -/
theorem ofBuffer_of_cstringOf {text : String} {devname : CString}
    (named : cstringOf text = some devname) :
    CString.ofBuffer (utf8Bytes text ++ [0]) = devname := by
  have bytes := bytes_of_cstringOf named
  apply CString.ext_bytes
  rw [← bytes]
  exact readString_terminated devname.noNul []

/-! ## The results -/

/-- What the interpreter makes of the result of a C function. -/
def returned (result : CallResult) : Except PyError PyObject :=
  match result.value, result.pending with
  | some object, none => .ok object
  | none, some error => .error error
  | none, none => .error ⟨.systemError, .text "returned NULL without setting an exception"⟩
  | some _, some _ => .error ⟨.systemError, .text "returned a result with an exception set"⟩

def readInt (object : PyObject) : Except PyError Int :=
  match object with
  | .value (.int value) => .ok value
  | _ => .error ⟨.typeError, .text "not an integer"⟩

def readStr (object : PyObject) : Except PyError String :=
  match object with
  | .value (.str text) => .ok text
  | _ => .error ⟨.typeError, .text "not a string"⟩

theorem returned_eq_ok {result : CallResult} {object : PyObject}
    (ok : returned result = .ok object) :
    result.value = some object ∧ result.pending = none := by
  rw [returned] at ok
  split at ok
  · rename_i found value pending
    cases ok
    exact ⟨value, pending⟩
  all_goals cases ok

end Ioctl
end PythonEthtool
