import PythonEthtool.Foundations.Dictionary

namespace PythonEthtool
namespace Python

open Foundations

/-!
# Python objects as the extension module sees them

Only what the C code can observe of an object is kept: whether it is an
integer, a string or something else, and for everything else whether it
offers `__index__`.  Booleans are integers here, as they are for the C API.

A C function reports an error by setting the pending exception of the
interpreter, and may return without anybody looking at it.
-/

/-- One element of a Python string: a character, or a surrogate, of which
there are 2048. -/
inductive CodePoint where
  | scalar (char : Char)
  | surrogate (offset : Fin 2048)
  deriving DecidableEq

def CodePoint.scalar? : CodePoint -> Option Char
  | .scalar char => some char
  | .surrogate _ => none

def CodePoint.isNul : CodePoint -> Bool
  | .scalar char => char.toNat = 0
  | .surrogate _ => false

abbrev PyText :=
  List CodePoint

/-- A string with a surrogate in it, which has no UTF-8. -/
structure SurrogateText where
  text : PyText
  surrogate : ∃ offset, CodePoint.surrogate offset ∈ text
  deriving DecidableEq

/-- The strings with UTF-8 and those without are two constructors. -/
inductive PyValue where
  | none
  | int (value : Int)
  | str (text : String)
  | surrogates (text : SurrogateText)
  | other (identity : Nat) (index : Option Int)
  deriving DecidableEq

abbrev PyDict :=
  Dictionary PyValue PyValue

/-- An arbitrary object: a dictionary, or anything else. -/
inductive PyObject where
  | dict (entries : PyDict)
  | value (value : PyValue)

/-- `OSError` is also `IOError`. -/
inductive ErrorKind where
  | osError
  | lookupError
  | runtimeError
  | typeError
  | valueError
  | overflowError
  | indexError
  | keyError
  | systemError
  | memoryError
  | attributeError
  | systemExit
  deriving DecidableEq

/-- What an exception carries: a message, the error number it was made from,
or a message of the interpreter's own, which differs between its versions. -/
inductive ErrorDetail where
  | text (message : String)
  | errno (code : Int)
  | own
  deriving DecidableEq

structure PyError where
  kind : ErrorKind
  detail : ErrorDetail
  deriving DecidableEq

/-- `PyErr_SetFromErrno` of `OSError` or `IOError`, with nothing pending. -/
def setFromErrno (code : Int) : PyError :=
  ⟨.osError, .errno code⟩

def ENOMEM : Int :=
  12

def ENODEV : Int :=
  19

/-- The error numbers for which `OSError` has a class of its own. -/
def errnoMap : List Int :=
  [1, 2, 3, 4, 10, 11, 13, 17, 20, 21, 32, 103, 104, 108, 110, 111, 114, 115]

/-- An exception that is set where another may be pending.  A message replaces
it.  For an error number the exception has to be made by a call first, which
fails for as long as another one is pending: that one stays, or the
interpreter has chosen a class already and complains about the call. -/
def PyError.over (error : PyError) (earlier : Option PyError) : PyError :=
  match error.detail, earlier with
  | .errno code, some earlier =>
      if error.kind = .osError ∧ code ∉ errnoMap then earlier else ⟨.systemError, .own⟩
  | _, _ => error

@[simp] theorem PyError.over_none (error : PyError) : error.over none = error := by
  rcases error with ⟨_, _ | _ | _⟩ <;> rfl

/-! ## Integers through C `long` -/

inductive LongWidth where
  | bits32
  | bits64
  deriving DecidableEq

/-- The largest `long` plus one. -/
def LongWidth.bound : LongWidth -> Int
  | .bits32 => 2 ^ 31
  | .bits64 => 2 ^ 63

/-- Conversion of an unsigned word to `long`, which wraps where the word
does not fit. -/
def toLong (width : LongWidth) (word : UInt32) : Int :=
  if (word.toNat : Int) < width.bound then word.toNat else word.toNat - 2 * width.bound

def pyLongFromLong (long : Int) : PyValue :=
  .int long

/-- The `long` of a Python integer, or -1 with an exception. -/
def intAsLong (width : LongWidth) (value : Int) : Int × Option PyError :=
  if -width.bound ≤ value ∧ value < width.bound then (value, none)
  else (-1, some ⟨.overflowError, .text "Python int too large to convert to C long"⟩)

def pyLongAsLong (width : LongWidth) : PyValue -> Int × Option PyError
  | .int value => intAsLong width value
  | .other _ (some value) => intAsLong width value
  | _ => (-1, some ⟨.typeError, .own⟩)

/-- A borrowed reference to the value, NULL for a missing key and for an
object that is no dictionary. -/
def pyDictGetItemString (object : PyObject) (name : String) : Option PyValue :=
  match object with
  | .dict entries => entries.get? (.str name)
  | .value _ => none

theorem toLong_bits64 (word : UInt32) : toLong .bits64 word = word.toNat := by
  have bound := UInt32.toNat_lt word
  have fits : (word.toNat : Int) < LongWidth.bits64.bound := by
    simp only [LongWidth.bound]
    omega
  rw [toLong, if_pos fits]

theorem intAsLong_bits64 {value : Int} (lower : 0 ≤ value) (upper : value < 2 ^ 32) :
    intAsLong .bits64 value = (value, none) := by
  have fits : -LongWidth.bits64.bound ≤ value ∧ value < LongWidth.bits64.bound := by
    simp only [LongWidth.bound]
    omega
  rw [intAsLong, if_pos fits]

end Python
end PythonEthtool
