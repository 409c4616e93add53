import Mathlib

namespace PythonEthtool
namespace Foundations

/-!
# C strings in fixed buffers

A C string is carried here as its bytes before the terminator, so the
absence of an interior NUL is a field of the type.  A fixed character array
is a list of bytes; reading it as a string stops at the first NUL.

`strncpy` followed by a forced terminator in the last cell is the standard
guard against an unterminated copy.  It is also a truncation, and
`readString_strncpyTerminated` says of exactly which strings: those longer
than the array less one.
-/

/-- A string as C passes it: any bytes but NUL, the terminator left implicit. -/
structure CString where
  bytes : List UInt8
  noNul : forall byte, byte ∈ bytes -> byte ≠ 0
  deriving DecidableEq

namespace CString

theorem ext_bytes {left right : CString} (same : left.bytes = right.bytes) : left = right := by
  cases left
  cases right
  cases same
  rfl

def length (string : CString) : Nat :=
  string.bytes.length

end CString

/-- `strncpy(buffer, source, count)`: at most `count` bytes of the source,
the rest of the first `count` cells cleared, later cells untouched. -/
def strncpy (buffer : List UInt8) (source : CString) (count : Nat) : List UInt8 :=
  (source.bytes ++ List.replicate count 0).take count ++ buffer.drop count

/-- The string a reader of the array sees. -/
def readString (buffer : List UInt8) : List UInt8 :=
  buffer.takeWhile (fun byte => byte ≠ 0)

/-- Copy into a cleared array of `size + 1` cells and force the terminator. -/
def strncpyTerminated (size : Nat) (source : CString) : List UInt8 :=
  (strncpy (List.replicate (size + 1) 0) source (size + 1)).set size 0

/-- The array holds the truncated source, cleared up to its end. -/
theorem strncpyTerminated_eq (size : Nat) (source : CString) :
    strncpyTerminated size source =
      source.bytes.take size ++ 0 :: List.replicate (size - source.length) 0 := by
  have padded : strncpy (List.replicate (size + 1) 0) source (size + 1) =
      (source.bytes ++ List.replicate (size + 1) 0).take (size + 1) := by
    simp [strncpy]
  rw [strncpyTerminated, padded, CString.length]
  apply List.ext_getElem
  · simp only [List.length_set, List.length_take, List.length_append, List.length_replicate,
      List.length_cons]
    omega
  · intro index inside _
    simp only [List.length_set, List.length_take, List.length_append,
      List.length_replicate] at inside
    by_cases early : index < min size source.bytes.length
    · have notLast : size ≠ index := by omega
      have copied : index < (source.bytes.take size).length := by
        simp only [List.length_take]
        omega
      rw [List.getElem_set_ne notLast, List.getElem_take, List.getElem_append_left (by omega),
        List.getElem_append_left copied, List.getElem_take]
    · have cleared : (0 :: List.replicate (size - source.bytes.length) (0 : UInt8)) =
          List.replicate (size - source.bytes.length + 1) 0 := rfl
      rw [List.getElem_append_right (by simp only [List.length_take]; omega)]
      simp only [cleared, List.getElem_replicate]
      by_cases last : index = size
      · subst last
        rw [List.getElem_set_self]
      · rw [List.getElem_set_ne (by omega), List.getElem_take,
          List.getElem_append_right (by omega), List.getElem_replicate]

/-- Copying one byte less than the array holds gives the same array. -/
theorem strncpy_set_last (size : Nat) (source : CString) :
    (strncpy (List.replicate (size + 1) 0) source size).set size 0 =
      strncpyTerminated size source := by
  have copied : (source.bytes ++ List.replicate size 0).take size =
      source.bytes.take size ++ List.replicate (size - source.length) 0 := by
    rw [List.take_append, List.take_replicate, CString.length, Nat.min_eq_left (Nat.sub_le _ _)]
  have filled : (source.bytes.take size ++
      List.replicate (size - source.length) 0).length = size := by
    rw [← copied]
    simp
  have last : (List.replicate (size + 1) (0 : UInt8)).drop size = [0] := by
    simp
  rw [strncpyTerminated_eq, strncpy, copied, last, List.set_append_right _ _ (by omega), filled,
    Nat.sub_self, List.set_cons_zero, List.append_assoc, ← List.replicate_succ',
    List.replicate_succ]

/-- A reader sees what stands in front of the first terminator. -/
theorem readString_terminated {bytes : List UInt8}
    (noNul : forall byte, byte ∈ bytes -> byte ≠ 0) (after : List UInt8) :
    readString (bytes ++ 0 :: after) = bytes := by
  rw [readString, List.takeWhile_append_of_pos]
  · simp
  · intro byte member
    simpa using noNul byte member

/-- What is read back is the source, cut to the cells before the last one. -/
theorem readString_strncpyTerminated (size : Nat) (source : CString) :
    readString (strncpyTerminated size source) = source.bytes.take size := by
  rw [strncpyTerminated_eq]
  apply readString_terminated
  intro byte member
  exact source.noNul byte (List.mem_of_mem_take member)

/-- Two sources fill the array alike exactly when their truncations agree. -/
theorem strncpyTerminated_eq_iff (size : Nat) (left right : CString) :
    strncpyTerminated size left = strncpyTerminated size right ↔
      left.bytes.take size = right.bytes.take size := by
  constructor
  · intro same
    rw [← readString_strncpyTerminated size left, ← readString_strncpyTerminated size right, same]
  · intro same
    rw [strncpyTerminated_eq, strncpyTerminated_eq, same]
    have lengths := congrArg List.length same
    simp only [List.length_take] at lengths
    have room : size - left.length = size - right.length := by
      simp only [CString.length]
      omega
    rw [room]

/-- The string in a buffer. -/
def CString.ofBuffer (buffer : List UInt8) : CString where
  bytes := readString buffer
  noNul := by
    intro byte member
    have kept := List.mem_takeWhile_imp member
    exact of_decide_eq_true kept

/-! ## UTF-8 -/

/-- Of all characters only NUL has a NUL byte in its encoding. -/
theorem utf8EncodeChar_noNul {char : Char} (nonzero : char.toNat ≠ 0) {byte : UInt8}
    (member : byte ∈ String.utf8EncodeChar char) : byte ≠ 0 := by
  have positive : char.val.toNat ≠ 0 := nonzero
  have notZero : forall code, code % 256 ≠ 0 -> UInt8.ofNat code ≠ 0 := by
    intro code large zero
    have same := congrArg UInt8.toNat zero
    rw [UInt8.toNat_ofNat'] at same
    exact large same
  rw [String.utf8EncodeChar] at member
  split at member
  · rcases List.mem_singleton.mp member with rfl
    apply notZero
    omega
  · split at member
    · simp only [List.mem_cons, List.not_mem_nil, or_false] at member
      rcases member with rfl | rfl <;> apply notZero <;> omega
    · split at member
      · simp only [List.mem_cons, List.not_mem_nil, or_false] at member
        rcases member with rfl | rfl | rfl <;> apply notZero <;> omega
      · simp only [List.mem_cons, List.not_mem_nil, or_false] at member
        rcases member with rfl | rfl | rfl | rfl <;> apply notZero <;> omega

/-- A reader of encoded characters sees those before the first NUL. -/
theorem readString_utf8 (chars : List Char) (after : List UInt8) :
    readString (chars.flatMap String.utf8EncodeChar ++ 0 :: after) =
      (chars.takeWhile (fun char => char.toNat ≠ 0)).flatMap String.utf8EncodeChar := by
  induction chars with
  | nil => rfl
  | cons char chars ih =>
      by_cases zero : char.toNat = 0
      · have code : char.val.toNat = 0 := zero
        have encoded : String.utf8EncodeChar char = [0] := by
          rw [String.utf8EncodeChar]
          simp [code]
        rw [List.takeWhile_cons_of_neg (by simp [zero]), List.flatMap_cons, encoded]
        rfl
      · rw [List.takeWhile_cons_of_pos (by simp [zero]), List.flatMap_cons, List.flatMap_cons,
          List.append_assoc, ← ih, readString, List.takeWhile_append_of_pos]
        · rfl
        · intro byte member
          exact decide_eq_true (utf8EncodeChar_noNul zero member)

theorem fromUTF8?_utf8 (chars : List Char) :
    String.fromUTF8? ⟨(chars.flatMap String.utf8EncodeChar).toArray⟩ =
      some (String.ofList chars) := by
  have encoded : (⟨(chars.flatMap String.utf8EncodeChar).toArray⟩ : ByteArray) =
      chars.utf8Encode := by
    rw [List.utf8Encode]
    apply ByteArray.ext
    simp
  rw [encoded, String.fromUTF8?, dif_pos ByteArray.isValidUTF8_utf8Encode]
  rfl

theorem toByteArray_of_fromUTF8? {bytes : List UInt8} {text : String}
    (decoded : String.fromUTF8? ⟨bytes.toArray⟩ = some text) :
    text.toByteArray = ⟨bytes.toArray⟩ := by
  rw [String.fromUTF8?] at decoded
  split at decoded
  · cases decoded
    rfl
  · cases decoded

/-- Bytes that decode to the same text are the same. -/
theorem fromUTF8?_injective {left right : List UInt8} {text : String}
    (first : String.fromUTF8? ⟨left.toArray⟩ = some text)
    (second : String.fromUTF8? ⟨right.toArray⟩ = some text) : left = right := by
  have same := (toByteArray_of_fromUTF8? first).symm.trans (toByteArray_of_fromUTF8? second)
  rw [ByteArray.mk.injEq] at same
  exact Array.toList_inj.mpr same

/-! ## ASCII -/

/-- The characters with the same codes. -/
def asciiText (bytes : List UInt8) : String :=
  String.ofList (bytes.map Char.ofUInt8)

theorem utf8EncodeChar_ascii {byte : UInt8} (ascii : byte < 128) :
    String.utf8EncodeChar (Char.ofUInt8 byte) = [byte] := by
  have small : byte.toNat ≤ 127 := Nat.lt_succ_iff.mp (UInt8.lt_iff_toNat_lt.mp ascii)
  have code : (Char.ofUInt8 byte).val.toNat = byte.toNat := by
    simp [Char.ofUInt8]
  rw [String.utf8EncodeChar]
  rw [code, if_pos small]
  congr 1
  simp

theorem flatMap_utf8EncodeChar_ascii {bytes : List UInt8}
    (ascii : forall byte, byte ∈ bytes -> byte < 128) :
    (bytes.map Char.ofUInt8).flatMap String.utf8EncodeChar = bytes := by
  rw [List.flatMap_map]
  induction bytes with
  | nil => rfl
  | cons byte bytes ih =>
      rw [List.flatMap_cons, utf8EncodeChar_ascii (ascii byte List.mem_cons_self),
        ih (fun later member => ascii later (List.mem_cons_of_mem byte member))]
      rfl

/-- ASCII bytes are the UTF-8 form of their characters. -/
theorem fromUTF8?_ascii {bytes : List UInt8} (ascii : forall byte, byte ∈ bytes -> byte < 128) :
    String.fromUTF8? ⟨bytes.toArray⟩ = some (asciiText bytes) := by
  have decoded := fromUTF8?_utf8 (bytes.map Char.ofUInt8)
  rw [flatMap_utf8EncodeChar_ascii ascii] at decoded
  exact decoded

/-! ## Conversions of `printf` -/

def hexDigit (value : Nat) : Char :=
  if value < 10 then Char.ofNat (48 + value) else Char.ofNat (87 + value)

/-- The conversion `%02x` of a byte. -/
def hexByte (byte : UInt8) : String :=
  String.ofList [hexDigit (byte.toNat / 16), hexDigit (byte.toNat % 16)]

end Foundations
end PythonEthtool
