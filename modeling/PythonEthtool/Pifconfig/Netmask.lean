import PythonEthtool.Foundations.Bits
import PythonEthtool.Foundations.Decimal
import PythonEthtool.Ioctl.Functions

namespace PythonEthtool
namespace Pifconfig

open Foundations
open Ioctl
open Python

/-!
# Netmasks

An address object has the length of its prefix, and `pifconfig` prints it as
a netmask.  The conversion shifts and packs a Python integer: it raises for
a negative length in the shift, and for a length above 32 when the mask
needs a bit too many.  In between the text is the mask with that many
leading bits.

`get_netmask` prints the mask that the kernel holds, in the same form, so
the two texts can be compared: they are equal exactly if the mask is that of
the prefix.
-/

/-- What the script can be left with: an exception of the interpreter or of
the module, one of the module `struct`, or the request to exit. -/
inductive ScriptError where
  | python (error : PyError)
  | struct (message : String)
  | systemExit (status : Int)
  deriving DecidableEq

/-- The call `struct.pack(">L", number)`. -/
def structPackL (number : Int) : Except ScriptError (List Nat) :=
  if 0 ≤ number ∧ number < 2 ^ 32 then .ok (bigEndian number.toNat)
  else .error (.struct "'L' format requires 0 <= number <= 4294967295")

/-- The call `socket.inet_ntoa`. -/
def inetNtoa (packed : List Nat) : String :=
  dotted packed

def bits2netmask (bits : Int) : Except ScriptError String :=
  if bits < 0 then .error (.python ⟨.valueError, .text "negative shift count"⟩)
  else
    let one : Int := 1
    let mask := one <<< (32 : Nat) - one <<< (32 : Nat) >>> bits.toNat
    (structPackL mask).map inetNtoa

/-- The mask of a prefix. -/
def maskOf (bits : Nat) : Nat :=
  2 ^ 32 - 2 ^ (32 - bits)

section Masks

variable {bits : Nat}

theorem maskOf_lt (bits : Nat) : maskOf bits < 2 ^ 32 := by
  have positive : 0 < 2 ^ (32 - bits) := Nat.two_pow_pos _
  rw [maskOf]
  omega

/-- The bits of the prefix are the highest ones. -/
theorem testBit_maskOf (small : bits ≤ 32) (index : Nat) :
    (maskOf bits).testBit index = true ↔ 32 - bits ≤ index ∧ index < 32 := by
  have split : maskOf bits = 2 ^ (32 - bits) * (2 ^ bits - 1) := by
    rw [maskOf, Nat.mul_sub_one, ← pow_add, Nat.sub_add_cancel small]
  rw [split, Nat.testBit_two_pow_mul, Nat.testBit_two_pow_sub_one]
  simp only [Bool.and_eq_true, decide_eq_true_eq]
  omega

theorem maskOf_injective {other : Nat} (small : bits ≤ 32) (otherSmall : other ≤ 32)
    (same : maskOf bits = maskOf other) : bits = other := by
  have powers : 2 ^ (32 - bits) = 2 ^ (32 - other) := by
    have first : 2 ^ (32 - bits) ≤ 2 ^ 32 := Nat.pow_le_pow_right (by decide) (by omega)
    have second : 2 ^ (32 - other) ≤ 2 ^ 32 := Nat.pow_le_pow_right (by decide) (by omega)
    rw [maskOf, maskOf] at same
    omega
  have exponents := Nat.pow_right_injective (le_refl 2) powers
  omega

/-- The integer that is packed. -/
theorem shifted_eq (bits : Nat) :
    (1 : Int) <<< (32 : Nat) - (1 : Int) <<< (32 : Nat) >>> bits =
      2 ^ 32 - ((2 ^ 32 / 2 ^ bits : Nat) : Int) := by
  have shifted : (1 : Int) <<< (32 : Nat) = ((2 ^ 32 : Nat) : Int) := by decide
  rw [shifted, Int.shiftRight_eq_div_pow]
  push_cast
  rfl

/-- Up to 32 it is the mask, -/
theorem shifted_of_small (small : bits ≤ 32) :
    (1 : Int) <<< (32 : Nat) - (1 : Int) <<< (32 : Nat) >>> bits = maskOf bits := by
  have quotient : 2 ^ 32 / 2 ^ bits = 2 ^ (32 - bits) := Nat.pow_div small (by decide)
  have bounded : 2 ^ (32 - bits) ≤ 2 ^ 32 := Nat.pow_le_pow_right (by decide) (by omega)
  rw [shifted_eq, quotient, maskOf, Nat.cast_sub bounded]
  push_cast
  rfl

/-- and above it has a bit too many. -/
theorem shifted_of_large (large : 32 < bits) :
    (1 : Int) <<< (32 : Nat) - (1 : Int) <<< (32 : Nat) >>> bits = 2 ^ 32 := by
  have quotient : 2 ^ 32 / 2 ^ bits = 0 :=
    Nat.div_eq_of_lt (Nat.pow_lt_pow_right (by decide) large)
  rw [shifted_eq, quotient]
  decide

end Masks

/-! ## The text -/

theorem bits2netmask_of_small {bits : Nat} (small : bits ≤ 32) :
    bits2netmask bits = .ok (dotted (bigEndian (maskOf bits))) := by
  have fits : (0 : Int) ≤ (maskOf bits : Int) ∧ (maskOf bits : Int) < 2 ^ 32 := by
    have upper := maskOf_lt bits
    omega
  rw [bits2netmask, if_neg (Int.not_lt.mpr (Int.natCast_nonneg bits)), Int.toNat_natCast]
  simp only [shifted_of_small small, structPackL, if_pos fits, Int.toNat_natCast]
  rfl

theorem bits2netmask_of_large {bits : Nat} (large : 32 < bits) :
    bits2netmask bits =
      .error (.struct "'L' format requires 0 <= number <= 4294967295") := by
  rw [bits2netmask, if_neg (Int.not_lt.mpr (Int.natCast_nonneg bits)), Int.toNat_natCast]
  simp only [shifted_of_large large, structPackL]
  rw [if_neg (by omega)]
  rfl

/-- Exactly the lengths from 0 to 32 have a netmask. -/
theorem bits2netmask_ok_iff {bits : Int} {text : String} :
    bits2netmask bits = .ok text ↔
      ∃ length : Nat, bits = length ∧ length ≤ 32 ∧
        text = dotted (bigEndian (maskOf length)) := by
  constructor
  · intro made
    by_cases negative : bits < 0
    · rw [bits2netmask, if_pos negative] at made
      cases made
    · have natural : bits = (bits.toNat : Int) := by omega
      rw [natural] at made ⊢
      by_cases small : bits.toNat ≤ 32
      · rw [bits2netmask_of_small small] at made
        cases made
        exact ⟨bits.toNat, rfl, small, rfl⟩
      · rw [bits2netmask_of_large (Nat.not_le.mp small)] at made
        cases made
  · rintro ⟨length, rfl, small, rfl⟩
    exact bits2netmask_of_small small

/-- What there is to say of the netmask of a prefix: it exists for the
lengths from 0 to 32, its four numbers are the bytes of the word whose highest
bits are set, as many as the length says, and it determines the length. -/
structure NetmaskOfPrefix (netmask : Int -> Except ScriptError String) : Prop where
  exists_iff : forall bits : Int, (∃ text, netmask bits = .ok text) ↔ 0 ≤ bits ∧ bits ≤ 32
  leading : forall bits text, netmask bits = .ok text ->
    ∃ word, word < 2 ^ 32 ∧ dottedNumbers text = bigEndian word ∧
      forall index : Nat, word.testBit index = true ↔ 32 - bits ≤ (index : Int) ∧ index < 32
  injective : forall first second text, netmask first = .ok text -> netmask second = .ok text ->
    first = second

theorem bits2netmask_netmaskOfPrefix : NetmaskOfPrefix bits2netmask where
  exists_iff := by
    intro bits
    simp only [bits2netmask_ok_iff]
    constructor
    · rintro ⟨_, length, rfl, small, _⟩
      omega
    · intro ⟨lower, upper⟩
      exact ⟨_, bits.toNat, by omega, by omega, rfl⟩
  leading := by
    intro bits text made
    rcases bits2netmask_ok_iff.mp made with ⟨length, rfl, small, rfl⟩
    refine ⟨maskOf length, maskOf_lt length, dottedNumbers_dotted _, ?_⟩
    intro index
    rw [testBit_maskOf small]
    omega
  injective := by
    intro first second text firstMade secondMade
    rcases bits2netmask_ok_iff.mp firstMade with ⟨one, rfl, oneSmall, rfl⟩
    rcases bits2netmask_ok_iff.mp secondMade with ⟨other, rfl, otherSmall, same⟩
    have words := bigEndian_injective (maskOf_lt one) (maskOf_lt other) (dotted_injective same)
    rw [maskOf_injective oneSmall otherSmall words]

/-! ## The netmask of the kernel -/

/-- The four bytes of an address in a reply. -/
def quadOf (ifru : Memory) : List Nat :=
  [(saData ifru 2).toNat, (saData ifru 3).toNat, (saData ifru 4).toNat, (saData ifru 5).toNat]

theorem formatIpaddr_eq (ifru : Memory) : formatIpaddr ifru = dotted (quadOf ifru) := by
  simp only [formatIpaddr, quadOf, dotted, String.append_assoc]

theorem quadOf_bigEndian (ifru : Memory) :
    ofBigEndian (quadOf ifru) < 2 ^ 32 ∧ bigEndian (ofBigEndian (quadOf ifru)) = quadOf ifru :=
  ⟨ofBigEndian_lt (UInt8.toNat_lt _) (UInt8.toNat_lt _) (UInt8.toNat_lt _) (UInt8.toNat_lt _),
    bigEndian_ofBigEndian (UInt8.toNat_lt _) (UInt8.toNat_lt _) (UInt8.toNat_lt _)
      (UInt8.toNat_lt _)⟩

/-- What `get_netmask` asks the kernel. -/
def netmaskRequest (devname : CString) : IoctlRequest where
  code := .siocgifnetmask
  ifrName := ifrName devname
  data := noData

theorem getNetmask_returns {host : Host} {devname : CString} (opens : 0 ≤ host.socket)
    (answers : 0 ≤ (host.ioctl (netmaskRequest devname)).result) :
    (getNetmask host devname).value =
      some (.value (.str (formatIpaddr (host.ioctl (netmaskRequest devname)).ifru))) := by
  rw [getNetmask, ifreqCall, if_neg (Int.not_lt.mpr opens)]
  change (if (host.ioctl (netmaskRequest devname)).result < 0 then _ else _ : CallResult).value = _
  rw [if_neg (Int.not_lt.mpr answers)]
  rfl

/-- The text of `get_netmask` is the netmask that `pifconfig` prints for a
prefix exactly if the kernel holds the mask of this prefix. -/
theorem getNetmask_agrees (host : Host) (devname : CString) (bits : Int) (text : String)
    (opens : 0 ≤ host.socket)
    (answers : 0 ≤ (host.ioctl (netmaskRequest devname)).result)
    (made : bits2netmask bits = .ok text) :
    (getNetmask host devname).value = some (.value (.str text)) ↔
      forall index : Nat, index < 32 ->
        ((ofBigEndian (quadOf (host.ioctl (netmaskRequest devname)).ifru)).testBit index = true ↔
          32 - bits ≤ (index : Int)) := by
  rcases bits2netmask_ok_iff.mp made with ⟨length, rfl, small, rfl⟩
  have kernel := quadOf_bigEndian (host.ioctl (netmaskRequest devname)).ifru
  rw [getNetmask_returns opens answers, formatIpaddr_eq]
  simp only [Option.some.injEq, PyObject.value.injEq, PyValue.str.injEq]
  rw [dotted_injective.eq_iff]
  constructor
  · intro same index inside
    rw [same, ofBigEndian_bigEndian (maskOf_lt length), testBit_maskOf small]
    omega
  · intro bits
    have word : ofBigEndian (quadOf (host.ioctl (netmaskRequest devname)).ifru) =
        maskOf length := by
      apply Nat.eq_of_testBit_eq
      intro index
      rw [Bool.eq_iff_iff, testBit_maskOf small]
      by_cases inside : index < 32
      · rw [bits index inside]
        omega
      · have wide : 2 ^ 32 ≤ 2 ^ index := Nat.pow_le_pow_right (by decide) (by omega)
        rw [Nat.testBit_lt_two_pow (lt_of_lt_of_le kernel.1 wide)]
        exact iff_of_false (by decide) (fun within => inside within.2)
    rw [← kernel.2, word]

/-- A kernel with the mask of 20 bits. -/
theorem getNetmask_agrees_twenty :
    (getNetmask { acceptingHost [em1] with
        answer := fun _ request =>
          { result := 0
            errno := 0
            ifru := fun index => [0, 0, 0, 0, 255, 255, 240, 0].getD index 0
            data := request.data } } em1.name).value = some (.value (.str "255.255.240.0")) := by
  refine (getNetmask_agrees _ em1.name 20 "255.255.240.0" (by decide) (by decide)
    (by decide)).mpr ?_
  have word : ofBigEndian (quadOf
      (fun index => ([0, 0, 0, 0, 255, 255, 240, 0] : List UInt8).getD index 0)) =
        maskOf 20 := by decide
  intro index inside
  change (ofBigEndian (quadOf
    (fun index => ([0, 0, 0, 0, 255, 255, 240, 0] : List UInt8).getD index 0))).testBit index =
      true ↔ _
  rw [word, testBit_maskOf (by decide)]
  omega

example : bits2netmask 33 =
    .error (.struct "'L' format requires 0 <= number <= 4294967295") := by decide

end Pifconfig
end PythonEthtool
