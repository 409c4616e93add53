import Mathlib

namespace PythonEthtool
namespace Foundations

/-!
# The bits of an integer

Integers of any size in two's complement: a mask with a single bit tests
that bit, and the bits below a power of two are those of the residue.
-/

theorem and_two_pow_eq_zero_iff {number index : Nat} :
    number &&& 2 ^ index = 0 ↔ number.testBit index = false := by
  rw [Nat.and_two_pow]
  cases number.testBit index with
  | false => simp
  | true => simp

theorem ldiff_two_pow_eq_zero_iff {number index : Nat} :
    Nat.ldiff (2 ^ index) number = 0 ↔ number.testBit index = true := by
  constructor
  · intro zero
    have bit := congrArg (fun value => Nat.testBit value index) zero
    simpa [Nat.testBit_ldiff] using bit
  · intro set
    apply Nat.eq_of_testBit_eq
    intro position
    rw [Nat.testBit_ldiff, Nat.zero_testBit, Nat.testBit_two_pow]
    by_cases same : index = position
    · subst same
      simp [set]
    · simp [same]

/-- Masking with a single bit tests it. -/
theorem land_two_pow_ne_zero_iff {number : Int} {index : Nat} :
    Int.land number (2 ^ index : Nat) ≠ 0 ↔ number.testBit index = true := by
  cases number with
  | ofNat number =>
      change ((number &&& 2 ^ index : Nat) : Int) ≠ 0 ↔ number.testBit index = true
      rw [Ne, Int.natCast_eq_zero, and_two_pow_eq_zero_iff, Bool.not_eq_false]
  | negSucc number =>
      change ((Nat.ldiff (2 ^ index) number : Nat) : Int) ≠ 0 ↔ (!number.testBit index) = true
      rw [Ne, Int.natCast_eq_zero, ldiff_two_pow_eq_zero_iff, Bool.not_eq_true,
        Bool.not_eq_true']

/-- The residue modulo a power of two, as a natural number. -/
def lowBits (width : Nat) (number : Int) : Nat :=
  (number % (2 ^ width : Nat)).toNat

theorem lowBits_lt (width : Nat) (number : Int) : lowBits width number < 2 ^ width := by
  have positive : 0 < 2 ^ width := Nat.two_pow_pos width
  have upper := Int.emod_lt_of_pos number (Int.natCast_pos.mpr positive)
  have lower := Int.emod_nonneg number (Int.natCast_ne_zero.mpr positive.ne')
  rw [lowBits]
  omega

theorem lowBits_negSucc (width number : Nat) :
    lowBits width (Int.negSucc number) = 2 ^ width - (number % 2 ^ width + 1) := by
  have positive : 0 < 2 ^ width := Nat.two_pow_pos width
  have upper := Nat.mod_lt number positive
  rw [lowBits, Int.negSucc_emod number (Int.natCast_pos.mpr positive)]
  omega

theorem testBit_lowBits {width index : Nat} (inside : index < width) (number : Int) :
    (lowBits width number).testBit index = number.testBit index := by
  cases number with
  | ofNat number =>
      change ((number : Int) % (2 ^ width : Nat)).toNat.testBit index = number.testBit index
      rw [← Int.natCast_mod, Int.toNat_natCast, Nat.testBit_mod_two_pow]
      simp [inside]
  | negSucc number =>
      have upper := Nat.mod_lt number (Nat.two_pow_pos width)
      rw [lowBits_negSucc, Nat.testBit_two_pow_sub_succ upper, Nat.testBit_mod_two_pow]
      simp [inside, Int.testBit]

/-- Integers agree on their low bits exactly if they have the same residue. -/
theorem testBit_eq_iff_modEq {width : Nat} {first second : Int} :
    (forall index, index < width -> first.testBit index = second.testBit index) ↔
      first ≡ second [ZMOD (2 ^ width : Nat)] := by
  constructor
  · intro agree
    have same : lowBits width first = lowBits width second := by
      apply Nat.eq_of_testBit_eq
      intro index
      by_cases inside : index < width
      · rw [testBit_lowBits inside, testBit_lowBits inside, agree index inside]
      · have wide : 2 ^ width ≤ 2 ^ index := Nat.pow_le_pow_right (by decide) (by omega)
        rw [Nat.testBit_lt_two_pow (lt_of_lt_of_le (lowBits_lt width first) wide),
          Nat.testBit_lt_two_pow (lt_of_lt_of_le (lowBits_lt width second) wide)]
    have nonzero : ((2 ^ width : Nat) : Int) ≠ 0 :=
      Int.natCast_ne_zero.mpr (Nat.two_pow_pos width).ne'
    have firstNonneg := Int.emod_nonneg first nonzero
    have secondNonneg := Int.emod_nonneg second nonzero
    rw [lowBits, lowBits] at same
    rw [Int.ModEq]
    omega
  · intro equal index inside
    have same : lowBits width first = lowBits width second := congrArg Int.toNat equal
    rw [← testBit_lowBits inside first, same, testBit_lowBits inside]

/-- A narrow mask sees the low bits alone. -/
theorem land_natCast {width mask : Nat} (narrow : mask < 2 ^ width) (number : Int) :
    Int.land number mask = ((lowBits width number &&& mask : Nat) : Int) := by
  have clear : forall index, ¬ index < width -> mask.testBit index = false :=
    fun index outside => Nat.testBit_lt_two_pow (lt_of_lt_of_le narrow
      (Nat.pow_le_pow_right Nat.two_pos (Nat.not_lt.mp outside)))
  have bits : forall index, (lowBits width number &&& mask).testBit index =
      (number.testBit index && mask.testBit index) := by
    intro index
    rw [Nat.testBit_and]
    by_cases inside : index < width
    · rw [testBit_lowBits inside]
    · rw [clear index inside, Bool.and_false, Bool.and_false]
  cases number with
  | ofNat number =>
      change ((number &&& mask : Nat) : Int) = _
      congr 1
      apply Nat.eq_of_testBit_eq
      intro index
      rw [bits, Nat.testBit_and]
      rfl
  | negSucc number =>
      change ((Nat.ldiff mask number : Nat) : Int) = _
      congr 1
      apply Nat.eq_of_testBit_eq
      intro index
      rw [bits, Nat.testBit_ldiff, Bool.and_comm]
      rfl

/-- Integers of one residue look the same through a narrow mask. -/
theorem land_eq_of_modEq {width mask : Nat} {first second : Int} (narrow : mask < 2 ^ width)
    (same : first ≡ second [ZMOD (2 ^ width : Nat)]) :
    Int.land first mask = Int.land second mask := by
  have low : lowBits width first = lowBits width second := congrArg Int.toNat same
  rw [land_natCast narrow, land_natCast narrow, low]

end Foundations
end PythonEthtool
