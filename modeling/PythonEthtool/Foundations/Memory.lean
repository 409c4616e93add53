import Mathlib

namespace PythonEthtool
namespace Foundations

/-!
# Byte memory and 32-bit words

A region of memory is a map from byte offsets to bytes.  A 32-bit word is
stored as four bytes, least significant first.  Reading a word back gives
the word, words that do not overlap do not disturb each other, and after a
store the four bytes of the word no longer depend on what was there before.
-/

/-- The bytes of a region, by offset from its start. -/
abbrev Memory :=
  Nat -> UInt8

/-- The offset lies in the four bytes of the word at `start`. -/
def InWord (start offset : Nat) : Prop :=
  start ≤ offset ∧ offset < start + 4

instance (start offset : Nat) : Decidable (InWord start offset) :=
  inferInstanceAs (Decidable (_ ∧ _))

/-- The words at two offsets share no byte. -/
def Disjoint32 (first second : Nat) : Prop :=
  first + 4 ≤ second ∨ second + 4 ≤ first

def load32 (memory : Memory) (start : Nat) : UInt32 :=
  UInt32.ofNat ((memory start).toNat + 256 * (memory (start + 1)).toNat +
    65536 * (memory (start + 2)).toNat + 16777216 * (memory (start + 3)).toNat)

def store32 (memory : Memory) (start : Nat) (word : UInt32) : Memory :=
  fun offset =>
    if InWord start offset then UInt8.ofNat (word.toNat / 256 ^ (offset - start))
    else memory offset

theorem store32_outside (memory : Memory) (start : Nat) (word : UInt32) {offset : Nat}
    (outside : ¬ InWord start offset) : store32 memory start word offset = memory offset :=
  if_neg outside

/-- The stored bytes are determined by the word alone. -/
theorem store32_inside (memory other : Memory) (start : Nat) (word : UInt32) {offset : Nat}
    (inside : InWord start offset) :
    store32 memory start word offset = store32 other start word offset := by
  simp only [store32, if_pos inside]

private theorem store32_byte (memory : Memory) (start index : Nat) (word : UInt32)
    (small : index < 4) :
    (store32 memory start word (start + index)).toNat = word.toNat / 256 ^ index % 256 := by
  have inside : InWord start (start + index) := ⟨by omega, by omega⟩
  simp only [store32, if_pos inside, Nat.add_sub_cancel_left, UInt8.toNat_ofNat']

theorem load32_store32 (memory : Memory) (start : Nat) (word : UInt32) :
    load32 (store32 memory start word) start = word := by
  have first := store32_byte memory start 0 word (by decide)
  have second := store32_byte memory start 1 word (by decide)
  have third := store32_byte memory start 2 word (by decide)
  have fourth := store32_byte memory start 3 word (by decide)
  have bound := UInt32.toNat_lt word
  rw [Nat.add_zero] at first
  rw [load32, first, second, third, fourth]
  apply UInt32.toNat_inj.mp
  rw [UInt32.toNat_ofNat']
  omega

/-- A load depends on the four bytes of its word only. -/
theorem load32_congr {memory other : Memory} {start : Nat}
    (agree : forall offset, InWord start offset -> memory offset = other offset) :
    load32 memory start = load32 other start := by
  simp only [load32]
  rw [agree start ⟨by omega, by omega⟩, agree (start + 1) ⟨by omega, by omega⟩,
    agree (start + 2) ⟨by omega, by omega⟩, agree (start + 3) ⟨by omega, by omega⟩]

theorem load32_store32_disjoint (memory : Memory) (word : UInt32) {read written : Nat}
    (disjoint : Disjoint32 read written) :
    load32 (store32 memory written word) read = load32 memory read := by
  apply load32_congr
  intro offset inside
  apply store32_outside
  simp only [InWord, Disjoint32] at inside disjoint ⊢
  omega

end Foundations
end PythonEthtool
