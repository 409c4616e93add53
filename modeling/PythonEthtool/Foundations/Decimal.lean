import PythonEthtool.Foundations.Words

namespace PythonEthtool
namespace Foundations

/-!
# Decimal numbers in a text

A number is written with its decimal digits.  Numbers that are separated by
dots are found again, since no digit is a dot, and four of them below 256
are the bytes of a 32-bit number.
-/

def isDot (char : Char) : Bool :=
  char = '.'

theorem digits_isWord (number : Nat) {separates : Char -> Bool}
    (plain : forall char, char.isDigit = true -> separates char = false) :
    IsWord separates (Nat.toDigits 10 number) := by
  refine ⟨Nat.toDigits_ne_nil, ?_⟩
  intro char member
  exact plain char (Nat.isDigit_of_mem_toDigits (by decide) (by decide) member)

theorem not_isDot_of_isDigit (char : Char) (digit : char.isDigit = true) :
    isDot char = false := by
  apply decide_eq_false
  rintro rfl
  cases digit

/-! ## Numbers between dots -/

def dotted : List Nat -> String
  | [] => ""
  | [number] => toString number
  | number :: numbers => toString number ++ "." ++ dotted numbers

/-- The numbers of a text, wherever there are digits between dots. -/
def dottedNumbers (text : String) : List Nat :=
  (wordsOf isDot text.toList).map (fun word => Nat.ofDigitChars 10 word 0)

theorem toList_toString (number : Nat) : (toString number).toList = Nat.toDigits 10 number := by
  rw [Nat.toString_eq_ofList_toDigits, String.toList_ofList]

theorem wordsOf_dotted (numbers : List Nat) :
    wordsOf isDot (dotted numbers).toList = numbers.map (Nat.toDigits 10) := by
  fun_induction dotted numbers with
  | case1 => rfl
  | case2 number =>
      rw [toList_toString, wordsOf_word (digits_isWord number not_isDot_of_isDigit)]
      rfl
  | case3 number numbers _ ih =>
      have parts : (toString number ++ "." ++ dotted numbers).toList =
          Nat.toDigits 10 number ++ '.' :: (dotted numbers).toList := by
        rw [String.toList_append, String.toList_append, toList_toString, List.append_assoc]
        rfl
      rw [parts, wordsOf_append_cons _ _ (by decide),
        wordsOf_word (digits_isWord number not_isDot_of_isDigit), ih]
      rfl

/-- The numbers are read back. -/
theorem dottedNumbers_dotted (numbers : List Nat) : dottedNumbers (dotted numbers) = numbers := by
  rw [dottedNumbers, wordsOf_dotted, List.map_map]
  have back : (fun word => Nat.ofDigitChars 10 word 0) ∘ Nat.toDigits 10 = id := by
    funext number
    exact Nat.ofDigitChars_ten_toDigits
  rw [back, List.map_id]

theorem dotted_injective : Function.Injective dotted :=
  Function.LeftInverse.injective dottedNumbers_dotted

/-! ## Four bytes -/

/-- The bytes of a 32-bit number, the highest first. -/
def bigEndian (number : Nat) : List Nat :=
  [number / 2 ^ 24 % 256, number / 2 ^ 16 % 256, number / 2 ^ 8 % 256, number % 256]

def ofBigEndian (bytes : List Nat) : Nat :=
  bytes.foldl (fun number byte => 256 * number + byte) 0

theorem ofBigEndian_bigEndian {number : Nat} (fits : number < 2 ^ 32) :
    ofBigEndian (bigEndian number) = number := by
  simp only [ofBigEndian, bigEndian, List.foldl_cons, List.foldl_nil]
  omega

theorem ofBigEndian_lt {first second third fourth : Nat} (firstByte : first < 256)
    (secondByte : second < 256) (thirdByte : third < 256) (fourthByte : fourth < 256) :
    ofBigEndian [first, second, third, fourth] < 2 ^ 32 := by
  simp only [ofBigEndian, List.foldl_cons, List.foldl_nil]
  omega

theorem bigEndian_ofBigEndian {first second third fourth : Nat} (firstByte : first < 256)
    (secondByte : second < 256) (thirdByte : third < 256) (fourthByte : fourth < 256) :
    bigEndian (ofBigEndian [first, second, third, fourth]) = [first, second, third, fourth] := by
  simp only [ofBigEndian, bigEndian, List.foldl_cons, List.foldl_nil, List.cons.injEq, and_true]
  omega

theorem bigEndian_injective {first second : Nat} (firstFits : first < 2 ^ 32)
    (secondFits : second < 2 ^ 32) (same : bigEndian first = bigEndian second) :
    first = second := by
  rw [← ofBigEndian_bigEndian firstFits, same, ofBigEndian_bigEndian secondFits]

end Foundations
end PythonEthtool
