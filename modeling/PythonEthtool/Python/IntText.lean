import PythonEthtool.Foundations.Decimal
import PythonEthtool.Python.Text

namespace PythonEthtool
namespace Python

open Foundations

/-!
# Integers as text

The interpreter writes an integer with decimal digits, after a sign if it is
negative.  The text is a single word without letters, so neither splitting
at white space nor lowering changes it, and `int` reads the integer back.
-/

/-- What `%s` makes of an integer. -/
def intChars : Int -> List Char
  | .ofNat number => Nat.toDigits 10 number
  | .negSucc number => '-' :: Nat.toDigits 10 (number + 1)

theorem toList_toString_int (value : Int) : (toString value).toList = intChars value := by
  cases value with
  | ofNat number => exact toList_toString number
  | negSucc number =>
      have text : toString (Int.negSucc number) = "-" ++ toString (number + 1) := rfl
      rw [text, String.toList_append, toList_toString]
      rfl

theorem numeral_of_isDigit {char : Char} (digit : char.isDigit = true) : IsNumeral char := by
  rw [Char.isDigit, Bool.and_eq_true, decide_eq_true_eq, decide_eq_true_eq] at digit
  exact digit

theorem toDigits_numerals (number : Nat) :
    forall char, char ∈ Nat.toDigits 10 number -> IsNumeral char :=
  fun _ member => numeral_of_isDigit (Nat.isDigit_of_mem_toDigits (by decide) (by decide) member)

section Characters

variable {value : Int} {char : Char}

/-- The characters of the text. -/
theorem intChars_cases (member : char ∈ intChars value) : char = '-' ∨ IsNumeral char := by
  cases value with
  | ofNat number => exact Or.inr (toDigits_numerals number char member)
  | negSucc number =>
      rcases List.mem_cons.mp member with sign | digit
      · exact Or.inl sign
      · exact Or.inr (toDigits_numerals (number + 1) char digit)

theorem intChars_ne_nil (value : Int) : intChars value ≠ [] := by
  cases value with
  | ofNat number => exact Nat.toDigits_ne_nil
  | negSucc number => exact List.cons_ne_nil _ _

theorem isStrSpace_numeral (numeral : IsNumeral char) : isStrSpace char = false := by
  have wide : isWideSpace char = false := by
    rcases numeral with ⟨lower, upper⟩
    simp only [isWideSpace, decide_eq_false_iff_not, List.mem_cons, List.not_mem_nil, or_false]
    omega
  have control : ¬ (0x1c ≤ char.toNat ∧ char.toNat ≤ 0x1f) := by
    have lower := numeral.1
    omega
  rw [isStrSpace, not_isSpace_numeral numeral, wide]
  simpa using control

theorem intChars_isWord (value : Int) : IsWord isStrSpace (intChars value) := by
  refine ⟨intChars_ne_nil value, ?_⟩
  intro char member
  rcases intChars_cases member with rfl | numeral
  · decide
  · exact isStrSpace_numeral numeral

end Characters

/-- Lowering the text does not change it. -/
theorem pyLower_toString (value : Int) : pyLower (toString value) = toString value := by
  have unchanged : (intChars value).flatMap lowerChar =
      (intChars value).flatMap (fun char => [char]) := by
    apply List.flatMap_congr
    intro char member
    rcases intChars_cases member with rfl | numeral
    · decide
    · exact lowerChar_numeral numeral
  rw [pyLower, toList_toString_int, unchanged, List.flatMap_singleton', ← toList_toString_int,
    String.ofList_toList]

/-- Where there are only signs and digits, nothing is left out. -/
theorem pyInt_eq_signedDigits {chars : List Char}
    (plain : forall char, char ∈ chars -> char = '-' ∨ IsNumeral char) :
    pyInt (String.ofList chars) = signedDigits chars := by
  have notSpace : forall char, char ∈ chars -> ¬ isSpace char = true := by
    intro char member
    rcases plain char member with rfl | numeral
    · decide
    · rw [not_isSpace_numeral numeral]
      decide
  have ascii : chars.map asciiForm = chars := by
    have same : chars.map asciiForm = chars.map id := by
      apply List.map_congr_left
      intro char member
      rcases plain char member with rfl | numeral
      · decide
      · exact asciiForm_numeral numeral
    rw [same, List.map_id]
  have leading : chars.dropWhile isSpace = chars := by
    rw [List.dropWhile_eq_self_iff]
    intro nonempty
    exact notSpace _ (List.getElem_mem nonempty)
  have trailing : chars.rdropWhile isSpace = chars := by
    rw [List.rdropWhile_eq_self_iff]
    intro nonempty
    exact notSpace _ (List.getLast_mem nonempty)
  rw [pyInt, String.toList_ofList, ascii, leading, trailing]

theorem digits_toDigits (number : Nat) : digits (Nat.toDigits 10 number) = some number := by
  have numerals := toDigits_numerals number
  have value : numeralValue 0 (Nat.toDigits 10 number) = number :=
    Nat.ofDigitChars_ten_toDigits
  cases chars : Nat.toDigits 10 number with
  | nil => exact absurd chars Nat.toDigits_ne_nil
  | cons first rest =>
      rw [chars] at numerals value
      rw [digits, asciiDigit_numeral (numerals first List.mem_cons_self)]
      change moreDigits (first.toNat - 48) rest = some number
      rw [moreDigits_numerals (fun char member => numerals char (List.mem_cons_of_mem first member)),
        ← value]
      simp only [numeralValue, List.foldl_cons, Nat.mul_zero, Nat.zero_add]

theorem signedDigits_toDigits (number : Nat) :
    signedDigits (Nat.toDigits 10 number) = some (number : Int) := by
  have numerals := toDigits_numerals number
  have value := digits_toDigits number
  cases chars : Nat.toDigits 10 number with
  | nil => exact absurd chars Nat.toDigits_ne_nil
  | cons first rest =>
      rw [chars] at numerals value
      have numeral := numerals first List.mem_cons_self
      rw [signedDigits, value]
      · rfl
      · intro _ same
        exact absurd (List.cons.inj same).1 (numeral_ne numeral (by decide))
      · intro _ same
        exact absurd (List.cons.inj same).1 (numeral_ne numeral (by decide))

/-- The integer is read back. -/
theorem pyInt_toString (value : Int) : pyInt (toString value) = some value := by
  rw [← String.ofList_toList (s := toString value), toList_toString_int,
    pyInt_eq_signedDigits (fun _ => intChars_cases)]
  cases value with
  | ofNat number => exact signedDigits_toDigits number
  | negSucc number =>
      change (digits (Nat.toDigits 10 (number + 1))).map _ = _
      rw [digits_toDigits]
      rfl

example : pyInt (toString (-5 : Int)) = some (-5) := by decide

end Python
end PythonEthtool
