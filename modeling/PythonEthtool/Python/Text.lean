import PythonEthtool.Foundations.Words

namespace PythonEthtool
namespace Python

open Foundations

/-!
# Strings of the interpreter

`str.lower`, `str.strip`, `str.split` and `int` as far as the scripts use
them.  A string is a sequence of Unicode characters; none of them looks at
its encoding.
-/

/-! ## Lower case

Two characters outside ASCII have ASCII characters in their lower case, the
Kelvin sign and the dotted capital I.  The other letters outside ASCII keep
their case here: in either case they occur in no name and no number. -/

def lowerChar (char : Char) : List Char :=
  if char = Char.ofNat 0x212a then ['k']
  else if char = Char.ofNat 0x130 then ['i', Char.ofNat 0x307]
  else if 65 ≤ char.toNat ∧ char.toNat ≤ 90 then [Char.ofNat (char.toNat + 32)]
  else [char]

def pyLower (text : String) : String :=
  String.ofList (text.toList.flatMap lowerChar)

/-! ## Integers

`int` first turns the string into ASCII, space for space and decimal digit
for decimal digit, and then reads an optional sign and digits, which single
underscores may separate, between spaces. -/

/-- The zeros of the decimal digits of Unicode; each is followed by its
nine others. -/
def decimalZeros : List Nat :=
  [0x30, 0x660, 0x6f0, 0x7c0, 0x966, 0x9e6, 0xa66, 0xae6, 0xb66, 0xbe6, 0xc66, 0xce6, 0xd66,
    0xde6, 0xe50, 0xed0, 0xf20, 0x1040, 0x1090, 0x17e0, 0x1810, 0x1946, 0x19d0, 0x1a80, 0x1a90,
    0x1b50, 0x1bb0, 0x1c40, 0x1c50, 0xa620, 0xa8d0, 0xa900, 0xa9d0, 0xa9f0, 0xaa50, 0xabf0,
    0xff10, 0x104a0, 0x10d30, 0x11066, 0x110f0, 0x11136, 0x111d0, 0x112f0, 0x11450, 0x114d0,
    0x11650, 0x116c0, 0x11730, 0x118e0, 0x11950, 0x11c50, 0x11d50, 0x11da0, 0x16a60, 0x16ac0,
    0x16b50, 0x1d7ce, 0x1d7d8, 0x1d7e2, 0x1d7ec, 0x1d7f6, 0x1e140, 0x1e2f0, 0x1e950, 0x1fbf0]

def toDecimal (char : Char) : Option Nat :=
  (decimalZeros.find? (fun first => first ≤ char.toNat ∧ char.toNat < first + 10)).map
    (fun first => char.toNat - first)

/-- The spaces of Unicode outside ASCII. -/
def isWideSpace (char : Char) : Bool :=
  char.toNat ∈ [0x85, 0xa0, 0x1680, 0x2028, 0x2029, 0x202f, 0x205f, 0x3000] ∨
    (0x2000 ≤ char.toNat ∧ char.toNat ≤ 0x200a)

def isSpace (char : Char) : Bool :=
  char.toNat = 32 ∨ (9 ≤ char.toNat ∧ char.toNat ≤ 13)

def asciiForm (char : Char) : Char :=
  if char.toNat < 127 then char
  else if isWideSpace char then ' '
  else
    match toDecimal char with
    | some digit => Char.ofNat (48 + digit)
    | none => '?'

def asciiDigit (char : Char) : Option Nat :=
  if 48 ≤ char.toNat ∧ char.toNat ≤ 57 then some (char.toNat - 48) else none

/-- The digits after the first one. -/
def moreDigits (value : Nat) : List Char -> Option Nat
  | [] => some value
  | ['_'] => none
  | '_' :: char :: rest =>
      match asciiDigit char with
      | some digit => moreDigits (10 * value + digit) rest
      | none => none
  | char :: rest =>
      match asciiDigit char with
      | some digit => moreDigits (10 * value + digit) rest
      | none => none

def digits : List Char -> Option Nat
  | [] => none
  | char :: rest =>
      match asciiDigit char with
      | some digit => moreDigits digit rest
      | none => none

def signedDigits : List Char -> Option Int
  | '+' :: rest => (digits rest).map (fun value : Nat => (value : Int))
  | '-' :: rest => (digits rest).map (fun value : Nat => -(value : Int))
  | rest => (digits rest).map (fun value : Nat => (value : Int))

/-- The call `int(text)`, which raises `ValueError` for `none`.  An interpreter
that is set to a highest number of digits raises it for longer texts as well;
here there is no such limit. -/
def pyInt (text : String) : Option Int :=
  signedDigits (((text.toList.map asciiForm).dropWhile isSpace).rdropWhile isSpace)

/-! ## White space -/

/-- The characters for which `str.isspace` is true. -/
def isStrSpace (char : Char) : Bool :=
  isSpace char ∨ isWideSpace char ∨ (0x1c ≤ char.toNat ∧ char.toNat ≤ 0x1f)

/-- The call `text.strip()`. -/
def pyStrip (text : String) : String :=
  String.ofList (stripped isStrSpace text.toList)

/-- The call `text.split()`. -/
def pySplit (text : String) : List String :=
  (wordsOf isStrSpace text.toList).map String.ofList

theorem pySplit_pyStrip (text : String) : pySplit (pyStrip text) = pySplit text := by
  rw [pySplit, pyStrip, String.toList_ofList, wordsOf_stripped]
  rfl

/-! ## Decimal numerals -/

/-- A character from `0` to `9`. -/
def IsNumeral (char : Char) : Prop :=
  48 ≤ char.toNat ∧ char.toNat ≤ 57

instance (char : Char) : Decidable (IsNumeral char) :=
  inferInstanceAs (Decidable (48 ≤ char.toNat ∧ char.toNat ≤ 57))

def numeralValue (value : Nat) (chars : List Char) : Nat :=
  chars.foldl (fun value char => 10 * value + (char.toNat - 48)) value

section Numerals

variable {char : Char}

theorem asciiDigit_numeral (numeral : IsNumeral char) :
    asciiDigit char = some (char.toNat - 48) :=
  if_pos numeral

theorem asciiForm_numeral (numeral : IsNumeral char) : asciiForm char = char := by
  apply if_pos
  have upper := numeral.2
  omega

theorem not_isSpace_numeral (numeral : IsNumeral char) : isSpace char = false := by
  rcases numeral with ⟨lower, upper⟩
  simp only [isSpace, decide_eq_false_iff_not]
  omega

theorem numeral_ne {other : Char} (numeral : IsNumeral char) (outside : ¬ IsNumeral other) :
    char ≠ other := by
  rintro rfl
  exact outside numeral

theorem lowerChar_numeral (numeral : IsNumeral char) : lowerChar char = [char] := by
  have notKelvin := numeral_ne numeral (by decide : ¬ IsNumeral (Char.ofNat 0x212a))
  have notDotted := numeral_ne numeral (by decide : ¬ IsNumeral (Char.ofNat 0x130))
  have notUpper : ¬ (65 ≤ char.toNat ∧ char.toNat ≤ 90) := by
    have upper := numeral.2
    omega
  rw [lowerChar, if_neg notKelvin, if_neg notDotted, if_neg notUpper]

theorem moreDigits_numerals {chars : List Char}
    (numerals : forall char, char ∈ chars -> IsNumeral char) (value : Nat) :
    moreDigits value chars = some (numeralValue value chars) := by
  induction chars generalizing value with
  | nil => rfl
  | cons char rest ih =>
      have numeral := numerals char List.mem_cons_self
      have notSeparator : char ≠ '_' := numeral_ne numeral (by decide)
      have step : moreDigits value (char :: rest) =
          moreDigits (10 * value + (char.toNat - 48)) rest := by
        rw [moreDigits, asciiDigit_numeral numeral]
        · intro same
          exact absurd same notSeparator
        · intro _ _ same
          exact absurd same notSeparator
      rw [step]
      apply ih
      intro later member
      exact numerals later (List.mem_cons_of_mem char member)

end Numerals

example : pyInt " +1_024" = some 1024 := by decide

end Python
end PythonEthtool
