import Mathlib

namespace PythonEthtool
namespace Foundations

/-!
# Formatted input

`sscanf` goes through its format and stops where the text does not match.
What it stores is a list of words, and it may be shorter than the format has
conversions: only its length, which is the result of the call, tells how many
of the arguments were written.

A conversion with a width stops in the middle of a longer word, and the next
directive sees the rest of it.  `scan_unlimited` says that widths do not
matter as long as no word is longer.
-/

/-- A directive of a format: white space, the conversions `%*d` and `%*s`,
which store nothing, and `%s` with or without a width. -/
inductive Directive where
  | space
  | skipInt
  | skipWord
  | word (width : Option Nat)
  deriving DecidableEq

/-- `isspace` of the C locale. -/
def isSpace (byte : UInt8) : Bool :=
  byte = 32 ∨ (9 ≤ byte ∧ byte ≤ 13)

def isDigit (byte : UInt8) : Bool :=
  48 ≤ byte ∧ byte ≤ 57

def skipSpace (text : List UInt8) : List UInt8 :=
  text.dropWhile isSpace

def skipSign : List UInt8 -> List UInt8
  | [] => []
  | byte :: text => if byte = 43 ∨ byte = 45 then text else byte :: text

/-- The text behind a decimal integer, if it begins with one. -/
def skipDigits (text : List UInt8) : Option (List UInt8) :=
  if (text.takeWhile isDigit).isEmpty then none else some (text.dropWhile isDigit)

/-- The word that the text begins with, at most `width` bytes of it. -/
def takeWord (width : Option Nat) (text : List UInt8) : List UInt8 :=
  let word := text.takeWhile (fun byte => !isSpace byte)
  match width with
  | none => word
  | some width => word.take width

/-- The words that are stored. -/
def scan : List Directive -> List UInt8 -> List (List UInt8)
  | [], _ => []
  | .space :: format, text => scan format (skipSpace text)
  | .skipInt :: format, text =>
      match skipDigits (skipSign (skipSpace text)) with
      | none => []
      | some after => scan format after
  | .skipWord :: format, text =>
      let word := takeWord none (skipSpace text)
      if word.isEmpty then [] else scan format ((skipSpace text).drop word.length)
  | .word width :: format, text =>
      let word := takeWord width (skipSpace text)
      if word.isEmpty then [] else word :: scan format ((skipSpace text).drop word.length)

section Directives

variable {format : List Directive} {text : List UInt8}

theorem scan_space_cons : scan (.space :: format) text = scan format (skipSpace text) := rfl

theorem scan_skipInt_cons : scan (.skipInt :: format) text =
    match skipDigits (skipSign (skipSpace text)) with
    | none => []
    | some after => scan format after := rfl

theorem scan_skipWord_cons : scan (.skipWord :: format) text =
    if (takeWord none (skipSpace text)).isEmpty then []
    else scan format ((skipSpace text).drop (takeWord none (skipSpace text)).length) := rfl

theorem scan_word_cons {width : Option Nat} : scan (.word width :: format) text =
    if (takeWord width (skipSpace text)).isEmpty then []
    else takeWord width (skipSpace text) ::
      scan format ((skipSpace text).drop (takeWord width (skipSpace text)).length) := rfl

end Directives

/-- The directive without its width. -/
def Directive.unlimited : Directive -> Directive
  | .word _ => .word none
  | directive => directive

/-- Whether the directive takes a word of this length as a whole. -/
def Directive.Holds (length : Nat) : Directive -> Prop
  | .word (some width) => length ≤ width
  | _ => True

section Words

variable {width : Option Nat} {format : List Directive} {text : List UInt8}

theorem skipSign_sublist : List.Sublist (skipSign text) text := by
  cases text with
  | nil => exact List.Sublist.refl []
  | cons byte text =>
      rw [skipSign]
      split
      · exact List.sublist_cons_self byte text
      · exact List.Sublist.refl _

theorem skipDigits_sublist {after : List UInt8} (behind : skipDigits text = some after) :
    List.Sublist after text := by
  rw [skipDigits] at behind
  split at behind
  · cases behind
  · cases behind
    exact List.dropWhile_sublist _

theorem takeWord_sublist : List.Sublist (takeWord width text) text := by
  cases width with
  | none => exact List.takeWhile_sublist _
  | some width => exact (List.take_sublist _ _).trans (List.takeWhile_sublist _)

theorem takeWord_of_holds
    (holds : (Directive.word width).Holds (takeWord none text).length) :
    takeWord width text = takeWord none text := by
  cases width with
  | none => rfl
  | some width => exact List.take_of_length_le holds

/-- A width that cuts a word off leaves as much as it allows. -/
theorem takeWord_isEmpty (positive : width ≠ some 0) :
    (takeWord width text).isEmpty = (takeWord none text).isEmpty := by
  cases width with
  | none => rfl
  | some width =>
      cases width with
      | zero => exact absurd rfl positive
      | succ width =>
          simp only [takeWord]
          cases text.takeWhile (fun byte => !isSpace byte) with
          | nil => rfl
          | cons byte word => rfl

/-- What is stored comes out of the text. -/
theorem mem_of_mem_scan {word : List UInt8} (stored : word ∈ scan format text) {byte : UInt8}
    (member : byte ∈ word) : byte ∈ text := by
  induction format generalizing text with
  | nil => cases stored
  | cons directive format ih =>
      have skipped : forall {byte}, byte ∈ skipSpace text -> byte ∈ text :=
        fun inside => (List.dropWhile_sublist _).subset inside
      cases directive with
      | space => exact skipped (ih stored)
      | skipInt =>
          rw [scan_skipInt_cons] at stored
          cases digits : skipDigits (skipSign (skipSpace text)) with
          | none =>
              rw [digits] at stored
              cases stored
          | some after =>
              rw [digits] at stored
              have behind := (skipDigits_sublist digits).subset (ih stored)
              exact skipped (skipSign_sublist.subset behind)
      | skipWord =>
          rw [scan_skipWord_cons] at stored
          split at stored
          · cases stored
          · exact skipped (List.mem_of_mem_drop (ih stored))
      | word width =>
          rw [scan_word_cons] at stored
          split at stored
          · cases stored
          · rcases List.mem_cons.mp stored with same | later
            · rw [same] at member
              exact skipped (takeWord_sublist.subset member)
            · exact skipped (List.mem_of_mem_drop (ih later))

/-- As long as each word is as short as the widths allow, the words are those
of the format without widths. -/
theorem scan_unlimited
    (holds : forall word, word ∈ scan (format.map Directive.unlimited) text ->
      forall directive, directive ∈ format -> directive.Holds word.length)
    (positive : Directive.word (some 0) ∉ format) :
    scan format text = scan (format.map Directive.unlimited) text := by
  induction format generalizing text with
  | nil => rfl
  | cons directive format ih =>
      have later : Directive.word (some 0) ∉ format :=
        fun member => positive (List.mem_cons_of_mem directive member)
      have next {after : List UInt8} (fewer : forall word,
          word ∈ scan (format.map Directive.unlimited) after ->
            word ∈ scan ((directive :: format).map Directive.unlimited) text) :
          scan format after = scan (format.map Directive.unlimited) after :=
        ih (fun word member other inside =>
          holds word (fewer word member) other (List.mem_cons_of_mem directive inside)) later
      rw [List.map_cons] at next ⊢
      cases directive with
      | space => exact next (fun _ member => member)
      | skipInt =>
          simp only [Directive.unlimited, scan_skipInt_cons] at next ⊢
          cases digits : skipDigits (skipSign (skipSpace text)) with
          | none => rfl
          | some after =>
              simp only [digits] at next ⊢
              exact next (fun _ member => member)
      | skipWord =>
          simp only [Directive.unlimited, scan_skipWord_cons] at next ⊢
          split
          · rfl
          · rename_i nonempty
            rw [if_neg nonempty] at next
            exact next (fun _ member => member)
      | word width =>
          have wide : width ≠ some 0 := by
            intro zero
            rw [zero] at positive
            exact positive List.mem_cons_self
          simp only [Directive.unlimited, scan_word_cons] at next ⊢
          rw [takeWord_isEmpty wide]
          by_cases empty : (takeWord none (skipSpace text)).isEmpty
          · rw [if_pos empty, if_pos empty]
          · have stored : takeWord none (skipSpace text) ∈
                scan ((Directive.word width :: format).map Directive.unlimited) text := by
              rw [List.map_cons, Directive.unlimited, scan_word_cons, if_neg empty]
              exact List.mem_cons_self
            have whole := takeWord_of_holds (holds _ stored _ List.mem_cons_self)
            rw [if_neg empty] at next
            rw [if_neg empty, if_neg empty, whole]
            exact congrArg _ (next (fun _ member => List.mem_cons_of_mem _ member))

end Words

/-! ## Text that matches -/

/-- A word as `%s` takes it: not empty, and without white space. -/
def IsToken (word : List UInt8) : Prop :=
  word ≠ [] ∧ forall byte, byte ∈ word -> isSpace byte = false

/-- Digits as `%d` takes them. -/
def IsNumber (digits : List UInt8) : Prop :=
  digits ≠ [] ∧ forall byte, byte ∈ digits -> isDigit byte = true

section Matching

variable {format : List Directive} {word digits : List UInt8} {separator : UInt8}

theorem isSpace_of_isDigit {byte : UInt8} (digit : isDigit byte = true) :
    isSpace byte = false := by
  simp only [isDigit, isSpace, decide_eq_true_eq, decide_eq_false_iff_not,
    UInt8.le_iff_toNat_le, ← UInt8.toNat_inj] at digit ⊢
  change 48 ≤ byte.toNat ∧ byte.toNat ≤ 57 at digit
  change ¬ (byte.toNat = 32 ∨ 9 ≤ byte.toNat ∧ byte.toNat ≤ 13)
  omega

theorem IsNumber.token (number : IsNumber digits) : IsToken digits :=
  ⟨number.1, fun byte member => isSpace_of_isDigit (number.2 byte member)⟩

theorem IsToken.skipSpace_append (token : IsToken word) (after : List UInt8) :
    skipSpace (word ++ after) = word ++ after := by
  cases word with
  | nil => exact absurd rfl token.1
  | cons byte word =>
      have first := token.2 byte List.mem_cons_self
      exact List.dropWhile_cons_of_neg (by simp [first])

theorem IsToken.takeWord_append (token : IsToken word) (stop : isSpace separator = true)
    (after : List UInt8) : takeWord none (word ++ separator :: after) = word := by
  have inside : forall byte, byte ∈ word -> (!isSpace byte) = true := by
    intro byte member
    rw [token.2 byte member]
    rfl
  rw [takeWord, List.takeWhile_append_of_pos inside,
    List.takeWhile_cons_of_neg (by simp [stop]), List.append_nil]

theorem IsToken.not_isEmpty (token : IsToken word) : ¬ word.isEmpty = true := by
  rw [List.isEmpty_iff]
  exact token.1

/-- White space in front of a word is skipped. -/
theorem scan_space (stop : isSpace separator = true) (token : IsToken word)
    (after : List UInt8) :
    scan (.space :: format) (separator :: (word ++ after)) = scan format (word ++ after) := by
  rw [scan_space_cons, skipSpace, List.dropWhile_cons_of_pos stop]
  exact congrArg (scan format) (token.skipSpace_append after)

theorem scan_skipWord (token : IsToken word) (stop : isSpace separator = true)
    (after : List UInt8) :
    scan (.skipWord :: format) (word ++ separator :: after) = scan format (separator :: after) := by
  rw [scan_skipWord_cons, token.skipSpace_append, token.takeWord_append stop,
    if_neg token.not_isEmpty, List.drop_left]

theorem scan_word (token : IsToken word) (stop : isSpace separator = true)
    (after : List UInt8) :
    scan (.word none :: format) (word ++ separator :: after) =
      word :: scan format (separator :: after) := by
  rw [scan_word_cons, token.skipSpace_append, token.takeWord_append stop, if_neg token.not_isEmpty,
    List.drop_left]

theorem IsNumber.skipSign_append (number : IsNumber digits) (after : List UInt8) :
    skipSign (digits ++ after) = digits ++ after := by
  cases digits with
  | nil => exact absurd rfl number.1
  | cons byte digits =>
      have first := number.2 byte List.mem_cons_self
      have unsigned : ¬ (byte = 43 ∨ byte = 45) := by
        rintro (rfl | rfl)
        · exact absurd first (by decide)
        · exact absurd first (by decide)
      exact if_neg unsigned

theorem scan_skipInt (number : IsNumber digits) (stop : isSpace separator = true)
    (after : List UInt8) :
    scan (.skipInt :: format) (digits ++ separator :: after) = scan format (separator :: after) := by
  have ends : ¬ isDigit separator = true := by
    intro digit
    rw [isSpace_of_isDigit digit] at stop
    cases stop
  have taken : (digits ++ separator :: after).takeWhile isDigit = digits := by
    rw [List.takeWhile_append_of_pos number.2, List.takeWhile_cons_of_neg ends, List.append_nil]
  have left : (digits ++ separator :: after).dropWhile isDigit = separator :: after := by
    rw [List.dropWhile_append_of_pos number.2, List.dropWhile_cons_of_neg ends]
  rw [scan_skipInt_cons, number.token.skipSpace_append, number.skipSign_append, skipDigits,
    taken, left, if_neg number.token.not_isEmpty]

end Matching

end Foundations
end PythonEthtool
