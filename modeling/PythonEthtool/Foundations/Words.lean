import Mathlib

namespace PythonEthtool
namespace Foundations

/-!
# The words of a text

A text is a list over any alphabet with a test for the symbols that separate
words.  Its words are the longest runs without separators.  Separators at
either end belong to no word, and words that are each followed by a
separator are found again.
-/

variable {Symbol : Type} {separates : Symbol -> Bool}

/-- The runs between separators that are not empty. -/
def wordsOf (separates : Symbol -> Bool) (text : List Symbol) : List (List Symbol) :=
  (text.splitOnP separates).filter (fun word => !word.isEmpty)

/-- The text without the separators at both ends. -/
def stripped (separates : Symbol -> Bool) (text : List Symbol) : List Symbol :=
  (text.dropWhile separates).rdropWhile separates

/-- A word: not empty, and without separators. -/
def IsWord (separates : Symbol -> Bool) (word : List Symbol) : Prop :=
  word ≠ [] ∧ forall symbol, symbol ∈ word -> separates symbol = false

theorem wordsOf_append_cons (before after : List Symbol) {symbol : Symbol}
    (separator : separates symbol = true) :
    wordsOf separates (before ++ symbol :: after) =
      wordsOf separates before ++ wordsOf separates after := by
  rw [wordsOf, List.splitOnP_append_cons before after separator, List.filter_append]
  rfl

theorem wordsOf_nil : wordsOf separates [] = [] :=
  rfl

theorem wordsOf_cons (text : List Symbol) {symbol : Symbol}
    (separator : separates symbol = true) :
    wordsOf separates (symbol :: text) = wordsOf separates text := by
  have split := wordsOf_append_cons [] text separator
  rw [wordsOf_nil, List.nil_append] at split
  exact split

theorem wordsOf_concat (text : List Symbol) {symbol : Symbol}
    (separator : separates symbol = true) :
    wordsOf separates (text ++ [symbol]) = wordsOf separates text := by
  rw [wordsOf_append_cons text [] separator, wordsOf_nil, List.append_nil]

theorem wordsOf_dropWhile (text : List Symbol) :
    wordsOf separates (text.dropWhile separates) = wordsOf separates text := by
  induction text with
  | nil => rfl
  | cons symbol text ih =>
      rw [List.dropWhile_cons]
      split
      · rename_i separator
        rw [ih, wordsOf_cons text separator]
      · rfl

theorem wordsOf_rdropWhile (text : List Symbol) :
    wordsOf separates (text.rdropWhile separates) = wordsOf separates text := by
  induction text using List.reverseRecOn with
  | nil => rfl
  | append_singleton text symbol ih =>
      by_cases separator : separates symbol = true
      · rw [List.rdropWhile_concat_pos separates text symbol separator, ih,
          wordsOf_concat text separator]
      · rw [List.rdropWhile_concat_neg separates text symbol separator]

/-- Stripping a text does not change its words. -/
theorem wordsOf_stripped (text : List Symbol) :
    wordsOf separates (stripped separates text) = wordsOf separates text := by
  rw [stripped, wordsOf_rdropWhile, wordsOf_dropWhile]

theorem wordsOf_word {word : List Symbol} (plain : IsWord separates word) :
    wordsOf separates word = [word] := by
  rcases plain with ⟨nonempty, symbols⟩
  rw [wordsOf, List.splitOnP_eq_singleton symbols]
  cases word with
  | nil => exact absurd rfl nonempty
  | cons symbol word => rfl

/-- Words that are each followed by a separator. -/
theorem wordsOf_flatMap {separator : Symbol} (separating : separates separator = true)
    {words : List (List Symbol)} (plain : forall word, word ∈ words -> IsWord separates word) :
    wordsOf separates (words.flatMap (fun word => word ++ [separator])) = words := by
  induction words with
  | nil => rfl
  | cons word words ih =>
      rw [List.flatMap_cons, List.append_assoc, List.singleton_append,
        wordsOf_append_cons word _ separating, wordsOf_word (plain word List.mem_cons_self),
        ih (fun later member => plain later (List.mem_cons_of_mem word member))]
      rfl

end Foundations
end PythonEthtool
