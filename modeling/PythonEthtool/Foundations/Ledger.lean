import Mathlib

namespace PythonEthtool
namespace Foundations

/-!
# A ledger of resources

A function that acquires and releases resources leaves a list of movements
behind.  The movements are settled one after the other against the resources
that are outstanding; releasing what is not outstanding is an error.  A
function is balanced if it settles to nothing from nothing.  It then settles
from any ledger to the same ledger, whatever others still hold.  A function
that does not come to its end is covered if it settles so far.
-/

variable {Resource : Type} [DecidableEq Resource]

inductive Movement (Resource : Type) where
  | acquired (resource : Resource)
  | released (resource : Resource)

def Movement.settle (outstanding : Multiset Resource) :
    Movement Resource -> Option (Multiset Resource)
  | .acquired resource => some (resource ::ₘ outstanding)
  | .released resource =>
      if resource ∈ outstanding then some (outstanding.erase resource) else none

/-- What is outstanding after the movements. -/
def settle (outstanding : Multiset Resource) :
    List (Movement Resource) -> Option (Multiset Resource)
  | [] => some outstanding
  | movement :: movements =>
      (movement.settle outstanding).bind (fun after => settle after movements)

/-- Everything acquired is released, and nothing else. -/
def Balanced (movements : List (Movement Resource)) : Prop :=
  settle 0 movements = some 0

/-- Nothing is released that has not been acquired. -/
def Covered (movements : List (Movement Resource)) : Prop :=
  (settle 0 movements).isSome

theorem settle_append (outstanding : Multiset Resource)
    (first second : List (Movement Resource)) :
    settle outstanding (first ++ second) =
      (settle outstanding first).bind (fun after => settle after second) := by
  induction first generalizing outstanding with
  | nil => rfl
  | cons movement movements ih =>
      rw [List.cons_append, settle, settle]
      cases movement.settle outstanding with
      | none => rfl
      | some after => exact ih after

theorem Movement.settle_add {movement : Movement Resource} {outstanding after : Multiset Resource}
    (settled : movement.settle outstanding = some after) (others : Multiset Resource) :
    movement.settle (outstanding + others) = some (after + others) := by
  cases movement with
  | acquired resource =>
      cases settled
      rw [Movement.settle, Multiset.cons_add]
  | released resource =>
      rw [Movement.settle] at settled ⊢
      split at settled
      · rename_i held
        cases settled
        rw [if_pos (Multiset.mem_add.mpr (Or.inl held)), Multiset.erase_add_left_pos others held]
      · cases settled

/-- Movements that can be settled can be settled beside any others. -/
theorem settle_add {movements : List (Movement Resource)} {outstanding after : Multiset Resource}
    (settled : settle outstanding movements = some after) (others : Multiset Resource) :
    settle (outstanding + others) movements = some (after + others) := by
  induction movements generalizing outstanding with
  | nil =>
      cases settled
      rfl
  | cons movement movements ih =>
      rw [settle] at settled ⊢
      rcases Option.bind_eq_some_iff.mp settled with ⟨next, first, rest⟩
      rw [Movement.settle_add first others]
      exact ih rest

/-- A balanced function leaves the ledger as it was. -/
theorem Balanced.settle {movements : List (Movement Resource)} (balanced : Balanced movements)
    (outstanding : Multiset Resource) :
    Foundations.settle outstanding movements = some outstanding := by
  have beside := settle_add balanced outstanding
  rw [zero_add] at beside
  exact beside

/-- Acquiring is always possible. -/
theorem settle_acquired (outstanding : Multiset Resource) (resources : List Resource) :
    settle outstanding (resources.map Movement.acquired) =
      some (outstanding + (resources : Multiset Resource)) := by
  induction resources generalizing outstanding with
  | nil => exact congrArg some (add_zero outstanding).symm
  | cons resource rest ih =>
      rw [List.map_cons, settle, Movement.settle, Option.bind_some, ih, ← Multiset.cons_coe,
        Multiset.add_cons, Multiset.cons_add]

/-- What is held can be released. -/
theorem settle_released (others : Multiset Resource) (resources : List Resource) :
    settle (others + (resources : Multiset Resource)) (resources.map Movement.released) =
      some others := by
  induction resources with
  | nil => exact congrArg some (add_zero others)
  | cons resource rest ih =>
      have held : resource ∈ others + ((resource :: rest : List Resource) : Multiset Resource) := by
        simp
      rw [List.map_cons, settle, Movement.settle, if_pos held, Option.bind_some,
        ← Multiset.cons_coe, Multiset.add_cons, Multiset.erase_cons_head, ih]

/-- After a balanced part only the rest matters. -/
theorem balanced_append_iff {first second : List (Movement Resource)} (balanced : Balanced first) :
    Balanced (first ++ second) ↔ Balanced second := by
  rw [Balanced, settle_append, balanced.settle]
  rfl

theorem covered_append_iff {first second : List (Movement Resource)} (balanced : Balanced first) :
    Covered (first ++ second) ↔ Covered second := by
  rw [Covered, settle_append, balanced.settle]
  rfl

theorem balanced_nil : Balanced ([] : List (Movement Resource)) :=
  rfl

/-- A resource that is held during a balanced part. -/
theorem Balanced.held {movements : List (Movement Resource)} (balanced : Balanced movements)
    (resource : Resource) :
    Balanced (.acquired resource :: (movements ++ [.released resource])) := by
  change Foundations.settle {resource} (movements ++ [.released resource]) = some 0
  rw [settle_append, balanced.settle]
  simp [Foundations.settle, Movement.settle]

/-- A resource that is never released. -/
theorem not_balanced_acquired (resource : Resource) :
    ¬ Balanced [Movement.acquired resource] := by
  simp [Balanced, settle, Movement.settle]

theorem covered_acquired (resources : List Resource) :
    Covered (resources.map Movement.acquired) := by
  rw [Covered, settle_acquired]
  rfl

/-- A release of what was not acquired. -/
theorem not_covered_released (resource : Resource) :
    ¬ Covered [Movement.released resource] := by
  simp [Covered, settle, Movement.settle]

end Foundations
end PythonEthtool
