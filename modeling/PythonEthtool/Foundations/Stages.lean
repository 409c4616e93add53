import Mathlib

namespace PythonEthtool
namespace Foundations

/-!
# Straight code with an error label

A C function that builds something goes through its statements in order, and
where one of them fails it jumps to a label at the end.  The label sees the
state as the failing statement has left it.  A stage is such a statement: it
passes a state on, or jumps with one.

What the label finds is a matter of which stages came before the jump.  An
invariant that the stages keep, whether they go on or jump, holds there; and
what only a last stage does that never jumps is not done there.
-/

abbrev Stage (State : Type) :=
  State -> Except State State

variable {State : Type}

/-- The stages one after the other, up to the first jump. -/
def runStages : List (Stage State) -> Stage State
  | [], state => .ok state
  | stage :: stages, state =>
      match stage state with
      | .ok next => runStages stages next
      | .error stopped => .error stopped

/-- The state that is passed on, or that the label sees. -/
def reached : Except State State -> State
  | .ok next => next
  | .error stopped => stopped

/-- The property is not lost, whether the stage goes on or jumps. -/
def Stage.Keeps (property : State -> Prop) (stage : Stage State) : Prop :=
  forall state, property state -> property (reached (stage state))

section Rules

variable {property : State -> Prop} {stage : Stage State} {stages before : List (Stage State)}
  {state : State}

theorem runStages_ok_iff {last : State} :
    runStages (stage :: stages) state = .ok last ↔
      ∃ next, stage state = .ok next ∧ runStages stages next = .ok last := by
  rw [runStages]
  cases stage state with
  | error stopped => simp
  | ok next => simp

theorem runStages_append (before after : List (Stage State)) (state : State) :
    runStages (before ++ after) state = (runStages before state).bind (runStages after) := by
  induction before generalizing state with
  | nil => rfl
  | cons stage before ih =>
      rw [List.cons_append, runStages, runStages]
      cases stage state with
      | error stopped => rfl
      | ok next => exact ih next

/-- What every stage keeps holds at the end and at the label. -/
theorem runStages_keeps (keep : forall stage, stage ∈ stages -> Stage.Keeps property stage) :
    Stage.Keeps property (runStages stages) := by
  induction stages with
  | nil => exact fun _ holds => holds
  | cons stage stages ih =>
      intro state holds
      have first := keep stage List.mem_cons_self state holds
      rw [runStages]
      cases taken : stage state with
      | error stopped =>
          rw [taken] at first
          exact first
      | ok next =>
          rw [taken] at first
          exact ih (fun other member => keep other (List.mem_cons_of_mem stage member)) next first

/-- If the last stage never jumps, a jump comes from the others. -/
theorem runStages_jump_before {last : Stage State} {stopped : State}
    (onward : forall state, ∃ next, last state = .ok next)
    (jumped : runStages (before ++ [last]) state = .error stopped) :
    runStages before state = .error stopped := by
  rw [runStages_append] at jumped
  cases reached : runStages before state with
  | error earlier =>
      rw [reached] at jumped
      exact jumped
  | ok middle =>
      rcases onward middle with ⟨next, taken⟩
      rw [reached, Except.bind, runStages, taken] at jumped
      cases jumped

end Rules

/-! ## Results that may be errors -/

theorem except_bind_eq_ok {Error First Second : Type} {first : Except Error First}
    {next : First -> Except Error Second} {value : Second} (ok : (first >>= next) = .ok value) :
    ∃ middle, first = .ok middle ∧ next middle = .ok value := by
  cases first with
  | error error => cases ok
  | ok middle => exact ⟨middle, rfl, ok⟩

theorem except_map_eq_ok {Error First Second : Type} {result : Except Error First}
    {change : First -> Second} {value : Second} (ok : result.map change = .ok value) :
    ∃ first, result = .ok first ∧ change first = value := by
  cases result with
  | error error => cases ok
  | ok first =>
      cases ok
      exact ⟨first, rfl, rfl⟩

theorem except_mapError_eq_ok {Error Other Value : Type} {result : Except Error Value}
    {change : Error -> Other} {value : Value} :
    result.mapError change = .ok value ↔ result = .ok value := by
  cases result with
  | error error => simp [Except.mapError]
  | ok first => simp [Except.mapError]

end Foundations
end PythonEthtool
