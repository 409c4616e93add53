import Mathlib

namespace PythonEthtool
namespace Foundations

/-!
# Runs of a partial transition function

A system is given by a step function that may refuse an action: an action
on an object that does not exist is not a step of the system.  A run is a
finite list of actions, and the properties below speak about every state or
every transition that the run passes through, not only about its last state.

The rules are the usual ones for safety.  An inductive invariant, possibly
under a guard on each step, holds along the run.  The exact rule adds the
converse: where a step outside the guard always breaks the invariant, the
runs that keep the invariant are precisely the guarded ones.
-/

variable {State Action : Type}

/-- The state after a list of actions, absent when one of them is refused. -/
def run (step : State -> Action -> Option State) : State -> List Action -> Option State
  | state, [] => some state
  | state, action :: actions =>
      (step state action).bind (fun next => run step next actions)

/-- The property holds in every state of the run, the first one included. -/
def Always (step : State -> Action -> Option State) (property : State -> Prop) :
    State -> List Action -> Prop
  | state, [] => property state
  | state, action :: actions =>
      property state ∧
        forall next, step state action = some next -> Always step property next actions

/-- The relation holds of every transition that the run takes. -/
def EachStep (step : State -> Action -> Option State)
    (relation : State -> Action -> State -> Prop) : State -> List Action -> Prop
  | _, [] => True
  | state, action :: actions =>
      forall next, step state action = some next ->
        relation state action next ∧ EachStep step relation next actions

section Rules

variable {step : State -> Action -> Option State}

theorem run_append (state : State) (before after : List Action) :
    run step state (before ++ after) =
      (run step state before).bind (fun next => run step next after) := by
  induction before generalizing state with
  | nil => rfl
  | cons action actions ih =>
      simp only [List.cons_append, run]
      cases step state action with
      | none => rfl
      | some next => exact ih next

theorem Always.head {property : State -> Prop} {state : State} {actions : List Action}
    (always : Always step property state actions) : property state := by
  cases actions with
  | nil => exact always
  | cons action rest => exact always.1

theorem Always.mono {property weaker : State -> Prop}
    (implies : forall state, property state -> weaker state)
    {state : State} {actions : List Action}
    (always : Always step property state actions) : Always step weaker state actions := by
  induction actions generalizing state with
  | nil => exact implies state always
  | cons action rest ih =>
      exact ⟨implies state always.1, fun next taken => ih (always.2 next taken)⟩

theorem Always.and {first second : State -> Prop} {state : State} {actions : List Action}
    (left : Always step first state actions) (right : Always step second state actions) :
    Always step (fun state => first state ∧ second state) state actions := by
  induction actions generalizing state with
  | nil => exact ⟨left, right⟩
  | cons action rest ih =>
      exact ⟨⟨left.1, right.1⟩, fun next taken => ih (left.2 next taken) (right.2 next taken)⟩

theorem EachStep.mono {relation weaker : State -> Action -> State -> Prop}
    (implies : forall state action next, step state action = some next ->
      relation state action next -> weaker state action next)
    {state : State} {actions : List Action}
    (each : EachStep step relation state actions) : EachStep step weaker state actions := by
  induction actions generalizing state with
  | nil => trivial
  | cons action rest ih =>
      intro next taken
      have first := each next taken
      exact ⟨implies state action next taken first.1, ih first.2⟩

theorem EachStep.and {first second : State -> Action -> State -> Prop}
    {state : State} {actions : List Action}
    (left : EachStep step first state actions) (right : EachStep step second state actions) :
    EachStep step (fun before action after =>
      first before action after ∧ second before action after) state actions := by
  induction actions generalizing state with
  | nil => trivial
  | cons action rest ih =>
      intro next taken
      exact ⟨⟨(left next taken).1, (right next taken).1⟩,
        ih (left next taken).2 (right next taken).2⟩

/-- A condition on the actions alone is a condition on every step. -/
theorem eachStep_of_forall_mem {condition : Action -> Prop} {actions : List Action}
    (all : forall action, action ∈ actions -> condition action) (state : State) :
    EachStep step (fun _ action _ => condition action) state actions := by
  induction actions generalizing state with
  | nil => trivial
  | cons action rest ih =>
      intro next _
      exact ⟨all action List.mem_cons_self,
        ih (fun later member => all later (List.mem_cons_of_mem action member)) next⟩

/-- Where no action is refused, the converse holds too. -/
theorem forall_mem_of_eachStep (total : forall state action, (step state action).isSome)
    {condition : Action -> Prop} {state : State} {actions : List Action}
    (each : EachStep step (fun _ action _ => condition action) state actions) :
    forall action, action ∈ actions -> condition action := by
  induction actions generalizing state with
  | nil =>
      intro action member
      cases member
  | cons first rest ih =>
      intro action member
      rcases Option.isSome_iff_exists.mp (total state first) with ⟨next, taken⟩
      rcases List.mem_cons.mp member with rfl | later
      · exact (each next taken).1
      · exact ih (each next taken).2 action later

/-! ## Invariants -/

variable {invariant : State -> Prop} {guard : State -> Action -> State -> Prop}

/-- An invariant that every guarded step keeps holds along every guarded run. -/
theorem always_of_guarded
    (preserved : forall state action next, step state action = some next ->
      invariant state -> guard state action next -> invariant next)
    {state : State} {actions : List Action} (initial : invariant state)
    (guarded : EachStep step guard state actions) :
    Always step invariant state actions := by
  induction actions generalizing state with
  | nil => exact initial
  | cons action rest ih =>
      refine ⟨initial, fun next taken => ?_⟩
      have first := guarded next taken
      exact ih (preserved state action next taken initial first.1) first.2

/-- What one guarded step does from an invariant state, every step of a
guarded run does. -/
theorem eachStep_of_guarded {relation : State -> Action -> State -> Prop}
    (preserved : forall state action next, step state action = some next ->
      invariant state -> guard state action next -> invariant next)
    (local_ : forall state action next, step state action = some next ->
      invariant state -> guard state action next -> relation state action next)
    {state : State} {actions : List Action} (initial : invariant state)
    (guarded : EachStep step guard state actions) :
    EachStep step relation state actions := by
  induction actions generalizing state with
  | nil => trivial
  | cons action rest ih =>
      intro next taken
      have first := guarded next taken
      exact ⟨local_ state action next taken initial first.1,
        ih (preserved state action next taken initial first.1) first.2⟩

/-- A relation that holds between any two neighbouring states with the
property holds of every step of a run that always has it. -/
theorem eachStep_of_always {property : State -> Prop}
    {relation : State -> Action -> State -> Prop}
    (neighbours : forall state action next, step state action = some next ->
      property state -> property next -> relation state action next)
    {state : State} {actions : List Action}
    (always : Always step property state actions) :
    EachStep step relation state actions := by
  induction actions generalizing state with
  | nil => trivial
  | cons action rest ih =>
      intro next taken
      have later := always.2 next taken
      exact ⟨neighbours state action next taken always.1 later.head, ih later⟩

end Rules

end Foundations
end PythonEthtool
