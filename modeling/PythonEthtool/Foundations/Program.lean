import Mathlib

namespace PythonEthtool
namespace Foundations

/-!
# Programs with a state, exceptions and a log

A program reads and changes a world, ends with a value or an exception, and
leaves a list of events behind.  The events of an interrupted program are
those up to the interruption.  Catching is one operation, `tryElse`: it runs
the handler when the guarded part raises and the continuation, unguarded,
when it does not.  Sequencing is the case in which the handler raises again.

`Emits` is a judgement about the log alone, and `Returns` one about the end
alone.  Their rules follow the operations, so that they can be derived from
the text of a program without running it.
-/

structure Outcome (World Event Error Value : Type) where
  result : Except Error Value
  world : World
  events : List Event

structure Program (World Event Error Value : Type) where
  run : World -> Outcome World Event Error Value

namespace Program

variable {World Event Error Value Result Item : Type}

def ret (value : Value) : Program World Event Error Value :=
  ⟨fun world => { result := .ok value, world := world, events := [] }⟩

def raise (error : Error) : Program World Event Error Value :=
  ⟨fun world => { result := .error error, world := world, events := [] }⟩

def tryElse (program : Program World Event Error Value)
    (handler : Error -> Program World Event Error Result)
    (next : Value -> Program World Event Error Result) : Program World Event Error Result :=
  ⟨fun world =>
    let first := program.run world
    let second :=
      match first.result with
      | .ok value => (next value).run first.world
      | .error error => (handler error).run first.world
    { second with events := first.events ++ second.events }⟩

instance : Monad (Program World Event Error) where
  pure := ret
  bind program next := tryElse program raise next

/-- A step that cannot fail. -/
def tell (update : World -> World) (events : List Event) : Program World Event Error Unit :=
  ⟨fun world => { result := .ok (), world := update world, events := events }⟩

def read (view : World -> Value) : Program World Event Error Value :=
  ⟨fun world => { result := .ok (view world), world := world, events := [] }⟩

/-- A computation without effects of its own. -/
def ofExcept : Except Error Value -> Program World Event Error Value
  | .ok value => ret value
  | .error error => raise error

def forEach (items : List Item) (body : Item -> Program World Event Error Unit) :
    Program World Event Error Unit :=
  match items with
  | [] => ret ()
  | item :: rest => do
      body item
      forEach rest body

/-! ## Running -/

section Running

variable (program : Program World Event Error Value)
  (handler : Error -> Program World Event Error Result)
  (next : Value -> Program World Event Error Result) {world : World}

@[simp] theorem run_raise (error : Error) :
    (raise error : Program World Event Error Value).run world =
      { result := .error error, world := world, events := [] } :=
  rfl

theorem run_tryElse_ok {value : Value} (ok : (program.run world).result = .ok value) :
    (tryElse program handler next).run world =
      { result := ((next value).run (program.run world).world).result
        world := ((next value).run (program.run world).world).world
        events := (program.run world).events ++
          ((next value).run (program.run world).world).events } := by
  simp only [tryElse, ok]

theorem run_tryElse_error {error : Error} (failed : (program.run world).result = .error error) :
    (tryElse program handler next).run world =
      { result := ((handler error).run (program.run world).world).result
        world := ((handler error).run (program.run world).world).world
        events := (program.run world).events ++
          ((handler error).run (program.run world).world).events } := by
  simp only [tryElse, failed]

theorem run_bind_ok {value : Value} (ok : (program.run world).result = .ok value) :
    (program >>= next).run world =
      { result := ((next value).run (program.run world).world).result
        world := ((next value).run (program.run world).world).world
        events := (program.run world).events ++
          ((next value).run (program.run world).world).events } :=
  run_tryElse_ok program raise next ok

theorem run_bind_error {error : Error} (failed : (program.run world).result = .error error) :
    (program >>= next).run world =
      { result := .error error
        world := (program.run world).world
        events := (program.run world).events } := by
  refine (run_tryElse_error program raise next failed).trans ?_
  simp only [run_raise, List.append_nil]

end Running

/-! ## What a program can emit -/

/-- Whatever the world, every event is of the allowed kind. -/
structure Emits (allowed : Event -> Prop) (program : Program World Event Error Value) : Prop where
  allows : forall {world event}, event ∈ (program.run world).events -> allowed event

section Emits

variable {allowed : Event -> Prop} {program : Program World Event Error Value}

theorem emits_pure (value : Value) :
    Emits allowed (pure value : Program World Event Error Value) := by
  constructor
  intro world event member
  cases member

theorem emits_raise (error : Error) :
    Emits allowed (raise error : Program World Event Error Value) := by
  constructor
  intro world event member
  cases member

theorem emits_read (view : World -> Value) :
    Emits allowed (read view : Program World Event Error Value) := by
  constructor
  intro world event member
  cases member

theorem emits_ofExcept (result : Except Error Value) :
    Emits allowed (ofExcept result : Program World Event Error Value) := by
  cases result with
  | ok value => exact emits_pure value
  | error error => exact emits_raise error

theorem emits_tryElse {handler : Error -> Program World Event Error Result}
    {next : Value -> Program World Event Error Result} (guarded : Emits allowed program)
    (handling : forall error, Emits allowed (handler error))
    (continuing : forall value, Emits allowed (next value)) :
    Emits allowed (tryElse program handler next) := by
  constructor
  intro world event member
  cases ended : (program.run world).result with
  | ok value =>
      rw [run_tryElse_ok program handler next ended] at member
      rcases List.mem_append.mp member with early | late
      · exact guarded.allows early
      · exact (continuing value).allows late
  | error error =>
      rw [run_tryElse_error program handler next ended] at member
      rcases List.mem_append.mp member with early | late
      · exact guarded.allows early
      · exact (handling error).allows late

theorem emits_bind {next : Value -> Program World Event Error Result}
    (first : Emits allowed program) (continuing : forall value, Emits allowed (next value)) :
    Emits allowed (program >>= next) :=
  emits_tryElse first emits_raise continuing

/-- What follows a computation without effects may use its result. -/
theorem emits_ofExcept_bind {result : Except Error Value}
    {next : Value -> Program World Event Error Result}
    (continuing : forall value, result = .ok value -> Emits allowed (next value)) :
    Emits allowed (ofExcept result >>= next) := by
  constructor
  intro world event member
  cases result with
  | ok value => exact (continuing value rfl).allows member
  | error error => cases member

theorem emits_forEach {items : List Item} {body : Item -> Program World Event Error Unit}
    (each : forall item, item ∈ items -> Emits allowed (body item)) :
    Emits allowed (forEach items body) := by
  induction items with
  | nil => exact emits_pure ()
  | cons item rest ih =>
      apply emits_bind
      · exact each item List.mem_cons_self
      · intro _
        apply ih
        intro later member
        exact each later (List.mem_cons_of_mem item member)

end Emits

/-! ## Programs that do not raise -/

/-- Whatever the world, the program ends with a value. -/
structure Returns (program : Program World Event Error Value) : Prop where
  ends : forall world, ∃ value, (program.run world).result = .ok value

section Returns

variable {program : Program World Event Error Value}

theorem returns_pure (value : Value) :
    Returns (pure value : Program World Event Error Value) :=
  ⟨fun _ => ⟨value, rfl⟩⟩

theorem returns_tell (update : World -> World) (events : List Event) :
    Returns (tell update events : Program World Event Error Unit) :=
  ⟨fun _ => ⟨(), rfl⟩⟩

theorem returns_read (view : World -> Value) :
    Returns (read view : Program World Event Error Value) :=
  ⟨fun world => ⟨view world, rfl⟩⟩

/-- The handler has to deal only with what the guarded part can raise. -/
theorem returns_tryElse {handler : Error -> Program World Event Error Result}
    {next : Value -> Program World Event Error Result}
    (handling : forall world error, (program.run world).result = .error error ->
      Returns (handler error))
    (continuing : forall value, Returns (next value)) :
    Returns (tryElse program handler next) := by
  constructor
  intro world
  cases ended : (program.run world).result with
  | ok value =>
      rw [run_tryElse_ok program handler next ended]
      exact (continuing value).ends _
  | error error =>
      rw [run_tryElse_error program handler next ended]
      exact (handling world error ended).ends _

theorem returns_bind {next : Value -> Program World Event Error Result}
    (first : Returns program) (continuing : forall value, Returns (next value)) :
    Returns (program >>= next) := by
  constructor
  intro world
  rcases first.ends world with ⟨value, ended⟩
  rw [run_bind_ok program next ended]
  exact (continuing value).ends _

theorem returns_ofExcept_bind {result : Except Error Value} {value : Value}
    {next : Value -> Program World Event Error Result} (ok : result = .ok value)
    (continuing : Returns (next value)) : Returns (ofExcept result >>= next) := by
  rw [ok]
  exact ⟨fun world => continuing.ends world⟩

theorem returns_forEach {items : List Item} {body : Item -> Program World Event Error Unit}
    (each : forall item, item ∈ items -> Returns (body item)) : Returns (forEach items body) := by
  induction items with
  | nil => exact returns_pure ()
  | cons item rest ih =>
      apply returns_bind
      · exact each item List.mem_cons_self
      · intro _
        apply ih
        intro later member
        exact each later (List.mem_cons_of_mem item member)

end Returns

end Program

end Foundations
end PythonEthtool
