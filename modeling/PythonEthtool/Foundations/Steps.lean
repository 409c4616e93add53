import PythonEthtool.Foundations.Program

namespace PythonEthtool
namespace Foundations
namespace Program

/-!
# What a program does to its world

Three judgements compare the world at the end of a run with the world at its
beginning, through a view on it.  `Accounts` says that the log explains the
difference: replaying the events leads from one view to the other.
`Attempts` and `Performs` compare a program with a row of steps.  The first
allows that steps are left out, so it survives exceptions wherever they
occur; the second has all the steps done, and the program return.

`Accounts` is about every world, the other two are about the world that the
program starts in, since the steps may depend on it.  So is `Logs`, for the
programs that do not change the world at all.
-/

variable {World Event Error Value Result Item State Step : Type}

/-! ## The log explains the world -/

structure Accounts (view : World -> State) (act : State -> Event -> State)
    (program : Program World Event Error Value) : Prop where
  explains : forall world,
    view (program.run world).world = (program.run world).events.foldl act (view world)

section Accounts

variable {view : World -> State} {act : State -> Event -> State}
  {program : Program World Event Error Value}

theorem accounts_pure (value : Value) :
    Accounts view act (pure value : Program World Event Error Value) :=
  ⟨fun _ => rfl⟩

theorem accounts_raise (error : Error) :
    Accounts view act (raise error : Program World Event Error Value) :=
  ⟨fun _ => rfl⟩

theorem accounts_read (look : World -> Value) :
    Accounts view act (read look : Program World Event Error Value) :=
  ⟨fun _ => rfl⟩

theorem accounts_ofExcept (result : Except Error Value) :
    Accounts view act (ofExcept result : Program World Event Error Value) := by
  cases result with
  | ok value => exact accounts_pure value
  | error error => exact accounts_raise error

theorem accounts_tryElse {handler : Error -> Program World Event Error Result}
    {next : Value -> Program World Event Error Result} (guarded : Accounts view act program)
    (handling : forall error, Accounts view act (handler error))
    (continuing : forall value, Accounts view act (next value)) :
    Accounts view act (tryElse program handler next) := by
  constructor
  intro world
  cases ended : (program.run world).result with
  | ok value =>
      rw [run_tryElse_ok program handler next ended, List.foldl_append, ← guarded.explains]
      exact (continuing value).explains _
  | error error =>
      rw [run_tryElse_error program handler next ended, List.foldl_append, ← guarded.explains]
      exact (handling error).explains _

theorem accounts_bind {next : Value -> Program World Event Error Result}
    (first : Accounts view act program)
    (continuing : forall value, Accounts view act (next value)) :
    Accounts view act (program >>= next) :=
  accounts_tryElse first accounts_raise continuing

theorem accounts_forEach {items : List Item} {body : Item -> Program World Event Error Unit}
    (each : forall item, Accounts view act (body item)) :
    Accounts view act (forEach items body) := by
  induction items with
  | nil => exact accounts_pure ()
  | cons item rest ih => exact accounts_bind (each item) (fun _ => ih)

/-- What no event that the program can emit changes, the program does not
change either. -/
theorem Accounts.unchanged {Seen : Type} (accounts : Accounts view act program)
    {allowed : Event -> Prop} (emits : Emits allowed program) (look : State -> Seen)
    (harmless : forall event state, allowed event -> look (act state event) = look state)
    (world : World) : look (view (program.run world).world) = look (view world) := by
  have kept : forall (events : List Event) (state : State),
      (forall event, event ∈ events -> allowed event) ->
        look (events.foldl act state) = look state := by
    intro events
    induction events with
    | nil => exact fun _ _ => rfl
    | cons event rest ih =>
        intro state fine
        rw [List.foldl_cons, ih _ (fun later member => fine later (List.mem_cons_of_mem event member))]
        exact harmless event state (fine event List.mem_cons_self)
  rw [accounts.explains]
  exact kept _ _ (fun event member => emits.allows member)

end Accounts

/-! ## Some of the steps -/

/-- From this world the program does some of the steps, in their order. -/
def Attempts (view : World -> State) (act : State -> Step -> State) (steps : List Step)
    (program : Program World Event Error Value) (world : World) : Prop :=
  ∃ done : List Step, done.Sublist steps ∧
    view (program.run world).world = done.foldl act (view world)

section Attempts

variable {view : World -> State} {act : State -> Step -> State} {steps before after : List Step}
  {program : Program World Event Error Value} {world : World}

theorem attempts_of_unchanged (steps : List Step)
    (unchanged : view (program.run world).world = view world) :
    Attempts view act steps program world :=
  ⟨[], List.nil_sublist steps, unchanged⟩

theorem attempts_bind {next : Value -> Program World Event Error Result}
    (first : Attempts view act before program world)
    (continuing : forall value, (program.run world).result = .ok value ->
      Attempts view act after (next value) (program.run world).world) :
    Attempts view act (before ++ after) (program >>= next) world := by
  rcases first with ⟨early, earlyWithin, earlyView⟩
  cases ended : (program.run world).result with
  | ok value =>
      rcases continuing value ended with ⟨late, lateWithin, lateView⟩
      refine ⟨early ++ late, earlyWithin.append lateWithin, ?_⟩
      rw [run_bind_ok program next ended, List.foldl_append, ← earlyView]
      exact lateView
  | error error =>
      refine ⟨early, earlyWithin.trans (List.sublist_append_left before after), ?_⟩
      rw [run_bind_error program next ended]
      exact earlyView

/-- A first part that leaves the view alone. -/
theorem attempts_after {next : Value -> Program World Event Error Result}
    (unchanged : view (program.run world).world = view world)
    (continuing : forall value, (program.run world).result = .ok value ->
      Attempts view act steps (next value) (program.run world).world) :
    Attempts view act steps (program >>= next) world :=
  attempts_bind (attempts_of_unchanged [] unchanged) continuing

theorem attempts_forEach {items : List Item} {body : Item -> Program World Event Error Unit}
    {stepsOf : Item -> List Step}
    (each : forall item, item ∈ items -> forall world,
      Attempts view act (stepsOf item) (body item) world) (world : World) :
    Attempts view act (items.flatMap stepsOf) (forEach items body) world := by
  induction items generalizing world with
  | nil => exact attempts_of_unchanged [] rfl
  | cons item rest ih =>
      apply attempts_bind (each item List.mem_cons_self world)
      intro _ _
      exact ih (fun later member => each later (List.mem_cons_of_mem item member)) _

end Attempts

/-! ## All the steps -/

/-- From this world the program does all the steps and returns. -/
def Performs (view : World -> State) (act : State -> Step -> State) (steps : List Step)
    (program : Program World Event Error Value) (world : World) : Prop :=
  (∃ value, (program.run world).result = .ok value) ∧
    view (program.run world).world = steps.foldl act (view world)

section Performs

variable {view : World -> State} {act : State -> Step -> State} {steps before after : List Step}
  {program : Program World Event Error Value} {world : World}

theorem performs_bind {next : Value -> Program World Event Error Result}
    (first : Performs view act before program world)
    (continuing : forall value, (program.run world).result = .ok value ->
      Performs view act after (next value) (program.run world).world) :
    Performs view act (before ++ after) (program >>= next) world := by
  rcases first with ⟨⟨value, ended⟩, early⟩
  rcases continuing value ended with ⟨⟨result, returned⟩, late⟩
  rw [Performs, run_bind_ok program next ended, List.foldl_append, ← early]
  exact ⟨⟨result, returned⟩, late⟩

theorem performs_forEach {items : List Item} {body : Item -> Program World Event Error Unit}
    {stepsOf : Item -> List Step}
    (each : forall item, item ∈ items -> forall world,
      Performs view act (stepsOf item) (body item) world) (world : World) :
    Performs view act (items.flatMap stepsOf) (forEach items body) world := by
  induction items generalizing world with
  | nil => exact ⟨⟨(), rfl⟩, rfl⟩
  | cons item rest ih =>
      apply performs_bind (each item List.mem_cons_self world)
      intro _ _
      exact ih (fun later member => each later (List.mem_cons_of_mem item member)) _

end Performs

/-! ## Nothing but the log -/

/-- From this world the program returns and leaves nothing behind but these
events. -/
def Logs (events : List Event) (program : Program World Event Error Unit) (world : World) : Prop :=
  program.run world = { result := .ok (), world := world, events := events }

section Logs

variable {before after : List Event} {world : World}

theorem logs_pure : Logs [] (pure () : Program World Event Error Unit) world :=
  rfl

theorem logs_bind {first second : Program World Event Error Unit}
    (early : Logs before first world) (late : Logs after second world) :
    Logs (before ++ after) (first >>= fun _ => second) world := by
  have ended : (first.run world).result = .ok () := by
    rw [early]
  rw [Logs, run_bind_ok first (fun _ => second) ended, early]
  change ({ result := (second.run world).result
            world := (second.run world).world
            events := before ++ (second.run world).events } : Outcome _ _ _ _) = _
  rw [late]

theorem logs_ofExcept_bind {result : Except Error Value} {value : Value}
    {next : Value -> Program World Event Error Unit} (ok : result = .ok value)
    (late : Logs after (next value) world) : Logs after (ofExcept result >>= next) world := by
  rw [ok]
  exact late

theorem logs_forEach {items : List Item} {body : Item -> Program World Event Error Unit}
    {eventsOf : Item -> List Event}
    (each : forall item, item ∈ items -> Logs (eventsOf item) (body item) world) :
    Logs (items.flatMap eventsOf) (forEach items body) world := by
  induction items with
  | nil => exact logs_pure
  | cons item rest ih =>
      apply logs_bind (each item List.mem_cons_self)
      apply ih
      intro later member
      exact each later (List.mem_cons_of_mem item member)

end Logs

end Program
end Foundations
end PythonEthtool
