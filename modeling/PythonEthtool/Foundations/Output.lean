import PythonEthtool.Foundations.Program

namespace PythonEthtool
namespace Foundations
namespace Program

/-!
# Output that is foreseen

A program writes while it runs, and an exception may end it anywhere.  The
judgement `Writes` compares what has been written with a row of texts that
is given in advance: started in a world with the one property, the program
writes a beginning of the row, and if it returns, it has written all of it
and the world has the other property, together with the value.  If it
raises, the exception is one of those allowed.

Nothing is said of the world after an exception.  The rules follow the
operations, so that the row is composed from those of the parts.
-/

variable {World Event Error Value Result Item Text : Type}

/-- The texts among the events. -/
def written (view : Event -> Option Text) (events : List Event) : List Text :=
  events.filterMap view

theorem written_append (view : Event -> Option Text) (early late : List Event) :
    written view (early ++ late) = written view early ++ written view late :=
  List.filterMap_append

structure Writes (view : Event -> Option Text) (allowed : Error -> Prop)
    (before : World -> Prop) (foreseen : List Text) (program : Program World Event Error Value)
    (after : Value -> World -> Prop) : Prop where
  begins : forall world, before world ->
    written view (program.run world).events <+: foreseen
  whole : forall world value, before world -> (program.run world).result = .ok value ->
    written view (program.run world).events = foreseen ∧ after value (program.run world).world
  raises : forall world error, before world -> (program.run world).result = .error error ->
    allowed error

section Rules

variable {view : Event -> Option Text} {allowed : Error -> Prop} {before : World -> Prop}
  {foreseen later : List Text} {program : Program World Event Error Value}
  {after : Value -> World -> Prop}

theorem writes_pure {value : Value} (ensures : forall world, before world -> after value world) :
    Writes view allowed before [] (pure value : Program World Event Error Value) after where
  begins := fun _ _ => List.nil_prefix
  whole := by
    intro world returned holds ended
    cases ended
    exact ⟨rfl, ensures world holds⟩
  raises := by
    intro world error _ ended
    cases ended

theorem writes_tell (update : World -> World) (events : List Event)
    {after : Unit -> World -> Prop}
    (ensures : forall world, before world -> after () (update world)) :
    Writes view allowed before (written view events)
      (tell update events : Program World Event Error Unit) after where
  begins := fun _ _ => List.prefix_refl _
  whole := fun world _ holds _ => ⟨rfl, ensures world holds⟩
  raises := by
    intro world error _ ended
    cases ended

theorem writes_bind {next : Value -> Program World Event Error Result}
    {final : Result -> World -> Prop}
    (first : Writes view allowed before foreseen program after)
    (continuing : forall value, Writes view allowed (after value) later (next value) final) :
    Writes view allowed before (foreseen ++ later) (program >>= next) final where
  begins := by
    intro world holds
    cases ended : (program.run world).result with
    | ok value =>
        have early := first.whole world value holds ended
        rw [run_bind_ok program next ended, written_append, early.1]
        exact (List.prefix_append_right_inj foreseen).mpr
          ((continuing value).begins _ early.2)
    | error error =>
        rw [run_bind_error program next ended]
        exact (first.begins world holds).trans (List.prefix_append foreseen later)
  whole := by
    intro world result holds returned
    cases ended : (program.run world).result with
    | error error =>
        rw [run_bind_error program next ended] at returned
        cases returned
    | ok value =>
        have early := first.whole world value holds ended
        rw [run_bind_ok program next ended] at returned ⊢
        have late := (continuing value).whole _ result early.2 returned
        rw [written_append, early.1, late.1]
        exact ⟨rfl, late.2⟩
  raises := by
    intro world error holds raised
    cases ended : (program.run world).result with
    | error other =>
        rw [run_bind_error program next ended] at raised
        cases raised
        exact first.raises world _ holds ended
    | ok value =>
        rw [run_bind_ok program next ended] at raised
        exact (continuing value).raises _ error (first.whole world value holds ended).2 raised

/-- What follows a part that writes nothing. -/
theorem writes_silent_bind {next : Value -> Program World Event Error Result}
    {final : Result -> World -> Prop} (after : Value -> World -> Prop)
    (first : Writes view allowed before [] program after)
    (continuing : forall value, Writes view allowed (after value) later (next value) final) :
    Writes view allowed before later (program >>= next) final :=
  writes_bind first continuing

/-- What follows a computation without effects may use its result, and is
not reached if there is none. -/
theorem writes_ofExcept_bind {result : Except Error Value}
    {next : Value -> Program World Event Error Result} {final : Result -> World -> Prop}
    (failing : forall error, result = .error error -> allowed error)
    (continuing : forall value, result = .ok value ->
      Writes view allowed before foreseen (next value) final) :
    Writes view allowed before foreseen (ofExcept result >>= next) final := by
  cases result with
  | error error =>
      refine ⟨fun _ _ => List.nil_prefix, ?_, ?_⟩
      · intro world value _ ended
        cases ended
      · intro world other _ raised
        cases raised
        exact failing error rfl
  | ok value =>
      have rest := continuing value rfl
      exact ⟨rest.begins, rest.whole, rest.raises⟩

/-- A fact that does not depend on the world may be used at once. -/
theorem writes_of_fact {fact : Prop}
    (writes : fact -> Writes view allowed before foreseen program after) :
    Writes view allowed (fun world => fact ∧ before world) foreseen program after where
  begins := fun world holds => (writes holds.1).begins world holds.2
  whole := fun world value holds => (writes holds.1).whole world value holds.2
  raises := fun world error holds => (writes holds.1).raises world error holds.2

theorem writes_forEach {items : List Item} {body : Item -> Program World Event Error Unit}
    {texts : Item -> List Text}
    (each : forall item, item ∈ items ->
      Writes view allowed before (texts item) (body item) (fun _ => before)) :
    Writes view allowed before (items.flatMap texts) (forEach items body)
      (fun _ => before) := by
  induction items with
  | nil => exact writes_pure (fun _ holds => holds)
  | cons item rest ih =>
      apply writes_bind (each item List.mem_cons_self)
      intro _
      apply ih
      intro later member
      exact each later (List.mem_cons_of_mem item member)

/-- Where no exception is allowed, the handler is not reached. -/
theorem writes_tryElse {handler : Error -> Program World Event Error Result}
    {next : Value -> Program World Event Error Result} {final : Result -> World -> Prop}
    (first : Writes view (fun _ => False) before foreseen program after)
    (continuing : forall value, Writes view allowed (after value) later (next value) final) :
    Writes view allowed before (foreseen ++ later) (tryElse program handler next) final := by
  have returns : forall world, before world ->
      ∃ value, (program.run world).result = .ok value := by
    intro world holds
    cases ended : (program.run world).result with
    | ok value => exact ⟨value, rfl⟩
    | error error => exact absurd (first.raises world error holds ended) not_false
  refine ⟨?_, ?_, ?_⟩
  · intro world holds
    rcases returns world holds with ⟨value, ended⟩
    have early := first.whole world value holds ended
    rw [run_tryElse_ok program handler next ended, written_append, early.1]
    exact (List.prefix_append_right_inj foreseen).mpr ((continuing value).begins _ early.2)
  · intro world result holds returned
    rcases returns world holds with ⟨value, ended⟩
    have early := first.whole world value holds ended
    rw [run_tryElse_ok program handler next ended] at returned ⊢
    have late := (continuing value).whole _ result early.2 returned
    rw [written_append, early.1, late.1]
    exact ⟨rfl, late.2⟩
  · intro world error holds raised
    rcases returns world holds with ⟨value, ended⟩
    rw [run_tryElse_ok program handler next ended] at raised
    exact (continuing value).raises _ error (first.whole world value holds ended).2 raised

/-- Where no exception is allowed, the program returns and has written
everything. -/
theorem Writes.returns (writes : Writes view (fun _ => False) before foreseen program after)
    {world : World} (holds : before world) :
    ∃ value, (program.run world).result = .ok value ∧
      written view (program.run world).events = foreseen ∧
      after value (program.run world).world := by
  cases ended : (program.run world).result with
  | ok value => exact ⟨value, rfl, writes.whole world value holds ended⟩
  | error error => exact absurd (writes.raises world error holds ended) not_false

end Rules

/-- A loop over two rows is one loop after the other. -/
theorem run_forEach_append (early late : List Item)
    (body : Item -> Program World Event Error Unit) (world : World) :
    (forEach (early ++ late) body).run world =
      (forEach early body >>= fun _ => forEach late body).run world := by
  induction early generalizing world with
  | nil =>
      have returned : ((forEach [] body).run world).result = .ok () := rfl
      rw [run_bind_ok _ _ returned]
      rfl
  | cons item rest ih =>
      rw [List.cons_append, forEach, forEach]
      cases ended : ((body item).run world).result with
      | error error =>
          have stopped : ((body item >>= fun _ => forEach rest body).run world).result =
              .error error := by
            rw [run_bind_error _ _ ended]
          rw [run_bind_error _ _ ended, run_bind_error _ _ stopped, run_bind_error _ _ ended]
      | ok value =>
          rw [run_bind_ok _ _ ended, ih]
          cases next : ((forEach rest body).run ((body item).run world).world).result with
          | error error =>
              have stopped : ((body item >>= fun _ => forEach rest body).run world).result =
                  .error error := by
                rw [run_bind_ok _ _ ended]
                exact next
              rw [run_bind_error _ _ next, run_bind_error _ _ stopped, run_bind_ok _ _ ended]
          | ok done =>
              have returned : ((body item >>= fun _ => forEach rest body).run world).result =
                  .ok done := by
                rw [run_bind_ok _ _ ended]
                exact next
              rw [run_bind_ok _ _ next, run_bind_ok _ _ returned, run_bind_ok _ _ ended,
                List.append_assoc]

end Program
end Foundations
end PythonEthtool
