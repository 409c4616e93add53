import PythonEthtool.Foundations.Ledger
import PythonEthtool.Foundations.Program

namespace PythonEthtool
namespace Foundations

open Program

/-!
# Programs that acquire and release

The events of such a program are movements of resources.  `Settles` is a
judgement about one run that ends with a value: with these resources held
beforehand, the movements can be settled, and leave those afterwards.  Its
rules follow the operations of programs, and what else is held stays beside
(`Settles.beside`), as in a frame rule.
-/

variable {World Error Value Result Resource : Type} [DecidableEq Resource]

/-- The program acquires a resource. -/
def acquire (resource : Resource) : Program World (Movement Resource) Error Unit :=
  tell id [.acquired resource]

/-- The program gives a resource away, or drops it. -/
def release (resource : Resource) : Program World (Movement Resource) Error Unit :=
  tell id [.released resource]

/-- The program changes its world, and nothing moves. -/
def change (update : World -> World) : Program World (Movement Resource) Error Unit :=
  tell update []

structure Settles (program : Program World (Movement Resource) Error Value) (world : World)
    (held : Multiset Resource) (value : Value) (after : World) (left : Multiset Resource) :
    Prop where
  result : (program.run world).result = .ok value
  reaches : (program.run world).world = after
  settles : settle held (program.run world).events = some left

section Rules

variable {world middle after : World} {held between left : Multiset Resource}

theorem settles_pure (value : Value) :
    Settles (pure value : Program World (Movement Resource) Error Value) world held value world
      held :=
  ⟨rfl, rfl, rfl⟩

theorem settles_read (view : World -> Value) :
    Settles (read view : Program World (Movement Resource) Error Value) world held (view world)
      world held :=
  ⟨rfl, rfl, rfl⟩

theorem settles_change (update : World -> World) :
    Settles (change update : Program World (Movement Resource) Error Unit) world held ()
      (update world) held :=
  ⟨rfl, rfl, rfl⟩

theorem settles_acquire (resource : Resource) :
    Settles (acquire resource : Program World (Movement Resource) Error Unit) world held ()
      world (resource ::ₘ held) :=
  ⟨rfl, rfl, rfl⟩

theorem settles_release (resource : Resource) :
    Settles (release resource : Program World (Movement Resource) Error Unit) world
      (resource ::ₘ held) () world held := by
  refine ⟨rfl, rfl, ?_⟩
  change settle (resource ::ₘ held) [.released resource] = some held
  simp [settle, Movement.settle]

theorem settles_ofExcept {result : Except Error Value} {value : Value}
    (ok : result = .ok value) :
    Settles (ofExcept result : Program World (Movement Resource) Error Value) world held value
      world held := by
  rw [ok]
  exact ⟨rfl, rfl, rfl⟩

theorem settles_bind {program : Program World (Movement Resource) Error Value}
    {next : Value -> Program World (Movement Resource) Error Result} {value : Value}
    {result : Result} (first : Settles program world held value middle between)
    (second : Settles (next value) middle between result after left) :
    Settles (program >>= next) world held result after left := by
  have runs := run_bind_ok program next first.result
  rw [first.reaches] at runs
  constructor
  · rw [runs]
    exact second.result
  · rw [runs]
    exact second.reaches
  · rw [runs]
    change settle held ((program.run world).events ++ ((next value).run middle).events) = some left
    rw [settle_append, first.settles]
    exact second.settles

/-- What else is held stays beside. -/
theorem Settles.beside {program : Program World (Movement Resource) Error Value} {value : Value}
    (settled : Settles program world held value after left) (others : Multiset Resource) :
    Settles program world (held + others) value after (left + others) :=
  ⟨settled.result, settled.reaches, settle_add settled.settles others⟩

end Rules

end Foundations
end PythonEthtool
