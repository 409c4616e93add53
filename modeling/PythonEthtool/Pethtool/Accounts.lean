import PythonEthtool.Foundations.Steps
import PythonEthtool.Pethtool.Targets

namespace PythonEthtool
namespace Pethtool

open Foundations
open Foundations.Program
open Python

/-!
# Commands that show something and the kernel

The script touches the kernel through its calls only, so the log of a run
says what has become of the kernel.  Together with what a command can emit
this shows what it leaves alone.
-/

section Showing

variable {Kernel : Type} (ethtool : Ethtool Kernel)

/-- What an event makes of the kernel. -/
def actOn (kernel : Kernel) : Event -> Kernel
  | .called call => (ethtool.answer call kernel).2
  | _ => kernel

theorem accounts_perform (call : Call) :
    Accounts World.kernel (actOn ethtool) (perform ethtool call) :=
  ⟨fun _ => rfl⟩

theorem accounts_printtab (msg : String) :
    Accounts World.kernel (actOn ethtool) (printtab msg) := by
  apply accounts_bind (accounts_read World.tab)
  intro tab
  exact ⟨fun _ => rfl⟩

theorem accounts_exceptIOError {Value : Type} {handler : Script Kernel Value}
    (handling : Accounts World.kernel (actOn ethtool) handler) (error : PyError) :
    Accounts World.kernel (actOn ethtool) (exceptIOError handler error) := by
  unfold exceptIOError
  split
  · exact handling
  · exact accounts_raise error

theorem accounts_showOthers (map : SettingsMap) (printed : List String) :
    Accounts World.kernel (actOn ethtool) (showOthers map printed) := by
  unfold showOthers
  split
  · apply accounts_forEach
    intro tunable
    split
    · exact accounts_pure ()
    · exact accounts_bind (accounts_ofExcept _) (fun _ => accounts_printtab ethtool _)
  · exact accounts_pure ()

theorem accounts_showCoalesceRow (coal : SettingsMap) (tunable : MsgRow) :
    Accounts World.kernel (actOn ethtool) (showCoalesceRow coal tunable) := by
  apply accounts_bind (accounts_ofExcept _)
  intro first
  split
  · exact accounts_pure ()
  · apply accounts_bind (accounts_ofExcept _)
    intro entry
    exact accounts_bind (accounts_ofExcept _) (fun _ => accounts_printtab ethtool _)

theorem accounts_showRingRow (ring : SettingsMap) (tunable : RingRow) :
    Accounts World.kernel (actOn ethtool) (showRingRow ring tunable) := by
  cases tunable with
  | heading title => exact accounts_printtab ethtool _
  | value title entry =>
      exact accounts_bind (accounts_ofExcept _) (fun _ => accounts_printtab ethtool _)

theorem accounts_showCoalesce (interface : String) :
    Accounts World.kernel (actOn ethtool) (showCoalesce ethtool interface) := by
  apply accounts_bind (accounts_printtab ethtool _)
  intro _
  apply accounts_tryElse (accounts_perform ethtool _)
  · exact accounts_exceptIOError ethtool (accounts_printtab ethtool _)
  · intro coal
    apply accounts_bind (accounts_ofExcept _)
    intro rx
    apply accounts_bind (accounts_ofExcept _)
    intro tx
    apply accounts_bind (accounts_printtab ethtool _)
    intro _
    apply accounts_bind (accounts_forEach (accounts_showCoalesceRow ethtool coal.map))
    intro _
    exact accounts_showOthers ethtool _ _

theorem accounts_showRing (interface : String) :
    Accounts World.kernel (actOn ethtool) (showRing ethtool interface) := by
  apply accounts_bind (accounts_printtab ethtool _)
  intro _
  apply accounts_tryElse (accounts_perform ethtool _)
  · exact accounts_exceptIOError ethtool (accounts_printtab ethtool _)
  · intro ring
    apply accounts_bind (accounts_forEach (accounts_showRingRow ethtool ring.map))
    intro _
    exact accounts_showOthers ethtool _ _

theorem accounts_showOffload (interface : String) :
    Accounts World.kernel (actOn ethtool) (showOffload ethtool interface) := by
  have query (feature : Feature) :
      Accounts World.kernel (actOn ethtool) (featureText ethtool feature interface) :=
    accounts_tryElse (accounts_perform ethtool _)
      (accounts_exceptIOError ethtool (accounts_pure _)) (fun _ => accounts_pure _)
  apply accounts_bind (query .sg)
  intro sg
  apply accounts_bind (query .tso)
  intro tso
  apply accounts_bind (query .ufo)
  intro ufo
  apply accounts_bind (query .gso)
  intro gso
  apply accounts_bind (query .gro)
  intro gro
  apply accounts_bind (accounts_printtab ethtool _)
  intro _
  apply accounts_bind (accounts_printtab ethtool _)
  intro _
  apply accounts_bind (accounts_printtab ethtool _)
  intro _
  exact accounts_bind (accounts_printtab ethtool _) (fun _ => accounts_printtab ethtool _)

theorem accounts_showDriver (interface : String) :
    Accounts World.kernel (actOn ethtool) (showDriver ethtool interface) := by
  have query (call : Call) (absent : String) (text : call.Reply -> String) :
      Accounts World.kernel (actOn ethtool) (tryElse (perform ethtool call)
        (exceptIOError (pure absent)) (fun reply => pure (text reply))) :=
    accounts_tryElse (accounts_perform ethtool _)
      (accounts_exceptIOError ethtool (accounts_pure _)) (fun _ => accounts_pure _)
  apply accounts_bind (query (.getModule interface) _ id)
  intro driver
  apply accounts_bind (query (.getBusinfo interface) _ id)
  intro bus
  exact accounts_bind (accounts_printtab ethtool _) (fun _ => accounts_printtab ethtool _)

variable {ethtool} in
/-- Commands that show something make reading calls only, and change what
these change. -/
theorem body_unchanged {Seen : Type} {command : Command} (shows : ¬ command.IsSetter)
    (interface : String) (args : Option (List String)) (look : Kernel -> Seen)
    (harmless : forall (call : Call) kernel, call.Reads ->
      look (ethtool.answer call kernel).2 = look kernel) (world : World Kernel) :
    look ((command.body ethtool interface args).run world).world.kernel = look world.kernel := by
  have permits : Permits (fun event => forall call, event = .called call -> call.Reads)
      Call.Reads := by
    refine ⟨fun line call same => (by cases same), ?_⟩
    intro call reads other same
    cases same
    exact reads
  have reads : forall call : Call, call.Reads -> call.Reads := fun _ reading => reading
  have still : forall (event : Event) (kernel : Kernel),
      (forall call, event = .called call -> call.Reads) ->
        look (actOn ethtool kernel event) = look kernel := by
    intro event kernel fine
    cases event with
    | called call => exact harmless call kernel (fine call rfl)
    | printed line => rfl
    | invoked name => rfl
  cases command with
  | showCoalesce =>
      exact (accounts_showCoalesce ethtool interface).unchanged
        (emits_showCoalesce permits reads interface) look still world
  | showDriver =>
      exact (accounts_showDriver ethtool interface).unchanged
        (emits_showDriver permits reads interface) look still world
  | showOffload =>
      exact (accounts_showOffload ethtool interface).unchanged
        (emits_showOffload permits reads interface) look still world
  | showRing =>
      exact (accounts_showRing ethtool interface).unchanged
        (emits_showRing permits reads interface) look still world
  | setOffload => exact absurd (Or.inl rfl) shows
  | setCoalesce => exact absurd (Or.inr (Or.inl rfl)) shows
  | setRingparam => exact absurd (Or.inr (Or.inr rfl)) shows

end Showing

end Pethtool
end PythonEthtool
