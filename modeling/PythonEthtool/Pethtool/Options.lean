import PythonEthtool.Pethtool.Targets

namespace PythonEthtool
namespace Pethtool

open Foundations
open Foundations.Program
open Python

/-!
# From the command line to one command

`main` loops over the options and leaves the loop in every branch, so it is
the first option that counts.  The branches are compared with literals, in a
chain that falls through where none of them matches.  It never does: what
`getopt` can return is announced in `shortopts` and `longopts`, and the
chain has a branch for each announced name.  Every command line is therefore
refused, or it runs the action of its first option.
-/

/-- What the branches of the chain do. -/
inductive Action where
  | help
  | display (command : Command)
  | change (command : Command)
  deriving DecidableEq

/-- The chain as a table. -/
def optionTable : List (String × Action) :=
  [("-h", .help), ("--help", .help),
    ("-c", .display .showCoalesce), ("--show-coalesce", .display .showCoalesce),
    ("-i", .display .showDriver), ("--driver", .display .showDriver),
    ("-k", .display .showOffload), ("--show-offload", .display .showOffload),
    ("-g", .display .showRing), ("--show-ring", .display .showRing),
    ("-K", .change .setOffload), ("--offload", .change .setOffload),
    ("-C", .change .setCoalesce), ("--coalesce", .change .setCoalesce),
    ("-G", .change .setRingparam), ("--set-ring", .change .setRingparam)]

section Table

/-- The rows that show something run no setter. -/
theorem display_not_setter {opt : String} {command : Command}
    (row : (opt, .display command) ∈ optionTable) : ¬ command.IsSetter := by
  have table : forall entry, entry ∈ optionTable ->
      entry.2 ≠ .display .setOffload ∧ entry.2 ≠ .display .setCoalesce ∧
        entry.2 ≠ .display .setRingparam := by
    decide
  rintro (rfl | rfl | rfl)
  · exact (table _ row).1 rfl
  · exact (table _ row).2.1 rfl
  · exact (table _ row).2.2 rfl

/-- The rows that change something run a setter. -/
theorem change_setter {opt : String} {command : Command}
    (row : (opt, .change command) ∈ optionTable) : command.IsSetter := by
  have table : forall entry, entry ∈ optionTable -> entry.2 ≠ .change .showCoalesce ∧
      entry.2 ≠ .change .showDriver ∧ entry.2 ≠ .change .showOffload ∧
        entry.2 ≠ .change .showRing := by
    decide
  cases command with
  | showCoalesce => exact absurd rfl (table _ row).1
  | showDriver => exact absurd rfl (table _ row).2.1
  | showOffload => exact absurd rfl (table _ row).2.2.1
  | showRing => exact absurd rfl (table _ row).2.2.2
  | setOffload => exact Or.inl rfl
  | setCoalesce => exact Or.inr (Or.inl rfl)
  | setRingparam => exact Or.inr (Or.inr rfl)

/-- The rows have different names. -/
theorem lookup_optionTable {opt : String} {action : Action}
    (row : (opt, action) ∈ optionTable) : optionTable.lookup opt = some action := by
  have table : forall entry, entry ∈ optionTable ->
      optionTable.lookup entry.1 = some entry.2 := by
    decide
  exact table _ row

/-- An option that stands alone is followed by the arguments. -/
theorem getopt_option {opt : String} {action : Action} (row : (opt, action) ∈ optionTable)
    {interface : String} (args : List String) (plain : startsWith interface "-" = false) :
    getopt (opt :: interface :: args) shortopts longopts =
      .ok ([(opt, "")], interface :: args) := by
  have stop : forall opts, getoptFrom shortopts longopts opts (interface :: args) =
      .ok (opts, interface :: args) := by
    intro opts
    rw [getoptFrom, if_neg]
    rw [plain]
    simp
  simp only [optionTable, List.mem_cons, Prod.mk.injEq, List.not_mem_nil, or_false] at row
  rcases row with ⟨rfl, rfl⟩ | ⟨rfl, rfl⟩ | ⟨rfl, rfl⟩ | ⟨rfl, rfl⟩ | ⟨rfl, rfl⟩ | ⟨rfl, rfl⟩ |
    ⟨rfl, rfl⟩ | ⟨rfl, rfl⟩ | ⟨rfl, rfl⟩ | ⟨rfl, rfl⟩ | ⟨rfl, rfl⟩ | ⟨rfl, rfl⟩ | ⟨rfl, rfl⟩ |
    ⟨rfl, rfl⟩ | ⟨rfl, rfl⟩ | ⟨rfl, rfl⟩
  all_goals exact stop _

theorem setterOptions_row {opt : String} {command : Command}
    (option : (opt, command) ∈ setterOptions) : (opt, .change command) ∈ optionTable := by
  have table : forall entry, entry ∈ setterOptions ->
      (entry.1, Action.change entry.2) ∈ optionTable := by
    decide
  exact table _ option

end Table

section Options

variable {Kernel : Type} (ethtool : Ethtool Kernel)

def Action.run (action : Action) (args : List String) : Script Kernel Unit :=
  match action with
  | .help => usage
  | .display command => runCmdNoargs ethtool command args
  | .change command => runSetter ethtool command args

theorem dispatch_eq_run {opt : String} {action : Action} (row : (opt, action) ∈ optionTable)
    (optarg : String) (opts : List (String × String)) (args : List String) :
    dispatch ethtool ((opt, optarg) :: opts) args = action.run ethtool args := by
  simp only [optionTable, List.mem_cons, Prod.mk.injEq, List.not_mem_nil, or_false] at row
  rcases row with ⟨rfl, rfl⟩ | ⟨rfl, rfl⟩ | ⟨rfl, rfl⟩ | ⟨rfl, rfl⟩ | ⟨rfl, rfl⟩ | ⟨rfl, rfl⟩ |
    ⟨rfl, rfl⟩ | ⟨rfl, rfl⟩ | ⟨rfl, rfl⟩ | ⟨rfl, rfl⟩ | ⟨rfl, rfl⟩ | ⟨rfl, rfl⟩ | ⟨rfl, rfl⟩ |
    ⟨rfl, rfl⟩ | ⟨rfl, rfl⟩ | ⟨rfl, rfl⟩
  all_goals simp [dispatch, Action.run]

/-- Every announced option has a row. -/
theorem announced_mem_optionTable {opt : String} (known : opt ∈ announced shortopts longopts) :
    ∃ action, (opt, action) ∈ optionTable := by
  have table : forall name, name ∈ announced shortopts longopts ->
      name ∈ optionTable.map Prod.fst := by
    decide
  rcases List.mem_map.mp (table opt known) with ⟨⟨name, action⟩, row, rfl⟩
  exact ⟨action, row⟩

/-- A command line is refused with the status 2, or has no options and ends
with 0, or runs the action of its first option. -/
theorem main_cases (argv : List String) :
    (∃ message, getopt argv shortopts longopts = .error message ∧ main ethtool argv = (do
      usage
      printLine message
      sysExit 2)) ∨
    (∃ args, getopt argv shortopts longopts = .ok ([], args) ∧ main ethtool argv = (do
      usage
      sysExit 0)) ∨
    ∃ opt optarg opts args action,
      getopt argv shortopts longopts = .ok ((opt, optarg) :: opts, args) ∧
      (opt, action) ∈ optionTable ∧ main ethtool argv = action.run ethtool args := by
  cases parsed : getopt argv shortopts longopts with
  | error message =>
      apply Or.inl
      exact ⟨message, rfl, by rw [main, parsed]⟩
  | ok result =>
      rcases result with ⟨opts, args⟩
      cases opts with
      | nil =>
          apply Or.inr
          exact Or.inl ⟨args, rfl, by rw [main, parsed]⟩
      | cons first opts =>
          rcases first with ⟨opt, optarg⟩
          have known := (getopt_announced parsed (opt, optarg) List.mem_cons_self).1
          rcases announced_mem_optionTable known with ⟨action, row⟩
          refine Or.inr (Or.inr ⟨opt, optarg, opts, args, action, rfl, row, ?_⟩)
          rw [main, parsed]
          exact dispatch_eq_run ethtool row optarg opts args

end Options

end Pethtool
end PythonEthtool
