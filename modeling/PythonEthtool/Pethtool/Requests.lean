import PythonEthtool.Ioctl.Setters
import PythonEthtool.Pethtool.Arguments

namespace PythonEthtool
namespace Pethtool

open Foundations
open Foundations.Program
open Ioctl
open Python

/-!
# The settings of the script as dictionaries of the module

The script sees settings as a map from names to integers.  Here this view is
tied to the functions of the extension module: the map becomes a dictionary
from strings to integers, and a dictionary that the module returns is such a
map with every field in it.
-/

/-! ## Maps as Python dictionaries -/

/-- The entries of a map as Python objects. -/
def pyEntries (entries : List (String × Int)) : List (PyValue × PyValue) :=
  entries.map (fun entry => (.str entry.1, .int entry.2))

theorem pyEntries_keys (entries : List (String × Int)) :
    (pyEntries entries).map Prod.fst = (entries.map Prod.fst).map PyValue.str := by
  rw [pyEntries, List.map_map, List.map_map]
  rfl

/-- The dictionary that the script passes to the module. -/
def toPyDict (map : SettingsMap) : PyDict where
  entries := pyEntries map.entries
  nodup := by
    rw [pyEntries_keys]
    exact map.nodup.map (fun _ _ => PyValue.str.inj)

theorem lookup_pyEntries (entries : List (String × Int)) (name : String) :
    (pyEntries entries).lookup (.str name) = (entries.lookup name).map PyValue.int := by
  induction entries with
  | nil => rfl
  | cons entry entries ih =>
      rcases entry with ⟨first, value⟩
      change List.lookup (PyValue.str name) ((.str first, .int value) :: pyEntries entries) = _
      rw [List.lookup_cons, List.lookup_cons, ih]
      by_cases same : name = first
      · rw [beq_iff_eq.mpr same, beq_iff_eq.mpr (congrArg PyValue.str same)]
        rfl
      · have different : PyValue.str name ≠ .str first := fun equal => same (PyValue.str.inj equal)
        rw [beq_eq_false_iff_ne.mpr same, beq_eq_false_iff_ne.mpr different]

theorem get?_toPyDict (map : SettingsMap) (name : String) :
    (toPyDict map).get? (.str name) = (map.get? name).map PyValue.int :=
  lookup_pyEntries map.entries name

theorem pyEntries_setEntry (name : String) (value : Int) (entries : List (String × Int)) :
    pyEntries (setEntry name value entries) =
      setEntry (.str name) (.int value) (pyEntries entries) := by
  induction entries with
  | nil => rfl
  | cons entry entries ih =>
      change pyEntries (if entry.1 = name then (name, value) :: entries
        else entry :: setEntry name value entries) =
          if PyValue.str entry.1 = .str name then (.str name, .int value) :: pyEntries entries
          else (.str entry.1, .int entry.2) :: setEntry (.str name) (.int value) (pyEntries entries)
      by_cases same : entry.1 = name
      · rw [if_pos same, if_pos (congrArg PyValue.str same)]
        rfl
      · have different : PyValue.str entry.1 ≠ .str name :=
          fun equal => same (PyValue.str.inj equal)
        rw [if_neg same, if_neg different, ← ih]
        rfl

/-- An assignment in the script is an assignment in the dictionary. -/
theorem toPyDict_set (map : SettingsMap) (name : String) (value : Int) :
    toPyDict (map.set name value) = (toPyDict map).set (.str name) (.int value) := by
  simp only [toPyDict, Dictionary.set, pyEntries_setEntry]

/-! ## Reading -/

/-- The getter of each kind of settings. -/
def getter (settings : Settings) (host : Host) (devname : CString) : CallResult :=
  match settings with
  | .coalesce => Ioctl.getCoalesce host devname
  | .ringparam => Ioctl.getRingparam host devname

/-- The settings that a structure stands for. -/
def settingsMapOf (width : LongWidth) (values : Memory) (table : List StructDesc) : SettingsMap :=
  (Dictionary.empty : SettingsMap).override
    (table.map (fun row => (row.name, toLong width (load32 values row.offset))))

theorem toPyDict_override (width : LongWidth) (values : Memory) (table : List StructDesc)
    (map : SettingsMap) :
    toPyDict (map.override
        (table.map (fun row => (row.name, toLong width (load32 values row.offset))))) =
      filled width values (toPyDict map) table := by
  induction table generalizing map with
  | nil => rfl
  | cons row table ih =>
      rw [List.map_cons, Dictionary.override_cons, ih, toPyDict_set]
      rfl

/-- The settings in a structure, all fields among them. -/
def currentSettingsOf (settings : Settings) (width : LongWidth) (values : Memory) :
    CurrentSettings settings where
  map := settingsMapOf width values settings.desc
  complete := by
    intro name field
    rcases settings.covers.row_of_field field with ⟨row, member, rfl⟩
    rw [settingsMapOf, Dictionary.get?_override]
    have assigned : lastValue row.name (settings.desc.map
        (fun row => (row.name, toLong width (load32 values row.offset)))) ≠ none := by
      intro none
      apply lastValue_eq_none_iff.mp none _ (List.mem_map_of_mem member)
      rfl
    rcases Option.ne_none_iff_exists'.mp assigned with ⟨value, last⟩
    rw [last]
    rfl

/-- What a getter returns is a dictionary that holds the whole structure. -/
theorem getter_value {settings : Settings} {host : Host} {devname : CString} {object : PyObject}
    (returned : (getter settings host devname).value = some object) :
    ∃ values, object = .dict (toPyDict (currentSettingsOf settings host.width values).map) := by
  have body : ∃ cmd, getter settings host devname =
      Ioctl.getSettings settings host cmd devname := by
    cases settings with
    | coalesce => exact ⟨ETHTOOL_GCOALESCE, rfl⟩
    | ringparam => exact ⟨ETHTOOL_GRINGPARAM, rfl⟩
  rcases body with ⟨cmd, same⟩
  rw [same, Ioctl.getSettings] at returned
  by_cases failed : (getDevValue host cmd devname).err < 0
  · simp only [if_pos failed] at returned
    cases returned
  · simp only [if_neg failed] at returned
    rw [structDescCreateDict,
      createDictFrom_eq_filled _ _ (fun _ => settings.covers.size)] at returned
    refine ⟨(getDevValue host cmd devname).value, ?_⟩
    change object = .dict (toPyDict ((Dictionary.empty : SettingsMap).override _))
    rw [toPyDict_override]
    exact (Option.some.inj returned).symm

end Pethtool
end PythonEthtool
