import PythonEthtool.Devices.Listing
import PythonEthtool.Foundations.FirstSeen
import PythonEthtool.Ioctl.Functions

namespace PythonEthtool
namespace Devices

open Foundations
open Python

/-!
# The devices that are up

`get_active_devices` walks over the addresses of all interfaces.  An
interface is there once for each of its addresses, and the entries of one
name need not agree on the flags.  A name is listed when its first entry
with `IFF_UP` is reached.

The string that is made of a name is used without a look at whether it was
made, which fails for bytes that are no UTF-8.
-/

/-- One entry of the list that `getifaddrs` makes. -/
structure IfAddr where
  ifaName : CString
  ifaFlags : UInt32

/-- The test `ifa_flags & IFF_UP`. -/
def IfAddr.up (ifa : IfAddr) : Bool :=
  Int.land ifa.ifaFlags.toNat Ioctl.IFF_UP ≠ 0

/-- The name of an entry as a Python string. -/
def IfAddr.text (ifa : IfAddr) : Option String :=
  pyStrFromString ifa.ifaName.bytes

/-- The loop, with the list built so far. -/
def listActive (list : List String) : List IfAddr -> Listing
  | [] => .names list
  | ifa :: rest =>
      match ifa.text with
      | none => .undefined
      | some str =>
          if str ∉ list ∧ ifa.up = true then listActive (list ++ [str]) rest
          else listActive list rest

/-- `ifaddr` is what `getifaddrs` gives: the entries, or the error number. -/
def getActiveDevices (ifaddr : Except Int (List IfAddr)) : Listing :=
  match ifaddr with
  | .error code => .raised ⟨.osError, .errno code⟩
  | .ok entries => listActive [] entries

/-- The name under which an entry is listed. -/
def IfAddr.upName (ifa : IfAddr) : Option String :=
  if ifa.up then ifa.text else none

theorem IfAddr.upName_eq_some_iff {ifa : IfAddr} {name : String} :
    ifa.upName = some name ↔ ifa.text = some name ∧ ifa.up = true := by
  rw [IfAddr.upName]
  cases ifa.up with
  | false => simp
  | true => simp

theorem carries_upName (name : String) :
    carries IfAddr.upName name =
      fun entry : IfAddr => decide (entry.text = some name ∧ entry.up = true) := by
  funext entry
  rw [carries]
  congr 1
  exact propext IfAddr.upName_eq_some_iff

theorem listActive_eq {entries : List IfAddr}
    (decodable : forall entry, entry ∈ entries -> entry.text.isSome) (list : List String) :
    listActive list entries = .names (entries.foldl (seen IfAddr.upName) list) := by
  induction entries generalizing list with
  | nil => rfl
  | cons entry entries ih =>
      have rest := ih (fun later member => decodable later (List.mem_cons_of_mem entry member))
      rcases Option.isSome_iff_exists.mp (decodable entry List.mem_cons_self) with ⟨str, decoded⟩
      rw [List.foldl_cons, listActive]
      simp only [decoded]
      cases up : entry.up with
      | false =>
          rw [if_neg (by simp), rest, seen, IfAddr.upName, up]
          rfl
      | true =>
          rw [seen, IfAddr.upName, up, if_pos rfl, decoded]
          by_cases member : str ∈ list
          · rw [if_neg (fun both => both.1 member), rest]
            simp [member]
          · rw [if_pos ⟨member, rfl⟩, rest]
            simp [member]

theorem listActive_undefined {entries : List IfAddr} {entry : IfAddr} (member : entry ∈ entries)
    (undecodable : entry.text = none) (list : List String) :
    listActive list entries = .undefined := by
  induction entries generalizing list with
  | nil => cases member
  | cons first entries ih =>
      rw [listActive]
      rcases List.mem_cons.mp member with rfl | later
      · rw [undecodable]
      · cases first.text with
        | none => rfl
        | some str =>
            simp only
            split
            · exact ih later _
            · exact ih later _

/-- The names of the interfaces that are up: each once, and in the order of
their first entries with the flag. -/
structure OrderedUpSet (entries : List IfAddr) (names : List String) : Prop where
  nodup : names.Nodup
  mem_iff : forall name, name ∈ names ↔
    ∃ entry, entry ∈ entries ∧ entry.text = some name ∧ entry.up = true
  ordered : names.Pairwise (fun first second =>
    entries.findIdx (fun entry => entry.text = some first ∧ entry.up = true) <
      entries.findIdx (fun entry => entry.text = some second ∧ entry.up = true))

theorem orderedUpSet_of_firstSeen {entries : List IfAddr} {names : List String}
    (first : FirstSeen IfAddr.upName entries names) : OrderedUpSet entries names where
  nodup := first.nodup
  mem_iff := by
    intro name
    rw [first.mem_iff]
    simp only [IfAddr.upName_eq_some_iff]
  ordered := by
    have ordered := first.ordered
    simp only [carries_upName] at ordered
    exact ordered

/-- `get_active_devices` returns the ordered set of the names that are up
exactly if every name is UTF-8. -/
theorem getActiveDevices_orderedUpSet_iff (entries : List IfAddr) :
    (∃ names, getActiveDevices (.ok entries) = .names names ∧ OrderedUpSet entries names) ↔
      forall entry, entry ∈ entries -> entry.text.isSome := by
  constructor
  · rintro ⟨names, returned, _⟩ entry member
    by_contra undecodable
    have crash := listActive_undefined member (Option.not_isSome_iff_eq_none.mp undecodable) []
    rw [getActiveDevices, crash] at returned
    cases returned
  · intro decodable
    refine ⟨_, listActive_eq decodable [], orderedUpSet_of_firstSeen ?_⟩
    have first : FirstSeen IfAddr.upName ([] ++ entries) (entries.foldl (seen IfAddr.upName) []) :=
      FirstSeen.nil.foldl entries
    rw [List.nil_append] at first
    exact first

/-- An interface that is up under a name of one byte that begins no
character. -/
theorem getActiveDevices_undecodable :
    ¬ ∃ names, getActiveDevices (.ok [{ ifaName := ⟨[255], by simp⟩, ifaFlags := 1 }]) =
        .names names ∧
      OrderedUpSet [{ ifaName := ⟨[255], by simp⟩, ifaFlags := 1 }] names := by
  rintro ⟨names, returned, _⟩
  cases returned

end Devices
end PythonEthtool
