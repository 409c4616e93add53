import PythonEthtool.Foundations.Dictionary

namespace PythonEthtool
namespace Foundations

/-!
# Cells of several owners

Every owner has one cell for each key.  A write assigns to cells of one
owner, from left to right.  What a cell holds after a row of writes is the
last value that its owner was assigned for its key, in whatever way the
writes to other owners lie in between.
-/

abbrev Cells (Owner Key Value : Type) :=
  Owner -> Key -> Value

/-- Assignments to cells of one owner. -/
structure CellWrite (Owner Key Value : Type) where
  owner : Owner
  assignments : List (Key × Value)
  deriving DecidableEq

variable {Owner Key Value : Type} [DecidableEq Owner] [DecidableEq Key]

namespace Cells

def put (cells : Cells Owner Key Value) (write : CellWrite Owner Key Value) :
    Cells Owner Key Value :=
  fun owner key =>
    if owner = write.owner then (lastValue key write.assignments).getD (cells owner key)
    else cells owner key

/-- The writes one after the other. -/
def replay (cells : Cells Owner Key Value) (writes : List (CellWrite Owner Key Value)) :
    Cells Owner Key Value :=
  writes.foldl put cells

theorem put_owner (cells : Cells Owner Key Value) (write : CellWrite Owner Key Value)
    (key : Key) :
    cells.put write write.owner key =
      (lastValue key write.assignments).getD (cells write.owner key) :=
  if_pos rfl

theorem put_other (cells : Cells Owner Key Value) (write : CellWrite Owner Key Value)
    {owner : Owner} (other : owner ≠ write.owner) (key : Key) :
    cells.put write owner key = cells owner key :=
  if_neg other

/-- Two writes to one owner do the same if they agree on what changes. -/
theorem put_congr {cells : Cells Owner Key Value} {owner : Owner}
    {first second : List (Key × Value)}
    (agree : forall key, (lastValue key first).getD (cells owner key) =
      (lastValue key second).getD (cells owner key)) :
    cells.put ⟨owner, first⟩ = cells.put ⟨owner, second⟩ := by
  funext other key
  by_cases same : other = owner
  · subst same
    exact (put_owner cells ⟨other, first⟩ key).trans
      ((agree key).trans (put_owner cells ⟨other, second⟩ key).symm)
  · exact (put_other cells ⟨owner, first⟩ same key).trans
      (put_other cells ⟨owner, second⟩ same key).symm

/-- A write that repeats what the cells hold. -/
theorem put_eq_self {cells : Cells Owner Key Value} {owner : Owner}
    {assignments : List (Key × Value)}
    (repeats : forall assignment, assignment ∈ assignments ->
      cells owner assignment.1 = assignment.2) : cells.put ⟨owner, assignments⟩ = cells := by
  have empty : cells.put ⟨owner, assignments⟩ = cells.put ⟨owner, []⟩ := by
    apply put_congr
    intro key
    cases last : lastValue key assignments with
    | none => rfl
    | some value => exact (repeats (key, value) (lastValue_mem last)).symm
  rw [empty]
  funext other key
  exact ite_self _

@[simp] theorem replay_nil (cells : Cells Owner Key Value) : cells.replay [] = cells :=
  rfl

theorem replay_cons (cells : Cells Owner Key Value) (write : CellWrite Owner Key Value)
    (writes : List (CellWrite Owner Key Value)) :
    cells.replay (write :: writes) = (cells.put write).replay writes :=
  rfl

theorem replay_singleton (cells : Cells Owner Key Value) (write : CellWrite Owner Key Value) :
    cells.replay [write] = cells.put write :=
  rfl

theorem replay_append (cells : Cells Owner Key Value)
    (before after : List (CellWrite Owner Key Value)) :
    cells.replay (before ++ after) = (cells.replay before).replay after :=
  List.foldl_append

end Cells

/-! ## Last values of a row of keys -/

section Rows

variable {Name : Type} [DecidableEq Name]

omit [DecidableEq Owner] in
/-- Renaming the keys apart and converting the values changes last values
alike. -/
theorem lastValue_map {Other : Type} {rename : Name -> Key}
    (injective : Function.Injective rename) (convert : Other -> Value) (name : Name)
    (assignments : List (Name × Other)) :
    lastValue (rename name)
        (assignments.map (fun assignment => (rename assignment.1, convert assignment.2))) =
      (lastValue name assignments).map convert := by
  induction assignments with
  | nil => rfl
  | cons assignment assignments ih =>
      rw [List.map_cons, lastValue_cons, lastValue_cons, ih, Option.map_or]
      congr 1
      by_cases same : name = assignment.1
      · rw [if_pos same, if_pos (congrArg rename same)]
        rfl
      · rw [if_neg same, if_neg (fun equal => same (injective equal))]
        rfl

omit [DecidableEq Owner] in
/-- A row that gives each name its value. -/
theorem lastValue_row {rename : Name -> Key} (injective : Function.Injective rename)
    (value : Name -> Value) {name : Name} {names : List Name} (member : name ∈ names) :
    lastValue (rename name) (names.map (fun other => (rename other, value other))) =
      some (value name) := by
  induction names with
  | nil => cases member
  | cons first names ih =>
      rw [List.map_cons, lastValue_cons]
      by_cases later : name ∈ names
      · rw [ih later, Option.some_or]
      · have none : lastValue (rename name)
            (names.map (fun other => (rename other, value other))) = none := by
          apply lastValue_eq_none_iff.mpr
          intro assignment inside same
          rcases List.mem_map.mp inside with ⟨other, otherMember, rfl⟩
          exact later (injective same ▸ otherMember)
        have head : name = first := (List.mem_cons.mp member).resolve_right later
        rw [none, Option.none_or, if_pos (congrArg rename head), head]

omit [DecidableEq Owner] [DecidableEq Name] in
theorem lastValue_row_none (rename : Name -> Key) {value : Name -> Value} {key : Key}
    {names : List Name} (absent : forall name, name ∈ names -> key ≠ rename name) :
    lastValue key (names.map (fun other => (rename other, value other))) = none := by
  apply lastValue_eq_none_iff.mpr
  intro assignment inside
  rcases List.mem_map.mp inside with ⟨name, member, rfl⟩
  exact absent name member

end Rows

/-! ## What one owner sees -/

/-- The assignments to the cells of one owner, in order. -/
def assignmentsTo (owner : Owner) (writes : List (CellWrite Owner Key Value)) :
    List (Key × Value) :=
  writes.flatMap (fun write => if owner = write.owner then write.assignments else [])

omit [DecidableEq Key] in
theorem assignmentsTo_append (owner : Owner) (before after : List (CellWrite Owner Key Value)) :
    assignmentsTo owner (before ++ after) =
      assignmentsTo owner before ++ assignmentsTo owner after :=
  List.flatMap_append

omit [DecidableEq Key] in
/-- Two writes to one owner in a row. -/
theorem assignmentsTo_join (owner same : Owner) (first second : List (Key × Value)) :
    assignmentsTo owner [⟨same, first⟩, ⟨same, second⟩] =
      assignmentsTo owner [⟨same, first ++ second⟩] := by
  by_cases equal : owner = same
  · simp [assignmentsTo, equal]
  · simp [assignmentsTo, equal]

/-- A cell holds the last value assigned to it, or what it held before. -/
theorem Cells.replay_apply (cells : Cells Owner Key Value)
    (writes : List (CellWrite Owner Key Value)) (owner : Owner) (key : Key) :
    cells.replay writes owner key =
      (lastValue key (assignmentsTo owner writes)).getD (cells owner key) := by
  induction writes generalizing cells with
  | nil => rfl
  | cons write writes ih =>
      rw [replay_cons, ih]
      change _ = (lastValue key
        ((if owner = write.owner then write.assignments else []) ++
          assignmentsTo owner writes)).getD _
      rw [lastValue_append, Cells.put]
      by_cases same : owner = write.owner
      · rw [if_pos same, if_pos same, Option.getD_or]
      · rw [if_neg same, if_neg same]
        change _ = ((lastValue key (assignmentsTo owner writes)).or none).getD _
        rw [Option.or_none]

/-- Writes that every owner sees alike lead to the same cells: writes to
different owners may be interleaved in any way, and writes to one owner may
be joined. -/
theorem Cells.replay_congr (cells : Cells Owner Key Value)
    {first second : List (CellWrite Owner Key Value)}
    (alike : forall owner, assignmentsTo owner first = assignmentsTo owner second) :
    cells.replay first = cells.replay second := by
  funext owner key
  rw [replay_apply, replay_apply, alike]

/-- Writes that are repeated as a whole change nothing more. -/
theorem Cells.replay_again (cells : Cells Owner Key Value)
    (writes : List (CellWrite Owner Key Value)) :
    cells.replay (writes ++ writes) = cells.replay writes := by
  funext owner key
  rw [replay_apply, replay_apply, assignmentsTo_append, lastValue_append, Option.or_self]

end Foundations
end PythonEthtool
