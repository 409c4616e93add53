import Mathlib

namespace PythonEthtool
namespace Foundations

/-!
# Dictionaries in insertion order

A dictionary is a list of entries without repeated keys.  Setting a present
key replaces its value in place, setting a new one appends the entry, so the
order of the keys is the order of their first insertion.  Two dictionaries
with the same lookups are equal as finite maps whatever their orders are.
-/

variable {Key Value : Type} [DecidableEq Key]

/-- Replace the value of the first entry with this key, or append one. -/
def setEntry (key : Key) (value : Value) : List (Key × Value) -> List (Key × Value)
  | [] => [(key, value)]
  | entry :: entries =>
      if entry.1 = key then (key, value) :: entries
      else entry :: setEntry key value entries

theorem setEntry_keys (key : Key) (value : Value) (entries : List (Key × Value)) :
    (setEntry key value entries).map Prod.fst =
      if key ∈ entries.map Prod.fst then entries.map Prod.fst
      else entries.map Prod.fst ++ [key] := by
  induction entries with
  | nil => rfl
  | cons entry entries ih =>
      simp only [setEntry]
      by_cases same : entry.1 = key
      · simp [same]
      · have different : ¬ key = entry.1 := fun equal => same equal.symm
        rw [if_neg same, List.map_cons, ih]
        by_cases later : key ∈ entries.map Prod.fst
        · simp only [List.map_cons, List.mem_cons, later, or_true, if_true]
        · simp only [List.map_cons, List.mem_cons, different, later, or_false, if_false,
            List.cons_append]

theorem setEntry_lookup (key : Key) (value : Value) (entries : List (Key × Value)) (other : Key) :
    (setEntry key value entries).lookup other =
      if other = key then some value else entries.lookup other := by
  induction entries with
  | nil =>
      by_cases same : other = key
      · simp [setEntry, same]
      · simp [setEntry, List.lookup, same, beq_eq_false_iff_ne.mpr same]
  | cons entry entries ih =>
      rcases entry with ⟨first, old⟩
      simp only [setEntry]
      by_cases replaced : first = key
      · subst replaced
        by_cases same : other = first
        · simp [same]
        · simp [List.lookup, same, beq_eq_false_iff_ne.mpr same]
      · rw [if_neg replaced]
        by_cases head : other = first
        · subst head
          simp [List.lookup, replaced]
        · simp [List.lookup, beq_eq_false_iff_ne.mpr head, ih]

theorem setEntry_of_lookup {key : Key} {value : Value} {entries : List (Key × Value)}
    (present : entries.lookup key = some value) : setEntry key value entries = entries := by
  induction entries with
  | nil => cases present
  | cons entry entries ih =>
      rcases entry with ⟨first, old⟩
      simp only [setEntry]
      by_cases same : first = key
      · subst same
        rw [List.lookup_cons_self] at present
        rw [if_pos rfl, Option.some.inj present]
      · rw [if_neg same, ih]
        rw [List.lookup_cons, beq_eq_false_iff_ne.mpr (Ne.symm same)] at present
        exact present

/-- The last value that a list of assignments gives to a key. -/
def lastValue (key : Key) (assignments : List (Key × Value)) : Option Value :=
  assignments.reverse.lookup key

theorem lastValue_append (key : Key) (before after : List (Key × Value)) :
    lastValue key (before ++ after) = (lastValue key after).or (lastValue key before) := by
  rw [lastValue, List.reverse_append, List.lookup_append]
  rfl

theorem lastValue_cons (key : Key) (assignment : Key × Value)
    (assignments : List (Key × Value)) :
    lastValue key (assignment :: assignments) =
      (lastValue key assignments).or (if key = assignment.1 then some assignment.2 else none) := by
  rw [← List.singleton_append, lastValue_append]
  congr 1
  rcases assignment with ⟨first, value⟩
  rw [lastValue, List.reverse_singleton, List.lookup_cons]
  by_cases same : key = first
  · rw [if_pos same, beq_iff_eq.mpr same]
  · rw [if_neg same, beq_eq_false_iff_ne.mpr same]
    rfl

theorem lastValue_eq_none_iff {key : Key} {assignments : List (Key × Value)} :
    lastValue key assignments = none ↔
      forall assignment, assignment ∈ assignments -> key ≠ assignment.1 := by
  simp [lastValue]

theorem lastValue_mem {key : Key} {value : Value} {assignments : List (Key × Value)}
    (last : lastValue key assignments = some value) : (key, value) ∈ assignments := by
  rcases List.lookup_eq_some_iff.mp last with ⟨before, after, split, _⟩
  apply List.mem_reverse.mp
  rw [split]
  exact List.mem_append_right before List.mem_cons_self

section Assignments

variable {Item : Type} {key : Key} {value : Value} {items : List Item}
  {assign : Item -> Option (Key × Value)}

theorem lastValue_filterMap_eq_none_iff :
    lastValue key (items.filterMap assign) = none ↔
      forall item, item ∈ items -> forall other, assign item ≠ some (key, other) := by
  constructor
  · intro absent item member other assigned
    exact lastValue_eq_none_iff.mp absent _ (List.mem_filterMap.mpr ⟨item, member, assigned⟩) rfl
  · intro others
    apply lastValue_eq_none_iff.mpr
    rintro ⟨first, other⟩ member same
    rcases List.mem_filterMap.mp member with ⟨item, found, assigns⟩
    cases same
    exact others item found other assigns

/-- The value of a later item is taken first. -/
theorem lastValue_filterMap_cons (item : Item) :
    lastValue key ((item :: items).filterMap assign) =
      (lastValue key (items.filterMap assign)).or
        ((assign item).bind fun assignment =>
          if key = assignment.1 then some assignment.2 else none) := by
  cases assigned : assign item with
  | none => rw [List.filterMap_cons_none assigned, Option.bind_none, Option.or_none]
  | some assignment =>
      rw [List.filterMap_cons_some assigned, lastValue_cons, Option.bind_some]

/-- The last value comes from the last item that assigns to the key. -/
theorem lastValue_filterMap_eq_some_iff :
    lastValue key (items.filterMap assign) = some value ↔
      ∃ before item after, items = before ++ item :: after ∧ assign item = some (key, value) ∧
        forall later, later ∈ after -> forall other, assign later ≠ some (key, other) := by
  constructor
  · intro last
    induction items with
    | nil => cases last
    | cons item items ih =>
        rw [lastValue_filterMap_cons] at last
        cases rest : lastValue key (items.filterMap assign) with
        | some found =>
            rw [rest, Option.some_or] at last
            rcases ih (rest.trans last) with ⟨before, found, after, split, others⟩
            exact ⟨item :: before, found, after, by rw [split]; rfl, others⟩
        | none =>
            rw [rest, Option.none_or, Option.bind_eq_some_iff] at last
            rcases last with ⟨⟨assignedKey, assignedValue⟩, assigned, given⟩
            split at given
            · rename_i same
              cases same
              cases given
              exact ⟨[], item, items, rfl, assigned, lastValue_filterMap_eq_none_iff.mp rest⟩
            · cases given
  · rintro ⟨before, item, after, rfl, assigned, others⟩
    have none := lastValue_filterMap_eq_none_iff.mpr others
    rw [List.filterMap_append, lastValue_append, lastValue_filterMap_cons, none, assigned,
      Option.bind_some, if_pos rfl]
    rfl

end Assignments

/-- A finite map with its keys in insertion order. -/
structure Dictionary (Key Value : Type) where
  entries : List (Key × Value)
  nodup : (entries.map Prod.fst).Nodup

namespace Dictionary

def empty : Dictionary Key Value :=
  ⟨[], List.nodup_nil⟩

def keys (dict : Dictionary Key Value) : List Key :=
  dict.entries.map Prod.fst

def get? (dict : Dictionary Key Value) (key : Key) : Option Value :=
  dict.entries.lookup key

def set (dict : Dictionary Key Value) (key : Key) (value : Value) : Dictionary Key Value where
  entries := setEntry key value dict.entries
  nodup := by
    rw [setEntry_keys]
    split
    · exact dict.nodup
    · rename_i absent
      exact List.nodup_append.mpr ⟨dict.nodup, List.nodup_singleton key, by
        intro first member second single equal
        rw [List.mem_singleton] at single
        exact absent (single ▸ equal ▸ member)⟩

theorem get?_set (dict : Dictionary Key Value) (key other : Key) (value : Value) :
    (dict.set key value).get? other = if other = key then some value else dict.get? other :=
  setEntry_lookup key value dict.entries other

@[simp] theorem get?_set_self (dict : Dictionary Key Value) (key : Key) (value : Value) :
    (dict.set key value).get? key = some value := by
  rw [get?_set, if_pos rfl]

theorem get?_set_of_ne (dict : Dictionary Key Value) {key other : Key} (value : Value)
    (different : other ≠ key) : (dict.set key value).get? other = dict.get? other := by
  rw [get?_set, if_neg different]

theorem get?_eq_none_of_not_mem (dict : Dictionary Key Value) {key : Key}
    (absent : key ∉ dict.keys) : dict.get? key = none := by
  rw [get?, List.lookup_eq_none_iff]
  intro entry member
  rw [bne_iff_ne]
  intro same
  exact absent (List.mem_map.mpr ⟨entry, member, same.symm⟩)

theorem get?_isSome_of_mem (dict : Dictionary Key Value) {key : Key}
    (present : key ∈ dict.keys) : (dict.get? key).isSome := by
  rw [get?, List.lookup_isSome_iff]
  rcases List.mem_map.mp present with ⟨entry, member, same⟩
  exact ⟨entry, member, beq_iff_eq.mpr same.symm⟩

theorem keys_set_of_not_mem (dict : Dictionary Key Value) {key : Key} (value : Value)
    (absent : key ∉ dict.keys) : (dict.set key value).keys = dict.keys ++ [key] := by
  rw [keys, set, setEntry_keys]
  exact if_neg absent

theorem keys_set_of_mem (dict : Dictionary Key Value) {key : Key} (value : Value)
    (present : key ∈ dict.keys) : (dict.set key value).keys = dict.keys := by
  rw [keys, set, setEntry_keys]
  exact if_pos present

theorem set_of_get?_eq {dict : Dictionary Key Value} {key : Key} {value : Value}
    (present : dict.get? key = some value) : dict.set key value = dict := by
  have same := setEntry_of_lookup present
  rcases dict with ⟨entries, nodup⟩
  simp only [set, mk.injEq]
  exact same

/-! ## Several assignments -/

/-- Assign from left to right. -/
def override (dict : Dictionary Key Value) (assignments : List (Key × Value)) :
    Dictionary Key Value :=
  assignments.foldl (fun dict assignment => dict.set assignment.1 assignment.2) dict

theorem override_cons (dict : Dictionary Key Value) (assignment : Key × Value)
    (assignments : List (Key × Value)) :
    dict.override (assignment :: assignments) =
      (dict.set assignment.1 assignment.2).override assignments :=
  rfl

/-- After the assignments a key has the last value assigned to it, or the
one it had. -/
theorem get?_override (dict : Dictionary Key Value) (assignments : List (Key × Value))
    (key : Key) :
    (dict.override assignments).get? key = (lastValue key assignments).or (dict.get? key) := by
  induction assignments generalizing dict with
  | nil => rfl
  | cons assignment assignments ih =>
      rw [override_cons, ih, get?_set, lastValue_cons]
      by_cases same : key = assignment.1
      · rw [if_pos same, if_pos same, Option.or_assoc]
        rfl
      · rw [if_neg same, if_neg same, Option.or_none]

/-- Assignments to keys that are there leave the keys alone. -/
theorem keys_override {dict : Dictionary Key Value} {assignments : List (Key × Value)}
    (present : forall assignment, assignment ∈ assignments -> assignment.1 ∈ dict.keys) :
    (dict.override assignments).keys = dict.keys := by
  induction assignments generalizing dict with
  | nil => rfl
  | cons assignment assignments ih =>
      have first := keys_set_of_mem dict assignment.2 (present assignment List.mem_cons_self)
      rw [override_cons, ih, first]
      intro later member
      rw [first]
      exact present later (List.mem_cons_of_mem assignment member)

/-- Assignments to distinct new keys add them in order. -/
theorem keys_override_of_fresh {dict : Dictionary Key Value} {assignments : List (Key × Value)}
    (fresh : (dict.keys ++ assignments.map Prod.fst).Nodup) :
    (dict.override assignments).keys = dict.keys ++ assignments.map Prod.fst := by
  induction assignments generalizing dict with
  | nil => exact (List.append_nil dict.keys).symm
  | cons assignment assignments ih =>
      have split : dict.keys ++ (assignment :: assignments).map Prod.fst =
          dict.keys ++ [assignment.1] ++ assignments.map Prod.fst := by
        rw [List.append_assoc]
        rfl
      rw [split] at fresh ⊢
      have absent : assignment.1 ∉ dict.keys := by
        intro present
        exact (List.nodup_append.mp fresh.of_append_left).2.2 _ present _
          (List.mem_singleton_self _) rfl
      have first := keys_set_of_not_mem dict assignment.2 absent
      rw [override_cons, ih (by rw [first]; exact fresh), first]

/-- Assignments that repeat what is there change nothing. -/
theorem override_eq_self {dict : Dictionary Key Value} {assignments : List (Key × Value)}
    (repeats : forall assignment, assignment ∈ assignments ->
      dict.get? assignment.1 = some assignment.2) : dict.override assignments = dict := by
  induction assignments with
  | nil => rfl
  | cons assignment assignments ih =>
      rw [override_cons, set_of_get?_eq (repeats assignment List.mem_cons_self)]
      apply ih
      intro later member
      exact repeats later (List.mem_cons_of_mem assignment member)

end Dictionary

end Foundations
end PythonEthtool
