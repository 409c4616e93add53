import Mathlib

namespace PythonEthtool
namespace Foundations

/-!
# Names in the order in which they are first seen

A list of entries, some of which carry a name.  Collecting each name when it
is first seen gives the names without repetition, in the order of the first
entry of each.  The entries may repeat names in any pattern.
-/

variable {Entry Name : Type} [DecidableEq Name]

/-- The names after one more entry. -/
def seen (nameOf : Entry -> Option Name) (names : List Name) (entry : Entry) : List Name :=
  match nameOf entry with
  | none => names
  | some name => if name ∈ names then names else names ++ [name]

/-- The entry carries this name. -/
def carries (nameOf : Entry -> Option Name) (name : Name) (entry : Entry) : Bool :=
  nameOf entry = some name

/-- The names of the entries, each once, by the position of its first
entry. -/
structure FirstSeen (nameOf : Entry -> Option Name) (entries : List Entry) (names : List Name) :
    Prop where
  nodup : names.Nodup
  mem_iff : forall name, name ∈ names ↔ ∃ entry, entry ∈ entries ∧ nameOf entry = some name
  ordered : names.Pairwise (fun first second =>
    entries.findIdx (carries nameOf first) < entries.findIdx (carries nameOf second))

namespace FirstSeen

variable {nameOf : Entry -> Option Name} {entries : List Entry} {names : List Name}

theorem nil : FirstSeen nameOf [] [] where
  nodup := List.nodup_nil
  mem_iff := by
    intro name
    simp
  ordered := List.Pairwise.nil

theorem findIdx_lt_of_mem (first : FirstSeen nameOf entries names) {name : Name}
    (member : name ∈ names) : entries.findIdx (carries nameOf name) < entries.length := by
  rcases (first.mem_iff name).mp member with ⟨entry, listed, named⟩
  exact List.findIdx_lt_length_of_exists ⟨entry, listed, decide_eq_true named⟩

/-- The first entry of a name does not change when entries are added. -/
theorem findIdx_append_of_mem (first : FirstSeen nameOf entries names) {name : Name}
    (member : name ∈ names) (later : List Entry) :
    (entries ++ later).findIdx (carries nameOf name) = entries.findIdx (carries nameOf name) := by
  rw [List.findIdx_append, if_pos (first.findIdx_lt_of_mem member)]

theorem findIdx_new (first : FirstSeen nameOf entries names) {name : Name} (fresh : name ∉ names)
    {entry : Entry} (named : nameOf entry = some name) :
    (entries ++ [entry]).findIdx (carries nameOf name) = entries.length := by
  have absent : forall other, other ∈ entries -> carries nameOf name other = false := by
    intro other listed
    apply decide_eq_false
    intro same
    exact fresh ((first.mem_iff name).mpr ⟨other, listed, same⟩)
  rw [List.findIdx_append, List.findIdx_eq_length_of_false absent, if_neg (Nat.lt_irrefl _)]
  simp [List.findIdx_cons, carries, named]

theorem ordered_append (first : FirstSeen nameOf entries names) (later : List Entry) :
    names.Pairwise (fun one other =>
      (entries ++ later).findIdx (carries nameOf one) <
        (entries ++ later).findIdx (carries nameOf other)) := by
  refine first.ordered.imp_of_mem ?_
  intro one other oneMember otherMember before
  rw [first.findIdx_append_of_mem oneMember, first.findIdx_append_of_mem otherMember]
  exact before

/-- An entry without a name, or with one that was seen before. -/
theorem keep (first : FirstSeen nameOf entries names) {entry : Entry}
    (known : forall name, nameOf entry = some name -> name ∈ names) :
    FirstSeen nameOf (entries ++ [entry]) names where
  nodup := first.nodup
  mem_iff := by
    intro name
    rw [first.mem_iff]
    constructor
    · rintro ⟨other, listed, named⟩
      exact ⟨other, List.mem_append_left [entry] listed, named⟩
    · rintro ⟨other, listed, named⟩
      rcases List.mem_append.mp listed with earlier | last
      · exact ⟨other, earlier, named⟩
      · cases List.mem_singleton.mp last
        exact (first.mem_iff name).mp (known name named)
  ordered := first.ordered_append [entry]

/-- An entry with a new name. -/
theorem add (first : FirstSeen nameOf entries names) {entry : Entry} {name : Name}
    (named : nameOf entry = some name) (fresh : name ∉ names) :
    FirstSeen nameOf (entries ++ [entry]) (names ++ [name]) where
  nodup := List.nodup_append.mpr ⟨first.nodup, List.nodup_singleton name, by
    intro one member other single same
    rw [List.mem_singleton] at single
    exact fresh (single ▸ same ▸ member)⟩
  mem_iff := by
    intro other
    rw [List.mem_append, List.mem_singleton, first.mem_iff]
    constructor
    · rintro (⟨earlier, listed, carried⟩ | rfl)
      · exact ⟨earlier, List.mem_append_left [entry] listed, carried⟩
      · exact ⟨entry, List.mem_append_right entries List.mem_cons_self, named⟩
    · rintro ⟨carrier, listed, carried⟩
      rcases List.mem_append.mp listed with earlier | last
      · exact Or.inl ⟨carrier, earlier, carried⟩
      · cases List.mem_singleton.mp last
        exact Or.inr (Option.some.inj (carried.symm.trans named))
  ordered := by
    refine List.pairwise_append.mpr ⟨first.ordered_append [entry], List.pairwise_singleton _ _, ?_⟩
    intro one member other last
    cases List.mem_singleton.mp last
    rw [first.findIdx_append_of_mem member, first.findIdx_new fresh named]
    exact first.findIdx_lt_of_mem member

/-- One more entry. -/
theorem step (first : FirstSeen nameOf entries names) (entry : Entry) :
    FirstSeen nameOf (entries ++ [entry]) (seen nameOf names entry) := by
  rw [seen]
  cases named : nameOf entry with
  | none =>
      apply first.keep
      intro name also
      rw [named] at also
      cases also
  | some name =>
      dsimp only
      by_cases member : name ∈ names
      · rw [if_pos member]
        apply first.keep
        intro other also
        rw [named] at also
        cases also
        exact member
      · rw [if_neg member]
        exact first.add named member

theorem foldl (first : FirstSeen nameOf entries names) (later : List Entry) :
    FirstSeen nameOf (entries ++ later) (later.foldl (seen nameOf) names) := by
  induction later generalizing entries names with
  | nil =>
      rw [List.append_nil]
      exact first
  | cons entry later ih =>
      have after := ih (first.step entry)
      rw [List.append_assoc] at after
      exact after

end FirstSeen

end Foundations
end PythonEthtool
