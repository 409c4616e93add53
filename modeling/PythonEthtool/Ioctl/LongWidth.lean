import PythonEthtool.Ioctl.Codec

namespace PythonEthtool
namespace Ioctl

open Foundations
open Python

/-!
# The codec and the width of `long`

A field is a `uint32_t`, but on its way to Python and back it passes through
`long`.  Where that type has 64 bits every value fits.  Where it has 32, the
encoding wraps the upper half of the values to negative numbers, and the
decoding refuses them: the conversion returns -1, which the loop stores, and
its exception stays pending.
-/

/-! ## One value -/

theorem toLong_eq_iff {width : LongWidth} {word : UInt32} :
    toLong width word = word.toNat ↔ width = .bits64 ∨ word.toNat < 2 ^ 31 := by
  have bound := UInt32.toNat_lt word
  rw [toLong]
  by_cases fits : (word.toNat : Int) < width.bound
  · rw [if_pos fits]
    cases width with
    | bits32 =>
        simp only [LongWidth.bound] at fits
        simp only [true_iff]
        exact Or.inr (by omega)
    | bits64 => simp
  · rw [if_neg fits]
    cases width with
    | bits32 =>
        simp only [LongWidth.bound, reduceCtorEq, false_or] at fits ⊢
        omega
    | bits64 =>
        simp only [LongWidth.bound] at fits
        omega

theorem intAsLong_quiet_iff {width : LongWidth} {number : Int} (lower : 0 ≤ number)
    (upper : number < 2 ^ 32) :
    (intAsLong width number).2 = none ↔ width = .bits64 ∨ number < 2 ^ 31 := by
  rw [intAsLong]
  by_cases fits : -width.bound ≤ number ∧ number < width.bound
  · rw [if_pos fits]
    cases width with
    | bits32 =>
        simp only [LongWidth.bound] at fits
        simp only [true_iff]
        exact Or.inr fits.2
    | bits64 => simp
  · rw [if_neg fits]
    cases width with
    | bits32 =>
        simp only [LongWidth.bound, reduceCtorEq, false_or, false_iff] at fits ⊢
        omega
    | bits64 =>
        simp only [LongWidth.bound] at fits
        omega

theorem intAsLong_of_quiet {width : LongWidth} {number : Int}
    (quiet : (intAsLong width number).2 = none) : (intAsLong width number).1 = number := by
  rw [intAsLong] at quiet ⊢
  split at quiet
  · rw [if_pos (by assumption)]
  · cases quiet

/-! ## The pending exception -/

section Pending

variable {width : LongWidth} {object : PyObject} {table : List StructDesc}

theorem fromDict_stays_pending (target : Memory) {pending : Option PyError}
    (raised : pending.isSome) :
    (structDescFromDict width object table target pending).pending.isSome := by
  induction table generalizing target pending with
  | nil => exact raised
  | cons row table ih =>
      simp only [structDescFromDict]
      split
      · cases found : pyDictGetItemString object row.name with
        | none => rfl
        | some value =>
            apply ih
            rw [Option.isSome_or, raised, Bool.or_true]
      · rfl

/-- A value that does not convert leaves its exception behind. -/
theorem fromDict_raised {row : StructDesc} (member : row ∈ table) {value : PyValue}
    (found : pyDictGetItemString object row.name = some value)
    (raised : (pyLongAsLong width value).2.isSome) (target : Memory) (pending : Option PyError) :
    (structDescFromDict width object table target pending).pending.isSome := by
  induction table generalizing target pending with
  | nil => cases member
  | cons first table ih =>
      simp only [structDescFromDict]
      split
      · cases head : pyDictGetItemString object first.name with
        | none => rfl
        | some other =>
            rcases List.mem_cons.mp member with same | later
            · subst same
              rw [found] at head
              cases head
              apply fromDict_stays_pending
              rw [Option.isSome_or, raised, Bool.true_or]
            · exact ih later _ _
      · rfl

end Pending

/-! ## The codec on both kinds of platform -/

/-- The codec is exact on these words and this dictionary: the fields are
mapped to their unsigned values, the values of the dictionary are stored
without an exception, and encoding what was stored gives them back. -/
structure CodecExact (width : LongWidth) (settings : Settings) (values prior : Memory)
    (entries : PyDict) : Prop where
  encodes : ∃ dict, structDescCreateDict width settings.desc values = some dict ∧
    forall name, name ∈ settings.struct.fields ->
      dict.get? (.str name) = some (.int (load32 values (settings.struct.offsetof name)).toNat)
  returns : (structDescFromDict width (.dict entries) settings.desc prior none).returned = 0
  quiet : (structDescFromDict width (.dict entries) settings.desc prior none).pending = none
  stores : forall name, name ∈ settings.struct.fields ->
    entries.get? (.str name) =
      some (.int (load32 (structDescFromDict width (.dict entries) settings.desc prior none).target
        (settings.struct.offsetof name)).toNat)
  restores : ∃ dict, structDescCreateDict width settings.desc
      (structDescFromDict width (.dict entries) settings.desc prior none).target = some dict ∧
    forall name, name ∈ settings.struct.fields ->
      dict.get? (.str name) = entries.get? (.str name)

/-- The words of the structure have a clear top bit. -/
def SmallWords (settings : Settings) (values : Memory) : Prop :=
  forall name, name ∈ settings.struct.fields ->
    (load32 values (settings.struct.offsetof name)).toNat < 2 ^ 31

/-- The integers under the field names are below the middle of the range. -/
def SmallEntries (settings : Settings) (entries : PyDict) : Prop :=
  forall name number, name ∈ settings.struct.fields ->
    entries.get? (.str name) = some (.int number) -> number < 2 ^ 31

section Exact

variable {width : LongWidth} {settings : Settings}

theorem encodes_iff {values : Memory} :
    (∃ dict, structDescCreateDict width settings.desc values = some dict ∧
      forall name, name ∈ settings.struct.fields ->
        dict.get? (.str name) =
          some (.int (load32 values (settings.struct.offsetof name)).toNat)) ↔
      width = .bits64 ∨ SmallWords settings values := by
  rcases createDict_get settings width values with ⟨dict, created, _, words⟩
  constructor
  · rintro ⟨other, same, exact⟩
    rw [created] at same
    cases same
    by_cases wide : width = .bits64
    · exact Or.inl wide
    · apply Or.inr
      intro name member
      have word := exact name member
      rw [words name member] at word
      simp only [Option.some.injEq, PyValue.int.injEq] at word
      exact (toLong_eq_iff.mp word).resolve_left wide
  · intro fits
    refine ⟨dict, created, ?_⟩
    intro name member
    rw [words name member, toLong_eq_iff.mpr]
    rcases fits with wide | small
    · exact Or.inl wide
    · exact Or.inr (small name member)

variable {entries : PyDict}

theorem row_of_legal (legal : Legal settings (.dict entries)) {row : StructDesc}
    (member : row ∈ settings.desc) :
    ∃ number : Int, entries.get? (.str row.name) = some (.int number) ∧
      0 ≤ number ∧ number < 2 ^ 32 := by
  have field : row.name ∈ settings.struct.fields := by
    rw [settings.covers.fields]
    exact List.mem_map_of_mem member
  rcases legal row.name field with ⟨value, found, number, rfl, lower, upper⟩
  exact ⟨number, found, lower, upper⟩

theorem allPresent_of_legal (legal : Legal settings (.dict entries)) :
    AllPresent (.dict entries) settings.desc := by
  intro row member
  rcases row_of_legal legal member with ⟨number, found, _, _⟩
  change (entries.get? (.str row.name)).isSome
  rw [found]
  rfl

/-- No exception is left behind exactly where every integer is a `long`. -/
theorem quiet_iff (legal : Legal settings (.dict entries)) (prior : Memory) :
    (structDescFromDict width (.dict entries) settings.desc prior none).pending = none ↔
      width = .bits64 ∨ SmallEntries settings entries := by
  have covers := settings.covers
  constructor
  · intro quiet
    by_cases wide : width = .bits64
    · exact Or.inl wide
    · apply Or.inr
      intro name number member found
      rcases covers.row_of_field member with ⟨row, rowMember, rfl⟩
      rcases row_of_legal legal rowMember with ⟨same, present, lower, upper⟩
      rw [found] at present
      cases present
      apply ((intAsLong_quiet_iff lower upper).mp ?_).resolve_left wide
      by_contra raised
      have failed : (pyLongAsLong width (.int number)).2.isSome :=
        Option.isSome_iff_ne_none.mpr raised
      have present : pyDictGetItemString (.dict entries) row.name = some (.int number) := found
      have pending := fromDict_raised rowMember present failed prior none
      rw [quiet] at pending
      cases pending
  · intro fits
    apply fromDict_pending (fun _ => covers.size)
    intro row member
    rcases row_of_legal legal member with ⟨number, found, lower, upper⟩
    refine ⟨.int number, found, (intAsLong_quiet_iff lower upper).mpr ?_⟩
    rcases fits with wide | small
    · exact Or.inl wide
    · apply Or.inr
      apply small row.name number _ found
      rw [covers.fields]
      exact List.mem_map_of_mem member

/-- What converts is stored as it is. -/
theorem stores_of_fits (legal : Legal settings (.dict entries)) (prior : Memory)
    (fits : width = .bits64 ∨ SmallEntries settings entries) {name : String}
    (member : name ∈ settings.struct.fields) :
    entries.get? (.str name) =
      some (.int (load32 (structDescFromDict width (.dict entries) settings.desc prior none).target
        (settings.struct.offsetof name)).toNat) := by
  have covers := settings.covers
  rcases covers.row_of_field member with ⟨row, rowMember, rfl⟩
  rcases row_of_legal legal rowMember with ⟨number, found, lower, upper⟩
  have converts : (intAsLong width number).2 = none := by
    apply (intAsLong_quiet_iff lower upper).mpr
    exact fits.imp id (fun small => small row.name number member found)
  rw [← covers.offset rowMember, fromDict_load (fun _ => covers.size) covers.pairwise
    (allPresent_of_legal legal) rowMember found, found, pyLongAsLong,
    intAsLong_of_quiet converts, word_of_fits lower upper]

/-- What is stored from small integers has a clear top bit. -/
theorem smallWords_of_stored {target : Memory} (small : SmallEntries settings entries)
    (stored : forall name, name ∈ settings.struct.fields ->
      entries.get? (.str name) =
        some (.int (load32 target (settings.struct.offsetof name)).toNat)) :
    SmallWords settings target := by
  intro name member
  have bound := small name _ member (stored name member)
  omega

end Exact

/-- The codec is exact where `long` has 64 bits, and elsewhere for the lower
half of the values only. -/
theorem codecExact_iff (width : LongWidth) (settings : Settings) (values prior : Memory)
    (entries : PyDict) (legal : Legal settings (.dict entries)) :
    CodecExact width settings values prior entries ↔
      width = .bits64 ∨ (SmallWords settings values ∧ SmallEntries settings entries) := by
  constructor
  · intro exact
    rcases encodes_iff.mp exact.encodes with wide | words
    · exact Or.inl wide
    · rcases (quiet_iff legal prior).mp exact.quiet with wide | small
      · exact Or.inl wide
      · exact Or.inr ⟨words, small⟩
  · intro fits
    have small : width = .bits64 ∨ SmallEntries settings entries := fits.imp id And.right
    have stored : forall name, name ∈ settings.struct.fields -> _ :=
      fun _ member => stores_of_fits legal prior small member
    refine ⟨encodes_iff.mpr (fits.imp id And.left), ?_, (quiet_iff legal prior).mpr small,
      stored, ?_⟩
    · exact (fromDict_returned_iff (fun _ => settings.covers.size) prior none).mpr
        (allPresent_of_legal legal)
    · have words := small.imp id (fun small => smallWords_of_stored small stored)
      rcases encodes_iff.mpr words with ⟨dict, created, fields⟩
      refine ⟨dict, created, ?_⟩
      intro name member
      rw [fields name member, stored name member]

/-- A dictionary that gives one number to every field. -/
def uniform (settings : Settings) (number : Int) : PyDict :=
  Dictionary.empty.override
    (settings.struct.fields.map (fun name => (PyValue.str name, PyValue.int number)))

theorem get?_uniform {settings : Settings} {number : Int} {name : String}
    (member : name ∈ settings.struct.fields) :
    (uniform settings number).get? (.str name) = some (.int number) := by
  rw [uniform, Dictionary.get?_override]
  cases last : lastValue (PyValue.str name) _ with
  | none =>
      exact absurd rfl (lastValue_eq_none_iff.mp last _ (List.mem_map_of_mem member))
  | some value =>
      rcases List.mem_map.mp (lastValue_mem last) with ⟨other, _, same⟩
      rw [Option.some_or, ← (Prod.mk.inj same).2]

theorem uniform_legal {settings : Settings} {number : Int} (lower : 0 ≤ number)
    (upper : number < 2 ^ 32) : Legal settings (.dict (uniform settings number)) := by
  intro name member
  exact ⟨.int number, get?_uniform member, number, rfl, lower, upper⟩

/-- The largest number of all, with 64-bit `long`. -/
theorem codecExact_largest :
    CodecExact .bits64 .ringparam (fun _ => 255) (fun _ => 0) (uniform .ringparam (2 ^ 32 - 1)) :=
  (codecExact_iff .bits64 .ringparam (fun _ => 255) (fun _ => 0)
    (uniform .ringparam (2 ^ 32 - 1)) (uniform_legal (by decide) (by decide))).mpr (Or.inl rfl)

/-- A set top bit, with 32-bit `long`: the conversion fails. -/
theorem codec_narrow_fails :
    ¬ CodecExact .bits32 .ringparam (fun _ => 0) (fun _ => 0)
      (uniform .ringparam (2 ^ 31)) := by
  intro exact
  have member : "rx_pending" ∈ Settings.ringparam.struct.fields := by
    decide
  have quiet := (quiet_iff (uniform_legal (by decide) (by decide)) _).mp exact.quiet
  rcases quiet with wide | small
  · cases wide
  · have bound := small "rx_pending" (2 ^ 31) member (get?_uniform member)
    omega

end Ioctl
end PythonEthtool
