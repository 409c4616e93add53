import PythonEthtool.Ioctl.StructDesc

namespace PythonEthtool
namespace Ioctl

open Foundations
open Python

/-!
# The codec between structures and dictionaries

The facts here are about the two loops over any table that covers its
structure.  Rows do not overlap each other or the `cmd` word, and together
with it they fill the structure, so decoding after encoding is the identity
on the members, encoding after decoding is the restriction of the dictionary
to the member names, and nothing of the memory that the structure happened
to lie in survives a successful decoding followed by the write of `cmd`.
-/

/-! ## Layout -/

namespace Covers

variable {struct : U32Struct} {table : List StructDesc}

theorem size (covers : Covers struct table) {row : StructDesc} (member : row ∈ table) :
    row.size = 4 := by
  rw [covers.rows row member]
  rfl

theorem offset (covers : Covers struct table) {row : StructDesc} (member : row ∈ table) :
    row.offset = struct.offsetof row.name := by
  rw [covers.rows row member]
  rfl

theorem name_mem (covers : Covers struct table) {row : StructDesc} (member : row ∈ table) :
    row.name ∈ struct.members := by
  rw [covers.members]
  exact List.mem_cons_of_mem "cmd" (List.mem_map_of_mem member)

theorem names_nodup (covers : Covers struct table) :
    (table.map StructDesc.name).Nodup :=
  (List.nodup_cons.mp (covers.members ▸ covers.nodup)).2

theorem name_ne_cmd (covers : Covers struct table) {row : StructDesc} (member : row ∈ table) :
    row.name ≠ "cmd" := by
  intro same
  apply (List.nodup_cons.mp (covers.members ▸ covers.nodup)).1
  rw [← same]
  exact List.mem_map_of_mem member

theorem fields (covers : Covers struct table) : struct.fields = table.map StructDesc.name := by
  have others : forall name, name ∈ table.map StructDesc.name -> name ≠ "cmd" := by
    intro name member
    rcases List.mem_map.mp member with ⟨row, rowMember, rfl⟩
    exact covers.name_ne_cmd rowMember
  rw [U32Struct.fields, covers.members]
  simp only [ne_eq, not_true_eq_false, decide_false, Bool.false_eq_true, not_false_eq_true,
    List.filter_cons_of_neg]
  apply List.filter_eq_self.mpr
  intro name member
  exact decide_eq_true (others name member)

theorem row_of_field (covers : Covers struct table) {name : String}
    (member : name ∈ struct.fields) : ∃ row, row ∈ table ∧ row.name = name := by
  rw [covers.fields] at member
  exact List.mem_map.mp member

theorem disjoint (covers : Covers struct table) {first second : StructDesc}
    (firstMember : first ∈ table) (secondMember : second ∈ table)
    (different : first.name ≠ second.name) : Disjoint32 first.offset second.offset := by
  have apart : struct.members.idxOf first.name ≠ struct.members.idxOf second.name := by
    intro same
    exact different ((List.idxOf_inj (covers.name_mem firstMember)).mp same)
  rw [covers.offset firstMember, covers.offset secondMember]
  simp only [Disjoint32, U32Struct.offsetof]
  omega

theorem cmd_disjoint (covers : Covers struct table) {row : StructDesc} (member : row ∈ table) :
    Disjoint32 row.offset 0 := by
  rw [covers.offset member, U32Struct.offsetof, covers.members,
    List.idxOf_cons_ne _ (covers.name_ne_cmd member).symm]
  simp only [Disjoint32]
  omega

theorem pairwise (covers : Covers struct table) :
    table.Pairwise (fun first second =>
      first.name ≠ second.name ∧ Disjoint32 first.offset second.offset) := by
  have names : table.Pairwise (fun first second => first.name ≠ second.name) :=
    List.pairwise_map.mp covers.names_nodup
  exact names.imp_of_mem (fun firstMember secondMember different =>
    ⟨different, covers.disjoint firstMember secondMember different⟩)

/-- Every byte of the structure belongs to `cmd` or to a row. -/
theorem byte_covered (covers : Covers struct table) {offset : Nat}
    (inside : offset < struct.sizeof) :
    InWord 0 offset ∨ ∃ row, row ∈ table ∧ InWord row.offset offset := by
  have index : offset / 4 < struct.members.length := by
    simp only [U32Struct.sizeof] at inside
    omega
  by_cases first : offset / 4 = 0
  · left
    simp only [InWord]
    omega
  · right
    have length : struct.members.length = table.length + 1 := by
      rw [covers.members, List.length_cons, List.length_map]
    have position : offset / 4 - 1 < table.length := by omega
    refine ⟨table[offset / 4 - 1], List.getElem_mem position, ?_⟩
    have named : struct.members[offset / 4] = table[offset / 4 - 1].name := by
      simp only [covers.members]
      rw [List.getElem_cons, dif_neg first, List.getElem_map]
    rw [covers.offset (List.getElem_mem position), U32Struct.offsetof, ← named,
      covers.nodup.idxOf_getElem]
    simp only [InWord]
    omega

end Covers

/-! ## Decoding -/

section Decoding

variable {width : LongWidth} {object : PyObject} {table : List StructDesc}

/-- Every row finds its name in the object. -/
def AllPresent (object : PyObject) (table : List StructDesc) : Prop :=
  forall row, row ∈ table -> (pyDictGetItemString object row.name).isSome

/-- The loop runs to its end exactly when no name is missing. -/
theorem fromDict_returned_iff (sizes : forall row, row ∈ table -> row.size = 4)
    (target : Memory) (pending : Option PyError) :
    (structDescFromDict width object table target pending).returned = 0 ↔
      AllPresent object table := by
  induction table generalizing target pending with
  | nil => simp [structDescFromDict, AllPresent]
  | cons row table ih =>
      have sized := sizes row List.mem_cons_self
      have rest := fun target pending =>
        ih (fun later member => sizes later (List.mem_cons_of_mem row member)) target pending
      simp only [structDescFromDict, if_pos sized]
      cases found : pyDictGetItemString object row.name with
      | none =>
          simp only [AllPresent, List.forall_mem_cons, found, Option.isSome_none]
          simp
      | some value =>
          rw [rest]
          simp only [AllPresent, List.forall_mem_cons, found, Option.isSome_some, true_and]

/-- Bytes outside the rows are not written. -/
theorem fromDict_outside {offset : Nat}
    (outside : forall row, row ∈ table -> ¬ InWord row.offset offset)
    (target : Memory) (pending : Option PyError) :
    (structDescFromDict width object table target pending).target offset = target offset := by
  induction table generalizing target pending with
  | nil => rfl
  | cons row table ih =>
      simp only [structDescFromDict]
      split
      · cases found : pyDictGetItemString object row.name with
        | none => rfl
        | some value =>
            dsimp only
            rw [ih (fun later member => outside later (List.mem_cons_of_mem row member)),
              store32_outside _ _ _ (outside row List.mem_cons_self)]
      · rfl

/-- After a complete run a row holds the converted value of its name. -/
theorem fromDict_load (sizes : forall row, row ∈ table -> row.size = 4)
    (apart : table.Pairwise (fun first second =>
      first.name ≠ second.name ∧ Disjoint32 first.offset second.offset))
    (present : AllPresent object table) {row : StructDesc} (member : row ∈ table)
    {value : PyValue} (found : pyDictGetItemString object row.name = some value)
    (target : Memory) (pending : Option PyError) :
    load32 (structDescFromDict width object table target pending).target row.offset =
      UInt32.ofInt (pyLongAsLong width value).1 := by
  induction table generalizing target pending with
  | nil => cases member
  | cons first table ih =>
      have sized := sizes first List.mem_cons_self
      have parts := List.pairwise_cons.mp apart
      rcases Option.isSome_iff_exists.mp (present first List.mem_cons_self) with ⟨head, headFound⟩
      simp only [structDescFromDict, if_pos sized, headFound]
      rcases List.mem_cons.mp member with same | later
      · subst same
        rw [found] at headFound
        cases headFound
        have kept : forall offset, InWord row.offset offset ->
            (structDescFromDict width object table
              (store32 target row.offset (UInt32.ofInt (pyLongAsLong width value).1))
              ((pyLongAsLong width value).2.or pending)).target offset =
            store32 target row.offset (UInt32.ofInt (pyLongAsLong width value).1) offset := by
          intro offset inside
          apply fromDict_outside
          intro other otherMember
          have disjoint := (parts.1 other otherMember).2
          simp only [Disjoint32, InWord] at disjoint inside ⊢
          omega
        rw [load32_congr kept, load32_store32]
      · exact ih (fun other otherMember => sizes other (List.mem_cons_of_mem first otherMember))
          parts.2 (fun other otherMember => present other (List.mem_cons_of_mem first otherMember))
          later _ _

/-- After a complete run the bytes of the rows do not depend on the memory
before it. -/
theorem fromDict_inside (sizes : forall row, row ∈ table -> row.size = 4)
    (present : AllPresent object table) {offset : Nat}
    (inside : ∃ row, row ∈ table ∧ InWord row.offset offset)
    (left right : Memory) (leftPending rightPending : Option PyError) :
    (structDescFromDict width object table left leftPending).target offset =
      (structDescFromDict width object table right rightPending).target offset := by
  induction table generalizing left right leftPending rightPending with
  | nil =>
      rcases inside with ⟨row, member, _⟩
      cases member
  | cons first table ih =>
      have sized := sizes first List.mem_cons_self
      rcases Option.isSome_iff_exists.mp (present first List.mem_cons_self) with ⟨value, found⟩
      simp only [structDescFromDict, if_pos sized, found]
      by_cases later : ∃ row, row ∈ table ∧ InWord row.offset offset
      · exact ih (fun other member => sizes other (List.mem_cons_of_mem first member))
          (fun other member => present other (List.mem_cons_of_mem first member)) later _ _ _ _
      · have outside : forall row, row ∈ table -> ¬ InWord row.offset offset :=
          fun row member covered => later ⟨row, member, covered⟩
        rw [fromDict_outside outside, fromDict_outside outside]
        apply store32_inside
        rcases inside with ⟨row, member, covered⟩
        rcases List.mem_cons.mp member with same | tail
        · exact same ▸ covered
        · exact absurd covered (outside row tail)

/-- No exception is left behind when every value converts. -/
theorem fromDict_pending (sizes : forall row, row ∈ table -> row.size = 4)
    (converts : forall row, row ∈ table -> ∃ value,
      pyDictGetItemString object row.name = some value ∧ (pyLongAsLong width value).2 = none)
    (target : Memory) (pending : Option PyError) :
    (structDescFromDict width object table target pending).pending = pending := by
  induction table generalizing target pending with
  | nil => rfl
  | cons row table ih =>
      have sized := sizes row List.mem_cons_self
      rcases converts row List.mem_cons_self with ⟨value, found, quiet⟩
      simp only [structDescFromDict, if_pos sized, found]
      rw [ih (fun later member => sizes later (List.mem_cons_of_mem row member))
        (fun later member => converts later (List.mem_cons_of_mem row member)), quiet,
        Option.none_or]

end Decoding

/-! ## Encoding -/

section Encoding

variable (width : LongWidth) (values : Memory)

/-- The dictionary that the encoding loop fills, row by row. -/
def filled (dict : PyDict) (table : List StructDesc) : PyDict :=
  table.foldl
    (fun dict row => dict.set (.str row.name)
      (pyLongFromLong (toLong width (load32 values row.offset)))) dict

theorem createDictFrom_eq_filled {table : List StructDesc}
    (sizes : forall row, row ∈ table -> row.size = 4) (dict : PyDict) :
    createDictFrom width values dict table = some (filled width values dict table) := by
  induction table generalizing dict with
  | nil => rfl
  | cons row table ih =>
      simp only [createDictFrom, if_pos (sizes row List.mem_cons_self)]
      rw [ih (fun later member => sizes later (List.mem_cons_of_mem row member))]
      rfl

theorem filled_get_other {table : List StructDesc} {key : PyValue}
    (other : forall row, row ∈ table -> key ≠ .str row.name) (dict : PyDict) :
    (filled width values dict table).get? key = dict.get? key := by
  induction table generalizing dict with
  | nil => rfl
  | cons row table ih =>
      change (filled width values (dict.set _ _) table).get? key = _
      rw [ih (fun later member => other later (List.mem_cons_of_mem row member)),
        Dictionary.get?_set_of_ne _ _ (other row List.mem_cons_self)]

theorem filled_get_row {table : List StructDesc}
    (names : (table.map StructDesc.name).Nodup) {row : StructDesc} (member : row ∈ table)
    (dict : PyDict) :
    (filled width values dict table).get? (.str row.name) =
      some (.int (toLong width (load32 values row.offset))) := by
  induction table generalizing dict with
  | nil => cases member
  | cons first table ih =>
      change (filled width values (dict.set _ _) table).get? _ = _
      have parts := List.nodup_cons.mp names
      rcases List.mem_cons.mp member with same | later
      · subst same
        rw [filled_get_other, Dictionary.get?_set_self]
        · rfl
        · intro other otherMember equal
          apply parts.1
          exact List.mem_map.mpr ⟨other, otherMember, (PyValue.str.inj equal).symm⟩
      · exact ih parts.2 later _

theorem filled_keys {table : List StructDesc} (names : (table.map StructDesc.name).Nodup)
    (dict : PyDict) (fresh : forall row, row ∈ table -> PyValue.str row.name ∉ dict.keys) :
    (filled width values dict table).keys =
      dict.keys ++ table.map (fun row => PyValue.str row.name) := by
  induction table generalizing dict with
  | nil => simp [filled]
  | cons row table ih =>
      change (filled width values (dict.set _ _) table).keys = _
      have parts := List.nodup_cons.mp names
      have added := Dictionary.keys_set_of_not_mem dict
        (pyLongFromLong (toLong width (load32 values row.offset))) (fresh row List.mem_cons_self)
      rw [ih parts.2, added, List.append_assoc]
      · rfl
      · intro later member
        rw [added, List.mem_append, List.mem_singleton]
        rintro (old | same)
        · exact fresh later (List.mem_cons_of_mem row member) old
        · apply parts.1
          exact List.mem_map.mpr ⟨later, member, PyValue.str.inj same⟩

end Encoding

/-! ## Round trips -/

/-- A Python integer that fits a `u32`. -/
def FitsU32 (value : PyValue) : Prop :=
  ∃ number : Int, value = .int number ∧ 0 ≤ number ∧ number < 2 ^ 32

theorem word_of_fits {number : Int} (lower : 0 ≤ number) (upper : number < 2 ^ 32) :
    ((UInt32.ofInt number).toNat : Int) = number := by
  simp only [UInt32.ofInt, UInt32.toNat_ofNat']
  omega

theorem FitsU32.asLong {value : PyValue} (fits : FitsU32 value) :
    (pyLongAsLong .bits64 value).2 = none ∧
      value = .int (UInt32.ofInt (pyLongAsLong .bits64 value).1).toNat := by
  rcases fits with ⟨number, rfl, lower, upper⟩
  rw [pyLongAsLong, intAsLong_bits64 lower upper]
  refine ⟨rfl, ?_⟩
  rw [word_of_fits lower upper]

theorem fitsU32_word (word : UInt32) : FitsU32 (.int word.toNat) := by
  have bound := UInt32.toNat_lt word
  exact ⟨word.toNat, rfl, by omega, by omega⟩

/-- Every field name is present with an integer that fits. -/
def Legal (settings : Settings) (object : PyObject) : Prop :=
  forall name, name ∈ settings.struct.fields ->
    ∃ value, pyDictGetItemString object name = some value ∧ FitsU32 value

section RoundTrip

variable (settings : Settings)

/-- The encoding of a structure. -/
theorem createDict_get (width : LongWidth) (values : Memory) :
    ∃ dict, structDescCreateDict width settings.desc values = some dict ∧
      dict.keys = settings.struct.fields.map PyValue.str ∧
      forall name, name ∈ settings.struct.fields ->
        dict.get? (.str name) =
          some (.int (toLong width (load32 values (settings.struct.offsetof name)))) := by
  have covers := settings.covers
  refine ⟨_, createDictFrom_eq_filled width values (fun _ => covers.size) .empty, ?_, ?_⟩
  · rw [filled_keys width values covers.names_nodup .empty (by
      intro row _ member
      cases member), covers.fields, List.map_map]
    rfl
  · intro name member
    rcases covers.row_of_field member with ⟨row, rowMember, rfl⟩
    rw [filled_get_row width values covers.names_nodup rowMember, covers.offset rowMember]

/-- With 64-bit `long` the fields are mapped to their unsigned values. -/
theorem createDict_spec (values : Memory) :
    ∃ dict, structDescCreateDict .bits64 settings.desc values = some dict ∧
      dict.keys = settings.struct.fields.map PyValue.str ∧
      forall name, name ∈ settings.struct.fields ->
        dict.get? (.str name) =
          some (.int (load32 values (settings.struct.offsetof name)).toNat) := by
  rcases createDict_get settings .bits64 values with ⟨dict, created, keys, fields⟩
  refine ⟨dict, created, keys, ?_⟩
  intro name member
  rw [fields name member, toLong_bits64]

/-- The decoding of a dictionary with every name, with 64-bit `long`. -/
theorem fromDict_spec {object : PyObject} (legal : Legal settings object) (prior : Memory) :
    (structDescFromDict .bits64 object settings.desc prior none).returned = 0 ∧
      (structDescFromDict .bits64 object settings.desc prior none).pending = none ∧
      forall name, name ∈ settings.struct.fields ->
        pyDictGetItemString object name =
          some (.int (load32 (structDescFromDict .bits64 object settings.desc prior none).target
            (settings.struct.offsetof name)).toNat) := by
  have covers := settings.covers
  have rows : forall row, row ∈ settings.desc -> ∃ value,
      pyDictGetItemString object row.name = some value ∧ FitsU32 value := by
    intro row member
    apply legal
    rw [covers.fields]
    exact List.mem_map_of_mem member
  have present : AllPresent object settings.desc := by
    intro row member
    rcases rows row member with ⟨value, found, _⟩
    rw [found]
    rfl
  refine ⟨(fromDict_returned_iff (fun _ => covers.size) prior none).mpr present, ?_, ?_⟩
  · apply fromDict_pending (fun _ => covers.size)
    intro row member
    rcases rows row member with ⟨value, found, fits⟩
    exact ⟨value, found, fits.asLong.1⟩
  · intro name member
    rcases covers.row_of_field member with ⟨row, rowMember, rfl⟩
    rcases rows row rowMember with ⟨value, found, fits⟩
    rw [← covers.offset rowMember, fromDict_load (fun _ => covers.size) covers.pairwise present
      rowMember found, found]
    exact congrArg some fits.asLong.2

/-- No byte of the structure that is sent depends on the memory in which it
was filled. -/
theorem sent_bytes_determined {object : PyObject} {left : Memory}
    (complete : (structDescFromDict .bits64 object settings.desc left none).returned = 0)
    (right : Memory) (cmd : UInt32) {offset : Nat} (inside : offset < settings.struct.sizeof) :
    writeCmd (structDescFromDict .bits64 object settings.desc left none).target cmd offset =
      writeCmd (structDescFromDict .bits64 object settings.desc right none).target cmd offset := by
  have covers := settings.covers
  have present : AllPresent object settings.desc :=
    (fromDict_returned_iff (fun _ => covers.size) left none).mp complete
  rw [writeCmd_eq, writeCmd_eq]
  by_cases first : InWord 0 offset
  · exact store32_inside _ _ _ _ first
  · rw [store32_outside _ _ _ first, store32_outside _ _ _ first]
    apply fromDict_inside (fun _ => covers.size) present
    exact (covers.byte_covered inside).resolve_left first

/-- The codec of both kinds of settings.  Encoding names exactly the fields
and decoding restores them; decoding and encoding a dictionary restricts it
to the field names; and what is sent is a function of the dictionary and the
command alone. -/
theorem codec_roundtrip :
    (forall values prior, ∃ dict,
      structDescCreateDict .bits64 settings.desc values = some dict ∧
      dict.keys = settings.struct.fields.map PyValue.str ∧
      (forall name, name ∈ settings.struct.fields ->
        dict.get? (.str name) =
          some (.int (load32 values (settings.struct.offsetof name)).toNat)) ∧
      (structDescFromDict .bits64 (.dict dict) settings.desc prior none).returned = 0 ∧
      (structDescFromDict .bits64 (.dict dict) settings.desc prior none).pending = none ∧
      forall name, name ∈ settings.struct.fields ->
        load32 (structDescFromDict .bits64 (.dict dict) settings.desc prior none).target
            (settings.struct.offsetof name) =
          load32 values (settings.struct.offsetof name)) ∧
    (forall entries prior, Legal settings (.dict entries) ->
      (structDescFromDict .bits64 (.dict entries) settings.desc prior none).returned = 0 ∧
      (structDescFromDict .bits64 (.dict entries) settings.desc prior none).pending = none ∧
      ∃ dict, structDescCreateDict .bits64 settings.desc
          (structDescFromDict .bits64 (.dict entries) settings.desc prior none).target =
            some dict ∧
        forall key, dict.get? key =
          if key ∈ settings.struct.fields.map PyValue.str then entries.get? key else none) ∧
    (forall object left right cmd,
      (structDescFromDict .bits64 object settings.desc left none).returned = 0 ->
      forall offset, offset < settings.struct.sizeof ->
        writeCmd (structDescFromDict .bits64 object settings.desc left none).target cmd offset =
          writeCmd (structDescFromDict .bits64 object settings.desc right none).target
            cmd offset) := by
  refine ⟨?_, ?_, ?_⟩
  · intro values prior
    rcases createDict_spec settings values with ⟨dict, created, keys, fields⟩
    have legal : Legal settings (.dict dict) :=
      fun name member => ⟨_, fields name member, fitsU32_word _⟩
    rcases fromDict_spec settings legal prior with ⟨returned, pending, stored⟩
    refine ⟨dict, created, keys, fields, returned, pending, ?_⟩
    intro name member
    have same := (stored name member).symm.trans (fields name member)
    simp only [Option.some.injEq, PyValue.int.injEq] at same
    exact UInt32.toNat_inj.mp (Int.ofNat_inj.mp same)
  · intro entries prior legal
    rcases fromDict_spec settings legal prior with ⟨returned, pending, stored⟩
    rcases createDict_spec settings
        (structDescFromDict .bits64 (.dict entries) settings.desc prior none).target with
      ⟨dict, created, keys, fields⟩
    refine ⟨returned, pending, dict, created, ?_⟩
    intro key
    by_cases named : key ∈ settings.struct.fields.map PyValue.str
    · rw [if_pos named]
      rcases List.mem_map.mp named with ⟨name, member, rfl⟩
      exact (fields name member).trans (stored name member).symm
    · rw [if_neg named]
      apply Dictionary.get?_eq_none_of_not_mem
      rw [keys]
      exact named
  · intro object left right cmd complete offset inside
    exact sent_bytes_determined settings complete right cmd inside

end RoundTrip

end Ioctl
end PythonEthtool
