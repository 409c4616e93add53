import PythonEthtool.Foundations.CString
import PythonEthtool.Foundations.Stream
import PythonEthtool.Python.Objects

namespace PythonEthtool
namespace Devices

open Foundations
open Python

/-!
# The devices of `/proc/net/dev`

`get_devices` skips two header lines and takes the name in front of the colon
from each line after them.  It reads with `fgets` into an array of 256 bytes,
so what it takes for a line is a piece of the file.  The names are right as
long as every line fits the array; the rest of a longer line is listed as a
device of its own.
-/

def space : UInt8 :=
  32

def colon : UInt8 :=
  58

/-- The result of `get_devices`: a list or an exception.  The C code has no
defined behaviour where it would read past its array or use the NULL that
`PyStr_FromString` returns for bytes that are no UTF-8. -/
inductive Listing where
  | names (list : List String)
  | raised (error : PyError)
  | undefined
  deriving DecidableEq

/-! ## One line -/

/-- The array after `fgets` has stored some bytes and the terminator. -/
def stored (buffer bytes : List UInt8) : List UInt8 :=
  bytes ++ 0 :: buffer.drop (bytes.length + 1)

/-- The condition at which the search for the end of the name stops. -/
def stopsName (byte : UInt8) : Bool :=
  byte = 0 ∨ byte = colon

/-- The two scanning loops: `end` stops at the colon or the terminator, which
is overwritten, and `name` at the first byte that is no space.  Nothing
stops them outside the array. -/
def deviceName (buffer : List UInt8) : Option (List UInt8) :=
  match buffer.findIdx? stopsName with
  | none => none
  | some last =>
      let terminated := buffer.set last 0
      match terminated.findIdx? (fun byte => byte ≠ space) with
      | none => none
      | some name => some (readString (terminated.drop name))

/-- `PyStr_FromString`, without failures of allocation. -/
def pyStrFromString (bytes : List UInt8) : Option String :=
  String.fromUTF8? ⟨bytes.toArray⟩

/-! ## The file -/

/-- The loop, with the list built so far. -/
def listDevices (stream : Stream) (buffer : List UInt8) (list : List String) : Listing :=
  if stream.eof then .names list
  else
    match _read : fgets 256 stream with
    | (none, _) => .names list
    | (some bytes, after) =>
        match (deviceName (stored buffer bytes)).bind pyStrFromString with
        | none => .undefined
        | some str => listDevices after (stored buffer bytes) (list ++ [str])
termination_by stream.rest.length
decreasing_by exact fgets_progress _read

/-- `file` is what `fopen` gives: the content, or the error number.  The
array holds whatever the stack held; a read at the end of the file leaves
`errno` alone. -/
def getDevices (file : Except Int (List UInt8)) (buffer : List UInt8) (errno : Int) : Listing :=
  match file with
  | .error code => .raised ⟨.osError, .errno code⟩
  | .ok content =>
      let first := fgets 256 { rest := content, eof := false }
      let skipped := (first.1.map (stored buffer)).getD buffer
      match fgets 256 first.2 with
      | (none, _) => .raised ⟨.osError, .errno errno⟩
      | (some bytes, after) => listDevices after (stored skipped bytes) []

/-! ## The name in a piece -/

/-- The bytes of a piece in front of its first colon, without the spaces
that they begin with. -/
def nameOf (bytes : List UInt8) : List UInt8 :=
  (bytes.takeWhile (fun byte => !stopsName byte)).dropWhile (fun byte => byte = space)

theorem findIdx?_append_cons {Item : Type} {stops : Item -> Bool} {before : List Item}
    {item : Item} (early : forall other, other ∈ before -> stops other = false)
    (stop : stops item = true) (after : List Item) :
    (before ++ item :: after).findIdx? stops = some before.length := by
  rw [List.findIdx?_eq_some_iff_getElem]
  refine ⟨by simp, by simpa using stop, ?_⟩
  intro index inside
  rw [List.getElem_append_left inside, early _ (List.getElem_mem inside)]
  decide

/-- A terminated string as the first loop sees it: bytes that do not stop
it, and one that does. -/
theorem terminated_split (bytes tail : List UInt8) :
    ∃ item after, stopsName item = true ∧
      bytes ++ 0 :: tail = bytes.takeWhile (fun byte => !stopsName byte) ++ item :: after := by
  induction bytes with
  | nil => exact ⟨0, tail, by decide, rfl⟩
  | cons byte bytes ih =>
      cases stop : stopsName byte with
      | true =>
          refine ⟨byte, bytes ++ 0 :: tail, stop, ?_⟩
          rw [List.takeWhile_cons_of_neg (by simp [stop])]
          rfl
      | false =>
          rcases ih with ⟨item, after, stops, split⟩
          refine ⟨item, after, stops, ?_⟩
          rw [List.takeWhile_cons_of_pos (by simp [stop]), List.cons_append, List.cons_append,
            split]

/-- The second loop passes over the spaces in front of the name. -/
theorem findIdx?_skips_spaces (name after : List UInt8) :
    (name ++ 0 :: after).findIdx? (fun byte => byte ≠ space) =
      some (name.takeWhile (fun byte => byte = space)).length := by
  have spaces : forall other, other ∈ name.takeWhile (fun byte => byte = space) ->
      decide (other ≠ space) = false := by
    intro other member
    simpa using List.mem_takeWhile_imp member
  conv_lhs => rw [← List.takeWhile_append_dropWhile (p := fun byte => byte = space) (l := name)]
  rw [List.append_assoc]
  cases rest : name.dropWhile (fun byte => byte = space) with
  | nil => exact findIdx?_append_cons spaces (by decide) after
  | cons byte bytes =>
      apply findIdx?_append_cons spaces
      have nonempty : name.dropWhile (fun byte => byte = space) ≠ [] := by
        rw [rest]
        exact List.cons_ne_nil byte bytes
      have kept := List.head_dropWhile_not (fun byte => decide (byte = space)) nonempty
      simpa [rest] using kept

theorem drop_spaces (name after : List UInt8) :
    (name ++ 0 :: after).drop (name.takeWhile (fun byte => byte = space)).length =
      name.dropWhile (fun byte => byte = space) ++ 0 :: after := by
  have begins : name.takeWhile (fun byte => byte = space) ++
      name.dropWhile (fun byte => byte = space) = name := List.takeWhile_append_dropWhile
  generalize name.takeWhile (fun byte => byte = space) = spaces at begins ⊢
  generalize name.dropWhile (fun byte => byte = space) = rest at begins ⊢
  subst begins
  rw [List.append_assoc, List.drop_left]

/-- The part of a piece in which the name is: the bytes in front of the first
colon or NUL. -/
def namePart (bytes : List UInt8) : List UInt8 :=
  bytes.takeWhile (fun byte => !stopsName byte)

/-- The first loop stops behind this part, whatever the array held before. -/
theorem findIdx?_stored (buffer bytes : List UInt8) :
    (stored buffer bytes).findIdx? stopsName = some (namePart bytes).length := by
  rcases terminated_split bytes (buffer.drop (bytes.length + 1)) with ⟨item, after, stop, split⟩
  have early : forall other, other ∈ namePart bytes -> stopsName other = false := by
    intro other member
    simpa using List.mem_takeWhile_imp member
  rw [stored, split]
  exact findIdx?_append_cons early stop after

/-- There the terminator is put. -/
theorem set_namePart (buffer bytes : List UInt8) :
    ∃ after, (stored buffer bytes).set (namePart bytes).length 0 =
      namePart bytes ++ 0 :: after := by
  rcases terminated_split bytes (buffer.drop (bytes.length + 1)) with ⟨item, after, _, split⟩
  refine ⟨after, ?_⟩
  rw [stored, split, namePart, List.set_append_right _ _ (Nat.le_refl _), Nat.sub_self]
  rfl

/-- Whatever the array held before, the loops find the name of the piece. -/
theorem deviceName_stored (buffer bytes : List UInt8) :
    deviceName (stored buffer bytes) = some (nameOf bytes) := by
  rcases set_namePart buffer bytes with ⟨after, cut⟩
  have nonzero : forall other, other ∈ nameOf bytes -> other ≠ 0 := by
    intro other member
    have kept := List.mem_takeWhile_imp ((List.dropWhile_sublist _).subset member)
    simp only [stopsName, Bool.not_eq_true', decide_eq_false_iff_not, not_or] at kept
    exact kept.1
  rw [deviceName, findIdx?_stored]
  simp only [cut, findIdx?_skips_spaces, Option.some.injEq]
  rw [drop_spaces]
  exact readString_terminated nonzero after

/-! ## The loop over the pieces -/

/-- The list that the loop makes of the pieces that it reads. -/
def listed (pieces : List (List UInt8)) : Option (List String) :=
  pieces.mapM (fun bytes => pyStrFromString (nameOf bytes))

/-- The loop lists the names of the pieces that are left. -/
theorem listDevices_eq (stream : Stream) (buffer : List UInt8) (list : List String)
    (ended : stream.eof = true -> stream.rest = []) :
    listDevices stream buffer list =
      match listed (pieces 254 stream.rest) with
      | none => .undefined
      | some names => .names (list ++ names) := by
  fun_induction listDevices stream buffer list with
  | case1 stream buffer list met =>
      rw [ended met, pieces]
      simp [listed]
  | case2 stream buffer list more after read =>
      rw [pieces_of_fgets_null read]
      simp [listed]
  | case3 stream buffer list more bytes after read undecodable =>
      rw [deviceName_stored, Option.bind_some] at undecodable
      rw [(pieces_of_fgets read).1]
      simp [listed, undecodable]
  | case4 stream buffer list more bytes after read str decoded ih =>
      rw [deviceName_stored, Option.bind_some] at decoded
      rw [ih (pieces_of_fgets read).2, (pieces_of_fgets read).1]
      simp only [listed, List.mapM_cons, decoded]
      cases (pieces 254 after.rest).mapM (fun bytes => pyStrFromString (nameOf bytes)) with
      | none => rfl
      | some names =>
          change Listing.names (list ++ [str] ++ names) = .names (list ++ str :: names)
          rw [List.append_assoc]
          rfl

/-! ## Files in the format of the kernel -/

/-- A counter with the spaces in front of it. -/
structure Counter where
  spaces : Nat
  value : UInt64

def decimal (value : Nat) : List UInt8 :=
  (Nat.toDigits 10 value).map (fun digit => UInt8.ofNat digit.toNat)

def Counter.render (counter : Counter) : List UInt8 :=
  List.replicate counter.spaces space ++ decimal counter.value.toNat

/-- The bytes that no name contains: tab, line feed, space, `/` and `:`. -/
def nameSeparators : List UInt8 :=
  [9, 10, 32, 47, 58]

/-- The line of one interface. -/
structure DeviceLine where
  name : CString
  nonempty : 0 < name.length
  short : name.length ≤ 15
  ascii : forall byte, byte ∈ name.bytes -> byte < 128
  plain : forall byte, byte ∈ name.bytes -> byte ∉ nameSeparators
  counters : List Counter
  sixteen : counters.length = 16
  separated : forall counter, counter ∈ counters.tail -> 0 < counter.spaces

/-- The line without its line feed. -/
def DeviceLine.render (line : DeviceLine) : List UInt8 :=
  List.replicate (6 - line.name.length) space ++ line.name.bytes ++ colon ::
    line.counters.flatMap Counter.render

/-- A header line: it fits the array with its line feed and the
terminator. -/
structure HeaderLine where
  bytes : List UInt8
  plain : newline ∉ bytes
  short : bytes.length + 1 < 256

/-- The lines of the interfaces, one after the other. -/
def renderLines (lines : List DeviceLine) : List UInt8 :=
  lines.flatMap (fun line => line.render ++ [newline])

structure ProcNetDev where
  first : HeaderLine
  second : HeaderLine
  lines : List DeviceLine

def ProcNetDev.content (file : ProcNetDev) : List UInt8 :=
  file.first.bytes ++ newline :: (file.second.bytes ++ newline :: renderLines file.lines)

/-- The names of the interfaces, one for each line. -/
def ProcNetDev.names (file : ProcNetDev) : List String :=
  file.lines.map (fun line => asciiText line.name.bytes)

section Format

variable (line : DeviceLine)

theorem mem_decimal {value : Nat} {byte : UInt8} (member : byte ∈ decimal value) :
    48 ≤ byte.toNat ∧ byte.toNat ≤ 57 := by
  rcases List.mem_map.mp member with ⟨digit, found, rfl⟩
  have isDigit := Nat.isDigit_of_mem_toDigits (by decide) (by decide) found
  simp only [Char.isDigit, Bool.and_eq_true, decide_eq_true_eq, ge_iff_le,
    UInt32.le_iff_toNat_le] at isDigit
  have lower : 48 ≤ digit.toNat := isDigit.1
  have upper : digit.toNat ≤ 57 := isDigit.2
  rw [UInt8.toNat_ofNat']
  omega

theorem decimal_plain (value : Nat) : newline ∉ decimal value := by
  intro member
  have lower : 48 ≤ newline.toNat := (mem_decimal member).1
  exact absurd lower (by decide)

theorem DeviceLine.render_plain : newline ∉ line.render := by
  intro member
  simp only [render, List.mem_append, List.mem_cons, List.mem_replicate, List.mem_flatMap]
    at member
  rcases member with (⟨_, same⟩ | named) | same | ⟨counter, _, rendered⟩
  · exact absurd same (by decide)
  · exact line.plain newline named (by decide)
  · exact absurd same (by decide)
  · rcases List.mem_append.mp rendered with spaces | digits
    · exact absurd (List.eq_of_mem_replicate spaces) (by decide)
    · exact decimal_plain _ digits

/-- The name that the loops find in a whole line. -/
theorem DeviceLine.nameOf_render (after : List UInt8) :
    nameOf (line.render ++ after) = line.name.bytes := by
  have early : forall byte, byte ∈ List.replicate (6 - line.name.length) space ++
      line.name.bytes -> (!stopsName byte) = true := by
    intro byte member
    simp only [stopsName, Bool.not_eq_true', decide_eq_false_iff_not, not_or]
    rcases List.mem_append.mp member with spaces | named
    · rw [List.eq_of_mem_replicate spaces]
      decide
    · refine ⟨line.name.noNul byte named, fun same => line.plain byte named ?_⟩
      rw [same]
      decide
  rw [nameOf, render, List.append_assoc _ _ after, List.takeWhile_append_of_pos early,
    List.cons_append, List.takeWhile_cons_of_neg (by decide), List.append_nil,
    List.dropWhile_append_of_pos]
  · cases bytes : line.name.bytes with
    | nil =>
        have some := line.nonempty
        rw [CString.length, bytes] at some
        cases some
    | cons byte rest =>
        apply List.dropWhile_cons_of_neg
        rw [decide_eq_true_eq]
        intro same
        apply line.plain byte
        · rw [bytes]
          exact List.mem_cons_self
        · rw [same]
          decide
  · intro byte spaces
    rw [List.eq_of_mem_replicate spaces]
    decide

/-- The name of a whole line becomes a string. -/
theorem DeviceLine.pyStrFromString_name (after : List UInt8) :
    pyStrFromString (nameOf (line.render ++ after)) = some (asciiText line.name.bytes) := by
  rw [line.nameOf_render]
  exact fromUTF8?_ascii line.ascii

end Format

theorem renderLines_cons (line : DeviceLine) (lines : List DeviceLine) :
    renderLines (line :: lines) = line.render ++ newline :: renderLines lines := by
  rw [renderLines, List.flatMap_cons, List.append_assoc]
  rfl

/-- If all lines fit, the pieces give the names. -/
theorem listed_renderLines {lines : List DeviceLine}
    (fit : forall line, line ∈ lines -> line.render.length + 1 ≤ 255) :
    listed (pieces 254 (renderLines lines)) =
      some (lines.map (fun line => asciiText line.name.bytes)) := by
  induction lines with
  | nil => simp [renderLines, pieces, listed]
  | cons line lines ih =>
      have first := fit line List.mem_cons_self
      have rest := ih (fun later member => fit later (List.mem_cons_of_mem line member))
      rw [listed] at rest
      rw [renderLines_cons, pieces_fits line.render_plain (by omega), listed, List.mapM_cons,
        line.pyStrFromString_name, rest]
      rfl

/-- There is a piece for each line, and one more for each that does not
fit. -/
theorem pieces_renderLines_length (lines : List DeviceLine) :
    lines.length ≤ (pieces 254 (renderLines lines)).length ∧
      ((∃ line, line ∈ lines ∧ 255 < line.render.length + 1) ->
        lines.length < (pieces 254 (renderLines lines)).length) := by
  induction lines with
  | nil =>
      refine ⟨Nat.zero_le _, ?_⟩
      rintro ⟨line, member, _⟩
      cases member
  | cons line lines ih =>
      have count := @pieces_line_length 254 line.render line.render_plain (renderLines lines)
      rw [renderLines_cons, List.length_cons]
      constructor
      · split at count
        · omega
        · omega
      · rintro ⟨long, member, exceeds⟩
        rcases List.mem_cons.mp member with same | later
        · rw [if_neg (by rw [← same]; omega)] at count
          omega
        · have more := ih.2 ⟨long, later, exceeds⟩
          split at count
          · omega
          · omega

theorem listed_length {pieces : List (List UInt8)} {names : List String}
    (all : listed pieces = some names) : names.length = pieces.length := by
  induction pieces generalizing names with
  | nil =>
      cases all
      rfl
  | cons bytes pieces ih =>
      rw [listed, List.mapM_cons] at all
      cases decoded : pyStrFromString (nameOf bytes) with
      | none =>
          rw [decoded] at all
          cases all
      | some str =>
          cases rest : listed pieces with
          | none =>
              rw [listed] at rest
              rw [decoded, rest] at all
              cases all
          | some others =>
              have lengths := ih rest
              rw [listed] at rest
              rw [decoded, rest] at all
              cases all
              rw [List.length_cons, List.length_cons, lengths]

/-- After the two header lines the loop runs over the lines of the
interfaces. -/
theorem getDevices_content (file : ProcNetDev) (buffer : List UInt8) (errno : Int) :
    getDevices (.ok file.content) buffer errno =
      match listed (pieces 254 (renderLines file.lines)) with
      | none => .undefined
      | some names => .names names := by
  have skip (header : HeaderLine) (rest : List UInt8) :
      fgets 256 { rest := header.bytes ++ newline :: rest, eof := false } =
        (some (header.bytes ++ [newline]), { rest := rest, eof := false }) := by
    have short := header.short
    have fits : header.bytes.length < 255 := by omega
    rw [fgets, readLine_fits header.plain fits]
    cases header.bytes with
    | nil => rfl
    | cons byte bytes => rfl
  rw [getDevices, ProcNetDev.content, skip]
  simp only
  rw [skip]
  simp only
  rw [listDevices_eq _ _ _ (by simp)]
  rfl

/-- The rest of a line that does not fit is listed as well. -/
theorem fits_of_getDevices {file : ProcNetDev} {buffer : List UInt8} {errno : Int}
    (same : getDevices (.ok file.content) buffer errno = .names file.names) {line : DeviceLine}
    (member : line ∈ file.lines) : line.render.length + 1 ≤ 255 := by
  rw [getDevices_content] at same
  cases found : listed (pieces 254 (renderLines file.lines)) with
  | none =>
      rw [found] at same
      cases same
  | some names =>
      rw [found] at same
      cases same
      have lengths := listed_length found
      rw [ProcNetDev.names, List.length_map] at lengths
      by_contra exceeds
      have more := (pieces_renderLines_length file.lines).2 ⟨line, member, by omega⟩
      omega

/-- The list is that of the interfaces precisely when each of their lines
fits the array, with its line feed and the terminator. -/
theorem getDevices_eq_names_iff (file : ProcNetDev) (buffer : List UInt8) (errno : Int) :
    getDevices (.ok file.content) buffer errno = .names file.names ↔
      forall line, line ∈ file.lines -> line.render.length + 1 ≤ 255 := by
  constructor
  · intro same line member
    exact fits_of_getDevices same member
  · intro fit
    rw [getDevices_content, listed_renderLines fit]
    rfl

/-- The interface `eth1` with every counter at its largest value. -/
def worn : DeviceLine where
  name := ⟨[101, 116, 104, 49], by simp⟩
  nonempty := by decide
  short := by decide
  ascii := by simp
  plain := by simp [nameSeparators]
  counters := List.replicate 16 { spaces := 1, value := 18446744073709551615 }
  sixteen := by decide
  separated := by decide

/-- A file with this one interface. -/
def wornFile : ProcNetDev where
  first := ⟨[124], by simp [newline], by simp⟩
  second := ⟨[124], by simp [newline], by simp⟩
  lines := [worn]

theorem lists_rest_of_long_line :
    getDevices (.ok wornFile.content) (List.replicate 256 0) 0 ≠ .names wornFile.names := by
  intro same
  have fits := fits_of_getDevices same (List.mem_singleton_self worn)
  exact absurd fits (by decide +kernel)

end Devices
end PythonEthtool
