import PythonEthtool.Devices.Listing
import PythonEthtool.Foundations.Scanf
import PythonEthtool.Ioctl.Functions

namespace PythonEthtool
namespace Ioctl

open Devices (stored)
open Foundations
open Python

/-!
# The driver of a PC Card

`get_module` asks the driver for its name.  When the request fails it looks
the device up in `/var/lib/pcmcia/stab`, whose lines have a socket number, a
class, a driver, an instance and a device, and clears the exception if it
finds the device there.

The loop takes the result of `sscanf` for a success if anything was stored at
all.  A line that ends behind its driver leaves the array of the device as it
was, so the device name is then compared with that of an earlier line, or
with whatever the stack held.  An earlier line does no harm, since the loop
would have ended there; the stack may.
-/

/-! ## The source -/

/-- The bytes of `Socket`. -/
def socketWord : List UInt8 :=
  [83, 111, 99, 107, 101, 116]

/-- `strncmp(buf, "Socket", 6) == 0`. -/
def beginsSocket (text : List UInt8) : Bool :=
  socketWord.isPrefixOf text

/-- The format `%*d\t%*s\t%100s\t%*d\t%100s\n`. -/
def stabFormat : List Directive :=
  [.skipInt, .space, .skipWord, .space, .word (some 100), .space, .skipInt, .space,
    .word (some 100), .space]

/-- What `sscanf` stores of the text in `buf`.  Lines of a socket are not
scanned. -/
def scanStab (text : List UInt8) : List (List UInt8) :=
  if beginsSocket text then [] else scan stabFormat text

/-- The loop over the file: the string in `driver` when it stops with `found`
set. -/
def searchStab (devname : CString) (stream : Stream) (buf driver dev : List UInt8) :
    Option (List UInt8) :=
  if stream.eof then none
  else
    match _read : fgets 2048 stream with
    | (none, _) => none
    | (some bytes, after) =>
        let line := (stored buf bytes).set 2047 0
        match scanStab (readString line) with
        | [] => searchStab devname after line driver dev
        | field :: others =>
            let nextDriver := (stored driver field).set 99 0
            -- Without a second field `sscanf` leaves the array alone.
            let nextDev := ((others.head?.map (stored dev)).getD dev).set 99 0
            if devname.bytes = readString nextDev then some (readString nextDriver)
            else searchStab devname after line nextDriver nextDev
termination_by stream.rest.length
decreasing_by
  · exact fgets_progress _read
  · exact fgets_progress _read

/-- What follows a failed request, whose error is pending.  `stab` is the
content of the file, if it can be opened. -/
def stabFallback (errno : Int) (stab : Option (List UInt8)) (devname : CString)
    (buf driver dev : List UInt8) : CallResult :=
  match stab with
  | none => { value := none, pending := some (setFromErrno errno), requests := [] }
  | some content =>
      match searchStab devname { rest := content, eof := false } buf driver dev with
      | none => { value := none, pending := some (setFromErrno errno), requests := [] }
      | some name => pyStrFromString name

/-- The offset of `driver` in `struct ethtool_drvinfo`. -/
def offsetofDriver : Nat :=
  4

def moduleRequest (host : Host) (devname : CString) : IoctlRequest where
  code := .siocethtool
  ifrName := ifrName devname
  data := drvinfoBuffer host.stack

/-- `driver` and `dev` are the local arrays, which are not initialised. -/
def getModule (host : Host) (stab : Option (List UInt8)) (driver dev : List UInt8)
    (devname : CString) : CallResult :=
  if host.socket < 0 then
    { value := none, pending := some (setFromErrno host.socketErrno), requests := [] }
  else
    let request := moduleRequest host devname
    let reply := host.ioctl request
    if reply.result < 0 then
      { stabFallback reply.errno stab devname ((List.range 2048).map reply.data) driver dev with
        requests := [request] }
    else { pyStrFromString (stringAt reply.data offsetofDriver 2048) with requests := [request] }

/-! ## The file as it is meant -/

/-- The lines of the file; a file that cannot be opened has none. -/
def stabLines (stab : Option (List UInt8)) : List (List UInt8) :=
  linesOf (stab.getD [])

/-- The driver and the device of a line, as far as it has them. -/
def stabFields (line : List UInt8) : List (List UInt8) :=
  if beginsSocket line then [] else scan (stabFormat.map Directive.unlimited) line

/-- The driver of an entry that has all fields and is about the device. -/
def entryDriver (devname : CString) : List (List UInt8) -> Option (List UInt8)
  | [] => none
  | [_] => none
  | driver :: device :: _ => if device = devname.bytes then some driver else none

/-- The driver in the first such entry. -/
def firstDriver (devname : CString) (entries : List (List (List UInt8))) : Option (List UInt8) :=
  entries.findSome? (entryDriver devname)

/-- The driver that is looked for: that of the first line about the device. -/
def stabDriver (devname : CString) (stab : Option (List UInt8)) : Option (List UInt8) :=
  firstDriver devname ((stabLines stab).map stabFields)

/-- The fallback does what it is for: it returns this driver with no
exception, or raises the error of the request when there is none. -/
def FallbackRight (result : CallResult) (errno : Int) : Option (List UInt8) -> Prop
  | none => result.value = none ∧ result.pending = some (setFromErrno errno)
  | some driver =>
      ∃ text, String.fromUTF8? ⟨driver.toArray⟩ = some text ∧
        result.value = some (.value (.str text)) ∧ result.pending = none

/-- The bytes are the UTF-8 form of a string. -/
def Decodes (bytes : List UInt8) : Prop :=
  (String.fromUTF8? ⟨bytes.toArray⟩).isSome

/-! ## The file as the loop sees it -/

/-- What `fgets` gives of the file: pieces of at most 2047 bytes. -/
def stabPieces (stab : Option (List UInt8)) : List (List UInt8) :=
  pieces 2046 (stab.getD [])

/-- The fields that the loop sees of a piece: it looks no further than to a
NUL, scans with the widths of the format, and cuts each array at byte 99. -/
def seenFields (piece : List UInt8) : List (List UInt8) :=
  (scanStab (readString piece)).map (List.take 99)

def seenEntries (stab : Option (List UInt8)) : List (List (List UInt8)) :=
  (stabPieces stab).map seenFields

/-- The driver of the first entry that has one, if this entry has no device. -/
def leadingPartial : List (List (List UInt8)) -> Option (List UInt8)
  | [] => none
  | [] :: entries => leadingPartial entries
  | [driver] :: _ => some driver
  | (_ :: _ :: _) :: _ => none

/-- The array on the stack holds the device name, and the first piece with
this driver has no device that would overwrite it. -/
def Misled (devname : CString) (dev : List UInt8) (stab : Option (List UInt8))
    (driver : List UInt8) : Prop :=
  readString (dev.set 99 0) = devname.bytes ∧ leadingPartial (seenEntries stab) = some driver

/-- Where the stack misleads the loop, it does so to the right driver; where
it does not, the first piece about the device has the driver of the first
line about it, and there is no such piece without such a line. -/
structure SeesRight (devname : CString) (dev : List UInt8) (stab : Option (List UInt8)) : Prop where
  misled : forall driver, Misled devname dev stab driver -> stabDriver devname stab = some driver
  seen : (forall driver, ¬ Misled devname dev stab driver) ->
    firstDriver devname (seenEntries stab) = stabDriver devname stab

/-! ## What the arrays hold -/

section Arrays

/-- What follows a terminator is not part of the string. -/
theorem readString_append_nul (bytes after : List UInt8) :
    readString (bytes ++ 0 :: after) = readString bytes := by
  induction bytes with
  | nil => simp [readString]
  | cons byte bytes ih =>
      unfold readString at ih ⊢
      rw [List.cons_append, List.takeWhile_cons, List.takeWhile_cons, ih]

/-- Storing a terminator behind the string or at its end leaves the string. -/
theorem set_stored {bytes : List UInt8} {index : Nat} (fits : bytes.length ≤ index)
    (array : List UInt8) : ∃ after, (stored array bytes).set index 0 = bytes ++ 0 :: after := by
  rw [stored, List.set_append_right _ _ fits]
  cases index - bytes.length with
  | zero => exact ⟨_, rfl⟩
  | succ behind => exact ⟨_, rfl⟩

/-- A terminator at an index cuts the string there. -/
theorem readString_stored {bytes : List UInt8} (noNul : 0 ∉ bytes) (index : Nat)
    (array : List UInt8) :
    readString ((stored array bytes).set index 0) = bytes.take index := by
  have plain : forall byte, byte ∈ bytes.take index -> byte ≠ 0 :=
    fun byte member zero => noNul (zero ▸ List.mem_of_mem_take member)
  rcases Nat.le_total bytes.length index with fits | long
  · rcases set_stored fits array with ⟨after, same⟩
    rw [List.take_of_length_le fits] at plain
    rw [same, readString_terminated plain, List.take_of_length_le fits]
  · have inside : index < (stored array bytes).length := by
      rw [stored, List.length_append, List.length_cons]
      omega
    have front : (stored array bytes).take index = bytes.take index := by
      rw [stored, List.take_append_of_le_length long]
    rw [List.set_eq_take_append_cons_drop, if_pos inside, front]
    exact readString_terminated plain _

/-- Of what `fgets` stores the loop reads the piece, up to a NUL. -/
theorem readString_piece {piece : List UInt8} (fits : piece.length ≤ 2047) (buf : List UInt8) :
    readString ((stored buf piece).set 2047 0) = readString piece := by
  rcases set_stored fits buf with ⟨after, same⟩
  rw [same, readString_append_nul]

/-- No field has a NUL. -/
theorem noNul_of_scanStab {piece field : List UInt8}
    (member : field ∈ scanStab (readString piece)) : 0 ∉ field := by
  intro inside
  rw [scanStab] at member
  split at member
  · cases member
  · have present := mem_of_mem_scan member inside
    have nonzero := List.mem_takeWhile_imp present
    simp at nonzero

/-- The device name after `sscanf`: that of the piece, if it has one. -/
theorem readString_nextDev {others : List (List UInt8)} {dev : List UInt8}
    (noNul : forall field, field ∈ others -> 0 ∉ field) :
    readString (((others.head?.map (stored dev)).getD dev).set 99 0) =
      (others.map (List.take 99)).head?.getD (readString (dev.set 99 0)) := by
  cases others with
  | nil => rfl
  | cons device others => exact readString_stored (noNul device List.mem_cons_self) 99 dev

end Arrays

/-! ## The loop over the pieces -/

/-- The loop on the entries that it sees, with the device name that the last
entry with a device has left behind. -/
def searchEntries (devname : CString) (stale : List UInt8) :
    List (List (List UInt8)) -> Option (List UInt8)
  | [] => none
  | [] :: entries => searchEntries devname stale entries
  | (driver :: others) :: entries =>
      let dev := others.head?.getD stale
      if devname.bytes = dev then some driver else searchEntries devname dev entries

/-- The loop runs over the pieces of the file. -/
theorem searchStab_eq {devname : CString} {stream : Stream} {buf driver dev : List UInt8}
    (ended : stream.eof = true -> stream.rest = []) :
    searchStab devname stream buf driver dev =
      searchEntries devname (readString (dev.set 99 0))
        ((pieces 2046 stream.rest).map seenFields) := by
  fun_induction searchStab devname stream buf driver dev with
  | case1 stream buf driver dev met =>
      rw [ended met, pieces]
      rfl
  | case2 stream buf driver dev more after read =>
      rw [pieces_of_fgets_null read]
      rfl
  | case3 stream buf driver dev more bytes after read line nothing ih =>
      rcases pieces_of_fgets read with ⟨split, met⟩
      rw [readString_piece (fgets_length read)] at nothing
      rw [split, List.map_cons, seenFields, nothing]
      exact ih met
  | case4 stream buf driver dev more bytes after read line field others fields nextDriver nextDev
      same =>
      rw [readString_piece (fgets_length read)] at fields
      have noNul (word : List UInt8) (member : word ∈ field :: others) : 0 ∉ word :=
        noNul_of_scanStab (fields ▸ member)
      have others_ := @readString_nextDev others dev
        (fun word member => noNul word (List.mem_cons_of_mem field member))
      rw [others_] at same
      rw [(pieces_of_fgets read).1, List.map_cons, seenFields, fields, List.map_cons,
        searchEntries, if_pos same, readString_stored (noNul field List.mem_cons_self)]
  | case5 stream buf driver dev more bytes after read line field others fields nextDriver nextDev
      differs ih =>
      rcases pieces_of_fgets read with ⟨split, met⟩
      rw [readString_piece (fgets_length read)] at fields
      have noNul (word : List UInt8) (member : word ∈ field :: others) : 0 ∉ word :=
        noNul_of_scanStab (fields ▸ member)
      have others_ := @readString_nextDev others dev
        (fun word member => noNul word (List.mem_cons_of_mem field member))
      rw [others_] at differs
      rw [split, List.map_cons, seenFields, fields, List.map_cons, searchEntries, if_neg differs,
        ih met, List.set_set, others_]

/-- On an entry with a device the loop does what is meant, whatever an earlier
entry has left behind. -/
theorem searchEntries_complete {devname : CString} {stale driver device : List UInt8}
    {others : List (List UInt8)} {entries : List (List (List UInt8))}
    (rest : devname.bytes ≠ device ->
      searchEntries devname device entries = firstDriver devname entries) :
    searchEntries devname stale ((driver :: device :: others) :: entries) =
      firstDriver devname ((driver :: device :: others) :: entries) := by
  rw [searchEntries, firstDriver, List.findSome?_cons, entryDriver]
  change (if devname.bytes = device then _ else _) = _
  by_cases same : devname.bytes = device
  · rw [if_pos same, if_pos same.symm]
  · rw [if_neg same, if_neg (Ne.symm same)]
    exact rest same

/-- If the device name that is left behind is another one, the loop finds the
first entry about the device. -/
theorem searchEntries_eq_firstDriver {devname : CString} {stale : List UInt8}
    (differs : devname.bytes ≠ stale) (entries : List (List (List UInt8))) :
    searchEntries devname stale entries = firstDriver devname entries := by
  induction entries generalizing stale with
  | nil => rfl
  | cons entry entries ih =>
      match entry with
      | [] =>
          rw [searchEntries, firstDriver, List.findSome?_cons, entryDriver]
          exact ih differs
      | [driver] =>
          rw [searchEntries, firstDriver, List.findSome?_cons, entryDriver]
          change (if devname.bytes = stale then _ else _) = _
          rw [if_neg differs]
          exact ih differs
      | driver :: device :: others => exact searchEntries_complete (fun other => ih other)

/-- If it is that of the device, an entry without a device is taken. -/
theorem searchEntries_stale (devname : CString) (entries : List (List (List UInt8))) :
    searchEntries devname devname.bytes entries =
      (leadingPartial entries).or (firstDriver devname entries) := by
  induction entries with
  | nil => rfl
  | cons entry entries ih =>
      match entry with
      | [] =>
          rw [searchEntries, leadingPartial, firstDriver, List.findSome?_cons, entryDriver]
          exact ih
      | [driver] =>
          rw [searchEntries, leadingPartial]
          exact if_pos rfl
      | driver :: device :: others =>
          rw [leadingPartial]
          exact searchEntries_complete
            (fun other => searchEntries_eq_firstDriver other entries)

/-! ## The fallback -/

section Fallback

variable {driver dev : List UInt8} {devname : CString} {errno : Int}

/-- A returned string is right only if it is the driver that is looked for. -/
theorem fallbackRight_pyStrFromString {found : Option (List UInt8)} :
    FallbackRight (pyStrFromString driver) errno found ↔
      found = some driver ∧ Decodes driver := by
  rw [pyStrFromString, Decodes]
  cases decoded : String.fromUTF8? ⟨driver.toArray⟩ with
  | none =>
      cases found with
      | none => simp [FallbackRight, setFromErrno]
      | some right => simp [FallbackRight]
  | some text =>
      cases found with
      | none => simp [FallbackRight, returnValue]
      | some right =>
          constructor
          · rintro ⟨other, decodes, value, -⟩
            cases value
            exact ⟨congrArg some (fromUTF8?_injective decodes decoded), rfl⟩
          · rintro ⟨same, -⟩
            cases same
            exact ⟨text, decoded, rfl, rfl⟩

/-- Raising the error of the request is right only if there is no driver. -/
theorem fallbackRight_raised {found : Option (List UInt8)} :
    FallbackRight { value := none, pending := some (setFromErrno errno), requests := [] } errno
      found ↔ found = none := by
  cases found with
  | none => exact ⟨fun _ => rfl, fun _ => ⟨rfl, rfl⟩⟩
  | some right =>
      constructor
      · rintro ⟨text, -, value, -⟩
        cases value
      · intro absent
        cases absent

/-- What the fallback makes of the search. -/
theorem fallbackRight_search {found searched : Option (List UInt8)} :
    FallbackRight
        (match searched with
        | none => { value := none, pending := some (setFromErrno errno), requests := [] }
        | some name => pyStrFromString name) errno found ↔
      found = searched ∧ forall driver, found = some driver -> Decodes driver := by
  cases searched with
  | none =>
      refine fallbackRight_raised.trans ⟨?_, And.left⟩
      rintro rfl
      refine ⟨rfl, ?_⟩
      intro driver absent
      cases absent
  | some name =>
      refine fallbackRight_pyStrFromString.trans (and_congr_right ?_)
      rintro rfl
      constructor
      · intro decodes driver same
        cases same
        exact decodes
      · intro decodes
        exact decodes name rfl

/-- The loop finds what is looked for precisely when it sees it. -/
theorem searchEntries_right_iff {stab : Option (List UInt8)} :
    stabDriver devname stab =
        searchEntries devname (readString (dev.set 99 0)) (seenEntries stab) ↔
      SeesRight devname dev stab := by
  by_cases stale : readString (dev.set 99 0) = devname.bytes
  · rw [stale, searchEntries_stale]
    cases leading : leadingPartial (seenEntries stab) with
    | none =>
        have harmless (driver : List UInt8) : ¬ Misled devname dev stab driver := by
          rintro ⟨-, partial_⟩
          rw [leading] at partial_
          cases partial_
        exact ⟨fun same => ⟨fun driver misled => absurd misled (harmless driver),
          fun _ => same.symm⟩, fun right => (right.seen harmless).symm⟩
    | some driver =>
        constructor
        · intro same
          refine ⟨?_, fun harmless => absurd ⟨stale, leading⟩ (harmless driver)⟩
          rintro other ⟨-, partial_⟩
          rw [leading] at partial_
          cases partial_
          exact same
        · intro right
          exact right.misled driver ⟨stale, leading⟩
  · rw [searchEntries_eq_firstDriver (Ne.symm stale)]
    have harmless (driver : List UInt8) : ¬ Misled devname dev stab driver :=
      fun misled => stale misled.1
    exact ⟨fun same => ⟨fun driver misled => absurd misled (harmless driver),
      fun _ => same.symm⟩, fun right => (right.seen harmless).symm⟩

theorem stabFallback_right_iff {stab : Option (List UInt8)} {buf : List UInt8} :
    FallbackRight (stabFallback errno stab devname buf driver dev) errno
        (stabDriver devname stab) ↔
      SeesRight devname dev stab ∧
        forall name, stabDriver devname stab = some name -> Decodes name := by
  rw [← searchEntries_right_iff, ← fallbackRight_search]
  cases stab with
  | none =>
      have nothing : seenEntries none = [] := by
        rw [seenEntries, stabPieces, Option.getD_none, pieces]
        rfl
      rw [nothing]
      rfl
  | some content =>
      have searched := @searchStab_eq devname { rest := content, eof := false } buf driver dev
        (by simp)
      rw [stabFallback, searched]
      rfl

theorem getModule_failed {host : Host} {stab found : Option (List UInt8)}
    (opens : 0 ≤ host.socket) (fails : (host.ioctl (moduleRequest host devname)).result < 0) :
    FallbackRight (getModule host stab driver dev devname) errno found ↔
      FallbackRight
        (stabFallback (host.ioctl (moduleRequest host devname)).errno stab devname
          ((List.range 2048).map (host.ioctl (moduleRequest host devname)).data) driver dev)
        errno found := by
  rw [getModule, if_neg (Int.not_lt.mpr opens)]
  simp only
  rw [if_pos fails]
  cases found with
  | none => rfl
  | some name => rfl

end Fallback

/-! ## Files that the arrays hold

Of a file whose lines and fields fit the arrays the loop sees every line, with
the fields that it has.  So it is with a file as the card manager writes it,
in which each line has a device.
-/

/-- A line that fits `buf` and, unless it is skipped, has no NUL and fields
that fit their arrays. -/
def ReadableLine (line : List UInt8) : Prop :=
  line.length ≤ 2047 ∧
    (beginsSocket line = false ->
      0 ∉ line ∧ forall field, field ∈ stabFields line -> field.length ≤ 99)

section Readable

variable {line : List UInt8}

theorem beginsSocket_readString (socket : beginsSocket line = true) :
    beginsSocket (readString line) = true := by
  rw [beginsSocket, List.isPrefixOf_iff_prefix] at socket
  rcases socket with ⟨rest, rfl⟩
  have letters : forall byte, byte ∈ socketWord -> decide (byte ≠ 0) = true := by
    simp [socketWord]
  rw [beginsSocket, List.isPrefixOf_iff_prefix, readString, List.takeWhile_append_of_pos letters]
  exact List.prefix_append socketWord _

/-- The widths of the format are wider than the fields that fit. -/
theorem scanStab_eq (fit : forall field, field ∈ stabFields line -> field.length ≤ 99) :
    scanStab line = stabFields line := by
  rw [scanStab]
  rw [stabFields] at fit ⊢
  by_cases socket : beginsSocket line
  · rw [if_pos socket, if_pos socket]
  · rw [if_neg socket] at fit
    rw [if_neg socket, if_neg socket]
    apply scan_unlimited
    · intro word member directive inside
      have short := fit word member
      simp only [stabFormat, List.mem_cons, List.not_mem_nil, or_false] at inside
      rcases inside with rfl | rfl | rfl | rfl | rfl | rfl | rfl | rfl | rfl | rfl
      all_goals simp only [Directive.Holds]
      all_goals omega
    · decide

/-- Of a readable line the loop sees the fields. -/
theorem seenFields_readable (readable : ReadableLine line) :
    seenFields line = stabFields line := by
  cases socket : beginsSocket line with
  | true =>
      rw [seenFields, scanStab, beginsSocket_readString socket, stabFields, socket]
      rfl
  | false =>
      rcases readable.2 socket with ⟨noNul, fit⟩
      have whole : readString line = line := by
        rw [readString, List.takeWhile_eq_self_iff]
        intro byte member
        exact decide_eq_true (fun zero => noNul (zero ▸ member))
      rw [seenFields, whole, scanStab_eq fit]
      calc (stabFields line).map (List.take 99)
          = (stabFields line).map id :=
            List.map_congr_left (fun field member => List.take_of_length_le (fit field member))
        _ = stabFields line := List.map_id _

end Readable

/-! ## Lines with all fields -/

/-- A line as the card manager writes it. -/
structure StabLine where
  socket : Nat
  cls : List UInt8
  driver : List UInt8
  number : Nat
  device : List UInt8
  clsToken : IsToken cls
  driverToken : IsToken driver
  deviceToken : IsToken device

def tab : UInt8 :=
  9

def StabLine.render (line : StabLine) : List UInt8 :=
  Devices.decimal line.socket ++ tab :: (line.cls ++ tab :: (line.driver ++ tab ::
    (Devices.decimal line.number ++ tab :: (line.device ++ newline :: []))))

theorem isNumber_decimal (value : Nat) : IsNumber (Devices.decimal value) := by
  constructor
  · intro empty
    rw [Devices.decimal, List.map_eq_nil_iff] at empty
    exact Nat.toDigits_ne_nil empty
  · intro byte member
    simp only [isDigit, decide_eq_true_eq, UInt8.le_iff_toNat_le]
    exact Devices.mem_decimal member

/-- A line that begins with a number is not one of a socket. -/
theorem beginsSocket_number {digits : List UInt8} (number : IsNumber digits)
    (after : List UInt8) : beginsSocket (digits ++ after) = false := by
  cases digits with
  | nil => exact absurd rfl number.1
  | cons byte digits =>
      have first := number.2 byte List.mem_cons_self
      have letter : (83 == byte) = false := by
        rw [beq_eq_false_iff_ne]
        rintro rfl
        exact absurd first (by decide)
      rw [beginsSocket, socketWord, List.cons_append, List.isPrefixOf, letter]
      rfl

theorem StabLine.stabFields_render (line : StabLine) :
    stabFields line.render = [line.driver, line.device] := by
  have socket := isNumber_decimal line.socket
  have number := isNumber_decimal line.number
  have separates : isSpace tab = true := by decide
  have ends : isSpace newline = true := by decide
  rw [stabFields, render, beginsSocket_number socket, if_neg (by decide)]
  simp only [stabFormat, List.map_cons, List.map_nil, Directive.unlimited]
  rw [scan_skipInt socket separates, scan_space separates line.clsToken,
    scan_skipWord line.clsToken separates, scan_space separates line.driverToken,
    scan_word line.driverToken separates, scan_space separates number.token,
    scan_skipInt number separates, scan_space separates line.deviceToken,
    scan_word line.deviceToken ends]
  rfl

/-- The fields fit the arrays, and the line the buffer. -/
structure StabLine.Fits (line : StabLine) : Prop where
  length : line.render.length ≤ 2047
  driver : line.driver.length ≤ 99
  device : line.device.length ≤ 99
  noNul : 0 ∉ line.cls ++ (line.driver ++ line.device)

theorem StabLine.readable {line : StabLine} (fits : line.Fits) : ReadableLine line.render := by
  refine ⟨fits.length, fun _ => ⟨?_, ?_⟩⟩
  · have plain := fits.noNul
    have digits (value : Nat) : 0 ∉ Devices.decimal value := by
      intro member
      exact absurd ((isNumber_decimal value).2 0 member) (by decide)
    simp only [List.mem_append, not_or] at plain
    simp [render, tab, newline, digits, plain]
  · intro field member
    rw [line.stabFields_render] at member
    simp only [List.mem_cons, List.not_mem_nil, or_false] at member
    rcases member with rfl | rfl
    · exact fits.driver
    · exact fits.device

/-- The line ends with its only line feed. -/
theorem StabLine.render_eq (line : StabLine) :
    ∃ text, newline ∉ text ∧ line.render = text ++ [newline] := by
  refine ⟨Devices.decimal line.socket ++ tab :: (line.cls ++ tab :: (line.driver ++ tab ::
    (Devices.decimal line.number ++ tab :: line.device))), ?_, ?_⟩
  · have space : isSpace newline = true := by decide
    have digits (value : Nat) : newline ∉ Devices.decimal value := by
      intro member
      exact absurd ((isNumber_decimal value).2 newline member) (by decide)
    have token {word : List UInt8} (token : IsToken word) : newline ∉ word := by
      intro member
      rw [token.2 newline member] at space
      cases space
    have separator : newline ≠ tab := by decide
    simp [digits, token line.clsToken, token line.driverToken, token line.deviceToken, separator]
  · simp [render]

theorem linesOf_render (lines : List StabLine) :
    linesOf (lines.flatMap StabLine.render) = lines.map StabLine.render := by
  induction lines with
  | nil => rfl
  | cons line lines ih =>
      rcases line.render_eq with ⟨text, plain, same⟩
      rw [List.flatMap_cons, List.map_cons, same, List.append_assoc]
      exact (linesOf_append plain _).trans (congrArg (_ :: ·) ih)

/-- In such a file the loop sees what is looked for, whatever the stack
holds. -/
theorem seesRight_render (devname : CString) (dev : List UInt8) {lines : List StabLine}
    (fits : forall line, line ∈ lines -> line.Fits) :
    SeesRight devname dev (some (lines.flatMap StabLine.render)) := by
  have seen : seenEntries (some (lines.flatMap StabLine.render)) =
      (lines.map StabLine.render).map stabFields := by
    have short : forall line, line ∈ linesOf (lines.flatMap StabLine.render) ->
        line.length ≤ 2046 + 1 := by
      intro rendered member
      rw [linesOf_render] at member
      rcases List.mem_map.mp member with ⟨line, inside, rfl⟩
      exact (fits line inside).length
    rw [seenEntries, stabPieces, Option.getD_some, pieces_eq_linesOf short, linesOf_render]
    refine List.map_congr_left (fun rendered member => ?_)
    rcases List.mem_map.mp member with ⟨line, inside, rfl⟩
    exact seenFields_readable (StabLine.readable (fits line inside))
  refine ⟨?_, ?_⟩
  · rintro driver ⟨-, leading⟩
    rw [seen] at leading
    cases lines with
    | nil => cases leading
    | cons line lines =>
        rw [List.map_cons, List.map_cons, line.stabFields_render, leadingPartial] at leading
        cases leading
  · intro _
    rw [seen, stabDriver, stabLines, Option.getD_some, linesOf_render]

/-! ## The whole call -/

/-- A network card in the first socket, `em1`. -/
def pcnet : StabLine where
  socket := 0
  cls := [110, 101, 116, 119, 111, 114, 107]
  driver := [112, 99, 110, 101, 116, 95, 99, 115]
  number := 0
  device := [101, 109, 49]
  clsToken := ⟨by decide, by simp [isSpace]⟩
  driverToken := ⟨by decide, by simp [isSpace]⟩
  deviceToken := ⟨by decide, by simp [isSpace]⟩

/-- A disk in the second one, `hda`. -/
def disk : StabLine where
  socket := 1
  cls := [105, 100, 101]
  driver := [105, 100, 101, 95, 99, 115]
  number := 0
  device := [104, 100, 97]
  clsToken := ⟨by decide, by simp [isSpace]⟩
  driverToken := ⟨by decide, by simp [isSpace]⟩
  deviceToken := ⟨by decide, by simp [isSpace]⟩

/-- An array of 101 bytes that holds the device name. -/
def staleDev : List UInt8 :=
  em1.name.bytes ++ List.replicate 98 0

/-- The line of the card without its last two fields. -/
def partialContent : List UInt8 :=
  Devices.decimal 0 ++ tab :: (pcnet.cls ++ tab :: (pcnet.driver ++ newline :: []))

end Ioctl
end PythonEthtool
