import PythonEthtool.Devices.Listing
import PythonEthtool.Foundations.Runs

namespace PythonEthtool
namespace Devices

open Foundations
open Python

/-!
# `get_devices` on any file

Nothing that follows assumes the format of the kernel.  The file is whatever
bytes it is, and the loop sees it in the chunks that `fgets` cuts it into:
without a line feed at the end, with NUL bytes and empty lines in between,
and with lines that have no colon or are longer than the array.

The two scans of an iteration share the array.  The second one has no bound
of its own; it relies on the terminator that the first one has put, and that
terminator is neither behind the end of the chunk nor in front of the name.
-/

/-- The chunks that `fgets` makes of a file with an array of 256 bytes. -/
def chunks (content : List UInt8) : List (List UInt8) :=
  pieces 254 content

/-! ## One iteration -/

/-- The state of the loop at its test. -/
structure Reading where
  stream : Stream
  buffer : List UInt8
  list : List String

inductive Iteration where
  | ended
  | undefined
  | next (reading : Reading)

/-- The test of the loop and its body. -/
def Reading.iteration (reading : Reading) : Iteration :=
  if reading.stream.eof then .ended
  else
    match fgets 256 reading.stream with
    | (none, _) => .ended
    | (some bytes, after) =>
        match (deviceName (stored reading.buffer bytes)).bind pyStrFromString with
        | none => .undefined
        | some str =>
            .next
              { stream := after
                buffer := stored reading.buffer bytes
                list := reading.list ++ [str] }

/-- An iteration as a step, which the loop takes as long as it can. -/
def Reading.step (reading : Reading) (_ : Unit) : Option Reading :=
  match reading.iteration with
  | .next later => some later
  | _ => none

/-- `listDevices` is the loop of these iterations. -/
theorem listDevices_iteration (reading : Reading) :
    listDevices reading.stream reading.buffer reading.list =
      match reading.iteration with
      | .ended => .names reading.list
      | .undefined => .undefined
      | .next later => listDevices later.stream later.buffer later.list := by
  rcases reading with ⟨stream, buffer, list⟩
  fun_cases listDevices stream buffer list with
  | case1 met => rw [Reading.iteration, if_pos met]
  | case2 more after read => rw [Reading.iteration, if_neg more, read]
  | case3 more bytes after read undecodable =>
      rw [Reading.iteration, if_neg more, read]
      simp only [undecodable]
  | case4 more bytes after read str decoded =>
      rw [Reading.iteration, if_neg more, read]
      simp only [decoded]

/-- The reads in front of the loop: the state at its first test, if there is
a second line. -/
def skipHeaders (content buffer : List UInt8) : Option Reading :=
  let first := fgets 256 { rest := content, eof := false }
  let skipped := (first.1.map (stored buffer)).getD buffer
  match fgets 256 first.2 with
  | (none, _) => none
  | (some bytes, after) => some { stream := after, buffer := stored skipped bytes, list := [] }

theorem getDevices_skipHeaders (content buffer : List UInt8) (errno : Int) :
    getDevices (.ok content) buffer errno =
      match skipHeaders content buffer with
      | none => .raised ⟨.osError, .errno errno⟩
      | some reading => listDevices reading.stream reading.buffer reading.list := by
  simp only [getDevices, skipHeaders]
  rcases fgets 256 (fgets 256 { rest := content, eof := false }).2 with ⟨_ | bytes, after⟩
  · rfl
  · rfl

/-! ## The two scans -/

theorem stored_length {buffer bytes : List UInt8} (sized : buffer.length = 256)
    (fits : bytes.length ≤ 255) : (stored buffer bytes).length = 256 := by
  simp only [stored, List.length_append, List.length_cons, List.length_drop]
  omega

/-- Both scans of the array that holds a chunk stop inside it.  The first
ends at `last`, at most at the end of the chunk, and the second not behind
the terminator that is put there. -/
structure ScansInside (buffer chunk : List UInt8) : Prop where
  sized : buffer.length = 256
  inside : ∃ last name, buffer.findIdx? stopsName = some last ∧
    (buffer.set last 0).findIdx? (fun byte => byte ≠ space) = some name ∧
    last < 256 ∧ last ≤ chunk.length ∧ name ≤ last

theorem scansInside_stored {buffer bytes : List UInt8} (sized : buffer.length = 256)
    (fits : bytes.length ≤ 255) : ScansInside (stored buffer bytes) bytes := by
  have part : (namePart bytes).length ≤ bytes.length := (List.takeWhile_sublist _).length_le
  refine ⟨stored_length sized fits, ?_⟩
  rcases set_namePart buffer bytes with ⟨after, cut⟩
  refine ⟨_, ((namePart bytes).takeWhile (fun byte => byte = space)).length,
    findIdx?_stored buffer bytes, ?_, by omega, part, ?_⟩
  · rw [cut]
    exact findIdx?_skips_spaces (namePart bytes) after
  · exact (List.takeWhile_sublist _).length_le

/-- What holds at every test of the loop. -/
structure Reading.Sound (reading : Reading) : Prop where
  ended : reading.stream.eof = true -> reading.stream.rest = []
  sized : reading.buffer.length = 256

/-- If the loop reads a chunk, it scans the chunk safely. -/
def Reading.ScansSafely (reading : Reading) : Prop :=
  forall chunk after, reading.stream.eof = false ->
    fgets 256 reading.stream = (some chunk, after) ->
      ScansInside (stored reading.buffer chunk) chunk

section Sound

variable {reading : Reading}

theorem Reading.Sound.scansSafely (sound : reading.Sound) : reading.ScansSafely := by
  intro chunk after _ read
  exact scansInside_stored sound.sized (fgets_length read)

/-- Without a chunk the loop ends. -/
theorem Reading.iteration_nil
    (nothing : pieces 254 reading.stream.rest = []) : reading.iteration = .ended := by
  rw [Reading.iteration]
  split
  · rfl
  · split
    · rfl
    · rename_i read
      rw [(pieces_of_fgets read).1] at nothing
      cases nothing

/-- An iteration takes the next chunk and lists its name. -/
theorem Reading.Sound.iteration_cons (sound : reading.Sound) {chunk : List UInt8}
    {later : List (List UInt8)} (next : pieces 254 reading.stream.rest = chunk :: later) :
    match pyStrFromString (nameOf chunk) with
    | none => reading.iteration = .undefined
    | some str =>
        ∃ after : Reading, reading.iteration = .next after ∧ after.Sound ∧
          pieces 254 after.stream.rest = later ∧ after.list = reading.list ++ [str] := by
  have more : ¬ reading.stream.eof = true := by
    intro met
    rw [sound.ended met, pieces] at next
    cases next
  rw [Reading.iteration, if_neg more]
  rcases read : fgets 256 reading.stream with ⟨_ | bytes, after⟩
  · rw [pieces_of_fgets_null read] at next
    cases next
  · rcases pieces_of_fgets read with ⟨split, ended⟩
    rw [split] at next
    cases next
    simp only [deviceName_stored, Option.bind_some]
    cases decoded : pyStrFromString (nameOf chunk) with
    | none => rfl
    | some str =>
        exact ⟨_, rfl, ⟨ended, stored_length sound.sized (fgets_length read)⟩, rfl, rfl⟩

end Sound

/-! ## The whole loop -/

/-- The names of the chunks, as far as they are UTF-8. -/
def chunkNames (chunks : List (List UInt8)) : List (Option String) :=
  chunks.map (fun chunk => pyStrFromString (nameOf chunk))

section Runs

variable {reading : Reading}

theorem Reading.step_eq_some_iff {later : Reading} :
    reading.step () = some later ↔ reading.iteration = .next later := by
  rw [Reading.step]
  cases reading.iteration with
  | ended => simp
  | undefined => simp
  | next after => simp

theorem Reading.Sound.step (sound : reading.Sound) {later : Reading}
    (taken : reading.step () = some later) : later.Sound := by
  rw [Reading.step_eq_some_iff] at taken
  cases next : pieces 254 reading.stream.rest with
  | nil =>
      rw [Reading.iteration_nil next] at taken
      cases taken
  | cons chunk rest =>
      have outcome := sound.iteration_cons next
      cases decoded : pyStrFromString (nameOf chunk) with
      | none =>
          simp only [decoded] at outcome
          rw [outcome] at taken
          cases taken
      | some str =>
          simp only [decoded] at outcome
          rcases outcome with ⟨after, same, kept, _⟩
          rw [same] at taken
          cases taken
          exact kept

/-- Every iteration scans safely. -/
theorem Reading.Sound.always_scansSafely (sound : reading.Sound) (count : Nat) :
    Always Reading.step Reading.ScansSafely reading (List.replicate count ()) := by
  have invariant : Always Reading.step Reading.Sound reading (List.replicate count ()) :=
    always_of_guarded (fun _ _ _ taken before _ => before.step taken) sound
      (eachStep_of_forall_mem (fun _ _ => trivial : forall action : Unit, _ -> True) reading)
  exact invariant.mono (fun _ kept => kept.scansSafely)

/-- The iterations of a run do not change what the loop returns. -/
theorem listDevices_run {count : Nat} {last : Reading}
    (reached : run Reading.step reading (List.replicate count ()) = some last) :
    listDevices reading.stream reading.buffer reading.list =
      listDevices last.stream last.buffer last.list := by
  induction count generalizing reading with
  | zero =>
      cases reached
      rfl
  | succ count ih =>
      rw [List.replicate_succ, run, Option.bind_eq_some_iff] at reached
      rcases reached with ⟨later, taken, reached⟩
      rw [listDevices_iteration, Reading.step_eq_some_iff.mp taken]
      exact ih reached

/-- The loop ends, if not at a name that is no UTF-8, after as many iterations
as there are chunks. -/
theorem Reading.Sound.terminates (sound : reading.Sound) :
    ∃ count last, count ≤ (pieces 254 reading.stream.rest).length ∧
      run Reading.step reading (List.replicate count ()) = some last ∧
      (last.iteration = .ended ∨ last.iteration = .undefined) := by
  generalize left : pieces 254 reading.stream.rest = rest
  induction rest generalizing reading with
  | nil => exact ⟨0, reading, Nat.le_refl 0, rfl, Or.inl (Reading.iteration_nil left)⟩
  | cons chunk rest ih =>
      have outcome := sound.iteration_cons left
      cases decoded : pyStrFromString (nameOf chunk) with
      | none =>
          simp only [decoded] at outcome
          exact ⟨0, reading, Nat.zero_le _, rfl, Or.inr outcome⟩
      | some str =>
          simp only [decoded] at outcome
          rcases outcome with ⟨after, taken, kept, others, _⟩
          rcases ih kept others with ⟨count, last, few, reached, stopped⟩
          refine ⟨count + 1, last, Nat.succ_le_succ few, ?_, stopped⟩
          rw [List.replicate_succ, run, Reading.step_eq_some_iff.mpr taken]
          exact reached

/-- If all names are UTF-8, it lists one for each chunk. -/
theorem Reading.Sound.lists (sound : reading.Sound) {names : List String}
    (decoded : chunkNames (pieces 254 reading.stream.rest) = names.map some) :
    ∃ last,
      run Reading.step reading
          (List.replicate (pieces 254 reading.stream.rest).length ()) = some last ∧
        last.iteration = .ended ∧ last.list = reading.list ++ names := by
  generalize left : pieces 254 reading.stream.rest = rest at decoded ⊢
  induction rest generalizing reading names with
  | nil =>
      cases names with
      | nil => exact ⟨reading, rfl, Reading.iteration_nil left, (List.append_nil _).symm⟩
      | cons name names => cases decoded
  | cons chunk rest ih =>
      cases names with
      | nil => cases decoded
      | cons name names =>
          rw [chunkNames, List.map_cons, List.map_cons, List.cons.injEq] at decoded
          have outcome := sound.iteration_cons left
          simp only [decoded.1] at outcome
          rcases outcome with ⟨after, taken, kept, others, list⟩
          rcases ih kept others decoded.2 with ⟨last, reached, stopped, listed⟩
          refine ⟨last, ?_, stopped, ?_⟩
          · rw [List.length_cons, List.replicate_succ, run, Reading.step_eq_some_iff.mpr taken]
            exact reached
          · rw [listed, list, List.append_assoc]
            rfl

end Runs

/-! ## The headers -/

/-- A read takes the next chunk, or finds nothing and leaves nothing. -/
theorem fgets_cases (stream : Stream) :
    (∃ after, fgets 256 stream = (none, after) ∧ pieces 254 stream.rest = [] ∧
        pieces 254 after.rest = []) ∨
      ∃ chunk after, fgets 256 stream = (some chunk, after) ∧
        pieces 254 stream.rest = chunk :: pieces 254 after.rest := by
  rcases read : fgets 256 stream with ⟨_ | chunk, after⟩
  · have nothing : pieces 254 stream.rest = [] := pieces_of_fgets_null read
    rcases stream with ⟨rest, eof⟩
    cases rest_eq_nil_of_fgets read
    cases read
    exact Or.inl ⟨_, rfl, nothing, nothing⟩
  · exact Or.inr ⟨chunk, after, rfl, (pieces_of_fgets read).1⟩

/-- With less than two chunks the second read finds nothing. -/
theorem skipHeaders_short {content : List UInt8} (few : (chunks content).length < 2)
    (buffer : List UInt8) : skipHeaders content buffer = none := by
  rw [chunks] at few
  rcases fgets_cases { rest := content, eof := false } with
    ⟨first, read, _, nothing⟩ | ⟨chunk, first, read, split⟩
  · rcases fgets_cases first with ⟨second, again, _⟩ | ⟨other, second, again, split⟩
    · simp only [skipHeaders, read, again]
    · rw [nothing] at split
      cases split
  · rcases fgets_cases first with ⟨second, again, _⟩ | ⟨other, second, again, more⟩
    · simp only [skipHeaders, read, again]
    · simp only [split, more, List.length_cons] at few
      omega

/-- With two chunks the loop starts behind them. -/
theorem skipHeaders_long {content buffer : List UInt8} (enough : 2 ≤ (chunks content).length)
    (sized : buffer.length = 256) :
    ∃ start, skipHeaders content buffer = some start ∧ start.Sound ∧ start.list = [] ∧
      pieces 254 start.stream.rest = (chunks content).drop 2 := by
  rw [chunks] at enough ⊢
  rcases fgets_cases { rest := content, eof := false } with
    ⟨first, read, nothing, _⟩ | ⟨chunk, first, read, split⟩
  · simp only [nothing, List.length_nil] at enough
    omega
  · rcases fgets_cases first with ⟨second, again, nothing, _⟩ | ⟨other, second, again, more⟩
    · simp only [split, nothing, List.length_cons, List.length_nil] at enough
      omega
    · refine ⟨_, by simp only [skipHeaders, read, again]; rfl, ⟨?_, ?_⟩, rfl, ?_⟩
      · exact (pieces_of_fgets again).2
      · exact stored_length (stored_length sized (fgets_length read)) (fgets_length again)
      · simp only [split, more]
        rfl

/-! ## Any file -/

/-- What the loop does from its first test on a file with two headers: it
scans safely in each iteration, ends after at most one iteration for each
chunk that is left, and lists these chunks if their names are UTF-8. -/
structure ReadsExactly (content : List UInt8) (start : Reading) (result : Listing) : Prop where
  scans : forall count, Always Reading.step Reading.ScansSafely start (List.replicate count ())
  terminates : ∃ count last, count ≤ (chunks content).length - 2 ∧
    run Reading.step start (List.replicate count ()) = some last ∧
    ((last.iteration = .ended ∧ result = .names last.list) ∨
      (last.iteration = .undefined ∧ result = .undefined))
  lists : forall names, chunkNames ((chunks content).drop 2) = names.map some ->
    ∃ last,
      run Reading.step start (List.replicate ((chunks content).length - 2) ()) = some last ∧
      last.iteration = .ended ∧ last.list = names ∧ result = .names names

theorem readsExactly_listDevices {content : List UInt8} {start : Reading} (sound : start.Sound)
    (empty : start.list = [])
    (left : pieces 254 start.stream.rest = (chunks content).drop 2) :
    ReadsExactly content start (listDevices start.stream start.buffer start.list) where
  scans := sound.always_scansSafely
  terminates := by
    rcases sound.terminates with ⟨count, last, few, reached, stopped⟩
    rw [left, List.length_drop] at few
    refine ⟨count, last, few, reached, ?_⟩
    rw [listDevices_run reached, listDevices_iteration]
    rcases stopped with ended | undefined
    · rw [ended]
      exact Or.inl ⟨rfl, rfl⟩
    · rw [undefined]
      exact Or.inr ⟨rfl, rfl⟩
  lists := by
    intro names decoded
    rw [← left] at decoded
    rcases sound.lists decoded with ⟨last, reached, ended, listed⟩
    rw [left, List.length_drop] at reached
    rw [empty, List.nil_append] at listed
    refine ⟨last, reached, ended, listed, ?_⟩
    rw [listDevices_run reached, listDevices_iteration, ended, listed]

/-- On every file `get_devices` raises if there are less than two chunks, and
otherwise reads exactly the chunks after the first two. -/
theorem getDevices_readsExactly (content : List UInt8) (buffer : Vector UInt8 256)
    (errno : Int) :
    ((chunks content).length < 2 ->
      getDevices (.ok content) buffer.toList errno = .raised ⟨.osError, .errno errno⟩) ∧
    (2 ≤ (chunks content).length ->
      ∃ start, skipHeaders content buffer.toList = some start ∧
        ReadsExactly content start (getDevices (.ok content) buffer.toList errno)) := by
  constructor
  · intro few
    rw [getDevices_skipHeaders, skipHeaders_short few]
  · intro enough
    rcases skipHeaders_long enough buffer.length_toList with ⟨start, skipped, sound, empty, left⟩
    refine ⟨start, skipped, ?_⟩
    rw [getDevices_skipHeaders, skipped]
    exact readsExactly_listDevices sound empty left

/-- Two headers, an empty line, a line with a NUL and no colon, and the
beginning of a line. -/
def malformed : List UInt8 :=
  [97, 10, 98, 10, 10, 32, 99, 0, 100, 10, 32, 32, 101, 58, 102]

theorem chunks_malformed :
    chunks malformed =
      [[97, 10], [98, 10], [10], [32, 99, 0, 100, 10], [32, 32, 101, 58, 102]] := by
  simp [chunks, malformed, pieces, readLine, newline]

theorem getDevices_malformed :
    getDevices (.ok malformed) (Vector.replicate 256 0).toList 0 = .names ["\n", "c", "e"] := by
  have enough : 2 ≤ (chunks malformed).length := by
    rw [chunks_malformed]
    decide
  have names : chunkNames ((chunks malformed).drop 2) = ["\n", "c", "e"].map some := by
    rw [chunks_malformed]
    decide +kernel
  rcases (getDevices_readsExactly malformed (Vector.replicate 256 0) 0).2 enough with
    ⟨start, _, exactly⟩
  rcases exactly.lists _ names with ⟨_, _, _, _, listed⟩
  exact listed

end Devices
end PythonEthtool
