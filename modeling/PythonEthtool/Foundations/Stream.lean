import Mathlib

namespace PythonEthtool
namespace Foundations

/-!
# Reading a file in pieces

`fgets` reads up to the end of a line, but no more than fits its buffer.  A
line that is longer comes in several pieces, and nothing in a piece tells
whether it is the beginning of a line.  The pieces of a file are therefore
its lines only as long as every line fits.
-/

def newline : UInt8 :=
  10

/-- What is left to read, and whether a read has met the end of the file. -/
structure Stream where
  rest : List UInt8
  eof : Bool

/-- The bytes up to and including the next line feed, at most `room` of
them. -/
def readLine : Nat -> List UInt8 -> List UInt8 × Stream
  | 0, rest => ([], { rest := rest, eof := false })
  | _ + 1, [] => ([], { rest := [], eof := true })
  | room + 1, byte :: rest =>
      if byte = newline then ([byte], { rest := rest, eof := false })
      else
        let later := readLine room rest
        (byte :: later.1, later.2)

/-- `fgets(buffer, size, stream)`: the bytes that are put in front of the
terminator, or NULL when there are none. -/
def fgets (size : Nat) (stream : Stream) : Option (List UInt8) × Stream :=
  match readLine (size - 1) stream.rest with
  | ([], after) => (none, after)
  | (bytes, after) => (some bytes, after)

section Reading

variable {room : Nat}

theorem readLine_append (bytes : List UInt8) :
    (readLine room bytes).1 ++ (readLine room bytes).2.rest = bytes := by
  induction room generalizing bytes with
  | zero => rfl
  | succ room ih =>
      cases bytes with
      | nil => rfl
      | cons byte rest =>
          rw [readLine]
          by_cases line : byte = newline
          · rw [if_pos line]
            rfl
          · rw [if_neg line]
            exact congrArg (byte :: ·) (ih rest)

theorem readLine_length (bytes : List UInt8) : (readLine room bytes).1.length ≤ room := by
  induction room generalizing bytes with
  | zero => exact Nat.le_refl 0
  | succ room ih =>
      cases bytes with
      | nil => exact Nat.zero_le _
      | cons byte rest =>
          rw [readLine]
          split
          · exact Nat.succ_le_succ (Nat.zero_le room)
          · exact Nat.succ_le_succ (ih rest)

/-- A line that fits is read as it is. -/
theorem readLine_fits {line : List UInt8} (plain : newline ∉ line) (fits : line.length < room)
    (rest : List UInt8) :
    readLine room (line ++ newline :: rest) =
      (line ++ [newline], { rest := rest, eof := false }) := by
  induction line generalizing room with
  | nil =>
      cases room with
      | zero => cases fits
      | succ room =>
          rw [List.nil_append, readLine, if_pos rfl]
          rfl
  | cons byte line ih =>
      cases room with
      | zero => cases fits
      | succ room =>
          have different : byte ≠ newline := fun same => plain (same ▸ List.mem_cons_self)
          have later : newline ∉ line := fun member => plain (List.mem_cons_of_mem byte member)
          rw [List.cons_append, readLine, if_neg different,
            ih later (Nat.lt_of_succ_lt_succ fits)]
          rfl

/-- Of a line that does not fit, as much is read as does. -/
theorem readLine_long {line : List UInt8} (plain : newline ∉ line) (long : room ≤ line.length)
    (rest : List UInt8) :
    readLine room (line ++ rest) =
      (line.take room, { rest := line.drop room ++ rest, eof := false }) := by
  induction room generalizing line with
  | zero => rfl
  | succ room ih =>
      cases line with
      | nil => cases long
      | cons byte line =>
          have different : byte ≠ newline := fun same => plain (same ▸ List.mem_cons_self)
          have later : newline ∉ line := fun member => plain (List.mem_cons_of_mem byte member)
          rw [List.cons_append, readLine, if_neg different, ih later (Nat.le_of_succ_le_succ long)]
          rfl

/-- Something is read unless the file is at its end. -/
theorem readLine_progress (byte : UInt8) (rest : List UInt8) :
    (readLine (room + 1) (byte :: rest)).2.rest.length < (byte :: rest).length := by
  have whole := congrArg List.length
    (readLine_append (byte :: rest) : (readLine (room + 1) (byte :: rest)).1 ++ _ = _)
  have nonempty : 0 < (readLine (room + 1) (byte :: rest)).1.length := by
    rw [readLine]
    split
    · exact Nat.succ_pos _
    · exact Nat.succ_pos _
  rw [List.length_append] at whole
  omega

/-- Before the end of the file `fgets` does not return NULL. -/
theorem fgets_cons (byte : UInt8) (rest : List UInt8) (eof : Bool) :
    fgets (room + 2) { rest := byte :: rest, eof := eof } =
      (some (readLine (room + 1) (byte :: rest)).1, (readLine (room + 1) (byte :: rest)).2) := by
  change (match readLine (room + 1) (byte :: rest) with
    | ([], after) => (none, after)
    | (bytes, after) => (some bytes, after)) = _
  rw [readLine]
  by_cases line : byte = newline
  · rw [if_pos line]
  · rw [if_neg line]

/-- What is read fits the array with its terminator. -/
theorem fgets_length {stream after : Stream} {bytes : List UInt8}
    (read : fgets (room + 2) stream = (some bytes, after)) : bytes.length ≤ room + 1 := by
  rcases stream with ⟨rest, eof⟩
  cases rest with
  | nil => cases read
  | cons byte rest =>
      rw [fgets_cons, Prod.mk.injEq, Option.some.injEq] at read
      rw [← read.1]
      exact readLine_length (byte :: rest)

theorem fgets_progress {stream after : Stream} {bytes : List UInt8}
    (read : fgets (room + 2) stream = (some bytes, after)) :
    after.rest.length < stream.rest.length := by
  rcases stream with ⟨rest, eof⟩
  cases rest with
  | nil => cases read
  | cons byte rest =>
      rw [fgets_cons, Prod.mk.injEq] at read
      rw [← read.2]
      exact readLine_progress byte rest

/-- The end of the file is met only when nothing is left. -/
theorem readLine_eof {bytes : List UInt8} (met : (readLine room bytes).2.eof = true) :
    (readLine room bytes).2.rest = [] := by
  induction room generalizing bytes with
  | zero => cases met
  | succ room ih =>
      cases bytes with
      | nil => rfl
      | cons byte rest =>
          rw [readLine] at met ⊢
          by_cases line : byte = newline
          · rw [if_pos line] at met
            cases met
          · rw [if_neg line] at met ⊢
            exact ih met

/-! ## Lines -/

/-- The lines of a file, each with its line feed; the last may have none. -/
def linesOf : List UInt8 -> List (List UInt8)
  | [] => []
  | byte :: rest =>
      if byte = newline then [byte] :: linesOf rest
      else
        match linesOf rest with
        | [] => [[byte]]
        | line :: lines => (byte :: line) :: lines

theorem eq_nil_of_linesOf {bytes : List UInt8} (none : linesOf bytes = []) : bytes = [] := by
  cases bytes with
  | nil => rfl
  | cons byte rest =>
      rw [linesOf] at none
      split at none
      · cases none
      · split at none
        · cases none
        · cases none

/-- A line that fits is read as a whole, and the other lines are left. -/
theorem readLine_linesOf {bytes line : List UInt8} {lines : List (List UInt8)}
    (split : linesOf bytes = line :: lines) (fits : line.length ≤ room) :
    (readLine room bytes).1 = line ∧ linesOf (readLine room bytes).2.rest = lines := by
  induction bytes generalizing room line with
  | nil => cases split
  | cons byte rest ih =>
      rw [linesOf] at split
      by_cases feed : byte = newline
      · rw [if_pos feed] at split
        cases split
        cases room with
        | zero => cases fits
        | succ room =>
            rw [readLine, if_pos feed]
            exact ⟨rfl, rfl⟩
      · rw [if_neg feed] at split
        cases later : linesOf rest with
        | nil =>
            rw [later] at split
            cases split
            cases eq_nil_of_linesOf later
            cases room with
            | zero => cases fits
            | succ room =>
                rw [readLine, if_neg feed]
                cases room with
                | zero => exact ⟨rfl, rfl⟩
                | succ room => exact ⟨rfl, rfl⟩
        | cons first others =>
            rw [later] at split
            cases split
            cases room with
            | zero => cases fits
            | succ room =>
                rcases ih later (Nat.le_of_succ_le_succ fits) with ⟨read, left⟩
                rw [readLine, if_neg feed]
                exact ⟨congrArg (byte :: ·) read, left⟩

theorem rest_eq_nil_of_fgets {stream after : Stream}
    (read : fgets (room + 2) stream = (none, after)) : stream.rest = [] := by
  rcases stream with ⟨rest, eof⟩
  cases rest with
  | nil => rfl
  | cons byte rest =>
      rw [fgets_cons] at read
      cases read

theorem linesOf_append {line : List UInt8} (plain : newline ∉ line) (rest : List UInt8) :
    linesOf (line ++ newline :: rest) = (line ++ [newline]) :: linesOf rest := by
  induction line with
  | nil => exact if_pos rfl
  | cons byte line ih =>
      have different : byte ≠ newline := fun same => plain (same ▸ List.mem_cons_self)
      have later : newline ∉ line := fun member => plain (List.mem_cons_of_mem byte member)
      rw [List.cons_append, linesOf, if_neg different, ih later]
      rfl

/-! ## All pieces -/

/-- What successive reads with room for `room + 1` bytes give, up to the end
of the file. -/
def pieces (room : Nat) : List UInt8 -> List (List UInt8)
  | [] => []
  | byte :: rest =>
      (readLine (room + 1) (byte :: rest)).1 ::
        pieces room (readLine (room + 1) (byte :: rest)).2.rest
termination_by bytes => bytes.length
decreasing_by exact readLine_progress byte rest

/-- If all lines fit, they are the pieces. -/
theorem pieces_eq_linesOf {bytes : List UInt8}
    (fit : forall line, line ∈ linesOf bytes -> line.length ≤ room + 1) :
    pieces room bytes = linesOf bytes := by
  fun_induction pieces room bytes with
  | case1 => rfl
  | case2 byte rest ih =>
      cases split : linesOf (byte :: rest) with
      | nil => cases eq_nil_of_linesOf split
      | cons line lines =>
          rw [split] at fit
          rcases readLine_linesOf split (fit line List.mem_cons_self) with ⟨whole, left⟩
          rw [left] at ih
          rw [whole, ih (fun later member => fit later (List.mem_cons_of_mem line member))]

/-- Each successful read takes the next piece. -/
theorem pieces_of_fgets {stream after : Stream} {bytes : List UInt8}
    (read : fgets (room + 2) stream = (some bytes, after)) :
    pieces room stream.rest = bytes :: pieces room after.rest ∧
      (after.eof = true -> after.rest = []) := by
  rcases stream with ⟨rest, eof⟩
  cases rest with
  | nil => cases read
  | cons byte rest =>
      rw [fgets_cons, Prod.mk.injEq, Option.some.injEq] at read
      rw [pieces, ← read.1, ← read.2]
      exact ⟨rfl, readLine_eof⟩

theorem pieces_of_fgets_null {stream after : Stream}
    (read : fgets (room + 2) stream = (none, after)) : pieces room stream.rest = [] := by
  rw [rest_eq_nil_of_fgets read, pieces]

/-- A line that fits is a piece of its own. -/
theorem pieces_fits {line : List UInt8} (plain : newline ∉ line) (fits : line.length ≤ room)
    (rest : List UInt8) :
    pieces room (line ++ newline :: rest) = (line ++ [newline]) :: pieces room rest := by
  have read := readLine_fits plain (Nat.lt_succ_of_le fits) rest
  cases whole : line ++ newline :: rest with
  | nil => simp at whole
  | cons byte tail =>
      rw [whole] at read
      rw [pieces, read]

/-- A line is at least one piece, and at least two if it does not fit. -/
theorem pieces_line_length {line : List UInt8} (plain : newline ∉ line) (rest : List UInt8) :
    (pieces room rest).length + (if line.length ≤ room then 1 else 2) ≤
      (pieces room (line ++ newline :: rest)).length := by
  induction sized : line.length using Nat.strong_induction_on generalizing line with
  | _ size ih =>
      by_cases fits : line.length ≤ room
      · rw [pieces_fits plain fits, if_pos (sized ▸ fits)]
        exact Nat.le_refl _
      · rw [if_neg (sized ▸ fits)]
        have long : room + 1 ≤ line.length := Nat.lt_of_not_le fits
        have read := readLine_long plain long (newline :: rest)
        have shorter : (line.drop (room + 1)).length < size := by
          rw [List.length_drop]
          omega
        have later := ih _ shorter
          (fun member => plain (List.mem_of_mem_drop member) : newline ∉ line.drop (room + 1)) rfl
        have first : pieces room (line ++ newline :: rest) =
            line.take (room + 1) :: pieces room (line.drop (room + 1) ++ newline :: rest) := by
          cases whole : line ++ newline :: rest with
          | nil => simp at whole
          | cons byte tail =>
              rw [whole] at read
              rw [pieces, read]
        rw [first, List.length_cons]
        split at later
        · omega
        · omega

end Reading

end Foundations
end PythonEthtool
