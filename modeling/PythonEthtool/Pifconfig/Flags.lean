import PythonEthtool.Foundations.Bits
import PythonEthtool.Ioctl.Functions
import PythonEthtool.Python.Text

namespace PythonEthtool
namespace Pifconfig

open Foundations
open Ioctl
open Python

/-!
# Interface flags as text

`pifconfig` prints the flags of an interface as the names of the bits that
are set.  It tests sixteen masks one after the other, so the text is a
function of the low sixteen bits of the number, and since the names differ
it determines them.  The number comes from `get_flags`, which makes a signed
`short` of the flag word; this changes the number but none of the bits.
-/

/-- The tests of `flags2str` in their order: the mask and what is appended. -/
def flagTests : List (Int × String) :=
  [(IFF_UP, "UP "),
    (IFF_BROADCAST, "BROADCAST "),
    (IFF_DEBUG, "DEBUG "),
    (IFF_LOOPBACK, "LOOPBACK "),
    (IFF_POINTOPOINT, "POINTOPOINT "),
    (IFF_NOTRAILERS, "NOTRAILERS "),
    (IFF_RUNNING, "RUNNING "),
    (IFF_NOARP, "NOARP "),
    (IFF_PROMISC, "PROMISC "),
    (IFF_ALLMULTI, "ALLMULTI "),
    (IFF_MASTER, "MASTER "),
    (IFF_SLAVE, "SLAVE "),
    (IFF_MULTICAST, "MULTICAST "),
    (IFF_PORTSEL, "PORTSEL "),
    (IFF_AUTOMEDIA, "AUTOMEDIA "),
    (IFF_DYNAMIC, "DYNAMIC ")]

def flags2str (flags : Int) : String :=
  pyStrip (flagTests.foldl
    (fun string test => if Int.land flags test.1 ≠ 0 then string ++ test.2 else string) "")

/-! ## Names of bits -/

/-- The names of the bits from 0 on. -/
def flagNames : List String :=
  ["UP", "BROADCAST", "DEBUG", "LOOPBACK", "POINTOPOINT", "NOTRAILERS", "RUNNING", "NOARP",
    "PROMISC", "ALLMULTI", "MASTER", "SLAVE", "MULTICAST", "PORTSEL", "AUTOMEDIA", "DYNAMIC"]

/-- The names of these bits, in ascending order. -/
def namesOfBits (bit : Nat -> Bool) : List String :=
  (flagNames.zipIdx.filter (fun entry => bit entry.2)).map Prod.fst

theorem flagTests_eq :
    flagTests = flagNames.zipIdx.map
      (fun entry => (((2 ^ entry.2 : Nat) : Int), entry.1 ++ " ")) := by
  rfl

theorem flagNames_words {name : String} (member : name ∈ flagNames) :
    IsWord isStrSpace name.toList := by
  have table : forall name, name ∈ flagNames ->
      name.toList ≠ [] ∧ name.toList.all (fun char => !isStrSpace char) := by
    decide
  rcases table name member with ⟨nonempty, plain⟩
  refine ⟨nonempty, ?_⟩
  intro char inside
  have clear := List.all_eq_true.mp plain char inside
  rw [Bool.not_eq_true'] at clear
  exact clear

theorem mem_namesOfBits {bit : Nat -> Bool} {name : String} :
    name ∈ namesOfBits bit ↔ ∃ index, flagNames[index]? = some name ∧ bit index = true := by
  rw [namesOfBits, List.mem_map]
  constructor
  · rintro ⟨⟨found, index⟩, member, rfl⟩
    rcases List.mem_filter.mp member with ⟨listed, set⟩
    exact ⟨index, List.mem_zipIdx_iff_getElem?.mp listed, set⟩
  · rintro ⟨index, listed, set⟩
    exact ⟨(name, index), List.mem_filter.mpr ⟨List.mem_zipIdx_iff_getElem?.mpr listed, set⟩, rfl⟩

/-- The names tell the bits apart. -/
theorem namesOfBits_eq_iff {first second : Nat -> Bool} :
    namesOfBits first = namesOfBits second ↔
      forall index, index < 16 -> first index = second index := by
  have nodup : flagNames.Nodup := by
    decide
  have bit_iff : forall bit index, (inside : index < flagNames.length) ->
      (flagNames[index] ∈ namesOfBits bit ↔ bit index = true) := by
    intro bit index inside
    rw [mem_namesOfBits]
    constructor
    · rintro ⟨other, listed, set⟩
      rcases List.getElem?_eq_some_iff.mp listed with ⟨bound, same⟩
      rw [← (nodup.getElem_inj_iff).mp same]
      exact set
    · intro set
      exact ⟨index, List.getElem?_eq_getElem inside, set⟩
  constructor
  · intro same index inside
    rw [Bool.eq_iff_iff, ← bit_iff first index inside, ← bit_iff second index inside, same]
  · intro agree
    rw [namesOfBits, namesOfBits]
    congr 1
    apply List.filter_congr
    rintro ⟨name, index⟩ member
    rcases List.getElem?_eq_some_iff.mp (List.mem_zipIdx_iff_getElem?.mp member) with ⟨bound, _⟩
    exact agree index bound

/-! ## The text -/

/-- The tests append the names of the set bits, each with a space. -/
theorem appendTests (flags : Int) (entries : List (String × Nat)) (string : String) :
    ((entries.map (fun entry => (((2 ^ entry.2 : Nat) : Int), entry.1 ++ " "))).foldl
      (fun string test => if Int.land flags test.1 ≠ 0 then string ++ test.2 else string)
      string).toList =
      string.toList ++ ((entries.filter (fun entry => flags.testBit entry.2)).map
        (fun entry => entry.1.toList)).flatMap (fun word => word ++ [' ']) := by
  induction entries generalizing string with
  | nil => simp
  | cons entry entries ih =>
      rw [List.map_cons, List.foldl_cons, ih, List.filter_cons]
      by_cases set : flags.testBit entry.2 = true
      · rw [if_pos (land_two_pow_ne_zero_iff.mpr set), if_pos set, List.map_cons,
          List.flatMap_cons, String.toList_append, String.toList_append]
        simp
      · rw [if_neg (fun mask => set (land_two_pow_ne_zero_iff.mp mask)), if_neg set]

theorem flags2str_eq (flags : Int) :
    flags2str flags = pyStrip (String.ofList
      (((namesOfBits flags.testBit).map String.toList).flatMap (fun word => word ++ [' ']))) := by
  rw [flags2str, flagTests_eq]
  congr 1
  apply String.toList_inj.mp
  have empty : "".toList = [] := rfl
  rw [appendTests, empty, List.nil_append, String.toList_ofList, namesOfBits, List.map_map]
  rfl

theorem pySplit_flags2str (flags : Int) :
    pySplit (flags2str flags) = namesOfBits flags.testBit := by
  have words : forall word, word ∈ (namesOfBits flags.testBit).map String.toList ->
      IsWord isStrSpace word := by
    intro word member
    rcases List.mem_map.mp member with ⟨name, named, rfl⟩
    rcases mem_namesOfBits.mp named with ⟨index, listed, _⟩
    exact flagNames_words (List.mem_of_getElem? listed)
  rw [flags2str_eq, pySplit_pyStrip, pySplit, String.toList_ofList,
    wordsOf_flatMap (by decide) words, List.map_map]
  simp

theorem flags2str_eq_iff {first second : Int} :
    flags2str first = flags2str second ↔ first ≡ second [ZMOD 2 ^ 16] := by
  change _ ↔ first ≡ second [ZMOD (2 ^ 16 : Nat)]
  rw [← testBit_eq_iff_modEq, ← namesOfBits_eq_iff]
  constructor
  · intro same
    rw [← pySplit_flags2str, ← pySplit_flags2str, same]
  · intro same
    rw [flags2str_eq, flags2str_eq, same]

/-! ## The flag word of the kernel -/

/-- The two bytes of the union in which the kernel reports the flags. -/
def flagWord (ifru : Memory) : Nat :=
  (ifru 0).toNat + 256 * (ifru 1).toNat

theorem ifrFlags_eq (ifru : Memory) :
    ifrFlags ifru = Int.bmod (flagWord ifru) (2 ^ 16) := by
  have power : 65536 = 2 ^ 16 := by
    norm_num
  have word : ifrFlags ifru = Int.bmod (flagWord ifru) 65536 := by
    unfold flagWord
    push_cast
    exact Eq.refl (ifrFlags ifru)
  exact word.trans (congrArg (Int.bmod (flagWord ifru)) power)

/-- The sign of the `short` is none of its bits. -/
theorem testBit_ifrFlags (ifru : Memory) {index : Nat} (inside : index < 16) :
    (ifrFlags ifru).testBit index = (flagWord ifru).testBit index := by
  have same : ifrFlags ifru ≡ (flagWord ifru : Int) [ZMOD (2 ^ 16 : Nat)] := by
    rw [ifrFlags_eq]
    exact Int.bmod_emod
  exact testBit_eq_iff_modEq.mpr same index inside

/-- What `get_flags` asks the kernel. -/
def flagsRequest (devname : CString) : IoctlRequest where
  code := .siocgifflags
  ifrName := ifrName devname
  data := noData

theorem getFlags_returns {host : Host} {devname : CString} (opens : 0 ≤ host.socket)
    (answers : 0 ≤ (host.ioctl (flagsRequest devname)).result) :
    (getFlags host devname).value =
      some (.value (.int (ifrFlags (host.ioctl (flagsRequest devname)).ifru))) := by
  rw [getFlags, ifreqCall, if_neg (Int.not_lt.mpr opens)]
  change (if (host.ioctl (flagsRequest devname)).result < 0 then _ else _ : CallResult).value = _
  rw [if_neg (Int.not_lt.mpr answers)]
  rfl

/-- The text lists the names of the set bits among the first sixteen and
determines them, and the value that `get_flags` returns has the bits of the
word that the kernel reports. -/
theorem flags2str_faithful :
    (forall flags, pySplit (flags2str flags) = namesOfBits flags.testBit) ∧
    (forall first second, flags2str first = flags2str second ↔
      first ≡ second [ZMOD 2 ^ 16]) ∧
    (forall host devname word, 0 ≤ host.socket ->
      0 ≤ (host.ioctl (flagsRequest devname)).result ->
      flagWord (host.ioctl (flagsRequest devname)).ifru = word ->
      ∃ flags, (getFlags host devname).value = some (.value (.int flags)) ∧
        pySplit (flags2str flags) = namesOfBits word.testBit) := by
  refine ⟨pySplit_flags2str, fun _ _ => flags2str_eq_iff, ?_⟩
  rintro host devname word opens answers rfl
  refine ⟨_, getFlags_returns opens answers, ?_⟩
  rw [pySplit_flags2str]
  apply namesOfBits_eq_iff.mpr
  intro index inside
  exact testBit_ifrFlags _ inside

/-- An interface whose word has the first and the last bit, which makes the
value negative. -/
theorem flags2str_faithful_negative :
    ∃ flags, (getFlags { acceptingHost [em1] with
        answer := fun _ request =>
          { result := 0
            errno := 0
            ifru := fun index => if index = 0 then 0x01 else 0x80
            data := request.data } } em1.name).value = some (.value (.int flags)) ∧
      pySplit (flags2str flags) = namesOfBits (Nat.testBit 0x8001) :=
  flags2str_faithful.2.2 _ em1.name 0x8001 (by decide) (by decide) rfl

example : flags2str 73 = "UP LOOPBACK RUNNING" := by decide


end Pifconfig
end PythonEthtool
