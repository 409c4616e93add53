import PythonEthtool.Netlink.Connection
import PythonEthtool.Python.Objects

namespace PythonEthtool
namespace Netlink

open Foundations
open Python

/-!
# The objects of `get_interfaces_info`

The argument is a string, or a list or tuple of anything.  The function
first puts the C strings of the names into an array and then makes an object
for each.  On this way a name is encoded and decoded again, and in between
it ends at its first NUL; a name with a surrogate has no encoding at all.
The number of elements goes through a C `int`.

All other names come out as they went in, one object for each of them.
-/

/-! ## Strings -/

/-- `PyStr_AsString`: the bytes in front of the terminator, NULL for a
string that cannot be encoded. -/
def pyTextAsString (text : PyText) : Option (List UInt8) :=
  (text.mapM CodePoint.scalar?).map (fun chars => chars.flatMap String.utf8EncodeChar)

/-- The getter of the attribute `device`. -/
def getDevice (ethi : PyEtherInfo) : Option PyText :=
  (String.fromUTF8? ⟨ethi.device.bytes.toArray⟩).map
    (fun text => text.toList.map CodePoint.scalar)

/-! ## The function -/

/-- An element of a list or tuple, of which only strings matter. -/
inductive Element where
  | str (text : PyText)
  | other (identity : Nat)
  deriving DecidableEq

inductive PyArgument where
  | str (text : PyText)
  | tuple (elements : List Element)
  | list (elements : List Element)
  | other (identity : Nat)

/-- A list of objects or an exception.  There is no defined result where a
NULL is taken for a string, or the size of the array overflows. -/
inductive InterfacesInfo where
  | objects (list : List PyEtherInfo)
  | raised (error : PyError)
  | undefined

def lookupError : PyError :=
  ⟨.lookupError, .text "Argument must be either a string, list or a tuple"⟩

/-- The assignment of a size to the C `int` `fetch_devs_len`. -/
def fetchDevsLen (size : Nat) : Int :=
  Int.bmod size (2 ^ 32)

/-- The loop that fills `fetch_devs` from the elements in front of the given
number. -/
def fetchDevs (elements : List Element) (number : Int) : List (Option (List UInt8)) :=
  (elements.take number.toNat).foldl
    (fun devs elmt =>
      match elmt with
      | .str text => devs ++ [pyTextAsString text]
      | .other _ => devs) []

/-- The loop that makes the objects, with those made so far.  `PyObject_New`
gives memory, or fails with an error number. -/
def makeObjects (pyObjectNew : Nat -> Except Int PyEtherInfo) (devlist : List PyEtherInfo) :
    List (Option (List UInt8)) -> InterfacesInfo
  | [] => .objects devlist
  | dev :: devs =>
      match pyObjectNew devlist.length with
      | .error errno => .raised ⟨.osError, .errno errno⟩
      | .ok memory =>
          match dev with
          | none => .undefined
          | some bytes =>
              makeObjects pyObjectNew
                (devlist ++ [newEtherInfo memory (.ofBuffer (bytes ++ [0]))]) devs

/-- The branch for a tuple and that for a list, which differ in the names of
the functions they call only.  The array has one place more than there are
elements. -/
def interfacesOf (pyObjectNew : Nat -> Except Int PyEtherInfo) (elements : List Element) :
    InterfacesInfo :=
  if fetchDevsLen elements.length = 2 ^ 31 - 1 then .undefined
  else makeObjects pyObjectNew [] (fetchDevs elements (fetchDevsLen elements.length))

def getInterfacesInfo (pyObjectNew : Nat -> Except Int PyEtherInfo) (args : List PyArgument) :
    InterfacesInfo :=
  match args with
  | [] => .objects []
  | [.str text] => makeObjects pyObjectNew [] [pyTextAsString text]
  | [.tuple elements] => interfacesOf pyObjectNew elements
  | [.list elements] => interfacesOf pyObjectNew elements
  | _ => .raised lookupError

/-! ## What is asked of it -/

/-- The elements that an argument stands for: a string is a list of one. -/
def PyArgument.elements : PyArgument -> Option (List Element)
  | .str text => some [.str text]
  | .tuple elements => some elements
  | .list elements => some elements
  | .other _ => none

def Element.text : Element -> Option PyText
  | .str text => some text
  | .other _ => none

/-- One fresh object for each string, with the string as its device, and the
same objects for a tuple or a string as for the list. -/
structure MapsOneToOne (pyObjectNew : Nat -> Except Int PyEtherInfo) (argument : PyArgument)
    (elements : List Element) : Prop where
  mapped : ∃ objects, getInterfacesInfo pyObjectNew [argument] = .objects objects ∧
    objects.map getDevice = (elements.filterMap Element.text).map some ∧
    forall ethi, ethi ∈ objects -> ethi.index = -1 ∧ ethi.hwaddress = none
  sameAsList : getInterfacesInfo pyObjectNew [argument] =
    getInterfacesInfo pyObjectNew [.list elements]

/-- A C string can carry the text: no NUL and no surrogate. -/
def Carried (text : PyText) : Prop :=
  forall point, point ∈ text -> ∃ char : Char, point = .scalar char ∧ char.toNat ≠ 0

/-- The strings are all among the elements that the C `int` counts, and a C
string can carry each of them. -/
structure AllCarried (elements : List Element) : Prop where
  noOverflow : fetchDevsLen elements.length ≠ 2 ^ 31 - 1
  carried : forall text, .str text ∈ elements -> Carried text
  counted : forall text, .str text ∉ elements.drop (fetchDevsLen elements.length).toNat

/-! ## One name -/

/-- The text up to its first NUL. -/
def cut (text : PyText) : PyText :=
  text.takeWhile (fun point => !point.isNul)

theorem mapM_scalar? (chars : List Char) :
    (chars.map CodePoint.scalar).mapM CodePoint.scalar? = some chars := by
  induction chars with
  | nil => rfl
  | cons char chars ih =>
      rw [List.map_cons, List.mapM_cons, ih]
      rfl

theorem mapM_scalar?_eq_some {text : PyText} {chars : List Char}
    (encodable : text.mapM CodePoint.scalar? = some chars) : text = chars.map CodePoint.scalar := by
  induction text generalizing chars with
  | nil =>
      cases encodable
      rfl
  | cons point text ih =>
      rw [List.mapM_cons] at encodable
      cases point with
      | surrogate offset => cases encodable
      | scalar char =>
          cases rest : text.mapM CodePoint.scalar? with
          | none =>
              rw [rest] at encodable
              cases encodable
          | some others =>
              rw [rest] at encodable
              cases encodable
              rw [ih rest]
              rfl

/-- The strings that have an encoding are those of characters. -/
theorem pyTextAsString_eq_some_iff {text : PyText} {bytes : List UInt8} :
    pyTextAsString text = some bytes ↔
      ∃ chars : List Char, text = chars.map CodePoint.scalar ∧
        bytes = chars.flatMap String.utf8EncodeChar := by
  rw [pyTextAsString, Option.map_eq_some_iff]
  constructor
  · rintro ⟨chars, encodable, rfl⟩
    exact ⟨chars, mapM_scalar?_eq_some encodable, rfl⟩
  · rintro ⟨chars, rfl, rfl⟩
    exact ⟨chars, mapM_scalar? chars, rfl⟩

theorem cut_scalars (chars : List Char) :
    cut (chars.map CodePoint.scalar) =
      (chars.takeWhile (fun char => char.toNat ≠ 0)).map CodePoint.scalar := by
  rw [cut, List.takeWhile_map]
  congr 2
  funext char
  simp [CodePoint.isNul]

/-- The device of a new object is the name up to its first NUL. -/
theorem getDevice_newEtherInfo {text : PyText} {bytes : List UInt8}
    (encoded : pyTextAsString text = some bytes) (memory : PyEtherInfo) :
    getDevice (newEtherInfo memory (.ofBuffer (bytes ++ [0]))) = some (cut text) := by
  rcases pyTextAsString_eq_some_iff.mp encoded with ⟨chars, rfl, rfl⟩
  have bytes : (newEtherInfo memory
      (.ofBuffer (chars.flatMap String.utf8EncodeChar ++ [0]))).device.bytes =
        (chars.takeWhile (fun char => char.toNat ≠ 0)).flatMap String.utf8EncodeChar :=
    readString_utf8 chars []
  rw [getDevice, bytes, fromUTF8?_utf8, Option.map_some, String.toList_ofList, cut_scalars]

theorem carried_iff {text : PyText} :
    Carried text ↔ (pyTextAsString text).isSome ∧ cut text = text := by
  constructor
  · intro carried
    have scalars : ∃ chars : List Char, text = chars.map CodePoint.scalar := by
      induction text with
      | nil => exact ⟨[], rfl⟩
      | cons point text ih =>
          rcases carried point List.mem_cons_self with ⟨char, rfl, _⟩
          rcases ih (fun later member => carried later (List.mem_cons_of_mem _ member)) with
            ⟨chars, rfl⟩
          exact ⟨char :: chars, rfl⟩
    constructor
    · rcases scalars with ⟨chars, same⟩
      rw [pyTextAsString_eq_some_iff.mpr ⟨chars, same, rfl⟩]
      rfl
    · apply List.takeWhile_eq_self_iff.mpr
      intro point member
      rcases carried point member with ⟨char, rfl, nonzero⟩
      simp [CodePoint.isNul, nonzero]
  · rintro ⟨encodable, whole⟩ point member
    rcases Option.isSome_iff_exists.mp encodable with ⟨bytes, encoded⟩
    rcases pyTextAsString_eq_some_iff.mp encoded with ⟨chars, rfl, _⟩
    rcases List.mem_map.mp member with ⟨char, _, rfl⟩
    refine ⟨char, rfl, ?_⟩
    have kept := List.takeWhile_eq_self_iff.mp whole _ member
    simpa [CodePoint.isNul] using kept

/-! ## The two loops -/

theorem fetchDevsLen_small {size : Nat} (small : size < 2 ^ 31) : fetchDevsLen size = size := by
  apply Int.bmod_eq_of_le
  · push_cast
    omega
  · push_cast
    omega

theorem fetchDevs_eq (elements : List Element) (number : Int) :
    fetchDevs elements number =
      ((elements.take number.toNat).filterMap Element.text).map pyTextAsString := by
  have from_ : forall (rest : List Element) (devs : List (Option (List UInt8))),
      rest.foldl
        (fun devs elmt =>
          match elmt with
          | .str text => devs ++ [pyTextAsString text]
          | .other _ => devs) devs =
        devs ++ (rest.filterMap Element.text).map pyTextAsString := by
    intro rest
    induction rest with
    | nil => simp
    | cons elmt rest ih =>
        intro devs
        rw [List.foldl_cons, ih]
        cases elmt with
        | str text => simp [Element.text]
        | other identity => rw [List.filterMap_cons_none rfl]
  rw [fetchDevs, from_, List.nil_append]

section Objects

variable {pyObjectNew : Nat -> Except Int PyEtherInfo}

/-- Names with an encoding are made into fresh objects, in order. -/
theorem makeObjects_objects (allocates : forall index, ∃ memory, pyObjectNew index = .ok memory)
    {texts : List PyText} (encodable : forall text, text ∈ texts -> (pyTextAsString text).isSome)
    (devlist : List PyEtherInfo) :
    ∃ objects, makeObjects pyObjectNew devlist (texts.map pyTextAsString) =
        .objects (devlist ++ objects) ∧
      objects.map getDevice = texts.map (fun text => some (cut text)) ∧
      forall ethi, ethi ∈ objects -> ethi.index = -1 ∧ ethi.hwaddress = none := by
  induction texts generalizing devlist with
  | nil =>
      refine ⟨[], ?_, rfl, ?_⟩
      · rw [List.append_nil]
        rfl
      · intro ethi member
        cases member
  | cons text texts ih =>
      rcases allocates devlist.length with ⟨memory, allocated⟩
      rcases Option.isSome_iff_exists.mp (encodable text List.mem_cons_self) with ⟨bytes, encoded⟩
      rcases ih (fun later member => encodable later (List.mem_cons_of_mem text member))
          (devlist ++ [newEtherInfo memory (.ofBuffer (bytes ++ [0]))]) with
        ⟨objects, made, devices, fresh⟩
      refine ⟨newEtherInfo memory (.ofBuffer (bytes ++ [0])) :: objects, ?_, ?_, ?_⟩
      · simp only [List.map_cons, makeObjects, allocated, encoded]
        rw [made, List.append_assoc]
        rfl
      · rw [List.map_cons, List.map_cons, devices, getDevice_newEtherInfo encoded]
      · intro ethi member
        rcases List.mem_cons.mp member with rfl | later
        · exact ⟨rfl, rfl⟩
        · exact fresh ethi later

theorem makeObjects_undefined
    (allocates : forall index, ∃ memory, pyObjectNew index = .ok memory) {texts : List PyText}
    {text : PyText} (member : text ∈ texts) (unencodable : pyTextAsString text = none)
    (devlist : List PyEtherInfo) :
    makeObjects pyObjectNew devlist (texts.map pyTextAsString) = .undefined := by
  induction texts generalizing devlist with
  | nil => cases member
  | cons first texts ih =>
      rcases allocates devlist.length with ⟨memory, allocated⟩
      simp only [List.map_cons, makeObjects, allocated]
      rcases List.mem_cons.mp member with rfl | later
      · rw [unencodable]
      · cases pyTextAsString first with
        | none => rfl
        | some bytes => exact ih later _

/-- A string gives what a list of it gives. -/
theorem getInterfacesInfo_eq_list {argument : PyArgument} {elements : List Element}
    (given : argument.elements = some elements) :
    getInterfacesInfo pyObjectNew [argument] = interfacesOf pyObjectNew elements := by
  cases argument with
  | str text =>
      cases given
      have one : fetchDevsLen [Element.str text].length = 1 := fetchDevsLen_small (by simp)
      rw [interfacesOf, one, if_neg (by decide), fetchDevs_eq]
      rfl
  | tuple elements =>
      cases given
      rfl
  | list elements =>
      cases given
      rfl
  | other identity => cases given

end Objects

/-! ## The whole argument -/

/-- The strings among the elements that are counted. -/
def countedTexts (elements : List Element) : List PyText :=
  (elements.take (fetchDevsLen elements.length).toNat).filterMap Element.text

/-- The strings among the others. -/
def uncountedTexts (elements : List Element) : List PyText :=
  (elements.drop (fetchDevsLen elements.length).toNat).filterMap Element.text

theorem filterMap_text_split (elements : List Element) :
    elements.filterMap Element.text = countedTexts elements ++ uncountedTexts elements := by
  rw [countedTexts, uncountedTexts, ← List.filterMap_append, List.take_append_drop]

theorem mem_filterMap_text {elements : List Element} {text : PyText} :
    text ∈ elements.filterMap Element.text ↔ .str text ∈ elements := by
  rw [List.mem_filterMap]
  constructor
  · rintro ⟨element, member, found⟩
    cases element with
    | str other =>
        cases found
        exact member
    | other identity => cases found
  · intro member
    exact ⟨.str text, member, rfl⟩

theorem allCarried_iff {elements : List Element} :
    AllCarried elements ↔
      fetchDevsLen elements.length ≠ 2 ^ 31 - 1 ∧ uncountedTexts elements = [] ∧
        forall text, text ∈ countedTexts elements ->
          (pyTextAsString text).isSome ∧ cut text = text := by
  constructor
  · intro all
    refine ⟨all.noOverflow, ?_, ?_⟩
    · apply List.eq_nil_iff_forall_not_mem.mpr
      intro text member
      exact all.counted text (mem_filterMap_text.mp member)
    · intro text member
      apply carried_iff.mp
      apply all.carried
      apply mem_filterMap_text.mp
      rw [filterMap_text_split]
      exact List.mem_append_left _ member
  · rintro ⟨noOverflow, uncounted, counted⟩
    refine ⟨noOverflow, ?_, ?_⟩
    · intro text member
      have listed := mem_filterMap_text.mpr member
      rw [filterMap_text_split, uncounted, List.append_nil] at listed
      exact carried_iff.mpr (counted text listed)
    · intro text member
      have listed : text ∈ uncountedTexts elements := mem_filterMap_text.mpr member
      rw [uncounted] at listed
      cases listed

/-- A list of cut strings is the list of all strings only if none was cut
and none left out. -/
theorem map_cut_eq_append {texts others : List PyText} (same : texts.map cut = texts ++ others) :
    others = [] ∧ forall text, text ∈ texts -> cut text = text := by
  have lengths := congrArg List.length same
  rw [List.length_map, List.length_append] at lengths
  have empty : others = [] := List.eq_nil_of_length_eq_zero (by omega)
  subst empty
  rw [List.append_nil] at same
  refine ⟨rfl, ?_⟩
  intro text member
  exact List.map_inj_left.mp (same.trans (List.map_id texts).symm) text member

section Whole

variable {pyObjectNew : Nat -> Except Int PyEtherInfo} {elements : List Element}

theorem interfacesOf_eq (noOverflow : fetchDevsLen elements.length ≠ 2 ^ 31 - 1) :
    interfacesOf pyObjectNew elements =
      makeObjects pyObjectNew [] ((countedTexts elements).map pyTextAsString) := by
  rw [interfacesOf, if_neg noOverflow, fetchDevs_eq]
  rfl

theorem allCarried_of_mapped
    (allocates : forall index, ∃ memory, pyObjectNew index = .ok memory)
    {objects : List PyEtherInfo} (made : interfacesOf pyObjectNew elements = .objects objects)
    (devices : objects.map getDevice = (elements.filterMap Element.text).map some) :
    AllCarried elements := by
  have noOverflow : fetchDevsLen elements.length ≠ 2 ^ 31 - 1 := by
    intro overflow
    rw [interfacesOf, if_pos overflow] at made
    cases made
  rw [interfacesOf_eq noOverflow] at made
  have encodable : forall text, text ∈ countedTexts elements ->
      (pyTextAsString text).isSome := by
    intro text member
    by_contra missing
    rw [makeObjects_undefined allocates member (Option.not_isSome_iff_eq_none.mp missing)] at made
    cases made
  rcases makeObjects_objects allocates encodable [] with ⟨list, listed, cuts, _⟩
  rw [made] at listed
  cases listed
  have whole : (countedTexts elements).map cut =
      countedTexts elements ++ uncountedTexts elements := by
    rw [← filterMap_text_split]
    apply List.map_injective_iff.mpr (Option.some_injective PyText)
    rw [← devices, List.nil_append, cuts, List.map_map]
    rfl
  rcases map_cut_eq_append whole with ⟨uncounted, uncut⟩
  exact allCarried_iff.mpr ⟨noOverflow, uncounted, fun text member =>
    ⟨encodable text member, uncut text member⟩⟩

theorem mapped_of_allCarried
    (allocates : forall index, ∃ memory, pyObjectNew index = .ok memory)
    (all : AllCarried elements) :
    ∃ objects, interfacesOf pyObjectNew elements = .objects objects ∧
      objects.map getDevice = (elements.filterMap Element.text).map some ∧
      forall ethi, ethi ∈ objects -> ethi.index = -1 ∧ ethi.hwaddress = none := by
  rcases allCarried_iff.mp all with ⟨noOverflow, uncounted, counted⟩
  rcases makeObjects_objects allocates (fun text member => (counted text member).1) [] with
    ⟨objects, made, devices, fresh⟩
  refine ⟨objects, ?_, ?_, fresh⟩
  · rw [interfacesOf_eq noOverflow, made, List.nil_append]
  · rw [devices, filterMap_text_split, uncounted, List.append_nil]
    apply List.map_congr_left
    intro text member
    rw [(counted text member).2]

end Whole

/-- The objects are those of the strings exactly if C strings can carry the
strings and the C `int` counts them. -/
theorem getInterfacesInfo_oneToOne_iff (pyObjectNew : Nat -> Except Int PyEtherInfo)
    (allocates : forall index, ∃ memory, pyObjectNew index = .ok memory) (argument : PyArgument)
    (elements : List Element) (given : argument.elements = some elements) :
    MapsOneToOne pyObjectNew argument elements ↔ AllCarried elements := by
  constructor
  · intro maps
    rcases maps.mapped with ⟨objects, made, devices, _⟩
    rw [getInterfacesInfo_eq_list given] at made
    exact allCarried_of_mapped allocates made devices
  · intro all
    constructor
    · rw [getInterfacesInfo_eq_list given]
      exact mapped_of_allCarried allocates all
    · rw [getInterfacesInfo_eq_list given]
      rfl

/-- A tuple of a name and a number. -/
theorem getInterfacesInfo_oneToOne_tuple :
    MapsOneToOne (fun _ => .ok .cleared) (.tuple [.str [.scalar 'l', .scalar 'o'], .other 0])
      [.str [.scalar 'l', .scalar 'o'], .other 0] := by
  apply (getInterfacesInfo_oneToOne_iff (fun _ => .ok .cleared) (fun _ => ⟨.cleared, rfl⟩)
    (.tuple [.str [.scalar 'l', .scalar 'o'], .other 0])
    [.str [.scalar 'l', .scalar 'o'], .other 0] rfl).mpr
  have length : fetchDevsLen [Element.str [.scalar 'l', .scalar 'o'], .other 0].length = 2 :=
    fetchDevsLen_small (by simp)
  constructor
  · rw [length]
    decide
  · intro text member point inside
    simp only [List.mem_cons, Element.str.injEq, reduceCtorEq, List.not_mem_nil, or_false]
      at member
    subst member
    simp only [List.mem_cons, List.not_mem_nil, or_false] at inside
    rcases inside with rfl | rfl
    · exact ⟨'l', rfl, by decide⟩
    · exact ⟨'o', rfl, by decide⟩
  · intro text member
    rw [length] at member
    cases member

/-- A name with a NUL in it loses what comes after. -/
theorem getInterfacesInfo_cuts_nul :
    ¬ MapsOneToOne (fun _ => .ok .cleared)
      (.str [.scalar 'l', .scalar 'o', .scalar (Char.ofNat 0), .scalar '1'])
      [.str [.scalar 'l', .scalar 'o', .scalar (Char.ofNat 0), .scalar '1']] := by
  intro maps
  rcases maps.mapped with ⟨objects, made, devices, _⟩
  rw [getInterfacesInfo_eq_list rfl] at made
  have all := allCarried_of_mapped (fun _ => ⟨.cleared, rfl⟩) made devices
  rcases all.carried _ List.mem_cons_self (.scalar (Char.ofNat 0)) (by simp) with
    ⟨char, same, nonzero⟩
  cases same
  exact nonzero (by decide)

end Netlink
end PythonEthtool
