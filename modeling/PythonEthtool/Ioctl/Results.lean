import PythonEthtool.Ioctl.Setters

namespace PythonEthtool
namespace Ioctl

open Foundations
open Python

/-!
# What becomes of the result of the ioctl

`send_command` returns the result of the system call and sets an exception
when it is negative.  Its callers then test for success in three ways.  The
integer getters take the value over when the result is 0 and fail when it is
negative, the setters of dictionaries fail when it is not 0, and the others
fail when it is negative.  The tests agree on 0 and on negative results.  On
a positive one, a getter of integers returns 0 whatever the reply says, and
a setter of dictionaries returns NULL without an exception.
-/

/-- The functions built on `send_command`, with the argument of the
setters. -/
inductive EthtoolFunction where
  | getTso
  | getUfo
  | getGso
  | getGro
  | getSg
  | getCoalesce
  | getRingparam
  | setTso (value : PyValue)
  | setGso (value : PyValue)
  | setGro (value : PyValue)
  | setCoalesce (object : PyObject)
  | setRingparam (object : PyObject)

def EthtoolFunction.call (host : Host) (devname : CString) : EthtoolFunction -> CallResult
  | .getTso => Ioctl.getTso host devname
  | .getUfo => Ioctl.getUfo host devname
  | .getGso => Ioctl.getGso host devname
  | .getGro => Ioctl.getGro host devname
  | .getSg => Ioctl.getSg host devname
  | .getCoalesce => Ioctl.getCoalesce host devname
  | .getRingparam => Ioctl.getRingparam host devname
  | .setTso value => Ioctl.setTso host devname value
  | .setGso value => Ioctl.setGso host devname value
  | .setGro value => Ioctl.setGro host devname value
  | .setCoalesce object => Ioctl.setCoalesce host devname object
  | .setRingparam object => Ioctl.setRingparam host devname object

/-- The four bodies that the twelve functions share, by what they carry. -/
inductive Shape where
  | intGetter
  | dictGetter (settings : Settings)
  | intSetter (value : PyValue)
  | dictSetter (settings : Settings) (object : PyObject)

def EthtoolFunction.shape : EthtoolFunction -> Shape
  | .getTso | .getUfo | .getGso | .getGro | .getSg => .intGetter
  | .getCoalesce => .dictGetter .coalesce
  | .getRingparam => .dictGetter .ringparam
  | .setTso value | .setGso value | .setGro value => .intSetter value
  | .setCoalesce object => .dictSetter .coalesce object
  | .setRingparam object => .dictSetter .ringparam object

/-- Arguments that the function can convert: an integer for the format `i`,
and a dictionary with an integer for every field that fits the field and a
C `long`. -/
def Shape.WellFormed (width : LongWidth) : Shape -> Prop
  | .intGetter => True
  | .dictGetter _ => True
  | .intSetter value => ∃ data, parseInt width value = .ok data
  | .dictSetter settings object =>
      forall name, name ∈ settings.struct.fields ->
        ∃ number : Int, pyDictGetItemString object name = some (.int number) ∧
          0 ≤ number ∧ number < 2 ^ 32 ∧ number < width.bound

/-- The object that a reply carries for a getter. -/
def Shape.carried (width : LongWidth) (reply : IoctlReply) : Shape -> Option PyObject
  | .intGetter =>
      some (.value (.int (toInt32 (load32 reply.data (ethtoolValue.offsetof "data")))))
  | .dictGetter settings =>
      (structDescCreateDict width settings.desc reply.data).map PyObject.dict
  | .intSetter _ => none
  | .dictSetter _ _ => none

/-- NULL stands for an exception, an exception for a negative result, and
what a getter returns otherwise is what the reply carries. -/
def ReportsFaithfully (result : CallResult) (reply : IoctlReply) (carried : Option PyObject) :
    Prop :=
  (result.value = none ↔ result.pending.isSome) ∧
    (result.pending.isSome ↔ reply.result < 0) ∧
    (0 ≤ reply.result -> forall object, carried = some object -> result.value = some object)

/-- The replies that each body passes on: a positive result only with the
value 0 to an integer getter, and not at all to a setter of dictionaries. -/
def Shape.PassesOn (reply : IoctlReply) : Shape -> Prop
  | .intGetter =>
      reply.result ≤ 0 ∨ load32 reply.data (ethtoolValue.offsetof "data") = 0
  | .dictGetter _ => True
  | .intSetter _ => True
  | .dictSetter _ _ => reply.result ≤ 0

theorem toInt32_eq_zero_iff (word : UInt32) : toInt32 word = 0 ↔ word = 0 := by
  have bound : word.toNat < 4294967296 := UInt32.toNat_lt word
  have value : toInt32 word = if (word.toNat : Int) < 2147483648 then (word.toNat : Int)
      else word.toNat - 4294967296 := by
    unfold toInt32
    rw [Int.bmod_def]
    norm_num
    split <;> omega
  rw [value, ← UInt32.toNat_inj]
  constructor
  · intro zero
    split at zero
    · exact Int.ofNat_eq_zero.mp zero
    · omega
  · intro zero
    have none : word.toNat = 0 := zero
    rw [none, if_pos (by decide)]
    rfl

section Bodies

variable {host : Host} (devname : CString)

/-- With a socket, `send_command` makes its request and returns its result. -/
theorem sendCommand_opened (opens : 0 ≤ host.socket) (cmd : UInt32) (value : Memory)
    (pending : Option PyError) :
    ∃ request, request.code = .siocethtool ∧
      sendCommand host cmd devname value pending =
        { err := (host.ioctl request).result
          value := (host.ioctl request).data
          pending := if (host.ioctl request).result < 0 then
            some ((setFromErrno (host.ioctl request).errno).over pending) else pending
          requests := [request] } := by
  rw [sendCommand, if_neg (Int.not_lt.mpr opens)]
  exact ⟨_, rfl, rfl⟩

theorem getDevIntValue_reports (opens : 0 ≤ host.socket) (cmd : UInt32) :
    ∃ request, (getDevIntValue host cmd devname).requests = [request] ∧
      request.code = .siocethtool ∧
      (ReportsFaithfully (getDevIntValue host cmd devname) (host.ioctl request)
          (Shape.intGetter.carried host.width (host.ioctl request)) ↔
        Shape.intGetter.PassesOn (host.ioctl request)) := by
  rcases sendCommand_opened devname opens cmd host.stack none with ⟨request, code, sent⟩
  refine ⟨request, ?_⟩
  simp only [getDevIntValue, getDevValue, sent]
  by_cases negative : (host.ioctl request).result < 0
  · simp only [if_pos negative]
    refine ⟨trivial, code, iff_of_true ?_ (Or.inl (Int.le_of_lt negative))⟩
    refine ⟨by simp, by simp [negative], ?_⟩
    intro positive
    exact absurd negative (Int.not_lt.mpr positive)
  · simp only [if_neg negative]
    refine ⟨trivial, code, ?_⟩
    have zero : (host.ioctl request).result ≤ 0 ↔ (host.ioctl request).result = 0 := by omega
    simp only [ReportsFaithfully, Shape.PassesOn, Shape.carried, zero, Option.some.injEq,
      forall_eq', negative, Int.not_lt.mp negative]
    by_cases success : (host.ioctl request).result = 0
    · simp [success]
    · simp only [success, false_or]
      rw [← toInt32_eq_zero_iff]
      simp [eq_comm]

theorem getSettings_reports (opens : 0 ≤ host.socket) (settings : Settings) (cmd : UInt32) :
    ∃ request, (getSettings settings host cmd devname).requests = [request] ∧
      request.code = .siocethtool ∧
      (ReportsFaithfully (getSettings settings host cmd devname) (host.ioctl request)
          ((Shape.dictGetter settings).carried host.width (host.ioctl request)) ↔
        (Shape.dictGetter settings).PassesOn (host.ioctl request)) := by
  rcases sendCommand_opened devname opens cmd host.stack none with ⟨request, code, sent⟩
  refine ⟨request, ?_⟩
  simp only [getSettings, getDevValue, sent]
  by_cases negative : (host.ioctl request).result < 0
  · simp only [if_pos negative]
    refine ⟨trivial, code, iff_of_true ⟨by simp, by simp [negative], ?_⟩ trivial⟩
    intro positive
    exact absurd negative (Int.not_lt.mpr positive)
  · simp only [if_neg negative]
    rw [structDescCreateDict, createDictFrom_eq_filled _ _ (fun _ => settings.covers.size)]
    refine ⟨trivial, code, iff_of_true ⟨by simp, by simp [negative], ?_⟩ trivial⟩
    intro _ object carried
    rw [← carried, Shape.carried, structDescCreateDict,
      createDictFrom_eq_filled _ _ (fun _ => settings.covers.size)]

theorem devSetIntValue_reports (opens : 0 ≤ host.socket) (cmd : UInt32) {value : PyValue}
    (fine : (Shape.intSetter value).WellFormed host.width) :
    ∃ request, (devSetIntValue host cmd devname value).requests = [request] ∧
      request.code = .siocethtool ∧
      (ReportsFaithfully (devSetIntValue host cmd devname value) (host.ioctl request)
          ((Shape.intSetter value).carried host.width (host.ioctl request)) ↔
        (Shape.intSetter value).PassesOn (host.ioctl request)) := by
  rcases fine with ⟨data, parsed⟩
  rcases sendCommand_opened devname opens cmd
      (store32 host.stack (ethtoolValue.offsetof "data") (UInt32.ofInt data)) none with
    ⟨request, code, sent⟩
  refine ⟨request, ?_⟩
  simp only [devSetIntValue, parsed, sent]
  refine ⟨trivial, code, iff_of_true ⟨?_, ?_, fun _ _ carried => by cases carried⟩ trivial⟩
  · by_cases negative : (host.ioctl request).result < 0
    · simp [negative]
    · simp [negative]
  · by_cases negative : (host.ioctl request).result < 0
    · simp [negative]
    · simp [negative]

/-- A well-formed dictionary is decoded without an exception. -/
theorem fromDict_wellFormed {width : LongWidth} {settings : Settings} {object : PyObject}
    (fine : (Shape.dictSetter settings object).WellFormed width) (target : Memory) :
    (structDescFromDict width object settings.desc target none).returned = 0 ∧
      (structDescFromDict width object settings.desc target none).pending = none := by
  have covers := settings.covers
  have rows : forall row, row ∈ settings.desc -> ∃ value,
      pyDictGetItemString object row.name = some value ∧ (pyLongAsLong width value).2 = none := by
    intro row member
    have field : row.name ∈ settings.struct.fields := by
      rw [covers.fields]
      exact List.mem_map_of_mem member
    rcases fine row.name field with ⟨number, found, lower, _, fits⟩
    refine ⟨.int number, found, ?_⟩
    have inside : -width.bound ≤ number ∧ number < width.bound := by
      constructor
      · cases width <;> simp only [LongWidth.bound] <;> omega
      · exact fits
    rw [pyLongAsLong, intAsLong, if_pos inside]
  refine ⟨?_, fromDict_pending (fun _ => covers.size) rows target none⟩
  apply (fromDict_returned_iff (fun _ => covers.size) target none).mpr
  intro row member
  rcases rows row member with ⟨value, found, _⟩
  rw [found]
  rfl

theorem setSettings_reports (opens : 0 ≤ host.socket) (cmd : UInt32) {settings : Settings}
    {object : PyObject} (fine : (Shape.dictSetter settings object).WellFormed host.width) :
    ∃ request, (setSettings settings host cmd devname object).requests = [request] ∧
      request.code = .siocethtool ∧
      (ReportsFaithfully (setSettings settings host cmd devname object) (host.ioctl request)
          ((Shape.dictSetter settings object).carried host.width (host.ioctl request)) ↔
        (Shape.dictSetter settings object).PassesOn (host.ioctl request)) := by
  rcases fromDict_wellFormed fine host.stack with ⟨returned, pending⟩
  rcases sendCommand_opened devname opens cmd
      (structDescFromDict host.width object settings.desc host.stack none).target none with
    ⟨request, code, sent⟩
  refine ⟨request, ?_⟩
  simp only [setSettings, if_pos returned, pending, sent]
  refine ⟨trivial, code, ?_⟩
  simp only [ReportsFaithfully, Shape.carried, Shape.PassesOn]
  -- Only the last case, a positive result, tells the two tests apart.
  rcases Int.lt_trichotomy (host.ioctl request).result 0 with negative | zero | positive
  · simp [negative, Int.ne_of_lt negative, Int.le_of_lt negative]
  · simp [zero]
  · simp [Int.ne_of_gt positive, Int.not_lt.mpr (Int.le_of_lt positive), positive]

end Bodies

/-- Every function reports the result of its request faithfully precisely
when the result is not positive, or the function is one that passes such a
reply on. -/
theorem reportsFaithfully_iff (function : EthtoolFunction) (host : Host) (devname : CString)
    (opens : 0 ≤ host.socket) (fine : function.shape.WellFormed host.width) :
    ∃ request, (function.call host devname).requests = [request] ∧
      request.code = .siocethtool ∧
      (ReportsFaithfully (function.call host devname) (host.ioctl request)
          (function.shape.carried host.width (host.ioctl request)) ↔
        function.shape.PassesOn (host.ioctl request)) := by
  cases function with
  | getTso => exact getDevIntValue_reports devname opens ETHTOOL_GTSO
  | getUfo => exact getDevIntValue_reports devname opens ETHTOOL_GUFO
  | getGso => exact getDevIntValue_reports devname opens ETHTOOL_GGSO
  | getGro => exact getDevIntValue_reports devname opens ETHTOOL_GGRO
  | getSg => exact getDevIntValue_reports devname opens ETHTOOL_GSG
  | getCoalesce => exact getSettings_reports devname opens .coalesce ETHTOOL_GCOALESCE
  | getRingparam => exact getSettings_reports devname opens .ringparam ETHTOOL_GRINGPARAM
  | setTso value => exact devSetIntValue_reports devname opens ETHTOOL_STSO fine
  | setGso value => exact devSetIntValue_reports devname opens ETHTOOL_SGSO fine
  | setGro value => exact devSetIntValue_reports devname opens ETHTOOL_SGRO fine
  | setCoalesce object => exact setSettings_reports devname opens ETHTOOL_SCOALESCE fine
  | setRingparam object => exact setSettings_reports devname opens ETHTOOL_SRINGPARAM fine

/-- A ring size of 256 on a machine that accepts it. -/
theorem reportsFaithfully_ring_256 :
    ∃ request,
      ((EthtoolFunction.setRingparam (.dict (ringDict (.int 256)))).call
        (acceptingHost [em1]) em1.name).requests = [request] ∧
      ReportsFaithfully ((EthtoolFunction.setRingparam (.dict (ringDict (.int 256)))).call
        (acceptingHost [em1]) em1.name) ((acceptingHost [em1]).ioctl request) none := by
  have values : forall name, name ∈ Settings.ringparam.struct.fields ->
      pyDictGetItemString (.dict (ringDict (.int 256))) name = some (.int 0) ∨
        pyDictGetItemString (.dict (ringDict (.int 256))) name = some (.int 256) := by
    decide
  rcases reportsFaithfully_iff (.setRingparam (.dict (ringDict (.int 256))))
      (acceptingHost [em1]) em1.name (by decide) (by
        intro name member
        rcases values name member with zero | given
        · exact ⟨0, zero, by decide, by decide, by decide⟩
        · exact ⟨256, given, by decide, by decide, by decide⟩) with ⟨request, one, _, reports⟩
  refine ⟨request, one, reports.mpr ?_⟩
  cases one
  exact Int.le_refl 0

/-- A machine on which every request returns 1 and carries the value 1. -/
def positiveHost : Host :=
  { acceptingHost [em1] with
    answer := fun _ request =>
      { result := 1
        errno := 0
        ifru := fun _ => 0
        data := store32 request.data (ethtoolValue.offsetof "data") 1 } }

/-- There `get_tso` returns 0, and `set_ringparam` returns NULL without an
exception. -/
theorem unfaithful_positive_result :
    (∃ request, (EthtoolFunction.getTso.call positiveHost em1.name).requests = [request] ∧
      ¬ ReportsFaithfully (EthtoolFunction.getTso.call positiveHost em1.name)
        (positiveHost.ioctl request)
        (EthtoolFunction.getTso.shape.carried .bits64 (positiveHost.ioctl request))) ∧
    ((EthtoolFunction.setRingparam (.dict (ringDict (.int 256)))).call
        positiveHost em1.name).value = none ∧
    ((EthtoolFunction.setRingparam (.dict (ringDict (.int 256)))).call
        positiveHost em1.name).pending = none := by
  refine ⟨?_, ?_, ?_⟩
  · rcases getDevIntValue_reports em1.name (by decide : 0 ≤ positiveHost.socket) ETHTOOL_GTSO with
      ⟨request, one, _, reports⟩
    refine ⟨request, one, fun faithful => ?_⟩
    cases one
    rcases reports.mp faithful with small | zero
    · exact absurd small (by decide)
    · exact absurd zero (by decide)
  · decide
  · decide

end Ioctl
end PythonEthtool
