import PythonEthtool.Ioctl.Codec
import PythonEthtool.Ioctl.Functions

namespace PythonEthtool
namespace Ioctl

open Foundations
open Python

/-!
# What the dictionary setters send

`set_coalesce` and `set_ringparam` decode the dictionary into a structure on
the stack and send it.  The decoding loop stops at a missing name, but it
does not look at the result of the integer conversion: a value of another
type is sent as `0xffffffff`, and an integer outside 32 bits is sent reduced
modulo `2 ^ 32`.  The setters therefore do what their argument says exactly
for the dictionaries that lack a name or have a fitting integer for each.
-/

/-- The setter of each kind of settings. -/
def Settings.set (settings : Settings) (host : Host) (devname : CString) (object : PyObject) :
    CallResult :=
  match settings with
  | .coalesce => setCoalesce host devname object
  | .ringparam => setRingparam host devname object

/-- The request for the driver was made. -/
def CallResult.Issued (result : CallResult) : Prop :=
  ∃ request, request ∈ result.requests ∧ request.code = .siocethtool

/-- The setter sends exactly what it was given: a request goes out if and
only if the settings are legal, each field of it is then the value under
that name, and otherwise an exception is raised and nothing is sent. -/
def SendsOnlyGiven (settings : Settings) (host : Host) (devname : CString)
    (object : PyObject) : Prop :=
  ((settings.set host devname object).Issued ↔ Legal settings object) ∧
  (Legal settings object ->
    forall request, request ∈ (settings.set host devname object).requests ->
      forall name, name ∈ settings.struct.fields ->
        pyDictGetItemString object name =
          some (.int (load32 request.data (settings.struct.offsetof name)).toNat)) ∧
  (¬ Legal settings object ->
    (settings.set host devname object).Raises ∧
      (settings.set host devname object).requests = [])

section Setters

variable {settings : Settings} {host : Host} {object : PyObject} (devname : CString)

/-- Both setters are the common body with their own command. -/
theorem set_eq_setSettings (settings : Settings) (host : Host) (object : PyObject) : ∃ cmd,
    settings.set host devname object = setSettings settings host cmd devname object := by
  cases settings with
  | coalesce => exact ⟨ETHTOOL_SCOALESCE, rfl⟩
  | ringparam => exact ⟨ETHTOOL_SRINGPARAM, rfl⟩

theorem legal_allPresent (legal : Legal settings object) : AllPresent object settings.desc := by
  intro row member
  have field : row.name ∈ settings.struct.fields := by
    rw [settings.covers.fields]
    exact List.mem_map_of_mem member
  rcases legal row.name field with ⟨value, found, _⟩
  rw [found]
  rfl

theorem allPresent_iff_fields :
    AllPresent object settings.desc ↔
      forall name, name ∈ settings.struct.fields ->
        (pyDictGetItemString object name).isSome := by
  rw [settings.covers.fields, List.forall_mem_map]
  rfl

/-- Without a name nothing is sent. -/
theorem setSettings_missing (cmd : UInt32) (missing : ¬ AllPresent object settings.desc) :
    (setSettings settings host cmd devname object).requests = [] ∧
      (setSettings settings host cmd devname object).Raises := by
  have sizes : forall row, row ∈ settings.desc -> row.size = 4 := fun _ => settings.covers.size
  have incomplete :
      ¬ (structDescFromDict host.width object settings.desc host.stack none).returned = 0 := by
    rw [fromDict_returned_iff sizes]
    exact missing
  simp only [setSettings, if_neg incomplete]
  exact ⟨trivial, Or.inl rfl⟩

/-- With all names, and a socket, the decoded structure is sent, whatever
the values were. -/
theorem setSettings_present (cmd : UInt32) (opens : 0 ≤ host.socket)
    (present : AllPresent object settings.desc) :
    (setSettings settings host cmd devname object).requests =
      [{ code := .siocethtool
         ifrName := ifrName devname
         data := writeCmd
           (structDescFromDict host.width object settings.desc host.stack none).target cmd }] := by
  have sizes : forall row, row ∈ settings.desc -> row.size = 4 := fun _ => settings.covers.size
  have complete :
      (structDescFromDict host.width object settings.desc host.stack none).returned = 0 :=
    (fromDict_returned_iff sizes host.stack none).mpr present
  simp only [setSettings, if_pos complete, sendCommand, if_neg (Int.not_lt.mpr opens)]

/-- Writing the command leaves the fields alone. -/
theorem load_writeCmd_field (target : Memory) (cmd : UInt32) {name : String}
    (member : name ∈ settings.struct.fields) :
    load32 (writeCmd target cmd) (settings.struct.offsetof name) =
      load32 target (settings.struct.offsetof name) := by
  rcases settings.covers.row_of_field member with ⟨row, rowMember, rfl⟩
  rw [writeCmd_eq, ← settings.covers.offset rowMember]
  exact load32_store32_disjoint target cmd (settings.covers.cmd_disjoint rowMember)

/-- Without a socket nothing is sent either. -/
theorem setSettings_no_socket (cmd : UInt32) (closed : host.socket < 0) :
    (setSettings settings host cmd devname object).requests = [] ∧
      (setSettings settings host cmd devname object).Raises := by
  by_cases complete :
      (structDescFromDict host.width object settings.desc host.stack none).returned = 0
  · simp only [setSettings, if_pos complete, sendCommand, if_pos closed]
    exact ⟨trivial, Or.inr rfl⟩
  · simp only [setSettings, if_neg complete]
    exact ⟨trivial, Or.inl rfl⟩

/-- A call that sends nothing and raises is right about illegal settings
only. -/
theorem sendsOnlyGiven_of_silent
    (requests : (settings.set host devname object).requests = [])
    (raises : (settings.set host devname object).Raises) :
    SendsOnlyGiven settings host devname object ↔ ¬ Legal settings object := by
  have silent : ¬ (settings.set host devname object).Issued := by
    rw [CallResult.Issued, requests]
    rintro ⟨_, member, _⟩
    cases member
  constructor
  · rintro ⟨issues, _⟩ legal
    exact silent (issues.mpr legal)
  · intro illegal
    refine ⟨iff_of_false silent illegal, fun legal => absurd legal illegal, ?_⟩
    intro _
    exact ⟨raises, requests⟩

/-- The setters send only what they were given precisely when a field name
is missing, or every field has an integer that fits and the control socket
opens; a socket that does not open also keeps illegal settings back. -/
theorem sendsOnlyGiven_iff (settings : Settings) (host : Host) (devname : CString)
    (object : PyObject) (long64 : host.width = .bits64) :
    SendsOnlyGiven settings host devname object ↔
      (∃ name, name ∈ settings.struct.fields ∧ pyDictGetItemString object name = none) ∨
        (Legal settings object ↔ 0 ≤ host.socket) := by
  have missing_iff : (∃ name, name ∈ settings.struct.fields ∧
      pyDictGetItemString object name = none) ↔ ¬ AllPresent object settings.desc := by
    rw [allPresent_iff_fields]
    push Not
    simp only [Option.not_isSome_iff_eq_none]
  rw [missing_iff]
  rcases set_eq_setSettings devname settings host object with ⟨cmd, body⟩
  by_cases present : AllPresent object settings.desc
  · rw [or_iff_right (not_not.mpr present)]
    by_cases opens : 0 ≤ host.socket
    · have requests := setSettings_present devname cmd opens present
      rw [← body] at requests
      have issued : (settings.set host devname object).Issued := by
        rw [CallResult.Issued, requests]
        exact ⟨_, List.mem_singleton_self _, rfl⟩
      rw [iff_true_right opens]
      constructor
      · rintro ⟨sends, _⟩
        exact sends.mp issued
      · intro legal
        refine ⟨iff_of_true issued legal, ?_, fun illegal => absurd legal illegal⟩
        intro _ request member name field
        rw [requests, List.mem_singleton] at member
        subst member
        rw [load_writeCmd_field _ _ field, long64]
        exact (fromDict_spec settings legal host.stack).2.2 name field
    · have sent : (setSettings settings host cmd devname object).requests = [] ∧
          (setSettings settings host cmd devname object).Raises :=
        setSettings_no_socket devname cmd (Int.not_le.mp opens)
      rw [← body] at sent
      rw [iff_false_right opens]
      exact sendsOnlyGiven_of_silent devname sent.1 sent.2
  · have sent : (setSettings settings host cmd devname object).requests = [] ∧
        (setSettings settings host cmd devname object).Raises :=
      setSettings_missing devname cmd present
    rw [← body] at sent
    have illegal : ¬ Legal settings object := fun legal => present (legal_allPresent legal)
    exact iff_of_true ((sendsOnlyGiven_of_silent devname sent.1 sent.2).mpr illegal)
      (Or.inl present)

end Setters

/-- A dictionary with every ring parameter, and this value for `rx_pending`. -/
def ringDict (rxPending : PyValue) : PyDict :=
  (ethtoolRingparam.fields.foldl (fun dict name => dict.set (.str name) (.int 0))
    Dictionary.empty).set (.str "rx_pending") rxPending

theorem sendsOnlyGiven_ring_256 :
    SendsOnlyGiven .ringparam (acceptingHost [em1]) em1.name (.dict (ringDict (.int 256))) := by
  apply (sendsOnlyGiven_iff .ringparam (acceptingHost [em1]) em1.name
    (.dict (ringDict (.int 256))) rfl).mpr
  apply Or.inr
  refine iff_of_true ?_ (by decide)
  have values : forall name, name ∈ Settings.ringparam.struct.fields ->
      pyDictGetItemString (.dict (ringDict (.int 256))) name = some (.int 0) ∨
        pyDictGetItemString (.dict (ringDict (.int 256))) name = some (.int 256) := by
    decide
  intro name member
  rcases values name member with zero | given
  · exact ⟨.int 0, zero, 0, rfl, by decide, by decide⟩
  · exact ⟨.int 256, given, 256, rfl, by decide, by decide⟩

/-- All names are there and the text `many` is the ring size of `rx`: the
request goes out all the same. -/
theorem sends_text_as_ring_size :
    ¬ SendsOnlyGiven .ringparam (acceptingHost [em1]) em1.name
      (.dict (ringDict (.str "many"))) := by
  rintro ⟨issues, _⟩
  have present : AllPresent (.dict (ringDict (.str "many"))) Settings.ringparam.desc := by
    change forall row, row ∈ ethtoolRingparamDesc -> _
    decide
  have issued : (Settings.ringparam.set (acceptingHost [em1]) em1.name
      (.dict (ringDict (.str "many")))).Issued := by
    rw [CallResult.Issued, Settings.set, setRingparam,
      setSettings_present em1.name _ (by decide) present]
    exact ⟨_, List.mem_singleton_self _, rfl⟩
  rcases issues.mp issued "rx_pending" (by decide) with ⟨value, found, number, integer, _⟩
  have text : pyDictGetItemString (.dict (ringDict (.str "many"))) "rx_pending" =
      some (.str "many") := by
    decide
  rw [text, integer] at found
  cases found

end Ioctl
end PythonEthtool
