import PythonEthtool.Pethtool.Targets

namespace PythonEthtool
namespace Pethtool

open Foundations
open Foundations.Program
open Ioctl (Settings)
open Python

/-!
# Writing only what was asked for

A token asks for a value when it spells it in the grammar of its option:
`on` and `off` for the offloads and the two adaptive fields, numbers for the
rest.  Any other token should leave its field alone.

`set_ringparam` reads numbers only, and so complies.  `set_coalesce` reads
the tokens of both grammars for every option, and `set_offload` reads
everything but `on` as zero.  A misread token goes unnoticed only if it does
not matter: a later token for the same field is read, or it is read as a
value that the field has or is asked to have in any case.
-/

def grammarOf (field : String) : Grammar :=
  if field = "use_adaptive_rx_coalesce" ∨ field = "use_adaptive_tx_coalesce" then .onOff
  else .number

/-- The assignment that two words ask for. -/
def askedBy (settings : Settings) (pair : String × String) : Option (String × Int) :=
  match entryOf settings (pyLower pair.1) with
  | .ok (some field) => ((grammarOf field).reads pair.2).map (fun number => (field, number))
  | _ => none

def asked (settings : Settings) (args : List String) : List (String × Int) :=
  (wordPairs args).filterMap (askedBy settings)

def Feature.name : Feature -> String
  | .sg => "sg"
  | .tso => "tso"
  | .ufo => "ufo"
  | .gso => "gso"
  | .gro => "gro"

/-- The words name the feature and spell the value. -/
def AskedFeature (args : List String) (feature : Feature) (value : Int) : Prop :=
  ∃ option token, args = [option, token] ∧ pyLower option = feature.name ∧
    Grammar.onOff.reads token = some value

/-- Every field of the dictionary has the value it had or the last one asked
for. -/
def AskedSettings (settings : Settings) (args : List String) (before after : SettingsMap) : Prop :=
  forall field, after.get? field = before.get? field ∨
    ∃ value, lastValue field (asked settings args) = some value ∧ after.get? field = some value

/-- Whatever a command writes was asked for by its arguments. -/
def WritesOnlyAsked {Kernel : Type} (ethtool : Ethtool Kernel) (world : World Kernel)
    (command : Command) (interface : String) (args : List String) : Prop :=
  forall call, Event.called call ∈
      ((command.body ethtool interface (some args)).run world).events ->
    match call with
    | .setFeature feature _ value => AskedFeature args feature value
    | .setSettings settings _ final =>
        forall current,
          (ethtool.answer (.getSettings settings interface) world.kernel).1 = .ok current ->
            AskedSettings settings args current.map final
    | _ => True

/-! ## Misread tokens -/

/-- A pair that is read although its token is outside the grammar of its
option, and whose field no later pair assigns, is read as the value that the
field has, or that is asked for last before it. -/
def MisreadingHarmless (settings : Settings) (args : List String) (before : SettingsMap) : Prop :=
  forall earlier pair later field value,
    wordPairs args = earlier ++ pair :: later ->
    readAs settings pair = some (field, value) -> askedBy settings pair = none ->
    (forall next, next ∈ later -> forall other, readAs settings next ≠ some (field, other)) ->
      before.get? field = some value ∨
        lastValue field (earlier.filterMap (askedBy settings)) = some value

section Misreading

variable {settings : Settings}

theorem ringparam_number {arg field : String}
    (found : entryOf .ringparam arg = .ok (some field)) : grammarOf field = .number := by
  have table : forall field, field ∈ Settings.ringparam.struct.fields ->
      grammarOf field = .number := by
    decide
  exact table field (entryOf_field found)

/-- What is asked for is read as such. -/
theorem readAs_of_askedBy {pair : String × String} {assignment : String × Int}
    (asks : askedBy settings pair = some assignment) :
    readAs settings pair = some assignment := by
  rw [askedBy] at asks
  cases entry : entryOf settings (pyLower pair.1) with
  | error error =>
      rw [entry] at asks
      cases asks
  | ok found =>
      cases found with
      | none =>
          rw [entry] at asks
          cases asks
      | some field =>
          simp only [entry] at asks
          rcases Option.map_eq_some_iff.mp asks with ⟨number, spelled, rfl⟩
          apply readAs_eq_some_iff.mpr
          refine ⟨entry, valueOf_of_reads ?_ spelled⟩
          cases settings with
          | coalesce => exact Or.inl rfl
          | ringparam => exact Or.inr (ringparam_number entry)

/-- A field that no pair assigns is asked for by none. -/
theorem lastValue_asked_none {pairs : List (String × String)} {field : String}
    (others : forall next, next ∈ pairs ->
      forall other, readAs settings next ≠ some (field, other)) :
    lastValue field (pairs.filterMap (askedBy settings)) = none := by
  apply lastValue_eq_none_iff.mpr
  rintro ⟨first, value⟩ member same
  rcases List.mem_filterMap.mp member with ⟨next, found, asks⟩
  cases same
  exact others next found value (readAs_of_askedBy asks)

/-- The dictionary written is as asked precisely when the misread tokens do
not matter. -/
theorem askedSettings_override_iff (args : List String) (before : SettingsMap) :
    AskedSettings settings args before
        (before.override (accepted settings args)) ↔
      MisreadingHarmless settings args before := by
  constructor
  · intro fine earlier pair later field value split read unasked others
    have last : lastValue field (accepted settings args) = some value :=
      lastValue_filterMap_eq_some_iff.mpr ⟨earlier, pair, later, split, read, others⟩
    have askedEarlier : lastValue field (asked settings args) =
        lastValue field (earlier.filterMap (askedBy settings)) := by
      rw [asked, split, List.filterMap_append, List.filterMap_cons_none unasked,
        lastValue_append, lastValue_asked_none others, Option.none_or]
    have written := fine field
    rw [Dictionary.get?_override, last, askedEarlier, Option.some_or] at written
    rcases written with unchanged | ⟨number, wanted, same⟩
    · exact Or.inl unchanged.symm
    · exact Or.inr (wanted.trans same.symm)
  · intro harmless field
    rw [Dictionary.get?_override]
    cases last : lastValue field (accepted settings args) with
    | none => exact Or.inl (Option.none_or)
    | some value =>
        rcases lastValue_filterMap_eq_some_iff.mp last with
          ⟨earlier, pair, later, split, read, others⟩
        rw [Option.some_or]
        have askedLast : lastValue field (asked settings args) =
            (lastValue field ([pair].filterMap (askedBy settings))).or
              (lastValue field (earlier.filterMap (askedBy settings))) := by
          rw [asked, split, ← List.singleton_append, List.filterMap_append, List.filterMap_append,
            lastValue_append, lastValue_append, lastValue_asked_none others, Option.none_or]
        cases asks : askedBy settings pair with
        | some assignment =>
            have same := readAs_of_askedBy asks
            rw [read] at same
            cases same
            refine Or.inr ⟨value, ?_, rfl⟩
            rw [askedLast, List.filterMap_cons_some asks, List.filterMap_nil, lastValue_cons,
              if_pos rfl]
            rfl
        | none =>
            rcases harmless earlier pair later field value split read asks others with
              kept | wanted
            · exact Or.inl kept.symm
            · refine Or.inr ⟨value, ?_, rfl⟩
              rw [askedLast, List.filterMap_cons_none asks, wanted]
              rfl

end Misreading

/-! ## The three setters -/

/-- The feature that the first word of `set_offload` selects. -/
def offloadFeature (cmd : String) : Option Feature :=
  if cmd = "tso" then some .tso
  else if cmd = "gso" then some .gso
  else if cmd = "gro" then some .gro
  else none

theorem offloadFeature_name {cmd : String} {feature : Feature}
    (selected : offloadFeature cmd = some feature) : cmd = feature.name := by
  unfold offloadFeature at selected
  split at selected
  · rename_i named
    cases selected
    exact named
  · split at selected
    · rename_i named
      cases selected
      exact named
    · split at selected
      · rename_i named
        cases selected
        exact named
      · cases selected

section Commands

variable {Kernel : Type} {ethtool : Ethtool Kernel} {world : World Kernel} {interface : String}
  {args : List String}

/-- A command that changes nothing writes nothing unasked. -/
theorem writesOnlyAsked_of_untargeted {command : Command}
    (untargeted : forall event, event ∈
        ((command.body ethtool interface (some args)).run world).events -> event.target = none) :
    WritesOnlyAsked ethtool world command interface args := by
  intro call member
  have unaimed : call.target = none := untargeted _ member
  cases call with
  | setFeature feature target value => cases unaimed
  | setSettings settings target final => cases unaimed
  | _ => trivial

theorem setOffload_events (option token : String) :
    ((setOffload ethtool interface (some [option, token])).run world).events =
      (offloadFeature (pyLower option)).toList.map (fun feature =>
        .called (.setFeature feature interface (if pyLower token = "on" then 1 else 0))) := by
  change ((if pyLower option = "tso" then setFeature ethtool .tso interface (pyLower token)
      else if pyLower option = "gso" then setFeature ethtool .gso interface (pyLower token)
      else if pyLower option = "gro" then setFeature ethtool .gro interface (pyLower token)
      else pure ()).run world).events = _
  have writes (feature : Feature) :
      ((setFeature ethtool feature interface (pyLower token)).run world).events =
        [.called (.setFeature feature interface (if pyLower token = "on" then 1 else 0))] := by
    unfold setFeature
    cases ended : ((perform ethtool (.setFeature feature interface
        (if pyLower token = "on" then 1 else 0))).run world).result with
    | ok value =>
        rw [run_tryElse_ok _ _ _ ended]
        rfl
    | error error =>
        rw [run_tryElse_error _ _ _ ended]
        rfl
  unfold offloadFeature
  split
  · exact writes .tso
  · split
    · exact writes .gso
    · split
      · exact writes .gro
      · rfl

/-- Other than two words write nothing. -/
theorem setOffload_silent (other : args.length ≠ 2) :
    ((setOffload ethtool interface (some args)).run world).events = [] := by
  match args with
  | [] => rfl
  | [_] => rfl
  | [_, _] => exact absurd rfl other
  | _ :: _ :: _ :: _ => rfl

theorem askedFeature_iff {option token : String} {feature : Feature}
    (selected : offloadFeature (pyLower option) = some feature) :
    AskedFeature [option, token] feature (if pyLower token = "on" then 1 else 0) ↔
      pyLower token = "on" ∨ pyLower token = "off" := by
  constructor
  · rintro ⟨_, _, words, _, spelled⟩
    cases words
    rw [Grammar.reads] at spelled
    by_cases on : pyLower token = "on"
    · exact Or.inl on
    · by_cases off : pyLower token = "off"
      · exact Or.inr off
      · rw [if_neg on, if_neg off] at spelled
        cases spelled
  · intro legal
    refine ⟨option, token, rfl, offloadFeature_name selected, ?_⟩
    rw [Grammar.reads]
    by_cases on : pyLower token = "on"
    · rw [if_pos on, if_pos on]
    · rw [if_neg on, if_neg on, if_pos (legal.resolve_left on)]

theorem writesOnlyAsked_setOffload_iff :
    WritesOnlyAsked ethtool world .setOffload interface args ↔
      forall option token, args = [option, token] ->
        (offloadFeature (pyLower option)).isSome ->
          pyLower token = "on" ∨ pyLower token = "off" := by
  constructor
  · rintro fine option token rfl selects
    rcases Option.isSome_iff_exists.mp selects with ⟨feature, selected⟩
    apply (askedFeature_iff selected).mp
    apply fine (.setFeature feature interface (if pyLower token = "on" then 1 else 0))
    rw [Command.body, setOffload_events, selected]
    exact List.mem_singleton_self _
  · intro legal
    by_cases two : args.length = 2
    · rcases List.length_eq_two.mp two with ⟨option, token, rfl⟩
      intro call member
      rw [Command.body, setOffload_events] at member
      rcases List.mem_map.mp member with ⟨feature, found, same⟩
      cases same
      have selected := Option.mem_toList.mp found
      apply (askedFeature_iff selected).mpr
      exact legal option token rfl (Option.isSome_iff_exists.mpr ⟨feature, selected⟩)
    · apply writesOnlyAsked_of_untargeted
      intro event member
      rw [Command.body, setOffload_silent two] at member
      cases member

/-- Nothing is written after a failed read. -/
theorem setter_untargeted_of_unread {settings : Settings} {error : PyError}
    (unread : (ethtool.answer (.getSettings settings interface) world.kernel).1 = .error error)
    {event : Event}
    (member : event ∈ ((setter ethtool settings interface (some args)).run world).events) :
    event.target = none := by
  rcases setter_eq_setSettings ethtool settings with ⟨unsupported, body⟩
  have permits : Permits (fun event => event.target = none) Call.Reads :=
    ⟨fun _ => rfl, fun _ reading => reading⟩
  rw [body, setSettings, run_tryElse_error _ _ _ unread] at member
  rcases List.mem_append.mp member with reading | later
  · rw [List.mem_singleton.mp reading]
    rfl
  · exact (emits_exceptIOError (emits_printtab permits _) error).allows later

/-- Once the words are processed, what the setters write is as asked
precisely when the overridden settings are, whether they are written or not. -/
theorem writesOnlyAsked_setter_iff_override {settings : Settings} {command : Command}
    {current : CurrentSettings settings}
    (body : forall interface args,
      command.body ethtool interface args = setter ethtool settings interface args)
    (read : (ethtool.answer (.getSettings settings interface) world.kernel).1 = .ok current)
    (fine : ¬ ProcessingRaises settings args) :
    WritesOnlyAsked ethtool world command interface args ↔
      AskedSettings settings args current.map
        (current.map.override (accepted settings args)) := by
  cases differing : differs current.map (accepted settings args) with
  | true =>
      have run := setter_run_of_differs fine read differing
      constructor
      · intro asks
        apply asks (.setSettings settings interface _) _ current read
        rw [body, run]
        exact List.mem_cons_of_mem _ (List.mem_singleton_self _)
      · intro asked call member
        rw [body, run] at member
        rcases List.mem_cons.mp member with same | later
        · cases same
          trivial
        · cases List.mem_singleton.mp later
          intro other known
          rw [read] at known
          cases known
          exact asked
  | false =>
      -- No call is made, and the override repeats what was read.
      have run := setter_run_of_repeats fine read differing
      apply iff_of_true
      · apply writesOnlyAsked_of_untargeted
        intro event member
        rw [body, run] at member
        rw [List.mem_singleton.mp member]
        rfl
      · rw [Dictionary.override_eq_self (differs_eq_false_iff.mp differing)]
        exact fun _ => Or.inl rfl

/-- What the setters write is as asked precisely when their processing
raises or the misread tokens do not matter. -/
theorem writesOnlyAsked_setter_iff {settings : Settings} {command : Command}
    (body : forall interface args,
      command.body ethtool interface args = setter ethtool settings interface args) :
    WritesOnlyAsked ethtool world command interface args ↔
      forall current,
        (ethtool.answer (.getSettings settings interface) world.kernel).1 = .ok current ->
          ProcessingRaises settings args ∨ MisreadingHarmless settings args current.map := by
  cases read : (ethtool.answer (.getSettings settings interface) world.kernel).1 with
  | error error =>
      apply iff_of_true
      · apply writesOnlyAsked_of_untargeted
        intro event member
        rw [body] at member
        exact setter_untargeted_of_unread read member
      · intro current known
        cases known
  | ok current =>
      by_cases raises : ProcessingRaises settings args
      · refine iff_of_true ?_ (fun _ _ => Or.inl raises)
        apply writesOnlyAsked_of_untargeted
        intro event member
        rcases setter_run_of_raises raises read with ⟨error, run⟩
        rw [body, run] at member
        rw [List.mem_singleton.mp member]
        rfl
      · rw [writesOnlyAsked_setter_iff_override body read raises, askedSettings_override_iff]
        constructor
        · rintro harmless _ ⟨⟩
          exact Or.inr harmless
        · intro fine
          exact (fine current rfl).resolve_left raises

/-- `set_ringparam` misreads nothing. -/
theorem misreadingHarmless_ringparam (before : SettingsMap) :
    MisreadingHarmless .ringparam args before := by
  intro earlier pair later field value _ read unasked _
  rcases readAs_eq_some_iff.mp read with ⟨entry, number⟩
  have spelled : (grammarOf field).reads pair.2 = some value := by
    rw [ringparam_number entry]
    exact number
  simp only [askedBy, entry, spelled] at unasked
  cases unasked

/-- The condition under which a command writes only what was asked for. -/
def Command.ReadsRightly (ethtool : Ethtool Kernel) (world : World Kernel) (interface : String)
    (args : List String) : Command -> Prop
  | .setOffload =>
      forall option token, args = [option, token] ->
        (offloadFeature (pyLower option)).isSome -> pyLower token = "on" ∨ pyLower token = "off"
  | .setCoalesce =>
      forall current,
        (ethtool.answer (.getSettings .coalesce interface) world.kernel).1 = .ok current ->
          ProcessingRaises .coalesce args ∨ MisreadingHarmless .coalesce args current.map
  | _ => True

/-- Only what was asked for is written precisely when the token for an
offload is `on` or `off` and misread coalescing tokens do not matter. -/
theorem writesOnlyAsked_iff (ethtool : Ethtool Kernel) (world : World Kernel)
    (command : Command) (interface : String) (args : List String) :
    WritesOnlyAsked ethtool world command interface args ↔
      command.ReadsRightly ethtool world interface args := by
  have permits : Permits (fun event => event.target = none) Call.Reads :=
    ⟨fun _ => rfl, fun _ reading => reading⟩
  have reads : forall call : Call, call.Reads -> call.Reads := fun _ reading => reading
  cases command with
  | setOffload => exact writesOnlyAsked_setOffload_iff
  | setCoalesce => exact writesOnlyAsked_setter_iff (fun _ _ => rfl)
  | setRingparam =>
      have body : forall interface args, Command.body ethtool .setRingparam interface args =
          setter ethtool .ringparam interface args := fun _ _ => rfl
      apply (writesOnlyAsked_setter_iff body).trans
      exact iff_of_true (fun current _ => Or.inr (misreadingHarmless_ringparam current.map)) trivial
  | showCoalesce =>
      refine iff_of_true (writesOnlyAsked_of_untargeted ?_) trivial
      exact fun _ => (emits_showCoalesce permits reads interface).allows
  | showDriver =>
      refine iff_of_true (writesOnlyAsked_of_untargeted ?_) trivial
      exact fun _ => (emits_showDriver permits reads interface).allows
  | showOffload =>
      refine iff_of_true (writesOnlyAsked_of_untargeted ?_) trivial
      exact fun _ => (emits_showOffload permits reads interface).allows
  | showRing =>
      refine iff_of_true (writesOnlyAsked_of_untargeted ?_) trivial
      exact fun _ => (emits_showRing permits reads interface).allows

end Commands

/-- `tso enable` switches the offload off, and `rx-usecs on` sets the delay
to one microsecond. -/
theorem writes_unasked :
    ¬ WritesOnlyAsked twoDevices (.start ()) .setOffload "eth0" ["tso", "enable"] ∧
      ¬ WritesOnlyAsked twoDevices (.start ()) .setCoalesce "eth0" ["rx-usecs", "on"] := by
  constructor
  · rw [writesOnlyAsked_setOffload_iff]
    intro legal
    have spelled := legal "tso" "enable" rfl (by decide)
    revert spelled
    decide
  · have body : forall interface args, Command.body twoDevices .setCoalesce interface args =
        setter twoDevices .coalesce interface args := fun _ _ => rfl
    rw [writesOnlyAsked_setter_iff body]
    intro fine
    rcases fine (.zero .coalesce) rfl with (odd | ⟨_, pair, member, feed⟩) | harmless
    · cases odd
    · rw [List.mem_singleton.mp member] at feed
      revert feed
      decide
    · have before : (CurrentSettings.zero .coalesce).map.get? "rx_coalesce_usecs" = some 0 :=
        get?_zeros (by decide)
      rcases harmless [] ("rx-usecs", "on") [] "rx_coalesce_usecs" 1 rfl (by decide) (by decide)
          (fun next member => by cases member) with kept | wanted
      · rw [before] at kept
        cases kept
      · cases wanted

end Pethtool
end PythonEthtool
