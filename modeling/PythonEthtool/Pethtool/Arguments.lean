import PythonEthtool.Pethtool.Commands

namespace PythonEthtool
namespace Pethtool

open Foundations
open Foundations.Program
open Ioctl (Settings)
open Python

/-!
# What the setters do with their arguments

The loop of `set_coalesce` and `set_ringparam` amounts to three things: the
words are paired up, each pair is turned into an assignment or skipped, and
the assignments are made from left to right.  The flag `changed` is set when
some assignment differs from the settings that were read, and the write is
made exactly then.  The settings in force afterwards are therefore those
read, overridden by the assignments, unless the processing raised.
-/

/-! ## Words in pairs -/

/-- The words two by two; a last single one is left out. -/
def wordPairs : List String -> List (String × String)
  | [] => []
  | [_] => []
  | arg :: value :: args => (arg, value) :: wordPairs args

theorem pairUp_even {words : List String} (even : words.length % 2 = 0) :
    pairUp words = .ok (wordPairs words) := by
  fun_induction pairUp words with
  | case1 => rfl
  | case2 word => cases even
  | case3 arg value args ih =>
      have rest : args.length % 2 = 0 := by
        simp only [List.length_cons] at even
        omega
      rw [ih rest]
      rfl

theorem pairUp_odd {words : List String} (odd : words.length % 2 = 1) :
    ∃ error, pairUp words = .error error := by
  fun_induction pairUp words with
  | case1 => cases odd
  | case2 word => exact ⟨_, rfl⟩
  | case3 arg value args ih =>
      have rest : args.length % 2 = 1 := by
        simp only [List.length_cons] at odd
        omega
      rcases ih rest with ⟨error, failed⟩
      exact ⟨error, by rw [failed]; rfl⟩

theorem wordPairs_map (change : String -> String) (words : List String) :
    wordPairs (words.map change) = (wordPairs words).map (Prod.map change change) := by
  fun_induction wordPairs words with
  | case1 => rfl
  | case2 word => rfl
  | case3 arg value args ih =>
      rw [List.map_cons, List.map_cons, wordPairs, ih]
      rfl

theorem processArgs_odd (recognise : Recognise) (map : SettingsMap) {args : List String}
    (odd : args.length % 2 = 1) :
    ∃ error, processArgs recognise map (some args) = .error error := by
  have words : (args.map pyLower).length % 2 = 1 := by
    rw [List.length_map]
    exact odd
  rcases pairUp_odd words with ⟨error, failed⟩
  refine ⟨error, ?_⟩
  change (pairUp (args.map pyLower) >>= fun pairs => applyPairs recognise map false pairs) = _
  rw [failed]
  rfl

/-! ## The loop -/

/-- The assignments that the pairs stand for. -/
def assignments (recognise : Recognise) :
    List (String × String) -> Except PyError (List (String × Int))
  | [] => .ok []
  | (arg, value) :: pairs =>
      match recognise arg value with
      | .error error => .error error
      | .ok none => assignments recognise pairs
      | .ok (some assignment) =>
          (assignments recognise pairs).map (fun rest => assignment :: rest)

/-- Some assignment differs from the settings. -/
def differs (map : SettingsMap) (list : List (String × Int)) : Bool :=
  list.any (fun assignment => map.get? assignment.1 ≠ some assignment.2)

theorem differs_eq_false_iff {map : SettingsMap} {list : List (String × Int)} :
    differs map list = false ↔
      forall assignment, assignment ∈ list -> map.get? assignment.1 = some assignment.2 := by
  simp [differs]

theorem differs_eq_true_iff {map : SettingsMap} {list : List (String × Int)} :
    differs map list = true ↔
      ∃ assignment, assignment ∈ list ∧ map.get? assignment.1 ≠ some assignment.2 := by
  simp [differs]

theorem differs_cons_of_eq {map : SettingsMap} {name : String} {number : Int}
    (present : map.get? name = some number) (list : List (String × Int)) :
    differs map ((name, number) :: list) = differs map list := by
  simp [differs, present]

theorem differs_cons_of_ne {map : SettingsMap} {name : String} {number : Int}
    (other : map.get? name ≠ some number) (list : List (String × Int)) :
    differs map ((name, number) :: list) = true := by
  simp [differs, other]

/-- Only keys of the structure are assigned to. -/
def Recognise.Within (recognise : Recognise) (settings : Settings) : Prop :=
  forall arg value assignment, recognise arg value = .ok (some assignment) ->
    assignment.1 ∈ settings.struct.fields

section Loop

variable {settings : Settings} {recognise : Recognise}

/-- An assignment takes no field away. -/
theorem complete_set {map : SettingsMap}
    (complete : forall name, name ∈ settings.struct.fields -> (map.get? name).isSome)
    (realArg : String) (number : Int) :
    forall name, name ∈ settings.struct.fields ->
      ((map.set realArg number).get? name).isSome := by
  intro name member
  rw [Dictionary.get?_set]
  split
  · rfl
  · exact complete name member

/-- The loop makes the assignments, and raises where a pair does. -/
theorem applyPairs_eq (within : recognise.Within settings) {map : SettingsMap}
    (complete : forall name, name ∈ settings.struct.fields -> (map.get? name).isSome)
    (changed : Bool) (pairs : List (String × String)) :
    applyPairs recognise map changed pairs =
      (assignments recognise pairs).map
        (fun list => (map.override list, changed || differs map list)) := by
  induction pairs generalizing map changed with
  | nil =>
      simp only [applyPairs, assignments, Except.map, differs, List.any_nil, Bool.or_false]
      rfl
  | cons pair pairs ih =>
      rcases pair with ⟨arg, value⟩
      simp only [applyPairs, assignments]
      cases recognised : recognise arg value with
      | error error => rfl
      | ok outcome =>
          cases outcome with
          | none => exact ih complete changed
          | some assignment =>
              rcases assignment with ⟨realArg, number⟩
              have field := within arg value _ recognised
              rcases Option.isSome_iff_exists.mp (complete realArg field) with ⟨current, present⟩
              simp only [getItem_eq_ok.mpr present]
              by_cases same : current = number
              · subst same
                rw [if_neg (not_not.mpr rfl), ih complete changed]
                cases assignments recognise pairs with
                | error error => rfl
                | ok list =>
                    simp only [Except.map]
                    rw [Dictionary.override_cons, Dictionary.set_of_get?_eq present,
                      differs_cons_of_eq present]
              · rw [if_pos same, ih (complete_set complete realArg number) true]
                have differing : map.get? realArg ≠ some number := by
                  rw [present]
                  exact fun equal => same (Option.some.inj equal)
                cases assignments recognise pairs with
                | error error => rfl
                | ok list =>
                    simp only [Except.map]
                    rw [Dictionary.override_cons, differs_cons_of_ne differing, Bool.true_or,
                      Bool.or_true]

theorem processArgs_eq (within : recognise.Within settings)
    (current : CurrentSettings settings) (args : List String) :
    processArgs recognise current.map (some args) =
      (pairUp (args.map pyLower) >>= assignments recognise).map
        (fun list => (current.map.override list, differs current.map list)) := by
  change (pairUp (args.map pyLower) >>=
    fun pairs => applyPairs recognise current.map false pairs) = _
  cases pairUp (args.map pyLower) with
  | error error => rfl
  | ok pairs =>
      change applyPairs recognise current.map false pairs = _
      rw [applyPairs_eq within current.complete]
      simp only [Bool.false_or]
      rfl

end Loop

/-! ## The settings in force -/

/-- The dictionary that a step writes to a device. -/
def Event.written (settings : Settings) (interface : String) : Event -> Option SettingsMap
  | .called (.setSettings kind target map) =>
      if kind = settings ∧ target = interface then some map else none
  | _ => none

/-- The settings after a run that started with these: the last dictionary
written, if there is one. -/
def settingsInForce (settings : Settings) (interface : String) (map : SettingsMap)
    (events : List Event) : SettingsMap :=
  ((events.filterMap (Event.written settings interface)).getLast?).getD map

section InForce

variable {Kernel : Type} {ethtool : Ethtool Kernel} {world : World Kernel} {settings : Settings}
  {recognise : Recognise} {interface : String} {current : CurrentSettings settings}

/-- After reading the settings, the setter makes a pass over the arguments
and writes if an assignment differed. -/
theorem setSettings_run (unsupported : String) (args : Option (List String))
    (known : (ethtool.answer (.getSettings settings interface) world.kernel).1 = .ok current) :
    (setSettings ethtool settings unsupported recognise interface args).run world =
      match processArgs recognise current.map args with
      | .error error =>
          { result := .error error
            world := world.afterCall ethtool (.getSettings settings interface)
            events := [.called (.getSettings settings interface)] }
      | .ok (final, true) =>
          { result := (ethtool.answer (.setSettings settings interface final)
              (world.afterCall ethtool (.getSettings settings interface)).kernel).1
            world := (world.afterCall ethtool (.getSettings settings interface)).afterCall ethtool
              (.setSettings settings interface final)
            events := [.called (.getSettings settings interface),
              .called (.setSettings settings interface final)] }
      | .ok (_, false) =>
          { result := .ok ()
            world := world.afterCall ethtool (.getSettings settings interface)
            events := [.called (.getSettings settings interface)] } := by
  rw [setSettings, run_tryElse_ok _ _ _ known]
  cases processed : processArgs recognise current.map args with
  | error error => rfl
  | ok outcome =>
      rcases outcome with ⟨final, changed⟩
      cases changed with
      | true => rfl
      | false => rfl

/-- The settings in force are those read, overridden by the assignments. -/
theorem settingsInForce_setSettings (within : recognise.Within settings) (unsupported : String)
    (args : List String)
    (known : (ethtool.answer (.getSettings settings interface) world.kernel).1 = .ok current) :
    settingsInForce settings interface current.map
        ((setSettings ethtool settings unsupported recognise interface (some args)).run
          world).events =
      match pairUp (args.map pyLower) >>= assignments recognise with
      | .error _ => current.map
      | .ok list => current.map.override list := by
  rw [setSettings_run unsupported (some args) known, processArgs_eq within]
  cases pairUp (args.map pyLower) >>= assignments recognise with
  | error error => rfl
  | ok list =>
      simp only [Except.map]
      cases differing : differs current.map list with
      | true => simp [settingsInForce, Event.written]
      | false =>
          rw [Dictionary.override_eq_self (differs_eq_false_iff.mp differing)]
          rfl

end InForce

/-! ## The two setters -/

def recogniserOf : Settings -> Recognise
  | .coalesce => recogniseCoalesce
  | .ringparam => recogniseRingparam

/-- The setter of each kind of settings. -/
def setter {Kernel : Type} (ethtool : Ethtool Kernel) (settings : Settings) (interface : String)
    (args : Option (List String)) : Script Kernel Unit :=
  match settings with
  | .coalesce => setCoalesce ethtool interface args
  | .ringparam => setRingparam ethtool interface args

theorem setter_eq_setSettings {Kernel : Type} (ethtool : Ethtool Kernel) (settings : Settings) :
    ∃ unsupported, setter ethtool settings =
      setSettings ethtool settings unsupported (recogniserOf settings) := by
  cases settings with
  | coalesce => exact ⟨"Interrupt coalescing NOT supported on ", rfl⟩
  | ringparam => exact ⟨"ring parameters NOT supported on ", rfl⟩

theorem findEntry_some {ethtoolName entry : String} {rows : List MsgRow}
    (found : findEntry ethtoolName rows = .ok (some entry)) :
    ∃ row, row ∈ rows ∧ row.item 0 = .ok ethtoolName ∧ row.item 1 = .ok entry := by
  induction rows with
  | nil => cases found
  | cons row rows ih =>
      rw [findEntry] at found
      cases head : row.item 0 with
      | error error =>
          rw [head] at found
          cases found
      | ok first =>
          simp only [head] at found
          by_cases same : first = ethtoolName
          · rw [if_pos same] at found
            refine ⟨row, List.mem_cons_self, same ▸ head, ?_⟩
            cases second : row.item 1 with
            | error error =>
                rw [second] at found
                cases found
            | ok value =>
                rw [second] at found
                cases found
                rfl
          · rw [if_neg same] at found
            rcases ih found with ⟨later, member, items⟩
            exact ⟨later, List.mem_cons_of_mem row member, items⟩

/-- Every entry of the table is a field. -/
theorem getCoalesceDictEntry_field {ethtoolName entry : String}
    (found : getCoalesceDictEntry ethtoolName = .ok (some entry)) :
    entry ∈ Settings.coalesce.struct.fields := by
  have table : ethtoolCoalesceMsgs.all (fun row =>
      (row.item 1).toOption.all (fun entry => entry ∈ Settings.coalesce.struct.fields)) := by
    decide
  rw [getCoalesceDictEntry] at found
  by_cases rx : ethtoolName = "adaptive-rx"
  · rw [if_pos rx] at found
    cases found
    decide
  · rw [if_neg rx] at found
    by_cases tx : ethtoolName = "adaptive-tx"
    · rw [if_pos tx] at found
      cases found
      decide
    · rw [if_neg tx] at found
      rcases findEntry_some found with ⟨row, member, _, second⟩
      have listed := List.all_eq_true.mp table row member
      rw [second] at listed
      exact of_decide_eq_true listed

/-- The field of an option. -/
def entryOf : Settings -> String -> Except PyError (Option String)
  | .coalesce, arg => getCoalesceDictEntry arg
  | .ringparam, arg => .ok (ethtoolRingparamMap.lookup arg)

/-- The value of a token, the same for every option. -/
def valueOf : Settings -> String -> Option Int
  | .coalesce, value =>
      if value = "on" then some 1 else if value = "off" then some 0 else pyInt value
  | .ringparam, value => pyInt value

/-- Options and tokens are read independently of each other. -/
theorem recogniserOf_eq (settings : Settings) (arg value : String) :
    recogniserOf settings arg value =
      (entryOf settings arg).map (fun entry => entry.bind (fun field =>
        (valueOf settings value).map (fun number => (field, number)))) := by
  cases settings with
  | coalesce =>
      simp only [recogniserOf, recogniseCoalesce, entryOf, valueOf]
      cases getCoalesceDictEntry arg with
      | error error => rfl
      | ok entry =>
          cases entry with
          | none => rfl
          | some field =>
              simp only [Except.map, Option.bind_some]
              split
              · rfl
              · split <;> rfl
  | ringparam =>
      simp only [recogniserOf, recogniseRingparam, entryOf, valueOf]
      cases ethtoolRingparamMap.lookup arg <;> rfl

theorem recogniserOf_ok_some_iff {settings : Settings} {arg value field : String} {number : Int} :
    recogniserOf settings arg value = .ok (some (field, number)) ↔
      entryOf settings arg = .ok (some field) ∧ valueOf settings value = some number := by
  rw [recogniserOf_eq]
  cases entryOf settings arg with
  | error error => simp [Except.map]
  | ok entry =>
      cases entry with
      | none => simp [Except.map]
      | some found =>
          cases valueOf settings value with
          | none => simp [Except.map]
          | some read => simp [Except.map]

/-- The value that a token spells, in either case of its letters. -/
def Grammar.reads : Grammar -> String -> Option Int
  | .onOff, token =>
      if pyLower token = "on" then some 1 else if pyLower token = "off" then some 0 else none
  | .number, token => pyInt (pyLower token)

/-- What a grammar admits, the script reads alike: `set_coalesce` takes
tokens of both grammars for every option, `set_ringparam` numbers only. -/
theorem valueOf_of_reads {settings : Settings} {grammar : Grammar} {token : String} {value : Int}
    (fits : settings = .coalesce ∨ grammar = .number)
    (spelled : grammar.reads token = some value) :
    valueOf settings (pyLower token) = some value := by
  cases settings with
  | ringparam =>
      rw [fits.resolve_left (by decide), Grammar.reads] at spelled
      exact spelled
  | coalesce =>
      rw [valueOf]
      cases grammar with
      | onOff =>
          rw [Grammar.reads] at spelled
          by_cases on : pyLower token = "on"
          · rw [if_pos on] at spelled ⊢
            exact spelled
          · rw [if_neg on] at spelled ⊢
            by_cases off : pyLower token = "off"
            · rw [if_pos off] at spelled ⊢
              exact spelled
            · rw [if_neg off] at spelled
              cases spelled
      | number =>
          rw [Grammar.reads] at spelled
          have onNumber : pyInt "on" = none := by decide
          have offNumber : pyInt "off" = none := by decide
          have notOn : pyLower token ≠ "on" := by
            intro on
            rw [on, onNumber] at spelled
            cases spelled
          have notOff : pyLower token ≠ "off" := by
            intro off
            rw [off, offNumber] at spelled
            cases spelled
          rw [if_neg notOn, if_neg notOff]
          exact spelled

theorem entryOf_ringparam_mem {arg field : String}
    (found : entryOf .ringparam arg = .ok (some field)) : (arg, field) ∈ ethtoolRingparamMap := by
  rcases List.lookup_eq_some_iff.mp (Except.ok.inj found) with ⟨before, after, split, _⟩
  rw [split]
  exact List.mem_append_right before List.mem_cons_self

theorem entryOf_field {settings : Settings} {arg field : String}
    (found : entryOf settings arg = .ok (some field)) : field ∈ settings.struct.fields := by
  cases settings with
  | coalesce => exact getCoalesceDictEntry_field found
  | ringparam =>
      have table : forall entry, entry ∈ ethtoolRingparamMap ->
          entry.2 ∈ Settings.ringparam.struct.fields := by
        decide
      exact table (arg, field) (entryOf_ringparam_mem found)

theorem recogniserOf_within (settings : Settings) : (recogniserOf settings).Within settings := by
  rintro arg value ⟨field, number⟩ recognised
  exact entryOf_field (recogniserOf_ok_some_iff.mp recognised).1

/-! ## Whole argument lists -/

theorem findEntry_error {ethtoolName : String} {rows : List MsgRow} {error : PyError}
    (failed : findEntry ethtoolName rows = .error error) :
    ∃ row, row ∈ rows ∧
      (row.item 0 = .error error ∨ row.item 0 = .ok ethtoolName ∧ row.item 1 = .error error) := by
  induction rows with
  | nil => cases failed
  | cons row rows ih =>
      rw [findEntry] at failed
      cases head : row.item 0 with
      | error first =>
          rw [head] at failed
          cases failed
          exact ⟨row, List.mem_cons_self, Or.inl head⟩
      | ok first =>
          simp only [head] at failed
          by_cases same : first = ethtoolName
          · rw [if_pos same] at failed
            refine ⟨row, List.mem_cons_self, Or.inr ⟨same ▸ head, ?_⟩⟩
            cases second : row.item 1 with
            | error second' =>
                rw [second] at failed
                cases failed
                rfl
            | ok value =>
                rw [second] at failed
                cases failed
          · rw [if_neg same] at failed
            rcases ih failed with ⟨later, member, items⟩
            exact ⟨later, List.mem_cons_of_mem row member, items⟩

/-- The separators of the table are found under the name of a line feed,
and have no second item. -/
theorem entryOf_error_iff {settings : Settings} {arg : String} :
    (∃ error, entryOf settings arg = .error error) ↔ settings = .coalesce ∧ arg = "\n" := by
  constructor
  · rintro ⟨error, failed⟩
    cases settings with
    | ringparam => cases failed
    | coalesce =>
        have table : ethtoolCoalesceMsgs.all (fun row =>
            (row.item 0).isOk && ((row.item 1).isOk || row.item 0 = .ok "\n")) := by
          decide
        refine ⟨rfl, ?_⟩
        rw [entryOf, getCoalesceDictEntry] at failed
        by_cases rx : arg = "adaptive-rx"
        · rw [if_pos rx] at failed
          cases failed
        · rw [if_neg rx] at failed
          by_cases tx : arg = "adaptive-tx"
          · rw [if_pos tx] at failed
            cases failed
          · rw [if_neg tx] at failed
            rcases findEntry_error failed with ⟨row, member, items⟩
            have shape := List.all_eq_true.mp table row member
            rcases items with first | ⟨first, second⟩
            · rw [first] at shape
              cases shape
            · rw [first, second] at shape
              simpa [Except.isOk, Except.toBool] using shape
  · rintro ⟨rfl, rfl⟩
    exact ⟨⟨.indexError, .text "string index out of range"⟩, by decide⟩

/-- The processing of these arguments raises: a word is left over, or the
option of a pair is a line feed. -/
def ProcessingRaises (settings : Settings) (args : List String) : Prop :=
  args.length % 2 = 1 ∨
    (settings = .coalesce ∧ ∃ pair, pair ∈ wordPairs args ∧ pyLower pair.1 = "\n")

/-- The assignment that the script makes of two words. -/
def readAs (settings : Settings) (pair : String × String) : Option (String × Int) :=
  match entryOf settings (pyLower pair.1) with
  | .ok (some field) =>
      (valueOf settings (pyLower pair.2)).map (fun number => (field, number))
  | _ => none

theorem readAs_eq_some_iff {settings : Settings} {pair : String × String} {field : String}
    {number : Int} :
    readAs settings pair = some (field, number) ↔
      entryOf settings (pyLower pair.1) = .ok (some field) ∧
        valueOf settings (pyLower pair.2) = some number := by
  rw [readAs]
  cases entryOf settings (pyLower pair.1) with
  | error error => simp
  | ok entry =>
      cases entry with
      | none => simp
      | some found =>
          simp only [Option.map_eq_some_iff, Prod.mk.injEq, exists_eq_right_right, Except.ok.injEq,
            Option.some.injEq]
          exact and_comm

theorem assignments_error {settings : Settings} {pairs : List (String × String)}
    {pair : String × String} (member : pair ∈ pairs) {error : PyError}
    (failed : entryOf settings pair.1 = .error error) :
    ∃ error, assignments (recogniserOf settings) pairs = .error error := by
  induction pairs with
  | nil => cases member
  | cons first pairs ih =>
      rw [assignments, recogniserOf_eq]
      cases entry : entryOf settings first.1 with
      | error other => exact ⟨other, rfl⟩
      | ok found =>
          have later : pair ∈ pairs := by
            rcases List.mem_cons.mp member with rfl | later
            · rw [failed] at entry
              cases entry
            · exact later
          rcases ih later with ⟨other, rest⟩
          cases assigned : found.bind (fun field =>
              (valueOf settings first.2).map (fun number => (field, number))) with
          | none =>
              simp only [Except.map, assigned]
              exact ⟨other, rest⟩
          | some assignment =>
              simp only [Except.map, assigned, rest]
              exact ⟨other, rfl⟩

theorem assignments_ok {settings : Settings} {pairs : List (String × String)}
    (fine : forall pair, pair ∈ pairs ->
      ¬ ∃ error, entryOf settings (pyLower pair.1) = .error error) :
    assignments (recogniserOf settings) (pairs.map (Prod.map pyLower pyLower)) =
      .ok (pairs.filterMap (readAs settings)) := by
  induction pairs with
  | nil => rfl
  | cons pair pairs ih =>
      have rest := ih (fun later member => fine later (List.mem_cons_of_mem pair member))
      rw [List.map_cons, List.filterMap_cons]
      simp only [Prod.map, assignments, recogniserOf_eq, readAs]
      cases entry : entryOf settings (pyLower pair.1) with
      | error error => exact absurd ⟨error, entry⟩ (fine pair List.mem_cons_self)
      | ok found =>
          cases found with
          | none => exact rest
          | some field =>
              cases valueOf settings (pyLower pair.2) with
              | none => exact rest
              | some number =>
                  simp only [Except.map, Option.bind_some, Option.map_some]
                  rw [rest]

/-- The assignments that the script makes of its words. -/
def accepted (settings : Settings) (args : List String) : List (String × Int) :=
  (wordPairs args).filterMap (readAs settings)

section Whole

variable {settings : Settings} {args : List String}

theorem not_odd_iff : ¬ args.length % 2 = 1 ↔ (args.map pyLower).length % 2 = 0 := by
  rw [List.length_map]
  omega

/-- Processing raises on these argument lists, -/
theorem assigned_of_raises (raises : ProcessingRaises settings args) :
    ∃ error, (pairUp (args.map pyLower) >>= assignments (recogniserOf settings)) =
      .error error := by
  by_cases odd : args.length % 2 = 1
  · have words : (args.map pyLower).length % 2 = 1 := by
      rw [List.length_map]
      exact odd
    rcases pairUp_odd words with ⟨error, failed⟩
    rw [failed]
    exact ⟨error, rfl⟩
  · rcases raises.resolve_left odd with ⟨coalesce, pair, member, feed⟩
    rcases entryOf_error_iff.mpr ⟨coalesce, feed⟩ with ⟨error, failed⟩
    rw [pairUp_even (not_odd_iff.mp odd), wordPairs_map]
    exact assignments_error (List.mem_map_of_mem member) failed

/-- and makes the assignments of the pairs on all others. -/
theorem assigned_of_not_raises (fine : ¬ ProcessingRaises settings args) :
    (pairUp (args.map pyLower) >>= assignments (recogniserOf settings)) =
      .ok (accepted settings args) := by
  have even := not_odd_iff.mp (fun odd => fine (Or.inl odd))
  rw [pairUp_even even, wordPairs_map]
  apply assignments_ok
  intro pair member failed
  rcases entryOf_error_iff.mp failed with ⟨coalesce, feed⟩
  exact fine (Or.inr ⟨coalesce, pair, member, feed⟩)

variable {Kernel : Type} {ethtool : Ethtool Kernel} {world : World Kernel} {interface : String}
  {current : CurrentSettings settings}

theorem setter_run_of_raises (raises : ProcessingRaises settings args)
    (known : (ethtool.answer (.getSettings settings interface) world.kernel).1 = .ok current) :
    ∃ error, (setter ethtool settings interface (some args)).run world =
      { result := .error error
        world := world.afterCall ethtool (.getSettings settings interface)
        events := [.called (.getSettings settings interface)] } := by
  rcases setter_eq_setSettings ethtool settings with ⟨unsupported, body⟩
  rcases assigned_of_raises raises with ⟨error, failed⟩
  rw [body, setSettings_run unsupported (some args) known,
    processArgs_eq (recogniserOf_within settings), failed]
  exact ⟨error, rfl⟩

/-- Without an exception the settings are written once if some assignment
differs from them, -/
theorem setter_run_of_differs (fine : ¬ ProcessingRaises settings args)
    (known : (ethtool.answer (.getSettings settings interface) world.kernel).1 = .ok current)
    (differing : differs current.map (accepted settings args) = true) :
    (setter ethtool settings interface (some args)).run world =
      { result := (ethtool.answer (.setSettings settings interface
            (current.map.override (accepted settings args)))
          (world.afterCall ethtool (.getSettings settings interface)).kernel).1
        world := (world.afterCall ethtool (.getSettings settings interface)).afterCall ethtool
          (.setSettings settings interface (current.map.override (accepted settings args)))
        events := [.called (.getSettings settings interface),
          .called (.setSettings settings interface
            (current.map.override (accepted settings args)))] } := by
  rcases setter_eq_setSettings ethtool settings with ⟨unsupported, body⟩
  rw [body, setSettings_run unsupported (some args) known,
    processArgs_eq (recogniserOf_within settings), assigned_of_not_raises fine]
  simp only [Except.map, differing]

/-- and not otherwise. -/
theorem setter_run_of_repeats (fine : ¬ ProcessingRaises settings args)
    (known : (ethtool.answer (.getSettings settings interface) world.kernel).1 = .ok current)
    (repeats : differs current.map (accepted settings args) = false) :
    (setter ethtool settings interface (some args)).run world =
      { result := .ok ()
        world := world.afterCall ethtool (.getSettings settings interface)
        events := [.called (.getSettings settings interface)] } := by
  rcases setter_eq_setSettings ethtool settings with ⟨unsupported, body⟩
  rw [body, setSettings_run unsupported (some args) known,
    processArgs_eq (recogniserOf_within settings), assigned_of_not_raises fine]
  simp only [Except.map, repeats]

end Whole

end Pethtool
end PythonEthtool
