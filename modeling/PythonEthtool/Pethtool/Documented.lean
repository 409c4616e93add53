import PythonEthtool.Pethtool.Arguments

namespace PythonEthtool
namespace Pethtool

open Foundations
open Foundations.Program
open Ioctl (Settings)
open Python

/-!
# The documented settings

The usage text gives each option a name and a grammar.  A list of documented
options with legal values should leave every named field with the last value
given for it and every other field alone.

The display table, in which `set_coalesce` looks the names up, calls four of
the fields `rx-frame-low`, `tx-frame-low`, `rx-frame-high` and
`tx-frame-high`, where usage text and man page have `rx-frames-low` and so
on.  A name that is not found is skipped, so the four documented options have
no effect.  All others take effect.
-/

def usageOf : Settings -> List UsageOption
  | .coalesce => coalesceUsage
  | .ringparam => ringparamUsage

/-- A documented option with a legal value for it. -/
structure DocumentedPair (settings : Settings) where
  option : UsageOption
  listed : option ∈ usageOf settings
  token : String
  value : Int
  spelled : option.grammar.reads token = some value
  lower : 0 ≤ value
  upper : value < 2 ^ 32

section Documented

variable {settings : Settings}

/-- The words on the command line. -/
def commandLine (pairs : List (DocumentedPair settings)) : List String :=
  pairs.flatMap (fun pair => [pair.option.name, pair.token])

/-- The field and the value that each pair asks for. -/
def given (pairs : List (DocumentedPair settings)) : List (String × Int) :=
  pairs.map (fun pair => (pair.option.field, pair.value))

/-- The documented names that are in no row of the table. -/
def misnamed : List String :=
  ["rx-frames-low", "tx-frames-low", "rx-frames-high", "tx-frames-high"]

/-! ## Three tables -/

theorem usage_lower {option : UsageOption} (listed : option ∈ usageOf settings) :
    pyLower option.name = option.name := by
  have table : forall settings, forall option, option ∈ usageOf settings ->
      pyLower option.name = option.name := by
    rintro (_ | _)
    all_goals decide +kernel
  exact table settings option listed

/-- The lookup finds the field of every documented option but the four. -/
theorem usage_entry {option : UsageOption} (listed : option ∈ usageOf settings) :
    entryOf settings option.name =
      .ok (if option.name ∈ misnamed then none else some option.field) := by
  have table : forall settings, forall option, option ∈ usageOf settings ->
      entryOf settings option.name =
        .ok (if option.name ∈ misnamed then none else some option.field) := by
    rintro (_ | _)
    all_goals decide +kernel
  exact table settings option listed

theorem usage_field_injective {option other : UsageOption} (listed : option ∈ usageOf settings)
    (otherListed : other ∈ usageOf settings) (same : option.field = other.field) :
    option = other := by
  have nodup : ((usageOf settings).map UsageOption.field).Nodup := by
    cases settings
    all_goals decide +kernel
  exact List.inj_on_of_nodup_map nodup listed otherListed same

theorem ringparamUsage_number {option : UsageOption} (listed : option ∈ ringparamUsage) :
    option.grammar = .number := by
  have table : forall option, option ∈ ringparamUsage -> option.grammar = .number := by
    decide
  exact table option listed

/-! ## Reading the words -/

/-- A legal token is read as the value it spells. -/
theorem valueOf_spelled (pair : DocumentedPair settings) :
    valueOf settings (pyLower pair.token) = some pair.value := by
  apply valueOf_of_reads _ pair.spelled
  cases settings with
  | coalesce => exact Or.inl rfl
  | ringparam => exact Or.inr (ringparamUsage_number pair.listed)

theorem pairUp_commandLine (pairs : List (DocumentedPair settings)) :
    pairUp ((commandLine pairs).map pyLower) =
      .ok (pairs.map (fun pair => (pair.option.name, pyLower pair.token))) := by
  induction pairs with
  | nil => rfl
  | cons pair pairs ih =>
      change (pairUp ((commandLine pairs).map pyLower)).map
        (fun rest => (pyLower pair.option.name, pyLower pair.token) :: rest) = _
      rw [ih, usage_lower pair.listed]
      rfl

/-- The pairs that the script acts on. -/
def effective (pairs : List (DocumentedPair settings)) : List (DocumentedPair settings) :=
  pairs.filter (fun pair => pair.option.name ∉ misnamed)

theorem assignments_commandLine (pairs : List (DocumentedPair settings)) :
    (pairUp ((commandLine pairs).map pyLower) >>= assignments (recogniserOf settings)) =
      .ok (given (effective pairs)) := by
  rw [pairUp_commandLine]
  change assignments (recogniserOf settings) _ = _
  induction pairs with
  | nil => rfl
  | cons pair pairs ih =>
      have entry := usage_entry pair.listed
      rw [List.map_cons, assignments, recogniserOf_eq, entry, valueOf_spelled pair]
      by_cases unknown : pair.option.name ∈ misnamed
      · rw [if_pos unknown]
        change assignments (recogniserOf settings) _ = _
        rw [ih, effective, effective, List.filter_cons_of_neg (by simpa using unknown)]
      · rw [if_neg unknown]
        change (assignments (recogniserOf settings) _).map _ = _
        rw [ih, effective, effective, List.filter_cons_of_pos (by simpa using unknown)]
        rfl

/-! ## The settings afterwards -/

/-- Every named field has the last value given for it, and every other field
the value it had. -/
def TakesEffect {Kernel : Type} (ethtool : Ethtool Kernel) (world : World Kernel)
    (interface : String) (pairs : List (DocumentedPair settings))
    (current : CurrentSettings settings) : Prop :=
  forall field,
    (settingsInForce settings interface current.map
        ((setter ethtool settings interface (some (commandLine pairs))).run world).events).get?
          field =
      (lastValue field (given pairs)).or (current.map.get? field)

section Effect

variable {Kernel : Type} {ethtool : Ethtool Kernel} {world : World Kernel} {interface : String}
  {current : CurrentSettings settings} (pairs : List (DocumentedPair settings))

theorem settingsInForce_commandLine
    (known : (ethtool.answer (.getSettings settings interface) world.kernel).1 = .ok current) :
    settingsInForce settings interface current.map
        ((setter ethtool settings interface (some (commandLine pairs))).run world).events =
      current.map.override (given (effective pairs)) := by
  rcases setter_eq_setSettings ethtool settings with ⟨unsupported, body⟩
  rw [body, settingsInForce_setSettings (recogniserOf_within settings) unsupported _ known,
    assignments_commandLine]

/-- A documented option that is not found leaves its field to no other. -/
theorem lastValue_misnamed {pair : DocumentedPair settings}
    (unknown : pair.option.name ∈ misnamed) :
    lastValue pair.option.field (given (effective pairs)) = none := by
  apply lastValue_eq_none_iff.mpr
  intro assignment member same
  rcases List.mem_map.mp member with ⟨other, found, rfl⟩
  have kept := (List.mem_filter.mp found).2
  rw [usage_field_injective pair.listed other.listed same] at unknown
  exact absurd unknown (by simpa using kept)

/-- A field that no misnamed option is about is left to the others. -/
theorem lastValue_effective {field : String}
    (others : forall pair, pair ∈ pairs -> pair.option.name ∈ misnamed ->
      field ≠ pair.option.field) :
    lastValue field (given (effective pairs)) = lastValue field (given pairs) := by
  induction pairs with
  | nil => rfl
  | cons pair pairs ih =>
      have rest := ih (fun later member => others later (List.mem_cons_of_mem pair member))
      by_cases unknown : pair.option.name ∈ misnamed
      · have different := others pair List.mem_cons_self unknown
        rw [effective, List.filter_cons_of_neg (by simpa using unknown)]
        change lastValue field (given (effective pairs)) = lastValue field (_ :: given pairs)
        rw [rest, lastValue_cons, if_neg different, Option.or_none]
      · rw [effective, List.filter_cons_of_pos (by simpa using unknown)]
        change lastValue field (_ :: given (effective pairs)) = lastValue field (_ :: given pairs)
        rw [lastValue_cons, lastValue_cons, rest]

/-- Documented settings take effect precisely when each of the four options
that the table has under another name is absent, or is last given the value
that its field has already. -/
theorem takesEffect_iff (ethtool : Ethtool Kernel) (world : World Kernel) (interface : String)
    (pairs : List (DocumentedPair settings)) (current : CurrentSettings settings)
    (known : (ethtool.answer (.getSettings settings interface) world.kernel).1 = .ok current) :
    TakesEffect ethtool world interface pairs current ↔
      forall pair, pair ∈ pairs -> pair.option.name ∈ misnamed ->
        lastValue pair.option.field (given pairs) = current.map.get? pair.option.field := by
  rw [TakesEffect, settingsInForce_commandLine pairs known]
  constructor
  · intro takes pair member unknown
    have effect := takes pair.option.field
    rw [Dictionary.get?_override, lastValue_misnamed pairs unknown, Option.none_or] at effect
    have mentioned : lastValue pair.option.field (given pairs) ≠ none := by
      intro absent
      apply lastValue_eq_none_iff.mp absent _ (List.mem_map_of_mem member)
      rfl
    rcases Option.ne_none_iff_exists'.mp mentioned with ⟨value, last⟩
    rw [last, Option.some_or] at effect
    rw [last, effect]
  · intro repeats field
    rw [Dictionary.get?_override]
    by_cases named : ∃ pair, pair ∈ pairs ∧ pair.option.name ∈ misnamed ∧
        field = pair.option.field
    · rcases named with ⟨pair, member, unknown, rfl⟩
      rw [lastValue_misnamed pairs unknown, repeats pair member unknown, Option.none_or,
        Option.or_self]
    · rw [lastValue_effective pairs]
      intro pair member unknown same
      exact named ⟨pair, member, unknown, same⟩

end Effect

end Documented

/-- The words `rx-usecs 8`. -/
def rxUsecs8 : DocumentedPair .coalesce where
  option := ⟨"rx-usecs", .number, "rx_coalesce_usecs"⟩
  listed := by decide
  token := "8"
  value := 8
  spelled := by decide
  lower := by decide
  upper := by decide

/-- The words `rx-frames-low 8`. -/
def rxFramesLow8 : DocumentedPair .coalesce where
  option := ⟨"rx-frames-low", .number, "rx_max_coalesced_frames_low"⟩
  listed := by decide
  token := "8"
  value := 8
  spelled := by decide
  lower := by decide
  upper := by decide

/-- The words `rx-usecs 3`. -/
def rxUsecs3 : DocumentedPair .coalesce where
  option := ⟨"rx-usecs", .number, "rx_coalesce_usecs"⟩
  listed := by decide
  token := "3"
  value := 3
  spelled := by decide
  lower := by decide
  upper := by decide

/-- The words `rx-frames-low 0`. -/
def rxFramesLow0 : DocumentedPair .coalesce where
  option := ⟨"rx-frames-low", .number, "rx_max_coalesced_frames_low"⟩
  listed := by decide
  token := "0"
  value := 0
  spelled := by decide
  lower := by decide
  upper := by decide

/-- The last value of each option counts, and the one that is dropped is the
value that the field has already. -/
theorem takesEffect_repeated :
    TakesEffect twoDevices (.start ()) "eth0" [rxUsecs8, rxFramesLow8, rxUsecs3, rxFramesLow0]
      (.zero .coalesce) := by
  apply (takesEffect_iff twoDevices (.start ()) "eth0"
    [rxUsecs8, rxFramesLow8, rxUsecs3, rxFramesLow0] (.zero .coalesce) rfl).mpr
  have before : (CurrentSettings.zero .coalesce).map.get? "rx_max_coalesced_frames_low" = some 0 :=
    get?_zeros (by decide)
  have last : lastValue "rx_max_coalesced_frames_low"
      (given [rxUsecs8, rxFramesLow8, rxUsecs3, rxFramesLow0]) = some 0 := by decide
  intro pair member unknown
  simp only [List.mem_cons, List.not_mem_nil, or_false] at member
  rcases member with rfl | rfl | rfl | rfl
  · exact absurd unknown (by decide)
  · exact last.trans before.symm
  · exact absurd unknown (by decide)
  · exact last.trans before.symm

/-- The value 8 for the documented option is dropped. -/
theorem no_effect_rx_frames_low :
    ¬ TakesEffect twoDevices (.start ()) "eth0" [rxFramesLow8] (.zero .coalesce) := by
  intro takes
  have effect := takes "rx_max_coalesced_frames_low"
  have known : (twoDevices.answer (.getSettings .coalesce "eth0")
      (World.start ()).kernel).1 = .ok (.zero .coalesce) := rfl
  rw [settingsInForce_commandLine [rxFramesLow8] known] at effect
  have before : (CurrentSettings.zero .coalesce).map.get? "rx_max_coalesced_frames_low" = some 0 :=
    get?_zeros (by decide)
  have dropped : given (effective [rxFramesLow8]) = [] := by decide
  have asked : lastValue "rx_max_coalesced_frames_low" (given [rxFramesLow8]) = some 8 := by decide
  rw [dropped, asked] at effect
  change (CurrentSettings.zero .coalesce).map.get? "rx_max_coalesced_frames_low" = _ at effect
  rw [before] at effect
  cases effect

end Pethtool
end PythonEthtool
