import PythonEthtool.Pethtool.Sessions
import PythonEthtool.Python.IntText

namespace PythonEthtool
namespace Pethtool

open Foundations
open Foundations.Program
open Ioctl
open Python

/-!
# Listings that are entered again

`-c` and `-g` list the settings of a device, `-C` and `-G` take options with
their values.  The listings are meant for readers, but each of their rows
names an option and its value.  Here the rows are read back, word by word,
and entered for another device, which then has the settings of the first.

Two kinds of settings do not come along.  The listing shows whether the
coalescing is adaptive, so of these words only whether they are zero is
copied.  And the maximum sizes of the rings are listed under the names of the
sizes, but no option sets them: they are entered first, and the sizes after
them overwrite them.
-/

/-! ## What a listing says -/

/-- A row that shows a setting: what stands before the value, and the
field. -/
def MsgRow.setting : MsgRow -> List (String × String)
  | .pair name entry => [(name ++ ":", entry)]
  | .text _ => []

def RingRow.setting : RingRow -> List (String × String)
  | .heading _ => []
  | .value title entry => [(title, entry)]

def settingRows : Settings -> List (String × String)
  | .coalesce => ethtoolCoalesceMsgs.flatMap MsgRow.setting
  | .ringparam => ethtoolRingparamMsgs.flatMap RingRow.setting

/-- The value of a field that is there. -/
def shown (map : SettingsMap) (name : String) : Int :=
  (map.get? name).getD 0

def MsgRow.lines (map : SettingsMap) : MsgRow -> List String
  | .pair name entry => [name ++ ": " ++ toString (shown map entry)]
  | .text _ => []

def RingRow.lines (map : SettingsMap) : RingRow -> List String
  | .heading title => [title ++ ":"]
  | .value title entry => [title ++ " " ++ toString (shown map entry)]

def adaptiveLine (map : SettingsMap) : String :=
  "Adaptive RX: " ++ onOrOff (shown map "use_adaptive_rx_coalesce") ++ "  TX: " ++
    onOrOff (shown map "use_adaptive_tx_coalesce")

def heading : Settings -> String -> String
  | .coalesce, interface => "Coalesce parameters for " ++ interface ++ ":"
  | .ringparam, interface => "Ring parameters for " ++ interface ++ ":"

/-- The lines below the heading. -/
def listing : Settings -> SettingsMap -> List String
  | .coalesce, map => adaptiveLine map :: ethtoolCoalesceMsgs.flatMap (MsgRow.lines map)
  | .ringparam, map => ethtoolRingparamMsgs.flatMap (RingRow.lines map)

/-! ## Reading it back -/

/-- The words of a label as an option: without colons, and with hyphens
between them. -/
def optionOfLabel (words : List String) : String :=
  String.intercalate "-" (words.map (fun word => String.ofList (word.toList.filter (· ≠ ':'))))

def endsWithColon (words : List String) : Bool :=
  (words.getLast?.bind (fun word => word.toList.getLast?)) = some ':'

/-- The options and values of a line. -/
def optionsOfLine (line : String) : List String :=
  let words := pySplit line
  if words.head? = some "Adaptive" then
    ["adaptive-rx", words.getD 2 "", "adaptive-tx", words.getD 4 ""]
  else if endsWithColon words.dropLast then
    optionOfLabel words.dropLast :: words.getLast?.toList
  else []

/-- The options and values of a listing, whose first line is a heading. -/
def optionsOfListing (lines : List String) : List String :=
  lines.tail.flatMap optionsOfLine

/-- The fields that the listing does not show exactly. -/
def adaptiveFields : List String :=
  ["use_adaptive_rx_coalesce", "use_adaptive_tx_coalesce"]

/-- The fields that no option sets. -/
def maximumFields : List String :=
  ["rx_max_pending", "rx_mini_max_pending", "rx_jumbo_max_pending", "tx_max_pending"]

/-- The field that the option of a row sets: that of the row, or the size
that is listed under the same name. -/
def fieldSetBy (entry : String) : String :=
  ((maximumFields.zip ["rx_pending", "rx_mini_pending", "rx_jumbo_pending",
    "tx_pending"]).lookup entry).getD entry

section Rows

/-- A label is followed by one more word. -/
theorem pySplit_row (label : String) (value : Int) :
    pySplit (label ++ " " ++ toString value) = pySplit label ++ [toString value] := by
  have parts : (label ++ " " ++ toString value).toList =
      label.toList ++ ' ' :: intChars value := by
    rw [String.toList_append, String.toList_append, toList_toString_int, List.append_assoc]
    rfl
  rw [pySplit, parts, wordsOf_append_cons _ _ (by decide), wordsOf_word (intChars_isWord value),
    List.map_append, ← toList_toString_int, List.map_singleton, String.ofList_toList]
  rfl

/-- What the labels are read as: not the beginning of the line about adaptive
coalescing, and an option for a field. -/
theorem settingRows_labels {settings : Settings} {row : String × String}
    (member : row ∈ settingRows settings) :
    (pySplit row.1).head?.any (fun first => first ≠ "Adaptive") = true ∧
      endsWithColon (pySplit row.1) = true ∧
      entryOf settings (pyLower (optionOfLabel (pySplit row.1))) =
        .ok (some (fieldSetBy row.2)) := by
  have table : forall settings row, row ∈ settingRows settings ->
      (pySplit row.1).head?.any (fun first => first ≠ "Adaptive") = true ∧
        endsWithColon (pySplit row.1) = true ∧
        entryOf settings (pyLower (optionOfLabel (pySplit row.1))) =
          .ok (some (fieldSetBy row.2)) := by
    intro settings
    cases settings with
    | coalesce => decide +kernel
    | ringparam => decide +kernel
  exact table settings row member

theorem optionsOfLine_row {settings : Settings} {row : String × String}
    (member : row ∈ settingRows settings) (value : Int) :
    optionsOfLine (row.1 ++ " " ++ toString value) =
      [optionOfLabel (pySplit row.1), toString value] := by
  rcases settingRows_labels member with ⟨start, colon, _⟩
  have head : (pySplit row.1 ++ [toString value]).head? ≠ some "Adaptive" := by
    cases words : pySplit row.1 with
    | nil =>
        rw [words] at start
        cases start
    | cons first rest =>
        rw [words] at start
        exact fun same => of_decide_eq_true start (Option.some.inj same)
  simp only [optionsOfLine, pySplit_row, if_neg head, List.dropLast_concat, if_pos colon,
    List.getLast?_concat, Option.toList_some]

theorem optionsOfLine_adaptive (map : SettingsMap) :
    optionsOfLine (adaptiveLine map) =
      ["adaptive-rx", onOrOff (shown map "use_adaptive_rx_coalesce"), "adaptive-tx",
        onOrOff (shown map "use_adaptive_tx_coalesce")] := by
  unfold adaptiveLine onOrOff
  split <;> split <;> decide

/-- What the rows of a listing are read as. -/
def rowOptions (map : SettingsMap) (row : String × String) : List String :=
  [optionOfLabel (pySplit row.1), toString (shown map row.2)]

theorem optionsOfLine_msgRow (map : SettingsMap) (row : MsgRow)
    (member : row ∈ ethtoolCoalesceMsgs) :
    (row.lines map).flatMap optionsOfLine = row.setting.flatMap (rowOptions map) := by
  cases row with
  | text content => rfl
  | pair name entry =>
      have listed : (name ++ ":", entry) ∈ settingRows .coalesce :=
        List.mem_flatMap.mpr ⟨_, member, List.mem_singleton_self _⟩
      have line : name ++ ": " = name ++ ":" ++ " " := by
        rw [String.append_assoc]
        rfl
      rw [MsgRow.lines, MsgRow.setting, List.flatMap_singleton, List.flatMap_singleton, line]
      exact optionsOfLine_row listed _

theorem optionsOfLine_ringRow (map : SettingsMap) (row : RingRow)
    (member : row ∈ ethtoolRingparamMsgs) :
    (row.lines map).flatMap optionsOfLine = row.setting.flatMap (rowOptions map) := by
  cases row with
  | heading title =>
      have table : forall row, row ∈ ethtoolRingparamMsgs -> row.setting = [] ->
          (row.lines .empty).flatMap optionsOfLine = [] := by
        decide
      exact table _ member rfl
  | value title entry =>
      have listed : (title, entry) ∈ settingRows .ringparam :=
        List.mem_flatMap.mpr ⟨_, member, List.mem_singleton_self _⟩
      rw [RingRow.lines, RingRow.setting, List.flatMap_singleton, List.flatMap_singleton]
      exact optionsOfLine_row listed _

theorem optionsOfLine_msgRows (map : SettingsMap) :
    (ethtoolCoalesceMsgs.flatMap (MsgRow.lines map)).flatMap optionsOfLine =
      (settingRows .coalesce).flatMap (rowOptions map) := by
  have rows := List.flatMap_congr (optionsOfLine_msgRow map)
  rw [List.flatMap_assoc, rows, ← List.flatMap_assoc]
  rfl

theorem optionsOfLine_ringRows (map : SettingsMap) :
    (ethtoolRingparamMsgs.flatMap (RingRow.lines map)).flatMap optionsOfLine =
      (settingRows .ringparam).flatMap (rowOptions map) := by
  have rows := List.flatMap_congr (optionsOfLine_ringRow map)
  rw [List.flatMap_assoc, rows, ← List.flatMap_assoc]
  rfl

/-- The options of the line about adaptive coalescing. -/
def adaptiveOptions : Settings -> SettingsMap -> List String
  | .coalesce, map =>
      ["adaptive-rx", onOrOff (shown map "use_adaptive_rx_coalesce"), "adaptive-tx",
        onOrOff (shown map "use_adaptive_tx_coalesce")]
  | .ringparam, _ => []

/-- Each row is read as its option and its value. -/
theorem optionsOfListing_eq (settings : Settings) (first : String) (map : SettingsMap) :
    optionsOfListing (first :: listing settings map) =
      adaptiveOptions settings map ++ (settingRows settings).flatMap (rowOptions map) := by
  cases settings with
  | coalesce =>
      rw [optionsOfListing, List.tail_cons, listing, List.flatMap_cons, optionsOfLine_adaptive,
        optionsOfLine_msgRows, adaptiveOptions]
  | ringparam => exact optionsOfLine_ringRows map

end Rows

/-! ## What the script makes of it -/

/-- The rows in order: the field that each of them sets, and the one that it
shows. -/
def rowFields (settings : Settings) : List (String × String) :=
  (settingRows settings).map (fun row => (fieldSetBy row.2, row.2))

section Entering

variable {settings : Settings}

/-- The last row that sets a field shows this field. -/
theorem lastValue_rowFields {name : String} (field : name ∈ settings.struct.fields) :
    lastValue name (rowFields settings) =
      if name ∈ adaptiveFields ∨ name ∈ maximumFields then none else some name := by
  have table : forall name, name ∈ settings.struct.fields ->
      lastValue name (rowFields settings) =
        if name ∈ adaptiveFields ∨ name ∈ maximumFields then none else some name := by
    cases settings with
    | coalesce => decide
    | ringparam => decide
  exact table name field

/-- A value is read as it was written. -/
theorem valueOf_toString (settings : Settings) (value : Int) :
    valueOf settings (pyLower (toString value)) = some value := by
  have apart : forall word : String, pyInt word = none -> toString value ≠ word := by
    rintro word none rfl
    rw [pyInt_toString] at none
    cases none
  rw [pyLower_toString]
  cases settings with
  | coalesce =>
      rw [valueOf, if_neg (apart "on" (by decide)), if_neg (apart "off" (by decide)),
        pyInt_toString]
  | ringparam => exact pyInt_toString value

theorem wordPairs_rows (map : SettingsMap) (rows : List (String × String)) :
    wordPairs (rows.flatMap (rowOptions map)) =
      rows.map (fun row => (optionOfLabel (pySplit row.1), toString (shown map row.2))) := by
  induction rows with
  | nil => rfl
  | cons row rows ih => exact congrArg (List.cons _) ih

/-- The rows as assignments. -/
theorem accepted_rows (map : SettingsMap) :
    accepted settings ((settingRows settings).flatMap (rowOptions map)) =
      (rowFields settings).map (fun entry => (entry.1, shown map entry.2)) := by
  rw [accepted, wordPairs_rows, rowFields, List.filterMap_map, List.map_map,
    ← List.filterMap_eq_map]
  apply List.filterMap_congr
  intro row member
  exact readAs_eq_some_iff.mpr
    ⟨(settingRows_labels member).2.2, valueOf_toString settings (shown map row.2)⟩

theorem accepted_adaptive (map : SettingsMap) :
    accepted settings (adaptiveOptions settings map) =
      match settings with
      | .coalesce => adaptiveFields.map (fun name => (name, if shown map name = 0 then 0 else 1))
      | .ringparam => [] := by
  cases settings with
  | ringparam => rfl
  | coalesce =>
      simp only [adaptiveOptions, adaptiveFields, List.map_cons, List.map_nil, onOrOff]
      by_cases rx : shown map "use_adaptive_rx_coalesce" = 0
      · by_cases tx : shown map "use_adaptive_tx_coalesce" = 0
        · simp only [rx, tx]
          decide
        · simp only [rx, if_neg tx, if_pos tx]
          decide
      · by_cases tx : shown map "use_adaptive_tx_coalesce" = 0
        · simp only [tx, if_neg rx, if_pos rx]
          decide
        · simp only [if_neg rx, if_pos rx, if_neg tx, if_pos tx]
          decide

theorem even_adaptive (settings : Settings) (map : SettingsMap) :
    (adaptiveOptions settings map).length % 2 = 0 := by
  cases settings with
  | coalesce => simp [adaptiveOptions]
  | ringparam => rfl

/-- What the last assignment to a field gives it. -/
theorem lastValue_accepted (map : SettingsMap) {name : String}
    (field : name ∈ settings.struct.fields) :
    lastValue name (accepted settings
        (adaptiveOptions settings map ++ (settingRows settings).flatMap (rowOptions map))) =
      if name ∈ adaptiveFields then some (if shown map name = 0 then 0 else 1)
      else if name ∈ maximumFields then none
      else some (shown map name) := by
  have rows : lastValue name ((rowFields settings).map (fun entry => (entry.1, shown map entry.2))) =
      (lastValue name (rowFields settings)).map (shown map) :=
    lastValue_map Function.injective_id (shown map) name (rowFields settings)
  rw [accepted_append (even_adaptive settings map), lastValue_append, accepted_rows, rows,
    lastValue_rowFields field, accepted_adaptive]
  by_cases adaptive : name ∈ adaptiveFields
  · rw [if_pos adaptive, if_pos (Or.inl adaptive), Option.map_none, Option.none_or]
    cases settings with
    | coalesce =>
        exact lastValue_row Function.injective_id
          (fun other => if shown map other = 0 then 0 else 1) adaptive
    | ringparam =>
        have table : forall name, name ∈ adaptiveFields ->
            name ∉ Settings.ringparam.struct.fields := by
          decide
        exact absurd field (table name adaptive)
  · rw [if_neg adaptive]
    have absent : lastValue name (match settings with
        | .coalesce => adaptiveFields.map (fun name => (name, if shown map name = 0 then 0 else 1))
        | .ringparam => [] : List (String × Int)) = none := by
      cases settings with
      | coalesce =>
          apply lastValue_row_none id
          rintro other member rfl
          exact adaptive member
      | ringparam => rfl
    rw [absent, Option.or_none]
    by_cases maximum : name ∈ maximumFields
    · rw [if_pos (Or.inr maximum), if_pos maximum, Option.map_none]
    · rw [if_neg (not_or.mpr ⟨adaptive, maximum⟩), if_neg maximum, Option.map_some]

/-- Every option is known, so nothing is raised. -/
theorem not_raises_rows (map : SettingsMap) :
    ¬ ProcessingRaises settings ((settingRows settings).flatMap (rowOptions map)) := by
  rintro (odd | ⟨rfl, pair, member, feed⟩)
  · have even : ((settingRows settings).flatMap (rowOptions map)).length % 2 = 0 := by
      induction settingRows settings with
      | nil => rfl
      | cons row rows ih =>
          rw [List.flatMap_cons, List.length_append]
          change (2 + _) % 2 = 0
          rw [Nat.add_mod_left, ih]
    omega
  · rw [wordPairs_rows] at member
    rcases List.mem_map.mp member with ⟨row, listed, rfl⟩
    have known := (settingRows_labels listed).2.2
    rcases entryOf_error_iff.mpr ⟨rfl, feed⟩ with ⟨error, failed⟩
    rw [failed] at known
    cases known

theorem not_raises_adaptive (map : SettingsMap) :
    ¬ ProcessingRaises settings (adaptiveOptions settings map) := by
  rintro (odd | ⟨rfl, pair, member, feed⟩)
  · have even := even_adaptive settings map
    omega
  · simp only [adaptiveOptions, wordPairs, List.mem_cons, List.not_mem_nil, or_false] at member
    have known : pyLower "adaptive-rx" ≠ "\n" ∧ pyLower "adaptive-tx" ≠ "\n" := by
      decide
    rcases member with rfl | rfl
    · exact known.1 feed
    · exact known.2 feed

end Entering

/-! ## The run that lists -/

section Listing

variable {Kernel : Type} {ethtool : Ethtool Kernel} {world : World Kernel} {settings : Settings}

def listingCommand : Settings -> Command
  | .coalesce => .showCoalesce
  | .ringparam => .showRing

def Event.line : Event -> Option String
  | .printed line => some line
  | _ => none

/-- What a run prints. -/
def printedLines (events : List Event) : List String :=
  events.filterMap Event.line

/-- Printing without indentation. -/
theorem logs_printtab (plain : world.tab = "") (message : String) :
    Logs [.printed message] (printtab message : Script Kernel Unit) world := by
  have run : (printtab message : Script Kernel Unit).run world =
      { result := .ok (), world := world, events := [.printed (world.tab ++ message)] } := rfl
  rw [Logs, run, plain, String.empty_append]

theorem getItem_shown (current : CurrentSettings settings) {name : String}
    (field : name ∈ settings.struct.fields) :
    getItem current.map name = .ok (shown current.map name) := by
  rcases Option.isSome_iff_exists.mp (current.complete name field) with ⟨value, present⟩
  rw [getItem_eq_ok, shown, present]
  rfl

/-- Every row shows a field. -/
theorem settingRows_field {row : String × String} (member : row ∈ settingRows settings) :
    row.2 ∈ settings.struct.fields := by
  have table : forall row, row ∈ settingRows settings -> row.2 ∈ settings.struct.fields := by
    cases settings with
    | coalesce => decide
    | ringparam => decide
  exact table row member

theorem logs_showCoalesceRow (plain : world.tab = "") (coal : CurrentSettings .coalesce)
    {row : MsgRow} (member : row ∈ ethtoolCoalesceMsgs) :
    Logs ((row.lines coal.map).map Event.printed) (showCoalesceRow coal.map row) world := by
  have table : forall row, row ∈ ethtoolCoalesceMsgs -> row = .text "\n" ∨
      (row.item 0 ≠ .ok "\n" ∧ row.setting ≠ []) := by
    decide
  rcases table row member with rfl | ⟨titled, shows⟩
  · exact logs_ofExcept_bind rfl logs_pure
  · cases row with
    | text content => exact absurd rfl shows
    | pair name entry =>
        have listed : (name ++ ":", entry) ∈ settingRows .coalesce :=
          List.mem_flatMap.mpr ⟨_, member, List.mem_singleton_self _⟩
        have field : entry ∈ Settings.coalesce.struct.fields := settingRows_field listed
        have other : name ≠ "\n" := by
          rintro rfl
          exact titled rfl
        apply logs_ofExcept_bind rfl
        rw [if_neg other]
        apply logs_ofExcept_bind rfl
        apply logs_ofExcept_bind (getItem_shown coal field)
        exact logs_printtab plain _

theorem logs_showRingRow (plain : world.tab = "") (ring : CurrentSettings .ringparam)
    {row : RingRow} (member : row ∈ ethtoolRingparamMsgs) :
    Logs ((row.lines ring.map).map Event.printed) (showRingRow ring.map row) world := by
  cases row with
  | heading title => exact logs_printtab plain _
  | value title entry =>
      have listed : (title, entry) ∈ settingRows .ringparam :=
        List.mem_flatMap.mpr ⟨_, member, List.mem_singleton_self _⟩
      have field : entry ∈ Settings.ringparam.struct.fields := settingRows_field listed
      apply logs_ofExcept_bind (getItem_shown ring field)
      exact logs_printtab plain _

/-- Where there are no keys beyond the fields, no others are shown. -/
theorem logs_showOthers {map : SettingsMap} {printed : List String}
    (exact_ : map.keys.length = printed.length) :
    Logs [] (showOthers map printed : Script Kernel Unit) world := by
  rw [showOthers, if_neg (not_not.mpr exact_)]
  exact logs_pure

variable {interface : String}

theorem printedLines_printed (lines : List String) :
    printedLines (lines.map Event.printed) = lines := by
  rw [printedLines, List.filterMap_map]
  exact List.filterMap_some

/-- A heading, a call that succeeds, and what is printed of its reply. -/
theorem printedLines_guarded (plain : world.tab = "") {message : String} {call : Call}
    {reply : call.Reply} {handler : PyError -> Script Kernel Unit}
    {next : call.Reply -> Script Kernel Unit} {lines : List String}
    (read : (ethtool.answer call world.kernel).1 = .ok reply)
    (rest : Logs (lines.map Event.printed) (next reply) (world.afterCall ethtool call)) :
    printedLines ((printtab message >>= fun _ =>
      tryElse (perform ethtool call) handler next).run world).events = message :: lines := by
  have first := logs_printtab plain message
  have ended : ((printtab message : Script Kernel Unit).run world).result = .ok () := by
    rw [first]
  rw [run_bind_ok _ _ ended, first]
  change printedLines ([.printed message] ++
    ((tryElse (perform ethtool call) handler next).run world).events) = _
  rw [run_tryElse_ok _ _ _ read]
  change printedLines ([.printed message] ++ ([.called call] ++
    ((next reply).run (world.afterCall ethtool call)).events)) = _
  rw [rest]
  exact congrArg (List.cons message) (printedLines_printed lines)

theorem showCoalesce_lines (plain : world.tab = "") {current : CurrentSettings .coalesce}
    (read : (ethtool.answer (.getSettings .coalesce interface) world.kernel).1 = .ok current)
    (keys : current.map.keys.length = Settings.coalesce.struct.fields.length) :
    printedLines ((showCoalesce ethtool interface).run world).events =
      heading .coalesce interface :: listing .coalesce current.map := by
  apply printedLines_guarded plain read
  have rows : (listing .coalesce current.map).map Event.printed =
      [.printed (adaptiveLine current.map)] ++
        (ethtoolCoalesceMsgs.flatMap (fun row => (row.lines current.map).map Event.printed) ++
          []) := by
    rw [listing, List.map_cons, List.map_flatMap, List.append_nil]
    rfl
  have after : (world.afterCall ethtool (.getSettings .coalesce interface)).tab = "" := plain
  rw [rows]
  apply logs_ofExcept_bind (getItem_shown current (by decide))
  apply logs_ofExcept_bind (getItem_shown current (by decide))
  refine logs_bind (logs_printtab after (adaptiveLine current.map)) ?_
  apply logs_bind
  · apply logs_forEach
    intro row member
    exact logs_showCoalesceRow after current member
  · exact logs_showOthers (keys.trans (by decide))

theorem showRing_lines (plain : world.tab = "") {current : CurrentSettings .ringparam}
    (read : (ethtool.answer (.getSettings .ringparam interface) world.kernel).1 = .ok current)
    (keys : current.map.keys.length = Settings.ringparam.struct.fields.length) :
    printedLines ((showRing ethtool interface).run world).events =
      heading .ringparam interface :: listing .ringparam current.map := by
  apply printedLines_guarded plain read
  have rows : (listing .ringparam current.map).map Event.printed =
      ethtoolRingparamMsgs.flatMap (fun row => (row.lines current.map).map Event.printed) ++
        [] := by
    rw [listing, List.map_flatMap, List.append_nil]
  have after : (world.afterCall ethtool (.getSettings .ringparam interface)).tab = "" := plain
  rw [rows]
  apply logs_bind
  · apply logs_forEach
    intro row member
    exact logs_showRingRow after current member
  · exact logs_showOthers (keys.trans (by decide))

/-- The command that lists settings prints the heading and the listing. -/
theorem listing_lines (plain : world.tab = "") (args : Option (List String))
    {current : CurrentSettings settings}
    (read : (ethtool.answer (.getSettings settings interface) world.kernel).1 = .ok current)
    (keys : current.map.keys.length = settings.struct.fields.length) :
    printedLines (((listingCommand settings).body ethtool interface args).run world).events =
      heading settings interface :: listing settings current.map := by
  cases settings with
  | coalesce => exact showCoalesce_lines plain read keys
  | ringparam => exact showRing_lines plain read keys

end Listing

end Pethtool
end PythonEthtool
