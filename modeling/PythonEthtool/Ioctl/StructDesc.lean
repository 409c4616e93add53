import PythonEthtool.Foundations.Memory
import PythonEthtool.Python.Objects

namespace PythonEthtool
namespace Ioctl

open Foundations
open Python

/-!
# Structures and dictionaries through a field table

`ethtool.c` moves coalescing and ring settings between a C structure and a
Python dictionary with two loops over a table of rows, each a name, an
offset and a size.  The loops are modelled as they run, over byte memory and
with the pending exception of the interpreter.

The structures concerned have `u32` members only.  A table covers such a
structure when its rows are the members after `cmd`, in order; everything
the loops are used for follows from that, for any structure.
-/

/-- A C structure all of whose members are `u32`, by their names in order. -/
structure U32Struct where
  members : List String

namespace U32Struct

def sizeof (struct : U32Struct) : Nat :=
  4 * struct.members.length

def offsetof (struct : U32Struct) (member : String) : Nat :=
  4 * struct.members.idxOf member

/-- The members other than `cmd`. -/
def fields (struct : U32Struct) : List String :=
  struct.members.filter (fun member => member ≠ "cmd")

end U32Struct

structure StructDesc where
  name : String
  offset : Nat
  size : Nat
  deriving DecidableEq

/-- The row that the macro `member_desc` writes. -/
def memberDesc (struct : U32Struct) (member : String) : StructDesc where
  name := member
  offset := struct.offsetof member
  size := 4

/-! ## The two tables -/

def ethtoolCoalesce : U32Struct where
  members :=
    ["cmd",
      "rx_coalesce_usecs",
      "rx_max_coalesced_frames",
      "rx_coalesce_usecs_irq",
      "rx_max_coalesced_frames_irq",
      "tx_coalesce_usecs",
      "tx_max_coalesced_frames",
      "tx_coalesce_usecs_irq",
      "tx_max_coalesced_frames_irq",
      "stats_block_coalesce_usecs",
      "use_adaptive_rx_coalesce",
      "use_adaptive_tx_coalesce",
      "pkt_rate_low",
      "rx_coalesce_usecs_low",
      "rx_max_coalesced_frames_low",
      "tx_coalesce_usecs_low",
      "tx_max_coalesced_frames_low",
      "pkt_rate_high",
      "rx_coalesce_usecs_high",
      "rx_max_coalesced_frames_high",
      "tx_coalesce_usecs_high",
      "tx_max_coalesced_frames_high",
      "rate_sample_interval"]

def ethtoolCoalesceDesc : List StructDesc :=
  [memberDesc ethtoolCoalesce "rx_coalesce_usecs",
    memberDesc ethtoolCoalesce "rx_max_coalesced_frames",
    memberDesc ethtoolCoalesce "rx_coalesce_usecs_irq",
    memberDesc ethtoolCoalesce "rx_max_coalesced_frames_irq",
    memberDesc ethtoolCoalesce "tx_coalesce_usecs",
    memberDesc ethtoolCoalesce "tx_max_coalesced_frames",
    memberDesc ethtoolCoalesce "tx_coalesce_usecs_irq",
    memberDesc ethtoolCoalesce "tx_max_coalesced_frames_irq",
    memberDesc ethtoolCoalesce "stats_block_coalesce_usecs",
    memberDesc ethtoolCoalesce "use_adaptive_rx_coalesce",
    memberDesc ethtoolCoalesce "use_adaptive_tx_coalesce",
    memberDesc ethtoolCoalesce "pkt_rate_low",
    memberDesc ethtoolCoalesce "rx_coalesce_usecs_low",
    memberDesc ethtoolCoalesce "rx_max_coalesced_frames_low",
    memberDesc ethtoolCoalesce "tx_coalesce_usecs_low",
    memberDesc ethtoolCoalesce "tx_max_coalesced_frames_low",
    memberDesc ethtoolCoalesce "pkt_rate_high",
    memberDesc ethtoolCoalesce "rx_coalesce_usecs_high",
    memberDesc ethtoolCoalesce "rx_max_coalesced_frames_high",
    memberDesc ethtoolCoalesce "tx_coalesce_usecs_high",
    memberDesc ethtoolCoalesce "tx_max_coalesced_frames_high",
    memberDesc ethtoolCoalesce "rate_sample_interval"]

def ethtoolRingparam : U32Struct where
  members :=
    ["cmd",
      "rx_max_pending",
      "rx_mini_max_pending",
      "rx_jumbo_max_pending",
      "tx_max_pending",
      "rx_pending",
      "rx_mini_pending",
      "rx_jumbo_pending",
      "tx_pending"]

def ethtoolRingparamDesc : List StructDesc :=
  [memberDesc ethtoolRingparam "rx_max_pending",
    memberDesc ethtoolRingparam "rx_mini_max_pending",
    memberDesc ethtoolRingparam "rx_jumbo_max_pending",
    memberDesc ethtoolRingparam "tx_max_pending",
    memberDesc ethtoolRingparam "rx_pending",
    memberDesc ethtoolRingparam "rx_mini_pending",
    memberDesc ethtoolRingparam "rx_jumbo_pending",
    memberDesc ethtoolRingparam "tx_pending"]

/-- The structure for single values.  `send_command` sees every structure
through it. -/
def ethtoolValue : U32Struct where
  members := ["cmd", "data"]

/-- The assignment `eval->cmd = cmd`. -/
def writeCmd (value : Memory) (cmd : UInt32) : Memory :=
  store32 value (ethtoolValue.offsetof "cmd") cmd

theorem writeCmd_eq (value : Memory) (cmd : UInt32) : writeCmd value cmd = store32 value 0 cmd :=
  rfl

/-- The two kinds of settings that travel as dictionaries. -/
inductive Settings where
  | coalesce
  | ringparam
  deriving DecidableEq

def Settings.struct : Settings -> U32Struct
  | .coalesce => ethtoolCoalesce
  | .ringparam => ethtoolRingparam

def Settings.desc : Settings -> List StructDesc
  | .coalesce => ethtoolCoalesceDesc
  | .ringparam => ethtoolRingparamDesc

/-! ## The two loops -/

/-- The rest of the loop of `__struct_desc_create_dict`, with the dictionary
built so far.  A row of another size leaves `objval` NULL. -/
def createDictFrom (width : LongWidth) (values : Memory) (dict : PyDict) :
    List StructDesc -> Option PyDict
  | [] => some dict
  | row :: table =>
      if row.size = 4 then
        createDictFrom width values
          (dict.set (.str row.name) (pyLongFromLong (toLong width (load32 values row.offset))))
          table
      else none

def structDescCreateDict (width : LongWidth) (table : List StructDesc) (values : Memory) :
    Option PyDict :=
  createDictFrom width values .empty table

/-- The result of `__struct_desc_from_dict`: its return value, the structure
it wrote to, and the exception pending afterwards. -/
structure FromDict where
  returned : Int
  target : Memory
  pending : Option PyError

/-- A conversion that fails is not looked at: its -1 is stored and the loop
goes on, with the exception pending. -/
def structDescFromDict (width : LongWidth) (object : PyObject) :
    List StructDesc -> Memory -> Option PyError -> FromDict
  | [], target, pending => { returned := 0, target := target, pending := pending }
  | row :: table, target, pending =>
      if row.size = 4 then
        match pyDictGetItemString object row.name with
        | none =>
            { returned := -1
              target := target
              pending := some
                ⟨.osError, .text ("Missing dict entry for field " ++ row.name)⟩ }
        | some value =>
            structDescFromDict width object table
              (store32 target row.offset (UInt32.ofInt (pyLongAsLong width value).1))
              ((pyLongAsLong width value).2.or pending)
      else
        { returned := -1
          target := target
          pending := some
            ⟨.osError, .text ("Invalid type size " ++ toString row.size ++
              " for field " ++ row.name)⟩ }

/-! ## Tables that cover their structure -/

/-- The rows of the table are the members after `cmd`, in order. -/
structure Covers (struct : U32Struct) (table : List StructDesc) : Prop where
  members : struct.members = "cmd" :: table.map StructDesc.name
  nodup : struct.members.Nodup
  rows : forall row, row ∈ table -> row = memberDesc struct row.name

theorem ethtoolCoalesceDesc_covers : Covers ethtoolCoalesce ethtoolCoalesceDesc where
  members := rfl
  nodup := by decide
  rows := by decide

theorem ethtoolRingparamDesc_covers : Covers ethtoolRingparam ethtoolRingparamDesc where
  members := rfl
  nodup := by decide
  rows := by decide

theorem Settings.covers (settings : Settings) : Covers settings.struct settings.desc := by
  cases settings with
  | coalesce => exact ethtoolCoalesceDesc_covers
  | ringparam => exact ethtoolRingparamDesc_covers

end Ioctl
end PythonEthtool
