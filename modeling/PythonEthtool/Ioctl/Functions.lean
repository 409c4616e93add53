import PythonEthtool.Foundations.CString
import PythonEthtool.Ioctl.StructDesc

namespace PythonEthtool
namespace Ioctl

open Foundations
open Python

/-!
# The functions that go through `ioctl`

Each function copies the device name into the request, opens a control
socket and makes one `ioctl`.  The kernel is an argument: which interfaces
exist, whether a socket can be opened, and what each interface answers.  It
resolves the name in a request to the interface of exactly that name, and
fails with `ENODEV` when there is none.

A call returns NULL or an object and leaves an exception pending or not; the
two are not tied together here, since the functions do not always tie them
together either.
-/

def IFNAMSIZ : Nat :=
  16

/-- An existing interface.  The kernel's names have 1 to 15 bytes, and its
indexes are positive. -/
structure Interface where
  name : CString
  ifindex : Int
  nonempty : 0 < name.length
  short : name.length < IFNAMSIZ
  positive : 0 < ifindex

/-- The interface `em1`, for the concrete calls. -/
def em1 : Interface where
  name := ⟨[101, 109, 49], by simp⟩
  ifindex := 2
  nonempty := by decide
  short := by decide
  positive := by decide

inductive IoctlCode where
  | siocgifhwaddr
  | siocgifaddr
  | siocgifflags
  | siocgifnetmask
  | siocgifbrdaddr
  | siocethtool
  | siocgiwname
  deriving DecidableEq

/-- The request code, the name field of the request structure, and the
buffer behind `ifr_data`. -/
structure IoctlRequest where
  code : IoctlCode
  ifrName : List UInt8
  data : Memory

/-- The result of the call, the error number when it is negative, and the
union and the buffer after it. -/
structure IoctlReply where
  result : Int
  errno : Int
  ifru : Memory
  data : Memory

/-- The machine the module runs on: the width of `long`, the contents of
the stack where locals are not initialised, and the kernel. -/
structure Host where
  width : LongWidth
  stack : Memory
  interfaces : List Interface
  socket : Int
  socketErrno : Int
  answer : Interface -> IoctlRequest -> IoctlReply

/-- The interface of exactly this name. -/
def findByName (interfaces : List Interface) (name : List UInt8) : Option Interface :=
  interfaces.find? (fun interface => interface.name.bytes = name)

def Host.resolve (host : Host) (ifrName : List UInt8) : Option Interface :=
  findByName host.interfaces (readString ifrName)

def Host.ioctl (host : Host) (request : IoctlRequest) : IoctlReply :=
  match host.resolve request.ifrName with
  | some interface => host.answer interface request
  | none => { result := -1, errno := ENODEV, ifru := fun _ => 0, data := request.data }

/-- A machine with these interfaces, whose drivers accept everything. -/
def acceptingHost (interfaces : List Interface) : Host where
  width := .bits64
  stack := fun _ => 0xff
  interfaces := interfaces
  socket := 3
  socketErrno := 0
  answer := fun _ request => { result := 0, errno := 0, ifru := fun _ => 0, data := request.data }

/-- What a call returns, NULL as `none`, the exception it leaves pending,
and the requests it made. -/
structure CallResult where
  value : Option PyObject
  pending : Option PyError
  requests : List IoctlRequest

/-- The interpreter raises: the result is NULL or an exception is pending. -/
def CallResult.Raises (result : CallResult) : Prop :=
  result.value = none ∨ result.pending.isSome

/-- `memset`, `strncpy` with `IFNAMSIZ` and the forced terminator. -/
def ifrName (devname : CString) : List UInt8 :=
  (strncpy (List.replicate IFNAMSIZ 0) devname IFNAMSIZ).set (IFNAMSIZ - 1) 0

theorem ifrName_eq (devname : CString) : ifrName devname = strncpyTerminated 15 devname :=
  rfl

/-! ## Interface flags

The constants of `net/if.h` that the module exports. -/

def IFF_UP : Int :=
  0x1

def IFF_BROADCAST : Int :=
  0x2

def IFF_DEBUG : Int :=
  0x4

def IFF_LOOPBACK : Int :=
  0x8

def IFF_POINTOPOINT : Int :=
  0x10

def IFF_NOTRAILERS : Int :=
  0x20

def IFF_RUNNING : Int :=
  0x40

def IFF_NOARP : Int :=
  0x80

def IFF_PROMISC : Int :=
  0x100

def IFF_ALLMULTI : Int :=
  0x200

def IFF_MASTER : Int :=
  0x400

def IFF_SLAVE : Int :=
  0x800

def IFF_MULTICAST : Int :=
  0x1000

def IFF_PORTSEL : Int :=
  0x2000

def IFF_AUTOMEDIA : Int :=
  0x4000

def IFF_DYNAMIC : Int :=
  0x8000

/-! ## Requests of the interface itself -/

/-- The common body of the functions below, up to the use of the reply. -/
def ifreqCall (host : Host) (code : IoctlCode) (devname : CString) (data : Memory)
    (onReply : IoctlReply -> CallResult) : CallResult :=
  if host.socket < 0 then
    { value := none, pending := some (setFromErrno host.socketErrno), requests := [] }
  else
    let request : IoctlRequest := { code := code, ifrName := ifrName devname, data := data }
    let reply := host.ioctl request
    if reply.result < 0 then
      { value := none, pending := some (setFromErrno reply.errno), requests := [request] }
    else { onReply reply with requests := [request] }

def returnValue (value : PyValue) : CallResult where
  value := some (.value value)
  pending := none
  requests := []

/-- A Python string from C bytes, which have to be UTF-8. -/
def pyStrFromString (bytes : List UInt8) : CallResult :=
  match String.fromUTF8? ⟨bytes.toArray⟩ with
  | some text => returnValue (.str text)
  | none =>
      { value := none
        pending := some ⟨.valueError, .text "invalid utf-8"⟩
        requests := [] }

/-- Byte `index` of `sa_data`, which follows the two bytes of `sa_family`. -/
def saData (ifru : Memory) (index : Nat) : UInt8 :=
  ifru (2 + index)

def formatHwaddr (ifru : Memory) : String :=
  hexByte (saData ifru 0) ++ ":" ++ hexByte (saData ifru 1) ++ ":" ++
    hexByte (saData ifru 2) ++ ":" ++ hexByte (saData ifru 3) ++ ":" ++
    hexByte (saData ifru 4) ++ ":" ++ hexByte (saData ifru 5)

def formatIpaddr (ifru : Memory) : String :=
  toString (saData ifru 2).toNat ++ "." ++ toString (saData ifru 3).toNat ++ "." ++
    toString (saData ifru 4).toNat ++ "." ++ toString (saData ifru 5).toNat

/-- The union as the `short` flag word. -/
def ifrFlags (ifru : Memory) : Int :=
  Int.bmod ((ifru 0).toNat + 256 * (ifru 1).toNat) 65536

/-- The unused part of the cleared request. -/
def noData : Memory :=
  fun _ => 0

def getHwaddress (host : Host) (devname : CString) : CallResult :=
  ifreqCall host .siocgifhwaddr devname noData
    (fun reply => returnValue (.str (formatHwaddr reply.ifru)))

def getIpaddress (host : Host) (devname : CString) : CallResult :=
  ifreqCall host .siocgifaddr devname noData
    (fun reply => returnValue (.str (formatIpaddr reply.ifru)))

def getFlags (host : Host) (devname : CString) : CallResult :=
  ifreqCall host .siocgifflags devname noData
    (fun reply => returnValue (.int (ifrFlags reply.ifru)))

def getNetmask (host : Host) (devname : CString) : CallResult :=
  ifreqCall host .siocgifnetmask devname noData
    (fun reply => returnValue (.str (formatIpaddr reply.ifru)))

def getBroadcast (host : Host) (devname : CString) : CallResult :=
  ifreqCall host .siocgifbrdaddr devname noData
    (fun reply => returnValue (.str (formatIpaddr reply.ifru)))

/-- `sizeof(struct ethtool_cmd)`. -/
def sizeofEthtoolCmd : Nat :=
  44

def ETHTOOL_GDRVINFO : UInt32 :=
  0x00000003

/-- The buffer of a driver query: a cleared `ethtool_cmd` with its command,
over whatever the stack held. -/
def drvinfoBuffer (stack : Memory) : Memory :=
  writeCmd (fun offset => if offset < sizeofEthtoolCmd then 0 else stack offset) ETHTOOL_GDRVINFO

/-- The offset of `bus_info` in `struct ethtool_drvinfo`. -/
def offsetofBusInfo : Nat :=
  100

/-- The string at an offset of a buffer of the given size. -/
def stringAt (buffer : Memory) (offset size : Nat) : List UInt8 :=
  readString ((List.range (size - offset)).map (fun index => buffer (offset + index)))

def getBusinfo (host : Host) (devname : CString) : CallResult :=
  ifreqCall host .siocethtool devname (drvinfoBuffer host.stack)
    (fun reply => pyStrFromString (stringAt reply.data offsetofBusInfo 1024))

/-- `get_wireless_protocol` copies one byte less, into a structure that is
cleared as well. -/
def iwrName (devname : CString) : List UInt8 :=
  (strncpy (List.replicate IFNAMSIZ 0) devname (IFNAMSIZ - 1)).set (IFNAMSIZ - 1) 0

def getWirelessProtocol (host : Host) (devname : CString) : CallResult :=
  if host.socket < 0 then
    { value := none, pending := some (setFromErrno host.socketErrno), requests := [] }
  else
    let request : IoctlRequest :=
      { code := .siocgiwname, ifrName := iwrName devname, data := noData }
    let reply := host.ioctl request
    if reply.result < 0 then
      { value := none, pending := some (setFromErrno reply.errno), requests := [request] }
    else { pyStrFromString (stringAt reply.ifru 0 16) with requests := [request] }

/-! ## Requests of the driver -/

def ETHTOOL_GCOALESCE : UInt32 :=
  0x0000000e

def ETHTOOL_SCOALESCE : UInt32 :=
  0x0000000f

def ETHTOOL_GRINGPARAM : UInt32 :=
  0x00000010

def ETHTOOL_SRINGPARAM : UInt32 :=
  0x00000011

def ETHTOOL_GSG : UInt32 :=
  0x00000018

def ETHTOOL_GTSO : UInt32 :=
  0x0000001e

def ETHTOOL_STSO : UInt32 :=
  0x0000001f

def ETHTOOL_GUFO : UInt32 :=
  0x00000021

def ETHTOOL_GGSO : UInt32 :=
  0x00000023

def ETHTOOL_SGSO : UInt32 :=
  0x00000024

def ETHTOOL_GGRO : UInt32 :=
  0x0000002b

def ETHTOOL_SGRO : UInt32 :=
  0x0000002c

/-- The result of `send_command`: its return value, the structure after the
call, the pending exception, and the requests made. -/
structure Sent where
  err : Int
  value : Memory
  pending : Option PyError
  requests : List IoctlRequest

def sendCommand (host : Host) (cmd : UInt32) (devname : CString) (value : Memory)
    (pending : Option PyError) : Sent :=
  if host.socket < 0 then
    { err := -1
      value := writeCmd value cmd
      pending := some ((setFromErrno host.socketErrno).over pending)
      requests := [] }
  else
    let request : IoctlRequest :=
      { code := .siocethtool, ifrName := ifrName devname, data := writeCmd value cmd }
    let reply := host.ioctl request
    { err := reply.result
      value := reply.data
      pending :=
        if reply.result < 0 then some ((setFromErrno reply.errno).over pending) else pending
      requests := [request] }

def getDevValue (host : Host) (cmd : UInt32) (devname : CString) : Sent :=
  sendCommand host cmd devname host.stack none

/-- The word read as a C `int`. -/
def toInt32 (word : UInt32) : Int :=
  Int.bmod word.toNat (2 ^ 32)

/-- The body shared by the integer getters.  The value stays 0 unless the
call returned exactly 0. -/
def getDevIntValue (host : Host) (cmd : UInt32) (devname : CString) : CallResult :=
  let sent := getDevValue host cmd devname
  let value :=
    if sent.err = 0 then toInt32 (load32 sent.value (ethtoolValue.offsetof "data")) else 0
  if sent.err < 0 then { value := none, pending := sent.pending, requests := sent.requests }
  else
    { value := some (.value (.int value))
      pending := sent.pending
      requests := sent.requests }

/-- The format `i` of `PyArg_ParseTuple`. -/
def parseInt (width : LongWidth) (value : PyValue) : Except PyError Int :=
  match pyLongAsLong width value with
  | (_, some error) => .error error
  | (long, none) =>
      if 2 ^ 31 - 1 < long then
        .error ⟨.overflowError, .text "signed integer is greater than maximum"⟩
      else if long < -(2 ^ 31) then
        .error ⟨.overflowError, .text "signed integer is less than minimum"⟩
      else .ok long

/-- The body shared by the integer setters. -/
def devSetIntValue (host : Host) (cmd : UInt32) (devname : CString) (value : PyValue) :
    CallResult :=
  match parseInt host.width value with
  | .error error => { value := none, pending := some error, requests := [] }
  | .ok data =>
      let eval := store32 host.stack (ethtoolValue.offsetof "data") (UInt32.ofInt data)
      let sent := sendCommand host cmd devname eval none
      { value := if sent.err < 0 then none else some (.value .none)
        pending := sent.pending
        requests := sent.requests }

def getTso (host : Host) (devname : CString) : CallResult :=
  getDevIntValue host ETHTOOL_GTSO devname

def setTso (host : Host) (devname : CString) (value : PyValue) : CallResult :=
  devSetIntValue host ETHTOOL_STSO devname value

def getUfo (host : Host) (devname : CString) : CallResult :=
  getDevIntValue host ETHTOOL_GUFO devname

def getGso (host : Host) (devname : CString) : CallResult :=
  getDevIntValue host ETHTOOL_GGSO devname

def setGso (host : Host) (devname : CString) (value : PyValue) : CallResult :=
  devSetIntValue host ETHTOOL_SGSO devname value

def getGro (host : Host) (devname : CString) : CallResult :=
  getDevIntValue host ETHTOOL_GGRO devname

def setGro (host : Host) (devname : CString) (value : PyValue) : CallResult :=
  devSetIntValue host ETHTOOL_SGRO devname value

def getSg (host : Host) (devname : CString) : CallResult :=
  getDevIntValue host ETHTOOL_GSG devname

/-! ## Settings as dictionaries -/

/-- The body shared by `get_coalesce` and `get_ringparam`. -/
def getSettings (settings : Settings) (host : Host) (cmd : UInt32) (devname : CString) :
    CallResult :=
  let sent := getDevValue host cmd devname
  if sent.err < 0 then { value := none, pending := sent.pending, requests := sent.requests }
  else
    { value := (structDescCreateDict host.width settings.desc sent.value).map PyObject.dict
      pending := sent.pending
      requests := sent.requests }

/-- The body shared by `set_coalesce` and `set_ringparam`. -/
def setSettings (settings : Settings) (host : Host) (cmd : UInt32) (devname : CString)
    (object : PyObject) : CallResult :=
  let decoded := structDescFromDict host.width object settings.desc host.stack none
  if decoded.returned = 0 then
    let sent := sendCommand host cmd devname decoded.target decoded.pending
    { value := if sent.err = 0 then some (.value .none) else none
      pending := sent.pending
      requests := sent.requests }
  else { value := none, pending := decoded.pending, requests := [] }

def getCoalesce (host : Host) (devname : CString) : CallResult :=
  getSettings .coalesce host ETHTOOL_GCOALESCE devname

def setCoalesce (host : Host) (devname : CString) (object : PyObject) : CallResult :=
  setSettings .coalesce host ETHTOOL_SCOALESCE devname object

def getRingparam (host : Host) (devname : CString) : CallResult :=
  getSettings .ringparam host ETHTOOL_GRINGPARAM devname

def setRingparam (host : Host) (devname : CString) (object : PyObject) : CallResult :=
  setSettings .ringparam host ETHTOOL_SRINGPARAM devname object

end Ioctl
end PythonEthtool
