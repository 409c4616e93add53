import PythonEthtool.Netlink.Connection
import PythonEthtool.Python.Objects

namespace PythonEthtool
namespace Netlink

open Foundations
open Python

/-!
# The interface index of an etherinfo object

`_set_device_index` fills a link cache and looks the device name up in it.
The lookup compares whole names: the string is not copied into a fixed array
on the way.  The index is kept in the object, so the lookup happens once.
-/

/-- One record of a link cache. -/
structure RtnlLink where
  name : CString
  ifindex : Int
  deriving DecidableEq

def rtnlLinkGetByName (linkCache : List RtnlLink) (name : CString) : Option RtnlLink :=
  linkCache.find? (fun link => link.name = name)

/-- Objects of libnl that the caller has to give back. -/
inductive LibnlObject where
  | cache
  | link
  | addr
  deriving DecidableEq

inductive LibnlEvent where
  | acquired (object : LibnlObject)
  | released (object : LibnlObject)
  deriving DecidableEq

/-- The result of `_set_device_index`, the object after it, the exception it
sets, and the libnl objects it acquires and releases, in order. -/
structure IndexSet where
  returned : Bool
  self : PyEtherInfo
  pending : Option PyError
  events : List LibnlEvent

/-- `linkCache` is what `rtnl_link_alloc_cache` gives: the links, or the text
of its error. -/
def setDeviceIndex (self : PyEtherInfo) (linkCache : Except String (List RtnlLink)) : IndexSet :=
  if self.index < 0 then
    match linkCache with
    | .error text =>
        { returned := false, self := self, pending := some ⟨.osError, .text text⟩, events := [] }
    | .ok links =>
        match rtnlLinkGetByName links self.device with
        | none =>
            { returned := false
              self := self
              pending := some ⟨.osError, .errno ENODEV⟩
              events := [.acquired .cache, .released .cache] }
        | some link =>
            -- The index is stored before it is checked.
            { returned := 0 < link.ifindex
              self := { self with index := link.ifindex }
              pending := if 0 < link.ifindex then none else some ⟨.osError, .errno ENODEV⟩
              events :=
                [.acquired .cache, .acquired .link, .released .link, .released .cache] }
  else { returned := true, self := self, pending := none, events := [] }

/-- The index that a call settles on, if it succeeds. -/
def IndexSet.resolved (result : IndexSet) : Option Int :=
  if result.returned then some result.self.index else none

/-- A fresh object resolves to the index of the link of its whole name. -/
theorem setDeviceIndex_resolved {self : PyEtherInfo} {links : List RtnlLink}
    (unset : self.index < 0)
    (positive : forall link, link ∈ links -> 0 < link.ifindex) :
    (setDeviceIndex self (.ok links)).resolved =
      (rtnlLinkGetByName links self.device).map RtnlLink.ifindex := by
  simp only [setDeviceIndex, if_pos unset]
  cases found : rtnlLinkGetByName links self.device with
  | none => rfl
  | some link =>
      have valid := positive link (List.mem_of_find?_eq_some found)
      simp [IndexSet.resolved, valid]

end Netlink
end PythonEthtool
