import Nmstate.Base

namespace Nmstate

variable {N : NestedTypes}

def BaseInterface.isAbsent (iface : BaseInterface N) : Bool := iface.state == .absent

def BaseInterface.isDown (iface : BaseInterface N) : Bool := iface.state == .down

/-- Modelled from the spec: `MergedInterface` is not under src/. An interface of the merged
state: the record the desired state overlays on the current one, the current record, and
the verdicts of the methods the apply path asks of it. -/
structure MergedInterface (N : NestedTypes) where
  merged : BaseInterface N
  current : Option (BaseInterface N) := none
  isChanged : Bool := false
  isDesired : Bool := false
  isDefaultPvidChanged : Bool := false
  bondPortsWithQueueIdChanged : List String := []

/-- Modelled from the spec: `MergedInterfaces` is not under src/. Its two maps, by kernel
name and by name and type, as the lists of their values. -/
structure MergedInterfaces (N : NestedTypes) where
  kernelIfaces : List (MergedInterface N) := []
  userIfaces : List (MergedInterface N) := []

/-- `MergedInterfaces::iter`: the user interfaces, then the kernel ones. -/
def MergedInterfaces.iter (ifaces : MergedInterfaces N) : List (MergedInterface N) :=
  ifaces.userIfaces ++ ifaces.kernelIfaces

/-- Modelled from the spec: the DNS part of the merged state, with the verdicts of the
methods `nm_apply` asks of it and the lists it hands to the global DNS API. -/
structure MergedDnsState where
  isChanged : Bool := false
  isDesired : Bool := false
  isSearchOrOptionOnly : Bool := false
  isPurge : Bool := false
  servers : List String := []
  searches : List String := []
  options : List String := []

structure HostNameState where
  config : Option String := none

structure MergedHostNameState where
  desired : Option HostNameState := none

/-- Modelled from the spec: `MergedNetworkState`, with the parts `nm_apply` reads. -/
structure MergedNetworkState (N : NestedTypes) where
  interfaces : MergedInterfaces N
  dns : MergedDnsState := {}
  hostname : MergedHostNameState := {}
  memoryOnly : Bool := false

end Nmstate
