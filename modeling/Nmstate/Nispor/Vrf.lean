import Mathlib.Data.String.Basic
import Nmstate.Base

namespace Nmstate

/-- The VRF part of a `nispor::Iface`: its routing table and the interfaces enslaved to it. -/
structure Nispor.VrfInfo where
  tableId : UInt32
  subordinates : List String
  deriving DecidableEq, Repr

/-- The one field of `nispor::Iface` that `np_vrf_to_nmstate` reads. -/
structure Nispor.Iface where
  vrf : Option Nispor.VrfInfo
  deriving DecidableEq, Repr

/-- `VrfConfig`. -/
structure VrfConfig where
  tableId : Option UInt32
  port : Option (List String)
  deriving DecidableEq, Repr

/-- `VrfInterface`. -/
structure VrfInterface (N : NestedTypes) where
  base : BaseInterface N
  vrf : Option VrfConfig

variable {N : NestedTypes}

/-- `np_vrf_to_nmstate`. Rust orders strings by their UTF-8 bytes, which is the order of their
characters that Lean's `≤` is; and `sort_unstable` gives what the stable `mergeSort` gives, since
two strings that compare equal are the same string. -/
def npVrfToNmstate (npIface : Nispor.Iface) (baseIface : BaseInterface N) : VrfInterface N :=
  { base := baseIface
    vrf := npIface.vrf.map fun npVrfInfo =>
      { tableId := some npVrfInfo.tableId
        port := some (npVrfInfo.subordinates.mergeSort fun a b => decide (a ≤ b)) } }

end Nmstate
