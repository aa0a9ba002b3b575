import Nmstate.Base
import Nmstate.Merged
import Nmstate.NmDbus.Value
import Nmstate.NmDbus.Setting
import Nmstate.Nispor.Route
import Nmstate.Nm.Api
import Nmstate.Nm.DeleteIfaces
import Nmstate.Nm.Apply
import Nmstate.NmDbus.GlibPath
import Nmstate.Nm.ApplyLog
import Nmstate.NmDbus.RoundTrip
import Nmstate.Nm.Show
import Nmstate.Nispor.Vrf
import Nmstate.Nm.Vpn
import Nmstate.NmDbus.ActiveConnection
