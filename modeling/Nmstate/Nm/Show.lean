import Mathlib.Data.List.ReduceOption
import Nmstate.Nm.Api

namespace Nmstate

variable {N : NestedTypes}

/-- Modelled from the spec: `NmDeviceState` is not under src/; NetworkManager's device states. -/
inductive NmDeviceState where
  | unknown | unmanaged | unavailable | disconnected | prepare | config | needAuth | ipConfig
  | ipCheck | secondaries | activated | deactivating | failed
  deriving DecidableEq, Repr

/-- `NmDevice` with the fields `nm_retrieve` reads besides those of the apply path. -/
structure NmShowDevice extends NmDevice where
  state : NmDeviceState
  real : Bool
  macAddress : String
  deriving DecidableEq, Repr

def NM_ACTIVATION_STATE_FLAG_EXTERNAL : UInt32 := 0x80

/-- `(state_flag & NM_ACTIVATION_STATE_FLAG_EXTERNAL) > 0`: an activation NetworkManager did not
make itself. -/
def NmActiveConnection.isExternal (nmAc : NmActiveConnection) : Bool :=
  nmAc.stateFlags &&& NM_ACTIVATION_STATE_FLAG_EXTERNAL > 0

/-- The two MKA keys of a profile's MACsec setting that `iface_get` copies. -/
structure NmSettingMacSec where
  mkaCkn : Option String := none
  mkaCak : Option String := none
  deriving DecidableEq, Repr

structure MacSecConfig where
  mkaCkn : Option String := none
  mkaCak : Option String := none
  deriving DecidableEq, Repr

/-- What an `Interface` of show.rs holds beyond its `BaseInterface`: a bond's options with their
`balance_slb`, or a MACsec interface's config. -/
inductive InterfaceExtra where
  | none
  | bond (balanceSlb : Option Bool)
  | macsec (config : Option MacSecConfig)
  deriving DecidableEq, Repr

/-- `Interface`, as the conversions of show.rs build it: its kind is its base's `iface_type`. -/
structure Interface (N : NestedTypes) where
  base : BaseInterface N
  extra : InterfaceExtra := .none

/-- Modelled from the spec: the functions show.rs calls that are not under src/, and the
constant `InterfaceType::SUPPORTED_LIST`. `Neighbor` is `NmLldpNeighbor`. -/
structure ShowHelpers (N : NestedTypes) where
  Neighbor : Type
  nmDevIfaceTypeToNmstate : NmShowDevice → InterfaceType
  nmIpSettingToNmstate4 : NmConnection → Option N.InterfaceIpv4
  nmIpSettingToNmstate6 : String → NmConnection → Option N.InterfaceIpv6
  queryNmstateWaitIp : NmConnection → Option WaitAllowIpState
  getDescription : NmConnection → Option String
  getLldp : List Neighbor → N.LldpConfig
  defaultLldp : N.LldpConfig
  nm8021xToNmstate : NmConnection → Option N.Ieee8021XConfig
  isLldpEnabled : NmConnection → Bool
  getBondBalanceSlb : NmConnection → Option Bool
  macsec : NmConnection → Option NmSettingMacSec
  deviceLldpNeighborGet : String → Except NmstateError (List Neighbor)
  createIndexForNmConnsByNameType : List NmConnection → String → NmIfaceType → List NmConnection
  createIndexForNmAcsByNameType :
    List NmActiveConnection → String → NmIfaceType → Option NmActiveConnection
  getSupportedVpnIfaces :
    (String → Option NmConnection) → List NmActiveConnection → Except NmstateError (List (Interface N))
  supportedList : List InterfaceType

/-- `get_identifier_and_mac`: a profile that pins a non-empty MAC address is identified by it and
reports it; any other is identified by name and reports no MAC. -/
def getIdentifierAndMac (nmConn : NmConnection) : Option InterfaceIdentifier × Option String :=
  match nmConn.wiredMacAddress with
  | some mac => if mac.isEmpty then (some .name, none) else (some .macAddress, some mac)
  | none => (some .name, none)

/-- `get_connection_name`: the saved profile's id when it has the applied profile's uuid, else
the applied profile's. -/
def getConnectionName (nmConn : NmConnection) (savedNmConn : Option NmConnection) : Option String :=
  match savedNmConn with
  | some saved => if saved.uuid = nmConn.uuid then saved.id else nmConn.id
  | none => nmConn.id

/-- `nm_conn_to_base_iface`: a profile with an interface name (or a VPN profile with an id) as
an interface that is up. -/
def nmConnToBaseIface (helpers : ShowHelpers N) (nmDev : Option NmShowDevice) (nmConn : NmConnection)
    (nmSavedConn : Option NmConnection) (lldpNeighbors : Option (List helpers.Neighbor)) :
    Option (BaseInterface N) :=
  match nmConn.ifaceName.orElse fun _ => if nmConn.ifaceType = some .vpn then nmConn.id else none with
  | some ifaceName =>
    let profileName := getConnectionName nmConn nmSavedConn
    some
      { name := ifaceName
        state := .up
        ifaceType := match nmDev with
          | some nmDev => helpers.nmDevIfaceTypeToNmstate nmDev
          | none => .unknown
        ipv4 := helpers.nmIpSettingToNmstate4 nmConn
        ipv6 := helpers.nmIpSettingToNmstate6 ifaceName nmConn
        waitIp := helpers.queryNmstateWaitIp nmConn
        description := helpers.getDescription nmConn
        identifier := (getIdentifierAndMac nmConn).1
        macAddress := (getIdentifierAndMac nmConn).2
        profileName := if profileName = some ifaceName then none else profileName
        lldp := some ((lldpNeighbors.map helpers.getLldp).getD helpers.defaultLldp)
        ieee8021x := match nmSavedConn with
          | some saved => helpers.nm8021xToNmstate saved
          | none => none }
  | none => none

/-- `iface_get`: the interface of a profile applied to a device, for the kinds show.rs builds. -/
def ifaceGet (helpers : ShowHelpers N) (nmDev : NmShowDevice) (nmConn : NmConnection)
    (nmSavedConn : Option NmConnection) (lldpNeighbors : Option (List helpers.Neighbor)) :
    Option (Interface N) :=
  match nmConnToBaseIface helpers (some nmDev) nmConn nmSavedConn lldpNeighbors with
  | some baseIface =>
    match baseIface.ifaceType with
    | .linuxBridge | .ethernet | .ovsInterface | .dummy | .vlan | .vxlan | .macVlan | .macVtap
    | .vrf | .ovsBridge | .loopback | .hsr | .ipVlan => some { base := baseIface }
    | .bond => some { base := baseIface, extra := .bond (helpers.getBondBalanceSlb nmConn) }
    | .macSec =>
      some { base := baseIface, extra := .macsec ((helpers.macsec nmConn).map fun macsecSet =>
        { mkaCkn := macsecSet.mkaCkn
          mkaCak := ((nmSavedConn.bind helpers.macsec).bind NmSettingMacSec.mkaCak) }) }
    | _ => none
  | none => none

/-- Veth devices are looked up as ethernet. -/
def nmIfaceTypeForLookup (nmIfaceType : NmIfaceType) : NmIfaceType :=
  if nmIfaceType = .veth then .ethernet else nmIfaceType

/-- `get_first_nm_conn`. -/
def getFirstNmConn (nmConnsNameTypeIndex : String → NmIfaceType → List NmConnection) (name : String)
    (nmIfaceType : NmIfaceType) : Option NmConnection :=
  (nmConnsNameTypeIndex name (nmIfaceTypeForLookup nmIfaceType)).head?

/-- `get_nm_ac`. -/
def getNmAc (nmAcsNameTypeIndex : String → NmIfaceType → Option NmActiveConnection) (name : String)
    (nmIfaceType : NmIfaceType) : Option NmActiveConnection :=
  nmAcsNameTypeIndex name (nmIfaceTypeForLookup nmIfaceType)

/-- The state `nm_dev_to_nm_iface` gives a device: ignored when unmanaged (none when the
unmanaged device is not real), down when disconnected, up otherwise. -/
def nmDevIfaceState (nmDev : NmShowDevice) : Option InterfaceState :=
  match nmDev.state with
  | .unmanaged => if !nmDev.real then none else some .ignore
  | .disconnected => some .down
  | _ => some .up

/-- `nm_dev_to_nm_iface`: a device as an interface with no profile data. An unmanaged device is
ignored, or left out if not real; a kind show.rs does not build is ignored, or left out as an
OVS port. -/
def nmDevToNmIface (helpers : ShowHelpers N) (nmDev : NmShowDevice) : Option (Interface N) :=
  if nmDev.name.isEmpty then none
  else
    match nmDevIfaceState nmDev with
    | none => none
    | some state =>
      let baseIface : BaseInterface N :=
        { name := nmDev.name, state, ifaceType := helpers.nmDevIfaceTypeToNmstate nmDev }
      match baseIface.ifaceType with
      | .ethernet | .dummy | .linuxBridge | .ovsInterface | .ovsBridge | .bond | .vlan | .vxlan
      | .macVlan | .macVtap | .vrf | .loopback | .macSec | .hsr | .infiniBand | .ipVlan =>
        some { base := baseIface }
      | ifaceType =>
        if ifaceType = .other "ovs-port" then none
        else
          let baseIface := { baseIface with state := .ignore }
          if baseIface.name = "lo" then some { base := { baseIface with ifaceType := .loopback } }
          else
            some { base := if !nmDev.macAddress.isEmpty then { baseIface with ifaceType := .unknown }
              else baseIface }

/-- The OVS `netdev` datapath shows a tun device beside its OVS interface; only the latter is
kept. -/
def isOvsNetdevTun (nmDevs : List NmShowDevice) (nmDev : NmShowDevice) : Bool :=
  nmDev.ifaceType == .other "tun" &&
    nmDevs.any fun n => n.name == nmDev.name && n.ifaceType == .ovsIface

/-- The body of the device loop of `nm_retrieve`: the interface it appends for one device, if
any. The LLDP neighbor query is the only call that can fail. -/
def retrieveDevice (helpers : ShowHelpers N) (runningConfigOnly : Bool) (nmDevs : List NmShowDevice)
    (nmConnsNameTypeIndex : String → NmIfaceType → List NmConnection)
    (nmSavedConnUuidIndex : String → Option NmConnection)
    (nmAcsNameTypeIndex : String → NmIfaceType → Option NmActiveConnection)
    (nmDev : NmShowDevice) : Except NmstateError (Option (Interface N)) :=
  if isOvsNetdevTun nmDevs nmDev then pure none
  else if nmDev.name = "ip_vti0" then pure none
  else match nmDev.state with
    | .unmanaged | .disconnected => pure (nmDevToNmIface helpers nmDev)
    | _ =>
      let nmAc := getNmAc nmAcsNameTypeIndex nmDev.name nmDev.ifaceType
      if nmAc.map NmActiveConnection.isExternal = some true then pure (nmDevToNmIface helpers nmDev)
      else match getFirstNmConn nmConnsNameTypeIndex nmDev.name nmDev.ifaceType with
        | none => pure none
        | some nmConn => do
          let nmSavedConn := nmAc.bind fun nmAc => nmSavedConnUuidIndex nmAc.uuid
          let lldpNeighbors ← if helpers.isLldpEnabled nmConn then
              if runningConfigOnly then pure (some [])
              else some <$> helpers.deviceLldpNeighborGet nmDev.objPath
            else pure none
          pure (ifaceGet helpers nmDev nmConn nmSavedConn lldpNeighbors)

/-- The saved profiles by uuid: a later profile of the same uuid replaces an earlier one. -/
def nmSavedConnUuidIndex (nmSavedConns : List NmConnection) (uuid : String) : Option NmConnection :=
  (nmSavedConns.filter fun nmSavedConn => nmSavedConn.uuid = some uuid).getLast?

/-- The body of the pass of `nm_retrieve` that leaves alone every interface of a kind nmstate
does not support: it is marked as ignored. -/
def markIgnoredIfUnsupported (supportedList : List InterfaceType) (iface : Interface N) :
    Interface N :=
  if supportedList.contains iface.base.ifaceType then iface
  else { iface with base := { iface.base with state := .ignore } }

def markUnsupportedIgnored (supportedList : List InterfaceType) (ifaces : List (Interface N)) :
    List (Interface N) :=
  ifaces.map (markIgnoredIfUnsupported supportedList)

/-- The interfaces part of `nm_retrieve`: the device loop, the VPN interfaces, and the pass that
marks every interface of a kind nmstate does not support as ignored. The DNS, dispatch-script
and OVS `netdev` steps that follow are left out. -/
def nmRetrieveInterfaces (helpers : ShowHelpers N) (runningConfigOnly : Bool)
    (nmConns : List NmConnection) (nmDevs : List NmShowDevice) (nmSavedConns : List NmConnection)
    (nmAcs : List NmActiveConnection) : Except NmstateError (List (Interface N)) := do
  let nmConnsNameTypeIndex := helpers.createIndexForNmConnsByNameType nmConns
  let nmAcsNameTypeIndex := helpers.createIndexForNmAcsByNameType nmAcs
  let found ← nmDevs.mapM (retrieveDevice helpers runningConfigOnly nmDevs nmConnsNameTypeIndex
    (nmSavedConnUuidIndex nmSavedConns) nmAcsNameTypeIndex)
  let vpnIfaces ← helpers.getSupportedVpnIfaces (nmSavedConnUuidIndex nmSavedConns) nmAcs
  pure (markUnsupportedIgnored helpers.supportedList (found.reduceOption ++ vpnIfaces))

end Nmstate
