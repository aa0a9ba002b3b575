import Nmstate.Nm.DeleteIfaces

namespace Nmstate

variable {N : NestedTypes}

/-- `PerparedNmConnections`: the profiles to store, to activate and to deactivate. -/
structure PerparedNmConnections where
  toStore : List NmConnection
  toActivate : List NmConnection
  toDeactivate : List NmConnection

/-- The functions `nm_apply` calls that are not under src/ and make no D-Bus call, taken as
given. Those that change the merged state return the interfaces they leave; the rest of the
state they do not touch. -/
structure ApplyHelpers (N : NestedTypes) where
  nm : NmHelpers N
  storeRouteConfig : MergedNetworkState N → Except NmstateError (MergedInterfaces N)
  storeRouteRuleConfig : MergedNetworkState N → Except NmstateError (MergedInterfaces N)
  curDnsIfacesStillValidForDns : MergedInterfaces N → Bool
  isIfaceDnsDesired : MergedNetworkState N → Bool
  storeDnsSearchOrOptionToIface : MergedNetworkState N → List NmActiveConnection → List NmDevice →
    Except NmstateError (MergedInterfaces N)
  storeDnsConfigToIface : MergedNetworkState N → List NmActiveConnection → List NmDevice →
    Except NmstateError (MergedInterfaces N)
  perpareNmConns : MergedNetworkState N → List NmConnection → List NmActiveConnection → Bool →
    Except NmstateError PerparedNmConnections
  isRouteRemoved : NmConnection → NmConnection → Bool
  isVrfTableIdChanged : NmConnection → NmConnection → Bool
  isVlanChanged : NmConnection → NmConnection → Bool
  isVxlanChanged : NmConnection → NmConnection → Bool
  isVethPeerChanged : NmConnection → NmConnection → Bool
  isMptcpFlagsChanged : NmConnection → NmConnection → Bool
  isIpvlanChanged : NmConnection → NmConnection → Bool
  /-- the uuids `delete_exist_profiles` deletes, from the existing profiles and those stored -/
  existProfilesToDelete : List NmConnection → List NmConnection → List String
  /-- the uuids `delete_orphan_ovs_ports` deletes -/
  orphanOvsPortsToDelete : MergedInterfaces N → List NmConnection → List NmConnection → List String
  applyDispatchScript : MergedInterfaces N → Except NmstateError Unit

/-- Modelled from the spec: `purge_global_dns_config` is not under src/; it clears
NetworkManager's global DNS configuration. -/
def purgeGlobalDnsConfig : NmM Unit := NmApi.call .globalDnsPurge

/-- Modelled from the spec: `store_dns_config_via_global_api` is not under src/; it writes the
servers, searches and options as NetworkManager's global DNS configuration. -/
def storeDnsConfigViaGlobalApi (servers searches options : List String) : NmM Unit :=
  NmApi.call (.globalDnsSet servers searches options)

/-- Modelled from the spec: `save_nm_profiles` is not under src/; it adds or updates each
profile, in memory only when asked. -/
def saveNmProfiles (nmConns : List NmConnection) (memoryOnly : Bool) : NmM Unit :=
  nmConns.forM fun nmConn => NmApi.call (.connectionAdd nmConn memoryOnly)

/-- Modelled from the spec: `activate_nm_profiles` is not under src/; it activates each profile. -/
def activateNmProfiles (nmConns : List NmConnection) : NmM Unit :=
  nmConns.forM fun nmConn => match nmConn.uuid with
    | some uuid => NmApi.call (.connectionActivate uuid)
    | none => pure ()

/-- Modelled from the spec: `deactivate_nm_profiles` is not under src/; it deactivates each
profile. -/
def deactivateNmProfiles (nmConns : List NmConnection) : NmM Unit :=
  nmConns.forM fun nmConn => match nmConn.uuid with
    | some uuid => NmApi.call (.connectionDeactivate uuid)
    | none => pure ()

/-- Modelled from the spec: `delete_exist_profiles` is not under src/; it deletes the uuids it
selects among the existing profiles. -/
def deleteExistProfiles (helpers : ApplyHelpers N) (existNmConns nmConnsToStore : List NmConnection) :
    NmM Unit :=
  deleteConnections (helpers.existProfilesToDelete existNmConns nmConnsToStore)

/-- Modelled from the spec: `delete_orphan_ovs_ports` is not under src/; it deletes the uuids
it selects among the existing OVS port profiles. -/
def deleteOrphanOvsPorts (helpers : ApplyHelpers N) (mergedIfaces : MergedInterfaces N)
    (existNmConns nmConnsToActivate : List NmConnection) : NmM Unit :=
  deleteConnections (helpers.orphanOvsPortsToDelete mergedIfaces existNmConns nmConnsToActivate)

def getDefaultPvidChangedBrs (mergedIface : MergedInterfaces N) : List String :=
  mergedIface.kernelIfaces.filterMap fun i => if i.isDefaultPvidChanged then some i.merged.name else none

def isBridgePortChangedDefaultPvid (nmConn : NmConnection) (defaultPvidChangedBrs : List String) :
    Bool :=
  if nmConn.controllerType = some .bridge then
    match nmConn.controller with
    | some ctrlName => defaultPvidChangedBrs.contains ctrlName
    | none => false
  else false

def getBondPortsWithQueueIdChanged (mergedIface : MergedInterfaces N) : List String :=
  (mergedIface.kernelIfaces.filter fun i =>
    (i.isDesired || i.isChanged) && i.merged.ifaceType == .bond).flatMap
      MergedInterface.bondPortsWithQueueIdChanged

def isBondPortQueueIdChanged (nmConn : NmConnection) (changedPorts : List String) : Bool :=
  if nmConn.controllerType = some .bond then
    match nmConn.ifaceName with
    | some ifaceName => changedPorts.contains ifaceName
    | none => false
  else false

/-- `gen_nm_conn_need_to_deactivate_first`: the active counterparts, by uuid, of the profiles
to activate whose change NetworkManager cannot reapply in place. -/
def genNmConnNeedToDeactivateFirst (helpers : ApplyHelpers N) (mergedIface : MergedInterfaces N)
    (nmConnsToActivate activatedNmConns : List NmConnection) : List NmConnection :=
  let defaultPvidChangedBrs := getDefaultPvidChangedBrs mergedIface
  let bondQueueIdChangedPorts := getBondPortsWithQueueIdChanged mergedIface
  nmConnsToActivate.filterMap fun nmConn =>
    match nmConn.uuid with
    | some uuid =>
      match activatedNmConns.find? fun c => c.uuid == some uuid with
      | some activatedNmCon =>
        if helpers.isRouteRemoved nmConn activatedNmCon
            || helpers.isVrfTableIdChanged nmConn activatedNmCon
            || helpers.isVlanChanged nmConn activatedNmCon
            || helpers.isVxlanChanged nmConn activatedNmCon
            || helpers.isVethPeerChanged nmConn activatedNmCon
            || helpers.isMptcpFlagsChanged nmConn activatedNmCon
            || nmConn.ifaceType == some .vpn
            || isBridgePortChangedDefaultPvid nmConn defaultPvidChangedBrs
            || isBondPortQueueIdChanged nmConn bondQueueIdChangedPorts
            || helpers.isIpvlanChanged nmConn activatedNmCon then
          some activatedNmCon
        else none
      | none => none
    | none => none

/-- `store_route_config` then `store_route_rule_config` on the cloned merged state: the
interfaces they leave. -/
def storeRoutes (helpers : ApplyHelpers N) (mergedState : MergedNetworkState N) :
    Except NmstateError (MergedInterfaces N) := do
  let ifaces ← helpers.storeRouteConfig mergedState
  helpers.storeRouteRuleConfig { mergedState with interfaces := ifaces }

/-- The condition of the DNS step: the DNS state changed or is desired, or the current DNS
interfaces no longer hold it. -/
def dnsNeedsUpdate (helpers : ApplyHelpers N) (mergedState : MergedNetworkState N) : Bool :=
  mergedState.dns.isChanged || mergedState.dns.isDesired ||
    !helpers.curDnsIfacesStillValidForDns mergedState.interfaces

/-- The DNS step of `nm_apply`: purge the global DNS, then store the DNS config into interface
profiles or through the global API. It returns the interfaces it leaves. -/
def applyDns (helpers : ApplyHelpers N) (mergedState : MergedNetworkState N)
    (nmAcs : List NmActiveConnection) (nmDevs : List NmDevice) : NmM (MergedInterfaces N) := do
  if dnsNeedsUpdate helpers mergedState then
    purgeGlobalDnsConfig
    if mergedState.dns.isSearchOrOptionOnly then
      MonadExcept.ofExcept (helpers.storeDnsSearchOrOptionToIface mergedState nmAcs nmDevs)
    else if helpers.isIfaceDnsDesired mergedState then
      match helpers.storeDnsConfigToIface mergedState nmAcs nmDevs with
      | .ok ifaces => pure ifaces
      | .error _ =>
        storeDnsConfigViaGlobalApi mergedState.dns.servers mergedState.dns.searches
          mergedState.dns.options
        pure mergedState.interfaces
    else if mergedState.dns.isPurge then
      match helpers.storeDnsConfigToIface mergedState nmAcs nmDevs with
      | .ok ifaces => pure ifaces
      | .error _ => pure mergedState.interfaces
    else
      storeDnsConfigViaGlobalApi mergedState.dns.servers mergedState.dns.searches
        mergedState.dns.options
      pure mergedState.interfaces
  else
    pure mergedState.interfaces

/-- `nm_apply`, from the first call on the backend. The checkpoint settings and the version
check only set fields and log, and are left out. -/
def nmApply (helpers : ApplyHelpers N) (mergedState : MergedNetworkState N) : NmM Unit := do
  (if !mergedState.memoryOnly then deleteIfaces helpers.nm mergedState else pure ())
  (match mergedState.hostname.desired.bind HostNameState.config with
    | some hostname => if mergedState.memoryOnly then pure () else NmApi.hostnameSet hostname
    | none => pure ())
  let existNmConns ← NmApi.connectionsGet
  let nmAcs ← NmApi.activeConnectionsGet
  let nmDevs ← NmApi.devicesGet
  let routed ← MonadExcept.ofExcept (storeRoutes helpers mergedState)
  let ifaces ← applyDns helpers { mergedState with interfaces := routed } nmAcs nmDevs
  let mergedState := { mergedState with interfaces := ifaces }
  let prepared ← MonadExcept.ofExcept (helpers.perpareNmConns mergedState existNmConns nmAcs false)
  let nmAcUuids := nmAcs.map NmActiveConnection.uuid
  let activatedNmConns := existNmConns.filter fun c =>
    match c.uuid with
    | some uuid => nmAcUuids.contains uuid
    | none => false
  let nmConnsToDeactivateFirst :=
    genNmConnNeedToDeactivateFirst helpers mergedState.interfaces prepared.toActivate activatedNmConns
  deactivateNmProfiles nmConnsToDeactivateFirst
  saveNmProfiles prepared.toStore mergedState.memoryOnly
  (if !mergedState.memoryOnly then do
      deleteExistProfiles helpers existNmConns prepared.toStore
      deleteOrphanOvsPorts helpers mergedState.interfaces existNmConns prepared.toActivate
    else pure ())
  activateNmProfiles prepared.toActivate
  deactivateNmProfiles prepared.toDeactivate
  MonadExcept.ofExcept (helpers.applyDispatchScript mergedState.interfaces)

/-- A call after which NetworkManager keeps nothing across a restart that it did not keep
before: no deletion, no hostname, no global DNS write, and only memory-only saves. -/
def NmCall.PersistsNothing : NmCall → Prop
  | .connectionDelete _ | .hostnameSet _ | .globalDnsPurge | .globalDnsSet _ _ _ => False
  | .connectionAdd _ memoryOnly => memoryOnly = true
  | _ => True

def NmCall.WritesGlobalDns : NmCall → Prop
  | .globalDnsPurge | .globalDnsSet _ _ _ => True
  | _ => False

/-- Helpers under which every step of `nm_apply` succeeds and changes nothing: no profile to
store or to (de)activate, and the current DNS interfaces still hold the DNS config. -/
def passiveHelpers : ApplyHelpers unitNested where
  nm := exampleHelpers
  storeRouteConfig mergedState := .ok mergedState.interfaces
  storeRouteRuleConfig mergedState := .ok mergedState.interfaces
  curDnsIfacesStillValidForDns _ := true
  isIfaceDnsDesired _ := false
  storeDnsSearchOrOptionToIface mergedState _ _ := .ok mergedState.interfaces
  storeDnsConfigToIface mergedState _ _ := .ok mergedState.interfaces
  perpareNmConns _ _ _ _ := .ok ⟨[], [], []⟩
  isRouteRemoved _ _ := false
  isVrfTableIdChanged _ _ := false
  isVlanChanged _ _ := false
  isVxlanChanged _ _ := false
  isVethPeerChanged _ _ := false
  isMptcpFlagsChanged _ _ := false
  isIpvlanChanged _ _ := false
  existProfilesToDelete _ _ := []
  orphanOvsPortsToDelete _ _ _ := []
  applyDispatchScript _ := .ok ()

/-- A memory-only merged state whose DNS config changed to one name server. -/
def memoryOnlyDnsState : MergedNetworkState unitNested where
  interfaces := {}
  dns := { isChanged := true, servers := ["192.0.2.53"] }
  memoryOnly := true

section MemoryOnly

variable {ok : NmCall → Prop}

theorem saveNmProfiles_moves (nmConns : List NmConnection) (memoryOnly : Bool)
    (saved : ∀ nmConn, ok (.connectionAdd nmConn memoryOnly)) :
    (saveNmProfiles nmConns memoryOnly).Moves (NmRun.callsOnly ok) :=
  NmM.moves_forM fun nmConn _ => NmM.moves_call _ (NmRun.callsOnly_log (saved nmConn))

theorem activateNmProfiles_moves (nmConns : List NmConnection)
    (activated : ∀ uuid, ok (.connectionActivate uuid)) :
    (activateNmProfiles nmConns).Moves (NmRun.callsOnly ok) := by
  refine NmM.moves_forM fun nmConn _ => ?_
  split
  · exact NmM.moves_call _ (NmRun.callsOnly_log (activated _))
  · exact NmM.moves_pure _ _

theorem deactivateNmProfiles_moves (nmConns : List NmConnection)
    (deactivated : ∀ uuid, ok (.connectionDeactivate uuid)) :
    (deactivateNmProfiles nmConns).Moves (NmRun.callsOnly ok) := by
  refine NmM.moves_forM fun nmConn _ => ?_
  split
  · exact NmM.moves_call _ (NmRun.callsOnly_log (deactivated _))
  · exact NmM.moves_pure _ _

/-- The DNS step writes the global DNS configuration only when the DNS state needs an update,
and makes no other call. -/
theorem applyDns_moves (helpers : ApplyHelpers N) (mergedState : MergedNetworkState N)
    (nmAcs : List NmActiveConnection) (nmDevs : List NmDevice)
    (written : dnsNeedsUpdate helpers mergedState = true → ∀ c, c.WritesGlobalDns → ok c) :
    (applyDns helpers mergedState nmAcs nmDevs).Moves (NmRun.callsOnly ok) := by
  unfold applyDns
  split
  · rename_i needed
    have globalWrite := fun c writes => NmRun.callsOnly_log (written needed c writes)
    refine NmM.moves_bind (NmM.moves_call _ (globalWrite _ trivial)) fun _ => ?_
    split
    · exact NmM.moves_ofExcept _ _
    · split
      · split
        · exact NmM.moves_pure _ _
        · exact NmM.moves_bind (NmM.moves_call _ (globalWrite _ trivial)) fun _ => NmM.moves_pure _ _
      · split
        · split <;> exact NmM.moves_pure _ _
        · exact NmM.moves_bind (NmM.moves_call _ (globalWrite _ trivial)) fun _ => NmM.moves_pure _ _
  · exact NmM.moves_pure _ _

/-- With `memory_only`, `nm_apply` deletes nothing, sets no hostname and saves in memory only;
it can still write NetworkManager's global DNS, in the DNS step, when the DNS state with the
routes stored needs an update. -/
theorem nmApply_memory_only_persists_only_dns (helpers : ApplyHelpers N)
    (mergedState : MergedNetworkState N) (memoryOnly : mergedState.memoryOnly = true)
    (api : NmApi) :
    ∃ new, ((nmApply helpers mergedState).finalState api).calls = api.calls ++ new ∧
      ∀ c ∈ new, c.PersistsNothing ∨ (c.WritesGlobalDns ∧ ∃ routed,
        storeRoutes helpers mergedState = .ok routed ∧
          dnsNeedsUpdate helpers { mergedState with interfaces := routed } = true) := by
  revert api
  show (nmApply helpers mergedState).Moves (NmRun.callsOnly _)
  unfold nmApply
  refine NmM.moves_bind ?deletion fun _ => NmM.moves_bind ?hostname fun _ => ?_
  case deletion => simpa [memoryOnly] using NmM.moves_pure _ PUnit.unit
  case hostname => split <;> simpa [memoryOnly] using NmM.moves_pure _ ()
  refine NmM.moves_bind (NmM.moves_query _ NmApi.connectionsGet_apply
    (NmRun.callsOnly_log (.inl trivial))) fun existNmConns => ?_
  refine NmM.moves_bind (NmM.moves_query _ NmApi.activeConnectionsGet_apply
    (NmRun.callsOnly_log (.inl trivial))) fun nmAcs => ?_
  refine NmM.moves_bind (NmM.moves_query _ NmApi.devicesGet_apply
    (NmRun.callsOnly_log (.inl trivial))) fun nmDevs => ?_
  refine NmM.moves_ofExcept_bind fun routed stored => ?_
  refine NmM.moves_bind (applyDns_moves _ _ _ _ fun needed c writes =>
    .inr ⟨writes, routed, stored, needed⟩) fun ifaces => ?_
  refine NmM.moves_ofExcept_bind fun prepared _ => ?_
  refine NmM.moves_bind (deactivateNmProfiles_moves _ fun _ => .inl trivial) fun _ => ?_
  refine NmM.moves_bind (saveNmProfiles_moves _ _ fun _ => .inl memoryOnly) fun _ => ?_
  refine NmM.moves_bind (by simpa [memoryOnly] using NmM.moves_pure _ PUnit.unit) fun _ => ?_
  refine NmM.moves_bind (activateNmProfiles_moves _ fun _ => .inl trivial) fun _ => ?_
  exact NmM.moves_bind (deactivateNmProfiles_moves _ fun _ => .inl trivial) fun _ =>
    NmM.moves_ofExcept _ _

theorem nmApply_memory_only_persists_only_dns_sample :
    ∃ new, ((nmApply passiveHelpers memoryOnlyDnsState).finalState { conns := [] }).calls = [] ++ new ∧
      ∀ c ∈ new, c.PersistsNothing ∨ (c.WritesGlobalDns ∧ ∃ routed,
        storeRoutes passiveHelpers memoryOnlyDnsState = .ok routed ∧
          dnsNeedsUpdate passiveHelpers { memoryOnlyDnsState with interfaces := routed } = true) :=
  nmApply_memory_only_persists_only_dns passiveHelpers memoryOnlyDnsState rfl { conns := [] }

/-- A memory-only apply whose DNS config changed purges NetworkManager's global DNS
configuration and writes the new one there. -/
theorem nmApply_memory_only_writes_global_dns :
    ¬ ∀ (helpers : ApplyHelpers unitNested) (mergedState : MergedNetworkState unitNested)
      (api : NmApi), mergedState.memoryOnly = true →
      ∃ new, ((nmApply helpers mergedState).finalState api).calls = api.calls ++ new ∧
        ∀ c ∈ new, c.PersistsNothing := by
  intro persistsNothing
  obtain ⟨new, calls, allowed⟩ := persistsNothing passiveHelpers memoryOnlyDnsState { conns := [] } rfl
  have ran : ((nmApply passiveHelpers memoryOnlyDnsState).finalState { conns := [] }).calls =
      [.connectionsGet, .activeConnectionsGet, .devicesGet, .globalDnsPurge,
        .globalDnsSet ["192.0.2.53"] [] []] := rfl
  rw [ran, List.nil_append] at calls
  exact allowed .globalDnsPurge (by simp [← calls])

end MemoryOnly


section DeactivateFirst

theorem mem_getDefaultPvidChangedBrs {mergedIface : MergedInterfaces N} {br : MergedInterface N}
    (kernel : br ∈ mergedIface.kernelIfaces) (pvidChanged : br.isDefaultPvidChanged = true) :
    br.merged.name ∈ getDefaultPvidChangedBrs mergedIface :=
  List.mem_filterMap.mpr ⟨br, kernel, by simp [pvidChanged]⟩

/-- A port profile to activate whose active counterpart (the first active profile with its
uuid) is deactivated first: whatever the other checks say, a linux-bridge port naming, by
interface name, a bridge whose default PVID changed. -/
theorem genNmConnNeedToDeactivateFirst_bridge_port_by_name (helpers : ApplyHelpers N)
    (mergedIface : MergedInterfaces N) (nmConnsToActivate activatedNmConns : List NmConnection)
    (nmConn activatedNmCon : NmConnection) (uuid : String) (br : MergedInterface N)
    (toActivate : nmConn ∈ nmConnsToActivate) (hasUuid : nmConn.uuid = some uuid)
    (counterpart : activatedNmConns.find? (fun c => c.uuid == some uuid) = some activatedNmCon)
    (bridgePort : nmConn.controllerType = some .bridge) (kernel : br ∈ mergedIface.kernelIfaces)
    (pvidChanged : br.isDefaultPvidChanged = true) (byName : nmConn.controller = some br.merged.name) :
    activatedNmCon ∈
      genNmConnNeedToDeactivateFirst helpers mergedIface nmConnsToActivate activatedNmConns := by
  have reactivated : isBridgePortChangedDefaultPvid nmConn (getDefaultPvidChangedBrs mergedIface) :=
    by simp [isBridgePortChangedDefaultPvid, bridgePort, byName,
      mem_getDefaultPvidChangedBrs kernel pvidChanged]
  refine List.mem_filterMap.mpr ⟨nmConn, toActivate, ?_⟩
  simp only [hasUuid, counterpart, reactivated, Bool.or_true, Bool.true_or, if_true]

/-- The linux bridge br0, whose VLAN default PVID changed. -/
def pvidChangedBr0 : MergedInterface unitNested :=
  { merged := { name := "br0", ifaceType := .linuxBridge, state := .up }
    isDefaultPvidChanged := true }

def pvidChangedBridge : MergedInterfaces unitNested := { kernelIfaces := [pvidChangedBr0] }

def br0Profile : NmConnection :=
  { uuid := some "br0-uuid", id := some "br0", ifaceName := some "br0", ifaceType := some .bridge }

def br0PortByName : NmConnection :=
  { uuid := some "eth1-uuid", id := some "eth1", ifaceName := some "eth1",
    ifaceType := some .ethernet, controller := some "br0", controllerType := some .bridge }

/-- The same port, naming its controller by the bridge profile's uuid. -/
def br0PortByUuid : NmConnection := { br0PortByName with controller := br0Profile.uuid }

theorem genNmConnNeedToDeactivateFirst_bridge_port_by_name_br0 :
    br0PortByName ∈ [br0Profile, br0PortByName] ∧ br0PortByName.uuid = some "eth1-uuid" ∧
      [br0Profile, br0PortByName].find? (fun c => c.uuid == some "eth1-uuid") = some br0PortByName ∧
      br0PortByName.controllerType = some .bridge ∧
      pvidChangedBr0 ∈ pvidChangedBridge.kernelIfaces ∧ pvidChangedBr0.isDefaultPvidChanged = true ∧
      br0PortByName.controller = some pvidChangedBr0.merged.name ∧
      br0PortByName ∈ genNmConnNeedToDeactivateFirst passiveHelpers pvidChangedBridge
        [br0Profile, br0PortByName] [br0Profile, br0PortByName] :=
  ⟨by decide, rfl, by decide, rfl, List.mem_singleton_self _, rfl, rfl,
    genNmConnNeedToDeactivateFirst_bridge_port_by_name passiveHelpers pvidChangedBridge _ _
      br0PortByName br0PortByName "eth1-uuid" pvidChangedBr0 (by decide) rfl (by decide) rfl
      (List.mem_singleton_self _) rfl rfl⟩

/-- A port that names br0 by its profile's uuid is not deactivated first, although br0's
default PVID changed and the port is active: the bridge list holds interface names only. -/
theorem genNmConnNeedToDeactivateFirst_misses_port_by_uuid :
    br0Profile ∈ [br0Profile, br0PortByUuid] ∧ br0PortByUuid.controller = br0Profile.uuid ∧
      br0Profile.ifaceName = some "br0" ∧ "br0" ∈ getDefaultPvidChangedBrs pvidChangedBridge ∧
      br0PortByUuid.controllerType = some .bridge ∧
      [br0Profile, br0PortByUuid].find? (fun c => c.uuid == br0PortByUuid.uuid) = some br0PortByUuid ∧
      br0PortByUuid ∉ genNmConnNeedToDeactivateFirst passiveHelpers pvidChangedBridge
        [br0Profile, br0PortByUuid] [br0Profile, br0PortByUuid] := by
  decide

end DeactivateFirst

end Nmstate
