import Nmstate.Merged
import Nmstate.Nm.Api

namespace Nmstate

variable {N : NestedTypes}

/-- The functions `delete_ifaces` calls that are not under src/, taken as given. -/
structure NmHelpers (N : NestedTypes) where
  /-- `is_uuid` -/
  isUuid : String → Bool
  /-- `iface_type_to_nm` -/
  ifaceTypeToNm : InterfaceType → Except NmstateError NmIfaceType
  /-- which profiles `get_match_ipsec_nm_conn` picks for the IPsec interface of a name -/
  ipsecMatches : String → NmConnection → Bool
  /-- `Interface::is_virtual` -/
  isVirtual : BaseInterface N → Bool

/-- Modelled from the spec: `get_match_ipsec_nm_conn` is not under src/. The profiles, in
order, that match the IPsec interface of the name. -/
def getMatchIpsecNmConn (helpers : NmHelpers N) (name : String) (nmConns : List NmConnection) :
    List NmConnection :=
  nmConns.filter (helpers.ipsecMatches name)

/-- Modelled from the spec: `create_index_for_nm_conns_by_name_type` is not under src/. Its
entry for a name and type: the profiles, in order, of that interface name and NM type. -/
def nmConnsByNameType (nmConns : List NmConnection) (name : String) (nmIfaceType : NmIfaceType) :
    List NmConnection :=
  nmConns.filter fun nmConn => nmConn.ifaceName = some name ∧ nmConn.ifaceType = some nmIfaceType

/-- Modelled from the spec: `create_index_for_nm_devs` is not under src/. Its entry for a name
and type: the last device of that name and type, as a map filled in order keeps it. -/
def nmDevsIndexGet (nmDevs : List NmDevice) (name : String) (nmIfaceType : NmIfaceType) :
    Option NmDevice :=
  (nmDevs.filter fun nmDev => nmDev.name = name ∧ nmDev.ifaceType = nmIfaceType).getLast?

/-- The profiles of an absent interface's name and NM type, or of its name alone when its
type is unknown. -/
def nmConnsByIface (helpers : NmHelpers N) (allNmConns : List NmConnection)
    (iface : BaseInterface N) : Except NmstateError (List NmConnection) :=
  if iface.ifaceType = .unknown then
    pure (allNmConns.filter fun nmConn => nmConn.ifaceName = some iface.name)
  else do
    let nmIfaceType ← helpers.ifaceTypeToNm iface.ifaceType
    pure (nmConnsByNameType allNmConns iface.name nmIfaceType)

/-- The profiles whose id is the interface name, for an interface whose current record is
identified by MAC address under that profile name. -/
def nmConnsByProfileName (allNmConns : List NmConnection) (mergedIface : MergedInterface N) :
    List NmConnection :=
  match mergedIface.current with
  | some curIface =>
    if curIface.identifier = some .macAddress ∧ curIface.profileName = some mergedIface.merged.name then
      allNmConns.filter fun nmConn => nmConn.id = some mergedIface.merged.name
    else []
  | none => []

/-- The profiles whose wired MAC is, ignoring case, the MAC of an interface whose current record
is identified by MAC address under that interface name. -/
def nmConnsByMac (allNmConns : List NmConnection) (mergedIface : MergedInterface N) :
    List NmConnection :=
  match mergedIface.current with
  | some curIface =>
    if curIface.identifier = some .macAddress ∧ curIface.name = mergedIface.merged.name then
      match curIface.macAddress with
      | some mac =>
        allNmConns.filter fun nmConn => nmConn.wiredMacAddress.map String.toUpper = some mac.toUpper
      | none => []
    else []
  | none => []

/-- `nm_conns_to_delete` of an absent interface that is not IPsec. -/
def nmConnsToDelete (helpers : NmHelpers N) (allNmConns : List NmConnection)
    (mergedIface : MergedInterface N) : Except NmstateError (List NmConnection) := do
  let byIface ← nmConnsByIface helpers allNmConns mergedIface.merged
  pure (byIface ++ nmConnsByProfileName allNmConns mergedIface ++ nmConnsByMac allNmConns mergedIface)

/-- The uuids deleting one profile adds: its own, and, when its controller is an OVS port, that
port's profile, named by uuid or else by interface name among the OVS port profiles. -/
def nmConnUuidsToDelete (helpers : NmHelpers N) (allNmConns : List NmConnection)
    (nmConn : NmConnection) : List String :=
  nmConn.uuid.toList ++
    if nmConn.controllerType = some .ovsPort then
      match nmConn.controller with
      | some ctrl =>
        if helpers.isUuid ctrl then [ctrl]
        else (nmConnsByNameType allNmConns ctrl .ovsPort).filterMap NmConnection.uuid
      | none => []
    else []

/-- The uuids one changed, absent interface adds to the set. -/
def ifaceUuidsToDelete (helpers : NmHelpers N) (allNmConns : List NmConnection)
    (mergedIface : MergedInterface N) : Except NmstateError (List String) :=
  if mergedIface.merged.ifaceType = .ipsec then
    pure ((getMatchIpsecNmConn helpers mergedIface.merged.name allNmConns).filterMap NmConnection.uuid)
  else do
    let nmConns ← nmConnsToDelete helpers allNmConns mergedIface
    pure (nmConns.flatMap (nmConnUuidsToDelete helpers allNmConns))

/-- `HashSet::insert` on the set of uuids, kept as a list in the order of first insertion. -/
def insertUuid (uuids : List String) (uuid : String) : List String :=
  if uuid ∈ uuids then uuids else uuids ++ [uuid]

/-- The main pass of `delete_ifaces`: the set `uuids_to_delete` over the changed, absent
interfaces, or the first error of `iface_type_to_nm`. -/
def uuidsToDelete (helpers : NmHelpers N) (allNmConns : List NmConnection)
    (ifaces : List (MergedInterface N)) : Except NmstateError (List String) :=
  (ifaces.filter fun i => i.isChanged && i.merged.isAbsent).foldlM
    (fun uuids mergedIface => do
      let found ← ifaceUuidsToDelete helpers allNmConns mergedIface
      pure (found.foldl insertUuid uuids))
    []

/-- The uuids `delete_orphan_ports` deletes: the OVS port profiles whose controller is one of
the uuids deleted. -/
def orphanPortUuids (uuidsDeleted : List String) (allNmConns : List NmConnection) : List String :=
  allNmConns.filterMap fun nmConn =>
    if nmConn.ifaceType = some .ovsPort then
      match nmConn.controller with
      | some ctrlUuid => if ctrlUuid ∈ uuidsDeleted then nmConn.uuid else none
      | none => none
    else none

/-- The loop `for uuid in uuids { nm_api.connection_delete(uuid)? }` of both passes. -/
def deleteConnections (uuids : List String) : NmM Unit := uuids.forM NmApi.connectionDelete

def deleteOrphanPorts (uuidsDeleted : List String) : NmM Unit := do
  let allNmConns ← NmApi.connectionsGet
  deleteConnections (orphanPortUuids uuidsDeleted allNmConns)

/-- `delete_remain_virtual_interface_as_desired`. A failed `device_delete` is only logged, and
the run goes on. -/
def deleteRemainVirtualInterfaceAsDesired (helpers : NmHelpers N)
    (mergedState : MergedNetworkState N) : NmM Unit := do
  let nmDevs ← NmApi.devicesGet
  (mergedState.interfaces.kernelIfaces.filter fun i =>
      i.merged.ifaceType != .ovsInterface && i.isChanged &&
        (i.merged.isAbsent || i.merged.isDown)).forM fun mergedIface => do
    let iface := mergedIface.merged
    if helpers.isVirtual iface then
      let nmIfaceType ← MonadExcept.ofExcept (helpers.ifaceTypeToNm iface.ifaceType)
      match nmDevsIndexGet nmDevs iface.name nmIfaceType with
      | some nmDev => tryCatch (NmApi.deviceDelete nmDev.objPath) fun _ => pure ()
      | none => pure ()

def deleteIfaces (helpers : NmHelpers N) (mergedState : MergedNetworkState N) : NmM Unit := do
  let allNmConns ← NmApi.connectionsGet
  let uuids ← MonadExcept.ofExcept (uuidsToDelete helpers allNmConns mergedState.interfaces.iter)
  deleteConnections uuids
  deleteOrphanPorts uuids
  deleteRemainVirtualInterfaceAsDesired helpers mergedState

/-- A profile an absent interface that is not IPsec names: by interface name and NM type (name
alone for an unknown type), or, for a current record identified by MAC, by profile id or by
wired MAC ignoring case. -/
def ProfileOfIface (helpers : NmHelpers N) (mergedIface : MergedInterface N)
    (nmConn : NmConnection) : Prop :=
  (nmConn.ifaceName = some mergedIface.merged.name ∧
    (mergedIface.merged.ifaceType = .unknown ∨
      ∃ nmIfaceType, helpers.ifaceTypeToNm mergedIface.merged.ifaceType = .ok nmIfaceType ∧
        nmConn.ifaceType = some nmIfaceType)) ∨
  ∃ curIface, mergedIface.current = some curIface ∧ curIface.identifier = some .macAddress ∧
    ((curIface.profileName = some mergedIface.merged.name ∧
        nmConn.id = some mergedIface.merged.name) ∨
      (curIface.name = mergedIface.merged.name ∧ ∃ mac, curIface.macAddress = some mac ∧
        nmConn.wiredMacAddress.map String.toUpper = some mac.toUpper))

/-- `uuid` is the OVS port profile that a profile with an OVS port controller names: by uuid,
or else by interface name among the OVS port profiles. -/
def OvsPortOf (helpers : NmHelpers N) (allNmConns : List NmConnection) (nmConn : NmConnection)
    (uuid : String) : Prop :=
  nmConn.controllerType = some .ovsPort ∧ ∃ ctrl, nmConn.controller = some ctrl ∧
    ((helpers.isUuid ctrl = true ∧ uuid = ctrl) ∨
      (helpers.isUuid ctrl = false ∧ ∃ port ∈ allNmConns, port.ifaceName = some ctrl ∧
        port.ifaceType = some .ovsPort ∧ port.uuid = some uuid))

/-- Why the main pass deletes `uuid`: for a changed, absent interface, the uuid of a profile the
IPsec matcher picks (for IPsec), else of one of its profiles or of the OVS port one names as
its controller. -/
def MainPassReason (helpers : NmHelpers N) (allNmConns : List NmConnection)
    (ifaces : List (MergedInterface N)) (uuid : String) : Prop :=
  ∃ mergedIface ∈ ifaces, mergedIface.isChanged = true ∧ mergedIface.merged.state = .absent ∧
    if mergedIface.merged.ifaceType = .ipsec then
      ∃ nmConn ∈ allNmConns, helpers.ipsecMatches mergedIface.merged.name nmConn = true ∧
        nmConn.uuid = some uuid
    else
      ∃ nmConn ∈ allNmConns, ProfileOfIface helpers mergedIface nmConn ∧
        (nmConn.uuid = some uuid ∨ OvsPortOf helpers allNmConns nmConn uuid)

/-- Why the orphan pass deletes `uuid`: it is an OVS port profile whose controller is a uuid
the main pass deletes. -/
def OrphanPortReason (helpers : NmHelpers N) (allNmConns : List NmConnection)
    (ifaces : List (MergedInterface N)) (uuid : String) : Prop :=
  ∃ port ∈ allNmConns, port.ifaceType = some .ovsPort ∧ port.uuid = some uuid ∧
    ∃ ctrl, port.controller = some ctrl ∧ MainPassReason helpers allNmConns ifaces ctrl

section MainPass

variable {helpers : NmHelpers N} {allNmConns : List NmConnection}

theorem mem_foldl_insertUuid {uuid : String} (found acc : List String) :
    uuid ∈ found.foldl insertUuid acc ↔ uuid ∈ acc ∨ uuid ∈ found := by
  induction found generalizing acc with
  | nil => simp
  | cons head rest ih =>
    rw [List.foldl_cons, ih]
    by_cases present : head ∈ acc <;> simp [insertUuid, present] <;> aesop

theorem nodup_foldl_insertUuid (found : List String) {acc : List String} (nodup : acc.Nodup) :
    (found.foldl insertUuid acc).Nodup := by
  induction found generalizing acc with
  | nil => exact nodup
  | cons head rest ih =>
    refine ih ?_
    by_cases present : head ∈ acc
    · simpa [insertUuid, present] using nodup
    · simpa [insertUuid, present, List.nodup_append] using nodup

theorem nmConnsToDelete_sound {mergedIface : MergedInterface N} {nmConns : List NmConnection}
    (found : nmConnsToDelete helpers allNmConns mergedIface = .ok nmConns) {nmConn : NmConnection}
    (member : nmConn ∈ nmConns) : nmConn ∈ allNmConns ∧ ProfileOfIface helpers mergedIface nmConn := by
  obtain ⟨byIface, byIfaceOk, listed⟩ := bind_eq_ok.mp found
  obtain rfl := pure_eq_ok.mp listed
  simp only [List.mem_append] at member
  rcases member with (inIface | inProfileName) | inMac
  · unfold nmConnsByIface at byIfaceOk
    split at byIfaceOk
    · cases byIfaceOk
      obtain ⟨present, named⟩ := List.mem_filter.mp inIface
      exact ⟨present, .inl ⟨of_decide_eq_true named, .inl ‹_›⟩⟩
    · obtain ⟨nmIfaceType, converted, listed⟩ := bind_eq_ok.mp byIfaceOk
      obtain rfl := pure_eq_ok.mp listed
      obtain ⟨present, named⟩ := List.mem_filter.mp inIface
      obtain ⟨sameName, sameType⟩ := of_decide_eq_true named
      exact ⟨present, .inl ⟨sameName, .inr ⟨nmIfaceType, converted, sameType⟩⟩⟩
  · unfold nmConnsByProfileName at inProfileName
    split at inProfileName
    · rename_i curIface current
      split at inProfileName
      · obtain ⟨present, named⟩ := List.mem_filter.mp inProfileName
        exact ⟨present, .inr ⟨curIface, current, ‹_ ∧ _›.1, .inl ⟨‹_ ∧ _›.2, of_decide_eq_true named⟩⟩⟩
      · cases inProfileName
    · cases inProfileName
  · unfold nmConnsByMac at inMac
    split at inMac
    · rename_i curIface current
      split at inMac
      · rename_i identified
        split at inMac
        · rename_i mac hasMac
          obtain ⟨present, sameMac⟩ := List.mem_filter.mp inMac
          exact ⟨present, .inr ⟨curIface, current, identified.1,
            .inr ⟨identified.2, mac, hasMac, of_decide_eq_true sameMac⟩⟩⟩
        · cases inMac
      · cases inMac
    · cases inMac

theorem nmConnUuidsToDelete_sound {nmConn : NmConnection} {uuid : String}
    (member : uuid ∈ nmConnUuidsToDelete helpers allNmConns nmConn) :
    nmConn.uuid = some uuid ∨ OvsPortOf helpers allNmConns nmConn uuid := by
  rcases List.mem_append.mp member with own | ovs
  · exact .inl (Option.mem_toList.mp own)
  · refine .inr ?_
    split at ovs
    · rename_i isOvsPort
      split at ovs
      · rename_i ctrl named
        refine ⟨isOvsPort, ctrl, named, ?_⟩
        split at ovs
        · exact .inl ⟨‹_›, List.mem_singleton.mp ovs⟩
        · obtain ⟨port, inIndex, hasUuid⟩ := List.mem_filterMap.mp ovs
          obtain ⟨present, indexed⟩ := List.mem_filter.mp inIndex
          obtain ⟨sameName, sameType⟩ := of_decide_eq_true indexed
          exact .inr ⟨eq_false_of_ne_true ‹_›, port, present, sameName, sameType, hasUuid⟩
      · cases ovs
    · cases ovs

theorem ifaceUuidsToDelete_sound {mergedIface : MergedInterface N} {found : List String}
    (ok : ifaceUuidsToDelete helpers allNmConns mergedIface = .ok found) {uuid : String}
    (member : uuid ∈ found) :
    if mergedIface.merged.ifaceType = .ipsec then
      ∃ nmConn ∈ allNmConns, helpers.ipsecMatches mergedIface.merged.name nmConn = true ∧
        nmConn.uuid = some uuid
    else
      ∃ nmConn ∈ allNmConns, ProfileOfIface helpers mergedIface nmConn ∧
        (nmConn.uuid = some uuid ∨ OvsPortOf helpers allNmConns nmConn uuid) := by
  unfold ifaceUuidsToDelete at ok
  split at ok
  · rename_i ipsec
    cases ok
    obtain ⟨nmConn, matched, hasUuid⟩ := List.mem_filterMap.mp member
    obtain ⟨present, picked⟩ := List.mem_filter.mp matched
    simpa [ipsec] using ⟨nmConn, present, picked, hasUuid⟩
  · rename_i notIpsec
    obtain ⟨nmConns, toDelete, listed⟩ := bind_eq_ok.mp ok
    obtain rfl := pure_eq_ok.mp listed
    obtain ⟨nmConn, picked, adds⟩ := List.mem_flatMap.mp member
    obtain ⟨present, profile⟩ := nmConnsToDelete_sound toDelete picked
    simpa [notIpsec] using ⟨nmConn, present, profile, nmConnUuidsToDelete_sound adds⟩

/-- The main pass, as a loop over the interfaces: the set it builds has no repeated uuid, and
each uuid in it is one that some changed, absent interface adds. -/
theorem foldlM_uuidsToDelete (ifaces : List (MergedInterface N)) {acc uuids : List String}
    (ok : ifaces.foldlM (fun uuids mergedIface => do
        let found ← ifaceUuidsToDelete helpers allNmConns mergedIface
        pure (found.foldl insertUuid uuids)) acc = .ok uuids)
    (nodup : acc.Nodup) :
    uuids.Nodup ∧ ∀ uuid ∈ uuids, uuid ∈ acc ∨ ∃ mergedIface ∈ ifaces, ∃ found,
      ifaceUuidsToDelete helpers allNmConns mergedIface = .ok found ∧ uuid ∈ found := by
  induction ifaces generalizing acc with
  | nil =>
    cases ok
    exact ⟨nodup, fun uuid member => .inl member⟩
  | cons mergedIface rest ih =>
    obtain ⟨next, step, restOk⟩ := bind_eq_ok.mp ok
    obtain ⟨found, foundOk, nextEq⟩ := bind_eq_ok.mp step
    cases nextEq
    obtain ⟨uuidsNodup, origin⟩ := ih restOk (nodup_foldl_insertUuid found nodup)
    refine ⟨uuidsNodup, fun uuid member => ?_⟩
    rcases origin uuid member with inNext | ⟨other, otherIn, otherFound, otherOk, inOther⟩
    · rcases (mem_foldl_insertUuid found acc).mp inNext with inAcc | inFound
      · exact .inl inAcc
      · exact .inr ⟨mergedIface, .head _, found, foundOk, inFound⟩
    · exact .inr ⟨other, .tail _ otherIn, otherFound, otherOk, inOther⟩

/-- The main pass lists each uuid once, each for a reason of `MainPassReason`. -/
theorem uuidsToDelete_sound {ifaces : List (MergedInterface N)} {uuids : List String}
    (ok : uuidsToDelete helpers allNmConns ifaces = .ok uuids) :
    uuids.Nodup ∧ ∀ uuid ∈ uuids, MainPassReason helpers allNmConns ifaces uuid := by
  obtain ⟨nodup, origin⟩ := foldlM_uuidsToDelete _ ok List.nodup_nil
  refine ⟨nodup, fun uuid member => ?_⟩
  rcases origin uuid member with inAcc | ⟨mergedIface, selected, found, foundOk, inFound⟩
  · cases inAcc
  · obtain ⟨present, changedAbsent⟩ := List.mem_filter.mp selected
    simp only [Bool.and_eq_true, BaseInterface.isAbsent, beq_iff_eq] at changedAbsent
    exact ⟨mergedIface, present, changedAbsent.1, changedAbsent.2,
      ifaceUuidsToDelete_sound foundOk inFound⟩

end MainPass

section OrphanPass

theorem mem_orphanPortUuids {uuidsDeleted : List String} {nmConns : List NmConnection}
    {uuid : String} :
    uuid ∈ orphanPortUuids uuidsDeleted nmConns ↔ ∃ port ∈ nmConns,
      port.ifaceType = some .ovsPort ∧ port.uuid = some uuid ∧
        ∃ ctrl, port.controller = some ctrl ∧ ctrl ∈ uuidsDeleted := by
  unfold orphanPortUuids
  rw [List.mem_filterMap]
  refine exists_congr fun port => and_congr_right fun _ => ?_
  split
  · split <;> simp_all [and_comm]
  · simp_all

end OrphanPass

section Run

variable (helpers : NmHelpers N) (mergedState : MergedNetworkState N)

theorem deleteConnections_makes (uuids : List String) (api : NmApi) :
    (deleteConnections uuids).Makes api (uuids.map .connectionDelete) ⟨⟩ :=
  NmM.makes_forM_call uuids NmCall.connectionDelete api

theorem deleteOrphanPorts_makes (uuidsDeleted : List String) {api : NmApi} {conns : List NmConnection}
    (held : api.conns = conns) :
    (deleteOrphanPorts uuidsDeleted).Makes api
      (.connectionsGet :: (orphanPortUuids uuidsDeleted conns).map .connectionDelete) ⟨⟩ :=
  held ▸ (NmM.makes_query NmApi.connectionsGet_apply api).bind (deleteConnections_makes _ _)

/-- The calls of the main and the orphan pass when the main pass computes `uuids`: the query,
the deletions, the second query, and the deletion of the OVS ports still naming a deleted
uuid. -/
def deletePassCalls (api : NmApi) (uuids : List String) : List NmCall :=
  .connectionsGet :: uuids.map .connectionDelete ++ .connectionsGet ::
    (orphanPortUuids uuids (api.conns.filter fun nmConn => !nmConn.hasUuidIn uuids)).map
      .connectionDelete

/-- `delete_remain_virtual_interface_as_desired` only queries and deletes devices: every run
of it keeps the profiles. -/
theorem deleteRemainVirtualInterfaceAsDesired_keepsConns :
    (deleteRemainVirtualInterfaceAsDesired helpers mergedState).Moves NmRun.keepsConns := by
  refine NmM.moves_bind (NmM.moves_query _ NmApi.devicesGet_apply (NmRun.keepsConns_log trivial))
    fun nmDevs => NmM.moves_forM fun mergedIface _ => ?_
  dsimp only
  split
  · refine NmM.moves_bind (NmM.moves_ofExcept _ _) fun nmIfaceType => ?_
    split
    · exact NmM.moves_tryCatch (NmM.moves_call _ (NmRun.keepsConns_log trivial))
        fun _ => NmM.moves_pure _ _
    · exact NmM.moves_pure _ _
  · exact NmM.moves_pure _ _

/-- When the main pass computes `uuids`, every run of `delete_ifaces` makes a prefix of the
calls of its two passes, then calls that keep the profiles; a run that returns made them all. -/
theorem deleteIfaces_follows {api : NmApi} {uuids : List String}
    (found : uuidsToDelete helpers api.conns mergedState.interfaces.iter = .ok uuids) :
    (deleteIfaces helpers mergedState).Follows api (deletePassCalls api uuids) NmRun.keepsConns := by
  have deleted : (((api.logAll [.connectionsGet]).logAll []).logAll
      (uuids.map .connectionDelete)).conns = api.conns.filter fun nmConn => !nmConn.hasUuidIn uuids :=
    NmApi.logAll_delete_conns _ uuids
  unfold deleteIfaces
  refine (NmM.makes_query NmApi.connectionsGet_apply api).bind_follows ?_
  show NmM.Follows (MonadExcept.ofExcept (uuidsToDelete helpers api.conns mergedState.interfaces.iter) >>= _ :
    NmM Unit) _ _ _
  rw [found]
  exact (NmM.makes_ofExcept (fun _ same => (Except.ok.inj same).symm) _).bind_follows
    ((deleteConnections_makes uuids _).bind_follows ((deleteOrphanPorts_makes uuids deleted).follows_bind
      (deleteRemainVirtualInterfaceAsDesired_keepsConns helpers mergedState)))

/-- When the main pass fails, `delete_ifaces` fails at its first query or right after it. -/
theorem deleteIfaces_of_error {api : NmApi} {e : NmstateError}
    (failed : uuidsToDelete helpers api.conns mergedState.interfaces.iter = .error e) :
    ∃ taken, taken <+: [.connectionsGet] ∧ ∃ err,
      deleteIfaces helpers mergedState api = .error err (api.logAll taken) := by
  unfold deleteIfaces
  rw [NmM.bind_apply, NmApi.connectionsGet_apply]
  unfold NmApi.respond
  cases api.refuse api.calls .connectionsGet with
  | some err => exact ⟨[], List.nil_prefix, err, rfl⟩
  | none =>
    refine ⟨[.connectionsGet], List.prefix_refl _, e, ?_⟩
    show (MonadExcept.ofExcept (uuidsToDelete helpers api.conns mergedState.interfaces.iter) >>= _ :
      NmM Unit) (api.log .connectionsGet) = _
    rw [failed]
    rfl

/-- What every run of `delete_ifaces` does: a prefix of the calls of its two passes, or of its
first query when the main pass fails, then calls that keep the profiles. -/
theorem deleteIfaces_calls (api : NmApi) : ∃ passCalls rest,
    ((deleteIfaces helpers mergedState).finalState api).calls = api.calls ++ passCalls ++ rest ∧
      (∀ c ∈ rest, c.KeepsConns) ∧
      (passCalls <+: [.connectionsGet] ∨ ∃ uuids,
        uuidsToDelete helpers api.conns mergedState.interfaces.iter = .ok uuids ∧
          passCalls <+: deletePassCalls api uuids) := by
  cases found : uuidsToDelete helpers api.conns mergedState.interfaces.iter with
  | error e =>
    obtain ⟨taken, cut, err, failed⟩ := deleteIfaces_of_error helpers mergedState found
    exact ⟨taken, [], by simp [NmM.finalState, failed], by simp, .inl cut⟩
  | ok uuids =>
    obtain ⟨taken, cut, -, rest, extended, keeps⟩ := (deleteIfaces_follows helpers mergedState found).stops
    exact ⟨taken, rest, by rw [extended, NmApi.logAll_calls], keeps, .inr ⟨uuids, rfl, cut⟩⟩

/-- The profiles the two passes leave when the main pass computes `uuids`. -/
theorem deletePassCalls_conns (api : NmApi) (uuids : List String) :
    (api.logAll (deletePassCalls api uuids)).conns =
      (api.conns.filter fun nmConn => !nmConn.hasUuidIn uuids).filter fun nmConn =>
        !nmConn.hasUuidIn (orphanPortUuids uuids
          (api.conns.filter fun nmConn => !nmConn.hasUuidIn uuids)) := by
  simp only [deletePassCalls, List.cons_append, NmApi.logAll_cons, NmApi.logAll_append,
    NmApi.logAll_delete_conns, NmApi.log_connectionsGet_conns]

/-- A run of `delete_ifaces` that returns leaves the profiles its two passes leave. -/
theorem deleteIfaces_ok_conns {api final : NmApi}
    (ok : deleteIfaces helpers mergedState api = .ok () final) :
    ∃ uuids, uuidsToDelete helpers api.conns mergedState.interfaces.iter = .ok uuids ∧
      final.conns = (api.logAll (deletePassCalls api uuids)).conns := by
  cases found : uuidsToDelete helpers api.conns mergedState.interfaces.iter with
  | error e =>
    obtain ⟨_, -, _, failed⟩ := deleteIfaces_of_error helpers mergedState found
    rw [failed] at ok
    cases ok
  | ok uuids =>
    exact ⟨uuids, rfl, ((deleteIfaces_follows helpers mergedState found).returns () final ok).1⟩

end Run

/-- Helpers for the concrete backends of this module: nothing is a uuid or an IPsec match, and OVS
bridges map to their NM type. -/
def exampleHelpers : NmHelpers unitNested where
  isUuid _ := false
  ifaceTypeToNm
    | .ovsBridge => .ok .ovsBridge
    | _ => .error ⟨.invalidArgument, "unsupported interface type"⟩
  ipsecMatches _ _ := false
  isVirtual _ := false

/-- A merged state in which the OVS bridge br0 is changed and absent. -/
def bridgeAbsentState : MergedNetworkState unitNested where
  interfaces :=
    { userIfaces := [{ merged := { name := "br0", ifaceType := .ovsBridge, state := .absent }
                       isChanged := true }] }

def bridgeProfile : NmConnection :=
  { uuid := some "bridge-uuid", ifaceName := some "br0", ifaceType := some .ovsBridge }

/-- An OVS port profile that names its bridge by interface name. -/
def portByNameProfile : NmConnection :=
  { uuid := some "port-uuid", ifaceName := some "ovs-port-eth1", ifaceType := some .ovsPort
    controller := some "br0", controllerType := some .ovsBridge }

/-- An OVS port profile of br0 that names the bridge by uuid. -/
def portByUuidProfile : NmConnection :=
  { uuid := some "port-uuid", ifaceType := some .ovsPort, controller := some "bridge-uuid" }

/-- The bridge br1, which no interface of the merged states here removes. -/
def keptBridgeProfile : NmConnection :=
  { uuid := some "bridge1-uuid", ifaceName := some "br1", ifaceType := some .ovsBridge }

def keptPortProfile : NmConnection :=
  { uuid := some "port1-uuid", ifaceType := some .ovsPort, controller := some "bridge1-uuid" }

/-- A backend where the OVS ports name their bridges by uuid. -/
def uuidNamedConns : List NmConnection :=
  [bridgeProfile, portByUuidProfile, keptBridgeProfile, keptPortProfile]

section Deletions

variable (helpers : NmHelpers N) (mergedState : MergedNetworkState N)

/-- A uuid the main pass deletes is the uuid of a profile of the backend, when every uuid-valued
controller names one. -/
theorem MainPassReason.held {allNmConns : List NmConnection} {ifaces : List (MergedInterface N)}
    {uuid : String}
    (controllersExist : ∀ nmConn ∈ allNmConns, ∀ ctrl, nmConn.controller = some ctrl →
      helpers.isUuid ctrl = true → ∃ target ∈ allNmConns, target.uuid = some ctrl)
    (reason : MainPassReason helpers allNmConns ifaces uuid) :
    ∃ nmConn ∈ allNmConns, nmConn.uuid = some uuid := by
  obtain ⟨mergedIface, -, -, -, picked⟩ := reason
  split at picked
  · obtain ⟨nmConn, present, -, hasUuid⟩ := picked
    exact ⟨nmConn, present, hasUuid⟩
  · obtain ⟨nmConn, present, -, own | ⟨-, ctrl, named, ⟨isUuid, rfl⟩ | ⟨-, port, portIn, -, -, hasUuid⟩⟩⟩ :=
      picked
    · exact ⟨nmConn, present, own⟩
    · exact controllersExist nmConn present uuid named isUuid
    · exact ⟨port, portIn, hasUuid⟩

/-- The uuids the two passes delete: those of the main pass, then the orphans. -/
theorem deletedUuids_deletePassCalls (api : NmApi) (uuids : List String) :
    deletedUuids (deletePassCalls api uuids) =
      uuids ++ orphanPortUuids uuids (api.conns.filter fun nmConn => !nmConn.hasUuidIn uuids) := by
  simp [deletePassCalls]

/-- `delete_ifaces` deletes a profile for two reasons only: in the main pass, it is a changed,
absent interface's profile or the OVS port such a profile names; in the orphan pass, an OVS
port whose controller the main pass deletes. -/
theorem deleteIfaces_deletes_only_absent_profiles (api : NmApi) :
    ∃ new, ((deleteIfaces helpers mergedState).finalState api).calls = api.calls ++ new ∧
      ∀ uuid ∈ deletedUuids new,
        MainPassReason helpers api.conns mergedState.interfaces.iter uuid ∨
          OrphanPortReason helpers api.conns mergedState.interfaces.iter uuid := by
  obtain ⟨passCalls, rest, calls, keeps, passes⟩ := deleteIfaces_calls helpers mergedState api
  refine ⟨passCalls ++ rest, by rw [calls, List.append_assoc], fun uuid member => ?_⟩
  rw [deletedUuids_append, deletedUuids_of_keeps keeps, List.append_nil] at member
  rcases passes with cut | ⟨uuids, found, cut⟩
  · exact absurd ((deletedUuids_initial cut).subset member) (List.not_mem_nil uuid)
  · have main := (uuidsToDelete_sound found).2
    rcases List.mem_append.mp ((deletedUuids_deletePassCalls api uuids) ▸
        (deletedUuids_initial cut).subset member) with inMain | inOrphan
    · exact .inl (main uuid inMain)
    · obtain ⟨port, remaining, isPort, hasUuid, ctrl, named, deleted⟩ :=
        mem_orphanPortUuids.mp inOrphan
      exact .inr ⟨port, (List.mem_filter.mp remaining).1, isPort, hasUuid, ctrl, named,
        main ctrl deleted⟩

/-- When `delete_ifaces` returns, in a backend with distinct uuids, every OVS port profile left
whose controller is the uuid of an OVS bridge profile still has that bridge. -/
theorem deleteIfaces_keeps_uuid_named_bridges (api : NmApi) (distinct : DistinctUuids api.conns)
    {final : NmApi} (ok : deleteIfaces helpers mergedState api = .ok () final) :
    ∀ port ∈ final.conns, port.ifaceType = some .ovsPort →
      ∀ bridge ∈ api.conns, bridge.ifaceType = some .ovsBridge → port.controller = bridge.uuid →
        bridge ∈ final.conns := by
  obtain ⟨uuids, -, finalConns⟩ := deleteIfaces_ok_conns helpers mergedState ok
  rw [finalConns, deletePassCalls_conns]
  intro port portLeft isPort bridge bridgeIn isBridge named
  obtain ⟨portRemaining, portNotOrphan⟩ := List.mem_filter.mp portLeft
  obtain ⟨bridgeUuid, hasBridgeUuid⟩ := Option.isSome_iff_exists.mp (distinct.hasUuid bridge bridgeIn)
  obtain ⟨portUuid, hasPortUuid⟩ :=
    Option.isSome_iff_exists.mp (distinct.hasUuid port (List.mem_filter.mp portRemaining).1)
  have bridgeKept : bridgeUuid ∉ uuids := fun deleted => by
    have orphan := mem_orphanPortUuids.mpr
      ⟨port, portRemaining, isPort, hasPortUuid, bridgeUuid, named.trans hasBridgeUuid, deleted⟩
    simp [NmConnection.hasUuidIn_iff.mpr ⟨portUuid, orphan, hasPortUuid⟩] at portNotOrphan
  have bridgeRemaining : bridge ∈ api.conns.filter fun nmConn => !nmConn.hasUuidIn uuids :=
    List.mem_filter.mpr ⟨bridgeIn, by simp [NmConnection.hasUuidIn, hasBridgeUuid, bridgeKept]⟩
  refine List.mem_filter.mpr ⟨bridgeRemaining, ?_⟩
  cases orphaned : bridge.hasUuidIn _ with
  | false => rfl
  | true =>
    obtain ⟨uuid, orphan, hasUuid⟩ := NmConnection.hasUuidIn_iff.mp orphaned
    obtain ⟨other, otherRemaining, otherIsPort, otherUuid, -⟩ := mem_orphanPortUuids.mp orphan
    have same := distinct.eq_of_uuid (List.mem_filter.mp otherRemaining).1 bridgeIn
      (otherUuid.trans hasUuid.symm)
    rw [same, isBridge] at otherIsPort
    cases otherIsPort

theorem deleteIfaces_keeps_uuid_named_bridges_sample :
    DistinctUuids uuidNamedConns ∧ keptBridgeProfile ∈ [keptBridgeProfile, keptPortProfile] :=
  ⟨⟨by decide, by decide⟩,
    deleteIfaces_keeps_uuid_named_bridges exampleHelpers bridgeAbsentState { conns := uuidNamedConns }
      ⟨by decide, by decide⟩
      (show deleteIfaces exampleHelpers bridgeAbsentState { conns := uuidNamedConns } =
        .ok () { conns := [keptBridgeProfile, keptPortProfile]
                 calls := [.connectionsGet, .connectionDelete "bridge-uuid", .connectionsGet,
                   .connectionDelete "port-uuid", .devicesGet] } from rfl)
      keptPortProfile (by decide) rfl keptBridgeProfile (by decide) rfl rfl⟩

/-- An OVS port that names its bridge by interface name outlives the bridge: the orphan pass
matches controllers against the deleted uuids only. -/
theorem deleteIfaces_leaves_name_referenced_port :
    ¬ ∀ (helpers : NmHelpers unitNested) (mergedState : MergedNetworkState unitNested) (api : NmApi),
      DistinctUuids api.conns →
      (∀ port ∈ api.conns, port.ifaceType = some .ovsPort → ∃ bridge ∈ api.conns,
        bridge.ifaceType = some .ovsBridge ∧
          (port.controller = bridge.uuid ∨ port.controller = bridge.ifaceName)) →
      ∀ final, deleteIfaces helpers mergedState api = .ok () final →
      ∀ port ∈ final.conns, port.ifaceType = some .ovsPort → ∃ bridge ∈ final.conns,
        bridge.ifaceType = some .ovsBridge ∧
          (port.controller = bridge.uuid ∨ port.controller = bridge.ifaceName) := by
  intro noOrphans
  have left := noOrphans exampleHelpers bridgeAbsentState { conns := [bridgeProfile, portByNameProfile] }
    ⟨by decide, by decide⟩ (by decide)
    { conns := [portByNameProfile]
      calls := [.connectionsGet, .connectionDelete "bridge-uuid", .connectionsGet, .devicesGet] } rfl
  revert left
  decide

end Deletions

end Nmstate
