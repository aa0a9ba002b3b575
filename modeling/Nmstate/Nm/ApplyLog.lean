import Nmstate.Nm.Apply

namespace Nmstate

variable {N : NestedTypes}

/-- A call that activates or deactivates a profile. -/
def NmCall.Toggles : NmCall → Prop
  | .connectionActivate _ | .connectionDeactivate _ => True
  | _ => False

/-- A call of the steps of `nm_apply` before its profile steps: no profile is added,
activated or deactivated. -/
def NmCall.BeforeProfiles : NmCall → Prop
  | .connectionAdd _ _ | .connectionActivate _ | .connectionDeactivate _ => False
  | _ => True

theorem NmCall.not_toggles_of_before {c : NmCall} (before : c.BeforeProfiles) : ¬c.Toggles := by
  cases c <;> simp_all [NmCall.BeforeProfiles, NmCall.Toggles]

/-- The log of the profile steps of `nm_apply`: deactivations of uuids that are activated later,
then calls that toggle nothing (the saves and deletions), the activations, and the final
deactivations. -/
def ProfileSteps (calls : List NmCall) : Prop :=
  ∃ (first : List String) (middle : List NmCall) (activated last : List String),
    calls = first.map .connectionDeactivate ++
      (middle ++ (activated.map .connectionActivate ++ last.map .connectionDeactivate)) ∧
    (∀ c ∈ middle, ¬c.Toggles) ∧ ∀ uuid ∈ first, uuid ∈ activated

theorem ProfileSteps.nil : ProfileSteps [] := ⟨[], [], [], [], rfl, by simp, by simp⟩

/-- The log of the profile steps in the order `nm_apply` makes them: the deactivations of uuids
activated later, the saves, the deletions, the activations and the final deactivations. -/
theorem ProfileSteps.of_steps {first activated last : List String} {saves deletions : List NmCall}
    (quiet : ∀ c ∈ saves ++ deletions, ¬c.Toggles) (reactivated : ∀ uuid ∈ first, uuid ∈ activated) :
    ProfileSteps (first.map .connectionDeactivate ++ (saves ++ (deletions ++
      (activated.map .connectionActivate ++ (last.map .connectionDeactivate ++ []))))) :=
  ⟨first, saves ++ deletions, activated, last, by simp only [List.append_assoc, List.append_nil],
    quiet, reactivated⟩

/-- What a run of `x` from `api` logs: calls of the steps before the profile steps, then a prefix
of the whole log of the profile steps, all of it when the run returns. -/
def ApplyLog {α : Type} (x : NmM α) (api : NmApi) : Prop :=
  ∃ early profile, (x.finalState api).calls = api.calls ++ early ++ profile ∧
    (∀ c ∈ early, c.BeforeProfiles) ∧ ∃ steps, ProfileSteps steps ∧ profile <+: steps ∧
      ∀ v after, x api = .ok v after → profile = steps

/-- Where a call stands in a log made of two parts: in the second part, or in the first with the
whole second part after it. -/
theorem cons_suffix_append_cases {α : Type} {x : α} {post first second : List α}
    (suffix : x :: post <:+ first ++ second) : x :: post <:+ second ∨ (x ∈ first ∧ second <:+ post) := by
  obtain ⟨pre, split⟩ := suffix
  rcases List.append_eq_append_iff.mp split with ⟨mid, rfl, stays⟩ | ⟨mid, rfl, rfl⟩
  · cases mid with
    | nil =>
      rw [List.nil_append] at stays
      exact .inl (stays ▸ List.suffix_refl _)
    | cons y rest =>
      simp only [List.cons_append, List.cons.injEq] at stays
      obtain ⟨rfl, rfl⟩ := stays
      exact .inr ⟨by simp, List.suffix_append _ _⟩
  · exact .inl (List.suffix_append _ _)

/-- Every call that toggles a profile, in the log of a run of `nm_apply`, stands in the log of its
profile steps with what followed it there, save the part a failed run did not reach. -/
theorem ApplyLog.toggles_in_profile {α : Type} {x : NmM α} {api : NmApi} (log : ApplyLog x api) :
    ∃ new steps more, (x.finalState api).calls = api.calls ++ new ∧ ProfileSteps steps ∧
      (∀ v after, x api = .ok v after → more = []) ∧
      ∀ {c post}, c :: post <:+ new → c.Toggles → c :: (post ++ more) <:+ steps := by
  obtain ⟨early, profile, calls, earlyOk, steps, isSteps, ⟨more, whole⟩, finished⟩ := log
  refine ⟨early ++ profile, steps, more, by rw [calls, List.append_assoc], isSteps,
    fun v after ran => ?_, fun suffix toggles => ?_⟩
  · have same := finished v after ran
    rw [← whole] at same
    exact List.append_right_eq_self.mp same.symm
  · obtain ⟨pre, inProfile⟩ := (cons_suffix_append_cases suffix).resolve_right fun ⟨inEarly, _⟩ =>
      NmCall.not_toggles_of_before (earlyOk _ inEarly) toggles
    exact ⟨pre, by rw [← whole, ← inProfile, List.append_assoc, List.cons_append]⟩

theorem NmM.finalState_bind {α β : Type} (x : NmM α) (f : α → NmM β) (api : NmApi) :
    (x >>= f).finalState api = match x api with
      | .ok v after => (f v).finalState after
      | .error _ after => after := by
  unfold NmM.finalState
  rw [NmM.bind_apply]
  cases x api <;> rfl

/-- A run that makes the log of the profile steps, unless the backend refuses a call, logs a
prefix of it, and all of it when it returns. -/
theorem ApplyLog.of_makes {α : Type} {x : NmM α} {api : NmApi} {steps : List NmCall} {value : α}
    (makes : x.Makes api steps value) (isSteps : ProfileSteps steps) : ApplyLog x api := by
  obtain ⟨taken, cut, final⟩ := makes.stops
  refine ⟨[], taken, by rw [final, NmApi.logAll_calls, List.append_nil], by simp, steps, isSteps, cut,
    fun v after ran => ?_⟩
  have calls := congrArg NmApi.calls
    (final.symm.trans ((NmM.finalState_of_ok ran).trans (makes.returns v after ran).2))
  rw [NmApi.logAll_calls, NmApi.logAll_calls] at calls
  exact List.append_cancel_left calls

theorem ApplyLog.bind_early {α β : Type} {x : NmM α} {f : α → NmM β}
    (first : x.Moves (NmRun.callsOnly NmCall.BeforeProfiles)) (rest : ∀ v api, ApplyLog (f v) api)
    (api : NmApi) : ApplyLog (x >>= f) api := by
  have start := first api
  unfold NmM.finalState at start
  unfold ApplyLog
  rw [NmM.finalState_bind]
  cases ran : x api with
  | ok v after =>
    rw [ran] at start
    obtain ⟨pre, toAfter, preOk⟩ := start
    obtain ⟨early, profile, calls, earlyOk, steps, isSteps, cut, finished⟩ := rest v after
    refine ⟨pre ++ early, profile, by rw [calls, toAfter]; simp only [List.append_assoc],
      fun c member => ?_, steps, isSteps, cut, fun w final ranAll => finished w final ?_⟩
    · rcases List.mem_append.mp member with inPre | inEarly
      exacts [preOk c inPre, earlyOk c inEarly]
    · rwa [NmM.bind_apply, ran] at ranAll
  | error e after =>
    rw [ran] at start
    obtain ⟨pre, toAfter, preOk⟩ := start
    exact ⟨pre, [], by rw [toAfter, List.append_nil], preOk, [], .nil, List.nil_prefix,
      fun _ _ _ => rfl⟩

/-- One call per profile that has a uuid, in the order of the profiles: the loop that both
`activate_nm_profiles` and `deactivate_nm_profiles` run. -/
theorem forM_uuid_call_makes (nmConns : List NmConnection) (f : String → NmCall) (api : NmApi) :
    (nmConns.forM (fun nmConn => match nmConn.uuid with
      | some uuid => NmApi.call (f uuid)
      | none => pure ()) : NmM Unit).Makes api ((nmConns.filterMap NmConnection.uuid).map f) ⟨⟩ := by
  induction nmConns generalizing api with
  | nil => exact NmM.makes_pure _ api
  | cons nmConn rest ih =>
    show ((match nmConn.uuid with
      | some uuid => NmApi.call (f uuid)
      | none => pure ()) >>= fun _ => rest.forM _).Makes _ _ _
    cases hasUuid : nmConn.uuid with
    | some uuid =>
      simp only [List.filterMap_cons, hasUuid, List.map_cons]
      exact (NmM.makes_call (f uuid) api).bind (ih _)
    | none =>
      simp only [List.filterMap_cons, hasUuid]
      exact (NmM.makes_pure () api).bind (ih _)

theorem deactivateNmProfiles_makes (nmConns : List NmConnection) (api : NmApi) :
    (deactivateNmProfiles nmConns).Makes api
      ((nmConns.filterMap NmConnection.uuid).map .connectionDeactivate) ⟨⟩ :=
  forM_uuid_call_makes nmConns _ api

theorem activateNmProfiles_makes (nmConns : List NmConnection) (api : NmApi) :
    (activateNmProfiles nmConns).Makes api
      ((nmConns.filterMap NmConnection.uuid).map .connectionActivate) ⟨⟩ :=
  forM_uuid_call_makes nmConns _ api

theorem saveNmProfiles_makes (nmConns : List NmConnection) (memoryOnly : Bool) (api : NmApi) :
    (saveNmProfiles nmConns memoryOnly).Makes api (nmConns.map (.connectionAdd · memoryOnly)) ⟨⟩ :=
  NmM.makes_forM_call _ _ _

theorem NmM.makes_ite {α : Type} {p : Prop} [Decidable p] {x y : NmM α} {api : NmApi}
    {planX planY : List NmCall} {value : α} (makesX : x.Makes api planX value)
    (makesY : y.Makes api planY value) :
    (if p then x else y).Makes api (if p then planX else planY) value := by
  split
  exacts [makesX, makesY]

/-- A profile deactivated first is the active counterpart, by uuid, of a profile to activate:
its uuid is among the uuids activated. -/
theorem uuid_deactivated_first_activated {helpers : ApplyHelpers N}
    {mergedIface : MergedInterfaces N} {nmConnsToActivate activatedNmConns : List NmConnection}
    {uuid : String}
    (member : uuid ∈ (genNmConnNeedToDeactivateFirst helpers mergedIface nmConnsToActivate
      activatedNmConns).filterMap NmConnection.uuid) :
    uuid ∈ nmConnsToActivate.filterMap NmConnection.uuid := by
  obtain ⟨activatedNmCon, deactivated, activeUuid⟩ := List.mem_filterMap.mp member
  obtain ⟨nmConn, toActivate, selected⟩ := List.mem_filterMap.mp deactivated
  refine List.mem_filterMap.mpr ⟨nmConn, toActivate, ?_⟩
  revert selected
  cases hasUuid : nmConn.uuid with
  | none => simp
  | some connUuid =>
    dsimp only
    cases found : activatedNmConns.find? fun c => c.uuid == some connUuid with
    | none => simp
    | some counterpart =>
      have sameUuid : counterpart.uuid = some connUuid := by simpa using List.find?_some found
      intro picked
      rw [Option.ite_none_right_eq_some, Option.some.injEq] at picked
      rw [← sameUuid, picked.2, activeUuid]

theorem deleteConnections_moves {ok : NmCall → Prop} (deleted : ∀ uuid, ok (.connectionDelete uuid))
    (uuids : List String) : (deleteConnections uuids).Moves (NmRun.callsOnly ok) :=
  NmM.moves_forM fun uuid _ => NmM.moves_call _ (NmRun.callsOnly_log (deleted uuid))

/-- `delete_ifaces` queries profiles and devices and deletes profiles and devices, nothing else. -/
theorem deleteIfaces_moves {ok : NmCall → Prop} (helpers : NmHelpers N)
    (mergedState : MergedNetworkState N) (conns : ok .connectionsGet) (devs : ok .devicesGet)
    (deleted : ∀ uuid, ok (.connectionDelete uuid)) (removed : ∀ objPath, ok (.deviceDelete objPath)) :
    (deleteIfaces helpers mergedState).Moves (NmRun.callsOnly ok) := by
  have connsQuery := NmM.moves_query _ NmApi.connectionsGet_apply (NmRun.callsOnly_log conns)
  refine NmM.moves_bind connsQuery fun _ => ?_
  refine NmM.moves_ofExcept_bind fun uuids _ => NmM.moves_bind (deleteConnections_moves deleted _)
    fun _ => NmM.moves_bind (NmM.moves_bind connsQuery fun _ => deleteConnections_moves deleted _)
      fun _ => ?_
  refine NmM.moves_bind (NmM.moves_query _ NmApi.devicesGet_apply (NmRun.callsOnly_log devs))
    fun nmDevs => NmM.moves_forM fun mergedIface _ => ?_
  dsimp only
  split
  · refine NmM.moves_bind (NmM.moves_ofExcept _ _) fun nmIfaceType => ?_
    split
    · exact NmM.moves_tryCatch (NmM.moves_call _ (NmRun.callsOnly_log (removed _)))
        fun _ => NmM.moves_pure _ _
    · exact NmM.moves_pure _ _
  · exact NmM.moves_pure _ _

/-- Every run of `nm_apply` logs calls that add, activate and deactivate no profile, then a
prefix of the log of its profile steps, all of it when the run returns. -/
theorem nmApply_log (helpers : ApplyHelpers N) (mergedState : MergedNetworkState N)
    (api : NmApi) : ApplyLog (nmApply helpers mergedState) api := by
  revert api
  unfold nmApply
  have query := fun {α : Type} {x : NmM α} {c : NmCall} {read : NmApi → α}
    (run : ∀ api, x api = api.respond c (read api)) (allowed : c.BeforeProfiles) =>
      NmM.moves_query _ run (NmRun.callsOnly_log allowed)
  refine ApplyLog.bind_early ?deletion fun _ => ApplyLog.bind_early ?hostname fun _ => ?_
  case deletion =>
    split
    · exact deleteIfaces_moves _ _ trivial trivial (fun _ => trivial) fun _ => trivial
    · exact NmM.moves_pure _ _
  case hostname =>
    split
    · split
      · exact NmM.moves_pure _ _
      · exact NmM.moves_call _ (NmRun.callsOnly_log trivial)
    · exact NmM.moves_pure _ _
  refine ApplyLog.bind_early (query NmApi.connectionsGet_apply trivial) fun existNmConns => ?_
  refine ApplyLog.bind_early (query NmApi.activeConnectionsGet_apply trivial) fun nmAcs => ?_
  refine ApplyLog.bind_early (query NmApi.devicesGet_apply trivial) fun nmDevs => ?_
  refine ApplyLog.bind_early (NmM.moves_ofExcept _ _) fun routed => ?_
  refine ApplyLog.bind_early (applyDns_moves _ _ _ _ fun _ c writes => ?_) fun ifaces => ?_
  · cases c <;> trivial
  refine ApplyLog.bind_early (NmM.moves_ofExcept _ _) fun prepared api => ?_
  refine ApplyLog.of_makes ((deactivateNmProfiles_makes _ api).bind ((saveNmProfiles_makes _ _ _).bind
    ((NmM.makes_ite ((deleteConnections_makes _ _).bind (deleteConnections_makes _ _))
      (NmM.makes_pure _ _)).bind ((activateNmProfiles_makes _ _).bind
        ((deactivateNmProfiles_makes _ _).bind (@NmM.makes_ofExcept _ _ () (fun _ _ => rfl) _))))))
    (.of_steps ?_ fun _ => uuid_deactivated_first_activated)
  split <;> simp [NmCall.Toggles, or_imp, forall_and]

/-- Once `nm_apply` has activated a profile, it only activates and deactivates profiles: every
save and deletion comes before the first activation. This holds of every run, returning or
failing, whichever calls the backend refuses. -/
theorem nmApply_only_toggles_after_activation (helpers : ApplyHelpers N)
    (mergedState : MergedNetworkState N) (api : NmApi) :
    ∃ new, ((nmApply helpers mergedState).finalState api).calls = api.calls ++ new ∧
      ∀ pre uuid post, new = pre ++ .connectionActivate uuid :: post → ∀ c ∈ post, c.Toggles := by
  obtain ⟨new, _, more, calls, ⟨first, middle, activated, last, rfl, quiet, -⟩, -, inProfile⟩ :=
    (nmApply_log helpers mergedState api).toggles_in_profile
  refine ⟨new, calls, fun pre uuid post split c member => ?_⟩
  have suffix := inProfile ⟨pre, split.symm⟩ trivial
  have afterMiddle := (cons_suffix_append_cases suffix).resolve_right (by simp)
  have toggling := (cons_suffix_append_cases afterMiddle).resolve_right fun ⟨inMiddle, _⟩ =>
    quiet _ inMiddle trivial
  have : c ∈ activated.map .connectionActivate ++ last.map .connectionDeactivate :=
    ((List.suffix_cons _ _).trans toggling).subset (List.mem_append_left more member)
  simp only [List.mem_append, List.mem_map] at this
  rcases this with ⟨_, _, rfl⟩ | ⟨_, _, rfl⟩ <;> trivial

/-- In a run of `nm_apply` that returns, a profile it deactivates is activated again later,
unless only deactivations follow: deactivating a profile first, to apply a change NetworkManager
cannot reapply in place, never leaves it down. -/
theorem nmApply_reactivates_deactivated (helpers : ApplyHelpers N)
    (mergedState : MergedNetworkState N) (api : NmApi) {final : NmApi}
    (ok : nmApply helpers mergedState api = .ok () final) :
    ∃ new, final.calls = api.calls ++ new ∧
      ∀ pre uuid post, new = pre ++ .connectionDeactivate uuid :: post →
        .connectionActivate uuid ∈ post ∨ ∀ c ∈ post, ∃ uuid', c = .connectionDeactivate uuid' := by
  obtain ⟨new, _, more, calls, ⟨first, middle, activated, last, rfl, quiet, reactivated⟩, finished,
    inProfile⟩ := (nmApply_log helpers mergedState api).toggles_in_profile
  obtain rfl := finished () final ok
  refine ⟨new, NmM.finalState_of_ok ok ▸ calls, fun pre uuid post split => ?_⟩
  have suffix := inProfile ⟨pre, split.symm⟩ trivial
  rw [List.append_nil] at suffix
  rcases cons_suffix_append_cases suffix with afterFirst | ⟨inFirst, restAfter⟩
  · have afterMiddle := (cons_suffix_append_cases afterFirst).resolve_right fun ⟨inMiddle, _⟩ =>
      quiet _ inMiddle trivial
    have inLast := (cons_suffix_append_cases afterMiddle).resolve_right (by simp)
    refine .inr fun c member => ?_
    obtain ⟨uuid', -, rfl⟩ := List.mem_map.mp (((List.suffix_cons _ _).trans inLast).subset member)
    exact ⟨uuid', rfl⟩
  · have : uuid ∈ activated := reactivated uuid (by simpa using inFirst)
    exact .inl (restAfter.subset (by simp [this]))

/-- Helpers under which `nm_apply` saves and activates the port eth1 of br0, and nothing else. -/
def eth1ActivatingHelpers : ApplyHelpers unitNested :=
  { passiveHelpers with perpareNmConns := fun _ _ _ _ => .ok ⟨[br0PortByName], [br0PortByName], []⟩ }

/-- A memory-only merged state in which the VLAN default PVID of br0 changed. -/
def pvidChangedState : MergedNetworkState unitNested where
  interfaces := pvidChangedBridge
  memoryOnly := true

/-- A backend in which the port eth1 of br0 is active. -/
def eth1ActiveBackend : NmApi :=
  { conns := [br0Profile, br0PortByName]
    acs := [{ uuid := "eth1-uuid", ifaceType := .ethernet, ifaceName := "eth1", stateFlags := 0 }] }

theorem nmApply_reactivates_deactivated_eth1 :
    ∃ final, nmApply eth1ActivatingHelpers pvidChangedState eth1ActiveBackend = .ok () final ∧
      ∃ new, final.calls = eth1ActiveBackend.calls ++ new ∧
        ∀ pre uuid post, new = pre ++ .connectionDeactivate uuid :: post →
          .connectionActivate uuid ∈ post ∨ ∀ c ∈ post, ∃ uuid', c = .connectionDeactivate uuid' :=
  ⟨_, rfl, nmApply_reactivates_deactivated eth1ActivatingHelpers pvidChangedState eth1ActiveBackend rfl⟩

/-- The port is deactivated first, saved, then activated again. -/
example : ((nmApply eth1ActivatingHelpers pvidChangedState).finalState eth1ActiveBackend).calls = [.connectionsGet, .activeConnectionsGet, .devicesGet,
      .connectionDeactivate "eth1-uuid", .connectionAdd br0PortByName true,
      .connectionActivate "eth1-uuid"] := rfl

end Nmstate
