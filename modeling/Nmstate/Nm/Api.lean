import Nmstate.Base
import Mathlib.Data.List.Nodup

namespace Nmstate

/-- `NmIfaceType`: the NetworkManager connection types the apply path names. -/
inductive NmIfaceType where
  | bond | bridge | ethernet | ovsBridge | ovsPort | ovsIface | vlan | vxlan | dummy | macvlan
  | vrf | veth | infiniband | loopback | macsec | hsr | ipvlan | vpn | unknown
  | other (name : String)
  deriving DecidableEq, Repr

/-- Modelled from the spec: `NmConnection` is not under src/. A profile as the apply path
reads it through `uuid()`, `id()`, `iface_name()`, `iface_type()`, `controller()`,
`controller_type()` and its wired setting's MAC address. -/
structure NmConnection where
  uuid : Option String := none
  id : Option String := none
  ifaceName : Option String := none
  ifaceType : Option NmIfaceType := none
  controller : Option String := none
  controllerType : Option NmIfaceType := none
  wiredMacAddress : Option String := none
  deriving DecidableEq, Repr

/-- `NmActiveConnection`. -/
structure NmActiveConnection where
  uuid : String
  ifaceType : NmIfaceType
  ifaceName : String
  stateFlags : UInt32
  deriving DecidableEq, Repr

/-- Modelled from the spec: `NmDevice` is not under src/; the fields the apply path reads. -/
structure NmDevice where
  name : String
  ifaceType : NmIfaceType
  objPath : String
  deriving DecidableEq, Repr

/-- The D-Bus calls the apply path makes on NetworkManager, as entries of a log. -/
inductive NmCall where
  | connectionsGet
  | activeConnectionsGet
  | devicesGet
  | connectionDelete (uuid : String)
  | deviceDelete (objPath : String)
  | hostnameSet (hostname : String)
  | connectionAdd (nmConn : NmConnection) (memoryOnly : Bool)
  | connectionActivate (uuid : String)
  | connectionDeactivate (uuid : String)
  | globalDnsPurge
  | globalDnsSet (servers searches options : List String)
  deriving DecidableEq, Repr

def NmCall.deletedUuid : NmCall → Option String
  | .connectionDelete uuid => some uuid
  | _ => none

/-- The uuids a log deletes, in the order of the calls. -/
def deletedUuids (calls : List NmCall) : List String := calls.filterMap NmCall.deletedUuid

/-- Modelled from the spec: `NmApi` is not under src/. The backend: its profiles, active
connections and devices, the log of the calls that took effect, and which calls it refuses,
with which error, after which calls. -/
structure NmApi where
  conns : List NmConnection
  acs : List NmActiveConnection := []
  devs : List NmDevice := []
  calls : List NmCall := []
  refuse : List NmCall → NmCall → Option NmstateError := fun _ _ => none

/-- What a call does to the backend: a deletion removes the profile or device, an addition
replaces the profile of the same uuid; every other call leaves the state as it is. -/
def NmApi.perform (api : NmApi) : NmCall → NmApi
  | .connectionDelete uuid => { api with conns := api.conns.filter fun c => c.uuid != some uuid }
  | .deviceDelete objPath => { api with devs := api.devs.filter fun d => d.objPath != objPath }
  | .connectionAdd nmConn _ =>
    { api with conns := (api.conns.filter fun c => c.uuid != nmConn.uuid) ++ [nmConn] }
  | _ => api

/-- A call made: its effect, and its entry at the end of the log. -/
def NmApi.log (api : NmApi) (c : NmCall) : NmApi :=
  { api.perform c with calls := api.calls ++ [c] }

/-- The calls made one after another. -/
def NmApi.logAll (api : NmApi) (calls : List NmCall) : NmApi := calls.foldl NmApi.log api

@[simp] theorem NmApi.log_calls (api : NmApi) (c : NmCall) :
    (api.log c).calls = api.calls ++ [c] := rfl

@[simp] theorem NmApi.logAll_nil (api : NmApi) : api.logAll [] = api := rfl

@[simp] theorem NmApi.logAll_cons (api : NmApi) (c : NmCall) (calls : List NmCall) :
    api.logAll (c :: calls) = (api.log c).logAll calls := rfl

theorem NmApi.logAll_append (api : NmApi) (first second : List NmCall) :
    api.logAll (first ++ second) = (api.logAll first).logAll second := List.foldl_append _ _ _ _

@[simp] theorem NmApi.logAll_calls (api : NmApi) (calls : List NmCall) :
    (api.logAll calls).calls = api.calls ++ calls := by
  induction calls generalizing api with
  | nil => simp
  | cons c rest ih => simp [ih]

/-- A call that deletes no profile and adds none leaves the profiles as they are. -/
def NmCall.KeepsConns : NmCall → Prop
  | .connectionDelete _ | .connectionAdd _ _ => False
  | _ => True

@[simp] theorem NmApi.log_connectionsGet_conns (api : NmApi) :
    (api.log .connectionsGet).conns = api.conns := rfl

theorem NmApi.log_conns_of_keeps {c : NmCall} (keeps : c.KeepsConns) (api : NmApi) :
    (api.log c).conns = api.conns := by
  cases c <;> first | rfl | exact keeps.elim

/-- Whether the profile's uuid is one of `uuids`. -/
def NmConnection.hasUuidIn (nmConn : NmConnection) (uuids : List String) : Bool :=
  match nmConn.uuid with
  | some uuid => uuids.contains uuid
  | none => false

@[simp] theorem NmConnection.hasUuidIn_nil (nmConn : NmConnection) : nmConn.hasUuidIn [] = false := by
  unfold NmConnection.hasUuidIn; split <;> rfl

theorem NmConnection.hasUuidIn_cons (nmConn : NmConnection) (uuid : String) (rest : List String) :
    nmConn.hasUuidIn (uuid :: rest) = (nmConn.uuid == some uuid || nmConn.hasUuidIn rest) := by
  unfold NmConnection.hasUuidIn
  split <;> simp_all [List.contains_cons, Bool.or_comm, Bool.beq_eq_decide_eq]

theorem NmConnection.hasUuidIn_iff {nmConn : NmConnection} {uuids : List String} :
    nmConn.hasUuidIn uuids = true ↔ ∃ uuid ∈ uuids, nmConn.uuid = some uuid := by
  unfold NmConnection.hasUuidIn
  split <;> simp_all

/-- Deleting `uuids` one after another keeps exactly the profiles whose uuid is none of them. -/
theorem NmApi.logAll_delete_conns (api : NmApi) (uuids : List String) :
    (api.logAll (uuids.map .connectionDelete)).conns =
      api.conns.filter fun nmConn => !nmConn.hasUuidIn uuids := by
  induction uuids generalizing api with
  | nil => simp
  | cons uuid rest ih =>
    simp only [List.map_cons, logAll_cons, ih, log, perform, List.filter_filter,
      NmConnection.hasUuidIn_cons, Bool.not_or, bne, Bool.and_comm]

/-- Every connection has a uuid, and no two share one. -/
structure DistinctUuids (conns : List NmConnection) : Prop where
  hasUuid : ∀ nmConn ∈ conns, nmConn.uuid.isSome
  nodup : (conns.map NmConnection.uuid).Nodup

theorem DistinctUuids.sublist {conns kept : List NmConnection} (distinct : DistinctUuids conns)
    (sub : List.Sublist kept conns) : DistinctUuids kept :=
  ⟨fun nmConn member => distinct.hasUuid nmConn (sub.subset member), distinct.nodup.sublist (sub.map _)⟩

/-- Two profiles of a list with distinct uuids that share a uuid are the same profile. -/
theorem DistinctUuids.eq_of_uuid {conns : List NmConnection} (distinct : DistinctUuids conns)
    {first second : NmConnection} (firstIn : first ∈ conns) (secondIn : second ∈ conns)
    (same : first.uuid = second.uuid) : first = second :=
  List.inj_on_of_nodup_map distinct.nodup firstIn secondIn same

/-- The apply path's monad: a run over the backend that may fail with an `NmstateError`. -/
abbrev NmM := EStateM NmstateError NmApi

/-- The backend's answer to a call that returns `v`: a refused call fails with its error and
changes nothing; any other takes effect and is logged. -/
def NmApi.respond {α : Type} (api : NmApi) (c : NmCall) (v : α) : EStateM.Result NmstateError NmApi α :=
  match api.refuse api.calls c with
  | some e => .error e api
  | none => .ok v (api.log c)

def NmApi.call (c : NmCall) : NmM Unit := fun api => api.respond c ()

def NmApi.connectionsGet : NmM (List NmConnection) := do
  NmApi.call .connectionsGet
  return (← get).conns

def NmApi.activeConnectionsGet : NmM (List NmActiveConnection) := do
  NmApi.call .activeConnectionsGet
  return (← get).acs

def NmApi.devicesGet : NmM (List NmDevice) := do
  NmApi.call .devicesGet
  return (← get).devs

def NmApi.connectionDelete (uuid : String) : NmM Unit := NmApi.call (.connectionDelete uuid)

def NmApi.deviceDelete (objPath : String) : NmM Unit := NmApi.call (.deviceDelete objPath)

def NmApi.hostnameSet (hostname : String) : NmM Unit := NmApi.call (.hostnameSet hostname)

theorem NmM.bind_apply {α β : Type} (x : NmM α) (f : α → NmM β) (api : NmApi) :
    (x >>= f) api = match x api with
      | .ok v after => f v after
      | .error e after => .error e after := by
  simp only [bind, EStateM.bind]
  cases x api <;> rfl

@[simp] theorem NmM.pure_apply {α : Type} (v : α) (api : NmApi) :
    (pure v : NmM α) api = .ok v api := rfl

theorem NmApi.call_apply (c : NmCall) (api : NmApi) : NmApi.call c api = api.respond c () := rfl

/-- A query answers with what the backend holds, as a query changes nothing. -/
theorem NmApi.query_apply {α : Type} (c : NmCall) (read : NmApi → α)
    (same : ∀ api, read (api.log c) = read api) (api : NmApi) :
    (NmApi.call c >>= fun _ => do return read (← get)) api = api.respond c (read api) := by
  rw [NmM.bind_apply, call_apply]
  unfold respond
  cases api.refuse api.calls c with
  | some e => rfl
  | none => exact congrArg (EStateM.Result.ok · (api.log c)) (same api)

theorem NmApi.connectionsGet_apply (api : NmApi) :
    NmApi.connectionsGet api = api.respond .connectionsGet api.conns :=
  query_apply .connectionsGet NmApi.conns (fun _ => rfl) api

theorem NmApi.devicesGet_apply (api : NmApi) :
    NmApi.devicesGet api = api.respond .devicesGet api.devs :=
  query_apply .devicesGet NmApi.devs (fun _ => rfl) api

theorem NmApi.activeConnectionsGet_apply (api : NmApi) :
    NmApi.activeConnectionsGet api = api.respond .activeConnectionsGet api.acs :=
  query_apply .activeConnectionsGet NmApi.acs (fun _ => rfl) api

@[simp] theorem NmM.ofExcept_ok_apply {α : Type} (v : α) (api : NmApi) :
    (MonadExcept.ofExcept (.ok v : Except NmstateError α) : NmM α) api = .ok v api := rfl

@[simp] theorem NmM.ofExcept_error_apply {α : Type} (e : NmstateError) (api : NmApi) :
    (MonadExcept.ofExcept (.error e : Except NmstateError α) : NmM α) api = .error e api := rfl

@[simp] theorem NmM.tryCatch_apply {α : Type} (x : NmM α) (handler : NmstateError → NmM α)
    (api : NmApi) : (tryCatch x handler : NmM α) api = match x api with
      | .ok v after => .ok v after
      | .error e after => handler e after := by
  show EStateM.tryCatch x handler api = _
  unfold EStateM.tryCatch
  cases x api <;> rfl

/-- The backend a run of `x` from `api` leaves, whether it returns or fails. -/
def NmM.finalState {α : Type} (x : NmM α) (api : NmApi) : NmApi :=
  match x api with
  | .ok _ after => after
  | .error _ after => after

theorem NmM.finalState_of_ok {α : Type} {x : NmM α} {api after : NmApi} {v : α}
    (ran : x api = .ok v after) : x.finalState api = after := by
  rw [finalState, ran]

/-- A relation between backend states that holds from a state to itself and composes: what
a whole run may do, built from what each of its calls may do. -/
structure NmRun where
  rel : NmApi → NmApi → Prop
  refl : ∀ api, rel api api
  trans : ∀ {a b c}, rel a b → rel b c → rel a c

/-- Every run of `x`, returning or failing, takes the backend along `R`. -/
def NmM.Moves {α : Type} (R : NmRun) (x : NmM α) : Prop := ∀ api, R.rel api (x.finalState api)

section Moves

variable (R : NmRun)

theorem NmM.moves_pure {α : Type} (v : α) : (pure v : NmM α).Moves R := R.refl

theorem NmM.moves_get : (get : NmM NmApi).Moves R := R.refl

theorem NmM.moves_ofExcept {α : Type} (e : Except NmstateError α) :
    (MonadExcept.ofExcept e : NmM α).Moves R := by
  cases e <;> exact R.refl

/-- A query, answered as the backend answers its call, moves along `R` when the call does: a
refused call leaves the backend as it was. -/
theorem NmM.moves_query {α : Type} {x : NmM α} {c : NmCall} {read : NmApi → α}
    (run : ∀ api, x api = api.respond c (read api)) (step : ∀ api, R.rel api (api.log c)) :
    x.Moves R := by
  intro api
  unfold finalState
  rw [run]
  unfold NmApi.respond
  cases api.refuse api.calls c
  · exact step api
  · exact R.refl api

theorem NmM.moves_call {c : NmCall} (step : ∀ api, R.rel api (api.log c)) :
    (NmApi.call c).Moves R :=
  moves_query R (NmApi.call_apply c) step

variable {R}

theorem NmM.moves_bind {α β : Type} {x : NmM α} {f : α → NmM β} (first : x.Moves R)
    (rest : ∀ v, (f v).Moves R) : (x >>= f).Moves R := by
  intro api
  have start := first api
  unfold finalState at start ⊢
  rw [bind_apply]
  revert start
  cases x api with
  | ok v after => exact fun start => R.trans start (rest v after)
  | error e after => exact id

theorem NmM.moves_ofExcept_bind {α β : Type} {e : Except NmstateError α} {f : α → NmM β}
    (rest : ∀ v, e = .ok v → (f v).Moves R) : (MonadExcept.ofExcept e >>= f).Moves R := by
  intro api
  unfold finalState
  rw [bind_apply]
  cases e with
  | error err => exact R.refl api
  | ok v => exact rest v rfl api

/-- A caught error goes on with the handler from the backend the failed run left. -/
theorem NmM.moves_tryCatch {α : Type} {x : NmM α} {handler : NmstateError → NmM α}
    (first : x.Moves R) (recover : ∀ e, (handler e).Moves R) : (tryCatch x handler).Moves R := by
  intro api
  have start := first api
  unfold finalState at start ⊢
  rw [tryCatch_apply]
  revert start
  cases x api with
  | ok v after => exact id
  | error e after => exact fun start => R.trans start (recover e after)

theorem NmM.moves_forM {β : Type} {l : List β} {f : β → NmM PUnit}
    (each : ∀ b ∈ l, (f b).Moves R) : (l.forM f).Moves R := by
  induction l with
  | nil => exact moves_pure R _
  | cons b rest ih =>
    exact moves_bind (each b (.head _)) fun _ => ih fun b' member => each b' (.tail _ member)

end Moves

/-- The runs whose new calls all meet `ok`. -/
def NmRun.callsOnly (ok : NmCall → Prop) : NmRun where
  rel before after := ∃ new, after.calls = before.calls ++ new ∧ ∀ c ∈ new, ok c
  refl api := ⟨[], by simp, by simp⟩
  trans := by
    rintro a b c ⟨first, toB, firstOk⟩ ⟨second, toC, secondOk⟩
    refine ⟨first ++ second, by rw [toC, toB, List.append_assoc], fun call member => ?_⟩
    rcases List.mem_append.mp member with inFirst | inSecond
    exacts [firstOk call inFirst, secondOk call inSecond]

@[simp] theorem deletedUuids_map_delete (uuids : List String) :
    deletedUuids (uuids.map .connectionDelete) = uuids := by
  induction uuids with
  | nil => rfl
  | cons uuid rest ih => simpa [deletedUuids, NmCall.deletedUuid] using ih

@[simp] theorem deletedUuids_append (first second : List NmCall) :
    deletedUuids (first ++ second) = deletedUuids first ++ deletedUuids second :=
  List.filterMap_append _ _ _

theorem deletedUuids_initial {calls plan : List NmCall} (cut : calls <+: plan) :
    deletedUuids calls <+: deletedUuids plan :=
  cut.filterMap _

@[simp] theorem deletedUuids_connectionsGet (calls : List NmCall) :
    deletedUuids (.connectionsGet :: calls) = deletedUuids calls := rfl

theorem NmRun.callsOnly_log {ok : NmCall → Prop} {c : NmCall} (allowed : ok c) (api : NmApi) :
    (NmRun.callsOnly ok).rel api (api.log c) :=
  ⟨[c], rfl, by simpa using allowed⟩

/-- The runs that keep the profiles and make only calls that keep them. -/
def NmRun.keepsConns : NmRun where
  rel before after :=
    after.conns = before.conns ∧ (NmRun.callsOnly NmCall.KeepsConns).rel before after
  refl api := ⟨rfl, (NmRun.callsOnly _).refl api⟩
  trans first second := ⟨second.1.trans first.1, (NmRun.callsOnly _).trans first.2 second.2⟩

theorem NmRun.keepsConns_log {c : NmCall} (keeps : c.KeepsConns) (api : NmApi) :
    NmRun.keepsConns.rel api (api.log c) :=
  ⟨NmApi.log_conns_of_keeps keeps api, [c], rfl, by simpa using keeps⟩

theorem NmCall.deletedUuid_of_keeps {c : NmCall} (keeps : c.KeepsConns) : c.deletedUuid = none := by
  cases c <;> first | rfl | exact keeps.elim

theorem deletedUuids_of_keeps {calls : List NmCall} (keeps : ∀ c ∈ calls, c.KeepsConns) :
    deletedUuids calls = [] :=
  List.filterMap_eq_nil_iff.mpr fun c member => NmCall.deletedUuid_of_keeps (keeps c member)

/-- Run from `api`, `x` makes the calls of `plan` in turn and returns `value`, unless the backend
refuses one of them: every run stops after a prefix of `plan`, and a run that returns made all
of it. -/
structure NmM.Makes {α : Type} (x : NmM α) (api : NmApi) (plan : List NmCall) (value : α) : Prop where
  stops : ∃ taken, taken <+: plan ∧ x.finalState api = api.logAll taken
  returns : ∀ v after, x api = .ok v after → v = value ∧ after = api.logAll plan

/-- Run from `api`, `x` makes a prefix of `plan`, and from the backend that prefix leaves it
moves along `R`; a run that returns made all of `plan` first. -/
structure NmM.Follows {α : Type} (x : NmM α) (api : NmApi) (plan : List NmCall) (R : NmRun) :
    Prop where
  stops : ∃ taken, taken <+: plan ∧ R.rel (api.logAll taken) (x.finalState api)
  returns : ∀ v after, x api = .ok v after → R.rel (api.logAll plan) after

section Makes

variable {α β : Type} {x : NmM α} {f : α → NmM β} {api : NmApi} {plan more : List NmCall}

theorem NmM.makes_pure (v : α) (api : NmApi) : (pure v : NmM α).Makes api [] v :=
  ⟨⟨[], List.nil_prefix, rfl⟩, fun _ _ ran => by cases ran; exact ⟨rfl, rfl⟩⟩

/-- A query makes its one call and returns what the backend holds. -/
theorem NmM.makes_query {c : NmCall} {read : NmApi → α}
    (run : ∀ api, x api = api.respond c (read api)) (api : NmApi) : x.Makes api [c] (read api) := by
  constructor
  · unfold finalState
    rw [run]
    unfold NmApi.respond
    cases api.refuse api.calls c
    · exact ⟨[c], List.prefix_refl _, rfl⟩
    · exact ⟨[], List.nil_prefix, rfl⟩
  · intro v after ran
    rw [run] at ran
    unfold NmApi.respond at ran
    split at ran <;> cases ran
    exact ⟨rfl, rfl⟩

theorem NmM.makes_call (c : NmCall) (api : NmApi) : (NmApi.call c).Makes api [c] () :=
  makes_query (fun api => NmApi.call_apply c api) api

/-- A step that cannot return makes nothing it could be asked to. -/
theorem NmM.makes_ofExcept {e : Except NmstateError α} {value : α} (ok : ∀ v, e = .ok v → v = value)
    (api : NmApi) : (MonadExcept.ofExcept e : NmM α).Makes api [] value := by
  cases e with
  | error => exact ⟨⟨[], List.nil_prefix, rfl⟩, fun _ _ ran => nomatch ran⟩
  | ok v => exact (ok v rfl) ▸ makes_pure v api

/-- A bind after a step that makes `plan` either fails inside `plan` or runs the rest from the
end of `plan`. -/
theorem NmM.Makes.bind_stops_or_continues {a : α} (first : x.Makes api plan a) (f : α → NmM β) :
    (∃ taken e, taken <+: plan ∧ (x >>= f) api = .error e (api.logAll taken)) ∨
      (x >>= f) api = f a (api.logAll plan) := by
  rw [bind_apply]
  cases ran : x api with
  | ok v after =>
    obtain ⟨rfl, rfl⟩ := first.returns v after ran
    exact .inr rfl
  | error e after =>
    obtain ⟨taken, cut, final⟩ := first.stops
    unfold finalState at final
    rw [ran] at final
    exact .inl ⟨taken, e, cut, final ▸ rfl⟩

/-- Two steps make their plans one after the other. -/
theorem NmM.Makes.bind {a : α} {b : β} (first : x.Makes api plan a)
    (rest : (f a).Makes (api.logAll plan) more b) : (x >>= f).Makes api (plan ++ more) b := by
  rcases first.bind_stops_or_continues f with ⟨taken, e, cut, ran⟩ | ran
  · exact ⟨⟨taken, cut.trans (List.prefix_append _ _), by rw [finalState, ran]⟩,
      fun _ _ ok => nomatch ran.symm.trans ok⟩
  · obtain ⟨⟨taken, cut, final⟩, returns⟩ := rest
    refine ⟨⟨plan ++ taken, (List.prefix_append_right_inj plan).mpr cut, ?_⟩, fun v after ok => ?_⟩
    · rw [finalState, ran, NmApi.logAll_append, ← final]
      rfl
    · rw [NmApi.logAll_append]
      exact returns v after (ran ▸ ok)

/-- A run that makes `plan` and then moves along `R` follows `plan`, then `R`. -/
theorem NmM.Makes.follows_bind {R : NmRun} {a : α} (first : x.Makes api plan a)
    (rest : (f a).Moves R) : (x >>= f).Follows api plan R := by
  rcases first.bind_stops_or_continues f with ⟨taken, e, cut, ran⟩ | ran
  · exact ⟨⟨taken, cut, by rw [finalState, ran]; exact R.refl _⟩,
      fun _ _ ok => nomatch ran.symm.trans ok⟩
  · have moved := rest (api.logAll plan)
    refine ⟨⟨plan, List.prefix_refl _, by rw [finalState, ran]; exact moved⟩, fun v after ok => ?_⟩
    exact finalState_of_ok (ran.symm.trans ok) ▸ moved

theorem NmM.Makes.bind_follows {R : NmRun} {a : α} (first : x.Makes api plan a)
    (rest : (f a).Follows (api.logAll plan) more R) : (x >>= f).Follows api (plan ++ more) R := by
  rcases first.bind_stops_or_continues f with ⟨taken, e, cut, ran⟩ | ran
  · exact ⟨⟨taken, cut.trans (List.prefix_append _ _), by rw [finalState, ran]; exact R.refl _⟩,
      fun _ _ ok => nomatch ran.symm.trans ok⟩
  · obtain ⟨⟨taken, cut, moved⟩, returns⟩ := rest
    refine ⟨⟨plan ++ taken, (List.prefix_append_right_inj plan).mpr cut, ?_⟩, fun v after ok => ?_⟩
    · rw [finalState, ran, NmApi.logAll_append]
      exact moved
    · rw [NmApi.logAll_append]
      exact returns v after (ran ▸ ok)

/-- A loop of calls, one per element, makes them in order. -/
theorem NmM.makes_forM_call {γ : Type} (l : List γ) (c : γ → NmCall) (api : NmApi) :
    (l.forM fun b => NmApi.call (c b)).Makes api (l.map c) ⟨⟩ := by
  induction l generalizing api with
  | nil => exact makes_pure _ api
  | cons b rest ih => exact (makes_call (c b) api).bind (ih _)

end Makes

end Nmstate
