import Mathlib.Data.List.Count
import Mathlib.Data.List.Nodup

namespace Nmstate

/-- Interface kinds, including `unknown`, which a user record carries when it does
not say which kind it means. -/
inductive InterfaceType where
  | ethernet | bond | linuxBridge | ovsBridge | ovsInterface | vlan | vxlan | macVlan
  | macVtap | vrf | veth | dummy | loopback | infiniBand | ipVlan | hsr | macSec | ipsec
  | unknown
  | other (name : String)
  deriving DecidableEq, Repr

inductive InterfaceState where
  | up | down | absent | ignore | unknown
  deriving DecidableEq, Repr

inductive InterfaceIdentifier where
  | name | macAddress
  deriving DecidableEq, Repr

inductive WaitAllowIpState where
  | ipv4 | ipv6 | ipv4AndIpv6 | any
  deriving DecidableEq, Repr

/-- Modelled from the spec: `ErrorKind` is not under src/; these are the kinds its
error-handling section names. -/
inductive ErrorKind where
  | invalidArgument | notImplementedError | bug | backendError
  deriving DecidableEq, Repr

/-- `NmstateError`: a kind and the message shown to the user. -/
structure NmstateError where
  kind : ErrorKind
  msg : String
  deriving DecidableEq, Repr

/-- A successful `?` chain: each step succeeded with the value the next one takes. -/
theorem bind_eq_ok {ε α β : Type} {x : Except ε α} {f : α → Except ε β} {b : β} :
    x >>= f = .ok b ↔ ∃ a, x = .ok a ∧ f a = .ok b := by
  cases x <;> simp [bind, Except.bind]

/-- A failed `?` chain: the first step failed, or it succeeded and the rest failed. -/
theorem bind_eq_error {ε α β : Type} {x : Except ε α} {f : α → Except ε β} {e : ε} :
    x >>= f = .error e ↔ x = .error e ∨ ∃ a, x = .ok a ∧ f a = .error e := by
  cases x <;> simp [bind, Except.bind]

theorem pure_eq_ok {ε α : Type} {a b : α} : (pure a : Except ε α) = .ok b ↔ a = b :=
  ⟨fun same => by cases same; rfl, fun same => same ▸ rfl⟩

theorem forall₂_of_mapM_eq_ok {ε α β : Type} {f : α → Except ε β} {xs : List α} {ys : List β}
    (mapped : xs.mapM f = .ok ys) : List.Forall₂ (fun x y => f x = .ok y) xs ys := by
  induction xs generalizing ys with
  | nil => cases mapped; exact .nil
  | cons x xs ih =>
    simp only [List.mapM_cons] at mapped
    obtain ⟨y, first, mapped⟩ := bind_eq_ok.mp mapped
    obtain ⟨rest, others, mapped⟩ := bind_eq_ok.mp mapped
    cases mapped
    exact .cons first (ih others)

/-- Two lists related pairwise through a middle list are related by the composite. -/
theorem forall₂_trans {α β γ : Type} {R : α → β → Prop} {S : β → γ → Prop} {T : α → γ → Prop}
    {xs : List α} {ys : List β} {zs : List γ} (first : List.Forall₂ R xs ys)
    (second : List.Forall₂ S ys zs) (compose : ∀ x y z, R x y → S y z → T x z) :
    List.Forall₂ T xs zs := by
  induction first generalizing zs with
  | nil => cases second; exact .nil
  | cons related _ ih =>
    cases second with
    | cons next rest => exact .cons (compose _ _ _ related next) (ih rest)

/-- A property holds of every element of one list exactly when its counterpart holds of every
element of a list related to it pairwise. -/
theorem forall_iff_of_forall₂ {α β : Type} {R : α → β → Prop} {P : α → Prop} {Q : β → Prop}
    {xs : List α} {ys : List β} (pairs : List.Forall₂ R xs ys) (each : ∀ x y, R x y → (P x ↔ Q y)) :
    (∀ x ∈ xs, P x) ↔ ∀ y ∈ ys, Q y := by
  induction pairs with
  | nil => simp
  | cons related _ ih => simp only [List.forall_mem_cons, each _ _ related, ih]

/-- Every element of a successful `mapM` over `Except` converts. -/
theorem exists_of_mapM_eq_ok {ε α β : Type} {f : α → Except ε β} {xs : List α} {ys : List β}
    (mapped : xs.mapM f = .ok ys) {x : α} (member : x ∈ xs) : ∃ y, f x = .ok y := by
  have each := forall₂_of_mapM_eq_ok mapped
  clear mapped
  induction each with
  | nil => cases member
  | cons first _ ih =>
    rcases List.mem_cons.mp member with rfl | later
    · exact ⟨_, first⟩
    · exact ih later

/-- A `mapM` over `Except` succeeds once every element does. -/
theorem mapM_eq_ok_of_forall {ε α β : Type} {f : α → Except ε β} {xs : List α}
    (each : ∀ x ∈ xs, ∃ y, f x = .ok y) : ∃ ys, xs.mapM f = .ok ys := by
  induction xs with
  | nil => exact ⟨[], rfl⟩
  | cons x xs ih =>
    obtain ⟨y, first⟩ := each x (List.mem_cons_self _ _)
    obtain ⟨ys, rest⟩ := ih fun x member => each x (List.mem_cons_of_mem _ member)
    exact ⟨y :: ys, by rw [List.mapM_cons, first, rest]; rfl⟩

/-- A `mapM` over `Except` that fails returns the error of one of the elements. -/
theorem mapM_eq_error {ε α β : Type} {f : α → Except ε β} {xs : List α} {e : ε}
    (failed : xs.mapM f = .error e) : ∃ x ∈ xs, f x = .error e := by
  induction xs with
  | nil => cases failed
  | cons x xs ih =>
    simp only [List.mapM_cons] at failed
    cases first : f x with
    | error e' =>
      rw [first] at failed
      cases failed
      exact ⟨x, List.mem_cons_self _ _, first⟩
    | ok y =>
      rw [first] at failed
      cases rest : xs.mapM f with
      | error e' =>
        rw [rest] at failed
        cases failed
        obtain ⟨z, member, failing⟩ := ih rest
        exact ⟨z, List.mem_cons_of_mem _ member, failing⟩
      | ok ys =>
        rw [rest] at failed
        cases failed

/-- The nested configuration records a `BaseInterface` carries. Their contents are
left abstract: the overlay copies them whole, except the IP blocks, which overlay
through their own `update`. -/
structure NestedTypes where
  OvsDbIfaceConfig : Type
  Ieee8021XConfig : Type
  LldpConfig : Type
  EthtoolConfig : Type
  MptcpConfig : Type
  InterfaceIpv4 : Type
  InterfaceIpv6 : Type
  updateIpv4 : InterfaceIpv4 → InterfaceIpv4 → InterfaceIpv4
  updateIpv6 : InterfaceIpv6 → InterfaceIpv6 → InterfaceIpv6

/-- The attributes every interface kind shares. `propList` names the attributes the
user's record set explicitly, so that "unspecified" differs from "cleared". -/
structure BaseInterface (N : NestedTypes) where
  name : String
  profileName : Option String := none
  description : Option String := none
  ifaceType : InterfaceType
  state : InterfaceState
  identifier : Option InterfaceIdentifier := none
  mtu : Option UInt64 := none
  minMtu : Option UInt64 := none
  maxMtu : Option UInt64 := none
  macAddress : Option String := none
  permanentMacAddress : Option String := none
  controller : Option String := none
  controllerType : Option InterfaceType := none
  acceptAllMacAddresses : Option Bool := none
  ovsdb : Option N.OvsDbIfaceConfig := none
  ieee8021x : Option N.Ieee8021XConfig := none
  lldp : Option N.LldpConfig := none
  ethtool : Option N.EthtoolConfig := none
  mptcp : Option N.MptcpConfig := none
  waitIp : Option WaitAllowIpState := none
  ipv4 : Option N.InterfaceIpv4 := none
  ipv6 : Option N.InterfaceIpv6 := none
  propList : List String := []

variable {N : NestedTypes}

/-- `prop_list.contains(&prop)`. -/
def BaseInterface.touches (iface : BaseInterface N) (prop : String) : Bool :=
  iface.propList.contains prop

@[simp] theorem BaseInterface.touches_iff {iface : BaseInterface N} {prop : String} :
    iface.touches prop = true ↔ prop ∈ iface.propList := by
  simp [BaseInterface.touches]

/-- The IP-block branch of `update`: overlay `other`'s block onto the current one when
both are present, take `other`'s when only it is, keep the current one otherwise. -/
def updateIp {α : Type} (update : α → α → α) : Option α → Option α → Option α
  | some current, some other => some (update current other)
  | none, some other => some other
  | current, none => current

/-- The loop closing `update`: push every name of `other` that `self` does not hold yet. -/
def extendPropList (self other : List String) : List String :=
  other.foldl (fun names prop => if names.contains prop then names else names ++ [prop]) self

/-- `BaseInterface::update`, one field assignment per guarded copy of the source, in its
order. `mptcp` is copied twice, before and after the IP blocks, as in the source. -/
def BaseInterface.update (self other : BaseInterface N) : BaseInterface N :=
  have s := { self with name := if other.touches "name" then other.name else self.name }
  have s := { s with
    description := if other.touches "description" then other.description else s.description }
  have s := { s with
    ifaceType := if other.touches "iface_type" && other.ifaceType != .unknown
      then other.ifaceType else s.ifaceType }
  have s := { s with state := if other.touches "state" then other.state else s.state }
  have s := { s with mtu := if other.touches "mtu" then other.mtu else s.mtu }
  have s := { s with minMtu := if other.touches "min_mtu" then other.minMtu else s.minMtu }
  have s := { s with maxMtu := if other.touches "max_mtu" then other.maxMtu else s.maxMtu }
  have s := { s with
    macAddress := if other.touches "mac_address" then other.macAddress else s.macAddress }
  have s := { s with
    permanentMacAddress := if other.touches "permanent_mac_address"
      then other.permanentMacAddress else s.permanentMacAddress }
  have s := { s with
    controller := if other.touches "controller" then other.controller else s.controller }
  have s := { s with
    controllerType := if other.touches "controller_type"
      then other.controllerType else s.controllerType }
  have s := { s with
    acceptAllMacAddresses := if other.touches "accept_all_mac_addresses"
      then other.acceptAllMacAddresses else s.acceptAllMacAddresses }
  have s := { s with ovsdb := if other.touches "ovsdb" then other.ovsdb else s.ovsdb }
  have s := { s with
    ieee8021x := if other.touches "ieee8021x" then other.ieee8021x else s.ieee8021x }
  have s := { s with lldp := if other.touches "lldp" then other.lldp else s.lldp }
  have s := { s with ethtool := if other.touches "ethtool" then other.ethtool else s.ethtool }
  have s := { s with mptcp := if other.touches "mptcp" then other.mptcp else s.mptcp }
  have s := { s with waitIp := if other.touches "wait_ip" then other.waitIp else s.waitIp }
  have s := { s with
    ipv4 := if other.touches "ipv4" then updateIp N.updateIpv4 s.ipv4 other.ipv4 else s.ipv4 }
  have s := { s with
    ipv6 := if other.touches "ipv6" then updateIp N.updateIpv6 s.ipv6 other.ipv6 else s.ipv6 }
  have s := { s with mptcp := if other.touches "mptcp" then other.mptcp else s.mptcp }
  { s with propList := extendPropList s.propList other.propList }

/-- Every assignment of `update` at once. The second copy of `mptcp` writes the value
the first one wrote, so one guarded copy stands for both. -/
theorem BaseInterface.update_eq (s o : BaseInterface N) :
    s.update o = { s with
      name := if o.touches "name" then o.name else s.name
      description := if o.touches "description" then o.description else s.description
      ifaceType := if o.touches "iface_type" && o.ifaceType != .unknown
        then o.ifaceType else s.ifaceType
      state := if o.touches "state" then o.state else s.state
      mtu := if o.touches "mtu" then o.mtu else s.mtu
      minMtu := if o.touches "min_mtu" then o.minMtu else s.minMtu
      maxMtu := if o.touches "max_mtu" then o.maxMtu else s.maxMtu
      macAddress := if o.touches "mac_address" then o.macAddress else s.macAddress
      permanentMacAddress := if o.touches "permanent_mac_address"
        then o.permanentMacAddress else s.permanentMacAddress
      controller := if o.touches "controller" then o.controller else s.controller
      controllerType := if o.touches "controller_type" then o.controllerType else s.controllerType
      acceptAllMacAddresses := if o.touches "accept_all_mac_addresses"
        then o.acceptAllMacAddresses else s.acceptAllMacAddresses
      ovsdb := if o.touches "ovsdb" then o.ovsdb else s.ovsdb
      ieee8021x := if o.touches "ieee8021x" then o.ieee8021x else s.ieee8021x
      lldp := if o.touches "lldp" then o.lldp else s.lldp
      ethtool := if o.touches "ethtool" then o.ethtool else s.ethtool
      mptcp := if o.touches "mptcp" then o.mptcp else s.mptcp
      waitIp := if o.touches "wait_ip" then o.waitIp else s.waitIp
      ipv4 := if o.touches "ipv4" then updateIp N.updateIpv4 s.ipv4 o.ipv4 else s.ipv4
      ipv6 := if o.touches "ipv6" then updateIp N.updateIpv6 s.ipv6 o.ipv6 else s.ipv6
      propList := extendPropList s.propList o.propList } := by
  by_cases touched : o.touches "mptcp" <;> simp [BaseInterface.update, touched]


/-- Nested records with no content, whose IP overlays keep the newer block. -/
def unitNested : NestedTypes :=
  ⟨Unit, Unit, Unit, Unit, Unit, Unit, Unit, fun _ other => other, fun _ other => other⟩

theorem extendPropList_cons (self : List String) (prop : String) (rest : List String) :
    extendPropList self (prop :: rest) =
      extendPropList (if self.contains prop then self else self ++ [prop]) rest := rfl

theorem mem_extendPropList {self other : List String} {prop : String} :
    prop ∈ extendPropList self other ↔ prop ∈ self ∨ prop ∈ other := by
  induction other generalizing self with
  | nil => simp [extendPropList]
  | cons head rest ih =>
    rw [extendPropList_cons, ih]
    by_cases held : head ∈ self <;> simp [held] <;> aesop

/-- Names already held are never appended again. -/
theorem extendPropList_of_subset {self other : List String} (held : ∀ prop ∈ other, prop ∈ self) :
    extendPropList self other = self := by
  induction other with
  | nil => rfl
  | cons head rest ih =>
    rw [extendPropList_cons, if_pos (by simpa using held head (List.mem_cons_self _ _))]
    exact ih fun prop member => held prop (List.mem_cons_of_mem _ member)

/-- Extending by a list that was itself extended is extending twice. -/
theorem extendPropList_extendPropList (base self other : List String) :
    extendPropList base (extendPropList self other) =
      extendPropList (extendPropList base self) other := by
  induction other generalizing self with
  | nil => rfl
  | cons head rest ih =>
    rw [extendPropList_cons, ih, extendPropList_cons]
    congr 1
    by_cases held : head ∈ self
    · have carried : head ∈ extendPropList base self := mem_extendPropList.mpr (Or.inr held)
      simp [held, carried]
    · simp [held, extendPropList, List.foldl_append]

/-- How often a name occurs after the loop: as often as before when `self` held it,
once when only `other` did. -/
theorem count_extendPropList (self other : List String) (prop : String) :
    (extendPropList self other).count prop =
      if prop ∈ self then self.count prop else if prop ∈ other then 1 else 0 := by
  induction other generalizing self with
  | nil =>
    by_cases held : prop ∈ self
    · simp [extendPropList, held]
    · simp [extendPropList, held, List.count_eq_zero.mpr held]
  | cons head rest ih =>
    rw [extendPropList_cons, ih]
    by_cases held : head ∈ self
    · simp only [List.elem_iff, held, if_true, List.mem_cons]
      by_cases same : prop = head <;> simp_all
    · by_cases same : prop = head
      · subst same; simp [held, List.count_append, List.count_eq_zero.mpr held]
      · simp [held, same, List.count_append, List.count_singleton]

theorem updateIp_none_left {α : Type} (update : α → α → α) (other : Option α) :
    updateIp update none other = other := by
  cases other <;> rfl

/-- The IP-block overlay is associative whenever the block's own `update` is. -/
theorem updateIp_assoc {α : Type} {update : α → α → α}
    (assoc : ∀ a b c, update (update a b) c = update a (update b c)) (x a b : Option α) :
    updateIp update (updateIp update x a) b = updateIp update x (updateIp update a b) := by
  cases x <;> cases a <;> cases b <;> simp [updateIp, assoc]

theorem updateIp_twice {α : Type} {update : α → α → α}
    (twice : ∀ a b, update (update a b) b = update a b) (self : ∀ b, update b b = b)
    (x b : Option α) :
    updateIp update (updateIp update x b) b = updateIp update x b := by
  cases x <;> cases b <;> simp [updateIp, twice, self]


/-- Overlaying the same record twice is overlaying it once, the touched list included,
whenever the IP blocks' own overlays are idempotent in the same way. -/
theorem BaseInterface.update_update_self (X Y : BaseInterface N)
    (ipv4Twice : ∀ a b, N.updateIpv4 (N.updateIpv4 a b) b = N.updateIpv4 a b)
    (ipv4Self : ∀ b, N.updateIpv4 b b = b)
    (ipv6Twice : ∀ a b, N.updateIpv6 (N.updateIpv6 a b) b = N.updateIpv6 a b)
    (ipv6Self : ∀ b, N.updateIpv6 b b = b) :
    (X.update Y).update Y = X.update Y := by
  have props : extendPropList (extendPropList X.propList Y.propList) Y.propList =
      extendPropList X.propList Y.propList :=
    extendPropList_of_subset fun prop member => mem_extendPropList.mpr (Or.inr member)
  simp +contextual [update_eq, updateIp_twice ipv4Twice ipv4Self,
    updateIp_twice ipv6Twice ipv6Self, props]

theorem update_update_self_bond :
    ((({ name := "bond0", ifaceType := .bond, state := .up } : BaseInterface unitNested).update
      { name := "bond0", ifaceType := .bond, state := .down, mtu := some 1400,
        propList := ["state", "mtu"] }).update
      { name := "bond0", ifaceType := .bond, state := .down, mtu := some 1400,
        propList := ["state", "mtu"] }) =
    ({ name := "bond0", ifaceType := .bond, state := .up } : BaseInterface unitNested).update
      { name := "bond0", ifaceType := .bond, state := .down, mtu := some 1400,
        propList := ["state", "mtu"] } :=
  BaseInterface.update_update_self _ _ (fun _ _ => rfl) (fun _ => rfl) (fun _ _ => rfl)
    (fun _ => rfl)

/-- Two guarded copies whose guards never hold together can be made in either order. -/
theorem ite_touched_comm {α : Type} {p q : Prop} [Decidable p] [Decidable q] (f g : α → α)
    (x : α) (apart : ¬(p ∧ q)) :
    (if q then g (if p then f x else x) else if p then f x else x) =
      if p then f (if q then g x else x) else if q then g x else x := by
  by_cases q <;> by_cases p <;> simp_all

/-- Two overlays whose touched lists share no name commute: every attribute agrees, and
the touched lists hold the same names as often, in possibly another order. -/
theorem BaseInterface.update_comm_of_disjoint (X Y Z : BaseInterface N)
    (disjoint : ∀ prop ∈ Y.propList, prop ∉ Z.propList) :
    (X.update Y).update Z = { (X.update Z).update Y with
      propList := ((X.update Y).update Z).propList } ∧
    ((X.update Y).update Z).propList.Perm ((X.update Z).update Y).propList := by
  have apart : ∀ prop, ¬(prop ∈ Y.propList ∧ prop ∈ Z.propList) :=
    fun prop both => disjoint prop both.1 both.2
  constructor
  · simp only [update_eq, touches_iff, BaseInterface.mk.injEq, true_and, and_true]
    and_intros
    all_goals try exact ite_touched_comm (fun _ => _) (fun _ => _) _ (apart _)
    · refine ite_touched_comm (fun _ => _) (fun _ => _) _ fun both => apart "iface_type" ?_
      simp only [Bool.and_eq_true, touches_iff] at both
      exact ⟨both.1.1, both.2.1⟩
    all_goals exact ite_touched_comm (updateIp _ · _) (updateIp _ · _) _ (apart _)
  · rw [List.perm_iff_count]
    intro prop
    simp only [update_eq, count_extendPropList, mem_extendPropList]
    by_cases inX : prop ∈ X.propList <;> by_cases inY : prop ∈ Y.propList
    all_goals by_cases inZ : prop ∈ Z.propList <;> simp [inX, inY, inZ, disjoint prop]


theorem update_comm_of_disjoint_state_mtu :
    (((({ name := "eth1", ifaceType := .ethernet, state := .up } : BaseInterface unitNested).update
      { name := "eth1", ifaceType := .ethernet, state := .down, propList := ["state"] }).update
      { name := "eth1", ifaceType := .ethernet, state := .up, mtu := some 9000,
        propList := ["mtu"] }) =
    { ((({ name := "eth1", ifaceType := .ethernet, state := .up } : BaseInterface unitNested).update
      { name := "eth1", ifaceType := .ethernet, state := .up, mtu := some 9000,
        propList := ["mtu"] }).update
      { name := "eth1", ifaceType := .ethernet, state := .down, propList := ["state"] }) with
      propList := ["state", "mtu"] }) ∧
    ((({ name := "eth1", ifaceType := .ethernet, state := .up } : BaseInterface unitNested).update
      { name := "eth1", ifaceType := .ethernet, state := .down, propList := ["state"] }).update
      { name := "eth1", ifaceType := .ethernet, state := .up, mtu := some 9000,
        propList := ["mtu"] }).propList.Perm
    ((({ name := "eth1", ifaceType := .ethernet, state := .up } : BaseInterface unitNested).update
      { name := "eth1", ifaceType := .ethernet, state := .up, mtu := some 9000,
        propList := ["mtu"] }).update
      { name := "eth1", ifaceType := .ethernet, state := .down, propList := ["state"] }).propList :=
  BaseInterface.update_comm_of_disjoint _ _ _ (by decide)

/-- The overlay is not associative: `A.update B` keeps the known type `A` holds untouched, as
`B`'s touched `unknown` type never overwrites, and then hands it to `X`. -/
theorem update_not_assoc :
    ¬ ∀ (N : NestedTypes),
      (∀ a b c, N.updateIpv4 (N.updateIpv4 a b) c = N.updateIpv4 a (N.updateIpv4 b c)) →
      (∀ a b c, N.updateIpv6 (N.updateIpv6 a b) c = N.updateIpv6 a (N.updateIpv6 b c)) →
      ∀ X A B : BaseInterface N, (X.update A).update B = X.update (A.update B) := by
  intro assoc
  have same := congrArg BaseInterface.ifaceType
    (assoc unitNested (fun _ _ _ => rfl) (fun _ _ _ => rfl)
      { name := "eth1", ifaceType := .bond, state := .up }
      { name := "eth1", ifaceType := .ethernet, state := .up }
      { name := "eth1", ifaceType := .unknown, state := .up, propList := ["iface_type"] })
  simp [BaseInterface.update_eq, mem_extendPropList] at same

/-- One guarded copy followed by another is one copy guarded by either touch. -/
theorem ite_touched_assoc {α : Type} {p q : Prop} [Decidable p] [Decidable q] (x a b : α) :
    (if q then b else if p then a else x) = if p ∨ q then (if q then b else a) else x := by
  by_cases q <;> by_cases p <;> simp [*]

/-- The overlay is associative, given associative IP-block overlays, unless `B` touches an
attribute that `A` holds without touching it: a known type that `B` replaces by `Unknown`, or an
IP block. -/
theorem BaseInterface.update_assoc (X A B : BaseInterface N)
    (ipv4Assoc : ∀ a b c, N.updateIpv4 (N.updateIpv4 a b) c = N.updateIpv4 a (N.updateIpv4 b c))
    (ipv6Assoc : ∀ a b c, N.updateIpv6 (N.updateIpv6 a b) c = N.updateIpv6 a (N.updateIpv6 b c))
    (typeTouched : A.ifaceType = .unknown ∨ "iface_type" ∈ A.propList ∨
      "iface_type" ∉ B.propList ∨ B.ifaceType ≠ .unknown)
    (ipv4Touched : A.ipv4 = none ∨ "ipv4" ∈ A.propList ∨ "ipv4" ∉ B.propList)
    (ipv6Touched : A.ipv6 = none ∨ "ipv6" ∈ A.propList ∨ "ipv6" ∉ B.propList) :
    (X.update A).update B = X.update (A.update B) := by
  simp only [update_eq, touches_iff, BaseInterface.mk.injEq, mem_extendPropList,
    extendPropList_extendPropList, Bool.and_eq_true, bne_iff_ne, ne_eq, true_and, and_true]
  and_intros
  all_goals try exact ite_touched_assoc _ _ _
  · by_cases hb : "iface_type" ∈ B.propList <;> by_cases ha : "iface_type" ∈ A.propList <;>
      by_cases bu : B.ifaceType = .unknown <;> simp_all
  · by_cases hb : "ipv4" ∈ B.propList <;> by_cases ha : "ipv4" ∈ A.propList <;>
      simp_all [updateIp_assoc, updateIp_none_left]
  · by_cases hb : "ipv6" ∈ B.propList <;> by_cases ha : "ipv6" ∈ A.propList <;>
      simp_all [updateIp_assoc, updateIp_none_left]

/-- `A` holds a known type it never touched; `B` touches only the state. -/
theorem update_assoc_bond :
    ((({ name := "bond0", ifaceType := .bond, state := .up } : BaseInterface unitNested).update
      { name := "bond0", ifaceType := .ethernet, state := .down, propList := ["state"] }).update
      { name := "bond0", ifaceType := .unknown, state := .up, propList := ["state"] }) =
    ({ name := "bond0", ifaceType := .bond, state := .up } : BaseInterface unitNested).update
      (({ name := "bond0", ifaceType := .ethernet, state := .down, propList := ["state"] }
        : BaseInterface unitNested).update
        { name := "bond0", ifaceType := .unknown, state := .up, propList := ["state"] }) :=
  BaseInterface.update_assoc _ _ _ (fun _ _ _ => rfl) (fun _ _ _ => rfl)
    (Or.inr (Or.inr (Or.inl (by decide)))) (Or.inl rfl) (Or.inl rfl)


section OverlayContract

/-- The prop-list loop from a list `acc ++ bs.reverse`, where `bs` is what the first-occurrence
dedup loop has kept so far of the names `acc` lacks. -/
theorem extendPropList_eq_loop (acc bs other : List String) :
    extendPropList (acc ++ bs.reverse) other =
      acc ++ List.eraseDups.loop (other.filter (· ∉ acc)) bs := by
  induction other generalizing bs with
  | nil => rfl
  | cons prop rest ih =>
    rw [extendPropList_cons]
    by_cases held : prop ∈ acc
    · rw [if_pos (by simp [held]), List.filter_cons_of_neg (by simpa using held)]
      exact ih bs
    · rw [List.filter_cons_of_pos (by simpa using held)]
      by_cases kept : prop ∈ bs
      · rw [if_pos (by simp [kept]), ih bs]
        simp [List.eraseDups.loop, kept]
      · rw [if_neg (by simp [held, kept]), List.append_assoc,
          show bs.reverse ++ [prop] = (prop :: bs).reverse by simp, ih]
        simp [List.eraseDups.loop, kept]

/-- The prop-list loop appends the names `self` lacks, each once, in first-occurrence order. -/
theorem extendPropList_eq_eraseDups (self other : List String) :
    extendPropList self other = self ++ (other.filter (· ∉ self)).eraseDups := by
  simpa only [List.reverse_nil, List.append_nil] using extendPropList_eq_loop self [] other

theorem nodup_extendPropList {self : List String} (distinct : self.Nodup) (other : List String) :
    (extendPropList self other).Nodup := by
  rw [List.nodup_iff_count_le_one]
  intro prop
  rw [count_extendPropList]
  split_ifs
  · exact List.nodup_iff_count_le_one.mp distinct prop
  · exact le_refl 1
  · exact Nat.zero_le 1

theorem updateIp_eq_or {α : Type} (update : α → α → α) (current other : Option α) :
    updateIp update current other =
      (other.map fun theirs => (current.map (update · theirs)).getD theirs).or current := by
  cases current <;> cases other <;> rfl

/-- The overlay as its contract states it: each attribute `other` touches comes from `other`
(the type only when known, an IP block overlaid onto `self`'s); the rest is `self`'s; the prop
list gains `other`'s new names once, in order. -/
def BaseInterface.overlay (s o : BaseInterface N) : BaseInterface N :=
  { s with
    name := if "name" ∈ o.propList then o.name else s.name
    description := if "description" ∈ o.propList then o.description else s.description
    ifaceType := if "iface_type" ∈ o.propList ∧ o.ifaceType ≠ .unknown
      then o.ifaceType else s.ifaceType
    state := if "state" ∈ o.propList then o.state else s.state
    mtu := if "mtu" ∈ o.propList then o.mtu else s.mtu
    minMtu := if "min_mtu" ∈ o.propList then o.minMtu else s.minMtu
    maxMtu := if "max_mtu" ∈ o.propList then o.maxMtu else s.maxMtu
    macAddress := if "mac_address" ∈ o.propList then o.macAddress else s.macAddress
    permanentMacAddress := if "permanent_mac_address" ∈ o.propList
      then o.permanentMacAddress else s.permanentMacAddress
    controller := if "controller" ∈ o.propList then o.controller else s.controller
    controllerType := if "controller_type" ∈ o.propList then o.controllerType else s.controllerType
    acceptAllMacAddresses := if "accept_all_mac_addresses" ∈ o.propList
      then o.acceptAllMacAddresses else s.acceptAllMacAddresses
    ovsdb := if "ovsdb" ∈ o.propList then o.ovsdb else s.ovsdb
    ieee8021x := if "ieee8021x" ∈ o.propList then o.ieee8021x else s.ieee8021x
    lldp := if "lldp" ∈ o.propList then o.lldp else s.lldp
    ethtool := if "ethtool" ∈ o.propList then o.ethtool else s.ethtool
    mptcp := if "mptcp" ∈ o.propList then o.mptcp else s.mptcp
    waitIp := if "wait_ip" ∈ o.propList then o.waitIp else s.waitIp
    ipv4 := if "ipv4" ∈ o.propList
      then (o.ipv4.map fun theirs => (s.ipv4.map (N.updateIpv4 · theirs)).getD theirs).or s.ipv4
      else s.ipv4
    ipv6 := if "ipv6" ∈ o.propList
      then (o.ipv6.map fun theirs => (s.ipv6.map (N.updateIpv6 · theirs)).getD theirs).or s.ipv6
      else s.ipv6
    propList := s.propList ++ (o.propList.filter (· ∉ s.propList)).eraseDups }

/-- `update` meets its overlay contract for every pair of interfaces; each new name lands in
the prop list exactly once, and a prop list without duplicates keeps none. -/
theorem BaseInterface.update_overlay (s o : BaseInterface N) :
    s.update o = s.overlay o ∧
      (∀ prop ∈ o.propList, prop ∉ s.propList → (s.update o).propList.count prop = 1) ∧
      (s.propList.Nodup → (s.update o).propList.Nodup) := by
  have props : (s.update o).propList = extendPropList s.propList o.propList := by rw [update_eq]
  refine ⟨?_, fun prop named fresh => ?_, fun distinct => props ▸ nodup_extendPropList distinct _⟩
  · rw [update_eq, overlay, extendPropList_eq_eraseDups, updateIp_eq_or, updateIp_eq_or]
    simp only [touches_iff, Bool.and_eq_true, bne_iff_ne, ne_eq]
  · rw [props, count_extendPropList, if_neg fresh, if_pos named]

end OverlayContract

end Nmstate
