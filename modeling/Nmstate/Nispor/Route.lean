import Mathlib.Data.List.Forall2
import Nmstate.Base

namespace Nmstate

/-- `nispor::AddressFamily`. -/
inductive Nispor.AddressFamily where
  | ipv4 | ipv6 | other (code : UInt8) | unknown
  deriving DecidableEq, Repr

/-- `nispor::RouteProtocol`. -/
inductive Nispor.RouteProtocol where
  | unSpec | icmpRedirect | kernel | boot | static | gated | ra | mrt | zebra | bird
  | dnRouted | xorp | ntk | dhcp | mrouted | keepAlived | babel | bgp | isis | ospf | rip
  | eigrp | unknown | other (code : UInt8)
  deriving DecidableEq, Repr

/-- `nispor::RouteScope`. -/
inductive Nispor.RouteScope where
  | «universe» | site | link | host | noWhere | unknown | other (code : UInt8)
  deriving DecidableEq, Repr

/-- `nispor::RouteType`. -/
inductive Nispor.RouteType where
  | unSpec | unicast | «local» | broadcast | anycast | multicast | blackHole | unreachable
  | prohibit | throw | nat | externalResolve | unknown | other (code : UInt8)
  deriving DecidableEq, Repr

/-- One next hop of a `nispor::Route`'s multipath list. -/
structure Nispor.MultipathRoute where
  via : String
  iface : String
  weight : UInt16
  deriving DecidableEq, Repr

/-- The fields of `nispor::Route` that route.rs reads. -/
structure Nispor.Route where
  addressFamily : Nispor.AddressFamily
  table : UInt32
  protocol : Nispor.RouteProtocol
  scope : Nispor.RouteScope
  routeType : Nispor.RouteType
  dst : Option String := none
  oif : Option String := none
  metric : Option UInt32 := none
  preferedSrc : Option String := none
  via : Option String := none
  gateway : Option String := none
  lock : Option UInt32 := none
  cwnd : Option UInt32 := none
  multipath : Option (List Nispor.MultipathRoute) := none
  deriving DecidableEq, Repr

/-- `nispor::RouteConf`, the fields route.rs sets; the rest keep their defaults. -/
structure Nispor.RouteConf where
  remove : Bool := false
  dst : String := ""
  oif : Option String := none
  via : Option String := none
  metric : Option UInt32 := none
  table : Option UInt8 := none
  deriving DecidableEq, Repr

inductive RouteType where
  | blackhole | unreachable | prohibit
  deriving DecidableEq, Repr

inductive RouteState where
  | absent
  deriving DecidableEq, Repr

/-- `RouteEntry`, with the fields route.rs reads or writes. -/
structure RouteEntry where
  state : Option RouteState := none
  destination : Option String := none
  nextHopIface : Option String := none
  nextHopAddr : Option String := none
  metric : Option Int := none
  tableId : Option UInt32 := none
  weight : Option UInt16 := none
  routeType : Option RouteType := none
  cwnd : Option UInt32 := none
  source : Option String := none
  deriving DecidableEq, Repr

def RouteEntry.new : RouteEntry := {}

def RouteEntry.isAbsent (route : RouteEntry) : Bool := route.state == some .absent

structure Routes where
  running : Option (List RouteEntry) := none
  config : Option (List RouteEntry) := none
  deriving DecidableEq, Repr

def Routes.new : Routes := {}

structure MergedRoutes where
  changedRoutes : List RouteEntry

def SUPPORTED_ROUTE_SCOPE : List Nispor.RouteScope := [.«universe», .link]

def SUPPORTED_ROUTE_PROTOCOL : List Nispor.RouteProtocol :=
  [.boot, .static, .ra, .dhcp, .mrouted, .keepAlived, .babel]

def SUPPORTED_STATIC_ROUTE_PROTOCOL : List Nispor.RouteProtocol := [.boot, .static]

def IPV4_DEFAULT_GATEWAY : String := "0.0.0.0/0"
def IPV6_DEFAULT_GATEWAY : String := "::/0"
def IPV4_EMPTY_NEXT_HOP_ADDRESS : String := "0.0.0.0"
def IPV6_EMPTY_NEXT_HOP_ADDRESS : String := "::"

def RTAX_CWND : UInt32 := 7

/-- The destination both conversions compute: the route's own, or the default route of
its family; `none`, with a warning, for any other family. -/
def npRouteDestination (npRoute : Nispor.Route) : Option String :=
  match npRoute.dst with
  | some dst => some dst
  | none =>
    match npRoute.addressFamily with
    | .ipv4 => some IPV4_DEFAULT_GATEWAY
    | .ipv6 => some IPV6_DEFAULT_GATEWAY
    | _ => none

/-- The congestion window, kept only when its lock bit is set, as `man ip-route` asks. -/
def npRouteCwnd (npRoute : Nispor.Route) : Option UInt32 :=
  if npRoute.lock.getD 0 &&& 1 <<< RTAX_CWND != 0 then npRoute.cwnd else none

/-- `np_routetype_to_nmstate`: a blackhole, unreachable or prohibit route. -/
def npRoutetypeToNmstate (npRoute : Nispor.Route) : RouteEntry :=
  { RouteEntry.new with
    destination := npRouteDestination npRoute
    nextHopIface := if npRoute.addressFamily = .ipv6 then npRoute.oif else none
    metric := npRoute.metric.map fun metric => (metric.toNat : Int)
    tableId := some npRoute.table
    routeType :=
      match npRoute.routeType with
      | .blackHole => some .blackhole
      | .unreachable => some .unreachable
      | .prohibit => some .prohibit
      | _ => none
    cwnd := npRouteCwnd npRoute }

/-- `np_route_to_nmstate`: a route through an interface, whose next hop is its `via`, else
its gateway, else the empty address of its family. -/
def npRouteToNmstate (npRoute : Nispor.Route) : RouteEntry :=
  let nextHopAddr :=
    match npRoute.via with
    | some via => some via
    | none =>
      match npRoute.gateway with
      | some gateway => some gateway
      | none =>
        match npRoute.addressFamily with
        | .ipv4 => some IPV4_EMPTY_NEXT_HOP_ADDRESS
        | .ipv6 => some IPV6_EMPTY_NEXT_HOP_ADDRESS
        | _ => none
  { RouteEntry.new with
    destination := npRouteDestination npRoute
    nextHopIface := npRoute.oif
    nextHopAddr := nextHopAddr
    source := npRoute.preferedSrc
    metric := npRoute.metric.map fun metric => (metric.toNat : Int)
    tableId := some npRoute.table
    cwnd := npRouteCwnd npRoute }

def isMultipath (npRoute : Nispor.Route) : Bool :=
  (npRoute.multipath.map fun m => !m.isEmpty).getD false

/-- `flat_multipath_route`: one entry per next hop, converted from the route with that
hop's `via` and interface; only IPv4 entries carry the hop's weight. -/
def flatMultipathRoute (npRoute : Nispor.Route) : List RouteEntry :=
  match npRoute.multipath with
  | some mpathRoutes =>
    mpathRoutes.map fun mpRoute =>
      let route := npRouteToNmstate { npRoute with via := some mpRoute.via, oif := some mpRoute.iface }
      if npRoute.addressFamily = .ipv4 then { route with weight := some mpRoute.weight } else route
  | none => []

/-- The body both loops of `get_routes` run on one route, as the entries it pushes. -/
def npRouteEntries (npRoute : Nispor.Route) : List RouteEntry :=
  if isMultipath npRoute then flatMultipathRoute npRoute
  else if [Nispor.RouteType.blackHole, .unreachable, .prohibit].contains npRoute.routeType then
    [npRoutetypeToNmstate npRoute]
  else if npRoute.oif.isSome then [npRouteToNmstate npRoute]
  else []

/-- The routes of the nispor queries filtered on each of `protocols` in turn. A query
that fails is logged and skipped, so it adds nothing. -/
def queryRoutes (retrieve : Nispor.RouteProtocol → Option (List Nispor.Route))
    (protocols : List Nispor.RouteProtocol) : List Nispor.Route :=
  protocols.flatMap fun protocol => (retrieve protocol).getD []

def Nispor.Route.inSupportedScope (npRoute : Nispor.Route) : Bool :=
  SUPPORTED_ROUTE_SCOPE.contains npRoute.scope

def Nispor.Route.hasStaticProtocol (npRoute : Nispor.Route) : Bool :=
  SUPPORTED_STATIC_ROUTE_PROTOCOL.contains npRoute.protocol

/-- `get_routes`. `retrieve` is nispor's `retrieve_with_filter_async` on a protocol filter,
with `none` for a failed query. -/
def getRoutes (retrieve : Nispor.RouteProtocol → Option (List Nispor.Route))
    (runningConfigOnly : Bool) : Routes :=
  let protocols :=
    if runningConfigOnly then SUPPORTED_STATIC_ROUTE_PROTOCOL else SUPPORTED_ROUTE_PROTOCOL
  let npRoutes := queryRoutes retrieve protocols
  { Routes.new with
    running :=
      if runningConfigOnly then none
      else some ((npRoutes.filter Nispor.Route.inSupportedScope).flatMap npRouteEntries)
    config := some ((npRoutes.filter fun npRoute =>
      npRoute.inSupportedScope && npRoute.hasStaticProtocol).flatMap npRouteEntries) }

/-- `nmstate_to_nispor_route_conf`. -/
def nmstateToNisporRouteConf (nmstateRt : RouteEntry) : Except NmstateError Nispor.RouteConf := do
  let ret : Nispor.RouteConf :=
    { remove := nmstateRt.isAbsent
      dst := nmstateRt.destination.getD ""
      oif := nmstateRt.nextHopIface
      via := nmstateRt.nextHopAddr
      metric := nmstateRt.metric.bind fun m =>
        if 0 ≤ m ∧ m < UInt32.size then some (UInt32.ofNat m.toNat) else none }
  let ret ← match nmstateRt.tableId with
    | some tableId =>
      if tableId > 255 then
        throw ⟨.notImplementedError, s!"nispor apply does not support route table ID bigger than 255 yet, got {tableId}, ignoring"⟩
      else pure { ret with table := some tableId.toUInt8 }
    | none => pure ret
  if nmstateRt.weight.isSome then
    throw ⟨.notImplementedError, "nispor apply does not support route weight yet"⟩
  if nmstateRt.routeType.isSome then
    throw ⟨.notImplementedError, "nispor apply does not support route type yet"⟩
  if nmstateRt.cwnd.isSome then
    throw ⟨.notImplementedError, "nispor apply does not support route congestion window yet"⟩
  pure ret

/-- `gen_nispor_route_confs`: every changed route converted in order, stopping at the first
error. -/
def genNisporRouteConfs (mergedRoutes : MergedRoutes) :
    Except NmstateError (List Nispor.RouteConf) :=
  mergedRoutes.changedRoutes.mapM nmstateToNisporRouteConf

theorem queryRoutes_cons (retrieve : Nispor.RouteProtocol → Option (List Nispor.Route))
    (protocol : Nispor.RouteProtocol) (protocols : List Nispor.RouteProtocol) :
    queryRoutes retrieve (protocol :: protocols) =
      (retrieve protocol).getD [] ++ queryRoutes retrieve protocols := rfl

theorem flatMap_filter_sublist {α β : Type} (f : α → List β) (p : α → Bool) (l : List α) :
    List.Sublist ((l.filter p).flatMap f) (l.flatMap f) := by
  induction l with
  | nil => exact .slnil
  | cons head rest ih =>
    by_cases kept : p head
    · simpa [List.filter_cons, kept] using ih.append_left (f head)
    · simpa [List.filter_cons, kept] using ih.trans (List.sublist_append_right (f head) _)

/-- The config loop's filter is the running loop's, narrowed to Boot and Static routes. -/
theorem filter_scope_static (npRoutes : List Nispor.Route) :
    npRoutes.filter (fun npRoute => npRoute.inSupportedScope && npRoute.hasStaticProtocol) =
      (npRoutes.filter Nispor.Route.inSupportedScope).filter Nispor.Route.hasStaticProtocol := by
  simp [List.filter_filter, Bool.and_comm]

/-- Without `running_config_only` both views are built, and the config view is what the
running view derives from its Boot and Static routes: a sublist of it, in order. -/
theorem getRoutes_config_sublist_running
    (retrieve : Nispor.RouteProtocol → Option (List Nispor.Route)) :
    ∃ running config, getRoutes retrieve false = { running := some running, config := some config } ∧
      List.Sublist config running ∧
      running = ((queryRoutes retrieve SUPPORTED_ROUTE_PROTOCOL).filter
        Nispor.Route.inSupportedScope).flatMap npRouteEntries ∧
      config = (((queryRoutes retrieve SUPPORTED_ROUTE_PROTOCOL).filter
        Nispor.Route.inSupportedScope).filter Nispor.Route.hasStaticProtocol).flatMap npRouteEntries := by
  refine ⟨_, _, rfl, ?_, rfl, by rw [filter_scope_static]; rfl⟩
  rw [filter_scope_static]
  exact flatMap_filter_sublist _ _ _

/-- A query filtered on a protocol outside Boot and Static contributes nothing to the config
view, when it returns only routes of that protocol. -/
theorem config_filter_query_nonstatic
    {retrieve : Nispor.RouteProtocol → Option (List Nispor.Route)}
    (filtered : ∀ protocol routes, retrieve protocol = some routes →
      ∀ npRoute ∈ routes, npRoute.protocol = protocol)
    (protocol : Nispor.RouteProtocol) (nonstatic : protocol ∉ SUPPORTED_STATIC_ROUTE_PROTOCOL) :
    ((retrieve protocol).getD []).filter
      (fun npRoute => npRoute.inSupportedScope && npRoute.hasStaticProtocol) = [] := by
  cases queried : retrieve protocol with
  | none => rfl
  | some routes =>
    refine List.filter_eq_nil_iff.mpr fun npRoute member => ?_
    simp [Nispor.Route.hasStaticProtocol, filtered protocol routes queried npRoute member,
      nonstatic]

/-- The config view is the same list in both modes, when each protocol-filtered query
returns only routes of that protocol. -/
theorem getRoutes_config_mode_independent
    (retrieve : Nispor.RouteProtocol → Option (List Nispor.Route))
    (filtered : ∀ protocol routes, retrieve protocol = some routes →
      ∀ npRoute ∈ routes, npRoute.protocol = protocol) :
    (getRoutes retrieve true).config = (getRoutes retrieve false).config := by
  have nothing := config_filter_query_nonstatic filtered
  simp [getRoutes, SUPPORTED_ROUTE_PROTOCOL, SUPPORTED_STATIC_ROUTE_PROTOCOL, queryRoutes_cons,
    List.filter_append, nothing]

/-- A backend holding one static route through eth1 and one RA route, whose DHCP query
fails. -/
def sampleRetrieve : Nispor.RouteProtocol → Option (List Nispor.Route)
  | .static =>
    some [{ addressFamily := .ipv4, table := 254, protocol := .static, scope := .«universe»
            routeType := .unicast, dst := some "198.51.100.0/24", oif := some "eth1" }]
  | .ra =>
    some [{ addressFamily := .ipv6, table := 254, protocol := .ra, scope := .«universe»
            routeType := .unicast, oif := some "eth1", gateway := some "fe80::1" }]
  | .dhcp => none
  | _ => some []

theorem getRoutes_config_mode_independent_sample :
    (getRoutes sampleRetrieve true).config = (getRoutes sampleRetrieve false).config :=
  getRoutes_config_mode_independent sampleRetrieve fun protocol routes queried npRoute member => by
    cases protocol <;> simp only [sampleRetrieve, Option.some.injEq, reduceCtorEq] at queried <;>
      subst queried <;> simp_all


section Normalization

theorem npRouteToNmstate_hop (npRoute : Nispor.Route) (hop : Nispor.MultipathRoute) :
    npRouteToNmstate { npRoute with via := some hop.via, oif := some hop.iface } =
      { npRouteToNmstate npRoute with nextHopIface := some hop.iface, nextHopAddr := some hop.via } :=
  rfl

/-- Flattening converts the route once per hop, with the hop's interface and address and,
for IPv4, its weight. -/
theorem flatMultipathRoute_eq_map {npRoute : Nispor.Route} {hops : List Nispor.MultipathRoute}
    (multipath : npRoute.multipath = some hops) :
    flatMultipathRoute npRoute = hops.map fun hop =>
      { npRouteToNmstate npRoute with
        nextHopIface := some hop.iface
        nextHopAddr := some hop.via
        weight := if npRoute.addressFamily = .ipv4 then some hop.weight else none } := by
  simp only [flatMultipathRoute, multipath, npRouteToNmstate_hop]
  congr 1
  funext hop
  split <;> rfl

/-- A multipath route flattens to one entry per hop, in order: the hop's interface, address
and (IPv4 only) weight over the fields every entry shares with the route's own conversion. -/
theorem flatMultipathRoute_faithful (npRoute : Nispor.Route) (hops : List Nispor.MultipathRoute)
    (multipath : npRoute.multipath = some hops) :
    (flatMultipathRoute npRoute).length = hops.length ∧
    (∀ (k : Nat) (inRange : k < hops.length), ∃ entry, (flatMultipathRoute npRoute)[k]? = some entry ∧
      entry.nextHopIface = some hops[k].iface ∧ entry.nextHopAddr = some hops[k].via ∧
      entry.weight = (if npRoute.addressFamily = .ipv4 then some hops[k].weight else none) ∧
      entry.destination = (npRouteToNmstate npRoute).destination ∧
      entry.source = (npRouteToNmstate npRoute).source ∧
      entry.metric = (npRouteToNmstate npRoute).metric ∧
      entry.tableId = (npRouteToNmstate npRoute).tableId ∧
      entry.cwnd = (npRouteToNmstate npRoute).cwnd) ∧
    (flatMultipathRoute npRoute).map (fun entry => (entry.nextHopIface, entry.nextHopAddr)) =
      hops.map (fun hop => (some hop.iface, some hop.via)) ∧
    (npRoute.addressFamily = .ipv4 →
      (flatMultipathRoute npRoute).map RouteEntry.weight = hops.map fun hop => some hop.weight) := by
  rw [flatMultipathRoute_eq_map multipath]
  refine ⟨List.length_map _ _, fun k inRange => ?_, by simp, fun ipv4 => by simp [ipv4]⟩
  rw [List.getElem?_map, List.getElem?_eq_getElem inRange]
  exact ⟨_, rfl, rfl, rfl, rfl, rfl, rfl, rfl, rfl, rfl⟩

/-- A multipath route to 10.0.0.0/24 in table 254 through eth0 and eth1. -/
def twoHopRoute : Nispor.Route :=
  { addressFamily := .ipv4, table := 254, protocol := .static, scope := .«universe»
    routeType := .unicast, dst := some "10.0.0.0/24"
    multipath := some [⟨"192.168.1.1", "eth0", 1⟩, ⟨"192.168.2.1", "eth1", 2⟩] }

theorem flatMultipathRoute_faithful_twoHop :
    twoHopRoute.multipath = some [⟨"192.168.1.1", "eth0", 1⟩, ⟨"192.168.2.1", "eth1", 2⟩] ∧
      (flatMultipathRoute twoHopRoute).length = 2 :=
  ⟨rfl, (flatMultipathRoute_faithful twoHopRoute _ rfl).1⟩

/-- What a backend route turns into: its destination, else its family's default route; an entry
of a routable type names its interface, and as next hop the multipath hop's address, else `via`,
else the gateway, else its family's empty address. -/
def RouteEntry.NormalizedFrom (npRoute : Nispor.Route) (entry : RouteEntry) : Prop :=
  entry.destination = npRoute.dst.or
    (match npRoute.addressFamily with
     | .ipv4 => some IPV4_DEFAULT_GATEWAY
     | .ipv6 => some IPV6_DEFAULT_GATEWAY
     | _ => none) ∧
  (entry.routeType = none → entry.nextHopIface.isSome ∧
    (isMultipath npRoute → entry.nextHopAddr.isSome) ∧
    (isMultipath npRoute = false → entry.nextHopAddr = npRoute.via.or (npRoute.gateway.or
      (match npRoute.addressFamily with
       | .ipv4 => some IPV4_EMPTY_NEXT_HOP_ADDRESS
       | .ipv6 => some IPV6_EMPTY_NEXT_HOP_ADDRESS
       | _ => none))))

theorem npRouteDestination_eq (npRoute : Nispor.Route) :
    npRouteDestination npRoute = npRoute.dst.or
      (match npRoute.addressFamily with
       | .ipv4 => some IPV4_DEFAULT_GATEWAY
       | .ipv6 => some IPV6_DEFAULT_GATEWAY
       | _ => none) := by
  unfold npRouteDestination
  cases npRoute.dst <;> rfl

theorem normalizedFrom_npRouteEntries (npRoute : Nispor.Route) :
    ∀ entry ∈ npRouteEntries npRoute, entry.NormalizedFrom npRoute := by
  intro entry member
  unfold npRouteEntries at member
  split at member
  · rename_i multipath
    obtain ⟨hops, hasHops⟩ : ∃ hops, npRoute.multipath = some hops := by
      cases found : npRoute.multipath <;> simp_all [isMultipath]
    rw [flatMultipathRoute_eq_map hasHops] at member
    obtain ⟨hop, -, rfl⟩ := List.mem_map.mp member
    exact ⟨npRouteDestination_eq npRoute, fun _ => ⟨rfl, fun _ => rfl, by simp [multipath]⟩⟩
  · rename_i single
    split at member
    · obtain rfl := List.mem_singleton.mp member
      refine ⟨npRouteDestination_eq npRoute, fun untyped => ?_⟩
      rename_i typed
      have blocking : npRoute.routeType = .blackHole ∨ npRoute.routeType = .unreachable ∨
          npRoute.routeType = .prohibit := by
        simpa using typed
      rcases blocking with hit | hit | hit <;> simp [npRoutetypeToNmstate, hit] at untyped
    · split at member
      · rename_i hasOif
        obtain rfl := List.mem_singleton.mp member
        refine ⟨npRouteDestination_eq npRoute, fun _ => ⟨hasOif, by simp [single], fun _ => ?_⟩⟩
        unfold npRouteToNmstate
        cases npRoute.via <;> cases npRoute.gateway <;> rfl
      · cases member

/-- An entry of either view of `get_routes` comes from a queried route in a supported scope. -/
theorem mem_getRoutes {retrieve : Nispor.RouteProtocol → Option (List Nispor.Route)}
    {runningConfigOnly : Bool} {entry : RouteEntry}
    (member : entry ∈ (getRoutes retrieve runningConfigOnly).running.getD [] ++
      (getRoutes retrieve runningConfigOnly).config.getD []) :
    ∃ npRoute ∈ queryRoutes retrieve
        (if runningConfigOnly then SUPPORTED_STATIC_ROUTE_PROTOCOL else SUPPORTED_ROUTE_PROTOCOL),
      npRoute.inSupportedScope ∧ entry ∈ npRouteEntries npRoute := by
  rcases List.mem_append.mp member with running | config
  · cases runningConfigOnly
    · simp only [getRoutes, Bool.false_eq_true, if_false, Option.getD_some, List.mem_flatMap,
        List.mem_filter] at running
      obtain ⟨npRoute, ⟨queried, inScope⟩, produced⟩ := running
      exact ⟨npRoute, queried, inScope, produced⟩
    · simp [getRoutes] at running
  · simp only [getRoutes, Option.getD_some, List.mem_flatMap, List.mem_filter, Bool.and_eq_true]
      at config
    obtain ⟨npRoute, ⟨queried, inScope, -⟩, produced⟩ := config
    exact ⟨npRoute, queried, inScope, produced⟩

/-- Every entry `get_routes` emits, in either view and either mode, comes from a queried route
in a supported scope, and is normalized from it: a route of another family without a
destination is emitted with none, not dropped. -/
theorem getRoutes_entries_normalized (retrieve : Nispor.RouteProtocol → Option (List Nispor.Route))
    (runningConfigOnly : Bool) :
    ∀ entry ∈ (getRoutes retrieve runningConfigOnly).running.getD [] ++
        (getRoutes retrieve runningConfigOnly).config.getD [],
      ∃ npRoute ∈ queryRoutes retrieve
          (if runningConfigOnly then SUPPORTED_STATIC_ROUTE_PROTOCOL else SUPPORTED_ROUTE_PROTOCOL),
        npRoute.inSupportedScope ∧ entry.NormalizedFrom npRoute := by
  intro entry member
  obtain ⟨npRoute, queried, inScope, produced⟩ := mem_getRoutes member
  exact ⟨npRoute, queried, inScope, normalizedFrom_npRouteEntries npRoute entry produced⟩

/-- A backend whose one static route, through eth1, has neither a destination nor a family
nispor recognizes. -/
def unknownFamilyRetrieve : Nispor.RouteProtocol → Option (List Nispor.Route)
  | .static =>
    some [{ addressFamily := .unknown, table := 254, protocol := .static, scope := .«universe»
            routeType := .unicast, oif := some "eth1" }]
  | _ => some []

/-- What `get_routes` emits for that route: an entry through eth1 in table 254, with no
destination and no next-hop address. -/
def unknownFamilyEntry : RouteEntry := { nextHopIface := some "eth1", tableId := some 254 }

theorem getRoutes_entries_normalized_unknownFamily :
    unknownFamilyEntry ∈ (getRoutes unknownFamilyRetrieve false).running.getD [] ++
        (getRoutes unknownFamilyRetrieve false).config.getD [] ∧
      ∃ npRoute ∈ queryRoutes unknownFamilyRetrieve
          (if false then SUPPORTED_STATIC_ROUTE_PROTOCOL else SUPPORTED_ROUTE_PROTOCOL),
        npRoute.inSupportedScope ∧ unknownFamilyEntry.NormalizedFrom npRoute :=
  ⟨by decide, getRoutes_entries_normalized _ _ _ (by decide)⟩

theorem getRoutes_emits_route_without_destination :
    ¬ ∀ (retrieve : Nispor.RouteProtocol → Option (List Nispor.Route)) (runningConfigOnly : Bool),
      ∀ entry ∈ (getRoutes retrieve runningConfigOnly).running.getD [] ++
          (getRoutes retrieve runningConfigOnly).config.getD [],
        entry.destination.isSome := by
  intro allSet
  have emitted := allSet unknownFamilyRetrieve false
  revert emitted
  decide

end Normalization

section ApplyPath

/-- A route the nispor apply path can express: a table id of at most 255, and no weight,
route type or congestion window. -/
def RouteEntry.Convertible (rt : RouteEntry) : Prop :=
  (∀ tableId ∈ rt.tableId, tableId ≤ 255) ∧ rt.weight = none ∧ rt.routeType = none ∧
    rt.cwnd = none

/-- A nispor route conf that carries the route: its remove flag, destination, interface and
address, its metric when that fits a `u32`, and its table id, numerically. -/
def Nispor.RouteConf.Translates (rt : RouteEntry) (conf : Nispor.RouteConf) : Prop :=
  conf.remove = rt.isAbsent ∧ conf.dst = rt.destination.getD "" ∧ conf.oif = rt.nextHopIface ∧
    conf.via = rt.nextHopAddr ∧
    conf.metric.map (fun metric => (metric.toNat : Int)) =
      rt.metric.bind (fun metric => if 0 ≤ metric ∧ metric < UInt32.size then some metric else none) ∧
    conf.table.map UInt8.toNat = rt.tableId.map UInt32.toNat

/-- `nmstate_to_nispor_route_conf` on a route it can express, and its error on any other. -/
theorem nmstateToNisporRouteConf_cases (rt : RouteEntry) :
    (rt.Convertible → nmstateToNisporRouteConf rt = .ok
      { remove := rt.isAbsent
        dst := rt.destination.getD ""
        oif := rt.nextHopIface
        via := rt.nextHopAddr
        metric := rt.metric.bind fun m =>
          if 0 ≤ m ∧ m < UInt32.size then some (UInt32.ofNat m.toNat) else none
        table := rt.tableId.map UInt32.toUInt8 }) ∧
    (¬rt.Convertible → ∃ msg, nmstateToNisporRouteConf rt = .error ⟨.notImplementedError, msg⟩) := by
  obtain ⟨state, destination, nextHopIface, nextHopAddr, metric, tableId, weight, routeType, cwnd,
    source⟩ := rt
  simp only [RouteEntry.Convertible]
  rcases tableId with _ | tableId
  · cases weight <;> cases routeType <;> cases cwnd <;>
      simp [nmstateToNisporRouteConf, bind, Except.bind, pure, Except.pure, throw, throwThe,
        MonadExcept.throw, MonadExceptOf.throw]
  · by_cases big : 255 < tableId <;> cases weight <;> cases routeType <;> cases cwnd <;>
      simp [nmstateToNisporRouteConf, big, bind, Except.bind, pure, Except.pure, throw, throwThe,
        MonadExcept.throw, MonadExceptOf.throw]

theorem translates_of_convertible {rt : RouteEntry} (convertible : rt.Convertible) :
    Nispor.RouteConf.Translates rt
      { remove := rt.isAbsent
        dst := rt.destination.getD ""
        oif := rt.nextHopIface
        via := rt.nextHopAddr
        metric := rt.metric.bind fun m =>
          if 0 ≤ m ∧ m < UInt32.size then some (UInt32.ofNat m.toNat) else none
        table := rt.tableId.map UInt32.toUInt8 } := by
  refine ⟨rfl, rfl, rfl, rfl, ?_, ?_⟩
  · cases rt.metric with
    | none => rfl
    | some m =>
      by_cases fits : 0 ≤ m ∧ m < UInt32.size
      · simp only [Option.some_bind, if_pos fits, Option.map_some']
        rw [UInt32.toNat_ofNat_of_lt (by omega), Int.toNat_of_nonneg fits.1]
      · simp only [Option.some_bind, if_neg fits, Option.map_none']
  · cases table : rt.tableId with
    | none => rfl
    | some tableId =>
      have small : tableId.toNat ≤ 255 := convertible.1 tableId table
      simp only [Option.map_some']
      exact congrArg some (Nat.mod_eq_of_lt (by omega))

/-- What `nmstate_to_nispor_route_conf` returns a conf for, and what that conf carries. -/
theorem nmstateToNisporRouteConf_ok {rt : RouteEntry} {conf : Nispor.RouteConf}
    (ok : nmstateToNisporRouteConf rt = .ok conf) :
    rt.Convertible ∧ Nispor.RouteConf.Translates rt conf := by
  by_cases convertible : rt.Convertible
  · rw [(nmstateToNisporRouteConf_cases rt).1 convertible] at ok
    cases ok
    exact ⟨convertible, translates_of_convertible convertible⟩
  · obtain ⟨msg, failed⟩ := (nmstateToNisporRouteConf_cases rt).2 convertible
    rw [failed] at ok
    cases ok

theorem nmstateToNisporRouteConf_error {rt : RouteEntry} {e : NmstateError}
    (failed : nmstateToNisporRouteConf rt = .error e) : e.kind = .notImplementedError := by
  by_cases convertible : rt.Convertible
  · rw [(nmstateToNisporRouteConf_cases rt).1 convertible] at failed
    cases failed
  · obtain ⟨msg, rejected⟩ := (nmstateToNisporRouteConf_cases rt).2 convertible
    rw [rejected] at failed
    cases failed
    rfl

/-- `gen_nispor_route_confs` returns confs exactly when every changed route can be expressed,
and then one conf per route, in order, that carries it without wrapping the table id;
otherwise it fails with a `NotImplementedError`. -/
theorem genNisporRouteConfs_exact (mergedRoutes : MergedRoutes) :
    ((∃ confs, genNisporRouteConfs mergedRoutes = .ok confs) ↔
      ∀ rt ∈ mergedRoutes.changedRoutes, rt.Convertible) ∧
    (∀ e, genNisporRouteConfs mergedRoutes = .error e → e.kind = .notImplementedError) ∧
    (∀ confs, genNisporRouteConfs mergedRoutes = .ok confs →
      List.Forall₂ Nispor.RouteConf.Translates mergedRoutes.changedRoutes confs) := by
  refine ⟨⟨fun ⟨confs, ok⟩ rt member => ?_, fun all => ?_⟩, fun e failed => ?_, fun confs ok => ?_⟩
  · obtain ⟨conf, produced⟩ := exists_of_mapM_eq_ok ok member
    exact (nmstateToNisporRouteConf_ok produced).1
  · exact mapM_eq_ok_of_forall fun rt member =>
      ⟨_, (nmstateToNisporRouteConf_cases rt).1 (all rt member)⟩
  · obtain ⟨rt, -, failing⟩ := mapM_eq_error failed
    exact nmstateToNisporRouteConf_error failing
  · exact (forall₂_of_mapM_eq_ok ok).imp fun _ _ produced => (nmstateToNisporRouteConf_ok produced).2

/-- The fields every entry `get_routes` builds shares with its route. Only an IPv4 multipath hop
keeps a weight, and only a blackhole, unreachable or prohibit route keeps a route type. -/
theorem mem_npRouteEntries_fields {npRoute : Nispor.Route} {entry : RouteEntry}
    (member : entry ∈ npRouteEntries npRoute) :
    entry.state = none ∧ entry.destination = npRouteDestination npRoute ∧
      entry.metric = npRoute.metric.map (fun metric => (metric.toNat : Int)) ∧
      entry.tableId = some npRoute.table ∧ entry.cwnd = npRouteCwnd npRoute ∧
      (entry.weight = none ∧ entry.routeType = none ↔
        (isMultipath npRoute = true → npRoute.addressFamily ≠ .ipv4) ∧
        (isMultipath npRoute = false →
          npRoute.routeType ∉ [Nispor.RouteType.blackHole, .unreachable, .prohibit])) := by
  unfold npRouteEntries at member
  split at member
  · rename_i multipath
    obtain ⟨hops, hasHops⟩ : ∃ hops, npRoute.multipath = some hops := by
      cases found : npRoute.multipath <;> simp_all [isMultipath]
    rw [flatMultipathRoute_eq_map hasHops] at member
    obtain ⟨hop, -, rfl⟩ := List.mem_map.mp member
    by_cases ipv4 : npRoute.addressFamily = .ipv4 <;>
      simp [npRouteToNmstate, RouteEntry.new, ipv4, multipath]
  · rename_i single
    simp only [Bool.not_eq_true] at single
    split at member
    · rename_i typed
      obtain rfl := List.mem_singleton.mp member
      have blocking : npRoute.routeType = .blackHole ∨ npRoute.routeType = .unreachable ∨
          npRoute.routeType = .prohibit := by
        simpa using typed
      rcases blocking with hit | hit | hit <;> simp [npRoutetypeToNmstate, RouteEntry.new, hit, single]
    · rename_i untyped
      split at member
      · obtain rfl := List.mem_singleton.mp member
        simpa [npRouteToNmstate, RouteEntry.new, single] using untyped
      · cases member

/-- A `u32` metric read as an integer is written back as itself. -/
theorem metric_bind_toNat (metric : Option UInt32) :
    (metric.map fun metric => (metric.toNat : Int)).bind (fun m =>
      if 0 ≤ m ∧ m < UInt32.size then some (UInt32.ofNat m.toNat) else none) = metric := by
  cases metric with
  | none => rfl
  | some value =>
    have inRange : (0 : Int) ≤ (value.toNat : Int) ∧ (value.toNat : Int) < UInt32.size :=
      ⟨Int.ofNat_nonneg _, Int.ofNat_lt.mpr value.toNat_lt_size⟩
    rw [Option.map_some', Option.some_bind, if_pos inRange, Int.toNat_ofNat]
    exact congrArg some (UInt32.toNat.inj (UInt32.toNat_ofNat_of_lt value.toNat_lt_size))

theorem convertible_of_mem_npRouteEntries {npRoute : Nispor.Route} {entry : RouteEntry}
    (member : entry ∈ npRouteEntries npRoute) :
    entry.Convertible ↔ npRoute.table ≤ 255 ∧ npRouteCwnd npRoute = none ∧
      (isMultipath npRoute = true → npRoute.addressFamily ≠ .ipv4) ∧
      (isMultipath npRoute = false →
        npRoute.routeType ∉ [Nispor.RouteType.blackHole, .unreachable, .prohibit]) := by
  obtain ⟨-, -, -, tableId, cwnd, untyped⟩ := mem_npRouteEntries_fields member
  rw [← untyped, RouteEntry.Convertible, tableId, cwnd]
  simp only [Option.mem_def, Option.some.injEq, forall_eq']
  tauto

/-- A route `get_routes` reads can be written back through nispor exactly when its table id is at
most 255, its window unlocked, its type routable and it is no IPv4 multipath route; the write
keeps destination, metric and table. -/
theorem npRouteEntries_reapply (npRoute : Nispor.Route) :
    ∀ entry ∈ npRouteEntries npRoute,
      ((∃ conf, nmstateToNisporRouteConf entry = .ok conf) ↔
        npRoute.table ≤ 255 ∧ npRouteCwnd npRoute = none ∧
        (isMultipath npRoute = true → npRoute.addressFamily ≠ .ipv4) ∧
        (isMultipath npRoute = false →
          npRoute.routeType ∉ [Nispor.RouteType.blackHole, .unreachable, .prohibit])) ∧
      ∀ conf, nmstateToNisporRouteConf entry = .ok conf →
        conf.remove = false ∧ conf.dst = (npRouteDestination npRoute).getD "" ∧
        conf.metric = npRoute.metric ∧ conf.table.map UInt8.toNat = some npRoute.table.toNat := by
  intro entry member
  obtain ⟨state, destination, metric, tableId, -, -⟩ := mem_npRouteEntries_fields member
  have convertible := convertible_of_mem_npRouteEntries member
  refine ⟨⟨fun ⟨conf, ok⟩ => convertible.mp (nmstateToNisporRouteConf_ok ok).1, fun holds => ?_⟩,
    fun conf ok => ?_⟩
  · exact ⟨_, (nmstateToNisporRouteConf_cases entry).1 (convertible.mpr holds)⟩
  · obtain ⟨fits, remove, dst, -, -, -, table⟩ := nmstateToNisporRouteConf_ok ok
    refine ⟨by rw [remove, RouteEntry.isAbsent, state]; rfl, by rw [dst, destination], ?_,
      by rw [table, tableId]; rfl⟩
    rw [(nmstateToNisporRouteConf_cases entry).1 fits] at ok
    cases ok
    rw [metric, metric_bind_toNat]

/-- A static route of table 254 through eth1 with metric 100. -/
def eth1StaticRoute : Nispor.Route :=
  { addressFamily := .ipv4, table := 254, protocol := .static, scope := .«universe»
    routeType := .unicast, dst := some "198.51.100.0/24", oif := some "eth1", metric := some 100 }

theorem npRouteEntries_reapply_eth1 :
    ∃ entry ∈ npRouteEntries eth1StaticRoute, ∃ conf, nmstateToNisporRouteConf entry = .ok conf ∧
      conf.metric = some 100 ∧ conf.dst = "198.51.100.0/24" := by
  have member : npRouteToNmstate eth1StaticRoute ∈ npRouteEntries eth1StaticRoute := by decide
  have reapplied := npRouteEntries_reapply eth1StaticRoute _ member
  obtain ⟨conf, ok⟩ := reapplied.1.mpr ⟨by decide, by decide, by decide, by decide⟩
  obtain ⟨-, dst, metric, -⟩ := reapplied.2 conf ok
  exact ⟨_, member, conf, ok, metric, dst⟩

end ApplyPath

end Nmstate
