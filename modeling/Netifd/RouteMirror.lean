import Netifd.AddressMirror

/-!
# The routes in the kernel

The routes of one interface with a device of its own, and the routing table of the kernel
that `system_add_route` and `system_del_route` write, with all calls succeeding. The metric
and the tables of the interface stay as they are.
-/

namespace Netifd
open MirroredTable GuardedRuns

/-- `struct device_route`; addresses are the numbers that their bytes spell. -/
structure DeviceRoute where
  enabled : Bool := false
  failed : Bool := false
  nexthop : ℕ := 0
  mtu : ℕ := 0
  type : ℕ := 0
  proto : ℕ := 0
  flags : ℕ
  metric : ℤ := 0
  table : ℕ := 0
  mask : ℕ
  sourcemask : ℕ := 0
  addr : ℕ := 0
  source : ℕ := 0
  deriving DecidableEq

/-- What the routes of an interface depend on besides the routes. -/
structure RouteParams where
  metric : ℤ := 0
  ip4table : ℕ := 0
  ip6table : ℕ := 0
  noDefaultroute : Bool := false

def RT_TABLE_MAIN : ℕ := 254
def RT_TABLE_LOCAL : ℕ := 255
def RTPROT_STATIC : ℕ := 4
def RTN_UNICAST : ℕ := 1
def RTN_LOCAL : ℕ := 2
def RTN_BROADCAST : ℕ := 3
def RTN_ANYCAST : ℕ := 4
def RTN_NAT : ℕ := 10

/-- Family, table, destination, metric and source. -/
structure RouteKey where
  v6 : Bool
  table : ℕ
  dst : ℕ
  mask : ℕ
  metric : ℤ
  source : ℕ
  sourcemask : ℕ
  deriving DecidableEq

/-- What the kernel does with packets for a route. -/
structure RouteValue where
  nexthop : ℕ
  mtu : Option ℕ
  type : ℕ
  proto : ℕ
  deriving DecidableEq

namespace DeviceRoute

def external (r : DeviceRoute) : Bool := hasFlag r.flags DEVADDR_EXTERNAL

def v6 (r : DeviceRoute) : Bool := hasFlag r.flags DEVADDR_INET6

/-- The table of a route whose flags name none depends on its type. -/
def kernelTable (r : DeviceRoute) : ℕ :=
  if hasFlag r.flags DEVROUTE_TABLE || hasFlag r.flags DEVROUTE_SRCTABLE then r.table
  else if hasFlag r.flags DEVROUTE_TYPE && [RTN_LOCAL, RTN_BROADCAST, RTN_NAT, RTN_ANYCAST].contains
    r.type then RT_TABLE_LOCAL
  else RT_TABLE_MAIN

/-- What `system_rt` names a route by: an attribute that it leaves out counts as zero. -/
def kernelKey (r : DeviceRoute) : RouteKey where
  v6 := r.v6
  table := r.kernelTable
  dst := if r.mask ≠ 0 then r.addr else 0
  mask := r.mask
  metric := if r.metric > 0 then r.metric else 0
  source := if r.sourcemask ≠ 0 then r.source else 0
  sourcemask := r.sourcemask

/-- What `system_rt` sends along for a new route. -/
def kernelValue (r : DeviceRoute) : RouteValue where
  nexthop := r.nexthop
  mtu := if hasFlag r.flags DEVROUTE_MTU then some r.mtu else none
  type := if hasFlag r.flags DEVROUTE_TYPE then r.type else RTN_UNICAST
  proto := if hasFlag r.flags DEVROUTE_PROTO then r.proto else RTPROT_STATIC

/-- The route is meant to be in the kernel. -/
def live (r : DeviceRoute) : Bool := r.enabled && !r.external

end DeviceRoute

/-- What `route_cmp` returns, before it is made an `int`. -/
def routeDiff (r1 r2 : DeviceRoute) : ℤ :=
  if r1.mask ≠ r2.mask then r2.mask - r1.mask
  else if r1.metric ≠ r2.metric then r1.metric - r2.metric
  else if r1.flags ≠ r2.flags then r2.flags - r1.flags
  else if r1.sourcemask ≠ r2.sourcemask then r1.sourcemask - r2.sourcemask
  else if r1.table ≠ r2.table then r1.table - r2.table
  else if memcmp r1.source r2.source ≠ 0 then memcmp r1.source r2.source
  else memcmp r1.addr r2.addr

def routeCmp (r1 r2 : DeviceRoute) : ℤ := (routeDiff r1 r2).bmod (2 ^ 32)

/-- The difference that decides is one that an `int` holds. -/
def Comparable (a b : DeviceRoute) : Prop := -2 ^ 31 < routeDiff a b ∧ routeDiff a b < 2 ^ 31

/-- The first half of `interface_set_route_info`. -/
def setRouteMetric (iface : RouteParams) (route : DeviceRoute) : DeviceRoute :=
  if !hasFlag route.flags DEVROUTE_METRIC then { route with metric := iface.metric } else route

/-- The second half of `interface_set_route_info`. -/
def setRouteTable (iface : RouteParams) (route : DeviceRoute) : DeviceRoute :=
  if !hasFlag route.flags DEVROUTE_TABLE then
    let table := if route.v6 then iface.ip6table else iface.ip4table
    { route with
      table
      flags := if table ≠ 0 then route.flags ||| 2 ^ DEVROUTE_SRCTABLE else route.flags }
  else route

def interfaceSetRouteInfo (iface : RouteParams) (route : DeviceRoute) : DeviceRoute :=
  setRouteTable iface (setRouteMetric iface route)

/-- The route that `parse_gateway_option` adds. -/
def parseGatewayOption (iface : RouteParams) (v6 : Bool) (nexthop : ℕ) : DeviceRoute :=
  let flags := if v6 then 1 else 0
  let table := if v6 then iface.ip6table else iface.ip4table
  let route : DeviceRoute := { nexthop, mask := 0, flags, metric := iface.metric }
  if table ≠ 0 then { route with table, flags := flags ||| 2 ^ DEVROUTE_SRCTABLE } else route

/-- `enable_route`, where `enabled` is that of the settings. -/
def enableRoute (iface : RouteParams) (enabled : Bool) (route : DeviceRoute) : Bool :=
  if iface.noDefaultroute && route.mask == 0 then false else enabled

/-- The kernel has the old route and need not be told about the new one. -/
def keepRoute : Option DeviceRoute → Option DeviceRoute → Bool
  | some old, some new =>
    old.nexthop == new.nexthop && old.mtu == new.mtu && old.type == new.type &&
      old.proto == new.proto && !old.failed
  | _, _ => false

/-- The routes that the kernel has. -/
abbrev RouteTable := Table RouteKey RouteValue

/-- `interface_update_proto_route`, the callback of the tree of routes. -/
def interfaceUpdateProtoRoute (iface : RouteParams) (enabled : Bool)
    (nodeNew nodeOld : Option DeviceRoute) (kernel : RouteTable) :
    Option DeviceRoute × RouteTable :=
  let keep := keepRoute nodeOld nodeNew
  let kernel :=
    match nodeOld with
    | some old =>
      if !old.external && old.enabled && !keep then erase kernel old.kernelKey else kernel
    | none => kernel
  match nodeNew with
  | some new =>
    let enabled := enableRoute iface enabled new
    (some { new with enabled },
      if !new.external && !keep && enabled then write kernel new.kernelKey new.kernelValue
      else kernel)
  | none => (none, kernel)

/-- The routes of `struct interface_ip_settings`, and the kernel's. -/
structure RouteSettings where
  enabled : Bool := true
  route : Vlist DeviceRoute := {}
  kernel : RouteTable := fun _ => none

/-- One step of the loop of `interface_ip_set_enabled` over the routes: the route after it,
and what happens to the kernel. -/
def setRouteEnabled (iface : RouteParams) (enabled : Bool) (r : DeviceRoute) : DeviceRoute :=
  let enabled := enableRoute iface enabled r
  if r.external || r.enabled == enabled then r
  else if enabled then { interfaceSetRouteInfo iface r with enabled }
  else { r with enabled }

def setRouteEnabledKernel (iface : RouteParams) (enabled : Bool) (kernel : RouteTable)
    (r : DeviceRoute) : RouteTable :=
  let enabled := enableRoute iface enabled r
  if r.external || r.enabled == enabled then kernel
  else if enabled then
    let r := interfaceSetRouteInfo iface r
    write kernel r.kernelKey r.kernelValue
  else erase kernel r.kernelKey

/-- The route as `interface_ip_add_route` hands it to the tree. -/
def freshRoute (iface : RouteParams) (r : DeviceRoute) : DeviceRoute :=
  interfaceSetRouteInfo iface { r with enabled := false, failed := false }

/-- What can be done to the routes. -/
inductive RouteOp
  | updateStart
  | add (r : DeviceRoute)
  | updateComplete
  | setEnabled (enabled : Bool)
  | delete (r : DeviceRoute)
  | flush

/-- `interface_ip_update_start`, the end of `interface_ip_add_route`,
`interface_ip_update_complete`, `interface_ip_set_enabled`, `vlist_delete` and
`interface_ip_flush`. -/
def routeStep (iface : RouteParams) (s : RouteSettings) : RouteOp → RouteSettings
  | .updateStart => { s with route := s.route.startUpdate }
  | .add r =>
    let (route, kernel) := s.route.add routeCmp (interfaceUpdateProtoRoute iface s.enabled)
      (freshRoute iface r) s.kernel
    { s with route, kernel }
  | .updateComplete =>
    let (route, kernel) := s.route.flush (interfaceUpdateProtoRoute iface s.enabled) s.kernel
    { s with route, kernel }
  | .setEnabled enabled =>
    { enabled
      route :=
        { s.route with
          nodes := s.route.nodes.map fun n =>
            { n with value := setRouteEnabled iface enabled n.value } }
      kernel := s.route.values.foldl (setRouteEnabledKernel iface enabled) s.kernel }
  | .delete r =>
    let (route, kernel) := s.route.delete routeCmp (interfaceUpdateProtoRoute iface s.enabled) r
      s.kernel
    { s with route, kernel }
  | .flush =>
    let (route, kernel) := s.route.flushAll (interfaceUpdateProtoRoute iface s.enabled) s.kernel
    { s with route, kernel }

theorem hasFlag_srctable (flags : ℕ) {bit : ℕ} (h : bit ≠ DEVROUTE_SRCTABLE) :
    hasFlag (flags ||| 2 ^ DEVROUTE_SRCTABLE) bit = hasFlag flags bit := by
  simp [hasFlag, Nat.testBit_or, Ne.symm h]

/-- The metric and the table are those of the interface, or the route's own. -/
structure HasRouteInfo (iface : RouteParams) (r : DeviceRoute) : Prop where
  metric : hasFlag r.flags DEVROUTE_METRIC = false → r.metric = iface.metric
  table : hasFlag r.flags DEVROUTE_TABLE = false →
    r.table = if r.v6 then iface.ip6table else iface.ip4table
  srctable : hasFlag r.flags DEVROUTE_TABLE = false → r.table ≠ 0 →
    r.flags ||| 2 ^ DEVROUTE_SRCTABLE = r.flags

theorem HasRouteInfo.eq {iface : RouteParams} {r : DeviceRoute} (h : HasRouteInfo iface r) :
    interfaceSetRouteInfo iface r = r := by
  have hmetric : setRouteMetric iface r = r := by
    unfold setRouteMetric
    split_ifs with hm
    · rw [← h.metric (by simpa using hm)]
    · rfl
  rw [interfaceSetRouteInfo, hmetric, setRouteTable]
  cases ht : hasFlag r.flags DEVROUTE_TABLE with
  | true => rfl
  | false =>
    simp only [Bool.not_false, if_true, ← h.table ht]
    split_ifs with hzero
    · rw [h.srctable ht hzero]
    · rfl

theorem setRouteMetric_metric (iface : RouteParams) (r : DeviceRoute)
    (h : hasFlag r.flags DEVROUTE_METRIC = false) :
    (setRouteMetric iface r).metric = iface.metric := by
  simp [setRouteMetric, h]

theorem setRouteMetric_flags (iface : RouteParams) (r : DeviceRoute) :
    (setRouteMetric iface r).flags = r.flags := by
  unfold setRouteMetric
  split_ifs <;> rfl

theorem hasRouteInfo_set (iface : RouteParams) (r : DeviceRoute) :
    HasRouteInfo iface (interfaceSetRouteInfo iface r) := by
  have hmetric := setRouteMetric_metric iface r
  rw [← setRouteMetric_flags iface r] at hmetric
  unfold interfaceSetRouteInfo
  generalize setRouteMetric iface r = r at hmetric
  unfold setRouteTable
  cases ht : hasFlag r.flags DEVROUTE_TABLE with
  | true => exact ⟨hmetric, fun h => by simp [ht] at h, fun h => by simp [ht] at h⟩
  | false =>
    simp only [Bool.not_false, if_true]
    generalize htable : (if r.v6 then iface.ip6table else iface.ip4table) = table
    rcases eq_or_ne table 0 with rfl | hzero
    · exact ⟨by simpa using hmetric, fun _ => htable.symm, fun _ h => absurd rfl h⟩
    · simp only [if_pos hzero]
      have hflag : ∀ bit, bit ≠ DEVROUTE_SRCTABLE →
          hasFlag (r.flags ||| 2 ^ DEVROUTE_SRCTABLE) bit = hasFlag r.flags bit :=
        fun _ => hasFlag_srctable r.flags
      refine ⟨?_, fun _ => ?_, fun _ _ => ?_⟩
      · simpa only [hflag DEVROUTE_METRIC (by decide)] using hmetric
      · change table = if hasFlag (r.flags ||| 2 ^ DEVROUTE_SRCTABLE) DEVADDR_INET6 then _ else _
        rw [hflag DEVADDR_INET6 (by decide)]
        exact htable.symm
      · rw [Nat.or_assoc, Nat.or_self]

theorem parseGatewayOption_info (iface : RouteParams) (v6 : Bool) (nexthop : ℕ) :
    HasRouteInfo iface (parseGatewayOption iface v6 nexthop) := by
  have heq : parseGatewayOption iface v6 nexthop =
      interfaceSetRouteInfo iface { nexthop, mask := 0, flags := if v6 then 1 else 0 } := by
    cases v6 with
    | false =>
      have hmetric : hasFlag 0 DEVROUTE_METRIC = false := by decide
      have htable : hasFlag 0 DEVROUTE_TABLE = false := by decide
      have hv6 : hasFlag 0 DEVADDR_INET6 = false := by decide
      rcases eq_or_ne iface.ip4table 0 with hzero | hzero <;>
        simp [parseGatewayOption, interfaceSetRouteInfo, setRouteMetric, setRouteTable,
          DeviceRoute.v6, hmetric, htable, hv6, hzero]
    | true =>
      have hmetric : hasFlag 1 DEVROUTE_METRIC = false := by decide
      have htable : hasFlag 1 DEVROUTE_TABLE = false := by decide
      have hv6 : hasFlag 1 DEVADDR_INET6 = true := by decide
      rcases eq_or_ne iface.ip6table 0 with hzero | hzero <;>
        simp [parseGatewayOption, interfaceSetRouteInfo, setRouteMetric, setRouteTable,
          DeviceRoute.v6, hmetric, htable, hv6, hzero]
  rw [heq]
  exact hasRouteInfo_set iface _

/-- The keys and values of the routes that are meant to be in the kernel. -/
abbrev liveRoutes : List DeviceRoute → List (RouteKey × RouteValue) :=
  livePairs DeviceRoute.live DeviceRoute.kernelKey DeviceRoute.kernelValue

/-- The kernel has exactly the routes that are enabled and not external, each with its
nexthop, mtu, type and protocol. -/
def RouteMirror (s : RouteSettings) : Prop := Mirrors s.kernel (liveRoutes s.route.values)

/-- Every route has its metric and table, and is enabled just if it should be. -/
structure RoutesSettled (iface : RouteParams) (s : RouteSettings) : Prop where
  info : ∀ r ∈ s.route.values, HasRouteInfo iface r
  enabled : ∀ r ∈ s.route.values, r.external = false → r.enabled = enableRoute iface s.enabled r

theorem Comparable.routeCmp_eq {a b : DeviceRoute} (h : Comparable a b) :
    routeCmp a b = routeDiff a b := by
  obtain ⟨hlow, hhigh⟩ := h
  apply Int.bmod_eq_of_le <;> omega

theorem routeDiff_eq_zero {a b : DeviceRoute} (h : routeDiff a b = 0) :
    a.flags = b.flags ∧ a.metric = b.metric ∧ a.table = b.table ∧ a.mask = b.mask ∧
      a.sourcemask = b.sourcemask ∧ a.addr = b.addr ∧ a.source = b.source := by
  unfold routeDiff at h
  split_ifs at h with hmask hmetric hflags hsourcemask htable hsource
  all_goals try omega
  have haddr := memcmp_eq_zero.mp h
  have hsource := memcmp_eq_zero.mp (not_not.mp hsource)
  omega

/-- A new route can be compared with all that are in the tree. -/
def RouteComparable (iface : RouteParams) (s : RouteSettings) : RouteOp → Prop
  | .add r => ∀ b ∈ s.route.values, Comparable (freshRoute iface r) b
  | _ => True

/-- A route that is added, and routes that are enabled together, have the same value wherever
they have the same key, and what is removed, or gets another key, shares its key with no route
that stays. -/
def KernelKeysOk (iface : RouteParams) (s : RouteSettings) : RouteOp → Prop
  | .add r =>
    let new := freshRoute iface r
    new.external = false → enableRoute iface s.enabled new = true →
      ∀ b ∈ (s.route.erase routeCmp new).values, b.live = true →
        (b.kernelKey = new.kernelKey → b.kernelValue = new.kernelValue) ∧
        ∀ old, s.route.find routeCmp new = some old → old.kernelKey ≠ new.kernelKey →
          b.kernelKey ≠ old.kernelKey
  | .setEnabled enabled => ∀ a ∈ s.route.values, ∀ b ∈ s.route.values,
      a.external = false → enableRoute iface enabled a = true →
      b.external = false → enableRoute iface enabled b = true →
      b.kernelKey = a.kernelKey → b.kernelValue = a.kernelValue
  | .delete r => ∀ old, s.route.find routeCmp r = some old → old.live = true →
      ∀ b ∈ (s.route.erase routeCmp r).values, b.live = true → b.kernelKey ≠ old.kernelKey
  | .updateComplete => ∀ a ∈ s.route.staleValues, a.live = true →
      ∀ b ∈ s.route.keptValues, b.live = true → b.kernelKey ≠ a.kernelKey
  | _ => True

/-- The steps that keep the kernel in line. -/
def RouteStepOk (iface : RouteParams) (s : RouteSettings) (op : RouteOp) : Prop :=
  RouteComparable iface s op ∧ KernelKeysOk iface s op

theorem removeRoute_kernel (iface : RouteParams) (enabled : Bool) (kernel : RouteTable)
    (old : DeviceRoute) : (interfaceUpdateProtoRoute iface enabled none (some old) kernel).2 =
      if old.live then erase kernel old.kernelKey else kernel := by
  simp [interfaceUpdateProtoRoute, keepRoute, DeviceRoute.live, and_comm]

/-- A new route in the form that it has after the callback. -/
def addedRoute (iface : RouteParams) (enabled : Bool) (r : DeviceRoute) : DeviceRoute :=
  { freshRoute iface r with enabled := enableRoute iface enabled (freshRoute iface r) }

theorem addRoute_value (iface : RouteParams) (enabled : Bool) (r : DeviceRoute)
    (old : Option DeviceRoute) (kernel : RouteTable) :
    (interfaceUpdateProtoRoute iface enabled (some (freshRoute iface r)) old kernel).1 =
      some (addedRoute iface enabled r) := rfl

theorem addedRoute_live (iface : RouteParams) (enabled : Bool) (r : DeviceRoute) :
    (addedRoute iface enabled r).live =
      (enableRoute iface enabled (freshRoute iface r) && !(freshRoute iface r).external) := rfl

theorem RouteComparable.same {iface : RouteParams} {s : RouteSettings} {r old : DeviceRoute}
    (h : RouteComparable iface s (.add r))
    (hold : s.route.find routeCmp (freshRoute iface r) = some old) :
    s.route.values.Perm (old :: (s.route.erase routeCmp (freshRoute iface r)).values) ∧
      routeDiff (freshRoute iface r) old = 0 := by
  obtain ⟨hcmp, hperm⟩ := Vlist.find_some routeCmp hold
  have hcomparable : Comparable (freshRoute iface r) old :=
    h old (hperm.symm.subset List.mem_cons_self)
  exact ⟨hperm, hcomparable.routeCmp_eq.symm.trans hcmp⟩

theorem old_live {iface : RouteParams} {s : RouteSettings} (h : RoutesSettled iface s)
    {r old : DeviceRoute} (hcomparable : RouteComparable iface s (.add r))
    (hold : s.route.find routeCmp (freshRoute iface r) = some old) :
    old.live = (addedRoute iface s.enabled r).live := by
  obtain ⟨hperm, hdiff⟩ := hcomparable.same hold
  obtain ⟨hflags, -, -, hmask, -⟩ := routeDiff_eq_zero hdiff
  have hexternal : old.external = (freshRoute iface r).external := by
    simp only [DeviceRoute.external, hflags]
  have henable : enableRoute iface s.enabled old =
      enableRoute iface s.enabled (freshRoute iface r) := by
    simp only [enableRoute, hmask]
  rw [addedRoute_live, ← hexternal, ← henable, DeviceRoute.live]
  cases he : old.external with
  | true => simp
  | false => rw [h.enabled old (hperm.symm.subset List.mem_cons_self) he]

theorem keepRoute_same {r old : DeviceRoute} (h : routeDiff r old = 0)
    (hkeep : keepRoute (some old) (some r) = true) :
    old.kernelKey = r.kernelKey ∧ old.kernelValue = r.kernelValue := by
  obtain ⟨hflags, hmetric, htable, hmask, hsourcemask, haddr, hsource⟩ := routeDiff_eq_zero h
  simp only [keepRoute, Bool.and_eq_true, beq_iff_eq] at hkeep
  obtain ⟨⟨⟨⟨hnexthop, hmtu⟩, htype⟩, hproto⟩, -⟩ := hkeep
  simp only [DeviceRoute.kernelKey, DeviceRoute.v6, DeviceRoute.kernelTable,
    DeviceRoute.kernelValue, hflags, hmetric, htable, hmask, hsourcemask, haddr, hsource, hnexthop,
    hmtu, htype, hproto, and_self]

theorem addRoute_kernel_dead (iface : RouteParams) (enabled : Bool) {r : DeviceRoute}
    (h : (addedRoute iface enabled r).live = false) {old : Option DeviceRoute}
    (hold : ∀ route, old = some route → route.live = false) (kernel : RouteTable) :
    (interfaceUpdateProtoRoute iface enabled (some (freshRoute iface r)) old kernel).2 = kernel := by
  have hnew : (!(freshRoute iface r).external && !keepRoute old (some (freshRoute iface r)) &&
      enableRoute iface enabled (freshRoute iface r)) = false := by
    rw [addedRoute_live] at h
    revert h
    cases enableRoute iface enabled (freshRoute iface r) <;>
      cases (freshRoute iface r).external <;> simp
  cases old with
  | none => simp only [interfaceUpdateProtoRoute, hnew, Bool.false_eq_true, if_false]
  | some route =>
    have hroute := hold route rfl
    have hdead : (!route.external && route.enabled &&
        !keepRoute (some route) (some (freshRoute iface r))) = false := by
      rw [DeviceRoute.live] at hroute
      revert hroute
      cases route.enabled <;> cases route.external <;> simp
    simp only [interfaceUpdateProtoRoute, hnew, hdead, Bool.false_eq_true, if_false]

theorem addRoute_kernel_live (iface : RouteParams) (enabled : Bool) {r : DeviceRoute}
    (h : (addedRoute iface enabled r).live = true) {old : Option DeviceRoute} (kernel : RouteTable)
    (hold : ∀ route, old = some route → routeDiff (freshRoute iface r) route = 0 ∧
      route.live = true ∧ kernel route.kernelKey = some route.kernelValue) :
    (interfaceUpdateProtoRoute iface enabled (some (freshRoute iface r)) old kernel).2 =
      write (old.toList.foldl (fun kernel route => erase kernel route.kernelKey) kernel)
        (freshRoute iface r).kernelKey (freshRoute iface r).kernelValue := by
  obtain ⟨henable, hexternal⟩ : enableRoute iface enabled (freshRoute iface r) = true ∧
      (freshRoute iface r).external = false := by simpa [addedRoute_live] using h
  cases old with
  | none => simp [interfaceUpdateProtoRoute, keepRoute, henable, hexternal]
  | some route =>
    obtain ⟨hcmp, hlive, hkernel⟩ := hold route rfl
    obtain ⟨henabled, hexternal'⟩ : route.enabled = true ∧ route.external = false := by
      simpa [DeviceRoute.live] using hlive
    cases hkeep : keepRoute (some route) (some (freshRoute iface r)) with
    | false => simp [interfaceUpdateProtoRoute, henable, hexternal, henabled, hexternal', hkeep]
    | true =>
      obtain ⟨hkey, hvalue⟩ := keepRoute_same hcmp hkeep
      have hsame : write kernel route.kernelKey route.kernelValue = kernel := by
        rw [write, ← hkernel, Function.update_eq_self]
      simp [interfaceUpdateProtoRoute, hkeep, ← hkey, ← hvalue, write_erase, hsame]

/-- Adding a route keeps the mirror just if the step is a good one. -/
theorem addRoute_mirrors_iff {iface : RouteParams} {s : RouteSettings}
    (hsettled : RoutesSettled iface s) (h : RouteMirror s) {r : DeviceRoute}
    (hcomparable : RouteComparable iface s (.add r)) :
    RouteMirror (routeStep iface s (.add r)) ↔ KernelKeysOk iface s (.add r) := by
  have hvalues := Vlist.add_values routeCmp (interfaceUpdateProtoRoute iface s.enabled) s.route
    (freshRoute iface r) s.kernel
  rw [addRoute_value] at hvalues
  have hperm := Vlist.find_perm routeCmp s.route (freshRoute iface r)
  have hmirror : RouteMirror (routeStep iface s (.add r)) ↔
      Mirrors (interfaceUpdateProtoRoute iface s.enabled (some (freshRoute iface r))
        (s.route.find routeCmp (freshRoute iface r)) s.kernel).2
        (liveRoutes (addedRoute iface s.enabled r ::
          (s.route.erase routeCmp (freshRoute iface r)).values)) :=
    ⟨fun hm => hm.congr (livePairs_perm hvalues), fun hm => hm.congr (livePairs_perm hvalues.symm)⟩
  rw [hmirror]
  cases hlive : (addedRoute iface s.enabled r).live with
  | false =>
    have hok : KernelKeysOk iface s (.add r) := by
      intro hexternal henable
      simp [addedRoute_live, hexternal, henable] at hlive
    have hdead : ∀ old, s.route.find routeCmp (freshRoute iface r) = some old →
        old.live = false := fun old hold => (old_live hsettled hcomparable hold).trans hlive
    rw [addRoute_kernel_dead iface s.enabled hlive hdead]
    exact iff_of_true (mirrors_put_dead h hperm hlive hdead) hok
  | true =>
    have hfound : ∀ old, s.route.find routeCmp (freshRoute iface r) = some old →
        routeDiff (freshRoute iface r) old = 0 ∧ old.live = true ∧
          s.kernel old.kernelKey = some old.kernelValue := by
      intro old hold
      obtain ⟨hperm, hdiff⟩ := hcomparable.same hold
      have hold' := (old_live hsettled hcomparable hold).trans hlive
      refine ⟨hdiff, hold', (h _ _).mpr ?_⟩
      exact mem_livePairs.mpr ⟨old, hperm.symm.subset List.mem_cons_self, hold', rfl, rfl⟩
    rw [addRoute_kernel_live iface s.enabled hlive s.kernel hfound]
    obtain ⟨henable, hexternal⟩ : enableRoute iface s.enabled (freshRoute iface r) = true ∧
        (freshRoute iface r).external = false := by simpa [addedRoute_live] using hlive
    refine (mirrors_put_replaced_iff h hperm hlive).trans ?_
    simp only [KernelKeysOk, hexternal, henable, forall_const]
    constructor
    · rintro ⟨hagree, hgone⟩ b hb hblive
      exact ⟨hagree b hb hblive, fun old hold hkey => hgone old hold hkey b hb hblive⟩
    · intro hall
      exact ⟨fun b hb hblive => (hall b hb hblive).1,
        fun old hold hkey b hb hblive => (hall b hb hblive).2 old hold hkey⟩

theorem deleteRoute_mirrors_iff {iface : RouteParams} {s : RouteSettings} (h : RouteMirror s)
    (r : DeviceRoute) :
    RouteMirror (routeStep iface s (.delete r)) ↔ KernelKeysOk iface s (.delete r) := by
  cases hold : s.route.find routeCmp r with
  | none =>
    have hsame : routeStep iface s (.delete r) = s := by simp [routeStep, Vlist.delete, hold]
    simp [hsame, h, KernelKeysOk, hold]
  | some old =>
    obtain ⟨-, hperm⟩ := Vlist.find_some routeCmp hold
    have hstep : RouteMirror (routeStep iface s (.delete r)) ↔
        Mirrors ([old].foldl (fun kernel old =>
          (interfaceUpdateProtoRoute iface s.enabled none (some old) kernel).2) s.kernel)
          (liveRoutes (s.route.erase routeCmp r).values) := by
      simp [RouteMirror, routeStep, Vlist.delete, hold]
    rw [hstep, mirrors_remove_iff (removeRoute_kernel iface s.enabled) h
      fun b => by simp [hperm.mem_iff]]
    simp [KernelKeysOk, hold]

theorem flushRoutes_mirrors (iface : RouteParams) {s : RouteSettings} (h : RouteMirror s) :
    RouteMirror (routeStep iface s .flush) := by
  have hvalues : (routeStep iface s .flush).route.values = [] :=
    Vlist.flushAll_values (interfaceUpdateProtoRoute iface s.enabled) s.route s.kernel
  rw [RouteMirror, hvalues]
  apply (mirrors_remove_iff (removeRoute_kernel iface s.enabled) h fun b => ?_).mpr
  · simp
  · rw [Vlist.staleValues_flushAll]
    simp

theorem setRouteEnabled_values (iface : RouteParams) (s : RouteSettings) (enabled : Bool) :
    (routeStep iface s (.setEnabled enabled)).route.values =
      s.route.values.map (setRouteEnabled iface enabled) := by
  simp [routeStep, Vlist.values, Function.comp_def]

theorem setRouteEnabled_eq {iface : RouteParams} {r : DeviceRoute} (h : HasRouteInfo iface r)
    (enabled : Bool) : setRouteEnabled iface enabled r =
      { r with enabled := if r.external then r.enabled else enableRoute iface enabled r } := by
  simp only [setRouteEnabled, h.eq]
  cases hexternal : r.external with
  | true => rfl
  | false =>
    rcases eq_or_ne r.enabled (enableRoute iface enabled r) with hsame | hchange
    · simp [← hsame]
    · cases henable : enableRoute iface enabled r <;> simp [henable] at hchange <;> simp [hchange]

theorem setRouteEnabledKernel_eq {iface : RouteParams} {r : DeviceRoute}
    (h : HasRouteInfo iface r) (enabled : Bool) (kernel : RouteTable) :
    setRouteEnabledKernel iface enabled kernel r =
      if r.external || r.enabled == enableRoute iface enabled r then kernel
      else if enableRoute iface enabled r then write kernel r.kernelKey r.kernelValue
      else erase kernel r.kernelKey := by
  simp only [setRouteEnabledKernel, h.eq]

theorem setRouteEnabled_key {iface : RouteParams} {r : DeviceRoute} (h : HasRouteInfo iface r)
    (enabled : Bool) : (setRouteEnabled iface enabled r).kernelKey = r.kernelKey ∧
      (setRouteEnabled iface enabled r).kernelValue = r.kernelValue := by
  rw [setRouteEnabled_eq h]
  exact ⟨rfl, rfl⟩

theorem setRouteEnabled_live {iface : RouteParams} {r : DeviceRoute} (h : HasRouteInfo iface r)
    (enabled : Bool) : (setRouteEnabled iface enabled r).live =
      (enableRoute iface enabled r && !r.external) := by
  rw [setRouteEnabled_eq h]
  change ((if r.external then r.enabled else enableRoute iface enabled r) && !r.external) = _
  cases r.external <;> simp

theorem disableRoutes_mirrors {iface : RouteParams} {s : RouteSettings}
    (hsettled : RoutesSettled iface s) (h : RouteMirror s) :
    RouteMirror (routeStep iface s (.setEnabled false)) := by
  have hdisable : ∀ r, enableRoute iface false r = false := by
    intro r
    simp [enableRoute]
  have hnone : liveRoutes (s.route.values.map (setRouteEnabled iface false)) = [] := by
    apply livePairs_eq_nil
    intro b hb
    obtain ⟨r, hr, rfl⟩ := List.mem_map.mp hb
    simp [setRouteEnabled_live (hsettled.info r hr), hdisable]
  have hkernel : ∀ (kernel : RouteTable) (r : DeviceRoute),
      setRouteEnabledKernel iface false kernel r =
        if r.live then erase kernel r.kernelKey else kernel := by
    intro kernel r
    cases hexternal : r.external <;> cases henabled : r.enabled <;>
      simp [setRouteEnabledKernel, DeviceRoute.live, hdisable, hexternal, henabled]
  rw [RouteMirror, setRouteEnabled_values, hnone]
  change Mirrors (s.route.values.foldl (setRouteEnabledKernel iface false) s.kernel) (liveRoutes [])
  apply (mirrors_remove_iff hkernel h fun b => by simp).mpr
  simp

/-- The routes that are to be written when all are enabled. -/
def disabledRoutes (iface : RouteParams) : List DeviceRoute → List (RouteKey × RouteValue) :=
  livePairs (fun r => !r.enabled && (enableRoute iface true r && !r.external))
    DeviceRoute.kernelKey DeviceRoute.kernelValue

theorem enableRoutes_kernel {iface : RouteParams} {l : List DeviceRoute}
    (hinfo : ∀ r ∈ l, HasRouteInfo iface r)
    (henabled : ∀ r ∈ l, r.external = false → r.enabled = true → enableRoute iface true r = true)
    (kernel : RouteTable) :
    l.foldl (setRouteEnabledKernel iface true) kernel =
      (disabledRoutes iface l).foldl (fun kernel p => write kernel p.1 p.2) kernel := by
  induction l generalizing kernel with
  | nil => rfl
  | cons r l ih =>
    rw [List.foldl_cons, ih (fun r hr => hinfo r (List.mem_cons_of_mem _ hr))
      fun r hr => henabled r (List.mem_cons_of_mem _ hr),
      setRouteEnabledKernel_eq (hinfo r List.mem_cons_self)]
    have hfirst := henabled r List.mem_cons_self
    cases hexternal : r.external <;> cases hon : r.enabled <;>
      cases henable : enableRoute iface true r <;>
      simp [disabledRoutes, livePairs, hexternal, hon, henable] at hfirst ⊢

theorem RoutesSettled.enableRoute {iface : RouteParams} {s : RouteSettings}
    (h : RoutesSettled iface s) {r : DeviceRoute} (hr : r ∈ s.route.values)
    (hexternal : r.external = false) (hon : r.enabled = true) :
    enableRoute iface true r = true := by
  have hset := h.enabled r hr hexternal
  rw [hon] at hset
  revert hset
  unfold Netifd.enableRoute
  cases s.enabled <;> simp

theorem mem_liveRoutes_enabled {iface : RouteParams} {s : RouteSettings}
    (hsettled : RoutesSettled iface s) {k : RouteKey} {v : RouteValue} :
    (k, v) ∈ liveRoutes (s.route.values.map (setRouteEnabled iface true)) ↔
      ∃ r ∈ s.route.values, (r.external = false ∧ enableRoute iface true r = true) ∧
        r.kernelKey = k ∧ r.kernelValue = v := by
  simp only [liveRoutes, mem_livePairs, List.mem_map, exists_exists_and_eq_and]
  apply exists_congr
  intro r
  apply and_congr_right
  intro hr
  have hinfo := hsettled.info r hr
  rw [setRouteEnabled_live hinfo, (setRouteEnabled_key hinfo true).1,
    (setRouteEnabled_key hinfo true).2]
  simp [and_comm]

/-- Enabling everything keeps the mirror just if the step is a good one. -/
theorem enableRoutes_mirrors_iff {iface : RouteParams} {s : RouteSettings}
    (hsettled : RoutesSettled iface s) (h : RouteMirror s) :
    RouteMirror (routeStep iface s (.setEnabled true)) ↔
      KernelKeysOk iface s (.setEnabled true) := by
  have hkernel := enableRoutes_kernel hsettled.info (fun _ => hsettled.enableRoute) s.kernel
  have hmem : ∀ p, p ∈ liveRoutes (s.route.values.map (setRouteEnabled iface true)) ↔
      p ∈ disabledRoutes iface s.route.values ∨ p ∈ liveRoutes s.route.values := by
    rintro ⟨k, v⟩
    simp only [mem_liveRoutes_enabled hsettled, disabledRoutes, mem_livePairs, ← exists_or]
    apply exists_congr
    intro r
    rw [← and_or_left]
    apply and_congr_right
    intro hr
    have hon := hsettled.enableRoute hr
    cases hexternal : r.external <;> cases henabled : r.enabled <;>
      simp [DeviceRoute.live, hexternal, henabled] at hon ⊢
    simp [hon]
  rw [RouteMirror, setRouteEnabled_values]
  change Mirrors (s.route.values.foldl (setRouteEnabledKernel iface true) s.kernel) _ ↔ _
  rw [hkernel, mirrors_writeAll_iff h hmem]
  constructor
  · intro hall a ha b hb hexternal henable hexternal' henable' hkey
    have ha' := (mem_liveRoutes_enabled hsettled).mpr
      ⟨a, ha, ⟨hexternal, henable⟩, rfl, rfl⟩
    have hb' := (mem_liveRoutes_enabled hsettled).mpr
      ⟨b, hb, ⟨hexternal', henable'⟩, rfl, rfl⟩
    -- one of the two is written, or both were there before
    rcases (hmem _).mp ha' with hnew | hold
    · exact hall _ hnew _ hb' hkey
    · rcases (hmem _).mp hb' with hnew' | hold'
      · exact (hall _ hnew' _ ha' hkey.symm).symm
      · rw [hkey] at hold'
        exact h.functional hold' hold
  · rintro hok ⟨k, v⟩ hp ⟨k', v'⟩ hq hkey
    obtain ⟨b, hb, ⟨hexternal', henable'⟩, rfl, rfl⟩ := (mem_liveRoutes_enabled hsettled).mp hq
    obtain ⟨a, ha, ⟨hexternal, henable⟩, rfl, rfl⟩ :=
      (mem_liveRoutes_enabled hsettled).mp ((hmem _).mpr (.inl hp))
    exact hok a ha b hb hexternal henable hexternal' henable' hkey

theorem routeStep_mirrors_iff {iface : RouteParams} (s : RouteSettings) (op : RouteOp)
    (hsettled : RoutesSettled iface s) (h : RouteMirror s)
    (hcomparable : RouteComparable iface s op) :
    RouteMirror (routeStep iface s op) ↔ KernelKeysOk iface s op := by
  cases op with
  | updateStart => exact iff_of_true h trivial
  | add r => exact addRoute_mirrors_iff hsettled h hcomparable
  | updateComplete =>
    exact mirrors_remove_iff (removeRoute_kernel iface s.enabled) h s.route.mem_values
  | setEnabled enabled =>
    cases enabled with
    | false =>
      refine iff_of_true (disableRoutes_mirrors hsettled h) ?_
      intro a _ b _ _ henable
      simp [enableRoute] at henable
    | true => exact enableRoutes_mirrors_iff hsettled h
  | delete r => exact deleteRoute_mirrors_iff h r
  | flush => exact iff_of_true (flushRoutes_mirrors iface h) trivial

theorem RoutesSettled.subset {iface : RouteParams} {s t : RouteSettings}
    (h : RoutesSettled iface s) (hvalues : t.route.values ⊆ s.route.values)
    (henabled : t.enabled = s.enabled) : RoutesSettled iface t where
  info r hr := h.info r (hvalues hr)
  enabled r hr hexternal := by
    rw [henabled]
    exact h.enabled r (hvalues hr) hexternal

theorem erase_values_subset (tree : Vlist DeviceRoute) (r : DeviceRoute) :
    (tree.erase routeCmp r).values ⊆ tree.values := by
  rw [Vlist.erase_values]
  exact List.eraseP_subset

/-- Every step leaves the routes settled. -/
theorem routeStep_settled {iface : RouteParams} (s : RouteSettings) (op : RouteOp)
    (h : RoutesSettled iface s) : RoutesSettled iface (routeStep iface s op) := by
  cases op with
  | updateStart => exact h.subset (List.Subset.refl _) rfl
  | add r =>
    have hvalues := Vlist.add_values routeCmp (interfaceUpdateProtoRoute iface s.enabled) s.route
      (freshRoute iface r) s.kernel
    rw [addRoute_value] at hvalues
    have hnew : HasRouteInfo iface (addedRoute iface s.enabled r) := by
      obtain ⟨hmetric, htable, hsrctable⟩ := hasRouteInfo_set iface
        { r with enabled := false, failed := false }
      exact ⟨hmetric, htable, hsrctable⟩
    constructor
    · intro b hb
      rcases List.mem_cons.mp (hvalues.subset hb) with rfl | hrest
      · exact hnew
      · exact h.info b (erase_values_subset _ _ hrest)
    · intro b hb hexternal
      rcases List.mem_cons.mp (hvalues.subset hb) with rfl | hrest
      · rfl
      · exact h.enabled b (erase_values_subset _ _ hrest) hexternal
  | updateComplete =>
    refine h.subset (fun b hb => ?_) rfl
    exact (s.route.mem_values b).mpr (.inr hb)
  | setEnabled enabled =>
    constructor
    · intro b hb
      rw [setRouteEnabled_values] at hb
      obtain ⟨r, hr, rfl⟩ := List.mem_map.mp hb
      obtain ⟨hmetric, htable, hsrctable⟩ := h.info r hr
      rw [setRouteEnabled_eq (h.info r hr)]
      exact ⟨hmetric, htable, hsrctable⟩
    · intro b hb hexternal
      rw [setRouteEnabled_values] at hb
      obtain ⟨r, hr, rfl⟩ := List.mem_map.mp hb
      rw [setRouteEnabled_eq (h.info r hr)] at hexternal ⊢
      have hexternal' : r.external = false := hexternal
      simp only [hexternal', Bool.false_eq_true, if_false]
      rfl
  | delete r =>
    cases hold : s.route.find routeCmp r with
    | none =>
      have hsame : routeStep iface s (.delete r) = s := by simp [routeStep, Vlist.delete, hold]
      rwa [hsame]
    | some old =>
      have hvalues : (routeStep iface s (.delete r)).route = s.route.erase routeCmp r := by
        simp [routeStep, Vlist.delete, hold]
      refine h.subset ?_ rfl
      rw [hvalues]
      exact erase_values_subset s.route r
  | flush =>
    refine h.subset (fun b hb => ?_) rfl
    rw [routeStep, Vlist.flushAll_values] at hb
    cases hb

/-- From the start, with no routes, the kernel has the right routes in every state of a run whose
steps are all good ones, each as it should be. -/
theorem route_mirror_of_run (iface : RouteParams) (enabled : Bool) (ops : List RouteOp)
    (hok : AllOk (routeStep iface) (RouteStepOk iface) { enabled } ops) (n : ℕ) :
    RouteMirror (run (routeStep iface) { enabled } (ops.take n)) := by
  have hsettled : RoutesSettled iface { enabled } :=
    ⟨by simp [Vlist.values], by simp [Vlist.values]⟩
  have hrun := run_property_of_allOk (P := fun s => RoutesSettled iface s ∧ RouteMirror s)
    (fun s op h hstep => ⟨routeStep_settled s op h.1,
      (routeStep_mirrors_iff s op h.1 h.2 hstep.1).mpr hstep.2⟩)
    ⟨hsettled, mirrors_empty⟩ hok n
  exact hrun.2

instance (iface : RouteParams) (s : RouteSettings) :
    (op : RouteOp) → Decidable (RouteComparable iface s op)
  | .add r => inferInstanceAs (Decidable (∀ b ∈ s.route.values,
      -2 ^ 31 < routeDiff (freshRoute iface r) b ∧ routeDiff (freshRoute iface r) b < 2 ^ 31))
  | .updateStart | .updateComplete | .setEnabled _ | .delete _ | .flush => .isTrue trivial

instance (iface : RouteParams) (s : RouteSettings) :
    (op : RouteOp) → Decidable (KernelKeysOk iface s op)
  | .add r =>
    inferInstanceAs (Decidable ((freshRoute iface r).external = false →
      enableRoute iface s.enabled (freshRoute iface r) = true →
      ∀ b ∈ (s.route.erase routeCmp (freshRoute iface r)).values, b.live = true →
        (b.kernelKey = (freshRoute iface r).kernelKey →
          b.kernelValue = (freshRoute iface r).kernelValue) ∧
        ∀ old ∈ s.route.find routeCmp (freshRoute iface r),
          old.kernelKey ≠ (freshRoute iface r).kernelKey → b.kernelKey ≠ old.kernelKey))
  | .setEnabled enabled =>
    inferInstanceAs (Decidable (∀ a ∈ s.route.values, ∀ b ∈ s.route.values,
      a.external = false → enableRoute iface enabled a = true →
      b.external = false → enableRoute iface enabled b = true →
      b.kernelKey = a.kernelKey → b.kernelValue = a.kernelValue))
  | .delete r =>
    inferInstanceAs (Decidable (∀ old ∈ s.route.find routeCmp r, old.live = true →
      ∀ b ∈ (s.route.erase routeCmp r).values, b.live = true → b.kernelKey ≠ old.kernelKey))
  | .updateComplete =>
    inferInstanceAs (Decidable (∀ a ∈ s.route.staleValues, a.live = true →
      ∀ b ∈ s.route.keptValues, b.live = true → b.kernelKey ≠ a.kernelKey))
  | .updateStart | .flush => .isTrue trivial

instance (iface : RouteParams) (s : RouteSettings) (op : RouteOp) :
    Decidable (RouteStepOk iface s op) := inferInstanceAs (Decidable (_ ∧ _))

/-- Two routes to one destination with a metric of their own and the interface's. The first is
sent again with another nexthop while the routes are disabled, the second is not. -/
theorem route_mirror_of_run_metrics : RouteMirror (run (routeStep { metric := 10 }) {}
    (List.take 9 [.updateStart, .add { flags := 0, mask := 24, addr := 256, nexthop := 7 },
      .add { flags := 8, metric := 5, mask := 24, addr := 256, nexthop := 8 }, .updateComplete,
      .setEnabled false, .updateStart, .add { flags := 0, mask := 24, addr := 256, nexthop := 9 },
      .updateComplete, .setEnabled true])) := by
  apply route_mirror_of_run
  exact ⟨by decide, by decide, by decide, by decide, by decide, by decide, by decide, by decide,
    by decide, trivial⟩

/-- A route that is sent again with another mtu: the new one is installed before the old one
is removed, which takes its key out of the kernel. -/
theorem route_mirror_broken : ¬∀ ops, RouteMirror (run (routeStep {}) {} ops) := by
  intro h
  have hmirror := h [.updateStart, .add { flags := 0, mask := 24, addr := 1 }, .updateComplete,
    .updateStart, .add { flags := 16, mask := 24, addr := 1, mtu := 1400 }, .updateComplete]
  have hkernel := (hmirror (DeviceRoute.kernelKey { flags := 0, mask := 24, addr := 1 })
    (DeviceRoute.kernelValue { flags := 16, mask := 24, addr := 1, mtu := 1400 })).mpr (by decide)
  revert hkernel
  decide

end Netifd
