import Netifd.SubnetRoutes
import Mathlib.Data.List.MinMax
import Mathlib.Algebra.Order.Ring.Int

/-!
# Host routes to a target

`interface_ip_add_target_route` of `interface-ip.c`: the interface through which a host is
reached, and the host route that is added to it.
-/

namespace Netifd

/-- The addresses and routes of `struct interface_ip_settings`, in the order of the trees. -/
structure InterfaceIpTrees where
  addr : List DeviceAddr := []
  route : List DeviceRoute := []

/-- What the search reads of `struct interface`. The routes of both settings belong to it. -/
structure RoutedInterface where
  name : String
  protoIp : InterfaceIpTrees := {}
  configIp : InterfaceIpTrees := {}

/-- A route that the search comes by, with its `iface`. -/
abbrev FoundRoute := RoutedInterface × DeviceRoute

/-- The result of the search: the interface, the new route, and whether that is kept as one
of the host routes of the interface. -/
structure TargetRoute where
  iface : RoutedInterface
  route : DeviceRoute
  kept : Bool

def matchIfAddr (v6 : Bool) (a1 a2 mask : ℕ) : Bool :=
  clearIfAddr v6 a1 mask == clearIfAddr v6 a2 mask

def findIpAddrTarget (ip : InterfaceIpTrees) (a : ℕ) (v6 : Bool) : Bool :=
  ip.addr.any fun addr =>
    let mask := if addr.v6 && hasFlag addr.flags DEVADDR_OFFLINK then 128 else addr.mask
    addr.enabled && v6 == addr.v6 && matchIfAddr v6 addr.addr a mask

/-- A route that `__find_ip_route_target` does not skip. -/
def matchesTarget (a : ℕ) (v6 : Bool) (route : DeviceRoute) : Bool :=
  route.enabled && v6 == route.v6 && matchIfAddr v6 route.addr a route.mask &&
    !hasFlag route.flags DEVROUTE_TABLE

def findIpRouteTarget (iface : RoutedInterface) (ip : InterfaceIpTrees) (a : ℕ) (v6 : Bool)
    (res : Option FoundRoute) : Option FoundRoute :=
  ip.route.foldl (fun res route =>
    if matchesTarget a v6 route then
      match res with
      | none => some (iface, route)
      | some best => if route.mask < best.2.mask then some (iface, route) else some best
    else res) res

def interfaceIpFindAddrTarget (iface : RoutedInterface) (a : ℕ) (v6 : Bool) : Bool :=
  findIpAddrTarget iface.protoIp a v6 || findIpAddrTarget iface.configIp a v6

def interfaceIpFindRouteTarget (iface : RoutedInterface) (a : ℕ) (v6 : Bool)
    (route : Option FoundRoute) : Option FoundRoute :=
  findIpRouteTarget iface iface.configIp a v6 (findIpRouteTarget iface iface.protoIp a v6 route)

/-- The loop of `interface_ip_add_target_route` over the interfaces: the first one that has the
target on its link, or else the best route. -/
def searchInterfaces (a : ℕ) (v6 : Bool) :
    List RoutedInterface → Option FoundRoute → RoutedInterface ⊕ Option FoundRoute
  | [], next => .inr next
  | iface :: rest, next =>
    if interfaceIpFindAddrTarget iface a v6 then .inl iface
    else searchInterfaces a v6 rest (interfaceIpFindRouteTarget iface a v6 next)

/-- The search of `interface_ip_add_target_route`, through the given interface or through all. -/
def findTarget (interfaces : List RoutedInterface) (addr : ℕ) (v6 : Bool)
    (iface : Option RoutedInterface) : RoutedInterface ⊕ Option FoundRoute :=
  match iface with
  | some iface =>
    if interfaceIpFindAddrTarget iface addr v6 then .inl iface
    else .inr (interfaceIpFindRouteTarget iface addr v6 none)
  | none => searchInterfaces addr v6 interfaces none

def interfaceIpAddTargetRoute (interfaces : List RoutedInterface) (addr : ℕ) (v6 : Bool)
    (iface : Option RoutedInterface) : Option TargetRoute :=
  let defaultrouteTarget := addr == 0
  let route : DeviceRoute :=
    { flags := if v6 then 2 ^ DEVADDR_INET6 else 0, mask := if v6 then 128 else 32, addr }
  match findTarget interfaces addr v6 iface with
  | .inl iface => some { iface, route, kept := !defaultrouteTarget }
  | .inr none => none
  | .inr (some (iface, next)) =>
    let route := { route with
      nexthop := next.nexthop
      mtu := next.mtu
      metric := next.metric
      table := next.table }
    some { iface, route, kept := !defaultrouteTarget }

/-- The interfaces that are searched: the given one, or all. -/
def searched (interfaces : List RoutedInterface) (iface : Option RoutedInterface) :
    List RoutedInterface :=
  match iface with
  | some iface => [iface]
  | none => interfaces

/-- The routes of an interface that match the target, in the order in which they are found. -/
def routesTo (a : ℕ) (v6 : Bool) (iface : RoutedInterface) : List FoundRoute :=
  ((iface.protoIp.route ++ iface.configIp.route).filter (matchesTarget a v6)).map (iface, ·)

/-- The routes of all searched interfaces that match the target. -/
def matchingRoutes (interfaces : List RoutedInterface) (a : ℕ) (v6 : Bool)
    (iface : Option RoutedInterface) : List FoundRoute :=
  (searched interfaces iface).flatMap (routesTo a v6)

/-- The length of the prefix of a route. -/
def FoundRoute.mask (r : FoundRoute) : ℕ := r.2.mask

/-- No route of the list is more specific. -/
def Longest (routes : List FoundRoute) (r : FoundRoute) : Prop :=
  r ∈ routes ∧ ∀ r' ∈ routes, FoundRoute.mask r' ≤ FoundRoute.mask r

/-- The search returns the interface and the nexthop of a route with the longest mask, and
nothing only if there is no route. -/
structure FindsBest (interfaces : List RoutedInterface) (addr : ℕ) (v6 : Bool)
    (iface : Option RoutedInterface) : Prop where
  best : ∀ t, interfaceIpAddTargetRoute interfaces addr v6 iface = some t →
    ∃ r, Longest (matchingRoutes interfaces addr v6 iface) r ∧ t.iface = r.1 ∧
      t.route.nexthop = r.2.nexthop
  none : interfaceIpAddTargetRoute interfaces addr v6 iface = none →
    matchingRoutes interfaces addr v6 iface = []

/-- A route in front of which all masks are longer, and behind which none is shorter, leaves
through the interface and the nexthop of one of the most specific routes. -/
def FirstShortestBest (routes : List FoundRoute) : Prop :=
  ∀ before r after, routes = before ++ r :: after →
    (∀ b ∈ before, FoundRoute.mask r < FoundRoute.mask b) →
    (∀ b ∈ after, FoundRoute.mask r ≤ FoundRoute.mask b) →
    ∃ best, Longest routes best ∧ best.1 = r.1 ∧ best.2.nexthop = r.2.nexthop

/-- The first of the least elements. -/
theorem argmin_eq_some_iff_append {α : Type} {f : α → ℕ} {l : List α} {m : α} :
    l.argmin f = some m ↔ ∃ before after, l = before ++ m :: after ∧
      (∀ b ∈ before, f m < f b) ∧ ∀ b ∈ after, f m ≤ f b := by
  constructor
  · intro h
    induction l with
    | nil => simp at h
    | cons a l ih =>
      rw [List.argmin_cons] at h
      cases hrest : l.argmin f with
      | none =>
        obtain rfl := List.argmin_eq_none.mp hrest
        obtain rfl : a = m := by simpa using h
        exact ⟨[], [], rfl, by simp, by simp⟩
      | some c =>
        simp only [hrest] at h
        split_ifs at h with hless
        · obtain rfl := Option.some.inj h
          obtain ⟨before, after, hl, hbefore, hafter⟩ := ih hrest
          refine ⟨a :: before, after, by rw [hl, List.cons_append], ?_, hafter⟩
          exact List.forall_mem_cons.mpr ⟨hless, hbefore⟩
        · obtain rfl := Option.some.inj h
          refine ⟨[], l, rfl, by simp, ?_⟩
          intro b hb
          have hle : f c ≤ f b := List.le_of_mem_argmin hb hrest
          omega
  · rintro ⟨before, after, rfl, hbefore, hafter⟩
    induction before with
    | nil =>
      rw [List.nil_append, List.argmin_cons]
      cases hrest : after.argmin f with
      | none => rfl
      | some c =>
        have hle := hafter c (List.argmin_mem hrest)
        simp only [if_neg hle.not_gt]
    | cons a before ih =>
      have hrest := ih fun b hb => hbefore b (List.mem_cons_of_mem a hb)
      rw [List.cons_append, List.argmin_cons, hrest]
      simp only [if_pos (hbefore a List.mem_cons_self)]

/-- The better of two routes, in the eyes of the search. -/
abbrev keepShorter : Option FoundRoute → FoundRoute → Option FoundRoute :=
  List.argAux fun r best => FoundRoute.mask r < FoundRoute.mask best

theorem findIpRouteTarget_eq (iface : RoutedInterface) (ip : InterfaceIpTrees) (a : ℕ)
    (v6 : Bool) (res : Option FoundRoute) :
    findIpRouteTarget iface ip a v6 res =
      ((ip.route.filter (matchesTarget a v6)).map (iface, ·)).foldl keepShorter res := by
  rw [findIpRouteTarget, List.foldl_map, List.foldl_filter]
  congr 1
  funext res route
  cases res <;> rfl

theorem interfaceIpFindRouteTarget_eq (iface : RoutedInterface) (a : ℕ) (v6 : Bool)
    (res : Option FoundRoute) :
    interfaceIpFindRouteTarget iface a v6 res = (routesTo a v6 iface).foldl keepShorter res := by
  rw [interfaceIpFindRouteTarget, findIpRouteTarget_eq, findIpRouteTarget_eq, ← List.foldl_append,
    ← List.map_append, ← List.filter_append, routesTo]

theorem searchInterfaces_eq {a : ℕ} {v6 : Bool} {interfaces : List RoutedInterface}
    (hoff : ∀ iface ∈ interfaces, interfaceIpFindAddrTarget iface a v6 = false)
    (next : Option FoundRoute) :
    searchInterfaces a v6 interfaces next =
      .inr ((interfaces.flatMap (routesTo a v6)).foldl keepShorter next) := by
  induction interfaces generalizing next with
  | nil => rfl
  | cons iface rest ih =>
    have hfirst := hoff iface List.mem_cons_self
    have hrest := ih fun i hi => hoff i (List.mem_cons_of_mem iface hi)
    simp only [searchInterfaces, hfirst, Bool.false_eq_true, if_false, hrest,
      interfaceIpFindRouteTarget_eq, List.flatMap_cons, List.foldl_append]

section OffLink

variable {interfaces : List RoutedInterface} {addr : ℕ} {v6 : Bool}
  {iface : Option RoutedInterface}

theorem findTarget_eq
    (hoff : ∀ i ∈ searched interfaces iface, interfaceIpFindAddrTarget i addr v6 = false) :
    findTarget interfaces addr v6 iface =
      .inr ((matchingRoutes interfaces addr v6 iface).argmin FoundRoute.mask) := by
  cases iface with
  | none => exact searchInterfaces_eq hoff none
  | some iface =>
    have hgiven := hoff iface List.mem_cons_self
    simp only [findTarget, hgiven, Bool.false_eq_true, if_false, interfaceIpFindRouteTarget_eq,
      matchingRoutes, searched, List.flatMap_singleton]
    rfl

theorem interfaceIpAddTargetRoute_none
    (hoff : ∀ i ∈ searched interfaces iface, interfaceIpFindAddrTarget i addr v6 = false)
    (hmin : (matchingRoutes interfaces addr v6 iface).argmin FoundRoute.mask = none) :
    interfaceIpAddTargetRoute interfaces addr v6 iface = none := by
  simp only [interfaceIpAddTargetRoute, findTarget_eq hoff, hmin]

theorem interfaceIpAddTargetRoute_some {m : FoundRoute}
    (hoff : ∀ i ∈ searched interfaces iface, interfaceIpFindAddrTarget i addr v6 = false)
    (hmin : (matchingRoutes interfaces addr v6 iface).argmin FoundRoute.mask = some m) :
    ∃ t, interfaceIpAddTargetRoute interfaces addr v6 iface = some t ∧ t.iface = m.1 ∧
      t.route.nexthop = m.2.nexthop := by
  simp only [interfaceIpAddTargetRoute, findTarget_eq hoff, hmin]
  exact ⟨_, rfl, rfl, rfl⟩

/-- The result is a matching route with the longest mask just if the first of those with the
shortest mask leaves through the interface and the nexthop of such a route. -/
theorem findsBest_iff
    (hoff : ∀ i ∈ searched interfaces iface, interfaceIpFindAddrTarget i addr v6 = false) :
    FindsBest interfaces addr v6 iface ↔
      FirstShortestBest (matchingRoutes interfaces addr v6 iface) := by
  constructor
  · intro h before m after hroutes hbefore hafter
    have hmin := argmin_eq_some_iff_append.mpr ⟨before, after, hroutes, hbefore, hafter⟩
    obtain ⟨t, ht, hiface, hnexthop⟩ := interfaceIpAddTargetRoute_some hoff hmin
    obtain ⟨r, hr, hi, hn⟩ := h.best t ht
    exact ⟨r, hr, hi.symm.trans hiface, hn.symm.trans hnexthop⟩
  · intro h
    cases hmin : (matchingRoutes interfaces addr v6 iface).argmin FoundRoute.mask with
    | none =>
      have hresult := interfaceIpAddTargetRoute_none hoff hmin
      refine ⟨?_, fun _ => List.argmin_eq_none.mp hmin⟩
      intro t ht
      rw [hresult] at ht
      cases ht
    | some m =>
      obtain ⟨before, after, hroutes, hbefore, hafter⟩ := argmin_eq_some_iff_append.mp hmin
      obtain ⟨t, ht, hiface, hnexthop⟩ := interfaceIpAddTargetRoute_some hoff hmin
      obtain ⟨r, hr, hi, hn⟩ := h before m after hroutes hbefore hafter
      constructor
      · intro t' ht'
        cases ht.symm.trans ht'
        exact ⟨r, hr, hiface.trans hi.symm, hnexthop.trans hn.symm⟩
      · intro hnone
        rw [ht] at hnone
        cases hnone

theorem firstShortestBest_of_same_mask {routes : List FoundRoute}
    (hsame : ∀ r ∈ routes, ∀ r' ∈ routes, FoundRoute.mask r = FoundRoute.mask r') :
    FirstShortestBest routes := by
  intro before m after hroutes _ _
  have hmem : m ∈ routes := hroutes ▸ List.mem_append_right before List.mem_cons_self
  exact ⟨m, ⟨hmem, fun r hr => (hsame r hr m hmem).le⟩, rfl, rfl⟩

end OffLink

/-- A route of the uplink to 203.0.113.0/24, through its gateway. -/
def wanRoute : DeviceRoute :=
  { enabled := true, flags := 0, mask := 24, addr := 0xcb007100, nexthop := 0xc0000201 }

def wanDefault : DeviceRoute := { enabled := true, flags := 0, mask := 0, nexthop := 0xc0000201 }

/-- The uplink with this route and its default route. -/
def wanRouted : RoutedInterface where
  name := "wan"
  protoIp := {
    addr := [{ enabled := true, flags := 0, mask := 24, addr := 0xc0000202 }]
    route := [wanRoute, wanDefault] }

/-- A tunnel with a route to 10.0.0.0/8. -/
def vpnRouted : RoutedInterface where
  name := "vpn"
  configIp := {
    addr := [{ enabled := true, flags := 0, mask := 24, addr := 0xc6336402 }]
    route := [{ enabled := true, flags := 0, mask := 8, addr := 0x0a000000, nexthop := 0xc6336401 }] }

/-- The uplink reaches 203.0.113.9 through its gateway by either route. -/
theorem findsBest_iff_vpn_wan : FindsBest [vpnRouted, wanRouted] 0xcb007109 false none := by
  have hroutes : matchingRoutes [vpnRouted, wanRouted] 0xcb007109 false none =
      [(wanRouted, wanRoute), (wanRouted, wanDefault)] := rfl
  apply (findsBest_iff (by simp [searched]; decide)).mpr
  rw [hroutes]
  intro before m after happend _ _
  have hmem : m ∈ [(wanRouted, wanRoute), (wanRouted, wanDefault)] :=
    happend ▸ List.mem_append_right before List.mem_cons_self
  have hlongest : Longest [(wanRouted, wanRoute), (wanRouted, wanDefault)]
      (wanRouted, wanRoute) := by
    refine ⟨List.mem_cons_self, ?_⟩
    simp [FoundRoute.mask, wanDefault]
  refine ⟨_, hlongest, ?_⟩
  simp only [List.mem_cons, List.not_mem_nil, or_false] at hmem
  rcases hmem with rfl | rfl <;> exact ⟨rfl, rfl⟩

/-- A host behind the tunnel is sent to the default gateway. -/
theorem default_route_preferred : ¬FindsBest [vpnRouted, wanRouted] 0x0a010203 false none := by
  intro h
  have hresult : (interfaceIpAddTargetRoute [vpnRouted, wanRouted] 0x0a010203 false none).map
      (·.iface.name) = some "wan" := by decide
  have hroutes : (matchingRoutes [vpnRouted, wanRouted] 0x0a010203 false none).map
      (fun r => (r.1.name, FoundRoute.mask r)) = [("vpn", 8), ("wan", 0)] := by decide
  obtain ⟨t, ht, hname⟩ := Option.map_eq_some_iff.mp hresult
  obtain ⟨r, hr, hiface, _⟩ := h.best t ht
  have hmem := List.mem_map_of_mem (f := fun r => (r.1.name, FoundRoute.mask r)) hr.1
  rw [hroutes, ← hiface, hname] at hmem
  have hmask : FoundRoute.mask r = 0 := by simpa using hmem
  have hvpn : ("vpn", 8) ∈ (matchingRoutes [vpnRouted, wanRouted] 0x0a010203 false none).map
      (fun r => (r.1.name, FoundRoute.mask r)) := by simp [hroutes]
  obtain ⟨v, hv, heq⟩ := List.mem_map.mp hvpn
  have hle := hr.2 v hv
  have height : FoundRoute.mask v = 8 := congrArg Prod.snd heq
  omega

end Netifd
