import Netifd.RouteMirror
import Netifd.SearchTrees
import Mathlib.Data.Prod.Lex

/-!
# The order of the tree of routes

A reload gives an interface another metric or other tables, and enabling writes them into the
routes of `ip->route` that have none of their own, which stay where they are in the tree.
-/

namespace Netifd
open GuardedRuns SearchTrees

/-- The comparison is defined, and negative. -/
def RouteLt (a b : DeviceRoute) : Prop := Comparable a b ∧ routeCmp a b < 0

instance (a b : DeviceRoute) : Decidable (RouteLt a b) :=
  inferInstanceAs (Decidable ((_ ∧ _) ∧ _))

/-- The tree of routes of an interface that may have a device or not. -/
structure RouteTree where
  iface : RouteParams := {}
  dev : Bool := true
  settings : RouteSettings := {}

/-- What can be done to the routes, and to what they inherit. -/
inductive RouteTreeOp
  | route (op : RouteOp)
  | setParams (iface : RouteParams)
  | setDevice (dev : Bool)

/-- The operations on the tree; `interface_change_config` sets the parameters, then disables and
enables the routes; without a device `interface_ip_set_enabled` does not get to them. -/
def routeTreeStep (s : RouteTree) : RouteTreeOp → RouteTree
  | .route (.setEnabled enabled) =>
    { s with settings :=
        if s.dev then routeStep s.iface s.settings (.setEnabled enabled)
        else { s.settings with enabled } }
  | .route op => { s with settings := routeStep s.iface s.settings op }
  | .setParams iface => { s with iface }
  | .setDevice dev => { s with dev }

/-- The routes in the order of the tree. -/
def RouteTree.routes (s : RouteTree) : List DeviceRoute := s.settings.route.values

/-- The routes are in strictly increasing order, every one is found by its key, whatever the shape
of the tree, and no key is there twice. -/
structure Searchable (routes : List DeviceRoute) : Prop where
  increasing : routes.Pairwise fun a b => routeCmp a b < 0
  found : ∀ tree : SearchTrees.Tree DeviceRoute, tree.inorder = routes → ∀ r ∈ routes, ∀ k,
    routeDiff k r = 0 → tree.find (routeCmp k) = some r
  unique : routes.Pairwise fun a b => routeDiff a b ≠ 0

theorem memcmp_swap (a b : ℕ) : memcmp b a = -memcmp a b := by
  unfold memcmp
  split_ifs <;> omega

theorem decide_swap {c c' : Prop} [Decidable c] [Decidable c'] {x x' y y' : ℤ} (hc : c' ↔ c)
    (hx : x' = -x) (hy : y' = -y) : (if c' then x' else y') = -(if c then x else y) := by
  rw [hx, hy, if_congr hc rfl rfl]
  split_ifs <;> rfl

theorem routeDiff_swap (a b : DeviceRoute) : routeDiff b a = -routeDiff a b := by
  have hsource := memcmp_swap a.source b.source
  have haddr := memcmp_swap a.addr b.addr
  refine decide_swap ne_comm (by omega) ?_
  refine decide_swap ne_comm (by omega) ?_
  refine decide_swap ne_comm (by omega) ?_
  refine decide_swap ne_comm (by omega) ?_
  refine decide_swap ne_comm (by omega) ?_
  exact decide_swap (by omega) hsource haddr

/-- The fields of a route in the order in which they are compared, so that less is in front. -/
def routeOrd (r : DeviceRoute) : ℤ ×ₗ ℤ ×ₗ ℤ ×ₗ ℤ ×ₗ ℤ ×ₗ ℤ ×ₗ ℤ :=
  toLex (-r.mask, toLex (r.metric, toLex (-r.flags, toLex (r.sourcemask, toLex (r.table,
    toLex (r.source, r.addr))))))

theorem memcmp_neg {a b : ℕ} : memcmp a b < 0 ↔ a < b := by
  unfold memcmp
  split_ifs <;> omega

theorem decide_neg_iff {c : Prop} [Decidable c] {x y u v : ℤ} {rest : Prop} (hc : c ↔ u ≠ v)
    (hx : x < 0 ↔ u < v) (hy : y < 0 ↔ rest) :
    (if c then x else y) < 0 ↔ u < v ∨ u = v ∧ rest := by
  split_ifs with h
  · rw [hx, or_iff_left fun hsame => hc.mp h hsame.1]
  · have hsame : u = v := not_not.mp fun hne => h (hc.mpr hne)
    simp [hy, hsame]

theorem routeDiff_neg_iff (a b : DeviceRoute) : routeDiff a b < 0 ↔ routeOrd a < routeOrd b := by
  have hsource := memcmp_neg (a := a.source) (b := b.source)
  have haddr := memcmp_neg (a := a.addr) (b := b.addr)
  have hsource' := memcmp_eq_zero (a := a.source) (b := b.source)
  simp only [routeOrd, Prod.Lex.toLex_lt_toLex]
  refine decide_neg_iff (by omega) (by omega) ?_
  refine decide_neg_iff (by omega) (by omega) ?_
  refine decide_neg_iff (by omega) (by omega) ?_
  refine decide_neg_iff (by omega) (by omega) ?_
  refine decide_neg_iff (by omega) (by omega) ?_
  exact decide_neg_iff (by omega) (by omega) (by omega)

theorem routeLt_iff {a b : DeviceRoute} :
    RouteLt a b ↔ -2 ^ 31 < routeDiff a b ∧ routeDiff a b < 0 := by
  constructor
  · rintro ⟨hcomparable, hneg⟩
    rw [hcomparable.routeCmp_eq] at hneg
    exact ⟨hcomparable.1, hneg⟩
  · rintro ⟨hlow, hneg⟩
    have hcomparable : Comparable a b := ⟨hlow, by omega⟩
    exact ⟨hcomparable, hcomparable.routeCmp_eq ▸ hneg⟩

theorem Comparable.symm {a b : DeviceRoute} (h : Comparable a b) : Comparable b a := by
  unfold Comparable at h ⊢
  rw [routeDiff_swap a b]
  omega

instance : Std.Symm Comparable := ⟨fun _ _ => Comparable.symm⟩

theorem Comparable.routeLt {a b : DeviceRoute} (h : Comparable a b) (hneg : routeDiff a b < 0) :
    RouteLt a b := routeLt_iff.mpr ⟨h.1, hneg⟩

theorem routeLt_trans_neg {a b c : DeviceRoute} (hab : routeDiff a b < 0) (hbc : RouteLt b c) :
    routeDiff a c < 0 := by
  have hbc' := (routeLt_iff.mp hbc).2
  rw [routeDiff_neg_iff] at hab hbc' ⊢
  exact hab.trans hbc'

theorem routeDiff_congr {a a' b b' : DeviceRoute} (ha : routeOrd a' = routeOrd a)
    (hb : routeOrd b' = routeOrd b) : routeDiff a' b' = routeDiff a b := by
  simp only [routeOrd, EmbeddingLike.apply_eq_iff_eq, Prod.mk.injEq, Int.neg_inj, Int.natCast_inj]
    at ha hb
  obtain ⟨hmask, hmetric, hflags, hsourcemask, htable, hsource, haddr⟩ := ha
  obtain ⟨hmask', hmetric', hflags', hsourcemask', htable', hsource', haddr'⟩ := hb
  simp only [routeDiff, hmask, hmetric, hflags, hsourcemask, htable, hsource, haddr, hmask',
    hmetric', hflags', hsourcemask', htable', hsource', haddr']

theorem routeDiff_eq_zero_iff (a b : DeviceRoute) : routeDiff a b = 0 ↔ routeOrd a = routeOrd b := by
  constructor
  · intro h
    obtain ⟨hflags, hmetric, htable, hmask, hsourcemask, haddr, hsource⟩ := routeDiff_eq_zero h
    simp only [routeOrd, hflags, hmetric, htable, hmask, hsourcemask, haddr, hsource]
  · intro h
    have hself : routeDiff b b = 0 := by simp [routeDiff, memcmp]
    rw [routeDiff_congr h rfl, hself]

theorem routeCmp_congr {a a' : DeviceRoute} (h : routeDiff a' a = 0) (b : DeviceRoute) :
    routeCmp a' b = routeCmp a b := by
  rw [routeCmp, routeCmp, routeDiff_congr ((routeDiff_eq_zero_iff a' a).mp h) rfl]

theorem RouteLt.pos {a b : DeviceRoute} (h : RouteLt a b) : 0 < routeCmp b a := by
  have hneg := (routeLt_iff.mp h).2
  rw [h.1.symm.routeCmp_eq, routeDiff_swap a b]
  omega

theorem searchable_of_routeLt {routes : List DeviceRoute} (h : routes.Pairwise RouteLt) :
    Searchable routes := by
  refine ⟨h.imp fun hlt => hlt.2, ?_, h.imp fun hlt => ne_of_lt (routeLt_iff.mp hlt).2⟩
  intro tree htree r hr k hk
  rw [← htree] at h hr
  apply SearchTrees.Tree.find_of_sorted h hr
  · rw [routeCmp, hk]
    rfl
  · intro b hb
    rw [routeCmp_congr hk]
    exact hb.pos
  · intro b hb
    rw [routeCmp_congr hk]
    exact hb.2

theorem find_descends {tree : Vlist DeviceRoute} (h : tree.values.Pairwise RouteLt)
    {r : DeviceRoute} (hr : ∀ b ∈ tree.values, Comparable r b)
    {shape : SearchTrees.Tree DeviceRoute} (hshape : shape.inorder = tree.values) :
    shape.find (routeCmp r) = tree.find routeCmp r := by
  cases hold : tree.find routeCmp r with
  | none =>
    cases hfound : shape.find (routeCmp r) with
    | none => rfl
    | some b =>
      obtain ⟨hb, heq⟩ := SearchTrees.Tree.mem_of_find hfound
      have hnot := List.find?_eq_none.mp hold b (hshape ▸ hb)
      exact absurd heq (by simpa using hnot)
  | some old =>
    obtain ⟨hcmp, hperm⟩ := Vlist.find_some routeCmp hold
    have hmem : old ∈ tree.values := hperm.symm.subset List.mem_cons_self
    have hdiff : routeDiff r old = 0 := (hr old hmem).routeCmp_eq.symm.trans hcmp
    exact (searchable_of_routeLt h).found shape hshape old hmem r hdiff

/-- The metric of a route is its own, or that of the interface. -/
def metricFor (iface : RouteParams) (r : DeviceRoute) : ℤ :=
  if hasFlag r.flags DEVROUTE_METRIC then r.metric else iface.metric

/-- The table of a route is its own, or that of the interface for its family. -/
def tableFor (iface : RouteParams) (r : DeviceRoute) : ℕ :=
  if hasFlag r.flags DEVROUTE_TABLE then r.table
  else if r.v6 then iface.ip6table else iface.ip4table

def flagsFor (iface : RouteParams) (r : DeviceRoute) : ℕ :=
  if hasFlag r.flags DEVROUTE_TABLE ∨ tableFor iface r = 0 then r.flags
  else r.flags ||| 2 ^ DEVROUTE_SRCTABLE

/-- A route is about to be enabled, and the interface has got another metric or table since it
took them. -/
def Rekeyed (iface : RouteParams) (enabled : Bool) (r : DeviceRoute) : Prop :=
  r.external = false ∧ r.enabled = false ∧ enableRoute iface enabled r = true ∧
    (metricFor iface r ≠ r.metric ∨ tableFor iface r ≠ r.table ∨ flagsFor iface r ≠ r.flags)

instance (iface : RouteParams) (enabled : Bool) (r : DeviceRoute) :
    Decidable (Rekeyed iface enabled r) := inferInstanceAs (Decidable (_ ∧ _ ∧ _ ∧ (_ ∨ _ ∨ _)))

/-- The key that the settings of the interface give a route. -/
def keyFor (iface : RouteParams) (enabled : Bool) (r : DeviceRoute) : DeviceRoute :=
  if Rekeyed iface enabled r then
    { r with metric := metricFor iface r, table := tableFor iface r, flags := flagsFor iface r }
  else r

/-- The steps that keep the order: a new route can be compared with those that are there, and
where routes of one mask get other keys from the interface, these are in the same order. -/
def RouteOrderOk (s : RouteTree) : RouteTreeOp → Prop
  | .route (.add r) =>
    ∀ b ∈ (s.settings.route.erase routeCmp (freshRoute s.iface r)).values,
      Comparable (freshRoute s.iface r) b
  | .route (.setEnabled enabled) => s.dev = true → s.routes.Pairwise fun a b =>
      a.mask = b.mask → Rekeyed s.iface enabled a ∨ Rekeyed s.iface enabled b →
        RouteLt (keyFor s.iface enabled a) (keyFor s.iface enabled b)
  | _ => True

theorem interfaceSetRouteInfo_eq (iface : RouteParams) (r : DeviceRoute) :
    interfaceSetRouteInfo iface r =
      { r with
        metric := metricFor iface r
        table := tableFor iface r
        flags := flagsFor iface r } := by
  have hfamily : (setRouteMetric iface r).v6 = r.v6 := by
    rw [DeviceRoute.v6, setRouteMetric_flags, DeviceRoute.v6]
  unfold interfaceSetRouteInfo setRouteTable metricFor flagsFor tableFor
  rw [setRouteMetric_flags, hfamily]
  unfold setRouteMetric
  cases hasFlag r.flags DEVROUTE_METRIC <;> cases hasFlag r.flags DEVROUTE_TABLE <;>
    simp

theorem not_rekeyed {iface : RouteParams} {r : DeviceRoute} (h : HasRouteInfo iface r)
    (enabled : Bool) : ¬Rekeyed iface enabled r := by
  rintro ⟨-, -, -, houtdated⟩
  have hsame := h.eq
  rw [interfaceSetRouteInfo_eq] at hsame
  have hmetric := congrArg DeviceRoute.metric hsame
  have htable := congrArg DeviceRoute.table hsame
  have hflags := congrArg DeviceRoute.flags hsame
  rcases houtdated with h | h | h
  · exact h hmetric
  · exact h htable
  · exact h hflags

theorem setRouteEnabled_ord (iface : RouteParams) (enabled : Bool) (r : DeviceRoute) :
    routeOrd (setRouteEnabled iface enabled r) = routeOrd (keyFor iface enabled r) := by
  unfold keyFor
  split_ifs with hrekeyed
  · obtain ⟨hinternal, hdisabled, henabling, -⟩ := hrekeyed
    simp [setRouteEnabled, hinternal, hdisabled, henabling, interfaceSetRouteInfo_eq, routeOrd]
  · unfold setRouteEnabled
    dsimp only
    split_ifs with hsame henabling
    · rfl
    · have hkey : metricFor iface r = r.metric ∧ tableFor iface r = r.table ∧
          flagsFor iface r = r.flags := by
        by_contra houtdated
        apply hrekeyed
        simp only [henabling, Bool.or_eq_true, beq_iff_eq, not_or, Bool.not_eq_true] at hsame
        exact ⟨hsame.1, hsame.2, henabling, by tauto⟩
      rw [interfaceSetRouteInfo_eq, hkey.1, hkey.2.1, hkey.2.2]
      rfl
    · rfl

theorem keyFor_mask (iface : RouteParams) (enabled : Bool) (r : DeviceRoute) :
    (keyFor iface enabled r).mask = r.mask := by
  unfold keyFor
  split_ifs <;> rfl

theorem keyFor_of_not_rekeyed {iface : RouteParams} {enabled : Bool} {r : DeviceRoute}
    (h : ¬Rekeyed iface enabled r) : keyFor iface enabled r = r := by
  rw [keyFor, if_neg h]

theorem routeLt_of_mask {a b a' b' : DeviceRoute} (h : RouteLt a b) (hne : a.mask ≠ b.mask)
    (ha : a'.mask = a.mask) (hb : b'.mask = b.mask) : RouteLt a' b' := by
  rw [routeLt_iff] at h ⊢
  simp only [routeDiff, ha, hb, ne_eq, hne, not_false_eq_true, if_true] at h ⊢
  exact h

theorem setEnabled_increasing_iff {s : RouteTree} (h : s.routes.Pairwise RouteLt)
    (enabled : Bool) : (s.routes.map (setRouteEnabled s.iface enabled)).Pairwise RouteLt ↔
      s.routes.Pairwise fun a b => a.mask = b.mask →
        Rekeyed s.iface enabled a ∨ Rekeyed s.iface enabled b →
        RouteLt (keyFor s.iface enabled a) (keyFor s.iface enabled b) := by
  have hkeys : ∀ a b, RouteLt (setRouteEnabled s.iface enabled a)
      (setRouteEnabled s.iface enabled b) ↔
        RouteLt (keyFor s.iface enabled a) (keyFor s.iface enabled b) := by
    intro a b
    rw [routeLt_iff, routeLt_iff,
      routeDiff_congr (setRouteEnabled_ord _ _ a) (setRouteEnabled_ord _ _ b)]
  simp only [List.pairwise_map, hkeys]
  constructor
  · exact fun hmap => hmap.imp fun hlt _ _ => hlt
  · intro hok
    refine (h.and hok).imp ?_
    rintro a b ⟨hlt, hpair⟩
    by_cases hmask : a.mask = b.mask
    · by_cases hchange : Rekeyed s.iface enabled a ∨ Rekeyed s.iface enabled b
      · exact hpair hmask hchange
      · obtain ⟨ha, hb⟩ := not_or.mp hchange
        rwa [keyFor_of_not_rekeyed ha, keyFor_of_not_rekeyed hb]
    · exact routeLt_of_mask hlt hmask (keyFor_mask _ _ _) (keyFor_mask _ _ _)

theorem erase_routeDiff_ne {tree : Vlist DeviceRoute} (h : tree.values.Pairwise RouteLt)
    {r b : DeviceRoute} (hb : b ∈ (tree.erase routeCmp r).values) : routeDiff r b ≠ 0 := by
  intro heq
  have hcmp : ∀ c, routeCmp r c = routeCmp b c := routeCmp_congr heq
  cases hold : tree.find routeCmp r with
  | none =>
    rw [Vlist.find_none routeCmp hold] at hb
    have hnot := List.find?_eq_none.mp hold b hb
    simp [routeCmp, heq] at hnot
  | some old =>
    obtain ⟨hfound, hperm⟩ := Vlist.find_some routeCmp hold
    have hsymm : ∀ {a c : DeviceRoute}, routeCmp a c ≠ 0 ∧ routeCmp c a ≠ 0 →
        routeCmp c a ≠ 0 ∧ routeCmp a c ≠ 0 := And.symm
    have hpairs := (hperm.pairwise_iff hsymm).mp
      (h.imp fun hlt => ⟨ne_of_lt hlt.2, ne_of_gt hlt.pos⟩)
    rw [hcmp] at hfound
    exact (List.rel_of_pairwise_cons hpairs hb).2 hfound

theorem erase_increasing {tree : Vlist DeviceRoute} (h : tree.values.Pairwise RouteLt)
    (r : DeviceRoute) : (tree.erase routeCmp r).values.Pairwise RouteLt := by
  rw [Vlist.erase_values]
  exact h.sublist List.eraseP_sublist

/-- A route is put in its place just if it can be compared with all others. -/
theorem add_increasing_iff {s : RouteTree} (h : s.routes.Pairwise RouteLt) (r : DeviceRoute) :
    (routeTreeStep s (.route (.add r))).routes.Pairwise RouteLt ↔
      RouteOrderOk s (.route (.add r)) := by
  have hvalues : (routeTreeStep s (.route (.add r))).routes.Perm
      (addedRoute s.iface s.settings.enabled r ::
        (s.settings.route.erase routeCmp (freshRoute s.iface r)).values) :=
    Vlist.add_values routeCmp (interfaceUpdateProtoRoute s.iface s.settings.enabled)
      s.settings.route (freshRoute s.iface r) s.settings.kernel
  have hord : ∀ b, routeDiff (addedRoute s.iface s.settings.enabled r) b =
      routeDiff (freshRoute s.iface r) b := fun _ => rfl
  constructor
  · intro hafter b hb
    have hpairs := (hvalues.pairwise_iff Comparable.symm).mp (hafter.imp fun hlt => hlt.1)
    have hcomparable := List.rel_of_pairwise_cons hpairs hb
    rwa [Comparable, hord] at hcomparable
  · intro hok
    have hvalue : ∀ m ∈ (s.settings.route.erase routeCmp (freshRoute s.iface r)).nodes,
        m.value ∈ (s.settings.route.erase routeCmp (freshRoute s.iface r)).values :=
      fun m hm => List.mem_map_of_mem hm
    apply Vlist.place_pairwise routeCmp (erase_increasing h _)
    · intro m hm hpos
      have hne := erase_routeDiff_ne h (hvalue m hm)
      have hcomparable := hok m.value (hvalue m hm)
      rw [hcomparable.routeCmp_eq] at hpos
      apply Comparable.routeLt hcomparable.symm
      rw [routeDiff_swap (freshRoute s.iface r)]
      omega
    · intro m hm hneg
      exact ⟨hok m.value (hvalue m hm), hneg⟩
    · intro m hm m' hm' hlt hneg
      rw [(hok m.value (hvalue m hm)).routeCmp_eq] at hneg
      rw [(hok m'.value (hvalue m' hm')).routeCmp_eq]
      exact routeLt_trans_neg hneg hlt

/-- One step keeps the order just if it is a good one. -/
theorem routeTreeStep_increasing_iff (s : RouteTree) (op : RouteTreeOp)
    (h : s.routes.Pairwise RouteLt) :
    (routeTreeStep s op).routes.Pairwise RouteLt ↔ RouteOrderOk s op := by
  cases op with
  | setParams iface => exact iff_of_true h trivial
  | setDevice dev => exact iff_of_true h trivial
  | route op =>
    cases op with
    | updateStart => exact iff_of_true h trivial
    | add r => exact add_increasing_iff h r
    | updateComplete =>
      refine iff_of_true ?_ trivial
      exact h.sublist (List.filter_sublist.map _)
    | setEnabled enabled =>
      cases hdev : s.dev with
      | false =>
        have hsame : (routeTreeStep s (.route (.setEnabled enabled))).routes = s.routes := by
          simp [routeTreeStep, RouteTree.routes, hdev]
        rw [hsame]
        exact iff_of_true h (by simp [RouteOrderOk, hdev])
      | true =>
        have hmap : (routeTreeStep s (.route (.setEnabled enabled))).routes =
            s.routes.map (setRouteEnabled s.iface enabled) := by
          rw [RouteTree.routes, routeTreeStep, hdev]
          exact setRouteEnabled_values s.iface s.settings enabled
        rw [hmap, setEnabled_increasing_iff h]
        simp [RouteOrderOk, hdev]
    | delete r =>
      refine iff_of_true ?_ trivial
      cases hold : s.settings.route.find routeCmp r with
      | none => simpa [routeTreeStep, routeStep, RouteTree.routes, Vlist.delete, hold] using h
      | some old =>
        simpa [routeTreeStep, routeStep, RouteTree.routes, Vlist.delete, hold] using
          erase_increasing h r
    | flush =>
      refine iff_of_true ?_ trivial
      have hvalues : (routeTreeStep s (.route .flush)).routes = [] :=
        Vlist.flushAll_values (interfaceUpdateProtoRoute s.iface s.settings.enabled)
          s.settings.route s.settings.kernel
      rw [hvalues]
      exact .nil

theorem routes_ordered_iff (iface : RouteParams) (dev enabled : Bool) (ops : List RouteTreeOp) :
    (∀ n, (run routeTreeStep { iface, dev, settings := { enabled } }
        (ops.take n)).routes.Pairwise RouteLt) ↔
      AllOk routeTreeStep RouteOrderOk { iface, dev, settings := { enabled } } ops := by
  have hempty : (RouteTree.mk iface dev { enabled }).routes.Pairwise RouteLt := List.Pairwise.nil
  exact run_property_iff (I := fun _ => True) (P := fun s => s.routes.Pairwise RouteLt)
    (fun _ _ => id) (fun s op _ => routeTreeStep_increasing_iff s op) trivial hempty ops

/-- From the start, with no routes, the tree is searchable in every state of a run whose steps are
all good ones. -/
theorem routes_searchable_of_run (iface : RouteParams) (dev enabled : Bool)
    (ops : List RouteTreeOp)
    (hok : AllOk routeTreeStep RouteOrderOk { iface, dev, settings := { enabled } } ops) (n : ℕ) :
    Searchable (run routeTreeStep { iface, dev, settings := { enabled } } (ops.take n)).routes :=
  searchable_of_routeLt ((routes_ordered_iff iface dev enabled ops).mpr hok n)

instance (a b : DeviceRoute) : Decidable (Comparable a b) :=
  inferInstanceAs (Decidable (_ ∧ _))

instance (s : RouteTree) : (op : RouteTreeOp) → Decidable (RouteOrderOk s op)
  | .route (.add r) => inferInstanceAs (Decidable
      (∀ b ∈ (s.settings.route.erase routeCmp (freshRoute s.iface r)).values,
        Comparable (freshRoute s.iface r) b))
  | .route (.setEnabled enabled) => inferInstanceAs (Decidable (s.dev = true →
      s.routes.Pairwise fun a b =>
        a.mask = b.mask → Rekeyed s.iface enabled a ∨ Rekeyed s.iface enabled b →
          RouteLt (keyFor s.iface enabled a) (keyFor s.iface enabled b)))
  | .route .updateStart | .route .updateComplete | .route (.delete _) | .route .flush
  | .setParams _ | .setDevice _ => .isTrue trivial

/-- Of two routes only one has a metric of its own. A reload raises the metric of the interface,
which the other route gets, but not above that. -/
theorem routes_searchable_of_run_reload : Searchable (run routeTreeStep {} (List.take 6
    [.route (.add { flags := 8, metric := 5, mask := 24, addr := 256 }),
      .route (.add { flags := 0, mask := 24, addr := 512 }), .setParams { metric := 3 },
      .route (.setEnabled false), .route (.setEnabled true),
      .route (.delete { flags := 8, metric := 5, mask := 24, addr := 256 })])).routes := by
  apply routes_searchable_of_run {} true true
  exact ⟨by decide, by decide, by decide, by decide, by decide, by decide, trivial⟩

/-- Of two routes only one has a metric of its own. A reload raises the metric of the interface
above that, and the other route gets it without leaving its place. -/
theorem routes_out_of_order :
    ¬∀ ops, (run routeTreeStep {} ops).routes.Pairwise fun a b => routeCmp a b < 0 := by
  intro h
  have hincreasing := h [.route (.setEnabled true),
    .route (.add { flags := 8, metric := 5, mask := 24, addr := 256 }),
    .route (.add { flags := 0, mask := 24, addr := 512 }), .setParams { metric := 10 },
    .route (.setEnabled false), .route (.setEnabled true)]
  revert hincreasing
  decide

theorem routeStep_ordered {iface : RouteParams} {s : RouteSettings} {op : RouteOp}
    (hsettled : RoutesSettled iface s) (h : s.route.values.Pairwise RouteLt)
    (hok : RouteComparable iface s op) : (routeStep iface s op).route.values.Pairwise RouteLt := by
  have hstep : (routeTreeStep { iface, settings := s } (.route op)).routes =
      (routeStep iface s op).route.values := by
    cases op <;> rfl
  rw [← hstep]
  refine (routeTreeStep_increasing_iff { iface, settings := s } (.route op) h).mpr ?_
  cases op with
  | add r => exact fun b hb => hok b (erase_values_subset _ _ hb)
  | setEnabled enabled =>
    intro _
    apply List.Pairwise.imp_of_mem _ h
    intro a b ha hb _ _ hchange
    rcases hchange with hchange | hchange
    · exact absurd hchange (not_rekeyed (hsettled.info a ha) enabled)
    · exact absurd hchange (not_rekeyed (hsettled.info b hb) enabled)
  | updateStart => trivial
  | updateComplete => trivial
  | delete r => trivial
  | flush => trivial

theorem route_find_of_run (iface : RouteParams) (enabled : Bool) (ops : List RouteOp)
    (hok : AllOk (routeStep iface) (RouteStepOk iface) { enabled } ops) (n : ℕ)
    {r : DeviceRoute} {shape : SearchTrees.Tree DeviceRoute}
    (hr : ∀ b ∈ (run (routeStep iface) { enabled } (ops.take n)).route.values, Comparable r b)
    (hshape : shape.inorder = (run (routeStep iface) { enabled } (ops.take n)).route.values) :
    shape.find (routeCmp r) =
      (run (routeStep iface) { enabled } (ops.take n)).route.find routeCmp r := by
  have hsettled : RoutesSettled iface { enabled } :=
    ⟨by simp [Vlist.values], by simp [Vlist.values]⟩
  have hrun := run_property_of_allOk
    (P := fun s => RoutesSettled iface s ∧ s.route.values.Pairwise RouteLt)
    (fun s op h hstep => ⟨routeStep_settled s op h.1, routeStep_ordered h.1 h.2 hstep.1⟩)
    ⟨hsettled, List.Pairwise.nil⟩ hok n
  exact find_descends hrun.2 hr hshape

end Netifd
