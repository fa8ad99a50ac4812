import Netifd.PrefixAssignment
import Netifd.RouteOrder
import Netifd.WrappedOrder

/-!
# The comparators of the trees

`route_cmp`, `prefix_assignment_cmp` and `resolv_conf_iface_cmp` subtract numbers of 32 bits and
return an `int`. The numbers that the configuration gives are taken as they are there.
-/

namespace Netifd
open WrappedOrder

/-- What `resolv_conf_iface_cmp` reads of `struct interface`. -/
structure ResolvInterface where
  name : String
  dnsMetric : ℕ := 0
  metric : ℕ := 0
  deriving DecidableEq

/-- `resolv_conf_iface_cmp`, before the result is made an `int`. -/
def resolvConfIfaceCmp (iface1 iface2 : ResolvInterface) : ℤ :=
  if iface1.dnsMetric ≠ iface2.dnsMetric then iface1.dnsMetric - iface2.dnsMetric
  else if iface1.metric ≠ iface2.metric then iface1.metric - iface2.metric
  else strcmp iface1.name iface2.name

/-- The lowest DNS metric is first, then the lowest metric, then the alphabet. -/
def resolvOrd (iface : ResolvInterface) : ℕ ×ₗ ℕ ×ₗ String :=
  toLex (iface.dnsMetric, toLex (iface.metric, iface.name))

/-- The smallest assignment length is first, then the highest weight, then the alphabet. -/
def assignmentOrd (a : DevicePrefixAssignment) : ℕ ×ₗ ℤ ×ₗ String :=
  toLex (a.length, toLex (-a.weight, a.name))

theorem strcmp_neg (a b : String) : strcmp a b < 0 ↔ a < b := by
  unfold strcmp
  cases hcmp : compare a b with
  | lt => exact iff_of_true (by decide) (compare_lt_iff_lt.mp hcmp)
  | eq => exact iff_of_false (by decide) (compare_eq_iff_eq.mp hcmp).not_lt
  | gt => exact iff_of_false (by decide) (compare_gt_iff_gt.mp hcmp).not_gt

theorem strcmp_swap (a b : String) : strcmp b a = -strcmp a b := by
  unfold strcmp
  cases hcmp : compare a b with
  | lt =>
    rw [compare_gt_iff_gt.mpr (compare_lt_iff_lt.mp hcmp)]
    rfl
  | eq =>
    rw [compare_eq_iff_eq.mpr (compare_eq_iff_eq.mp hcmp).symm]
    rfl
  | gt =>
    rw [compare_lt_iff_lt.mpr (compare_gt_iff_gt.mp hcmp)]

theorem strcmp_bound (a b : String) : -1 ≤ strcmp a b ∧ strcmp a b ≤ 1 := by
  unfold strcmp
  split <;> decide

theorem routeDiff_decides : Decides routeOrd routeDiff := ⟨routeDiff_neg_iff, routeDiff_swap⟩

theorem prefixAssignmentCmp_decides : Decides assignmentOrd prefixAssignmentCmp where
  neg a b := by
    have hname := strcmp_neg a.name b.name
    simp only [assignmentOrd, Prod.Lex.toLex_lt_toLex]
    unfold prefixAssignmentCmp
    by_cases hlength : a.length = b.length
    · by_cases hweight : a.weight = b.weight
      · simp [hlength, hweight, hname]
      · simp only [hlength, hweight, ne_eq, not_true_eq_false, not_false_eq_true, if_true, if_false,
          lt_irrefl, false_or, true_and, neg_inj, false_and, or_false]
        omega
    · simp only [hlength, ne_eq, not_false_eq_true, if_true, false_and, or_false]
      omega
  swap a b := by
    have hname := strcmp_swap a.name b.name
    unfold prefixAssignmentCmp
    split_ifs <;> omega

theorem resolvConfIfaceCmp_decides : Decides resolvOrd resolvConfIfaceCmp where
  neg a b := by
    have hname := strcmp_neg a.name b.name
    simp only [resolvOrd, Prod.Lex.toLex_lt_toLex]
    unfold resolvConfIfaceCmp
    by_cases hdns : a.dnsMetric = b.dnsMetric
    · by_cases hmetric : a.metric = b.metric
      · simp [hdns, hmetric, hname]
      · simp only [hdns, hmetric, ne_eq, not_true_eq_false, not_false_eq_true, if_true, if_false,
          lt_irrefl, false_or, true_and, false_and, or_false]
        omega
    · simp only [hdns, ne_eq, not_false_eq_true, if_true, false_and, or_false]
      omega
  swap a b := by
    have hname := strcmp_swap a.name b.name
    unfold resolvConfIfaceCmp
    split_ifs <;> omega

/-- The numbers of a route are those of the configuration, each of 32 bits at most. -/
structure AdmittedRoute where
  route : DeviceRoute
  metric : 0 ≤ route.metric ∧ route.metric < 2 ^ 32
  table : route.table < 2 ^ 32
  mask : route.mask < 2 ^ 32
  sourcemask : route.sourcemask < 2 ^ 32
  flags : route.flags < 2 ^ 32

/-- A length of 8 bits and a weight of 32. -/
structure AdmittedAssignment where
  assignment : DevicePrefixAssignment
  length : assignment.length < 2 ^ 8
  weight : 0 ≤ assignment.weight ∧ assignment.weight < 2 ^ 32

/-- Two metrics of 32 bits. -/
structure AdmittedResolv where
  iface : ResolvInterface
  dnsMetric : iface.dnsMetric < 2 ^ 32
  metric : iface.metric < 2 ^ 32

theorem memcmp_bound (a b : ℕ) : -1 ≤ memcmp a b ∧ memcmp a b ≤ 1 := by
  unfold memcmp
  split_ifs <;> decide

theorem routeDiff_bound (a b : AdmittedRoute) :
    -2 ^ 32 < routeDiff a.route b.route ∧ routeDiff a.route b.route < 2 ^ 32 := by
  have hsource := memcmp_bound a.route.source b.route.source
  have haddr := memcmp_bound a.route.addr b.route.addr
  have ha := a.metric
  have hb := b.metric
  have htable := a.table
  have htable' := b.table
  have hmask := a.mask
  have hmask' := b.mask
  have hsourcemask := a.sourcemask
  have hsourcemask' := b.sourcemask
  have hflags := a.flags
  have hflags' := b.flags
  unfold routeDiff
  split_ifs <;> omega

theorem prefixAssignmentCmp_bound (a b : AdmittedAssignment) :
    -2 ^ 32 < prefixAssignmentCmp a.assignment b.assignment ∧
      prefixAssignmentCmp a.assignment b.assignment < 2 ^ 32 := by
  have hname := strcmp_bound a.assignment.name b.assignment.name
  have ha := a.weight
  have hb := b.weight
  have hlength := a.length
  have hlength' := b.length
  unfold prefixAssignmentCmp
  split_ifs <;> omega

theorem resolvConfIfaceCmp_bound (a b : AdmittedResolv) :
    -2 ^ 32 < resolvConfIfaceCmp a.iface b.iface ∧
      resolvConfIfaceCmp a.iface b.iface < 2 ^ 32 := by
  have hname := strcmp_bound a.iface.name b.iface.name
  have ha := a.dnsMetric
  have hb := b.dnsMetric
  have hmetric := a.metric
  have hmetric' := b.metric
  unfold resolvConfIfaceCmp
  split_ifs <;> omega

/-- The order of the routes: the most specific first, then the lowest metric. -/
def AdmittedRoute.key (r : AdmittedRoute) := routeOrd r.route

def AdmittedAssignment.key (a : AdmittedAssignment) := assignmentOrd a.assignment

def AdmittedResolv.key (i : AdmittedResolv) := resolvOrd i.iface

/-- The difference that decides between two routes. -/
def AdmittedRoute.diff (a b : AdmittedRoute) : ℤ := routeDiff a.route b.route

def AdmittedAssignment.diff (a b : AdmittedAssignment) : ℤ :=
  prefixAssignmentCmp a.assignment b.assignment

def AdmittedResolv.diff (a b : AdmittedResolv) : ℤ := resolvConfIfaceCmp a.iface b.iface

theorem routeCmp_eq (a b : AdmittedRoute) :
    routeCmp a.route b.route = wrapped AdmittedRoute.diff a b := rfl

theorem prefixAssignmentCmpInt_eq (a b : AdmittedAssignment) :
    prefixAssignmentCmpInt a.assignment b.assignment = wrapped AdmittedAssignment.diff a b := by
  have hname := strcmp_bound a.assignment.name b.assignment.name
  have ha := a.weight
  have hb := b.weight
  have hlength := a.length
  have hlength' := b.length
  unfold wrapped AdmittedAssignment.diff prefixAssignmentCmp prefixAssignmentCmpInt
  dsimp only
  split_ifs with hl hdiff hweight hweight
  · exact (Int.bmod_eq_of_le (by omega) (by omega)).symm
  · rfl
  · exact absurd (by simp [not_not.mp hweight]) hdiff
  · -- no two weights are a multiple of `2 ^ 32` apart
    have hdvd : (2 ^ 32 : ℤ) ∣ b.assignment.weight - a.assignment.weight :=
      Int.dvd_of_bmod_eq_zero (not_not.mp hdiff)
    omega
  · exact (Int.bmod_eq_of_le (by omega) (by omega)).symm

/-- Each comparator, with its result as an `int`, orders a set of admitted keys as it is
documented if and only if the first numbers in which two of them differ are less than `2 ^ 31`
apart. -/
theorem comparators_order_iff (routes : Set AdmittedRoute) (assignments : Set AdmittedAssignment)
    (ifaces : Set AdmittedResolv) :
    (OrdersBy AdmittedRoute.key (wrapped AdmittedRoute.diff) routes ↔
      ∀ a ∈ routes, ∀ b ∈ routes, Fits (a.diff b)) ∧
    (OrdersBy AdmittedAssignment.key (wrapped AdmittedAssignment.diff) assignments ↔
      ∀ a ∈ assignments, ∀ b ∈ assignments, Fits (a.diff b)) ∧
    (OrdersBy AdmittedResolv.key (wrapped AdmittedResolv.diff) ifaces ↔
      ∀ a ∈ ifaces, ∀ b ∈ ifaces, Fits (a.diff b)) := by
  have hroute : Decides AdmittedRoute.key AdmittedRoute.diff :=
    ⟨fun a b => routeDiff_decides.neg a.route b.route,
      fun a b => routeDiff_decides.swap a.route b.route⟩
  have hassignment : Decides AdmittedAssignment.key AdmittedAssignment.diff :=
    ⟨fun a b => prefixAssignmentCmp_decides.neg a.assignment b.assignment,
      fun a b => prefixAssignmentCmp_decides.swap a.assignment b.assignment⟩
  have hresolv : Decides AdmittedResolv.key AdmittedResolv.diff :=
    ⟨fun a b => resolvConfIfaceCmp_decides.neg a.iface b.iface,
      fun a b => resolvConfIfaceCmp_decides.swap a.iface b.iface⟩
  exact ⟨hroute.ordersBy_iff fun a _ b _ => routeDiff_bound a b,
    hassignment.ordersBy_iff fun a _ b _ => prefixAssignmentCmp_bound a b,
    hresolv.ordersBy_iff fun a _ b _ => resolvConfIfaceCmp_bound a b⟩

/-- An interface with this metric and no DNS metric. -/
def resolvOf (name : String) (metric : ℕ) (h : metric < 2 ^ 32) : AdmittedResolv :=
  ⟨{ name, metric }, by norm_num, h⟩

/-- Three interfaces, each of which comes before the next, and the last before the first. -/
theorem resolv_order_cyclic : ¬∀ a b c : AdmittedResolv,
    wrapped AdmittedResolv.diff a b ≤ 0 → wrapped AdmittedResolv.diff b c ≤ 0 →
      wrapped AdmittedResolv.diff a c ≤ 0 := by
  intro htrans
  have h := htrans (resolvOf "a" 0 (by norm_num)) (resolvOf "b" (2 ^ 30) (by norm_num))
    (resolvOf "c" (2 ^ 31 + 1) (by norm_num)) (by decide) (by decide)
  revert h
  decide

end Netifd
