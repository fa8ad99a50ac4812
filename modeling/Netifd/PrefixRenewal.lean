import Netifd.AssignmentRefresh

/-!
# Renewals of a prefix

`interface_update_prefix` for a prefix that is there already moves the assignments of the old
object to the new one. Whatever is not part of the key of the tree may be different in it.
-/

namespace Netifd.PrefixRenewal
open IntervalPacking GuardedRuns AssignmentRefresh

/-- `interface_update_prefix` for a new node; only the first prefix is cut up. -/
def interfaceUpdatePrefix (interfaces : InterfaceTable) (noDelegation : Bool)
    (prefixNew : DevicePrefix) : Option DevicePrefix → DevicePrefix
  | some prefixOld =>
    { prefixNew with assignments := prefixOld.assignments ++ prefixNew.assignments }
  | none =>
    if !noDelegation then interfaceUpdatePrefixAssignments interfaces prefixNew true else prefixNew

/-- What a protocol may send along when it sends a prefix again. -/
structure Renewal where
  exclLength : ℕ := 0
  exclAddr : ℕ := 0
  pclass : String

/-- The object that `interface_ip_add_device_prefix` makes. -/
def Renewal.object (r : Renewal) (length : ℕ) : DevicePrefix :=
  { length, exclLength := r.exclLength, exclAddr := r.exclAddr, pclass := r.pclass }

/-- The prefix is sent again. -/
def renew (interfaces : InterfaceTable) (noDelegation : Bool) (p : DevicePrefix) (r : Renewal) :
    DevicePrefix :=
  interfaceUpdatePrefix interfaces noDelegation (r.object p.length) (some p)

theorem renew_eq (interfaces : InterfaceTable) (noDelegation : Bool) (p : DevicePrefix)
    (r : Renewal) :
    renew interfaces noDelegation p r = sentAgain p r.exclLength r.exclAddr r.pclass := by
  simp [renew, interfaceUpdatePrefix, Renewal.object, sentAgain]

/-- The /64 belongs to the excluded prefix: it has the same bits in front. -/
def InExcluded (p : DevicePrefix) (x : ℤ) : Prop :=
  0 < p.exclLength ∧ x / 2 ^ (64 - p.exclLength) =
    ((p.exclAddr % 2 ^ (64 - p.length) : ℕ) : ℤ) / 2 ^ (64 - p.exclLength)

/-- The assignment has an interface, whose address comes from it. -/
def Assigned (interfaces : InterfaceTable) (p : DevicePrefix) (c : DevicePrefixAssignment) : Prop :=
  c ∈ p.assignments ∧ ∃ iface ∈ interfaces.elements, iface.name = c.name

/-- No interface has a /64 of the excluded prefix. -/
def Apart (interfaces : InterfaceTable) (p q : DevicePrefix) : Prop :=
  ∀ c, Assigned interfaces p c → ∀ x, c.assigned ≤ x → x < c.assigned + c.size → ¬InExcluded q x

/-- All interfaces that have an assignment accept the class. -/
def Accepted (interfaces : InterfaceTable) (p : DevicePrefix) (pclass : String) : Prop :=
  ∀ iface ∈ interfaces.elements, iface.name ∈ p.assignments.map (·.name) →
    iface.assignmentClasses ≠ [] → pclass ∈ iface.assignmentClasses

/-- The assignments respect the exclusion and the class of the prefix. -/
def Respects (interfaces : InterfaceTable) (p : DevicePrefix) : Prop :=
  Apart interfaces p p ∧ Accepted interfaces p p.pclass

/-- The entries are apart, the excluded prefix is one of them, and all but it and the sentinel
were made for interfaces that the prefix suits. -/
structure Fitted (p : DevicePrefix) (ifaces : List AssignedInterface)
    (l : List DevicePrefixAssignment) : Prop where
  packed : PackedFrom 0 l
  keeps : excluded p ⊆ l
  entries : ∀ a ∈ l, a ∈ excluded p ++ [sentinel p] ∨
    ∃ iface ∈ ifaces, eligible p iface = true ∧ iface.name = a.name

/-- An entry of an interface that the prefix suits. -/
def Asks (p : DevicePrefix) (ifaces : List AssignedInterface) (c : DevicePrefixAssignment) : Prop :=
  ∃ iface ∈ ifaces, eligible p iface = true ∧ iface.name = c.name

theorem Fitted.assign {p : DevicePrefix} {ifaces : List AssignedInterface}
    {l l' : List DevicePrefixAssignment} {c : DevicePrefixAssignment} (h : Fitted p ifaces l)
    (hc : Asks p ifaces c) (hassign : interfacePrefixAssign l c = some l') :
    Fitted p ifaces l' := by
  obtain ⟨x, -, ⟨before, d, after, rfl, rfl⟩, hpacked⟩ :=
    interfacePrefixAssignFrom_some h.packed hassign
  refine ⟨hpacked, ?_, ?_⟩
  · intro e he
    have hmem := h.keeps he
    simp only [List.mem_append, List.mem_cons] at hmem ⊢
    tauto
  · intro a ha
    rcases List.mem_append.mp ha with ha | ha
    · exact h.entries a (List.mem_append_left _ ha)
    · rcases List.mem_cons.mp ha with rfl | ha
      · exact Or.inr hc
      · exact h.entries a (List.mem_append_right _ ha)

theorem insertedInto_of_assign {assign : DevicePrefixAssignment} {current : ℤ}
    {l l' : List DevicePrefixAssignment}
    (h : interfacePrefixAssignFrom assign current l = some l') :
    ∃ x, InsertedInto { assign with assigned := x } l l' := by
  induction l generalizing current l' with
  | nil => cases h
  | cons c cs ih =>
    have hlater : (interfacePrefixAssignFrom assign (c.assigned + c.size) cs).map (c :: ·) =
        some l' → ∃ x, InsertedInto { assign with assigned := x } (c :: cs) l' := by
      intro hmap
      obtain ⟨cs', hcs, rfl⟩ := Option.map_eq_some_iff.mp hmap
      obtain ⟨x, hinserted⟩ := ih hcs
      exact ⟨x, hinserted.tail c⟩
    simp only [interfacePrefixAssignFrom] at h
    split_ifs at h
    · cases h
      exact ⟨assign.assigned, .head assign c cs⟩
    · exact hlater h
    · cases h
      exact ⟨_, .head _ c cs⟩
    · exact hlater h

theorem search_fitted (p : DevicePrefix) (ifaces : List AssignedInterface) :
    Search interfacePrefixAssign (Fitted p ifaces) (Asks p ifaces) (fun _ => True) where
  inserts hl hc hassign := by
    obtain ⟨x, hinserted⟩ := insertedInto_of_assign hassign
    exact ⟨hl.assign hc hassign, x, trivial, hinserted⟩
  gapless _ _ hlength hany hassign := interfacePrefixAssignFrom_none hlength hany hassign
  anywhere hc := hc
  smaller hc _ _ := hc

theorem update_fitted (interfaces : InterfaceTable) {p : DevicePrefix} (hp : p.Delegated) :
    Fitted p interfaces.elements
      (interfaceUpdatePrefixAssignments interfaces p true).assignments := by
  have hstart : Fitted p interfaces.elements (excluded p ++ [sentinel p]) :=
    ⟨(progress_start hp).packed, List.subset_append_left _ _, fun a ha => Or.inl ha⟩
  rw [assignments_eq]
  exact ((search_fitted p interfaces.elements).serves interfaces hstart ⟨excluded p, rfl⟩
    fun iface hiface helig => ⟨iface, hiface, helig, rfl⟩).1

theorem excluded_entry {p : DevicePrefix} (hp : p.Delegated) {x : ℤ} (hx : InExcluded p x) :
    ∃ e ∈ excluded p, e.name = "!excluded" ∧ e.assigned ≤ x ∧ x < e.assigned + e.size := by
  obtain ⟨hpos, hsame⟩ := hx
  obtain ⟨hle, h64, hdvd⟩ := hp.excl.resolve_left hpos.ne'
  rw [excluded, if_pos hpos]
  refine ⟨_, List.mem_singleton_self _, rfl, ?_⟩
  have hpow : 2 ^ (64 - p.exclLength) ∣ 2 ^ (64 - p.length) := pow_dvd_pow 2 (by omega)
  have hmod : 2 ^ (64 - p.exclLength) ∣ p.exclAddr % 2 ^ (64 - p.length) :=
    (Nat.dvd_mod_iff hpow).mpr hdvd
  simp only [DevicePrefixAssignment.size, Nat.and_two_pow_sub_one_eq_mod]
  generalize p.exclAddr % 2 ^ (64 - p.length) = m at hmod hsame ⊢
  obtain ⟨k, rfl⟩ := hmod
  have hblock : (0 : ℤ) < 2 ^ (64 - p.exclLength) := by positivity
  push_cast at hsame ⊢
  rw [Int.mul_ediv_cancel_left _ hblock.ne', Int.ediv_eq_iff_of_pos hblock] at hsame
  constructor
  · nlinarith [hsame.1]
  · nlinarith [hsame.2]

/-- The interfaces have other names than the entries that are not made for an interface. -/
def Named (interfaces : InterfaceTable) : Prop :=
  ∀ iface ∈ interfaces.elements, iface.name ≠ "" ∧ iface.name ≠ "!excluded"

theorem eq_of_name {interfaces : InterfaceTable} {i j : AssignedInterface}
    (hi : i ∈ interfaces.elements) (hj : j ∈ interfaces.elements) (h : i.name = j.name) :
    i = j :=
  List.inj_on_of_nodup_map interfaces.names_nodup hi hj h

theorem Fitted.apart {p : DevicePrefix} {ifaces : List AssignedInterface}
    {l : List DevicePrefixAssignment} (h : Fitted p ifaces l) {a b : DevicePrefixAssignment}
    (ha : a ∈ l) (hb : b ∈ l) (hne : a ≠ b) :
    a.assigned + a.size ≤ b.assigned ∨ b.assigned + b.size ≤ a.assigned := by
  have hpairwise : l.Pairwise fun x y =>
      x.assigned + x.size ≤ y.assigned ∨ y.assigned + y.size ≤ x.assigned :=
    (h.packed.pairwise fun x => (size_pos x).le).imp Or.inl
  have : Std.Symm fun x y : DevicePrefixAssignment =>
      x.assigned + x.size ≤ y.assigned ∨ y.assigned + y.size ≤ x.assigned := ⟨fun _ _ => Or.symm⟩
  exact hpairwise.forall ha hb hne

/-- The interfaces that have an assignment are among those that the prefix suits. -/
def Suited (interfaces : InterfaceTable) (p : DevicePrefix) : Prop :=
  ∀ iface ∈ interfaces.elements, iface.name ∈ p.assignments.map (·.name) → eligible p iface = true

theorem Suited.accepted {interfaces : InterfaceTable} {p : DevicePrefix}
    (h : Suited interfaces p) : Accepted interfaces p p.pclass := by
  intro iface hiface hassigned hclasses
  have helig := h iface hiface hassigned
  simp only [eligible, Bool.and_eq_true, Bool.or_eq_true, List.isEmpty_iff,
    List.contains_iff_mem] at helig
  exact helig.2.resolve_left hclasses

theorem update_suited {interfaces : InterfaceTable} (hnamed : Named interfaces)
    {p : DevicePrefix} (hp : p.Delegated) :
    Suited interfaces (interfaceUpdatePrefixAssignments interfaces p true) := by
  intro iface hiface hassigned
  obtain ⟨a, ha, hname⟩ := List.mem_map.mp hassigned
  rcases (update_fitted interfaces hp).entries a ha with hmark | ⟨iface', hiface', helig, hname'⟩
  · have hnames := hnamed iface hiface
    rw [← hname] at hnames
    exact ((mark_name hmark).elim hnames.2 hnames.1).elim
  · rwa [eq_of_name hiface hiface' (hname.symm.trans hname'.symm)]

theorem update_apart {interfaces : InterfaceTable} (hnamed : Named interfaces)
    {p : DevicePrefix} (hp : p.Delegated) :
    Apart interfaces (interfaceUpdatePrefixAssignments interfaces p true)
      (interfaceUpdatePrefixAssignments interfaces p true) := by
  have hfitted := update_fitted interfaces hp
  rintro c ⟨hc, iface, hiface, hname⟩ x hlow hhigh hx
  have hx' : InExcluded p x := hx
  obtain ⟨e, he, hmark, helow, hehigh⟩ := excluded_entry hp hx'
  have hne : c ≠ e := by
    rintro rfl
    exact (hnamed iface hiface).2 (hname.trans hmark)
  have hapart := hfitted.apart hc (hfitted.keeps he) hne
  omega

/-- The renewal excludes nothing, or what it excludes lies in what was excluded before. -/
def ExcludesLess (p : DevicePrefix) (r : Renewal) : Prop :=
  r.exclLength = 0 ∨ 0 < p.exclLength ∧ p.exclLength ≤ r.exclLength ∧
    r.exclAddr % 2 ^ (64 - p.length) / 2 ^ (64 - p.exclLength) =
      p.exclAddr % 2 ^ (64 - p.length) / 2 ^ (64 - p.exclLength)

/-- The renewals that need no new assignments: they exclude no more than before, and every
interface that the prefix suited accepts their class. -/
def RenewalOk (interfaces : InterfaceTable) (p : DevicePrefix) (r : Renewal) : Prop :=
  ExcludesLess p r ∧
    ∀ iface ∈ interfaces.elements, eligible p iface = true →
      iface.assignmentClasses = [] ∨ r.pclass ∈ iface.assignmentClasses

theorem ExcludesLess.inExcluded {p : DevicePrefix} {r : Renewal} (h : ExcludesLess p r) {x : ℤ}
    (hx : InExcluded (r.object p.length) x) : InExcluded p x := by
  obtain ⟨hpos, hsame⟩ := hx
  obtain ⟨hp, hle, haddr⟩ := h.resolve_left hpos.ne'
  refine ⟨hp, ?_⟩
  change x / 2 ^ (64 - r.exclLength) =
    ((r.exclAddr % 2 ^ (64 - p.length) : ℕ) : ℤ) / 2 ^ (64 - r.exclLength) at hsame
  -- the bits in front of the longer prefix begin with those of the shorter one
  have hpow : (2 : ℤ) ^ (64 - p.exclLength) =
      2 ^ (64 - r.exclLength) * 2 ^ (64 - p.exclLength - (64 - r.exclLength)) := by
    rw [← pow_add]
    congr 1
    omega
  have hless : x / 2 ^ (64 - p.exclLength) =
      ((r.exclAddr % 2 ^ (64 - p.length) : ℕ) : ℤ) / 2 ^ (64 - p.exclLength) := by
    rw [hpow, ← Int.ediv_ediv_of_nonneg (by positivity), hsame,
      Int.ediv_ediv_of_nonneg (by positivity)]
  rw [hless]
  exact_mod_cast haddr

theorem renew_respects {interfaces : InterfaceTable} (noDelegation : Bool) {p : DevicePrefix}
    {r : Renewal} (hapart : Apart interfaces p p) (hsuited : Suited interfaces p)
    (hok : RenewalOk interfaces p r) :
    Apart interfaces (renew interfaces noDelegation p r) (renew interfaces noDelegation p r) ∧
      Suited interfaces (renew interfaces noDelegation p r) := by
  rw [renew_eq]
  constructor
  · intro c hc x hlow hhigh hx
    have hx' : InExcluded (r.object p.length) x := hx
    exact hapart c hc x hlow hhigh (hok.1.inExcluded hx')
  · intro iface hiface hassigned
    have helig := hsuited iface hiface hassigned
    have haccepts := hok.2 iface hiface helig
    simp only [eligible, sentAgain, Bool.and_eq_true, Bool.or_eq_true, List.isEmpty_iff,
      List.contains_iff_mem] at helig ⊢
    exact ⟨helig.1, haccepts⟩

/-- A prefix as it comes for the first time, with the interfaces that there are. -/
structure Arrival where
  interfaces : InterfaceTable
  named : Named interfaces
  noDelegation : Bool := false
  p : DevicePrefix
  delegated : p.Delegated
  fresh : p.assignments = []

/-- The prefix after its first `interface_update_prefix`. -/
def Arrival.first (a : Arrival) : DevicePrefix :=
  interfaceUpdatePrefix a.interfaces a.noDelegation a.p none

theorem Arrival.first_respects (a : Arrival) :
    Apart a.interfaces a.first a.first ∧ Suited a.interfaces a.first := by
  have hfirst : a.first = if !a.noDelegation then
      interfaceUpdatePrefixAssignments a.interfaces a.p true else a.p := rfl
  rw [hfirst]
  split_ifs with hdelegation
  · exact ⟨update_apart a.named a.delegated, update_suited a.named a.delegated⟩
  · constructor
    · rintro c ⟨hc, -⟩
      rw [a.fresh] at hc
      cases hc
    · intro iface _ hassigned
      rw [a.fresh] at hassigned
      cases hassigned

/-- The exclusion and the class are respected after the first arrival and after each of a sequence
of renewals that exclude no more and are accepted where the prefix was. -/
theorem renewals_respect (a : Arrival) (renewals : List Renewal)
    (hok : AllOk (renew a.interfaces a.noDelegation) (RenewalOk a.interfaces) a.first renewals)
    (n : ℕ) :
    Respects a.interfaces (run (renew a.interfaces a.noDelegation) a.first (renewals.take n)) := by
  have hrun := run_property_of_allOk
    (P := fun p => Apart a.interfaces p p ∧ Suited a.interfaces p)
    (fun p r h hr => renew_respects a.noDelegation h.1 h.2 hr) a.first_respects hok n
  exact ⟨hrun.1, hrun.2.accepted⟩

/-- A /60 of which the first /62 is excluded and lan has the second. -/
def excludingArrival : Arrival where
  interfaces :=
    { elements := [{ name := "guest", assignmentLength := 63, assignmentClasses := ["vpn"] },
        { name := "lan", assignmentLength := 62, assignmentClasses := ["lab", "wan"] }]
      sorted := by decide }
  named := by simp [Named]
  p := { length := 60, exclLength := 62, exclAddr := 0, pclass := "wan" }
  delegated := ⟨by decide, by decide, Or.inr ⟨by decide, by decide, by decide⟩⟩
  fresh := rfl

/-- It is sent again with half of the exclusion, then with another class that lan accepts and no
exclusion. -/
theorem renewals_respect_less : Respects excludingArrival.interfaces
    (run (renew excludingArrival.interfaces excludingArrival.noDelegation) excludingArrival.first
      (List.take 2 [{ exclLength := 63, exclAddr := 2, pclass := "wan" }, { pclass := "lab" }])) := by
  apply renewals_respect
  have hmember : ∀ (p : DevicePrefix) (pclass : String), p.pclass = "wan" →
      pclass = "lab" ∨ pclass = "wan" → ∀ iface ∈ excludingArrival.interfaces.elements,
      eligible p iface = true → iface.assignmentClasses = [] ∨ pclass ∈ iface.assignmentClasses := by
    intro p pclass hp hpclass iface hiface helig
    rcases List.mem_cons.mp hiface with rfl | hiface
    · simp [eligible, hp] at helig
    · obtain rfl := List.mem_singleton.mp hiface
      right
      simpa using hpclass
  refine ⟨⟨Or.inr ⟨by decide, by decide, by decide⟩, ?_⟩, ⟨Or.inl rfl, ?_⟩, trivial⟩
  · exact hmember _ "wan" rfl (Or.inr rfl)
  · exact hmember _ "lab" rfl (Or.inl rfl)

/-- The first /62 of a prefix is assigned, and excluded when the prefix is sent again. -/
theorem renewal_excludes_assigned : ¬∀ (a : Arrival) (renewals : List Renewal) (n : ℕ),
    Respects a.interfaces (run (renew a.interfaces a.noDelegation) a.first (renewals.take n)) := by
  intro h
  let a : Arrival :=
    { interfaces :=
        { elements := [{ name := "lan", assignmentLength := 62, assignmentHint := 0 }]
          sorted := by simp }
      named := by simp [Named]
      p := { length := 60, pclass := "wan" }
      delegated := ⟨by decide, by decide, Or.inl rfl⟩
      fresh := rfl }
  have hrespects := h a [{ exclLength := 62, exclAddr := 0, pclass := "wan" }] 1
  let c : DevicePrefixAssignment := { assigned := 0, length := 62, name := "lan" }
  refine hrespects.1 c ⟨by decide, by decide⟩ 0 (by decide) (by decide) ⟨by decide, by decide⟩

end Netifd.PrefixRenewal
