import Netifd.AlignedBlocks
import Netifd.InterfaceConfiguration
import Netifd.PrefixOptions
import Mathlib.Data.List.Pairwise

/-!
# The subnets that are cut out of a prefix

The assignment of a prefix reckons with the number of a subnet, `interface_set_prefix_address`
ORs the number into the address that the parser has stored, and that may have any bits there.
The subnets of different interfaces are apart just if that OR keeps the free numbers apart.
-/

namespace Netifd
open IntervalPacking AlignedBlocks

/-- The first half of an address, the bytes that a subnet has a part of. -/
def In6Addr.upper (addr : In6Addr) : ℕ := addr.toNat / 2 ^ 64

/-- The addresses of a network. -/
def network (addr : In6Addr) (length : ℕ) : Set In6Addr :=
  {x | x.toNat ∈ block (128 - length) addr.toNat}

/-- What `interface_set_prefix_address` reads of an interface, with what `mrand48` and the
kernel would answer. -/
structure Downlink where
  l3Dev : Bool := true
  upOrSetup : Bool := true
  ifaceIdSelection : IfaceIdSelection := .fixed
  fixedIfaceId : In6Addr := 1
  macaddr : BitVec 48 := 0
  random : BitVec 64 := 0
  addressAdded : Bool := true

def eui64Ifaceid (macaddr : BitVec 48) : BitVec 64 :=
  (macaddr.extractLsb' 24 24 ++ 0xfffe#16 ++ macaddr.extractLsb' 0 24) ^^^ 0x0200000000000000#64

/-- `generate_ifaceid`: the last eight bytes are replaced. -/
def generateIfaceid (iface : Downlink) (addr : In6Addr) : In6Addr :=
  addr.extractLsb' 64 64 ++
    match iface.ifaceIdSelection with
    | .fixed => iface.fixedIfaceId.extractLsb' 0 64
    | .random => iface.random
    | .eui64 => eui64Ifaceid iface.macaddr

/-- `addr.s6_addr32[1] |= htonl(assigned)`. -/
def orSecondWord (addr : In6Addr) (assigned : ℤ) : In6Addr :=
  addr ||| (BitVec.ofInt 32 assigned).setWidth 128 <<< 64

/-- An address that is installed on an interface. -/
structure Subnet where
  iface : String
  addr : In6Addr
  length : ℕ

def Subnet.network (s : Subnet) : Set In6Addr := Netifd.network s.addr s.length

/-- `interface_ip_add_device_prefix`, the prefix that it adds. -/
def interfaceIpAddDevicePrefix (iface : Option String) (p : PrefixOption) : DevicePrefix where
  length := p.length
  exclLength := if p.exclAddr.isSome then p.exclLength else 0
  exclAddr := (p.exclAddr.getD 0).upper % 2 ^ 32
  pclass := (p.pclass.map String.ofList).getD (iface.getD "local")

/-- `interface_set_prefix_address(.., add = true)`: what is installed. -/
def interfaceSetPrefixAddress (assignment : DevicePrefixAssignment) (p : PrefixOption)
    (iface : Downlink) : Option Subnet :=
  if iface.l3Dev && iface.upOrSetup && iface.addressAdded then
    some { iface := assignment.name
           addr := generateIfaceid iface (orSecondWord p.addr assignment.assigned)
           length := assignment.length }
  else none

/-- The loop over the assignments of a prefix, at its end and when the prefix is sent again. -/
def setPrefixAddresses (interfaces : InterfaceTable) (downlink : String → Downlink)
    (p : PrefixOption) (assignments : List DevicePrefixAssignment) : List Subnet :=
  assignments.filterMap fun c =>
    if interfaces.elements.any (·.name == c.name) then
      interfaceSetPrefixAddress c p (downlink c.name)
    else none

/-- The shifts and sums of the loop of `interface_prefix_assign` are in the range of `int`,
whichever interfaces there are. -/
def DevicePrefix.ShiftsDefined (p : DevicePrefix) : Prop :=
  p.exclLength = 0 ∨ 34 ≤ p.exclLength ∧ p.exclLength ≤ 64 ∧
    (p.exclAddr &&& (2 ^ (64 - p.length) - 1)) + 2 ^ (64 - p.exclLength) + 2 ^ 16 ≤ 2 ^ 31

instance (p : DevicePrefix) : Decidable p.ShiftsDefined :=
  inferInstanceAs (Decidable (_ ∨ _ ∧ _ ∧ _))

/-- What `interface_alloc` sees to: a hint is an `int32_t`, and has no bits that are the
interface's own. -/
structure AssignedInterface.Hinted (iface : AssignedInterface) : Prop where
  int32 : -2 ^ 31 ≤ iface.assignmentHint ∧ iface.assignmentHint < 2 ^ 31
  aligned : 48 ≤ iface.assignmentLength → iface.assignmentLength ≤ 64 →
    iface.assignmentHint = -1 ∨ 2 ^ (64 - iface.assignmentLength) ∣ iface.assignmentHint

def InterfaceTable.Hinted (interfaces : InterfaceTable) : Prop :=
  ∀ i ∈ interfaces.elements, i.Hinted

theorem hintOf_aligned (env : ConfigEnv) {length : ℕ} (hlength : 48 ≤ length)
    (hint : Option String) :
    hintOf env length hint = -1 ∨ 2 ^ (64 - length) ∣ hintOf env length hint := by
  cases hint with
  | none => exact .inl rfl
  | some str =>
    right
    have hpow : (2 : ℤ) ^ (64 - length) ∣ 2 ^ 32 := pow_dvd_pow 2 (by omega)
    have hmasked : (2 : ℤ) ^ (64 - length) ∣
        env.strtol16 str - env.strtol16 str % 2 ^ (64 - length) := Int.dvd_self_sub_emod
    have hint32 : ∀ z : ℤ, (2 : ℤ) ^ (64 - length) ∣ z → (2 : ℤ) ^ (64 - length) ∣ toInt32 z := by
      intro z hz
      have hsub : (2 : ℤ) ^ 32 ∣ toInt32 z - z := Int.dvd_bmod_sub_self
      simpa using dvd_add (hpow.trans hsub) hz
    exact hint32 _ hmasked

/-- The number of a /64 that may be assigned. -/
def Free (p : DevicePrefix) (x : ℕ) : Prop :=
  x < 2 ^ (64 - p.length) ∧ ∀ c ∈ excluded p, (x : ℤ) < c.assigned ∨ c.assigned + c.size ≤ x

theorem upper_lt (addr : In6Addr) : addr.upper < 2 ^ 64 := by
  have hlt := addr.isLt
  unfold In6Addr.upper
  omega

theorem upper_generateIfaceid (iface : Downlink) (addr : In6Addr) :
    (generateIfaceid iface addr).upper = addr.upper := by
  have hlt := upper_lt addr
  unfold In6Addr.upper at hlt
  unfold In6Addr.upper generateIfaceid
  rw [BitVec.toNat_append, Nat.or_div_two_pow, Nat.shiftLeft_eq, Nat.mul_div_cancel _ (by omega),
    Nat.div_eq_of_lt (BitVec.isLt _), Nat.or_zero, BitVec.extractLsb'_toNat,
    Nat.shiftRight_eq_div_pow, Nat.mod_eq_of_lt hlt]

theorem upper_orSecondWord (addr : In6Addr) {x : ℕ} (hx : x < 2 ^ 32) :
    (orSecondWord addr x).upper = addr.upper ||| x := by
  have hword : (BitVec.ofInt 32 (x : ℤ)).toNat = x := by
    rw [BitVec.toNat_ofInt]
    omega
  have hshift : (2 : ℕ) ^ 64 * x < 2 ^ 128 := by omega
  unfold In6Addr.upper orSecondWord
  rw [BitVec.toNat_or, BitVec.toNat_shiftLeft, BitVec.toNat_setWidth, hword, Nat.or_div_two_pow,
    Nat.mod_eq_of_lt (by omega : x < 2 ^ 128), Nat.shiftLeft_eq, Nat.mul_comm x,
    Nat.mod_eq_of_lt hshift, Nat.mul_div_cancel_left _ (Nat.two_pow_pos 64)]

theorem mem_network_iff {addr x : In6Addr} {length : ℕ} (hlength : length ≤ 64) :
    x ∈ network addr length ↔ x.upper ∈ block (64 - length) addr.upper := by
  have hsplit : 128 - length = 64 + (64 - length) := by omega
  simp only [network, Set.mem_ofPred_eq, mem_block, In6Addr.upper, Nat.div_div_eq_div_mul,
    ← pow_add, hsplit]

theorem upper_mem_block {addr x : In6Addr} {length : ℕ} (h : x ∈ network addr length) :
    x.upper ∈ block (64 - length) addr.upper := by
  have hle : 128 - length ≤ 64 + (64 - length) := by omega
  have heq := div_eq_of_le hle h
  rw [pow_add, ← Nat.div_div_eq_div_mul, ← Nat.div_div_eq_div_mul] at heq
  exact heq

/-- An entry of an interface is aligned and lies in the prefix. -/
structure Placed (p : DevicePrefix) (a : DevicePrefixAssignment) : Prop where
  inside : a.assigned + a.size ≤ 2 ^ (64 - p.length)
  aligned : a.size ∣ a.assigned
  length_le : a.length ≤ 64

/-- The list consists of the sentinel, the excluded prefix and entries of interfaces, packed
one after the other up to the sentinel. -/
def Laid (p : DevicePrefix) (list : List DevicePrefixAssignment) : Prop :=
  ∃ before made, list = before ++ [sentinel p] ∧ before.Perm (excluded p ++ made) ∧
    PackedFrom 0 before ∧ ∀ a ∈ made, Placed p a

/-- An entry that finds a place among entries that are packed up to the last one. -/
theorem interfacePrefixAssignFrom_before {assign last : DevicePrefixAssignment} {current : ℤ}
    {before l' : List DevicePrefixAssignment} (hpacked : PackedFrom current before)
    (h : interfacePrefixAssignFrom assign current (before ++ [last]) = some l') :
    ∃ x before',
      (assign.assigned ≠ -1 ∧ x = assign.assigned ∨ assign.assigned = -1 ∧ assign.size ∣ x) ∧
      l' = before' ++ [last] ∧ before'.Perm ({ assign with assigned := x } :: before) ∧
      PackedFrom current before' ∧ ∃ c ∈ before ++ [last], x + assign.size ≤ c.assigned := by
  induction before generalizing current l' with
  | nil =>
    have hle := le_roundUp current (size_pos assign)
    simp only [List.nil_append, interfacePrefixAssignFrom] at h
    split_ifs at h with hhint hfits hgap
    · cases h
      refine ⟨assign.assigned, [assign], .inl ⟨hhint, rfl⟩, rfl, .refl _, ⟨hfits.1, trivial⟩, ?_⟩
      exact ⟨last, by simp, by omega⟩
    · cases h
    · cases h
      refine ⟨_, [_], .inr ⟨by simpa using hhint, dvd_roundUp current assign.size⟩, rfl, .refl _,
        ⟨hle, trivial⟩, last, by simp, ?_⟩
      omega
    · cases h
  | cons c cs ih =>
    have hle := le_roundUp current (size_pos assign)
    have hlater : (interfacePrefixAssignFrom assign (c.assigned + c.size) (cs ++ [last])).map
        (c :: ·) = some l' → ∃ x before',
          (assign.assigned ≠ -1 ∧ x = assign.assigned ∨ assign.assigned = -1 ∧ assign.size ∣ x) ∧
          l' = before' ++ [last] ∧ before'.Perm ({ assign with assigned := x } :: c :: cs) ∧
          PackedFrom current before' ∧ ∃ d ∈ c :: cs ++ [last], x + assign.size ≤ d.assigned := by
      intro hmap
      obtain ⟨cs', hcs, rfl⟩ := Option.map_eq_some_iff.mp hmap
      obtain ⟨x, before', hx, rfl, hperm, hbefore', d, hd, hend⟩ := ih hpacked.2 hcs
      refine ⟨x, c :: before', hx, rfl, (hperm.cons c).trans (.swap _ _ _),
        ⟨hpacked.1, hbefore'⟩, d, List.mem_cons_of_mem c hd, hend⟩
    simp only [List.cons_append, interfacePrefixAssignFrom] at h
    split_ifs at h with hhint hfits hgap
    · cases h
      refine ⟨assign.assigned, assign :: c :: cs, .inl ⟨hhint, rfl⟩, rfl, .refl _, ?_, c, by simp,
        by omega⟩
      exact hpacked.insert hfits.1 (by omega)
    · exact hlater h
    · cases h
      refine ⟨_, _ :: c :: cs, .inr ⟨by simpa using hhint, dvd_roundUp current assign.size⟩, rfl,
        .refl _, ?_, c, by simp, by omega⟩
      apply hpacked.insert hle
      change roundUp current (assign.size - 1) + assign.size ≤ c.assigned
      omega
    · exact hlater h

theorem Laid.assigned_le {p : DevicePrefix} {before made : List DevicePrefixAssignment}
    (hperm : before.Perm (excluded p ++ made)) (hplaced : ∀ a ∈ made, Placed p a)
    {c : DevicePrefixAssignment} (hc : c ∈ before ++ [sentinel p]) :
    c.assigned ≤ 2 ^ (64 - p.length) := by
  rcases List.mem_append.mp hc with hmem | hlast
  · rcases List.mem_append.mp (hperm.subset hmem) with hexcl | hmade
    · unfold excluded at hexcl
      split_ifs at hexcl with h
      · obtain rfl := List.mem_singleton.mp hexcl
        rw [Nat.and_two_pow_sub_one_eq_mod]
        have hlt := Nat.mod_lt p.exclAddr (Nat.two_pow_pos (64 - p.length))
        change ((p.exclAddr % 2 ^ (64 - p.length) : ℕ) : ℤ) ≤ 2 ^ (64 - p.length)
        exact_mod_cast hlt.le
      · cases hexcl
    · have hinside := (hplaced c hmade).inside
      have hsize := size_pos c
      omega
  · obtain rfl := List.mem_singleton.mp hlast
    exact le_rfl

theorem Laid.assign {p : DevicePrefix} {list list' : List DevicePrefixAssignment}
    {c : DevicePrefixAssignment} (h : Laid p list) (h64 : c.length ≤ 64)
    (hc : c.assigned = -1 ∨ c.size ∣ c.assigned)
    (hassign : interfacePrefixAssign list c = some list') : Laid p list' := by
  obtain ⟨before, made, rfl, hperm, hpacked, hplaced⟩ := h
  obtain ⟨x, before', hx, hlist', hperm', hpacked', d, hd, hend⟩ :=
    interfacePrefixAssignFrom_before hpacked hassign
  refine ⟨before', { c with assigned := x } :: made, hlist', ?_, hpacked', ?_⟩
  · exact (hperm'.trans (hperm.cons _)).trans List.perm_middle.symm
  · intro a ha
    rcases List.mem_cons.mp ha with rfl | hmem
    · refine ⟨hend.trans (Laid.assigned_le hperm hplaced hd), ?_, h64⟩
      rcases hx with ⟨hhint, rfl⟩ | ⟨_, hdvd⟩
      · exact hc.resolve_left hhint
      · exact hdvd
    · exact hplaced a hmem

theorem laid_start (p : DevicePrefix) : Laid p (excluded p ++ [sentinel p]) := by
  refine ⟨excluded p, [], rfl, by simp, ?_, by simp⟩
  unfold excluded
  split_ifs
  · exact ⟨Int.natCast_nonneg _, trivial⟩
  · trivial

theorem mem_avlInsert {a c : DevicePrefixAssignment} {l : List DevicePrefixAssignment}
    (h : a ∈ avlInsert c l) : a = c ∨ a ∈ l := by
  induction l with
  | nil => exact .inl (List.mem_singleton.mp h)
  | cons d ds ih =>
    simp only [avlInsert] at h
    split_ifs at h
    · exact List.mem_cons.mp h
    · exact .inr h
    · rcases List.mem_cons.mp h with rfl | hmem
      · exact .inr List.mem_cons_self
      · exact (ih hmem).imp_right (List.mem_cons_of_mem d)

/-- The two lists of the first pass. -/
structure FirstLists (p : DevicePrefix)
    (s : List DevicePrefixAssignment × List DevicePrefixAssignment) : Prop where
  laid : Laid p s.1
  later : ∀ a ∈ s.2, a.assigned = -1 ∧ a.length ≤ 64

theorem FirstLists.insert {p : DevicePrefix}
    {s : List DevicePrefixAssignment × List DevicePrefixAssignment} (h : FirstLists p s)
    {c : DevicePrefixAssignment} (hc : c.assigned = -1) (h64 : c.length ≤ 64) :
    FirstLists p (s.1, avlInsert c s.2) := by
  refine ⟨h.laid, fun a ha => ?_⟩
  rcases mem_avlInsert ha with rfl | hmem
  · exact ⟨hc, h64⟩
  · exact h.later a hmem

theorem FirstLists.step {p : DevicePrefix}
    {s : List DevicePrefixAssignment × List DevicePrefixAssignment} (h : FirstLists p s)
    {iface : AssignedInterface} (hhint : HintAligned p iface) :
    FirstLists p (assignHinted p s iface) := by
  unfold assignHinted
  cases helig : eligible p iface with
  | false => exact h
  | true =>
    have h64 := (eligible_length helig).2
    simp only [Bool.not_true, Bool.false_eq_true, if_false]
    split_ifs with hany
    · exact h.insert hany h64
    · cases hassign : interfacePrefixAssign s.1 (request iface) with
      | none => exact h.insert rfl h64
      | some list => exact ⟨h.laid.assign h64 (hhint helig) hassign, h.later⟩

theorem FirstLists.run {p : DevicePrefix}
    {s : List DevicePrefixAssignment × List DevicePrefixAssignment} (h : FirstLists p s)
    {ifaces : List AssignedInterface} (hhints : ∀ i ∈ ifaces, HintAligned p i) :
    FirstLists p (ifaces.foldl (assignHinted p) s) := by
  induction ifaces generalizing s with
  | nil => exact h
  | cons iface ifaces ih =>
    apply ih (h.step (hhints iface List.mem_cons_self))
    exact fun i hi => hhints i (List.mem_cons_of_mem _ hi)

theorem Laid.shrinking {p : DevicePrefix} {list : List DevicePrefixAssignment}
    {c : DevicePrefixAssignment} (h : Laid p list) (hc : c.assigned = -1) (h64 : c.length ≤ 64) :
    Laid p (assignShrinking list c) := by
  fun_induction assignShrinking list c with
  | case1 c list' hassign => exact h.assign h64 (.inl hc) hassign
  | case2 c hassign hmore ih => exact ih hc hmore
  | case3 c hassign hlast => exact h

theorem Laid.second {p : DevicePrefix} {list later : List DevicePrefixAssignment}
    (h : Laid p list) (hlater : ∀ a ∈ later, a.assigned = -1 ∧ a.length ≤ 64) :
    Laid p (later.foldl assignShrinking list) := by
  induction later generalizing list with
  | nil => exact h
  | cons c later ih =>
    obtain ⟨hc, h64⟩ := hlater c List.mem_cons_self
    apply ih (h.shrinking hc h64)
    exact fun a ha => hlater a (List.mem_cons_of_mem _ ha)

theorem assignments_laid {interfaces : InterfaceTable} (h : interfaces.Hinted)
    (p : DevicePrefix) :
    Laid p (interfaceUpdatePrefixAssignments interfaces p true).assignments := by
  have hhints : ∀ i ∈ interfaces.elements, HintAligned p i := fun i hi helig =>
    (h i hi).aligned (eligible_length helig).1 (eligible_length helig).2
  have hfirst : FirstLists p (interfaces.elements.foldl (assignHinted p)
      (excluded p ++ [sentinel p], [])) := FirstLists.run ⟨laid_start p, by simp⟩ hhints
  exact hfirst.laid.second hfirst.later

/-- The number of the first /64 of an entry. -/
def DevicePrefixAssignment.number (a : DevicePrefixAssignment) : ℕ := a.assigned.toNat

/-- What is known of the entry of an interface. -/
structure Entry (p : DevicePrefix) (a : DevicePrefixAssignment) : Prop extends Placed p a where
  number_eq : (a.number : ℤ) = a.assigned
  free : ∀ r < 2 ^ (64 - a.length), Free p (a.number + r)

theorem Entry.dvd {p : DevicePrefix} {a : DevicePrefixAssignment} (h : Entry p a) :
    2 ^ (64 - a.length) ∣ a.number := by
  have hdvd : (2 ^ (64 - a.length) : ℤ) ∣ a.number := by
    rw [h.number_eq]
    exact h.aligned
  exact_mod_cast hdvd

/-- Two entries do not overlap. -/
def Disjointed (a b : DevicePrefixAssignment) : Prop :=
  a.assigned + a.size ≤ b.assigned ∨ b.assigned + b.size ≤ a.assigned

theorem Disjointed.symm {a b : DevicePrefixAssignment} (h : Disjointed a b) : Disjointed b a :=
  Or.symm h

instance : Std.Symm Disjointed := ⟨fun _ _ => Disjointed.symm⟩

/-- All entries but the sentinel and that of the excluded prefix are free and do not overlap. -/
theorem Laid.entries {p : DevicePrefix} {list : List DevicePrefixAssignment} (h : Laid p list) :
    ∃ made : List DevicePrefixAssignment,
      (∀ c ∈ list, c ∈ made ∨ c ∈ excluded p ++ [sentinel p]) ∧
      (∀ a ∈ made, Entry p a) ∧ made.Pairwise Disjointed := by
  obtain ⟨before, made, rfl, hperm, hpacked, hplaced⟩ := h
  have hsize : ∀ a : DevicePrefixAssignment, 0 ≤ a.size := fun a => (size_pos a).le
  have hpairs : (excluded p ++ made).Pairwise Disjointed :=
    (hperm.pairwise_iff Disjointed.symm).mp ((hpacked.pairwise hsize).imp .inl)
  obtain ⟨_, hmade, hexcl⟩ := List.pairwise_append.mp hpairs
  refine ⟨made, ?_, ?_, hmade⟩
  · intro c hc
    rcases List.mem_append.mp hc with hmem | hmem
    · rcases List.mem_append.mp (hperm.subset hmem) with he | ha
      · exact Or.inr (List.mem_append_left _ he)
      · exact Or.inl ha
    · exact Or.inr (List.mem_append_right _ hmem)
  · intro a ha
    have hle := hpacked.start_le hsize (hperm.symm.subset (List.mem_append_right _ ha))
    have hnumber : (a.number : ℤ) = a.assigned := Int.toNat_of_nonneg hle
    refine ⟨hplaced a ha, hnumber, fun r hr => ?_⟩
    have hsize' : ((2 ^ (64 - a.length) : ℕ) : ℤ) = a.size := by
      simp [DevicePrefixAssignment.size]
    have hinside := (hplaced a ha).inside
    constructor
    · zify
      omega
    · intro c hc
      have hapart := hexcl c hc a ha
      unfold Disjointed at hapart
      push_cast
      omega

theorem Laid.marks {p : DevicePrefix} {list : List DevicePrefixAssignment} (h : Laid p list) :
    excluded p ++ [sentinel p] ⊆ list := by
  obtain ⟨before, made, rfl, hperm, -, -⟩ := h
  intro c hc
  rcases List.mem_append.mp hc with he | hlast
  · exact List.mem_append_left _ (hperm.symm.subset (List.mem_append_left _ he))
  · exact List.mem_append_right _ hlast

end Netifd
