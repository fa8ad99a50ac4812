import Netifd.PrefixShifts

/-!
# Collisions of subnets

The subnets that are installed for a prefix, for every prefix that the parsers accept and every
table of interfaces, those with the names of the sentinel and of the excluded prefix included.
-/

namespace Netifd
open IntervalPacking AlignedBlocks PrefixShifts

/-- The prefix `sent` has got its assignments among the interfaces `before`; `p` has the same
key in the tree, it is `sent` or it has been received since then and has taken them over. These
are the subnets that are installed for `p` among the interfaces `now`, unless a shift on the way
is undefined; sums wrap around. -/
def configuredSubnets (uplink : Option String) (sent p : PrefixOption)
    (before now : InterfaceTable) (downlink : String → Downlink) : Option (List Subnet) :=
  let prefix' := interfaceIpAddDevicePrefix uplink sent
  if ∀ n ∈ updateShifts before prefix', InRange n then
    some (setPrefixAddresses now downlink p (updateInt32 before prefix'))
  else none

/-- The subnets of a prefix as they should be. -/
structure SubnetsSound (p : PrefixOption) (subnets : List Subnet) : Prop where
  disjoint : ∀ s ∈ subnets, ∀ t ∈ subnets, s.iface ≠ t.iface → Disjoint s.network t.network
  inside : ∀ s ∈ subnets, s.network ⊆ network p.addr p.length
  apart : ∀ s ∈ subnets, ∀ e ∈ p.exclAddr, Disjoint s.network (network e p.exclLength)

/-- The interfaces have names of this set. -/
def InterfaceTable.NamedIn (interfaces : InterfaceTable) (names : Set String) : Prop :=
  ∀ i ∈ interfaces.elements, i.name ∈ names

/-- The subnets of a prefix are as they should be for every table of interfaces with names of
this set, and always defined. -/
def SubnetsAlwaysSound (uplink : Option String) (names : Set String) (sent p : PrefixOption) :
    Prop :=
  ∀ before now : InterfaceTable, before.Hinted → now.Hinted → before.NamedIn names →
    now.NamedIn names → ∀ downlink : String → Downlink,
      ∃ subnets, configuredSubnets uplink sent p before now downlink = some subnets ∧
        SubnetsSound p subnets

/-- The names that no entry has but those of interfaces. -/
def ordinaryNames : Set String := {name | name ≠ "" ∧ name ≠ "!excluded"}

theorem mem_ordinaryNames {name : String} :
    name ∈ ordinaryNames ↔ name ≠ "" ∧ name ≠ "!excluded" := Iff.rfl

/-- The numbers of the first half of an address that a subnet for an entry has. -/
def subnetBlock (p : PrefixOption) (c : DevicePrefixAssignment) : Set ℕ :=
  block (64 - c.length) (p.addr.upper ||| c.number)

/-- The sentinel and the entry of the excluded prefix, where interfaces may have their names. -/
def marks (names : Set String) (sent : DevicePrefix) : Set DevicePrefixAssignment :=
  {c | c ∈ excluded sent ++ [sentinel sent] ∧ c.name ∈ names}

/-- The address of a prefix keeps the free numbers apart and out of the excluded network. -/
structure Separable (sent : DevicePrefix) (p : PrefixOption) : Prop where
  defined : sent.ShiftsDefined
  keepsApart : KeepsApart p.addr.upper (Free sent)
  outside : ∀ e ∈ p.exclAddr, ∀ x, Free sent x →
    (p.addr.upper ||| x) / 2 ^ (64 - p.exclLength) ≠ e.upper / 2 ^ (64 - p.exclLength)

/-- So does the subnet that an interface gets for having the name of the sentinel or of the
excluded prefix, where there may be one. -/
structure MarksApart (names : Set String) (sent : DevicePrefix) (p : PrefixOption) : Prop where
  inside : ∀ c ∈ marks names sent, subnetBlock p c ⊆ block (64 - p.length) p.addr.upper
  free : ∀ c ∈ marks names sent, ∀ x, Free sent x → p.addr.upper ||| x ∉ subnetBlock p c
  pairs : ∀ c ∈ marks names sent, ∀ d ∈ marks names sent, c.name ≠ d.name →
    Disjoint (subnetBlock p c) (subnetBlock p d)
  outside : ∀ c ∈ marks names sent, ∀ e ∈ p.exclAddr,
    Disjoint (subnetBlock p c) (block (64 - p.exclLength) e.upper)

/-- The number of an entry fits into the second word of an address, before the last half. -/
structure InWord (c : DevicePrefixAssignment) : Prop where
  nonneg : 0 ≤ c.assigned
  lt : c.assigned < 2 ^ 32
  length_le : c.length ≤ 64

theorem upper_of_set {p : PrefixOption} {c : DevicePrefixAssignment} (hc : InWord c)
    {iface : Downlink} {s : Subnet}
    (hset : interfaceSetPrefixAddress c p iface = some s) :
    s.iface = c.name ∧ s.length = c.length ∧ s.addr.upper = p.addr.upper ||| c.number := by
  unfold interfaceSetPrefixAddress at hset
  split_ifs at hset
  cases hset
  refine ⟨rfl, rfl, ?_⟩
  have hlt := hc.lt
  have hnumber : (c.number : ℤ) = c.assigned := Int.toNat_of_nonneg hc.nonneg
  rw [upper_generateIfaceid, ← hnumber, upper_orSecondWord]
  omega

theorem Entry.inWord {p : DevicePrefix} {a : DevicePrefixAssignment} (h : Entry p a)
    (h34 : 34 ≤ p.length) : InWord a := by
  have hpow := two_pow_le h34
  have hsize := size_pos a
  have hinside := h.inside
  have hnumber := h.number_eq
  exact ⟨by omega, by omega, h.length_le⟩

theorem inWord_of_mark {p : DevicePrefix} (h34 : 34 ≤ p.length) (hshifts : p.ShiftsDefined)
    {c : DevicePrefixAssignment} (hc : c ∈ excluded p ++ [sentinel p]) : InWord c := by
  obtain ⟨⟨-, h64⟩, hroomy, hle⟩ := bounded_start h34 hshifts c hc
  have hpow := two_pow_le h34
  exact ⟨hroomy.nonneg, by omega, h64⟩

theorem entry_of_subnet {interfaces : InterfaceTable} {downlink : String → Downlink}
    {p : PrefixOption} {list : List DevicePrefixAssignment} {s : Subnet}
    (hs : s ∈ setPrefixAddresses interfaces downlink p list) :
    ∃ c ∈ list, (∃ i ∈ interfaces.elements, i.name = c.name) ∧
      interfaceSetPrefixAddress c p (downlink c.name) = some s := by
  obtain ⟨c, hc, hset⟩ := List.mem_filterMap.mp hs
  split_ifs at hset with hfound
  obtain ⟨i, hi, hname⟩ := List.any_eq_true.mp hfound
  exact ⟨c, hc, ⟨i, hi, eq_of_beq hname⟩, hset⟩

/-- What is installed for an entry on an interface that is up. -/
def subnetOf (p : PrefixOption) (c : DevicePrefixAssignment) : Subnet where
  iface := c.name
  addr := generateIfaceid {} (orSecondWord p.addr c.assigned)
  length := c.length

theorem subnetOf_mem {interfaces : InterfaceTable} {p : PrefixOption}
    {list : List DevicePrefixAssignment} {c : DevicePrefixAssignment} (hc : c ∈ list)
    (hname : ∃ i ∈ interfaces.elements, i.name = c.name) :
    subnetOf p c ∈ setPrefixAddresses interfaces (fun _ => {}) p list := by
  have hfound : interfaces.elements.any (·.name == c.name) = true := by simpa using hname
  refine List.mem_filterMap.mpr ⟨c, hc, ?_⟩
  rw [if_pos hfound]
  rfl

theorem mem_subnetOf {p : PrefixOption} {c : DevicePrefixAssignment} (hc : InWord c)
    {addr : In6Addr} : addr ∈ (subnetOf p c).network ↔ addr.upper ∈ subnetBlock p c := by
  have hset : interfaceSetPrefixAddress c p {} = some (subnetOf p c) := rfl
  have hupper : (subnetOf p c).addr.upper = p.addr.upper ||| c.number := (upper_of_set hc hset).2.2
  change addr ∈ network (subnetOf p c).addr c.length ↔ _
  rw [mem_network_iff hc.length_le, hupper]
  rfl

theorem exists_upper {n : ℕ} (hn : n < 2 ^ 64) : ∃ addr : In6Addr, addr.upper = n := by
  refine ⟨BitVec.ofNat 128 (2 ^ 64 * n), ?_⟩
  rw [In6Addr.upper, BitVec.toNat_ofNat, Nat.mod_eq_of_lt (by omega),
    Nat.mul_div_cancel_left _ (Nat.two_pow_pos 64)]

theorem lt_of_mem_subnetBlock {p : PrefixOption} {c : DevicePrefixAssignment} (hc : InWord c)
    {n : ℕ} (hn : n ∈ subnetBlock p c) : n < 2 ^ 64 := by
  have hor : p.addr.upper ||| c.number < 2 ^ 64 := by
    apply Nat.or_lt_two_pow (upper_lt p.addr)
    have hlt := hc.lt
    unfold DevicePrefixAssignment.number
    omega
  have hdiv := div_eq_of_le (Nat.sub_le 64 c.length) hn
  rw [Nat.div_eq_of_lt hor] at hdiv
  exact (Nat.div_eq_zero_iff_lt (Nat.two_pow_pos 64)).mp hdiv

theorem exists_mem_subnetOf {p : PrefixOption} {c : DevicePrefixAssignment} (hc : InWord c)
    {n : ℕ} (hn : n ∈ subnetBlock p c) : ∃ addr ∈ (subnetOf p c).network, addr.upper = n := by
  obtain ⟨addr, rfl⟩ := exists_upper (lt_of_mem_subnetBlock hc hn)
  exact ⟨addr, (mem_subnetOf hc).mpr hn, rfl⟩

theorem disjoint_entries {u : ℕ} {p : DevicePrefix} (happart : KeepsApart u (Free p))
    {a b : DevicePrefixAssignment} (ha : Entry p a) (hb : Entry p b) (h : Disjointed a b)
    (hle : b.length ≤ a.length) : Disjoint (block (64 - a.length) (u ||| a.number))
      (block (64 - b.length) (u ||| b.number)) := by
  apply happart.disjoint (by omega) hb.dvd (by simpa using ha.free 0 (Nat.two_pow_pos _)) hb.free
  intro r hr heq
  have hsize : ((2 ^ (64 - b.length) : ℕ) : ℤ) = b.size := by
    simp [DevicePrefixAssignment.size]
  have hpos := size_pos a
  have hnumber := ha.number_eq
  have hnumber' := hb.number_eq
  unfold Disjointed at h
  omega

theorem entry_block_subset {u length : ℕ} {p : DevicePrefix} (hlength : p.length = length)
    {a : DevicePrefixAssignment} (ha : Entry p a) :
    block (64 - a.length) (u ||| a.number) ⊆ block (64 - length) u := by
  have hpos := Nat.two_pow_pos (64 - a.length)
  have hlast := (ha.free (2 ^ (64 - a.length) - 1) (by omega)).1
  have hfirst := (ha.free 0 hpos).1
  rw [hlength] at hlast hfirst
  apply block_subset
  · have hle : 2 ^ (64 - a.length) ≤ 2 ^ (64 - length) := by omega
    exact (Nat.pow_le_pow_iff_right (by omega)).mp hle
  · have hzero : a.number / 2 ^ (64 - length) = 0 := Nat.div_eq_of_lt hfirst
    rw [Nat.or_div_two_pow, hzero, Nat.or_zero]

/-- What is known of an entry with the name of an interface. -/
structure Installed (names : Set String) (sent : DevicePrefix) (p : PrefixOption)
    (made : List DevicePrefixAssignment) (s : Subnet) (c : DevicePrefixAssignment) : Prop where
  origin : c ∈ made ∧ Entry sent c ∨ c ∈ marks names sent
  name : s.iface = c.name
  network : ∀ x ∈ s.network, x.upper ∈ subnetBlock p c

theorem installed_of_subnet {names : Set String} {sent : DevicePrefix} {p : PrefixOption}
    (h34 : 34 ≤ sent.length) (hshifts : sent.ShiftsDefined) {now : InterfaceTable}
    (hnow : now.NamedIn names) {downlink : String → Downlink}
    {list made : List DevicePrefixAssignment}
    (hmade : ∀ c ∈ list, c ∈ made ∨ c ∈ excluded sent ++ [sentinel sent])
    (hentry : ∀ a ∈ made, Entry sent a) {s : Subnet}
    (hs : s ∈ setPrefixAddresses now downlink p list) :
    ∃ c, Installed names sent p made s c := by
  obtain ⟨c, hc, ⟨i, hi, hname⟩, hset⟩ := entry_of_subnet hs
  have horigin : (c ∈ made ∧ Entry sent c ∨ c ∈ marks names sent) ∧ InWord c := by
    rcases hmade c hc with hm | hm
    · exact ⟨Or.inl ⟨hm, hentry c hm⟩, (hentry c hm).inWord h34⟩
    · exact ⟨Or.inr ⟨hm, hname ▸ hnow i hi⟩, inWord_of_mark h34 hshifts hm⟩
  obtain ⟨horigin, hword⟩ := horigin
  obtain ⟨hiface, hlength, hupper⟩ := upper_of_set hword hset
  refine ⟨c, horigin, hiface, ?_⟩
  intro x hx
  have hblock := upper_mem_block hx
  rw [hupper, hlength] at hblock
  exact hblock

theorem disjoint_of_blocks {A B : Set ℕ} (h : Disjoint A B) {s t : Set In6Addr}
    (hs : ∀ x ∈ s, x.upper ∈ A) (ht : ∀ x ∈ t, x.upper ∈ B) : Disjoint s t := by
  apply Set.disjoint_left.mpr
  intro x hx hx'
  exact Set.disjoint_left.mp h (hs x hx) (ht x hx')

/-- The subnets of interfaces for their entries and for their names are as they should be. -/
theorem subnets_sound {names : Set String} {sent : DevicePrefix} {p : PrefixOption}
    (hlength : sent.length = p.length) (h34 : 34 ≤ p.length) (h64 : p.length ≤ 64)
    (h : Separable sent p) (hmarks : MarksApart names sent p) {now : InterfaceTable}
    (hnow : now.NamedIn names) {downlink : String → Downlink}
    {list : List DevicePrefixAssignment} (hlaid : Laid sent list) :
    SubnetsSound p (setPrefixAddresses now downlink p list) := by
  obtain ⟨made, hmade, hentry, hpairs⟩ := hlaid.entries
  have h34' : 34 ≤ sent.length := hlength ▸ h34
  have hinstalled : ∀ s ∈ setPrefixAddresses now downlink p list,
      ∃ c, Installed names sent p made s c :=
    fun s hs => installed_of_subnet h34' h.defined hnow hmade hentry hs
  -- an entry of an interface is apart from what has the name of a mark
  have hmark : ∀ a, Entry sent a → ∀ c ∈ marks names sent,
      Disjoint (subnetBlock p a) (subnetBlock p c) := by
    intro a ha c hc
    exact h.keepsApart.disjoint_target ha.dvd ha.free fun x hx => hmarks.free c hc x hx
  constructor
  · intro s hs t ht hne
    obtain ⟨a, ha⟩ := hinstalled s hs
    obtain ⟨b, hb⟩ := hinstalled t ht
    have hnames : a.name ≠ b.name := fun heq => hne (ha.name.trans (heq.trans hb.name.symm))
    refine disjoint_of_blocks ?_ ha.network hb.network
    rcases ha.origin with ⟨hmadea, hentrya⟩ | hmarka <;>
      rcases hb.origin with ⟨hmadeb, hentryb⟩ | hmarkb
    · have hapart : Disjointed a b :=
        hpairs.forall hmadea hmadeb fun heq => hnames (congrArg (·.name) heq)
      rcases Nat.le_total b.length a.length with hle | hle
      · exact disjoint_entries h.keepsApart hentrya hentryb hapart hle
      · exact (disjoint_entries h.keepsApart hentryb hentrya hapart.symm hle).symm
    · exact hmark a hentrya b hmarkb
    · exact (hmark b hentryb a hmarka).symm
    · exact hmarks.pairs a hmarka b hmarkb hnames
  · intro s hs x hx
    obtain ⟨c, hc⟩ := hinstalled s hs
    rw [mem_network_iff h64]
    rcases hc.origin with ⟨-, hentryc⟩ | hmarkc
    · exact entry_block_subset hlength hentryc (hc.network x hx)
    · exact hmarks.inside c hmarkc (hc.network x hx)
  · intro s hs e he
    obtain ⟨c, hc⟩ := hinstalled s hs
    refine disjoint_of_blocks ?_ hc.network fun x hx => upper_mem_block hx
    rcases hc.origin with ⟨-, hentryc⟩ | hmarkc
    · exact h.keepsApart.disjoint_target hentryc.dvd hentryc.free (h.outside e he)
    · exact hmarks.outside c hmarkc e he

theorem interfacePrefixAssignFrom_hinted (assign : DevicePrefixAssignment)
    {last : DevicePrefixAssignment} {current : ℤ} {before : List DevicePrefixAssignment}
    (h64 : assign.length = 64) (hhint : assign.assigned ≠ -1) (hcurrent : current ≤ assign.assigned)
    (hfree : ∀ c ∈ before, assign.assigned < c.assigned ∨ c.assigned + c.size ≤ assign.assigned)
    (hlast : assign.assigned < last.assigned) :
    ∃ before', interfacePrefixAssignFrom assign current (before ++ [last]) =
      some (before' ++ [last]) ∧ before'.Perm (assign :: before) := by
  have hsize : assign.size - 1 = 0 := by simp [DevicePrefixAssignment.size, h64]
  induction before generalizing current with
  | nil =>
    refine ⟨[assign], ?_, .refl _⟩
    simp [interfacePrefixAssignFrom, hhint, hsize, hcurrent, hlast]
  | cons c cs ih =>
    by_cases hbefore : assign.assigned < c.assigned
    · refine ⟨assign :: c :: cs, ?_, .refl _⟩
      simp [interfacePrefixAssignFrom, hhint, hsize, hcurrent, hbefore]
    · have hafter := (hfree c List.mem_cons_self).resolve_left hbefore
      obtain ⟨before', heq, hperm⟩ := ih hafter fun d hd => hfree d (List.mem_cons_of_mem c hd)
      refine ⟨c :: before', ?_, (hperm.cons c).trans (.swap _ _ _)⟩
      simp [interfacePrefixAssignFrom, hhint, hsize, hbefore, heq]

/-- An interface that asks for a /64 of a given number. -/
def hintedInterface (name : String) (x : ℕ) : AssignedInterface :=
  { name, assignmentLength := 64, assignmentHint := x }

theorem assignHinted_hinted {p : DevicePrefix} {before : List DevicePrefixAssignment} {x : ℕ}
    (later : List DevicePrefixAssignment) (name : String) (hx : x < 2 ^ (64 - p.length))
    (hfree : ∀ c ∈ before, (x : ℤ) < c.assigned ∨ c.assigned + c.size ≤ x) :
    ∃ before', assignHinted p (before ++ [sentinel p], later) (hintedInterface name x) =
      (before' ++ [sentinel p], later) ∧
      before'.Perm (request (hintedInterface name x) :: before) := by
  have hlast : (x : ℤ) < (sentinel p).assigned := by
    change (x : ℤ) < 2 ^ (64 - p.length)
    exact_mod_cast hx
  obtain ⟨before', heq, hperm⟩ := interfacePrefixAssignFrom_hinted
    (request (hintedInterface name x)) rfl
    (by simp [request, hintedInterface]) (Int.natCast_nonneg x) hfree hlast
  refine ⟨before', ?_, hperm⟩
  have hhint : (request (hintedInterface name x)).assigned ≠ -1 := by
    simp [request, hintedInterface]
  have helig : eligible p (hintedInterface name x) = true := by simp [eligible, hintedInterface]
  simp [assignHinted, helig, hhint, interfacePrefixAssign, heq]

/-- Two interfaces ask for a number each, or one of them twice for the same. -/
def hintedPair (x y : ℕ) : InterfaceTable where
  elements := [hintedInterface "a" x, hintedInterface "b" y]
  sorted := by
    have hlt : "a" < "b" := by decide
    exact List.pairwise_pair.mpr hlt

/-- An interface asks for nothing, and one behind it for a number. -/
def hintedBehind (name : String) (hname : name < "a") (x : ℕ) : InterfaceTable where
  elements := [{ name }, hintedInterface "a" x]
  sorted := List.pairwise_pair.mpr hname

/-- Two interfaces that ask for nothing. -/
def unassignedPair (name name' : String) (hname : name < name') : InterfaceTable where
  elements := [{ name }, { name := name' }]
  sorted := List.pairwise_pair.mpr hname

theorem hintedInterface_hinted (name : String) {x : ℕ} (hx : x < 2 ^ 31) :
    (hintedInterface name x).Hinted := by
  refine ⟨⟨?_, ?_⟩, fun _ _ => Or.inr ?_⟩
  · simp only [hintedInterface]
    omega
  · simp only [hintedInterface]
    omega
  · simp [hintedInterface]

theorem unassigned_hinted (name : String) : AssignedInterface.Hinted { name } := by
  refine ⟨?_, fun _ _ => Or.inl rfl⟩
  norm_num

theorem Free.lt {p : DevicePrefix} {x : ℕ} (hx : Free p x) (h34 : 34 ≤ p.length) :
    x < 2 ^ 31 := by
  have hpow : 2 ^ (64 - p.length) ≤ 2 ^ 30 := Nat.pow_le_pow_right (by omega) (by omega)
  have hlt := hx.1
  omega

theorem hintedPair_hinted {x y : ℕ} (hx : x < 2 ^ 31) (hy : y < 2 ^ 31) :
    (hintedPair x y).Hinted :=
  List.forall_mem_cons.mpr ⟨hintedInterface_hinted "a" hx,
    List.forall_mem_cons.mpr ⟨hintedInterface_hinted "b" hy, nofun⟩⟩

theorem hintedBehind_hinted {name : String} (hname : name < "a") {x : ℕ} (hx : x < 2 ^ 31) :
    (hintedBehind name hname x).Hinted :=
  List.forall_mem_cons.mpr ⟨unassigned_hinted name,
    List.forall_mem_cons.mpr ⟨hintedInterface_hinted "a" hx, nofun⟩⟩

theorem unassignedPair_hinted {name name' : String} (hname : name < name') :
    (unassignedPair name name' hname).Hinted :=
  List.forall_mem_cons.mpr ⟨unassigned_hinted name,
    List.forall_mem_cons.mpr ⟨unassigned_hinted name', nofun⟩⟩

theorem hintedPair_assigned {p : DevicePrefix} {x y : ℕ} (hx : Free p x) (hy : Free p y)
    (hne : x ≠ y) :
    request (hintedInterface "a" x) ∈
        (interfaceUpdatePrefixAssignments (hintedPair x y) p true).assignments ∧
      request (hintedInterface "b" y) ∈
        (interfaceUpdatePrefixAssignments (hintedPair x y) p true).assignments := by
  obtain ⟨list, hfirst, hperm⟩ := assignHinted_hinted [] "a" hx.1 hx.2
  have hfree : ∀ c ∈ list, (y : ℤ) < c.assigned ∨ c.assigned + c.size ≤ y := by
    intro c hc
    rcases List.mem_cons.mp (hperm.subset hc) with rfl | hexcl
    · simp only [request, hintedInterface, DevicePrefixAssignment.size]
      omega
    · exact hy.2 c hexcl
  obtain ⟨list', hsecond, hperm'⟩ := assignHinted_hinted [] "b" hy.1 hfree
  have hlist : (interfaceUpdatePrefixAssignments (hintedPair x y) p true).assignments =
      list' ++ [sentinel p] := by
    simp [interfaceUpdatePrefixAssignments, hintedPair, hfirst, hsecond]
  rw [hlist]
  constructor
  · have hmem := hperm'.symm.subset (List.mem_cons_of_mem _ (hperm.symm.subset List.mem_cons_self))
    exact List.mem_append_left _ hmem
  · exact List.mem_append_left _ (hperm'.symm.subset List.mem_cons_self)

theorem hintedBehind_assigned {p : DevicePrefix} {name : String} (hname : name < "a") {x : ℕ}
    (hx : Free p x) : request (hintedInterface "a" x) ∈
      (interfaceUpdatePrefixAssignments (hintedBehind name hname x) p true).assignments := by
  obtain ⟨list, hfirst, hperm⟩ := assignHinted_hinted [] "a" hx.1 hx.2
  have hskip : assignHinted p (excluded p ++ [sentinel p], []) { name } =
      (excluded p ++ [sentinel p], []) := by
    simp [assignHinted, eligible]
  have hlist : (interfaceUpdatePrefixAssignments (hintedBehind name hname x) p true).assignments =
      list ++ [sentinel p] := by
    simp [interfaceUpdatePrefixAssignments, hintedBehind, hskip, hfirst]
  rw [hlist]
  exact List.mem_append_left _ (hperm.symm.subset List.mem_cons_self)

section Condition

variable {uplink : Option String} {names : Set String} {sent p : PrefixOption}

/-- The subnets that the list without bounds on the numbers gives. -/
def listedSubnets (uplink : Option String) (sent p : PrefixOption) (interfaces : InterfaceTable)
    (downlink : String → Downlink) : List Subnet :=
  setPrefixAddresses interfaces downlink p
    (interfaceUpdatePrefixAssignments interfaces (interfaceIpAddDevicePrefix uplink sent)
      true).assignments

theorem configuredSubnets_eq (hdefined : Defined (interfaceIpAddDevicePrefix uplink sent))
    {before : InterfaceTable} (hbefore : before.Hinted) (now : InterfaceTable)
    (downlink : String → Downlink) :
    configuredSubnets uplink sent p before now downlink =
      some (setPrefixAddresses now downlink p
        (interfaceUpdatePrefixAssignments before (interfaceIpAddDevicePrefix uplink sent)
          true).assignments) := by
  rw [configuredSubnets, if_pos (hdefined.inRange hbefore), hdefined.updateInt32_eq hbefore]

theorem SubnetsAlwaysSound.listed (h : SubnetsAlwaysSound uplink names sent p)
    (hdefined : Defined (interfaceIpAddDevicePrefix uplink sent)) {t : InterfaceTable}
    (ht : t.Hinted) (hnames : t.NamedIn names) :
    SubnetsSound p (listedSubnets uplink sent p t fun _ => {}) := by
  obtain ⟨subnets, hsubnets, hsound⟩ := h t t ht ht hnames hnames fun _ => {}
  rw [configuredSubnets_eq hdefined ht] at hsubnets
  obtain rfl := Option.some.inj hsubnets
  exact hsound

theorem disjoint_subnetBlocks {c d : DevicePrefixAssignment} (hc : InWord c) (hd : InWord d)
    (h : Disjoint (subnetOf p c).network (subnetOf p d).network) :
    Disjoint (subnetBlock p c) (subnetBlock p d) := by
  apply Set.disjoint_left.mpr
  intro n hn hn'
  obtain ⟨addr, haddr, rfl⟩ := exists_mem_subnetOf hc hn
  exact Set.disjoint_left.mp h haddr ((mem_subnetOf hd).mpr hn')

theorem disjoint_excluded {c : DevicePrefixAssignment} (hc : InWord c) {e : In6Addr} {length : ℕ}
    (h : Disjoint (subnetOf p c).network (network e length)) :
    Disjoint (subnetBlock p c) (block (64 - length) e.upper) := by
  apply Set.disjoint_left.mpr
  intro n hn hn'
  rcases Nat.le_total length 64 with hle | hge
  · obtain ⟨addr, haddr, rfl⟩ := exists_mem_subnetOf hc hn
    exact Set.disjoint_left.mp h haddr ((mem_network_iff hle).mpr hn')
  · -- an excluded network inside a /64 is met where its address is
    have hzero : 64 - length = 0 := by omega
    rw [hzero, mem_block, Nat.pow_zero, Nat.div_one, Nat.div_one] at hn'
    subst hn'
    exact Set.disjoint_left.mp h ((mem_subnetOf hc).mpr hn) (mem_block.mpr rfl)

theorem hinted_inWord (name : String) {x : ℕ} (hx : x < 2 ^ 31) :
    InWord (request (hintedInterface name x)) := by
  refine ⟨Int.natCast_nonneg x, ?_, le_rfl⟩
  simp only [request, hintedInterface]
  omega

theorem hinted_block (name : String) (x : ℕ) :
    subnetBlock p (request (hintedInterface name x)) = {p.addr.upper ||| x} := by
  ext n
  simp [subnetBlock, request, hintedInterface, mem_block, DevicePrefixAssignment.number]

theorem ordinary_a : "a" ∈ ordinaryNames := mem_ordinaryNames.mpr (by decide)

theorem ordinary_b : "b" ∈ ordinaryNames := mem_ordinaryNames.mpr (by decide)

theorem keepsApart_of_sound (hnames : ordinaryNames ⊆ names)
    (hdefined : Defined (interfaceIpAddDevicePrefix uplink sent))
    (h : SubnetsAlwaysSound uplink names sent p) :
    KeepsApart p.addr.upper (Free (interfaceIpAddDevicePrefix uplink sent)) := by
  intro x y hx hy heq
  by_contra hne
  have hx' := hx.lt hdefined.lower
  have hy' := hy.lt hdefined.lower
  obtain ⟨hmemx, hmemy⟩ := hintedPair_assigned hx hy hne
  have hnamed : (hintedPair x y).NamedIn names :=
    List.forall_mem_cons.mpr ⟨hnames ordinary_a,
      List.forall_mem_cons.mpr ⟨hnames ordinary_b, nofun⟩⟩
  have hsound := h.listed hdefined (hintedPair_hinted hx' hy') hnamed
  have happart := hsound.disjoint _ (subnetOf_mem hmemx ⟨_, List.mem_cons_self, rfl⟩) _
    (subnetOf_mem hmemy ⟨_, List.mem_cons_of_mem _ List.mem_cons_self, rfl⟩)
    (by simp [subnetOf, request, hintedInterface])
  have hblocks := disjoint_subnetBlocks (hinted_inWord "a" hx') (hinted_inWord "b" hy') happart
  rw [hinted_block, hinted_block, heq] at hblocks
  exact Set.disjoint_left.mp hblocks (Set.mem_singleton _) (Set.mem_singleton _)

theorem outside_of_sound (hnames : ordinaryNames ⊆ names)
    (hdefined : Defined (interfaceIpAddDevicePrefix uplink sent))
    (h : SubnetsAlwaysSound uplink names sent p) {e : In6Addr} (he : e ∈ p.exclAddr) {x : ℕ}
    (hx : Free (interfaceIpAddDevicePrefix uplink sent) x) :
    (p.addr.upper ||| x) / 2 ^ (64 - p.exclLength) ≠ e.upper / 2 ^ (64 - p.exclLength) := by
  have hlt : "Z" < "a" := by decide
  have hz : "Z" ∈ ordinaryNames := mem_ordinaryNames.mpr (by decide)
  have hx' := hx.lt hdefined.lower
  have hnamed : (hintedBehind "Z" hlt x).NamedIn names :=
    List.forall_mem_cons.mpr ⟨hnames hz, List.forall_mem_cons.mpr ⟨hnames ordinary_a, nofun⟩⟩
  have hsound := h.listed hdefined (hintedBehind_hinted hlt hx') hnamed
  have happart := hsound.apart _ (subnetOf_mem (hintedBehind_assigned hlt hx)
    ⟨_, List.mem_cons_of_mem _ List.mem_cons_self, rfl⟩) e he
  have hblocks := disjoint_excluded (hinted_inWord "a" hx') happart
  rw [hinted_block, Set.disjoint_singleton_left] at hblocks
  exact hblocks

theorem mark_lt {sent : DevicePrefix} {c : DevicePrefixAssignment}
    (hc : c ∈ excluded sent ++ [sentinel sent]) : c.name < "a" := by
  rcases mark_name hc with h | h <;> rw [h] <;> decide

/-- The marks with the names of interfaces must be apart from the rest. -/
theorem marksApart_of_sound (hnames : ordinaryNames ⊆ names) (h64 : p.length ≤ 64)
    (hdefined : Defined (interfaceIpAddDevicePrefix uplink sent))
    (h : SubnetsAlwaysSound uplink names sent p) :
    MarksApart names (interfaceIpAddDevicePrefix uplink sent) p := by
  have hword : ∀ c ∈ marks names (interfaceIpAddDevicePrefix uplink sent), InWord c :=
    fun c hc => inWord_of_mark hdefined.lower hdefined.shifts hc.1
  have hlisted : ∀ {t : InterfaceTable}, t.Hinted →
      ∀ c ∈ marks names (interfaceIpAddDevicePrefix uplink sent),
      (∃ i ∈ t.elements, i.name = c.name) →
        subnetOf p c ∈ listedSubnets uplink sent p t fun _ => {} :=
    fun ht c hc hname => subnetOf_mem ((assignments_laid ht _).marks hc.1) hname
  have hzero : (0 : ℕ) < 2 ^ 31 := by norm_num
  -- a table with the name of a mark
  have hnamed : ∀ c (hc : c ∈ marks names (interfaceIpAddDevicePrefix uplink sent)) x,
      (hintedBehind c.name (mark_lt hc.1) x).NamedIn names := fun c hc x =>
    List.forall_mem_cons.mpr ⟨hc.2, List.forall_mem_cons.mpr ⟨hnames ordinary_a, nofun⟩⟩
  constructor
  · intro c hc n hn
    have ht := hintedBehind_hinted (mark_lt hc.1) hzero
    have hsound := h.listed hdefined ht (hnamed c hc 0)
    obtain ⟨addr, haddr, rfl⟩ := exists_mem_subnetOf (hword c hc) hn
    have hmem := hlisted ht c hc ⟨_, List.mem_cons_self, rfl⟩
    exact (mem_network_iff h64).mp (hsound.inside _ hmem haddr)
  · intro c hc x hx hmeets
    have hx' := hx.lt hdefined.lower
    have ht := hintedBehind_hinted (mark_lt hc.1) hx'
    have hsound := h.listed hdefined ht (hnamed c hc x)
    have happart := hsound.disjoint _ (subnetOf_mem (hintedBehind_assigned (mark_lt hc.1) hx)
      ⟨_, List.mem_cons_of_mem _ List.mem_cons_self, rfl⟩) _
      (hlisted ht c hc ⟨_, List.mem_cons_self, rfl⟩) (mark_lt hc.1).ne'
    have hblocks := disjoint_subnetBlocks (hinted_inWord "a" hx') (hword c hc) happart
    rw [hinted_block, Set.disjoint_singleton_left] at hblocks
    exact hblocks hmeets
  · intro c hc d hd hne
    have hpair : ∀ c ∈ marks names (interfaceIpAddDevicePrefix uplink sent),
        ∀ d ∈ marks names (interfaceIpAddDevicePrefix uplink sent), c.name < d.name →
        Disjoint (subnetBlock p c) (subnetBlock p d) := by
      intro c hc d hd hlt
      have ht := unassignedPair_hinted hlt
      have hnamed' : (unassignedPair c.name d.name hlt).NamedIn names :=
        List.forall_mem_cons.mpr ⟨hc.2, List.forall_mem_cons.mpr ⟨hd.2, nofun⟩⟩
      have hsound := h.listed hdefined ht hnamed'
      exact disjoint_subnetBlocks (hword c hc) (hword d hd)
        (hsound.disjoint _ (hlisted ht c hc ⟨_, List.mem_cons_self, rfl⟩) _
          (hlisted ht d hd ⟨_, List.mem_cons_of_mem _ List.mem_cons_self, rfl⟩) hlt.ne)
    rcases lt_or_gt_of_ne hne with hlt | hgt
    · exact hpair c hc d hd hlt
    · exact (hpair d hd c hc hgt).symm
  · intro c hc e he
    have ht := hintedBehind_hinted (mark_lt hc.1) hzero
    have hsound := h.listed hdefined ht (hnamed c hc 0)
    exact disjoint_excluded (hword c hc)
      (hsound.apart _ (hlisted ht c hc ⟨_, List.mem_cons_self, rfl⟩) e he)

theorem subnetOf_wrapped (p : PrefixOption) (c : DevicePrefixAssignment) :
    subnetOf p (c.at (-2 ^ 31)) = subnetOf p (c.at (2 ^ 31)) := by
  have hword : BitVec.ofInt 32 (-2 ^ 31) = BitVec.ofInt 32 (2 ^ 31) := by decide
  simp only [subnetOf, orSecondWord, assigned_at, hword]
  rfl

theorem or_eq_self_of_div {u : ℕ} (h : (u ||| 2 ^ 31) / 2 ^ 30 = u / 2 ^ 30) :
    u ||| 2 ^ 31 = u := by
  have hmod : (u ||| 2 ^ 31) % 2 ^ 30 = u % 2 ^ 30 := by
    have hzero : (2 ^ 31 : ℕ) % 2 ^ 30 = 0 := by decide
    rw [Nat.or_mod_two_pow, hzero, Nat.or_zero]
  rw [← Nat.div_add_mod (u ||| 2 ^ 31) (2 ^ 30), h, hmod, Nat.div_add_mod]

/-- The last of the crowd gets a subnet out of the prefix, or that of the first. -/
theorem crowd_unsound (hnames : ordinaryNames ⊆ names) (hlength : sent.length = p.length)
    (h34 : (interfaceIpAddDevicePrefix uplink sent).length = 34)
    (hexcl : (interfaceIpAddDevicePrefix uplink sent).exclLength = 34)
    (hlow : 2 ^ 30 - 2 ^ 16 < (interfaceIpAddDevicePrefix uplink sent).exclAddr &&&
      (2 ^ (64 - (interfaceIpAddDevicePrefix uplink sent).length) - 1)) :
    ¬SubnetsAlwaysSound uplink names sent p := by
  intro h
  obtain ⟨n, hn⟩ : ∃ n, n = crowdSize + 1 := ⟨_, rfl⟩
  obtain ⟨front, e, last, hupdate, -, hcount, hfront, hlast, hfresh, i, hi, hname⟩ :=
    crowd_update (fun _ => none) (fun _ => none) (Nat.mod_lt _ (Nat.two_pow_pos 32)) h34 hexcl hlow
      hn
  let t := crowd (fun _ => none) (fun _ => none) n
  have hnamed : t.toInterfaceTable.NamedIn names := by
    intro iface hiface
    obtain ⟨j, -, rfl⟩ := List.mem_map.mp hiface
    exact hnames (crowdName_ne j)
  have hmember : ∀ j < n, ∃ iface ∈ t.elements, iface.name = crowdName j := fun j hj =>
    ⟨_, List.mem_map.mpr ⟨j, List.mem_range.mpr hj, rfl⟩, rfl⟩
  obtain ⟨subnets, hsubnets, hsound⟩ := h t.toInterfaceTable t.toInterfaceTable t.hinted t.hinted
    hnamed hnamed fun _ => {}
  rw [configuredSubnets] at hsubnets
  split_ifs at hsubnets
  obtain rfl := Option.some.inj hsubnets
  rw [hupdate] at hsound
  cases front with
  | nil => exact absurd hcount (by decide)
  | cons first rest =>
    obtain ⟨hfirst, j, hj, hfirstName⟩ := hfront first List.mem_cons_self
    have hlastWord : InWord (last.at (2 ^ 31)) := ⟨by norm_num, by norm_num, by
      change last.length ≤ 64
      rw [hlast.length]
      norm_num⟩
    have hfirstWord : InWord (first.at (2 ^ 16 * (0 : ℕ))) := ⟨by norm_num, by norm_num, by
      change first.length ≤ 64
      rw [hfirst.length]
      norm_num⟩
    obtain ⟨made, hmade⟩ : ∃ made, made = filled 0 (first :: rest) ++
        [e, last.at (-2 ^ 31), sentinel (interfaceIpAddDevicePrefix uplink sent)] := ⟨_, rfl⟩
    rw [← hmade] at hsound
    have hlastMem : subnetOf p (last.at (-2 ^ 31)) ∈
        setPrefixAddresses t.toInterfaceTable (fun _ => {}) p made :=
      subnetOf_mem (hmade ▸ by simp) (hname ▸ hmember i hi)
    have hfirstMem : subnetOf p (first.at (2 ^ 16 * (0 : ℕ))) ∈
        setPrefixAddresses t.toInterfaceTable (fun _ => {}) p made :=
      subnetOf_mem (hmade ▸ List.mem_append_left _ List.mem_cons_self)
        (hfirstName ▸ hmember j hj)
    rw [subnetOf_wrapped] at hlastMem
    have hown : p.addr.upper ||| 2 ^ 31 ∈ subnetBlock p (last.at (2 ^ 31)) := mem_block.mpr rfl
    obtain ⟨addr, haddr, hupper⟩ := exists_mem_subnetOf hlastWord hown
    have hp34 : p.length = 34 := hlength.symm.trans h34
    have hinside := (mem_network_iff (by omega)).mp (hsound.inside _ hlastMem haddr)
    rw [hupper, hp34] at hinside
    have hsame := or_eq_self_of_div hinside
    have hne : first.name ≠ last.name := fun heq =>
      hfresh (List.mem_map.mpr ⟨first, List.mem_cons_self, heq⟩)
    have happart := disjoint_subnetBlocks hfirstWord hlastWord
      (hsound.disjoint _ hfirstMem _ hlastMem hne)
    have hnumber : (first.at (2 ^ 16 * (0 : ℕ))).number = 0 := rfl
    apply Set.disjoint_left.mp happart _ hown
    rw [hsame]
    exact mem_block.mpr (by rw [hnumber, Nat.or_zero])

theorem shiftsDefined_of_sound (hnames : ordinaryNames ⊆ names) (hlength : sent.length = p.length)
    (h34 : 34 ≤ p.length) (h : SubnetsAlwaysSound uplink names sent p) :
    (interfaceIpAddDevicePrefix uplink sent).ShiftsDefined := by
  by_contra hundefined
  have hexcl : 0 < (interfaceIpAddDevicePrefix uplink sent).exclLength :=
    Nat.pos_of_ne_zero fun hzero => hundefined (Or.inl hzero)
  let t := negativeHint (fun _ => none) (fun _ => none)
  have hlan : "lan" ∈ ordinaryNames := mem_ordinaryNames.mpr (by decide)
  have hnamed : t.toInterfaceTable.NamedIn names := by
    intro iface hiface
    rw [List.mem_singleton.mp hiface]
    exact hnames hlan
  obtain ⟨subnets, hsubnets, -⟩ := h t.toInterfaceTable t.toInterfaceTable t.hinted t.hinted
    hnamed hnamed fun _ => {}
  rw [configuredSubnets] at hsubnets
  split_ifs at hsubnets with hrange
  obtain ⟨hexcl34, hexcl64⟩ := exclLength_le_of_inRange _ _ hexcl hrange
  have hfull : 2 ^ 31 < ((interfaceIpAddDevicePrefix uplink sent).exclAddr &&&
      (2 ^ (64 - (interfaceIpAddDevicePrefix uplink sent).length) - 1)) +
      2 ^ (64 - (interfaceIpAddDevicePrefix uplink sent).exclLength) + 2 ^ 16 := by
    by_contra hle
    exact hundefined (Or.inr ⟨hexcl34, hexcl64, Nat.le_of_not_lt hle⟩)
  have h34' : 34 ≤ (interfaceIpAddDevicePrefix uplink sent).length := by
    change 34 ≤ sent.length
    omega
  obtain ⟨hl, hel, hlow⟩ := lengths_of_full h34' hexcl34 hfull
  exact crowd_unsound hnames hlength hl hel hlow h

/-- Among all interfaces, with names of a set that has all ordinary ones, the subnets of a prefix
are defined, apart from each other and from the excluded network, and inside the prefix, just if
the bits of its address keep the free numbers apart and out of the excluded network, and the
entries that may be taken for those of interfaces, too. -/
theorem prefix_subnets_sound_iff (uplink : Option String) {names : Set String}
    (hnames : ordinaryNames ⊆ names) {sent p : PrefixOption} (hp : p.Accepted)
    (hlength : sent.length = p.length) (h34 : 34 ≤ p.length) :
    SubnetsAlwaysSound uplink names sent p ↔
      Separable (interfaceIpAddDevicePrefix uplink sent) p ∧
        MarksApart names (interfaceIpAddDevicePrefix uplink sent) p := by
  have h64 : p.length ≤ 64 := hp.length_le
  have hexcl : (interfaceIpAddDevicePrefix uplink sent).exclAddr < 2 ^ 32 :=
    Nat.mod_lt _ (Nat.two_pow_pos 32)
  have hsent : (interfaceIpAddDevicePrefix uplink sent).length = p.length := hlength
  have hdefined : (interfaceIpAddDevicePrefix uplink sent).ShiftsDefined →
      Defined (interfaceIpAddDevicePrefix uplink sent) := fun hshifts =>
    ⟨hsent.symm ▸ h34, hsent.symm ▸ h64, hexcl, hshifts⟩
  constructor
  · intro h
    have hd := hdefined (shiftsDefined_of_sound hnames hlength h34 h)
    exact ⟨⟨hd.shifts, keepsApart_of_sound hnames hd h,
      fun e he x hx => outside_of_sound hnames hd h he hx⟩, marksApart_of_sound hnames h64 hd h⟩
  · rintro ⟨hseparable, hmarks⟩ before now hbefore hnow - hnamed downlink
    refine ⟨_, configuredSubnets_eq (hdefined hseparable.defined) hbefore now downlink, ?_⟩
    exact subnets_sound hlength h34 h64 hseparable hmarks hnamed (assignments_laid hbefore _)

end Condition

theorem marksApart_ordinary (sent : DevicePrefix) (p : PrefixOption) :
    MarksApart ordinaryNames sent p := by
  have hnone : ∀ c, c ∉ marks ordinaryNames sent := by
    rintro c ⟨hc, hname⟩
    rcases mark_name hc with h | h
    · exact hname.2 h
    · exact hname.1 h
  exact ⟨fun c hc => absurd hc (hnone c), fun c hc => absurd hc (hnone c),
    fun c hc => absurd hc (hnone c), fun c hc => absurd hc (hnone c)⟩

theorem separable_iff_dvd (uplink : Option String) {p : PrefixOption}
    (hexcl : p.exclAddr = none) : Separable (interfaceIpAddDevicePrefix uplink p) p ↔
      2 ^ (64 - p.length) ∣ p.addr.upper := by
  have hnone : (interfaceIpAddDevicePrefix uplink p).exclLength = 0 := by
    simp [interfaceIpAddDevicePrefix, hexcl]
  have hfree : ∀ x, Free (interfaceIpAddDevicePrefix uplink p) x ↔ x < 2 ^ (64 - p.length) := by
    intro x
    simp [Free, excluded, interfaceIpAddDevicePrefix, hexcl]
  have hpos := Nat.two_pow_pos (64 - p.length)
  constructor
  · intro h
    have hlow := Nat.mod_lt p.addr.upper hpos
    have hsame : p.addr.upper ||| 0 = p.addr.upper ||| p.addr.upper % 2 ^ (64 - p.length) := by
      rw [← Nat.div_add_mod (p.addr.upper ||| p.addr.upper % 2 ^ (64 - p.length))
        (2 ^ (64 - p.length)), Nat.or_div_two_pow, Nat.or_mod_two_pow, Nat.mod_mod, Nat.or_self,
        Nat.div_eq_of_lt hlow, Nat.or_zero, Nat.or_zero, Nat.div_add_mod]
    have hzero := h.keepsApart _ _ ((hfree 0).mpr hpos) ((hfree _).mpr hlow) hsame
    exact Nat.dvd_of_mod_eq_zero hzero.symm
  · intro hdvd
    refine ⟨.inl hnone, ?_, by simp [hexcl]⟩
    intro x y hx hy heq
    have hmod := congrArg (· % 2 ^ (64 - p.length)) heq
    simpa [Nat.or_mod_two_pow, Nat.mod_eq_zero_of_dvd hdvd, Nat.mod_eq_of_lt ((hfree x).mp hx),
      Nat.mod_eq_of_lt ((hfree y).mp hy)] using hmod

/-- A /60 that is written with its host bits. -/
def unalignedPrefix : PrefixOption where
  addr := 0x20010db8000000080000000000000000
  length := 60

theorem unalignedPrefix_accepted : unalignedPrefix.Accepted :=
  ⟨"2001:db8:0:8::/60".toList, .inl (by decide)⟩

/-- The aligned prefix next to it. -/
def alignedPrefix : PrefixOption where
  addr := 0x20010db8000000100000000000000000
  length := 60

theorem prefix_subnets_sound_iff_aligned :
    SubnetsAlwaysSound (some "wan6") ordinaryNames alignedPrefix alignedPrefix := by
  have haccepted : alignedPrefix.Accepted := ⟨"2001:db8:0:10::/60".toList, .inl (by decide)⟩
  apply (prefix_subnets_sound_iff (some "wan6") (Set.Subset.refl _) haccepted rfl (by decide)).mpr
  exact ⟨(separable_iff_dvd (some "wan6") rfl).mpr (by decide), marksApart_ordinary _ _⟩

/-- Of the two interfaces one asks for subnet 0 and the other for subnet 8 of `2001:db8:0:8::/60`:
both get `2001:db8:0:8::/64`. -/
theorem prefix_subnets_collide : ¬∀ p : PrefixOption, p.Accepted → 34 ≤ p.length →
    SubnetsAlwaysSound (some "wan6") ordinaryNames p p := by
  intro h
  have hdefined : Defined (interfaceIpAddDevicePrefix (some "wan6") unalignedPrefix) :=
    ⟨by decide, by decide, by decide, .inl rfl⟩
  have happart := keepsApart_of_sound (Set.Subset.refl _) hdefined
    (h _ unalignedPrefix_accepted (by decide))
  have hfree : ∀ x < 16, Free (interfaceIpAddDevicePrefix (some "wan6") unalignedPrefix) x := by
    intro x hx
    exact ⟨hx, by simp [excluded, interfaceIpAddDevicePrefix, unalignedPrefix]⟩
  have hsame := happart 0 8 (hfree 0 (by decide)) (hfree 8 (by decide)) (by decide)
  cases hsame

end Netifd
