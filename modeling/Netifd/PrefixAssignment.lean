import Netifd.IntervalPacking
import Mathlib.Data.List.Nodup
import Mathlib.Data.List.Perm.Basic
import Mathlib.Data.String.Basic
import Mathlib.Algebra.Order.Ring.Int
import Mathlib.Algebra.Ring.Divisibility.Basic
import Mathlib.Tactic.Ring
import Mathlib.Tactic.Positivity
import Mathlib.Tactic.Linarith

/-!
# Assignment of delegated prefixes

`interface_update_prefix_assignments` of `interface-ip.c` up to the installation of the
addresses: the subprefixes that interfaces ask for by a hint are cut out first, and all
others are then fitted into the gaps, smaller if there is no gap of the wanted size.
-/

namespace Netifd
open IntervalPacking

/-- What prefix assignment reads of `struct interface`. -/
structure AssignedInterface where
  name : String
  assignmentLength : ℕ := 0
  assignmentHint : ℤ := -1
  assignmentWeight : ℤ := 0
  assignmentClasses : List String := []

/-- The table `interfaces`, which is kept in the order of the names. -/
structure InterfaceTable where
  elements : List AssignedInterface
  sorted : elements.Pairwise fun a b => a.name < b.name

theorem InterfaceTable.names_nodup (interfaces : InterfaceTable) :
    (interfaces.elements.map (·.name)).Nodup := by
  rw [List.Nodup, List.pairwise_map]
  exact interfaces.sorted.imp fun hlt => ne_of_lt hlt

/-- `struct device_prefix_assignment`, without the address that is installed for it. -/
structure DevicePrefixAssignment where
  assigned : ℤ
  length : ℕ
  weight : ℤ := 0
  name : String
  deriving DecidableEq

/-- What assignment reads of `struct device_prefix`; of the excluded address only the second
32-bit word matters. -/
structure DevicePrefix where
  length : ℕ
  exclLength : ℕ := 0
  exclAddr : ℕ := 0
  pclass : String := ""
  assignments : List DevicePrefixAssignment := []

/-- `1 << (64 - length)`, the number of /64 prefixes in an entry. -/
def DevicePrefixAssignment.size (c : DevicePrefixAssignment) : ℤ := 2 ^ (64 - c.length)

/-- The first multiple of `asize + 1` from `current` on: `(current + asize) & ~asize`, where
`asize` is one less than a power of two. -/
def roundUp (current asize : ℤ) : ℤ := current + asize - (current + asize) % (asize + 1)

/-- The loop of `interface_prefix_assign`, from the entry that follows `current` on. -/
def interfacePrefixAssignFrom (assign : DevicePrefixAssignment) :
    ℤ → List DevicePrefixAssignment → Option (List DevicePrefixAssignment)
  | _, [] => none
  | current, c :: cs =>
    let asize := assign.size - 1
    if assign.assigned ≠ -1 then
      if assign.assigned ≥ current ∧ assign.assigned + asize < c.assigned then
        some (assign :: c :: cs)
      else (interfacePrefixAssignFrom assign (c.assigned + c.size) cs).map (c :: ·)
    else
      let current := roundUp current asize
      if current + asize < c.assigned then
        some ({ assign with assigned := current } :: c :: cs)
      else (interfacePrefixAssignFrom assign (c.assigned + c.size) cs).map (c :: ·)

/-- `interface_prefix_assign`: the list with the new entry, if there was a place for it. -/
def interfacePrefixAssign (list : List DevicePrefixAssignment)
    (assign : DevicePrefixAssignment) : Option (List DevicePrefixAssignment) :=
  interfacePrefixAssignFrom assign 0 list

/-- The sign of `strcmp`. -/
def strcmp (a b : String) : ℤ :=
  match compare a b with
  | .lt => -1
  | .eq => 0
  | .gt => 1

/-- `prefix_assignment_cmp`, before the result is made an `int`. -/
def prefixAssignmentCmp (a1 a2 : DevicePrefixAssignment) : ℤ :=
  if a1.length ≠ a2.length then a1.length - a2.length
  else if a1.weight ≠ a2.weight then a2.weight - a1.weight
  else strcmp a1.name a2.name

/-- The value of `prefix_assignment_cmp`: the weights are `int`s, and so is their difference. -/
def prefixAssignmentCmpInt (a1 a2 : DevicePrefixAssignment) : ℤ :=
  if a1.length ≠ a2.length then a1.length - a2.length
  else
    let diff := (a2.weight - a1.weight).bmod (2 ^ 32)
    if diff ≠ 0 then diff else strcmp a1.name a2.name

/-- `avl_insert` into a tree without duplicates, as a list in the order of the tree. -/
def avlInsert (c : DevicePrefixAssignment) :
    List DevicePrefixAssignment → List DevicePrefixAssignment
  | [] => [c]
  | d :: ds =>
    if prefixAssignmentCmpInt c d < 0 then c :: d :: ds
    else if prefixAssignmentCmpInt c d = 0 then d :: ds
    else d :: avlInsert c ds

/-- The end-of-assignment sentinel. -/
def sentinel (p : DevicePrefix) : DevicePrefixAssignment where
  assigned := 2 ^ (64 - p.length)
  length := 64
  name := ""

/-- The entry of the excluded prefix, if there is one. -/
def excluded (p : DevicePrefix) : List DevicePrefixAssignment :=
  if p.exclLength > 0 then
    [{ assigned := (p.exclAddr &&& (2 ^ (64 - p.length) - 1) : ℕ)
       length := p.exclLength
       name := "!excluded" }]
  else []

/-- The interface wants a subprefix, and the prefix is of a class that it accepts. -/
def eligible (p : DevicePrefix) (iface : AssignedInterface) : Bool :=
  !(iface.assignmentLength < 48 || iface.assignmentLength > 64) &&
    (iface.assignmentClasses.isEmpty || iface.assignmentClasses.contains p.pclass)

/-- The entry that an interface asks for. -/
def request (iface : AssignedInterface) : DevicePrefixAssignment where
  assigned := iface.assignmentHint
  length := iface.assignmentLength
  weight := iface.assignmentWeight
  name := iface.name

/-- One interface in the first pass: custom assignments are processed, all others and those
that failed go to the second list. -/
def assignHinted (p : DevicePrefix)
    (s : List DevicePrefixAssignment × List DevicePrefixAssignment)
    (iface : AssignedInterface) : List DevicePrefixAssignment × List DevicePrefixAssignment :=
  if !eligible p iface then s
  else
    let c := request iface
    if c.assigned = -1 then (s.1, avlInsert c s.2)
    else match interfacePrefixAssign s.1 c with
      | some list => (list, s.2)
      | none => (s.1, avlInsert { c with assigned := -1 } s.2)

/-- The retry loop of the second pass: ask for less until it fits or nothing is left to ask. -/
def assignShrinking (list : List DevicePrefixAssignment) (c : DevicePrefixAssignment) :
    List DevicePrefixAssignment :=
  match interfacePrefixAssign list c with
  | some list => list
  | none =>
    if c.length + 1 ≤ 64 then assignShrinking list { c with length := c.length + 1 } else list
termination_by 64 - c.length

/-- `interface_update_prefix_assignments`, up to the installation of the addresses. -/
def interfaceUpdatePrefixAssignments (interfaces : InterfaceTable) (p : DevicePrefix)
    (setup : Bool) : DevicePrefix :=
  if !setup then { p with assignments := [] }
  else
    let list := excluded p ++ [sentinel p]
    let (list, assignLater) := interfaces.elements.foldl (assignHinted p) (list, [])
    { p with assignments := assignLater.foldl assignShrinking list }

theorem size_pos (c : DevicePrefixAssignment) : 0 < c.size := by
  unfold DevicePrefixAssignment.size
  positivity

theorem le_roundUp (current : ℤ) {n : ℤ} (hn : 0 < n) : current ≤ roundUp current (n - 1) := by
  have hlt := Int.emod_lt_of_pos (current + (n - 1)) hn
  simp only [roundUp, sub_add_cancel]
  omega

theorem dvd_roundUp (current n : ℤ) : n ∣ roundUp current (n - 1) := by
  simp only [roundUp, sub_add_cancel]
  exact Int.dvd_self_sub_emod

/-- The entries of a list follow one another from `current` on. -/
abbrev PackedFrom (current : ℤ) (l : List DevicePrefixAssignment) : Prop :=
  Packed DevicePrefixAssignment.assigned DevicePrefixAssignment.size current l

/-- An entry stands in a list where it was not before, in front of another one. -/
structure InsertedInto (a : DevicePrefixAssignment) (l l' : List DevicePrefixAssignment) :
    Prop where
  place : ∃ before c after, l = before ++ c :: after ∧ l' = before ++ a :: c :: after

theorem InsertedInto.head (a c : DevicePrefixAssignment) (cs : List DevicePrefixAssignment) :
    InsertedInto a (c :: cs) (a :: c :: cs) := ⟨[], c, cs, rfl, rfl⟩

theorem InsertedInto.tail {a : DevicePrefixAssignment} {l l' : List DevicePrefixAssignment}
    (h : InsertedInto a l l') (c : DevicePrefixAssignment) :
    InsertedInto a (c :: l) (c :: l') := by
  obtain ⟨before, d, after, rfl, rfl⟩ := h.place
  exact ⟨c :: before, d, after, rfl, rfl⟩

theorem InsertedInto.before_last {a last : DevicePrefixAssignment}
    {before l' : List DevicePrefixAssignment} (h : InsertedInto a (before ++ [last]) l') :
    ∃ before', l' = before' ++ [last] ∧ before'.Perm (a :: before) := by
  obtain ⟨front, c, after, heq, rfl⟩ := h.place
  rcases List.eq_nil_or_concat after with rfl | ⟨after, d, rfl⟩
  · obtain ⟨rfl, hc⟩ := List.append_inj' heq rfl
    obtain rfl := List.singleton_inj.mp hc
    exact ⟨before ++ [a], by simp, List.perm_append_singleton a before⟩
  · rw [List.concat_eq_append, ← List.cons_append, ← List.append_assoc] at heq
    obtain ⟨rfl, hd⟩ := List.append_inj' heq rfl
    obtain rfl := List.singleton_inj.mp hd
    exact ⟨front ++ a :: c :: after, by simp, List.perm_middle⟩

/-- An entry that finds a place keeps everything but its range, gets the range it asked for
or else an aligned one, and overlaps nothing. -/
theorem interfacePrefixAssignFrom_some {assign : DevicePrefixAssignment} {current : ℤ}
    {l l' : List DevicePrefixAssignment} (hpacked : PackedFrom current l)
    (h : interfacePrefixAssignFrom assign current l = some l') :
    ∃ x, (assign.assigned ≠ -1 ∧ x = assign.assigned ∨ assign.assigned = -1 ∧ assign.size ∣ x) ∧
      InsertedInto { assign with assigned := x } l l' ∧ PackedFrom current l' := by
  induction l generalizing current l' with
  | nil => cases h
  | cons c cs ih =>
    have hlater : (interfacePrefixAssignFrom assign (c.assigned + c.size) cs).map (c :: ·) =
        some l' → ∃ x,
          (assign.assigned ≠ -1 ∧ x = assign.assigned ∨ assign.assigned = -1 ∧ assign.size ∣ x) ∧
          InsertedInto { assign with assigned := x } (c :: cs) l' ∧ PackedFrom current l' := by
      intro hmap
      obtain ⟨cs', hcs, rfl⟩ := Option.map_eq_some_iff.mp hmap
      obtain ⟨x, hx, hinserted, hcs'⟩ := ih hpacked.2 hcs
      exact ⟨x, hx, hinserted.tail c, hpacked.1, hcs'⟩
    have hsize := size_pos assign
    simp only [interfacePrefixAssignFrom] at h
    split_ifs at h with hhint hfits hgap
    · cases h
      refine ⟨assign.assigned, .inl ⟨hhint, rfl⟩, .head assign c cs, ?_⟩
      exact hpacked.insert hfits.1 (by omega)
    · exact hlater h
    · cases h
      have hle := le_roundUp current hsize
      refine ⟨_, .inr ⟨by simpa using hhint, dvd_roundUp current assign.size⟩, .head _ c cs, ?_⟩
      apply hpacked.insert hle
      change roundUp current (assign.size - 1) + assign.size ≤ c.assigned
      omega
    · exact hlater h

theorem interfacePrefixAssignFrom_none {assign : DevicePrefixAssignment} {current : ℤ}
    {l : List DevicePrefixAssignment} (hlength : assign.length = 64)
    (hany : assign.assigned = -1) (h : interfacePrefixAssignFrom assign current l = none) :
    Gapless DevicePrefixAssignment.assigned DevicePrefixAssignment.size current l := by
  have hsize : assign.size = 1 := by simp [DevicePrefixAssignment.size, hlength]
  induction l generalizing current with
  | nil => trivial
  | cons c cs ih =>
    simp only [interfacePrefixAssignFrom, hany, ne_eq, not_true_eq_false, if_false, hsize] at h
    split_ifs at h with hgap
    have hle : c.assigned ≤ current := by simpa [roundUp] using hgap
    exact ⟨hle, ih (by simpa using h)⟩

/-- The list consists of the sentinel, the excluded prefix and the entries in `made`, packed
one after the other, and those in `made` are aligned. -/
structure Progress (p : DevicePrefix) (list made : List DevicePrefixAssignment) : Prop where
  entries : ∃ before, list = before ++ [sentinel p] ∧ before.Perm (excluded p ++ made)
  packed : PackedFrom 0 list
  aligned : ∀ a ∈ made, a.size ∣ a.assigned

/-- Every /64 of the prefix is in the excluded prefix or in one of the entries. -/
def Full (p : DevicePrefix) (made : List DevicePrefixAssignment) : Prop :=
  ∀ x : ℤ, 0 ≤ x → x < 2 ^ (64 - p.length) →
    Covers DevicePrefixAssignment.assigned DevicePrefixAssignment.size (excluded p ++ made) x

/-- An entry was made for an eligible interface, of the wanted size or smaller. -/
def Serves (p : DevicePrefix) (ifaces : List AssignedInterface) (a : DevicePrefixAssignment) :
    Prop :=
  ∃ iface ∈ ifaces, eligible p iface = true ∧ a.name = iface.name ∧
    iface.assignmentLength ≤ a.length ∧ a.length ≤ 64

theorem Serves.mono {p : DevicePrefix} {ifaces ifaces' : List AssignedInterface}
    {a : DevicePrefixAssignment} (h : Serves p ifaces a) (hsub : ifaces ⊆ ifaces') :
    Serves p ifaces' a := by
  obtain ⟨iface, hmem, hrest⟩ := h
  exact ⟨iface, hsub hmem, hrest⟩

theorem Serves.length_le {p : DevicePrefix} {ifaces : List AssignedInterface}
    {a : DevicePrefixAssignment} (h : Serves p ifaces a) : a.length ≤ 64 := by
  obtain ⟨_, _, _, _, _, hle⟩ := h
  exact hle

theorem eligible_length {p : DevicePrefix} {iface : AssignedInterface}
    (h : eligible p iface = true) : 48 ≤ iface.assignmentLength ∧ iface.assignmentLength ≤ 64 := by
  simp only [eligible, Bool.and_eq_true, Bool.not_eq_true', Bool.or_eq_false_iff,
    decide_eq_false_iff_not] at h
  omega

theorem request_serves {p : DevicePrefix} {ifaces : List AssignedInterface}
    {iface : AssignedInterface} (hmem : iface ∈ ifaces) (h : eligible p iface = true) :
    Serves p ifaces (request iface) :=
  ⟨iface, hmem, h, rfl, le_rfl, (eligible_length h).2⟩

theorem Serves.shrink {p : DevicePrefix} {ifaces : List AssignedInterface}
    {a b : DevicePrefixAssignment} (h : Serves p ifaces a) (hname : b.name = a.name)
    (hle : a.length ≤ b.length) (h64 : b.length ≤ 64) : Serves p ifaces b := by
  obtain ⟨iface, hmem, helig, ha, hlength, _⟩ := h
  exact ⟨iface, hmem, helig, hname.trans ha, hlength.trans hle, h64⟩

theorem Full.mono {p : DevicePrefix} {made made' : List DevicePrefixAssignment}
    (h : Full p made) (hsub : made ⊆ made') : Full p made' := by
  intro x hx hlast
  apply (h x hx hlast).mono
  exact List.append_subset.mpr
    ⟨List.subset_append_left _ _, List.Subset.trans hsub (List.subset_append_right _ _)⟩

theorem Progress.assign {p : DevicePrefix} {list made list' : List DevicePrefixAssignment}
    {c : DevicePrefixAssignment} (h : Progress p list made)
    (hc : c.assigned = -1 ∨ c.size ∣ c.assigned)
    (hassign : interfacePrefixAssign list c = some list') :
    ∃ x, Progress p list' ({ c with assigned := x } :: made) := by
  obtain ⟨x, hx, hinserted, hpacked⟩ := interfacePrefixAssignFrom_some h.packed hassign
  obtain ⟨before, rfl, hperm⟩ := h.entries
  obtain ⟨before', hlist', hperm'⟩ := hinserted.before_last
  refine ⟨x, ⟨before', hlist', ?_⟩, hpacked, ?_⟩
  · exact (hperm'.trans (hperm.cons _)).trans List.perm_middle.symm
  · intro a ha
    rcases List.mem_cons.mp ha with rfl | hmem
    · rcases hx with ⟨hhint, rfl⟩ | ⟨_, hdvd⟩
      · exact hc.resolve_left hhint
      · exact hdvd
    · exact h.aligned a hmem

theorem Progress.full {p : DevicePrefix} {list made : List DevicePrefixAssignment}
    {c : DevicePrefixAssignment} (h : Progress p list made) (hlength : c.length = 64)
    (hany : c.assigned = -1) (hassign : interfacePrefixAssign list c = none) : Full p made := by
  obtain ⟨before, rfl, hperm⟩ := h.entries
  intro x hx hlast
  exact ((interfacePrefixAssignFrom_none hlength hany hassign).covers hx hlast).mono hperm.subset

theorem strcmp_ne_zero {a b : String} (h : a ≠ b) : strcmp a b ≠ 0 := by
  unfold strcmp
  split
  · decide
  · exact absurd (Std.LawfulEqCmp.eq_of_compare ‹_›) h
  · decide

theorem prefixAssignmentCmpInt_ne_zero {a1 a2 : DevicePrefixAssignment}
    (h : a1.name ≠ a2.name) : prefixAssignmentCmpInt a1 a2 ≠ 0 := by
  unfold prefixAssignmentCmpInt
  dsimp only
  split_ifs with hlength hweight
  · omega
  · exact hweight
  · exact strcmp_ne_zero h

theorem avlInsert_perm {c : DevicePrefixAssignment} {l : List DevicePrefixAssignment}
    (h : c.name ∉ l.map (·.name)) : (avlInsert c l).Perm (c :: l) := by
  induction l with
  | nil => exact .refl _
  | cons d ds ih =>
    obtain ⟨hd, hds⟩ : c.name ≠ d.name ∧ c.name ∉ ds.map (·.name) := by simpa using h
    rw [avlInsert, if_neg (prefixAssignmentCmpInt_ne_zero hd)]
    split_ifs
    · exact .refl _
    · exact ((ih hds).cons d).trans (.swap c d ds)

/-- After the first pass over `done`, each eligible interface has an entry or is put off. -/
structure FirstPass (p : DevicePrefix) (done : List AssignedInterface)
    (list later made : List DevicePrefixAssignment) : Prop where
  progress : Progress p list made
  names : ((later ++ made).map (·.name)).Perm ((done.filter (eligible p)).map (·.name))
  open_ : ∀ a ∈ later, a.assigned = -1
  serves : ∀ a ∈ later ++ made, Serves p done a

theorem FirstPass.extend {p : DevicePrefix} {done : List AssignedInterface}
    {list list' later later' made made' : List DevicePrefixAssignment}
    (h : FirstPass p done list later made) {iface : AssignedInterface}
    {a : DevicePrefixAssignment} (helig : eligible p iface = true) (hname : a.name = iface.name)
    (hlength : a.length = iface.assignmentLength) (hprogress : Progress p list' made')
    (hperm : (later' ++ made').Perm (a :: (later ++ made)))
    (hopen : ∀ b ∈ later', b.assigned = -1) : FirstPass p (done ++ [iface]) list' later' made' where
  progress := hprogress
  names := by
    have hnames : ((later' ++ made').map (·.name)).Perm
        (iface.name :: (later ++ made).map (·.name)) := by
      simpa only [List.map_cons, hname] using hperm.map (·.name)
    simpa [helig] using hnames.trans
      ((h.names.cons iface.name).trans (List.perm_append_singleton _ _).symm)
  open_ := hopen
  serves := by
    intro b hb
    rcases List.mem_cons.mp (hperm.subset hb) with rfl | hmem
    · have hserves : Serves p (done ++ [iface]) (request iface) :=
        request_serves (by simp) helig
      exact hserves.shrink hname hlength.ge (hlength ▸ (eligible_length helig).2)
    · exact (h.serves b hmem).mono (List.subset_append_left _ _)

theorem FirstPass.defer {p : DevicePrefix} {done : List AssignedInterface}
    {list later made : List DevicePrefixAssignment} (h : FirstPass p done list later made)
    {iface : AssignedInterface} {a : DevicePrefixAssignment} (helig : eligible p iface = true)
    (hnew : iface.name ∉ done.map (·.name)) (hname : a.name = iface.name)
    (hlength : a.length = iface.assignmentLength) (hopen : a.assigned = -1) :
    FirstPass p (done ++ [iface]) list (avlInsert a later) made := by
  have hfresh : a.name ∉ later.map (·.name) := by
    intro hmem
    have hall : a.name ∈ (later ++ made).map (·.name) := by
      rw [List.map_append]
      exact List.mem_append_left _ hmem
    have hdone := h.names.subset hall
    rw [hname] at hdone
    exact hnew ((List.filter_sublist.map _).subset hdone)
  have hinsert := avlInsert_perm hfresh
  refine h.extend helig hname hlength h.progress (hinsert.append_right made) ?_
  intro b hb
  rcases List.mem_cons.mp (hinsert.subset hb) with rfl | hmem
  · exact hopen
  · exact h.open_ b hmem

/-- The hint of an eligible interface is absent or aligned to the wanted size. -/
def HintAligned (p : DevicePrefix) (iface : AssignedInterface) : Prop :=
  eligible p iface = true →
    iface.assignmentHint = -1 ∨ 2 ^ (64 - iface.assignmentLength) ∣ iface.assignmentHint

theorem assignHinted_keeps {p : DevicePrefix} {done : List AssignedInterface}
    {s : List DevicePrefixAssignment × List DevicePrefixAssignment}
    {made : List DevicePrefixAssignment} (h : FirstPass p done s.1 s.2 made)
    {iface : AssignedInterface} (hnew : iface.name ∉ done.map (·.name))
    (hhint : HintAligned p iface) : ∃ made', FirstPass p (done ++ [iface])
      (assignHinted p s iface).1 (assignHinted p s iface).2 made' := by
  unfold assignHinted
  cases helig : eligible p iface with
  | false =>
    refine ⟨made, h.progress, ?_, h.open_, ?_⟩
    · simpa [helig] using h.names
    · intro a ha
      exact (h.serves a ha).mono (List.subset_append_left _ _)
  | true =>
    simp only [Bool.not_true, Bool.false_eq_true, if_false]
    split_ifs with hany
    · exact ⟨made, h.defer helig hnew rfl rfl hany⟩
    · cases hassign : interfacePrefixAssign s.1 (request iface) with
      | none => exact ⟨made, h.defer helig hnew rfl rfl rfl⟩
      | some list =>
        obtain ⟨x, hprogress⟩ := h.progress.assign (hhint helig) hassign
        exact ⟨_, h.extend helig rfl rfl hprogress List.perm_middle h.open_⟩

theorem firstPass {p : DevicePrefix} {done ifaces : List AssignedInterface}
    {s : List DevicePrefixAssignment × List DevicePrefixAssignment}
    {made : List DevicePrefixAssignment} (h : FirstPass p done s.1 s.2 made)
    (hnames : ((done ++ ifaces).map (·.name)).Nodup) (hhints : ∀ i ∈ ifaces, HintAligned p i) :
    ∃ made', FirstPass p (done ++ ifaces) (ifaces.foldl (assignHinted p) s).1
      (ifaces.foldl (assignHinted p) s).2 made' := by
  induction ifaces generalizing done s made with
  | nil => exact ⟨made, by simpa using h⟩
  | cons iface ifaces ih =>
    have hsplit : done ++ iface :: ifaces = (done ++ [iface]) ++ ifaces := by simp
    have hnew : iface.name ∉ done.map (·.name) := by
      rw [List.map_append, List.map_cons] at hnames
      exact fun hmem => (List.nodup_append.mp hnames).2.2 _ hmem _ List.mem_cons_self rfl
    obtain ⟨made', hstep⟩ := assignHinted_keeps h hnew (hhints iface List.mem_cons_self)
    rw [hsplit] at hnames ⊢
    exact ih hstep hnames fun i hi => hhints i (List.mem_cons_of_mem _ hi)

theorem assignShrinking_spec {p : DevicePrefix} {list made : List DevicePrefixAssignment}
    {c : DevicePrefixAssignment} (h : Progress p list made) (hany : c.assigned = -1)
    (h64 : c.length ≤ 64) :
    (∃ a, Progress p (assignShrinking list c) (a :: made) ∧ a.name = c.name ∧
      c.length ≤ a.length ∧ a.length ≤ 64) ∨
    assignShrinking list c = list ∧ Full p made := by
  fun_induction assignShrinking list c with
  | case1 c list' hassign =>
    obtain ⟨x, hprogress⟩ := h.assign (.inl hany) hassign
    exact .inl ⟨_, hprogress, rfl, le_rfl, h64⟩
  | case2 c hassign hmore ih =>
    rcases ih hany hmore with ⟨a, hprogress, hname, hle, ha⟩ | hfull
    · exact .inl ⟨a, hprogress, hname, (Nat.le_succ _).trans hle, ha⟩
    · exact .inr hfull
  | case3 c hassign hlast =>
    exact .inr ⟨rfl, h.full (by omega) hany hassign⟩

/-- The second pass: either everything that was put off gets an entry or the prefix is
used up. -/
theorem secondPass {p : DevicePrefix} {ifaces : List AssignedInterface}
    {list later made : List DevicePrefixAssignment} (h : Progress p list made)
    (hopen : ∀ a ∈ later, a.assigned = -1) (hserves : ∀ a ∈ later ++ made, Serves p ifaces a) :
    ∃ made', Progress p (later.foldl assignShrinking list) made' ∧ made ⊆ made' ∧
      (∀ a ∈ made', Serves p ifaces a) ∧
      (made'.map (·.name)).Subperm ((later ++ made).map (·.name)) ∧
      (((later ++ made).map (·.name)).Perm (made'.map (·.name)) ∨ Full p made') := by
  induction later generalizing list made with
  | nil => exact ⟨made, h, List.Subset.refl _, hserves, .refl _, .inl (.refl _)⟩
  | cons c later ih =>
    have hopen' : ∀ a ∈ later, a.assigned = -1 := fun a ha => hopen a (List.mem_cons_of_mem _ ha)
    have hc : Serves p ifaces c := hserves c List.mem_cons_self
    have hserves' : ∀ a ∈ later ++ made, Serves p ifaces a :=
      fun a ha => hserves a (List.mem_cons_of_mem _ ha)
    have h64 : c.length ≤ 64 := hc.length_le
    rcases assignShrinking_spec h (hopen c List.mem_cons_self) h64 with
      ⟨a, hprogress, hname, hle, ha⟩ | ⟨hsame, hfull⟩
    · have hmiddle : ((later ++ a :: made).map (·.name)).Perm
          ((c :: later ++ made).map (·.name)) := by
        simp [hname]
      have hnext : ∀ b ∈ later ++ a :: made, Serves p ifaces b := by
        intro b hb
        rcases List.mem_cons.mp (List.perm_middle.subset hb) with rfl | hmem
        · exact hc.shrink hname hle ha
        · exact hserves' b hmem
      obtain ⟨made', hmade, hsub, hall, hsubperm, hend⟩ := ih hprogress hopen' hnext
      exact ⟨made', hmade, List.Subset.trans (List.subset_cons_self a made) hsub, hall,
        hsubperm.trans hmiddle.subperm, hend.imp_left hmiddle.symm.trans⟩
    · obtain ⟨made', hmade, hsub, hall, hsubperm, _⟩ := ih h hopen' hserves'
      rw [List.foldl_cons, hsame]
      exact ⟨made', hmade, hsub, hall,
        hsubperm.trans ((List.sublist_cons_self c _).map _).subperm, .inr (hfull.mono hsub)⟩

/-- A delegated prefix of the lengths that can be cut up, and what may be excluded from it. -/
structure DevicePrefix.Delegated (p : DevicePrefix) : Prop where
  lower : 34 ≤ p.length
  upper : p.length ≤ 64
  excl : p.exclLength = 0 ∨
    p.length ≤ p.exclLength ∧ p.exclLength ≤ 64 ∧ 2 ^ (64 - p.exclLength) ∣ p.exclAddr

/-- The assignments of `list`, with those in `made` belonging to interfaces, are sound: in
order, apart from each other and from the excluded prefix, aligned, inside the prefix, one for
each interface at most; and they are complete: no interface goes without while there is room. -/
structure SoundAssignment (interfaces : InterfaceTable) (p : DevicePrefix)
    (list made : List DevicePrefixAssignment) : Prop where
  entries : ∃ before, list = before ++ [sentinel p] ∧ before.Perm (excluded p ++ made)
  ordered : list.Pairwise fun a b => a.assigned ≤ b.assigned
  disjoint : (excluded p ++ made).Pairwise fun a b =>
    a.assigned + a.size ≤ b.assigned ∨ b.assigned + b.size ≤ a.assigned
  aligned : ∀ a ∈ made, a.size ∣ a.assigned
  inside : ∀ a ∈ made, 0 ≤ a.assigned ∧ a.assigned + a.size ≤ 2 ^ (64 - p.length)
  serves : ∀ a ∈ made, Serves p interfaces.elements a
  once : (made.map (·.name)).Nodup
  complete : (∃ iface ∈ interfaces.elements, eligible p iface = true ∧
    iface.name ∉ made.map (·.name)) → Full p made

theorem mark_name {p : DevicePrefix} {a : DevicePrefixAssignment}
    (h : a ∈ excluded p ++ [sentinel p]) : a.name = "!excluded" ∨ a.name = "" := by
  rcases List.mem_append.mp h with h | h
  · unfold excluded at h
    split_ifs at h
    · rw [List.mem_singleton.mp h]
      exact Or.inl rfl
    · cases h
  · rw [List.mem_singleton.mp h]
    exact Or.inr rfl

theorem progress_start {p : DevicePrefix} (hp : p.Delegated) :
    Progress p (excluded p ++ [sentinel p]) [] where
  entries := ⟨excluded p, rfl, by simp⟩
  packed := by
    have hpos : (0 : ℤ) ≤ 2 ^ (64 - p.length) := by positivity
    unfold excluded
    split_ifs with hexcl
    · obtain ⟨hle, h64, hdvd⟩ := hp.excl.resolve_left hexcl.ne'
      -- the excluded range is aligned, so that it ends where the prefix ends or before
      have hend : (p.exclAddr &&& (2 ^ (64 - p.length) - 1)) + 2 ^ (64 - p.exclLength) ≤
          2 ^ (64 - p.length) := by
        rw [Nat.and_two_pow_sub_one_eq_mod]
        have hpow : 2 ^ (64 - p.exclLength) ∣ 2 ^ (64 - p.length) :=
          pow_dvd_pow 2 (by omega)
        have hmod := (Nat.dvd_mod_iff hpow).mpr hdvd
        have hlt := Nat.mod_lt p.exclAddr (Nat.two_pow_pos (64 - p.length))
        have hgap := Nat.le_of_dvd (Nat.sub_pos_of_lt hlt) (Nat.dvd_sub hpow hmod)
        omega
      refine ⟨Int.natCast_nonneg _, ?_, trivial⟩
      change ((p.exclAddr &&& (2 ^ (64 - p.length) - 1) : ℕ) : ℤ) + 2 ^ (64 - p.exclLength) ≤
        2 ^ (64 - p.length)
      exact_mod_cast hend
    · exact ⟨hpos, trivial⟩
  aligned := by simp

/-- Prefix assignment is sound and complete. -/
theorem prefix_assignment_sound (interfaces : InterfaceTable) (p : DevicePrefix)
    (hp : p.Delegated) (hhints : ∀ i ∈ interfaces.elements, HintAligned p i) :
    ∃ made, SoundAssignment interfaces p
      (interfaceUpdatePrefixAssignments interfaces p true).assignments made := by
  have hnames := interfaces.names_nodup
  have hstart : FirstPass p [] (excluded p ++ [sentinel p]) [] [] :=
    ⟨progress_start hp, .refl _, by simp, by simp⟩
  obtain ⟨made₁, hfirst⟩ := firstPass (s := (excluded p ++ [sentinel p], [])) hstart hnames hhints
  obtain ⟨made, hprogress, _, hserves, hsubperm, hend⟩ :=
    secondPass hfirst.progress hfirst.open_ hfirst.serves
  have hsize : ∀ a : DevicePrefixAssignment, 0 ≤ a.size := fun a => (size_pos a).le
  have hpacked := hprogress.packed.pairwise hsize
  obtain ⟨before, hlist, hperm⟩ := hprogress.entries
  rw [hlist, List.pairwise_append] at hpacked
  have hbefore : ∀ a ∈ made, a ∈ before := fun a ha =>
    hperm.symm.subset (List.mem_append_right _ ha)
  refine ⟨made, ⟨before, hlist, hperm⟩, hprogress.packed.sorted hsize, ?_, hprogress.aligned,
    ?_, hserves, ?_, ?_⟩
  · exact (hperm.pairwise_iff (fun h => h.symm)).mp (hpacked.1.imp .inl)
  · intro a ha
    refine ⟨hprogress.packed.start_le hsize ?_, hpacked.2.2 a (hbefore a ha) (sentinel p) (by simp)⟩
    rw [hlist]
    exact List.mem_append_left _ (hbefore a ha)
  · have hall := hfirst.names.nodup_iff.mpr (hnames.sublist (List.filter_sublist.map _))
    obtain ⟨names, hnames', hsub⟩ := hsubperm
    exact hnames'.nodup_iff.mp (hall.sublist hsub)
  · rintro ⟨iface, hmem, helig, hnot⟩
    refine hend.resolve_left fun hperm' => hnot (hperm'.subset (hfirst.names.symm.subset ?_))
    exact List.mem_map_of_mem (List.mem_filter.mpr ⟨hmem, helig⟩)

/-- A /60 with its second /62 excluded: two interfaces get what their hints ask for, and
nothing is left for the third. -/
theorem prefix_assignment_sound_example :
    let interfaces : InterfaceTable :=
      { elements := [{ name := "a", assignmentLength := 61 },
          { name := "b", assignmentLength := 62, assignmentHint := 0 },
          { name := "c", assignmentLength := 61, assignmentHint := 8 }]
        sorted := by decide }
    let p : DevicePrefix := { length := 60, exclLength := 62, exclAddr := 4 }
    ∃ made, SoundAssignment interfaces p
      (interfaceUpdatePrefixAssignments interfaces p true).assignments made := by
  apply prefix_assignment_sound
  · exact ⟨by decide, by decide, .inr ⟨by decide, by decide, by decide⟩⟩
  · simp [HintAligned]

end Netifd
