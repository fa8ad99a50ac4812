import Netifd.PrefixAssignment
import Mathlib

/-!
# Where an assignment goes

`interface_prefix_assign` is a first-fit search over the assignment list of a prefix, in the
arithmetic of `int32_t`. It finds a place whenever there is one, the lowest if the request
leaves the choice.
-/

namespace Netifd
open IntervalPacking

/-- A number as an `int32_t`. -/
def int32 (x : ℤ) : BitVec 32 := BitVec.ofInt 32 x

/-- `1 << (64 - length)` as an `int32_t`. -/
def shiftedSize (length : ℕ) : BitVec 32 := 1#32 <<< (64 - length)

/-- The loop of `interface_prefix_assign` on machine numbers: what it returns, and the list it
leaves behind. -/
def interfacePrefixAssignInt32From (assign : DevicePrefixAssignment) :
    BitVec 32 → List DevicePrefixAssignment → Bool × List DevicePrefixAssignment
  | _, [] => (false, [])
  | current, c :: cs =>
    let asize := shiftedSize assign.length - 1#32
    let later := interfacePrefixAssignInt32From assign
      (int32 c.assigned + shiftedSize c.length) cs
    if int32 assign.assigned ≠ int32 (-1) then
      if current.sle (int32 assign.assigned) ∧
          (int32 assign.assigned + asize).slt (int32 c.assigned) then (true, assign :: c :: cs)
      else (later.1, c :: later.2)
    else
      let current := (current + asize) &&& ~~~asize
      if (current + asize).slt (int32 c.assigned) then
        (true, { assign with assigned := current.toInt } :: c :: cs)
      else (later.1, c :: later.2)

/-- `interface_prefix_assign` on machine numbers. -/
def interfacePrefixAssignInt32 (list : List DevicePrefixAssignment)
    (assign : DevicePrefixAssignment) : Bool × List DevicePrefixAssignment :=
  interfacePrefixAssignInt32From assign (int32 0) list

/-- The /64 prefixes of an entry. -/
def DevicePrefixAssignment.range (c : DevicePrefixAssignment) : Set ℤ :=
  Set.Ico c.assigned (c.assigned + c.size)

/-- An assignment list of a prefix: entries in order without overlaps, and the sentinel. -/
structure AssignmentList where
  entries : List DevicePrefixAssignment
  sentinel : DevicePrefixAssignment
  nonneg : ∀ c ∈ entries ++ [sentinel], 0 ≤ c.assigned
  sorted : (entries ++ [sentinel]).Pairwise fun a b => a.assigned ≤ b.assigned
  disjoint : (entries ++ [sentinel]).Pairwise fun a b => Disjoint a.range b.range
  bound : sentinel.assigned < 2 ^ 30

/-- The list itself, with the sentinel at its end. -/
def AssignmentList.list (l : AssignmentList) : List DevicePrefixAssignment :=
  l.entries ++ [l.sentinel]

/-- The request with the place it gets. -/
def DevicePrefixAssignment.at (assign : DevicePrefixAssignment) (x : ℤ) :
    DevicePrefixAssignment :=
  { assign with assigned := x }

/-- The request asks for this place: for the hinted one, or for any aligned one. -/
def Wanted (assign : DevicePrefixAssignment) (x : ℤ) : Prop :=
  if assign.assigned = -1 then assign.size ∣ x else x = assign.assigned

/-- The wanted places before the sentinel that meet no entry. -/
def places (l : AssignmentList) (assign : DevicePrefixAssignment) : Set ℤ :=
  {x | Wanted assign x ∧ (assign.at x).range ⊆ Set.Ico 0 l.sentinel.assigned ∧
    ∀ c ∈ l.entries, Disjoint (assign.at x).range c.range}

/-- Insertion in the order of the list. -/
abbrev insertInOrder (a : DevicePrefixAssignment) (list : List DevicePrefixAssignment) :
    List DevicePrefixAssignment :=
  list.orderedInsert (fun a b => a.assigned ≤ b.assigned) a

@[simp] theorem size_at (assign : DevicePrefixAssignment) (x : ℤ) :
    (assign.at x).size = assign.size := rfl

@[simp] theorem assigned_at (assign : DevicePrefixAssignment) (x : ℤ) :
    (assign.at x).assigned = x := rfl

/-- The place that is tried in the gap from `current` on. -/
def offer (assign : DevicePrefixAssignment) (current : ℤ) : ℤ :=
  if assign.assigned = -1 then roundUp current (assign.size - 1) else assign.assigned

theorem interfacePrefixAssignFrom_cons (assign c : DevicePrefixAssignment) (current : ℤ)
    (cs : List DevicePrefixAssignment) :
    interfacePrefixAssignFrom assign current (c :: cs) =
      if current ≤ offer assign current ∧ offer assign current + assign.size ≤ c.assigned then
        some (assign.at (offer assign current) :: c :: cs)
      else (interfacePrefixAssignFrom assign (c.assigned + c.size) cs).map (c :: ·) := by
  have hround := le_roundUp current (size_pos assign)
  by_cases hany : assign.assigned = -1
  · simp only [interfacePrefixAssignFrom, offer, hany, ne_eq, not_true_eq_false, if_false, if_true,
      hround, true_and]
    refine if_congr ?_ rfl rfl
    omega
  · simp only [interfacePrefixAssignFrom, offer, hany, ne_eq, not_false_eq_true, if_true, if_false]
    refine if_congr ?_ rfl rfl
    omega

theorem wanted_offer (assign : DevicePrefixAssignment) (current : ℤ) :
    Wanted assign (offer assign current) := by
  unfold Wanted offer
  split_ifs
  · exact dvd_roundUp current assign.size
  · rfl

theorem roundUp_le {n current x : ℤ} (hn : 0 < n) (hdvd : n ∣ x) (hle : current ≤ x) :
    roundUp current (n - 1) ≤ x := by
  obtain ⟨k, rfl⟩ := hdvd
  obtain ⟨j, hj⟩ := dvd_roundUp current n
  have hlt : roundUp current (n - 1) < n * (k + 1) := by
    have hmod := Int.emod_nonneg (current + (n - 1)) hn.ne'
    simp only [roundUp, sub_add_cancel]
    rw [mul_add, mul_one]
    omega
  rw [hj] at hlt ⊢
  have hjk : j < k + 1 := lt_of_mul_lt_mul_left hlt hn.le
  exact mul_le_mul_of_nonneg_left (by omega) hn.le

theorem offer_le {assign : DevicePrefixAssignment} {current x : ℤ} (hwanted : Wanted assign x)
    (hle : current ≤ x) : offer assign current ≤ x := by
  unfold Wanted at hwanted
  unfold offer
  split_ifs at hwanted ⊢
  · exact roundUp_le (size_pos assign) hwanted hle
  · exact hwanted.ge

theorem le_offer {assign : DevicePrefixAssignment} {current x : ℤ} (hwanted : Wanted assign x)
    (hle : current ≤ x) : current ≤ offer assign current := by
  unfold Wanted at hwanted
  unfold offer
  split_ifs at hwanted ⊢
  · exact le_roundUp current (size_pos assign)
  · exact hwanted ▸ hle

/-- The wanted places from `current` on that are before some entry and meet none. -/
def placesFrom (assign : DevicePrefixAssignment) (current : ℤ)
    (list : List DevicePrefixAssignment) : Set ℤ :=
  {x | Wanted assign x ∧ current ≤ x ∧ (∃ c ∈ list, x + assign.size ≤ c.assigned) ∧
    ∀ c ∈ list, x + assign.size ≤ c.assigned ∨ c.assigned + c.size ≤ x}

section Step

variable {assign c : DevicePrefixAssignment} {current : ℤ} {cs : List DevicePrefixAssignment}

theorem offer_mem (hpacked : PackedFrom current (c :: cs)) (hle : current ≤ offer assign current)
    (hgap : offer assign current + assign.size ≤ c.assigned) :
    offer assign current ∈ placesFrom assign current (c :: cs) := by
  refine ⟨wanted_offer assign current, hle, ⟨c, List.mem_cons_self, hgap⟩, ?_⟩
  have hpair := hpacked.sorted fun a => (size_pos a).le
  intro d hd
  rcases List.mem_cons.mp hd with rfl | hmem
  · exact .inl hgap
  · exact .inl (hgap.trans (List.rel_of_pairwise_cons hpair hmem))

theorem placesFrom_cons (hpacked : PackedFrom current (c :: cs)) :
    placesFrom assign (c.assigned + c.size) cs ⊆ placesFrom assign current (c :: cs) := by
  rintro x ⟨hwanted, hle, ⟨d, hd, hbefore⟩, hapart⟩
  have hfirst := hpacked.1
  have hsize := size_pos c
  refine ⟨hwanted, by omega, ⟨d, List.mem_cons_of_mem c hd, hbefore⟩, ?_⟩
  intro e he
  rcases List.mem_cons.mp he with rfl | hmem
  · exact .inr hle
  · exact hapart e hmem

theorem placesFrom_cases {x : ℤ} (hx : x ∈ placesFrom assign current (c :: cs)) :
    current ≤ offer assign current ∧ offer assign current + assign.size ≤ c.assigned ∨
      x ∈ placesFrom assign (c.assigned + c.size) cs := by
  obtain ⟨hwanted, hle, ⟨d, hd, hbefore⟩, hapart⟩ := hx
  have hoffer := offer_le hwanted hle
  rcases hapart c List.mem_cons_self with hgap | hafter
  · exact .inl ⟨le_offer hwanted hle, by omega⟩
  · refine .inr ⟨hwanted, hafter, ⟨d, ?_, hbefore⟩, fun e he =>
      hapart e (List.mem_cons_of_mem c he)⟩
    rcases List.mem_cons.mp hd with rfl | hmem
    · have hsize := size_pos d
      have hsize' := size_pos assign
      omega
    · exact hmem

end Step

theorem interfacePrefixAssignFrom_least {assign : DevicePrefixAssignment} {current x : ℤ}
    {list : List DevicePrefixAssignment} (hpacked : PackedFrom current list)
    (hx : IsLeast (placesFrom assign current list) x) :
    interfacePrefixAssignFrom assign current list = some (insertInOrder (assign.at x) list) := by
  induction list generalizing current with
  | nil =>
    obtain ⟨_, _, ⟨d, hd, _⟩, _⟩ := hx.1
    cases hd
  | cons c cs ih =>
    have hsize := size_pos assign
    rw [interfacePrefixAssignFrom_cons]
    split_ifs with htry
    · have heq : x = offer assign current :=
        le_antisymm (hx.2 (offer_mem hpacked htry.1 htry.2)) (offer_le hx.1.1 hx.1.2.1)
      have hfirst : (assign.at x).assigned ≤ c.assigned := by
        rw [assigned_at, heq]
        omega
      rw [insertInOrder, List.orderedInsert_cons, if_pos hfirst, heq]
    · have hlater := (placesFrom_cases hx.1).resolve_left htry
      have hafter : ¬(assign.at x).assigned ≤ c.assigned := by
        have hle : c.assigned + c.size ≤ x := hlater.2.1
        have hc := size_pos c
        rw [assigned_at]
        omega
      have hleast : IsLeast (placesFrom assign (c.assigned + c.size) cs) x :=
        ⟨hlater, fun y hy => hx.2 (placesFrom_cons hpacked hy)⟩
      rw [ih hpacked.2 hleast, insertInOrder, insertInOrder, List.orderedInsert_cons, if_neg hafter]
      rfl

theorem interfacePrefixAssignFrom_empty {assign : DevicePrefixAssignment} {current : ℤ}
    {list : List DevicePrefixAssignment} (hpacked : PackedFrom current list)
    (hnone : placesFrom assign current list = ∅) :
    interfacePrefixAssignFrom assign current list = none := by
  induction list generalizing current with
  | nil => rfl
  | cons c cs ih =>
    rw [interfacePrefixAssignFrom_cons, if_neg]
    · rw [ih hpacked.2 (Set.subset_empty_iff.mp (hnone ▸ placesFrom_cons hpacked))]
      rfl
    · rintro ⟨hle, hgap⟩
      exact Set.notMem_empty _ (hnone ▸ offer_mem hpacked hle hgap)

theorem toInt_int32 {x : ℤ} (hlow : -2 ^ 31 ≤ x) (hhigh : x < 2 ^ 31) : (int32 x).toInt = x :=
  BitVec.toInt_ofInt_eq_self (by omega) hlow hhigh

theorem int32_add (x y : ℤ) : int32 x + int32 y = int32 (x + y) := (BitVec.ofInt_add x y).symm

theorem shiftedSize_eq (length : ℕ) : shiftedSize length = int32 (2 ^ (64 - length)) := by
  have hcast : (2 : ℤ) ^ (64 - length) = ((2 ^ (64 - length) : ℕ) : ℤ) := by push_cast; rfl
  rw [shiftedSize, int32, hcast, BitVec.ofInt_natCast]
  apply BitVec.eq_of_toNat_eq
  simp [Nat.shiftLeft_eq]

theorem shiftedSize_sub_one (assign : DevicePrefixAssignment) :
    shiftedSize assign.length - 1#32 = int32 (assign.size - 1) := by
  rw [sub_eq_iff_eq_add, shiftedSize_eq]
  change _ = _ + int32 1
  rw [int32_add, sub_add_cancel]
  rfl

theorem and_not_mask (n k : ℕ) :
    BitVec.ofNat 32 n &&& ~~~BitVec.ofNat 32 (2 ^ k - 1) =
      BitVec.ofNat 32 (2 ^ k * (n / 2 ^ k)) := by
  apply BitVec.eq_of_getLsbD_eq
  intro i hi
  simp only [BitVec.getLsbD_and, BitVec.getLsbD_not, BitVec.getLsbD_ofNat, hi, decide_true,
    Bool.true_and, Nat.testBit_two_pow_sub_one, Nat.testBit_two_pow_mul, Nat.testBit_div_two_pow]
  rcases Nat.lt_or_ge i k with hlt | hge
  · simp [hlt, Nat.not_le.mpr hlt]
  · simp [hge, Nat.not_lt.mpr hge]

theorem int32_roundUp (assign : DevicePrefixAssignment) {current : ℤ} (hcurrent : 0 ≤ current) :
    int32 (current + (assign.size - 1)) &&& ~~~int32 (assign.size - 1) =
      int32 (roundUp current (assign.size - 1)) := by
  have hsize : assign.size = ((2 ^ (64 - assign.length) : ℕ) : ℤ) := by
    simp [DevicePrefixAssignment.size]
  have hpos := Nat.two_pow_pos (64 - assign.length)
  rw [hsize]
  generalize 64 - assign.length = k at hpos
  obtain ⟨n, rfl⟩ := Int.eq_ofNat_of_zero_le hcurrent
  have hmask : ((2 ^ k : ℕ) : ℤ) - 1 = ((2 ^ k - 1 : ℕ) : ℤ) := by omega
  have hround : roundUp n ((2 ^ k - 1 : ℕ) : ℤ) =
      ((2 ^ k * ((n + (2 ^ k - 1)) / 2 ^ k) : ℕ) : ℤ) := by
    have hdiv := Nat.div_add_mod (n + (2 ^ k - 1)) (2 ^ k)
    have hadd : ((2 ^ k - 1 : ℕ) : ℤ) + 1 = ((2 ^ k : ℕ) : ℤ) := by omega
    rw [roundUp, hadd, ← Nat.cast_add, ← Int.natCast_emod]
    omega
  rw [hmask, hround, ← Nat.cast_add]
  simp only [int32, BitVec.ofInt_natCast]
  exact and_not_mask _ _

theorem int32_slt {x y : ℤ} (hx : -2 ^ 31 ≤ x ∧ x < 2 ^ 31) (hy : -2 ^ 31 ≤ y ∧ y < 2 ^ 31) :
    (int32 x).slt (int32 y) = true ↔ x < y := by
  rw [BitVec.slt_iff_toInt_lt, toInt_int32 hx.1 hx.2, toInt_int32 hy.1 hy.2]

theorem int32_sle {x y : ℤ} (hx : -2 ^ 31 ≤ x ∧ x < 2 ^ 31) (hy : -2 ^ 31 ≤ y ∧ y < 2 ^ 31) :
    (int32 x).sle (int32 y) = true ↔ x ≤ y := by
  rw [BitVec.sle_iff_toInt_le, toInt_int32 hx.1 hx.2, toInt_int32 hy.1 hy.2]

theorem int32_inj {x y : ℤ} (hx : -2 ^ 31 ≤ x ∧ x < 2 ^ 31) (hy : -2 ^ 31 ≤ y ∧ y < 2 ^ 31) :
    int32 x = int32 y ↔ x = y := by
  rw [← BitVec.toInt_inj, toInt_int32 hx.1 hx.2, toInt_int32 hy.1 hy.2]

/-- A request of one of the lengths that an interface may ask for. -/
structure DevicePrefixAssignment.Request (assign : DevicePrefixAssignment) : Prop where
  length : 48 ≤ assign.length ∧ assign.length ≤ 64
  int32 : -2 ^ 31 ≤ assign.assigned ∧ assign.assigned < 2 ^ 31
  aligned : assign.assigned = -1 ∨ assign.size ∣ assign.assigned

theorem DevicePrefixAssignment.Request.size_le {assign : DevicePrefixAssignment}
    (h : assign.Request) : assign.size ≤ 2 ^ 16 := by
  have hle : 64 - assign.length ≤ 16 := by have := h.length.1; omega
  exact pow_le_pow_right₀ (by norm_num) hle

theorem DevicePrefixAssignment.Request.end_lt {assign : DevicePrefixAssignment}
    (h : assign.Request) : assign.assigned + (assign.size - 1) < 2 ^ 31 := by
  have hsize := h.size_le
  rcases h.aligned with hany | ⟨k, hk⟩
  · omega
  · have hle : 64 - assign.length ≤ 31 := by have := h.length.1; omega
    obtain ⟨j, hj⟩ : assign.size ∣ 2 ^ 31 := pow_dvd_pow 2 hle
    have hpos := size_pos assign
    have hlt : assign.size * k < assign.size * j := by
      rw [← hk, ← hj]
      exact h.int32.2
    have hkj : k < j := lt_of_mul_lt_mul_left hlt hpos.le
    have hend : assign.size * (k + 1) ≤ assign.size * j :=
      mul_le_mul_of_nonneg_left (by omega) hpos.le
    rw [mul_add, mul_one, ← hj, ← hk] at hend
    omega

theorem DevicePrefixAssignment.Request.at {assign : DevicePrefixAssignment} (h : assign.Request)
    {x : ℤ} (hlow : -2 ^ 31 ≤ x) (hhigh : x < 2 ^ 31) (hdvd : assign.size ∣ x) :
    (assign.at x).Request :=
  ⟨h.length, ⟨hlow, hhigh⟩, .inr hdvd⟩

/-- One step of the search, if the search goes on as it should. -/
theorem interfacePrefixAssignInt32From_cons {assign c : DevicePrefixAssignment} (h : assign.Request)
    {current : ℤ} {cs : List DevicePrefixAssignment} (hcurrent : 0 ≤ current)
    (hroom : current + 2 ^ 16 ≤ 2 ^ 31) (hc : -2 ^ 31 ≤ c.assigned ∧ c.assigned < 2 ^ 31)
    (hlater : interfacePrefixAssignInt32From assign (int32 (c.assigned + c.size)) cs =
      ((interfacePrefixAssignFrom assign (c.assigned + c.size) cs).isSome,
        (interfacePrefixAssignFrom assign (c.assigned + c.size) cs).getD cs)) :
    interfacePrefixAssignInt32From assign (int32 current) (c :: cs) =
      ((interfacePrefixAssignFrom assign current (c :: cs)).isSome,
        (interfacePrefixAssignFrom assign current (c :: cs)).getD (c :: cs)) := by
  have hsize := size_pos assign
  have hsize' := h.size_le
  have hhint := h.int32
  have hround := le_roundUp current hsize
  have hround' : roundUp current (assign.size - 1) ≤ current + (assign.size - 1) := by
    have hmod := Int.emod_nonneg (current + (assign.size - 1)) hsize.ne'
    simp only [roundUp, sub_add_cancel]
    omega
  have hnext : int32 c.assigned + shiftedSize c.length = int32 (c.assigned + c.size) := by
    rw [shiftedSize_eq, int32_add]
    rfl
  simp only [interfacePrefixAssignInt32From, interfacePrefixAssignFrom, shiftedSize_sub_one,
    hnext, hlater, int32_add, int32_roundUp assign hcurrent, ne_eq]
  by_cases hany : assign.assigned = -1
  · -- the end of an aligned place stays in the range if its first /64 does
    have hplaced := h.at (x := roundUp current (assign.size - 1)) (by omega) (by omega)
      (dvd_roundUp current assign.size)
    have hend : roundUp current (assign.size - 1) + (assign.size - 1) < 2 ^ 31 := hplaced.end_lt
    have htry : (int32 (roundUp current (assign.size - 1) + (assign.size - 1))).slt
        (int32 c.assigned) = true ↔
        roundUp current (assign.size - 1) + (assign.size - 1) < c.assigned :=
      int32_slt (by omega) hc
    have hplace := toInt_int32 (x := roundUp current (assign.size - 1)) (by omega) (by omega)
    simp only [hany, not_true_eq_false, if_false, htry, hplace]
    split_ifs <;> simp [Option.getD_map]
  · have hend := h.end_lt
    have hhinted : ¬int32 assign.assigned = int32 (-1) := by
      rwa [int32_inj hhint (by omega)]
    have htry : ((int32 current).sle (int32 assign.assigned) = true ∧
        (int32 (assign.assigned + (assign.size - 1))).slt (int32 c.assigned) = true) ↔
        assign.assigned ≥ current ∧ assign.assigned + (assign.size - 1) < c.assigned :=
      and_congr (int32_sle (by omega) hhint) (int32_slt (by omega) hc)
    simp only [hany, hhinted, not_false_eq_true, if_true, htry]
    split_ifs <;> simp [Option.getD_map]

theorem interfacePrefixAssignInt32From_eq {assign : DevicePrefixAssignment} (h : assign.Request)
    {current : ℤ} {list : List DevicePrefixAssignment} (hcurrent : 0 ≤ current)
    (hpacked : PackedFrom current list) (hbound : ∀ c ∈ list, c.assigned < 2 ^ 30) :
    interfacePrefixAssignInt32From assign (int32 current) list =
      ((interfacePrefixAssignFrom assign current list).isSome,
        (interfacePrefixAssignFrom assign current list).getD list) := by
  induction list generalizing current with
  | nil => rfl
  | cons c cs ih =>
    have hc := hbound c List.mem_cons_self
    have hfirst := hpacked.1
    have hsize := size_pos c
    refine interfacePrefixAssignInt32From_cons h hcurrent (by omega) ⟨by omega, by omega⟩ ?_
    exact ih (by omega) hpacked.2 fun d hd => hbound d (List.mem_cons_of_mem c hd)

/-- The entry is in the numbers of a prefix, and a search that goes on behind it has room. -/
structure DevicePrefixAssignment.Roomy (c : DevicePrefixAssignment) : Prop where
  nonneg : 0 ≤ c.assigned
  room : c.assigned + c.size + 2 ^ 16 ≤ 2 ^ 31

theorem interfacePrefixAssignInt32From_eq_of_roomy {assign : DevicePrefixAssignment}
    (h : assign.Request) {current : ℤ} {list : List DevicePrefixAssignment}
    (hcurrent : 0 ≤ current) (hroom : current + 2 ^ 16 ≤ 2 ^ 31) (hlist : ∀ c ∈ list, c.Roomy) :
    interfacePrefixAssignInt32From assign (int32 current) list =
      ((interfacePrefixAssignFrom assign current list).isSome,
        (interfacePrefixAssignFrom assign current list).getD list) := by
  induction list generalizing current with
  | nil => rfl
  | cons c cs ih =>
    obtain ⟨hnonneg, hend⟩ := hlist c List.mem_cons_self
    have hsize := size_pos c
    refine interfacePrefixAssignInt32From_cons h hcurrent hroom ⟨by omega, by omega⟩ ?_
    exact ih (by omega) hend fun d hd => hlist d (List.mem_cons_of_mem c hd)

theorem disjoint_range_iff (a c : DevicePrefixAssignment) :
    Disjoint a.range c.range ↔
      a.assigned + a.size ≤ c.assigned ∨ c.assigned + c.size ≤ a.assigned := by
  have ha := size_pos a
  have hc := size_pos c
  rw [DevicePrefixAssignment.range, DevicePrefixAssignment.range, Set.Ico_disjoint_Ico]
  omega

theorem AssignmentList.packed (l : AssignmentList) : PackedFrom 0 l.list := by
  apply Packed.of_pairwise _ l.nonneg
  apply (l.sorted.and l.disjoint).imp
  rintro a b ⟨hle, hdisjoint⟩
  have hb := size_pos b
  rcases (disjoint_range_iff a b).mp hdisjoint with hbefore | hafter
  · exact hbefore
  · omega

theorem AssignmentList.le_sentinel (l : AssignmentList) {c : DevicePrefixAssignment}
    (hc : c ∈ l.list) : c.assigned ≤ l.sentinel.assigned := by
  rcases List.mem_append.mp hc with hmem | hlast
  · exact (List.pairwise_append.mp l.sorted).2.2 c hmem _ List.mem_cons_self
  · rw [List.mem_singleton.mp hlast]

theorem places_eq (l : AssignmentList) (assign : DevicePrefixAssignment) :
    places l assign = placesFrom assign 0 l.list := by
  have hsize := size_pos assign
  have hinside (x : ℤ) : (assign.at x).range ⊆ Set.Ico 0 l.sentinel.assigned ↔
      0 ≤ x ∧ x + assign.size ≤ l.sentinel.assigned :=
    Set.Ico_subset_Ico_iff (by simpa using hsize)
  have hlast : l.sentinel ∈ l.list := List.mem_append_right _ List.mem_cons_self
  ext x
  simp only [places, placesFrom, Set.mem_ofPred_eq, hinside, disjoint_range_iff, assigned_at,
    size_at]
  constructor
  · rintro ⟨hwanted, ⟨hle, hend⟩, hapart⟩
    refine ⟨hwanted, hle, ⟨l.sentinel, hlast, hend⟩, ?_⟩
    intro c hc
    rcases List.mem_append.mp hc with hmem | hsentinel
    · exact hapart c hmem
    · rw [List.mem_singleton.mp hsentinel]
      exact .inl hend
  · rintro ⟨hwanted, hle, ⟨c, hc, hbefore⟩, hapart⟩
    refine ⟨hwanted, ⟨hle, hbefore.trans (l.le_sentinel hc)⟩, ?_⟩
    intro d hd
    exact hapart d (List.mem_append_left _ hd)

theorem exists_least_place {l : AssignmentList} {assign : DevicePrefixAssignment}
    (h : (places l assign).Nonempty) : ∃ x, IsLeast (places l assign) x := by
  have hbelow : ∀ x ∈ places l assign, 0 ≤ x := by
    intro x hx
    rw [places_eq] at hx
    exact hx.2.1
  obtain ⟨x, hx, hleast⟩ := Int.exists_least_of_bdd ⟨0, hbelow⟩ h
  exact ⟨x, hx, hleast⟩

/-- A request is served just if there is a place for it. It gets the lowest one, which for a
hinted request is the hinted one, and the list gets that entry in its order; otherwise the list
stays as it is. -/
theorem interfacePrefixAssign_exact (l : AssignmentList) {assign : DevicePrefixAssignment}
    (h : assign.Request) :
    ((interfacePrefixAssignInt32 l.list assign).1 = true ↔ (places l assign).Nonempty) ∧
      ((interfacePrefixAssignInt32 l.list assign).1 = true → ∃ x, IsLeast (places l assign) x ∧
        (interfacePrefixAssignInt32 l.list assign).2 = insertInOrder (assign.at x) l.list) ∧
      ((interfacePrefixAssignInt32 l.list assign).1 = false →
        (interfacePrefixAssignInt32 l.list assign).2 = l.list) := by
  have hrun := interfacePrefixAssignInt32From_eq h le_rfl l.packed fun c hc =>
    (l.le_sentinel hc).trans_lt l.bound
  rcases Set.eq_empty_or_nonempty (places l assign) with hnone | hsome
  · have hfails := interfacePrefixAssignFrom_empty l.packed (places_eq l assign ▸ hnone)
    rw [hfails] at hrun
    simp [interfacePrefixAssignInt32, hrun, hnone]
  · obtain ⟨x, hx⟩ := exists_least_place hsome
    have hfinds := interfacePrefixAssignFrom_least l.packed (places_eq l assign ▸ hx)
    rw [hfinds] at hrun
    simp only [interfacePrefixAssignInt32, hrun, Option.isSome_some, Option.getD_some, true_iff,
      forall_const, Bool.true_eq_false, false_implies, and_true]
    exact ⟨hsome, x, hx, rfl⟩

/-- A prefix of sixteen /64 of which the second quarter is in use. -/
def quarterUsed : AssignmentList where
  entries := [{ assigned := 4, length := 62, name := "lan" }]
  sentinel := { assigned := 16, length := 64, name := "" }
  nonneg := by simp
  sorted := by simp
  disjoint := by
    simp [disjoint_range_iff, DevicePrefixAssignment.size]
  bound := by norm_num

/-- An interface that asks for any /61. -/
def guestRequest : DevicePrefixAssignment where
  assigned := -1
  length := 61
  name := "guest"

theorem interfacePrefixAssign_exact_quarter :
    ((interfacePrefixAssignInt32 quarterUsed.list guestRequest).1 = true ↔
      (places quarterUsed guestRequest).Nonempty) ∧
    interfacePrefixAssignInt32 quarterUsed.list guestRequest =
      (true, insertInOrder (guestRequest.at 8) quarterUsed.list) :=
  ⟨(interfacePrefixAssign_exact quarterUsed ⟨by decide, by decide, .inl rfl⟩).1, by decide⟩

end Netifd
