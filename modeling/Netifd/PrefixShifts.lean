import Netifd.AssignmentPasses
import Netifd.Netmask
import Netifd.PrefixSlots
import Netifd.PrefixSubnets

/-!
# The shifts of prefix assignment

`1 << (64 - length)` is taken of the length of a prefix, of every request, of every entry that
the search passes, and in `interface_alloc` of the length that goes with a hint. These lengths
come from three parsers, which have ranges of their own.
-/

namespace Netifd.PrefixShifts
open IntervalPacking AssignmentRefresh

/-- `strtol(s, NULL, 16)`. -/
def strtol16 (s : List Char) : ℤ :=
  let (negative, body) := readSign (s.dropWhile isspace)
  let digits := match body with
    | '0' :: x :: d :: rest =>
      if (x == 'x' || x == 'X') && isDigitOf 16 d then d :: rest else body
    | _ => body
  let n := (readDigits 16 digits).1
  if negative then max (-n) (-2 ^ 63) else min n (2 ^ 63 - 1)

/-- What `interface_alloc` calls, with any names of routing tables and any protocols. -/
def allocEnv (resolveRtTable : String → Option ℕ) (handlers : String → Option ProtoHandler) :
    ConfigEnv where
  inetPton v6 s := inetPton v6 s.toList
  strtol16 s := strtol16 s.toList
  resolveRtTable
  handlers

/-- The amount in `1 << (64 - length)`. -/
def shiftAmount (length : ℕ) : ℤ := 64 - length

/-- `interface_prefix_assign` puts the request in front of `c`. -/
def fitsBefore (assign : DevicePrefixAssignment) (current : BitVec 32)
    (c : DevicePrefixAssignment) : Bool :=
  let asize := shiftedSize assign.length - 1#32
  if int32 assign.assigned ≠ int32 (-1) then
    current.sle (int32 assign.assigned) && (int32 assign.assigned + asize).slt (int32 c.assigned)
  else (((current + asize) &&& ~~~asize) + asize).slt (int32 c.assigned)

/-- The shifts for the entries that the loop of `interface_prefix_assign` passes. -/
def passedShifts (assign : DevicePrefixAssignment) :
    BitVec 32 → List DevicePrefixAssignment → List ℤ
  | _, [] => []
  | current, c :: cs =>
    if fitsBefore assign current c then []
    else shiftAmount c.length ::
      passedShifts assign (int32 c.assigned + shiftedSize c.length) cs

/-- The shifts in a call of `interface_prefix_assign`. -/
def assignShifts (list : List DevicePrefixAssignment) (assign : DevicePrefixAssignment) : List ℤ :=
  shiftAmount assign.length :: passedShifts assign (int32 0) list

/-- `interface_prefix_assign`: the list with the new entry, if it returns true. -/
def assignInt32 (list : List DevicePrefixAssignment) (assign : DevicePrefixAssignment) :
    Option (List DevicePrefixAssignment) :=
  let (assigned, list) := interfacePrefixAssignInt32 list assign
  if assigned then some list else none

/-- The end-of-assignment sentinel, in machine numbers. -/
def sentinelInt32 (p : DevicePrefix) : DevicePrefixAssignment where
  assigned := (shiftedSize p.length).toInt
  length := 64
  name := ""

/-- The entry of the excluded prefix, in machine numbers. -/
def excludedInt32 (p : DevicePrefix) : List DevicePrefixAssignment :=
  if p.exclLength > 0 then
    [{ assigned := (BitVec.ofNat 32 p.exclAddr &&& (shiftedSize p.length - 1#32)).toInt
       length := p.exclLength
       name := "!excluded" }]
  else []

/-- The list that `interface_update_prefix_assignments` makes. -/
def updateInt32 (interfaces : InterfaceTable) (p : DevicePrefix) : List DevicePrefixAssignment :=
  assignAllBy assignInt32 p interfaces.elements (excludedInt32 p ++ [sentinelInt32 p])

/-- The shifts in `interface_update_prefix_assignments`. -/
def updateShifts (interfaces : InterfaceTable) (p : DevicePrefix) : List ℤ :=
  shiftAmount p.length :: (if p.exclLength > 0 then [shiftAmount p.length] else []) ++
    (assignCallsBy assignInt32 p interfaces.elements
      (excludedInt32 p ++ [sentinelInt32 p])).flatMap fun call => assignShifts call.1 call.2

/-- The shifts in `interface_alloc`. -/
def allocShifts (env : ConfigEnv) (name : String) (config : Blob) : List ℤ :=
  if (config.getString "ip6hint").isSome then
    [shiftAmount (interfaceAlloc env name config).assignmentLength]
  else []

/-- A prefix that one of the parsers accepts. -/
structure Delegation where
  uplink : Option String := none
  option : PrefixOption
  accepted : option.Accepted

/-- The object that is made of it. -/
def Delegation.object (d : Delegation) : DevicePrefix :=
  interfaceIpAddDevicePrefix d.uplink d.option

/-- Interfaces that `interface_alloc` has made. -/
structure ConfiguredTable (env : ConfigEnv) extends InterfaceTable where
  configured : ∀ iface ∈ elements, ∃ name config,
    iface = (interfaceAlloc env name config).toAssignedInterface

/-- The result of the shift is a positive `int`. -/
def InRange (n : ℤ) : Prop := 0 ≤ n ∧ n ≤ 30

instance (n : ℤ) : Decidable (InRange n) := inferInstanceAs (Decidable (_ ∧ _))

/-- The entry lies in the prefix. -/
def Inside (p : DevicePrefix) (a : DevicePrefixAssignment) : Prop :=
  0 ≤ a.assigned ∧ a.assigned + a.size ≤ 2 ^ (64 - p.length)

/-- All shifts are in the range, the sentinel is at the end of the prefix, and an interface that
the prefix suits has a part of it or there is no free /64. -/
structure ArithmeticOk (interfaces : InterfaceTable) (p : DevicePrefix) : Prop where
  shifts : ∀ n ∈ updateShifts interfaces p, InRange n
  sentinel : (sentinelInt32 p).assigned = 2 ^ (64 - p.length)
  served : ∀ iface ∈ interfaces.elements, eligible p iface = true →
    HasEntry (Inside p) (updateInt32 interfaces p) iface.name ∨
      TakenBy p (updateInt32 interfaces p)

/-- Every entry is of a length that may be shifted by, begins in the prefix and has room. -/
def Bounded (p : DevicePrefix) (l : List DevicePrefixAssignment) : Prop :=
  ∀ c ∈ l, (34 ≤ c.length ∧ c.length ≤ 64) ∧ c.Roomy ∧ c.assigned ≤ 2 ^ (64 - p.length)

theorem inRange_shiftAmount {length : ℕ} (h34 : 34 ≤ length) (h64 : length ≤ 64) :
    InRange (shiftAmount length) := by
  unfold InRange shiftAmount
  omega

theorem le_of_inRange {length : ℕ} (h : InRange (shiftAmount length)) :
    34 ≤ length ∧ length ≤ 64 := by
  unfold InRange shiftAmount at h
  omega

theorem assignInt32_eq {l : List DevicePrefixAssignment} {c : DevicePrefixAssignment}
    (hc : c.Request) (hl : ∀ a ∈ l, a.Roomy) : assignInt32 l c = interfacePrefixAssign l c := by
  have hrun := interfacePrefixAssignInt32From_eq_of_roomy hc le_rfl (by norm_num) hl
  rw [assignInt32, interfacePrefixAssignInt32, hrun, interfacePrefixAssign]
  cases interfacePrefixAssignFrom c 0 l <;> rfl

theorem interfacePrefixAssignFrom_inside {assign : DevicePrefixAssignment} {current bound : ℤ}
    {l l' : List DevicePrefixAssignment} (hcurrent : 0 ≤ current)
    (hl : ∀ c ∈ l, 0 ≤ c.assigned ∧ c.assigned ≤ bound)
    (h : interfacePrefixAssignFrom assign current l = some l') :
    ∃ x, (0 ≤ x ∧ x + assign.size ≤ bound) ∧ InsertedInto (assign.at x) l l' := by
  induction l generalizing current l' with
  | nil => cases h
  | cons c cs ih =>
    obtain ⟨hnonneg, hle⟩ := hl c List.mem_cons_self
    rw [interfacePrefixAssignFrom_cons] at h
    split_ifs at h with htry
    · cases h
      exact ⟨_, ⟨hcurrent.trans htry.1, htry.2.trans hle⟩, .head _ c cs⟩
    · obtain ⟨cs', hcs, rfl⟩ := Option.map_eq_some_iff.mp h
      have hsize := size_pos c
      obtain ⟨x, hx, hinserted⟩ :=
        ih (by omega) (fun d hd => hl d (List.mem_cons_of_mem c hd)) hcs
      exact ⟨x, hx, hinserted.tail c⟩

theorem two_pow_le {length : ℕ} (h34 : 34 ≤ length) : (2 : ℤ) ^ (64 - length) ≤ 2 ^ 30 :=
  pow_le_pow_right₀ (by norm_num) (by omega)

theorem Bounded.insert {p : DevicePrefix} (h34 : 34 ≤ p.length) {l l' : List DevicePrefixAssignment}
    (hl : Bounded p l) {a : DevicePrefixAssignment} (hlength : 48 ≤ a.length ∧ a.length ≤ 64)
    (ha : Inside p a) (h : InsertedInto a l l') : Bounded p l' := by
  obtain ⟨before, c, after, rfl, rfl⟩ := h.place
  have hbound := two_pow_le h34
  have hsize := size_pos a
  obtain ⟨hnonneg, hend⟩ := ha
  intro b hb
  rcases List.mem_append.mp hb with hb | hb
  · exact hl b (List.mem_append_left _ hb)
  · rcases List.mem_cons.mp hb with rfl | hb
    · exact ⟨by omega, ⟨hnonneg, by omega⟩, by omega⟩
    · exact hl b (List.mem_append_right _ hb)

theorem search_assignInt32 {p : DevicePrefix} (h34 : 34 ≤ p.length) :
    Search assignInt32 (Bounded p) DevicePrefixAssignment.Request (Inside p) where
  inserts {l l' c} hl hc hassign := by
    rw [assignInt32_eq hc fun a ha => (hl a ha).2.1] at hassign
    obtain ⟨x, hx, hinserted⟩ := interfacePrefixAssignFrom_inside le_rfl
      (fun a ha => ⟨(hl a ha).2.1.nonneg, (hl a ha).2.2⟩) hassign
    exact ⟨hl.insert h34 (a := c.at x) hc.length hx hinserted, x, hx, hinserted⟩
  gapless {l c} hl hc hlength hany hassign := by
    rw [assignInt32_eq hc fun a ha => (hl a ha).2.1] at hassign
    exact interfacePrefixAssignFrom_none hlength hany hassign
  anywhere hc := ⟨hc.length, by norm_num, .inl rfl⟩
  smaller hc hany h64 := ⟨⟨Nat.le_succ_of_le hc.length.1, h64⟩, hc.int32, .inl hany⟩

theorem passedShifts_mem {assign : DevicePrefixAssignment} {current : BitVec 32}
    {l : List DevicePrefixAssignment} {n : ℤ} (h : n ∈ passedShifts assign current l) :
    ∃ c ∈ l, n = shiftAmount c.length := by
  induction l generalizing current with
  | nil => cases h
  | cons c cs ih =>
    rw [passedShifts] at h
    split_ifs at h
    · cases h
    · rcases List.mem_cons.mp h with rfl | h
      · exact ⟨c, List.mem_cons_self, rfl⟩
      · obtain ⟨d, hd, hn⟩ := ih h
        exact ⟨d, List.mem_cons_of_mem c hd, hn⟩

theorem assignShifts_inRange {p : DevicePrefix} {l : List DevicePrefixAssignment}
    {c : DevicePrefixAssignment} (hl : Bounded p l) (hc : c.Request) :
    ∀ n ∈ assignShifts l c, InRange n := by
  intro n hn
  rcases List.mem_cons.mp hn with rfl | hn
  · exact inRange_shiftAmount (by have := hc.length.1; omega) hc.length.2
  · obtain ⟨d, hd, rfl⟩ := passedShifts_mem hn
    exact inRange_shiftAmount (hl d hd).1.1 (hl d hd).1.2

theorem toInt32_range (n : ℤ) : -2 ^ 31 ≤ toInt32 n ∧ toInt32 n < 2 ^ 31 := by
  have hlow : -2 ^ 31 ≤ Int.bmod n (2 ^ 32) := Int.le_bmod (by norm_num)
  have hhigh : Int.bmod n (2 ^ 32) < 2 ^ 31 := Int.bmod_lt (by norm_num)
  exact ⟨hlow, hhigh⟩

theorem hintOf_range (env : ConfigEnv) (length : ℕ) (hint : Option String) :
    -2 ^ 31 ≤ hintOf env length hint ∧ hintOf env length hint < 2 ^ 31 := by
  cases hint with
  | none => norm_num [hintOf]
  | some str => exact toInt32_range _

theorem interfaceAlloc_hinted (env : ConfigEnv) (name : String) (config : Blob) :
    (interfaceAlloc env name config).toAssignedInterface.Hinted where
  int32 := hintOf_range env _ _
  aligned hlength _ := hintOf_aligned env hlength _

theorem ConfiguredTable.hinted {env : ConfigEnv} (t : ConfiguredTable env) :
    t.toInterfaceTable.Hinted := by
  intro iface hiface
  obtain ⟨name, config, rfl⟩ := t.configured iface hiface
  exact interfaceAlloc_hinted env name config

end Netifd.PrefixShifts

namespace Netifd
open PrefixShifts

theorem AssignedInterface.Hinted.request {iface : AssignedInterface} (h : iface.Hinted)
    {p : DevicePrefix} (helig : eligible p iface = true) : (request iface).Request := by
  obtain ⟨hlower, hupper⟩ := eligible_length helig
  exact ⟨⟨hlower, hupper⟩, h.int32, h.aligned hlower hupper⟩

end Netifd

namespace Netifd.PrefixShifts
open IntervalPacking AssignmentRefresh

theorem Delegation.length_le (d : Delegation) : d.object.length ≤ 64 := d.accepted.length_le

theorem Delegation.exclAddr_lt (d : Delegation) : d.object.exclAddr < 2 ^ 32 :=
  Nat.mod_lt _ (Nat.two_pow_pos 32)

theorem sentinelInt32_eq {p : DevicePrefix} (h34 : 34 ≤ p.length) :
    sentinelInt32 p = sentinel p := by
  have hbound := two_pow_le h34
  have hpos : (0 : ℤ) < 2 ^ (64 - p.length) := by positivity
  rw [sentinelInt32, sentinel, shiftedSize_eq, toInt_int32 (by omega) (by omega)]

theorem excluded_toInt {p : DevicePrefix} (h34 : 34 ≤ p.length) (hlt : p.exclAddr < 2 ^ 32) :
    (BitVec.ofNat 32 p.exclAddr &&& (shiftedSize p.length - 1#32)).toInt =
      ((p.exclAddr &&& (2 ^ (64 - p.length) - 1) : ℕ) : ℤ) := by
  have hpow : 2 ^ (64 - p.length) ≤ 2 ^ 30 := Nat.pow_le_pow_right (by decide) (by omega)
  have hpos := Nat.two_pow_pos (64 - p.length)
  have hmask : shiftedSize p.length - 1#32 = BitVec.ofNat 32 (2 ^ (64 - p.length) - 1) := by
    have hcast : ((2 : ℤ) ^ (64 - p.length) - 1) = ((2 ^ (64 - p.length) - 1 : ℕ) : ℤ) := by
      push_cast [Nat.one_le_two_pow]
      rfl
    rw [shiftedSize_sub_one { assigned := 0, length := p.length, name := "" }, int32]
    change BitVec.ofInt 32 ((2 : ℤ) ^ (64 - p.length) - 1) = _
    rw [hcast, BitVec.ofInt_natCast]
  have hand : (p.exclAddr &&& (2 ^ (64 - p.length) - 1)) ≤ 2 ^ (64 - p.length) - 1 :=
    Nat.and_le_right
  have htoNat : (BitVec.ofNat 32 p.exclAddr &&& (shiftedSize p.length - 1#32)).toNat =
      p.exclAddr &&& (2 ^ (64 - p.length) - 1) := by
    rw [hmask, BitVec.toNat_and, BitVec.toNat_ofNat, BitVec.toNat_ofNat, Nat.mod_eq_of_lt hlt,
      Nat.mod_eq_of_lt (by omega)]
  rw [BitVec.toInt_eq_toNat_of_lt (by omega), htoNat]

theorem excludedInt32_eq {p : DevicePrefix} (h34 : 34 ≤ p.length) (hlt : p.exclAddr < 2 ^ 32) :
    excludedInt32 p = excluded p := by
  rw [excludedInt32, excluded, excluded_toInt h34 hlt]

theorem bounded_start {p : DevicePrefix} (h34 : 34 ≤ p.length)
    (hshifts : p.ShiftsDefined) : Bounded p (excluded p ++ [sentinel p]) := by
  have hbound := two_pow_le h34
  have hpos : (0 : ℤ) < 2 ^ (64 - p.length) := by positivity
  intro c hc
  rcases List.mem_append.mp hc with hc | hc
  · unfold excluded at hc
    split_ifs at hc with hexcl
    · obtain ⟨h34', h64', hroom⟩ := hshifts.resolve_left hexcl.ne'
      rw [List.mem_singleton.mp hc]
      have hle : p.exclAddr &&& (2 ^ (64 - p.length) - 1) ≤ 2 ^ (64 - p.length) :=
        Nat.and_le_right.trans (Nat.sub_le _ _)
      refine ⟨⟨h34', h64'⟩, ⟨Int.natCast_nonneg _, ?_⟩, ?_⟩
      · simp only [DevicePrefixAssignment.size]
        exact_mod_cast hroom
      · exact (Int.ofNat_le.mpr hle).trans_eq (by push_cast; rfl)
    · cases hc
  · rw [List.mem_singleton.mp hc]
    have hsize : (sentinel p).size = 1 := rfl
    refine ⟨⟨Nat.le_add_left 34 30, le_rfl⟩, ⟨hpos.le, ?_⟩, le_rfl⟩
    rw [hsize]
    change (2 : ℤ) ^ (64 - p.length) + 1 + 2 ^ 16 ≤ 2 ^ 31
    omega

/-- The prefix has a length that can be cut up, and what is excluded from it leaves the shifts
and the sums of the search in the range of `int`. -/
structure Defined (p : DevicePrefix) : Prop where
  lower : 34 ≤ p.length
  upper : p.length ≤ 64
  excl : p.exclAddr < 2 ^ 32
  shifts : p.ShiftsDefined

theorem Defined.start_eq {p : DevicePrefix} (hp : Defined p) :
    excludedInt32 p ++ [sentinelInt32 p] = excluded p ++ [sentinel p] := by
  rw [excludedInt32_eq hp.lower hp.excl, sentinelInt32_eq hp.lower]

theorem Defined.inRange {p : DevicePrefix} (hp : Defined p) {t : InterfaceTable}
    (ht : t.Hinted) : ∀ n ∈ updateShifts t p, InRange n := by
  intro n hn
  rw [updateShifts, hp.start_eq] at hn
  have hprefix := inRange_shiftAmount hp.lower hp.upper
  rcases List.mem_cons.mp hn with rfl | hn
  · exact hprefix
  · rcases List.mem_append.mp hn with hn | hn
    · split_ifs at hn
      · rw [List.mem_singleton.mp hn]
        exact hprefix
      · cases hn
    · obtain ⟨call, hcall, hn⟩ := List.mem_flatMap.mp hn
      obtain ⟨hl, hc⟩ := (search_assignInt32 hp.lower).calls t (bounded_start hp.lower hp.shifts)
        ⟨_, rfl⟩ (fun iface hiface helig => (ht iface hiface).request helig) call hcall
      exact assignShifts_inRange hl hc n hn

theorem Defined.serves {p : DevicePrefix} (hp : Defined p) {t : InterfaceTable} (ht : t.Hinted)
    {iface : AssignedInterface} (hiface : iface ∈ t.elements) (helig : eligible p iface = true) :
    HasEntry (Inside p) (updateInt32 t p) iface.name ∨ TakenBy p (updateInt32 t p) := by
  rw [updateInt32, hp.start_eq]
  exact ((search_assignInt32 hp.lower).serves t (bounded_start hp.lower hp.shifts) ⟨_, rfl⟩
    fun i hi hsuits => (ht i hi).request hsuits).2 iface hiface helig

theorem Defined.updateInt32_eq {p : DevicePrefix} (hp : Defined p) {t : InterfaceTable}
    (ht : t.Hinted) :
    updateInt32 t p = (interfaceUpdatePrefixAssignments t p true).assignments := by
  have hsame : ∀ {l : List DevicePrefixAssignment} {c : DevicePrefixAssignment}, Bounded p l →
      c.Request → assignInt32 l c = interfacePrefixAssign l c :=
    fun hl hc => assignInt32_eq hc fun a ha => (hl a ha).2.1
  rw [updateInt32, hp.start_eq, assignments_eq]
  exact (search_assignInt32 hp.lower).assignAll_congr hsame t (bounded_start hp.lower hp.shifts)
    ⟨_, rfl⟩ fun i hi hsuits => (ht i hi).request hsuits

theorem arithmeticOk_of_shiftsDefined {env : ConfigEnv} (d : Delegation) (t : ConfiguredTable env)
    (h34 : 34 ≤ d.object.length) (hshifts : d.object.ShiftsDefined) :
    ArithmeticOk t.toInterfaceTable d.object := by
  have hp : Defined d.object := ⟨h34, d.length_le, d.exclAddr_lt, hshifts⟩
  refine ⟨hp.inRange t.hinted, ?_, fun iface hiface helig => hp.serves t.hinted hiface helig⟩
  rw [sentinelInt32_eq h34]
  rfl

/-- A configuration in which only the assignment length and perhaps a hint are set. -/
def assignConfig (length : ℕ) (hint : Option String) : Blob
  | "ip6assign" => some (.int32 length)
  | "ip6hint" => hint.map .string
  | _ => none

theorem interfaceAlloc_assignConfig (env : ConfigEnv) (name : String) (length : ℕ)
    (hint : Option String) :
    (interfaceAlloc env name (assignConfig length hint)).toAssignedInterface =
      { name, assignmentLength := length % 2 ^ 8
        assignmentHint := hintOf env (length % 2 ^ 8) hint } := by
  have hstring : (assignConfig length hint).getString "ip6hint" = hint := by
    cases hint <;> rfl
  have harray : (assignConfig length hint).getArray "ip6class" = none := rfl
  have hweight : (assignConfig length hint).getU32 "ip6weight" = none := rfl
  have hlength : (assignConfig length hint).getU32 "ip6assign" = some length := rfl
  rw [interfaceAlloc, hstring, harray, hweight, hlength]
  rfl

section Tables

variable (resolveRtTable : String → Option ℕ) (handlers : String → Option ProtoHandler)

theorem hintOf_negative : hintOf (allocEnv resolveRtTable handlers) 64 (some "-2") = -2 := by
  have hread : strtol16 "-2".toList = -2 := by decide
  have hint : hintOf (allocEnv resolveRtTable handlers) 64 (some "-2") =
      toInt32 (strtol16 "-2".toList - strtol16 "-2".toList % 2 ^ 0) := rfl
  rw [hint, hread]
  decide

/-- An interface whose hint is in front of every prefix. -/
def negativeHint : ConfiguredTable (allocEnv resolveRtTable handlers) where
  elements := [(interfaceAlloc (allocEnv resolveRtTable handlers) "lan"
    (assignConfig 64 (some "-2"))).toAssignedInterface]
  sorted := List.pairwise_singleton _ _
  configured := by
    intro iface hiface
    exact ⟨"lan", assignConfig 64 (some "-2"), List.mem_singleton.mp hiface⟩

theorem fitsBefore_negative (name : String) (c : DevicePrefixAssignment) :
    fitsBefore { assigned := -2, length := 64, name } (int32 0) c = false := by
  have hhinted : int32 (-2) ≠ int32 (-1) := by decide
  have hbefore : (int32 0).sle (int32 (-2)) = false := by decide
  rw [fitsBefore]
  simp only [hhinted, hbefore, ne_eq, not_false_eq_true, if_true, Bool.false_and]

theorem exclLength_le_of_inRange {p : DevicePrefix} (hexcl : 0 < p.exclLength)
    (h : ∀ n ∈ updateShifts (negativeHint resolveRtTable handlers).toInterfaceTable p, InRange n) :
    34 ≤ p.exclLength ∧ p.exclLength ≤ 64 := by
  refine le_of_inRange (h _ ?_)
  have hiface : (negativeHint resolveRtTable handlers).elements =
      [{ name := "lan", assignmentLength := 64, assignmentHint := -2 }] := by
    change [_] = [_]
    rw [interfaceAlloc_assignConfig]
    simp only [Nat.reducePow, Nat.reduceMod, hintOf_negative]
  rw [updateShifts, hiface]
  refine List.mem_append_right _ (List.mem_flatMap.mpr ?_)
  refine ⟨(excludedInt32 p ++ [sentinelInt32 p],
    { assigned := -2, length := 64, name := "lan" }), ?_, ?_⟩
  · exact List.mem_append_left _ (by simp [firstCalls, hintedCalls, eligible, request])
  · rw [excludedInt32, if_pos hexcl]
    refine List.mem_cons_of_mem _ ?_
    rw [List.singleton_append, passedShifts, fitsBefore_negative]
    exact List.mem_cons_self


def crowdName (n : ℕ) : String := String.ofList (List.replicate (n + 1) 'a')

theorem replicate_lt {m n : ℕ} (h : m < n) :
    List.replicate m 'a' < List.replicate n 'a' := by
  induction n generalizing m with
  | zero => omega
  | succ n ih =>
    cases m with
    | zero => exact List.nil_lt_cons _ _
    | succ m => exact List.Lex.cons (ih (by omega))

theorem crowdName_lt {m n : ℕ} (h : m < n) : crowdName m < crowdName n := by
  rw [String.lt_iff_toList_lt, crowdName, crowdName, String.toList_ofList, String.toList_ofList]
  exact replicate_lt (by omega)

/-- Interfaces that ask for any /48. -/
def crowd (n : ℕ) : ConfiguredTable (allocEnv resolveRtTable handlers) where
  elements := (List.range n).map fun i => { name := crowdName i, assignmentLength := 48 }
  sorted := by
    rw [List.pairwise_map]
    exact List.pairwise_lt_range.imp fun hlt => crowdName_lt hlt
  configured := by
    intro iface hiface
    obtain ⟨i, -, rfl⟩ := List.mem_map.mp hiface
    refine ⟨crowdName i, assignConfig 48 none, ?_⟩
    rw [interfaceAlloc_assignConfig]
    rfl

end Tables

/-- The request of such an interface. -/
structure Plain (c : DevicePrefixAssignment) : Prop where
  any : c.assigned = -1
  length : c.length = 48

theorem Plain.size {c : DevicePrefixAssignment} (h : Plain c) : c.size = 2 ^ 16 := by
  rw [DevicePrefixAssignment.size, h.length]

theorem Plain.assign_cons {c : DevicePrefixAssignment} (hc : Plain c) {x : ℤ} (hx : 0 ≤ x)
    (d : DevicePrefixAssignment) (ds : List DevicePrefixAssignment) :
    interfacePrefixAssignInt32From c (int32 x) (d :: ds) =
      let y := roundUp x (2 ^ 16 - 1)
      let later := interfacePrefixAssignInt32From c (int32 (d.assigned + d.size)) ds
      if (int32 (y + (2 ^ 16 - 1))).slt (int32 d.assigned) then
        (true, c.at (int32 y).toInt :: d :: ds)
      else (later.1, d :: later.2) := by
  have hnext : int32 d.assigned + shiftedSize d.length = int32 (d.assigned + d.size) := by
    rw [shiftedSize_eq, int32_add]
    rfl
  have hround := int32_roundUp c hx
  rw [hc.size] at hround
  simp only [interfacePrefixAssignInt32From, shiftedSize_sub_one, hnext, hc.any, hc.size,
    int32_add, hround, ne_eq, not_true_eq_false, if_false]
  rfl

/-- The requests at one place after the other. -/
def filled : ℕ → List DevicePrefixAssignment → List DevicePrefixAssignment
  | _, [] => []
  | k, c :: cs => c.at (2 ^ 16 * k) :: filled (k + 1) cs

theorem filled_append (k : ℕ) (cs ds : List DevicePrefixAssignment) :
    filled k (cs ++ ds) = filled k cs ++ filled (k + cs.length) ds := by
  induction cs generalizing k with
  | nil => rfl
  | cons c cs ih =>
    rw [List.cons_append, filled, filled, ih, List.length_cons, List.cons_append]
    congr 3
    omega

theorem mem_filled {k : ℕ} {cs : List DevicePrefixAssignment} {a : DevicePrefixAssignment}
    (h : a ∈ filled k cs) : ∃ c ∈ cs, ∃ i, i < k + cs.length ∧ a = c.at (2 ^ 16 * i) := by
  induction cs generalizing k with
  | nil => cases h
  | cons c cs ih =>
    rcases List.mem_cons.mp h with rfl | h
    · exact ⟨c, List.mem_cons_self, k, by simp, rfl⟩
    · obtain ⟨d, hd, i, hi, rfl⟩ := ih h
      exact ⟨d, List.mem_cons_of_mem c hd, i, by rw [List.length_cons]; omega, rfl⟩

theorem roundUp_block (k : ℕ) : roundUp (2 ^ 16 * k) (2 ^ 16 - 1) = 2 ^ 16 * k := by
  rw [roundUp]
  omega

theorem Plain.assign_filled {c : DevicePrefixAssignment} (hc : Plain c) {k : ℕ}
    {cs : List DevicePrefixAssignment} (rest : List DevicePrefixAssignment)
    (hcs : ∀ d ∈ cs, Plain d)
    (hroom : k + cs.length < 2 ^ 15) :
    interfacePrefixAssignInt32From c (int32 (2 ^ 16 * k)) (filled k cs ++ rest) =
      let later := interfacePrefixAssignInt32From c (int32 (2 ^ 16 * (k + cs.length : ℕ))) rest
      (later.1, filled k cs ++ later.2) := by
  induction cs generalizing k with
  | nil => rfl
  | cons d cs ih =>
    rw [List.length_cons] at hroom
    have htry : (int32 (2 ^ 16 * k + (2 ^ 16 - 1))).slt (int32 (2 ^ 16 * k)) = false := by
      rw [Bool.eq_false_iff, ne_eq, int32_slt (by omega) (by omega)]
      omega
    have hnext : (2 ^ 16 * k : ℤ) + 2 ^ 16 = 2 ^ 16 * (k + 1 : ℕ) := by
      push_cast
      ring
    have hlater := ih (k := k + 1) (fun e he => hcs e (List.mem_cons_of_mem d he)) (by omega)
    have hsize := (hcs d List.mem_cons_self).size
    have hcount : k + 1 + cs.length = k + (cs.length + 1) := by omega
    rw [hcount] at hlater
    rw [filled, List.cons_append, hc.assign_cons (by positivity), roundUp_block]
    dsimp only
    rw [assigned_at, size_at, htry, hsize, hnext, hlater]
    rfl

/-- The number of blocks that are filled before the search goes behind the excluded prefix. -/
def crowdSize : ℕ := 2 ^ 14 - 1

section Filling

variable {c e : DevicePrefixAssignment} {cs : List DevicePrefixAssignment}

theorem assignInt32_of_run {l l' : List DevicePrefixAssignment}
    (h : interfacePrefixAssignInt32From c (int32 0) l = (true, l')) :
    assignInt32 l c = some l' := by
  rw [assignInt32, interfacePrefixAssignInt32, h]
  rfl

theorem Plain.fill (hc : Plain c) (hcs : ∀ d ∈ cs, Plain d) (hcount : cs.length < crowdSize)
    (hlow : 2 ^ 30 - 2 ^ 16 < e.assigned) (hhigh : e.assigned < 2 ^ 30)
    (rest : List DevicePrefixAssignment) :
    assignInt32 (filled 0 cs ++ e :: rest) c = some (filled 0 (cs ++ [c]) ++ e :: rest) := by
  unfold crowdSize at hcount
  have htry : (int32 (2 ^ 16 * (cs.length : ℕ) + (2 ^ 16 - 1))).slt (int32 e.assigned) = true := by
    rw [int32_slt (by omega) (by omega)]
    omega
  have hplace : (int32 (2 ^ 16 * (cs.length : ℕ))).toInt = 2 ^ 16 * (cs.length : ℕ) :=
    toInt_int32 (by omega) (by omega)
  have hpass := hc.assign_filled (k := 0) (e :: rest) hcs (by omega)
  rw [Nat.zero_add, hc.assign_cons (by positivity), roundUp_block] at hpass
  dsimp only at hpass
  rw [htry, if_pos rfl, hplace] at hpass
  apply assignInt32_of_run
  rw [filled_append, Nat.zero_add, List.append_assoc]
  exact hpass

theorem Plain.overflow (hc : Plain c) (hcs : ∀ d ∈ cs, Plain d) (hcount : cs.length = crowdSize)
    (hlow : 2 ^ 30 - 2 ^ 16 < e.assigned) (hhigh : e.assigned < 2 ^ 30) (hsize : e.size = 2 ^ 30)
    {s : DevicePrefixAssignment} (hs : s.assigned = 2 ^ 30) :
    assignInt32 (filled 0 cs ++ [e, s]) c = some (filled 0 cs ++ [e, c.at (-2 ^ 31), s]) := by
  have hblocks : (2 ^ 16 * (cs.length : ℕ) : ℤ) = 2 ^ 30 - 2 ^ 16 := by
    rw [hcount]
    rfl
  have htry : (int32 (2 ^ 30 - 2 ^ 16 + (2 ^ 16 - 1))).slt (int32 e.assigned) = false := by
    rw [Bool.eq_false_iff, ne_eq, int32_slt (by omega) (by omega)]
    omega
  have hround : roundUp (2 ^ 30 - 2 ^ 16) (2 ^ 16 - 1) = 2 ^ 30 - 2 ^ 16 := by decide
  -- the sum is in the first block behind the range of `int`
  have hbehind : roundUp (e.assigned + 2 ^ 30) (2 ^ 16 - 1) = 2 ^ 31 := by
    rw [roundUp]
    omega
  have htry' : (int32 (2 ^ 31 + (2 ^ 16 - 1))).slt (int32 (2 ^ 30)) = true := by decide
  have hplace : (int32 (2 ^ 31)).toInt = -2 ^ 31 := by decide
  have hlength : cs.length < 2 ^ 15 := by
    rw [hcount]
    decide
  have hpass := hc.assign_filled (k := 0) [e, s] hcs (by omega)
  rw [Nat.zero_add, hblocks, hc.assign_cons (by norm_num), hround] at hpass
  dsimp only at hpass
  rw [htry, hsize, hc.assign_cons (by omega), hbehind, hs] at hpass
  dsimp only at hpass
  rw [htry', if_pos rfl, hplace] at hpass
  exact assignInt32_of_run hpass

theorem assignShrinkingBy_of_assign {l l' : List DevicePrefixAssignment}
    (h : assignInt32 l c = some l') : assignShrinkingBy assignInt32 l c = l' := by
  rw [assignShrinkingBy, h]

theorem foldl_fill {later : List DevicePrefixAssignment} (hcs : ∀ d ∈ cs, Plain d)
    (hlater : ∀ d ∈ later, Plain d) (hcount : cs.length + later.length ≤ crowdSize)
    (hlow : 2 ^ 30 - 2 ^ 16 < e.assigned) (hhigh : e.assigned < 2 ^ 30)
    (rest : List DevicePrefixAssignment) :
    later.foldl (assignShrinkingBy assignInt32) (filled 0 cs ++ e :: rest) =
      filled 0 (cs ++ later) ++ e :: rest := by
  induction later generalizing cs with
  | nil => rw [List.append_nil, List.foldl_nil]
  | cons c later ih =>
    rw [List.length_cons] at hcount
    have hc := hlater c List.mem_cons_self
    have hstep := assignShrinkingBy_of_assign (hc.fill hcs (by omega) hlow hhigh rest)
    have hcs' : ∀ d ∈ cs ++ [c], Plain d := by
      intro d hd
      rcases List.mem_append.mp hd with hd | hd
      · exact hcs d hd
      · rwa [List.mem_singleton.mp hd]
    have hrest := ih hcs' (fun d hd => hlater d (List.mem_cons_of_mem c hd)) (by
      rw [List.length_append, List.length_singleton]
      omega)
    rw [List.foldl_cons, hstep, hrest, List.append_assoc, List.singleton_append]

end Filling

theorem foldl_unhinted (assign : List DevicePrefixAssignment → DevicePrefixAssignment →
    Option (List DevicePrefixAssignment)) {p : DevicePrefix} {ifaces : List AssignedInterface}
    (l later : List DevicePrefixAssignment)
    (hifaces : ∀ iface ∈ ifaces, eligible p iface = true ∧ iface.assignmentHint = -1)
    (hnames : (later.map (·.name) ++ ifaces.map (·.name)).Nodup) :
    ∃ later', ifaces.foldl (assignHintedBy assign p) (l, later) = (l, later') ∧
      later'.Perm (later ++ ifaces.map request) := by
  induction ifaces generalizing later with
  | nil => exact ⟨later, rfl, by rw [List.map_nil, List.append_nil]⟩
  | cons iface ifaces ih =>
    obtain ⟨helig, hhint⟩ := hifaces iface List.mem_cons_self
    rw [List.map_cons] at hnames
    have hfresh : (request iface).name ∉ later.map (·.name) := fun hmem =>
      (List.nodup_append.mp hnames).2.2 _ hmem _ List.mem_cons_self rfl
    have hinsert := avlInsert_perm hfresh
    have hnames' : ((avlInsert (request iface) later).map (·.name) ++ ifaces.map (·.name)).Nodup :=
      (((hinsert.map _).append_right _).trans List.perm_middle.symm).nodup_iff.mpr hnames
    have hstep : assignHintedBy assign p (l, later) iface =
        (l, avlInsert (request iface) later) := by
      have hany : (request iface).assigned = -1 := hhint
      rw [assignHintedBy, helig]
      simp only [Bool.not_true, Bool.false_eq_true, if_false, hany, if_true]
    obtain ⟨later', hfold, hperm⟩ :=
      ih _ (fun i hi => hifaces i (List.mem_cons_of_mem _ hi)) hnames'
    refine ⟨later', ?_, ?_⟩
    · rw [List.foldl_cons, hstep, hfold]
    · rw [List.map_cons]
      exact hperm.trans ((hinsert.append_right _).trans List.perm_middle.symm)

theorem plain_request (i : ℕ) : Plain (request { name := crowdName i, assignmentLength := 48 }) :=
  ⟨rfl, rfl⟩

theorem crowdName_ne (i : ℕ) : crowdName i ≠ "" ∧ crowdName i ≠ "!excluded" := by
  have hlist : (crowdName i).toList = 'a' :: List.replicate i 'a' := by
    rw [crowdName, String.toList_ofList, List.replicate_succ]
  constructor
  · intro h
    rw [h] at hlist
    cases hlist
  · intro h
    rw [h] at hlist
    exact absurd (List.cons.inj hlist).1 (by decide)

/-- The second pass over the crowd. -/
theorem crowd_assigned (resolveRtTable : String → Option ℕ)
    (handlers : String → Option ProtoHandler) {p : DevicePrefix} {e s : DevicePrefixAssignment}
    {n : ℕ} (hn : n = crowdSize + 1) (hlow : 2 ^ 30 - 2 ^ 16 < e.assigned)
    (hhigh : e.assigned < 2 ^ 30)
    (hsize : e.size = 2 ^ 30) (hs : s.assigned = 2 ^ 30) :
    ∃ front last, assignAllBy assignInt32 p
        (crowd resolveRtTable handlers n).elements [e, s] =
          filled 0 front ++ [e, last.at (-2 ^ 31), s] ∧ front.length = crowdSize ∧
      (∀ c ∈ front, Plain c ∧ ∃ i < n, c.name = crowdName i) ∧ Plain last ∧
      last.name ∉ front.map (·.name) ∧ ∃ i < n, last.name = crowdName i := by
  let t := crowd resolveRtTable handlers n
  have hifaces : ∀ iface ∈ t.elements, eligible p iface = true ∧ iface.assignmentHint = -1 := by
    intro iface hiface
    obtain ⟨i, -, rfl⟩ := List.mem_map.mp hiface
    exact ⟨rfl, rfl⟩
  obtain ⟨later, hfirst, hperm⟩ := foldl_unhinted assignInt32 [e, s] [] hifaces t.names_nodup
  rw [List.nil_append] at hperm
  have hlater : ∀ c ∈ later, Plain c ∧ ∃ i < n, c.name = crowdName i := by
    intro c hc
    obtain ⟨iface, hiface, rfl⟩ := List.mem_map.mp (hperm.subset hc)
    obtain ⟨i, hi, rfl⟩ := List.mem_map.mp hiface
    exact ⟨plain_request i, i, List.mem_range.mp hi, rfl⟩
  have hlength : later.length = crowdSize + 1 := by
    rw [hperm.length_eq, List.length_map, ← hn]
    exact (List.length_map _).trans List.length_range
  have hnodup : (later.map (·.name)).Nodup := by
    have hmap := hperm.map (·.name)
    rw [List.map_map] at hmap
    exact hmap.nodup_iff.mpr t.names_nodup
  obtain ⟨front, last, rfl⟩ := (List.eq_nil_or_concat later).resolve_left (by
    rintro rfl
    cases hlength)
  rw [List.concat_eq_append] at hlater hlength hnodup hfirst
  rw [List.length_append, List.length_singleton] at hlength
  have hfront : front.length = crowdSize := by omega
  have hplain : ∀ c ∈ front, Plain c := fun c hc => (hlater c (List.mem_append_left _ hc)).1
  obtain ⟨hlast, hname⟩ := hlater last (List.mem_append_right _ List.mem_cons_self)
  have hnone : ∀ d ∈ ([] : List DevicePrefixAssignment), Plain d := nofun
  have hfill := foldl_fill hnone hplain (by
    rw [List.length_nil]
    omega) hlow hhigh [s]
  refine ⟨front, last, ?_, hfront, fun c hc => hlater c (List.mem_append_left _ hc), hlast, ?_,
    hname⟩
  · rw [assignAllBy, hfirst]
    dsimp only
    rw [List.foldl_append]
    change List.foldl _ (List.foldl _ (filled 0 [] ++ [e, s]) front) [last] = _
    rw [hfill, List.nil_append, List.foldl_cons, List.foldl_nil]
    exact assignShrinkingBy_of_assign (hlast.overflow hplain hfront hlow hhigh hsize hs)
  · rw [List.map_append] at hnodup
    exact fun hmem => (List.nodup_append.mp hnodup).2.2 _ hmem _ List.mem_cons_self rfl

section Crowded

variable {front : List DevicePrefixAssignment} {e last s : DevicePrefixAssignment}

theorem crowd_unserved {p : DevicePrefix} {i : ℕ} (hfresh : last.name ∉ front.map (·.name))
    (hname : last.name = crowdName i) (hexcl : e.name = "!excluded") (hs : s.name = "")
    {a : DevicePrefixAssignment} (ha : a ∈ filled 0 front ++ [e, last.at (-2 ^ 31), s])
    (hsame : a.name = crowdName i) : ¬Inside p a := by
  intro hinside
  rcases List.mem_append.mp ha with ha | ha
  · obtain ⟨c, hc, j, -, rfl⟩ := mem_filled ha
    exact hfresh (List.mem_map.mpr ⟨c, hc, hsame.trans hname.symm⟩)
  · simp only [List.mem_cons, List.not_mem_nil, or_false] at ha
    obtain rfl | rfl | rfl := ha
    · exact (crowdName_ne i).2 (hsame.symm.trans hexcl)
    · exact absurd hinside.1 (by norm_num)
    · exact (crowdName_ne i).1 (hsame.symm.trans hs)

theorem crowd_room (hplain : ∀ c ∈ front, Plain c) (hcount : front.length = crowdSize)
    (hlast : Plain last) (he : 2 ^ 30 - 2 ^ 16 < e.assigned) (hs : s.assigned = 2 ^ 30)
    {a : DevicePrefixAssignment} (ha : a ∈ filled 0 front ++ [e, last.at (-2 ^ 31), s])
    (hle : a.assigned ≤ 2 ^ 30 - 2 ^ 16) : a.assigned + a.size ≤ 2 ^ 30 - 2 ^ 16 := by
  rcases List.mem_append.mp ha with ha | ha
  · obtain ⟨c, hc, j, hj, rfl⟩ := mem_filled ha
    rw [size_at, assigned_at, (hplain c hc).size]
    unfold crowdSize at hcount
    omega
  · simp only [List.mem_cons, List.not_mem_nil, or_false] at ha
    obtain rfl | rfl | rfl := ha
    · omega
    · rw [size_at, assigned_at, hlast.size]
      omega
    · omega

end Crowded

theorem crowd_update (resolveRtTable : String → Option ℕ)
    (handlers : String → Option ProtoHandler) {p : DevicePrefix} (hlt : p.exclAddr < 2 ^ 32)
    (h34 : p.length = 34) (hexcl : p.exclLength = 34)
    (hlow : 2 ^ 30 - 2 ^ 16 < p.exclAddr &&& (2 ^ (64 - p.length) - 1)) {n : ℕ}
    (hn : n = crowdSize + 1) :
    ∃ front e last, updateInt32 (crowd resolveRtTable handlers n).toInterfaceTable p =
        filled 0 front ++ [e, last.at (-2 ^ 31), sentinel p] ∧
      (e.name = "!excluded" ∧ 2 ^ 30 - 2 ^ 16 < e.assigned) ∧ front.length = crowdSize ∧
      (∀ c ∈ front, Plain c ∧ ∃ i < n, c.name = crowdName i) ∧ Plain last ∧
      last.name ∉ front.map (·.name) ∧ ∃ i < n, last.name = crowdName i := by
  obtain ⟨A, hA⟩ : ∃ A, A = p.exclAddr &&& (2 ^ (64 - p.length) - 1) := ⟨_, rfl⟩
  obtain ⟨e, he⟩ : ∃ e : DevicePrefixAssignment,
      e = { assigned := A, length := 34, name := "!excluded" } := ⟨_, rfl⟩
  have hfirst : excludedInt32 p = [e] := by
    rw [excludedInt32_eq h34.ge hlt, excluded, if_pos (by omega), he, hA, hexcl]
  have hhigh : A < 2 ^ 30 := by
    rw [hA, h34]
    exact lt_of_le_of_lt Nat.and_le_right (by decide)
  have hassigned : e.assigned = A := by rw [he]
  have hsentinel : (sentinel p).assigned = 2 ^ 30 := by rw [sentinel, h34]
  rw [← hA] at hlow
  obtain ⟨front, last, hlist, hrest⟩ :=
    crowd_assigned resolveRtTable handlers (p := p) (n := n) (e := e) (s := sentinel p) hn
      (by omega) (by omega) (by rw [he]; rfl) hsentinel
  refine ⟨front, e, last, ?_, ⟨by rw [he], by omega⟩, hrest⟩
  rw [updateInt32, hfirst, sentinelInt32_eq h34.ge]
  exact hlist

theorem crowd_not_ok (resolveRtTable : String → Option ℕ)
    (handlers : String → Option ProtoHandler) {p : DevicePrefix} (hlt : p.exclAddr < 2 ^ 32)
    (h34 : p.length = 34) (hexcl : p.exclLength = 34)
    (hlow : 2 ^ 30 - 2 ^ 16 < p.exclAddr &&& (2 ^ (64 - p.length) - 1)) :
    ¬ArithmeticOk (crowd resolveRtTable handlers (crowdSize + 1)).toInterfaceTable p := by
  generalize hn : crowdSize + 1 = n
  intro h
  have hsentinel : (sentinel p).assigned = 2 ^ 30 := by rw [sentinel, h34]
  obtain ⟨front, e, last, hupdate, ⟨hname, he⟩, hcount, hfront, hlast, hfresh, i, hi, hlastName⟩ :=
    crowd_update resolveRtTable handlers hlt h34 hexcl hlow hn.symm
  have hiface : { name := crowdName i, assignmentLength := 48 } ∈
      (crowd resolveRtTable handlers n).elements :=
    List.mem_map.mpr ⟨i, List.mem_range.mpr hi, rfl⟩
  have hserved := h.served _ hiface rfl
  rw [hupdate] at hserved
  rcases hserved with ⟨a, ha, hsame, hinside⟩ | htaken
  · exact crowd_unserved hfresh hlastName hname rfl ha hsame hinside
  · obtain ⟨a, ha, hle, hlt'⟩ := htaken (2 ^ 30 - 2 ^ 16) (by norm_num) (by rw [h34]; norm_num)
    have hroom := crowd_room (fun c hc => (hfront c hc).1) hcount hlast he hsentinel ha hle
    omega

/-- What `interface_alloc` stores of `ip6assign`. -/
def storedLength (config : Blob) : ℕ := ((config.getU32 "ip6assign").getD 0) % 2 ^ 8

theorem lengths_of_full {p : DevicePrefix} (h34 : 34 ≤ p.length) (hexcl34 : 34 ≤ p.exclLength)
    (hfull : 2 ^ 31 < (p.exclAddr &&& (2 ^ (64 - p.length) - 1)) + 2 ^ (64 - p.exclLength) +
      2 ^ 16) :
    p.length = 34 ∧ p.exclLength = 34 ∧
      2 ^ 30 - 2 ^ 16 < p.exclAddr &&& (2 ^ (64 - p.length) - 1) := by
  have hbits : p.exclAddr &&& (2 ^ (64 - p.length) - 1) ≤ 2 ^ (64 - p.length) - 1 :=
    Nat.and_le_right
  have hpos := Nat.two_pow_pos (64 - p.length)
  have hsize : 2 ^ (64 - p.exclLength) ≤ 2 ^ 30 := Nat.pow_le_pow_right (by decide) (by omega)
  have hwhole : 2 ^ (64 - p.length) ≤ 2 ^ 30 := Nat.pow_le_pow_right (by decide) (by omega)
  refine ⟨?_, ?_, by omega⟩
  · by_contra hne
    have hhalf : 2 ^ (64 - p.length) ≤ 2 ^ 29 := Nat.pow_le_pow_right (by decide) (by omega)
    omega
  · by_contra hne
    have hhalf : 2 ^ (64 - p.exclLength) ≤ 2 ^ 29 := Nat.pow_le_pow_right (by decide) (by omega)
    omega

section Condition

variable {resolveRtTable : String → Option ℕ} {handlers : String → Option ProtoHandler}

theorem shiftsDefined_of_ok {d : Delegation}
    (h : ∀ t : ConfiguredTable (allocEnv resolveRtTable handlers),
      ArithmeticOk t.toInterfaceTable d.object) :
    34 ≤ d.object.length ∧ d.object.ShiftsDefined := by
  have h34 : 34 ≤ d.object.length :=
    (le_of_inRange ((h (crowd _ _ 0)).shifts _ List.mem_cons_self)).1
  refine ⟨h34, ?_⟩
  by_contra hundefined
  have hexcl : 0 < d.object.exclLength :=
    Nat.pos_of_ne_zero fun hzero => hundefined (Or.inl hzero)
  obtain ⟨h34', h64'⟩ := exclLength_le_of_inRange _ _ hexcl (h (negativeHint _ _)).shifts
  have hroom : ¬(d.object.exclAddr &&& (2 ^ (64 - d.object.length) - 1)) +
      2 ^ (64 - d.object.exclLength) + 2 ^ 16 ≤ 2 ^ 31 := fun hle =>
    hundefined (Or.inr ⟨h34', h64', hle⟩)
  obtain ⟨hlength, hexclLength, hlow⟩ := lengths_of_full h34 h34' (Nat.lt_of_not_le hroom)
  exact crowd_not_ok _ _ d.exclAddr_lt hlength hexclLength hlow (h (crowd _ _ _))

theorem allocShifts_inRange_iff (name : String) (config : Blob) :
    (∀ n ∈ allocShifts (allocEnv resolveRtTable handlers) name config, InRange n) ↔
      config.getString "ip6hint" = none ∨
        34 ≤ storedLength config ∧ storedLength config ≤ 64 := by
  have hlength : (interfaceAlloc (allocEnv resolveRtTable handlers) name
      config).assignmentLength = storedLength config := rfl
  rw [allocShifts, hlength]
  cases config.getString "ip6hint" with
  | none => simp
  | some hint =>
    simp only [Option.isSome_some, if_true, List.mem_singleton, forall_eq, reduceCtorEq,
      false_or]
    exact ⟨le_of_inRange, fun h => inRange_shiftAmount h.1 h.2⟩

end Condition

/-- Everything is in range for every table of interfaces just if the lengths of the prefix and of
what is excluded from it are; and in `interface_alloc` just if there is no hint, or a length that
goes with it. -/
theorem prefix_arithmetic_iff (resolveRtTable : String → Option ℕ)
    (handlers : String → Option ProtoHandler) :
    (∀ d : Delegation,
      (∀ t : ConfiguredTable (allocEnv resolveRtTable handlers),
        ArithmeticOk t.toInterfaceTable d.object) ↔
        34 ≤ d.option.length ∧ d.object.ShiftsDefined) ∧
    ∀ (name : String) (config : Blob),
      (∀ n ∈ allocShifts (allocEnv resolveRtTable handlers) name config, InRange n) ↔
        config.getString "ip6hint" = none ∨
          34 ≤ storedLength config ∧ storedLength config ≤ 64 := by
  refine ⟨fun d => ⟨shiftsDefined_of_ok, ?_⟩, allocShifts_inRange_iff⟩
  rintro ⟨h34, hshifts⟩ t
  exact arithmeticOk_of_shiftsDefined d t h34 hshifts

/-- `2001:db8::/32` is accepted: the shift for its sentinel is 32. -/
theorem short_prefix_shift : ¬∀ (resolveRtTable : String → Option ℕ)
    (handlers : String → Option ProtoHandler),
    (∀ (d : Delegation) (t : ConfiguredTable (allocEnv resolveRtTable handlers)),
      ArithmeticOk t.toInterfaceTable d.object) ∧
    ∀ (name : String) (config : Blob),
      ∀ n ∈ allocShifts (allocEnv resolveRtTable handlers) name config, InRange n := by
  intro h
  let d : Delegation :=
    { option := { addr := 0x20010db8#128 <<< 96, length := 32 }
      accepted := ⟨"2001:db8::/32".toList, .inl (by decide +kernel)⟩ }
  have hshift := ((h (fun _ => none) (fun _ => none)).1 d (crowd _ _ 0)).shifts 32
    List.mem_cons_self
  exact absurd hshift.2 (by decide)

end Netifd.PrefixShifts
