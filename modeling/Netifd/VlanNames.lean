import Netifd.PrefixOptions
import Mathlib.Data.List.Infix
import Mathlib.Data.List.TakeWhile
import Mathlib.Algebra.Order.Ring.Int
import Mathlib.Tactic.Ring

/-!
# Names of VLAN devices

`get_vlan_device_chain` of `vlan.c`: the device for a name with dots, of which each part after the
first one is the id of a VLAN on what is in front of it.
-/

namespace Netifd.VlanNames

def IFNAMSIZ : ℕ := 16

/-- `struct device`; of a VLAN the device that its `dep` is on, and its `id`. A device is told from
others by `ref`. -/
structure Device where
  ref : ℕ
  ifname : List Char
  vlan : Option (ℕ × ℤ) := none
  deriving DecidableEq

/-- The devices in the order in which they were put into the tree, of which a search finds the
first with its name. -/
structure DeviceTable where
  devs : List Device := []
  next : ℕ := 0
  deriving DecidableEq

/-- `strtoul(s, &err, 10)`: the result, and the string at `err`. -/
def strtoulDec (s : List Char) : ℕ × List Char :=
  let (negative, body) := match s.dropWhile isspace with
    | '-' :: s => (true, s)
    | '+' :: s => (false, s)
    | s => (false, s)
  if body.takeWhile Char.isDigit = [] then (0, s)
  else (unsignedLong negative (decimalValue body), body.dropWhile Char.isDigit)

/-- An `unsigned long` as an `int`. -/
def intOf (n : ℕ) : ℤ := (n : ℤ).bmod (2 ^ 32)

/-- What `%d` writes. -/
def formatInt : ℤ → List Char
  | .ofNat n => Nat.toDigits 10 n
  | .negSucc n => '-' :: Nat.toDigits 10 (n + 1)

def vlanDevSetName (ifname : List Char) (id : ℤ) : List Char :=
  (ifname ++ '.' :: formatInt id).take (IFNAMSIZ - 1)

/-- A new device. -/
def DeviceTable.add (t : DeviceTable) (ifname : List Char) (vlan : Option (ℕ × ℤ)) :
    Device × DeviceTable :=
  let dev := { ref := t.next, ifname, vlan }
  (dev, { devs := t.devs ++ [dev], next := t.next + 1 })

/-- `device_get` of a name that has no dot and is not that of an alias; `forceExternal` is
`system_if_force_external`. -/
def deviceGet (forceExternal : List Char → Bool) (t : DeviceTable) (name : List Char)
    (create : Bool) : Option Device × DeviceTable :=
  match t.devs.find? (·.ifname == name) with
  | some dev => (some dev, t)
  | none =>
    if !create || forceExternal name then (none, t)
    else
      let (dev, t) := t.add (name.take IFNAMSIZ) none
      (some dev, t)

def getVlanDevice (t : DeviceTable) (dev : Device) (id : ℤ) (create : Bool) :
    Option Device × DeviceTable :=
  match t.devs.find? (·.vlan == some (dev.ref, id)) with
  | some vldev => (some vldev, t)
  | none =>
    if !create then (none, t)
    else
      let (vldev, t) := t.add (vlanDevSetName dev.ifname id) (some (dev.ref, id))
      (some vldev, t)

/-- The loop of `get_vlan_device_chain` over what `split_vlan` cuts off. -/
def vlanLoop (create : Bool) (t : DeviceTable) (dev : Device) :
    List (List Char) → Option Device × DeviceTable
  | [] => (some dev, t)
  | s :: next =>
    let (id, err) := strtoulDec s
    if err ≠ [] then (none, t)
    else
      match getVlanDevice t dev (intOf id) create with
      | (none, t) => (none, t)
      | (some dev, t) => vlanLoop create t dev next

def getVlanDeviceChain (forceExternal : List Char → Bool) (t : DeviceTable) (ifname : List Char)
    (create : Bool) : Option Device × DeviceTable :=
  match ifname.splitOn '.' with
  | [] => (none, t)
  | base :: ids =>
    match deviceGet forceExternal t base create with
    | (none, t) => (none, t)
    | (some dev, t) => vlanLoop create t dev ids

/-- A name with dots whose first part is not the name of an alias. -/
def DottedName : Type := {name : List Char // '.' ∈ name ∧ name.head? ≠ some '@'}

/-- The name of the device below, and the ids. -/
def baseOf (name : List Char) : List Char := (name.splitOn '.').headD []

def idsOf (name : List Char) : List (List Char) := (name.splitOn '.').tail

/-- A decimal numeral for a VLAN. -/
structure VlanNumeral (s : List Char) : Prop where
  nonempty : s ≠ []
  digits : ∀ c ∈ s, c.isDigit = true
  bound : decimalValue s ≤ 4095

section Claims
variable (forceExternal : List Char → Bool) (t : DeviceTable)

/-- A device is returned for a proper name only, has that name, and is found again. -/
structure NameSound (name : List Char) : Prop where
  proper : ∀ d ∈ (getVlanDeviceChain forceExternal t name true).1,
    baseOf name ≠ [] ∧ ∀ id ∈ idsOf name, VlanNumeral id
  ifname : ∀ d ∈ (getVlanDeviceChain forceExternal t name true).1, d.ifname = name
  again : ∀ d ∈ (getVlanDeviceChain forceExternal t name true).1,
    (getVlanDeviceChain forceExternal (getVlanDeviceChain forceExternal t name true).2 name true).1 =
      some d

/-- Two names that are asked for one after the other. -/
structure NamesSound (name name' : List Char) : Prop where
  first : NameSound forceExternal t name
  second : NameSound forceExternal (getVlanDeviceChain forceExternal t name true).2 name'
  distinct : name ≠ name' → ∀ d ∈ (getVlanDeviceChain forceExternal t name true).1,
    ∀ d' ∈ (getVlanDeviceChain forceExternal
        (getVlanDeviceChain forceExternal t name true).2 name' true).1, d.ifname ≠ d'.ifname

/-- The name is refused, because there is no device below and none can be made, or because of an id
that is not read to its end. -/
def Refused (name : List Char) : Prop :=
  (t.devs.find? (·.ifname == baseOf name)).isNone ∧ forceExternal (baseOf name) = true ∨
    ∃ id ∈ idsOf name, (strtoulDec id).2 ≠ []

/-- The name has a device below, fits, and each id is a number up to 4095 as it is printed. -/
structure Canonical (name : List Char) : Prop where
  base : baseOf name ≠ []
  fits : name.length < IFNAMSIZ
  ids : ∀ id ∈ idsOf name, ∃ n ≤ 4095, id = Nat.toDigits 10 n

end Claims

/-- A table as the code leaves it: a VLAN has the name that its device below gives it. -/
structure DeviceTable.Consistent (t : DeviceTable) : Prop where
  fresh : ∀ d ∈ t.devs, d.ref < t.next ∧ ∀ p ∈ d.vlan, p.1 < t.next
  refs : ∀ d ∈ t.devs, ∀ d' ∈ t.devs, d.ref = d'.ref → d = d'
  vlan : ∀ d ∈ t.devs, ∀ p ∈ d.vlan, ∀ q ∈ t.devs, q.ref = p.1 →
    d.ifname = vlanDevSetName q.ifname p.2

theorem decimalValue_eq {s : List Char} (h : ∀ c ∈ s, c.isDigit = true) :
    decimalValue s = Nat.ofDigitChars 10 s 0 := by
  rw [decimalValue, List.takeWhile_eq_self_iff.mpr h, Nat.ofDigitChars_eq_foldl]

theorem strtoulDec_digits {s : List Char} (hs : s ≠ []) (h : ∀ c ∈ s, c.isDigit = true)
    (hbound : decimalValue s < 2 ^ 64) : strtoulDec s = (decimalValue s, []) := by
  obtain ⟨c, s, rfl⟩ := List.exists_cons_of_ne_nil hs
  have hdigit : c.isDigit = true := h c List.mem_cons_self
  have hskip : (c :: s).dropWhile isspace = c :: s :=
    List.dropWhile_cons_of_neg (by simp [isspace_of_isDigit hdigit])
  have hsign : (match (c :: s : List Char) with
      | '-' :: s => (true, s)
      | '+' :: s => (false, s)
      | s => (false, s)) = (false, c :: s) := by
    split
    · next heq =>
      rw [(List.cons.inj heq).1] at hdigit
      cases hdigit
    · next heq =>
      rw [(List.cons.inj heq).1] at hdigit
      cases hdigit
    · rfl
  rw [strtoulDec, hskip, hsign]
  dsimp only
  rw [List.takeWhile_eq_self_iff.mpr h, List.dropWhile_eq_nil_iff.mpr h,
    if_neg (List.cons_ne_nil c s), unsignedLong, if_neg (not_le.mpr hbound),
    if_neg Bool.false_ne_true]

theorem intOf_small {n : ℕ} (h : n ≤ 4095) : intOf n = n := by
  unfold intOf
  exact Int.bmod_eq_of_le (by omega) (by omega)

theorem VlanNumeral.read {s : List Char} (h : VlanNumeral s) :
    strtoulDec s = (decimalValue s, []) :=
  strtoulDec_digits h.nonempty h.digits (h.bound.trans_lt (by omega))

theorem VlanNumeral.format {s : List Char} (h : VlanNumeral s) :
    formatInt (intOf (strtoulDec s).1) = Nat.toDigits 10 (decimalValue s) := by
  rw [h.read, intOf_small h.bound]
  rfl

theorem ofDigitChars_lt {s : List Char} (h : ∀ c ∈ s, c.isDigit = true) (n : ℕ) :
    Nat.ofDigitChars 10 s n < (n + 1) * 10 ^ s.length := by
  induction s generalizing n with
  | nil => simp
  | cons c s ih =>
    have hdigit := h c List.mem_cons_self
    have hdigit : c.toNat - '0'.toNat ≤ 9 := by
      simp only [Char.isDigit, Bool.and_eq_true, decide_eq_true_eq] at hdigit
      have hle : c.toNat ≤ '9'.toNat := hdigit.2
      have hnine : '9'.toNat = 57 := rfl
      have hzero : '0'.toNat = 48 := rfl
      omega
    have ih := ih (fun d hd => h d (List.mem_cons_of_mem c hd)) (10 * n + (c.toNat - '0'.toNat))
    rw [Nat.ofDigitChars_cons, List.length_cons, Nat.pow_succ]
    calc _ < (10 * n + (c.toNat - '0'.toNat) + 1) * 10 ^ s.length := ih
      _ ≤ (10 * (n + 1)) * 10 ^ s.length := Nat.mul_le_mul_right _ (by omega)
      _ = (n + 1) * (10 ^ s.length * 10) := by ring

theorem VlanNumeral.length_le {s : List Char} (h : VlanNumeral s) :
    (Nat.toDigits 10 (decimalValue s)).length ≤ s.length := by
  rw [Nat.length_toDigits_le_iff (by decide) (List.length_pos_iff.mpr h.nonempty),
    decimalValue_eq h.digits]
  simpa using ofDigitChars_lt h.digits 0

theorem vlanNumeral_toDigits {n : ℕ} (h : n ≤ 4095) :
    VlanNumeral (Nat.toDigits 10 n) ∧ decimalValue (Nat.toDigits 10 n) = n := by
  have hdigits : ∀ c ∈ Nat.toDigits 10 n, c.isDigit = true := fun c hc =>
    Nat.isDigit_of_mem_toDigits (by decide) (by decide) hc
  have hvalue : decimalValue (Nat.toDigits 10 n) = n := by
    rw [decimalValue_eq hdigits]
    simp
  exact ⟨⟨Nat.toDigits_ne_nil, hdigits, hvalue.le.trans h⟩, hvalue⟩

/-- The name of a device with the names of its ids behind it. -/
def joined (base : List Char) (ids : List (List Char)) : List Char :=
  base ++ ids.flatMap ('.' :: ·)

theorem joined_cons (base id : List Char) (ids : List (List Char)) :
    joined base (id :: ids) = joined (base ++ '.' :: id) ids := by
  simp [joined]

theorem intercalate_eq_joined (base : List Char) (ids : List (List Char)) :
    ['.'].intercalate (base :: ids) = joined base ids := by
  induction ids generalizing base with
  | nil => simp [joined]
  | cons id ids ih =>
    rw [List.intercalate_cons_cons, ih]
    simp [joined]

theorem split_name {name : List Char} (h : '.' ∈ name) :
    name.splitOn '.' = baseOf name :: idsOf name ∧ idsOf name ≠ [] ∧
      name = joined (baseOf name) (idsOf name) := by
  obtain ⟨base, rest, rfl, hbase⟩ := List.eq_append_cons_of_mem h
  have hsplit := List.splitOn_append_cons_self_of_not_mem hbase rest
  have hparts : (base ++ '.' :: rest).splitOn '.' =
      baseOf (base ++ '.' :: rest) :: idsOf (base ++ '.' :: rest) := by
    rw [baseOf, idsOf, hsplit]
    rfl
  refine ⟨hparts, ?_, ?_⟩
  · rw [idsOf, hsplit]
    exact List.splitOn_ne_nil _ _
  · rw [← intercalate_eq_joined, ← hparts, List.intercalate_splitOn]

/-- The name that the loop gives to the last device. -/
def loopName (base : List Char) (ids : List (List Char)) : List Char :=
  ids.foldl (fun ifname s => vlanDevSetName ifname (intOf (strtoulDec s).1)) base

/-- The ids as they are printed. -/
def printed (ids : List (List Char)) : List (List Char) :=
  ids.map fun s => formatInt (intOf (strtoulDec s).1)

theorem take_take_append (n : ℕ) (a b : List Char) :
    (a.take n ++ b).take n = (a ++ b).take n := by
  rcases Nat.le_total a.length n with h | h
  · rw [List.take_of_length_le h]
  · rw [List.take_append_of_le_length (by simp [h]), List.take_append_of_le_length h,
      List.take_take, Nat.min_self]

theorem loopName_eq {base : List Char} {ids : List (List Char)} (hids : ids ≠ []) :
    loopName base ids = (joined base (printed ids)).take (IFNAMSIZ - 1) := by
  induction ids generalizing base with
  | nil => exact absurd rfl hids
  | cons id ids ih =>
    rw [loopName, List.foldl_cons, ← loopName, printed, List.map_cons, ← printed, joined_cons]
    cases ids with
    | nil => simp [loopName, printed, joined, vlanDevSetName]
    | cons id' ids =>
      rw [ih (List.cons_ne_nil _ _), vlanDevSetName, joined, joined, take_take_append]

namespace DeviceTable
variable {t t' : DeviceTable}

theorem consistent_empty : Consistent {} where
  fresh _ hd := by cases hd
  refs _ hd := by cases hd
  vlan _ hd := by cases hd

theorem find_of_prefix {p : Device → Bool} {d : Device} (h : t.devs <+: t'.devs)
    (hd : t.devs.find? p = some d) : t'.devs.find? p = some d := by
  obtain ⟨more, hmore⟩ := h
  rw [← hmore, List.find?_append, hd]
  rfl

theorem Consistent.add (h : t.Consistent) (ifname : List Char) (vlan : Option (ℕ × ℤ))
    (hvlan : ∀ p ∈ vlan, p.1 < t.next ∧
      ∀ q ∈ t.devs, q.ref = p.1 → ifname = vlanDevSetName q.ifname p.2) :
    (t.add ifname vlan).2.Consistent := by
  constructor
  · intro d hd
    rcases List.mem_append.mp hd with hd | hd
    · obtain ⟨href, hparent⟩ := h.fresh d hd
      exact ⟨Nat.lt_succ_of_lt href, fun p hp => Nat.lt_succ_of_lt (hparent p hp)⟩
    · rw [List.mem_singleton.mp hd]
      exact ⟨Nat.lt_succ_self _, fun p hp => Nat.lt_succ_of_lt (hvlan p hp).1⟩
  · intro d hd d' hd' heq
    rcases List.mem_append.mp hd with hd | hd <;> rcases List.mem_append.mp hd' with hd' | hd'
    · exact h.refs d hd d' hd' heq
    · rw [List.mem_singleton.mp hd'] at heq
      exact absurd heq (h.fresh d hd).1.ne
    · rw [List.mem_singleton.mp hd] at heq
      exact absurd heq.symm (h.fresh d' hd').1.ne
    · rw [List.mem_singleton.mp hd, List.mem_singleton.mp hd']
  · intro d hd p hp q hq heq
    -- the new device is on none of which it is known before what it is
    rcases List.mem_append.mp hd with hd | hd <;> rcases List.mem_append.mp hq with hq | hq
    · exact h.vlan d hd p hp q hq heq
    · rw [List.mem_singleton.mp hq] at heq
      exact absurd heq.symm ((h.fresh d hd).2 p hp).ne
    · rw [List.mem_singleton.mp hd] at hp ⊢
      exact (hvlan p hp).2 q hq heq
    · rw [List.mem_singleton.mp hd] at hp
      rw [List.mem_singleton.mp hq] at heq
      exact absurd heq.symm (hvlan p hp).1.ne

end DeviceTable

section Chain
variable {forceExternal : List Char → Bool} {t : DeviceTable}

/-- A device that is returned is in the table, which has only grown, and is found again in it and in
every larger one. -/
structure Found (get : DeviceTable → Option Device × DeviceTable) (t : DeviceTable) (d : Device)
    (t' : DeviceTable) : Prop where
  result : get t = (some d, t')
  consistent : t'.Consistent
  mem : d ∈ t'.devs
  grown : t.devs <+: t'.devs

theorem deviceGet_found (ht : t.Consistent) {name : List Char}
    (h : ¬((t.devs.find? (·.ifname == name)).isNone ∧ forceExternal name = true)) :
    ∃ d t', Found (deviceGet forceExternal · name true) t d t' ∧
      d.ifname.length ≤ name.length ∧ (name.length < IFNAMSIZ → d.ifname = name ∧
        t'.devs.find? (·.ifname == name) = some d) := by
  cases hfind : t.devs.find? (·.ifname == name) with
  | some d =>
    have hname : d.ifname = name := by simpa using List.find?_some hfind
    refine ⟨d, t, ⟨?_, ht, List.mem_of_find?_eq_some hfind, List.prefix_refl _⟩, hname ▸ le_rfl,
      fun _ => ⟨hname, hfind⟩⟩
    rw [deviceGet, hfind]
  | none =>
    rw [hfind] at h
    have hforce : forceExternal name = false := by simpa using h
    refine ⟨_, _, ⟨?_, ht.add (name.take IFNAMSIZ) none ?_,
      List.mem_append_right _ (List.mem_singleton_self _), List.prefix_append _ _⟩, ?_, ?_⟩
    · rw [deviceGet, hfind]
      simp [hforce, DeviceTable.add]
    · intro p hp
      cases hp
    · exact List.length_take_le' _ _
    · intro hlength
      have htake : name.take IFNAMSIZ = name := List.take_of_length_le hlength.le
      refine ⟨htake, ?_⟩
      simp [DeviceTable.add, List.find?_append, hfind, htake]

theorem getVlanDevice_found (ht : t.Consistent) {dev : Device} (hdev : dev ∈ t.devs) (id : ℤ) :
    ∃ d t', Found (getVlanDevice · dev id true) t d t' ∧
      d.ifname = vlanDevSetName dev.ifname id ∧
        t'.devs.find? (·.vlan == some (dev.ref, id)) = some d := by
  cases hfind : t.devs.find? (·.vlan == some (dev.ref, id)) with
  | some d =>
    have hvlan : d.vlan = some (dev.ref, id) := by simpa using List.find?_some hfind
    have hmem := List.mem_of_find?_eq_some hfind
    refine ⟨d, t, ⟨?_, ht, hmem, List.prefix_refl _⟩, ht.vlan d hmem _ hvlan dev hdev rfl, hfind⟩
    rw [getVlanDevice, hfind]
  | none =>
    refine ⟨_, _, ⟨?_, ht.add (vlanDevSetName dev.ifname id) (some (dev.ref, id)) ?_,
      List.mem_append_right _ (List.mem_singleton_self _), List.prefix_append _ _⟩, rfl, ?_⟩
    · rw [getVlanDevice, hfind]
      simp [DeviceTable.add]
    · intro p hp
      cases hp
      refine ⟨(ht.fresh dev hdev).1, fun q hq heq => ?_⟩
      rw [ht.refs q hq dev hdev heq]
    · simp [DeviceTable.add, List.find?_append, hfind]

theorem vlanLoop_found (ht : t.Consistent) {dev : Device} (hdev : dev ∈ t.devs)
    {ids : List (List Char)} (hids : ∀ id ∈ ids, (strtoulDec id).2 = []) :
    ∃ d t', Found (vlanLoop true · dev ids) t d t' ∧ d.ifname = loopName dev.ifname ids ∧
      ∀ t'' : DeviceTable, t'.devs <+: t''.devs → vlanLoop true t'' dev ids = (some d, t'') := by
  induction ids generalizing t dev with
  | nil => exact ⟨dev, t, ⟨rfl, ht, hdev, List.prefix_refl _⟩, rfl, fun _ _ => rfl⟩
  | cons id ids ih =>
    have hid := hids id List.mem_cons_self
    obtain ⟨v, t₁, hv, hname, hagain⟩ :=
      getVlanDevice_found ht hdev (intOf (strtoulDec id).1)
    obtain ⟨d, t₂, hd, hdname, hdagain⟩ := ih hv.consistent hv.mem fun id' hid' =>
      hids id' (List.mem_cons_of_mem id hid')
    refine ⟨d, t₂, ⟨?_, hd.consistent, hd.mem, hv.grown.trans hd.grown⟩, ?_, ?_⟩
    · have hresult : getVlanDevice t dev (intOf (strtoulDec id).1) true = (some v, t₁) := hv.result
      simp only [vlanLoop, hid, ne_eq, not_true_eq_false, if_false, hresult]
      exact hd.result
    · rw [hdname, hname]
      rfl
    · intro t'' hgrown
      have hfind := DeviceTable.find_of_prefix (hd.grown.trans hgrown) hagain
      simp only [vlanLoop, hid, ne_eq, not_true_eq_false, if_false, getVlanDevice, hfind]
      exact hdagain t'' hgrown

theorem vlanLoop_refused (dev : Device) {ids : List (List Char)}
    (hids : ∃ id ∈ ids, (strtoulDec id).2 ≠ []) : (vlanLoop true t dev ids).1 = none := by
  induction ids generalizing t dev with
  | nil => simp at hids
  | cons id ids ih =>
    rw [vlanLoop]
    dsimp only
    split_ifs with herr
    · rfl
    · have hrest : ∃ id ∈ ids, (strtoulDec id).2 ≠ [] := by
        obtain ⟨id', hmem, hid'⟩ := hids
        rcases List.mem_cons.mp hmem with rfl | hmem
        · exact absurd hid' herr
        · exact ⟨id', hmem, hid'⟩
      split
      · rfl
      · exact ih _ hrest

variable {name : List Char}

theorem chain_refused (hdot : '.' ∈ name) (h : Refused forceExternal t name) :
    (getVlanDeviceChain forceExternal t name true).1 = none := by
  obtain ⟨hsplit, -, -⟩ := split_name hdot
  rw [getVlanDeviceChain, hsplit]
  dsimp only
  rcases h with ⟨hnone, hforce⟩ | hids
  · have hget : deviceGet forceExternal t (baseOf name) true = (none, t) := by
      rw [deviceGet, Option.isNone_iff_eq_none.mp hnone]
      simp [hforce]
    rw [hget]
  · split
    · rfl
    · exact vlanLoop_refused _ hids

theorem chain_found (ht : t.Consistent) (hdot : '.' ∈ name) (h : ¬Refused forceExternal t name) :
    ∃ base d t', Found (getVlanDeviceChain forceExternal · name true) t d t' ∧
      base.length ≤ (baseOf name).length ∧ d.ifname = loopName base (idsOf name) ∧
      ((baseOf name).length < IFNAMSIZ → base = baseOf name ∧
        (getVlanDeviceChain forceExternal t' name true).1 = some d) := by
  obtain ⟨hsplit, -, -⟩ := split_name hdot
  obtain ⟨hbase, hids⟩ := not_or.mp h
  obtain ⟨dev, t₁, hdev, hlength, hfits⟩ := deviceGet_found ht hbase
  have hids : ∀ id ∈ idsOf name, (strtoulDec id).2 = [] := by
    intro id hid
    by_contra herr
    exact hids ⟨id, hid, herr⟩
  obtain ⟨d, t₂, hd, hname, hagain⟩ := vlanLoop_found hdev.consistent hdev.mem hids
  refine ⟨dev.ifname, d, t₂, ⟨?_, hd.consistent, hd.mem, hdev.grown.trans hd.grown⟩, hlength,
    hname, ?_⟩
  · have hget : deviceGet forceExternal t (baseOf name) true = (some dev, t₁) := hdev.result
    simp only [getVlanDeviceChain, hsplit, hget]
    exact hd.result
  · intro hshort
    obtain ⟨hbase, hfind⟩ := hfits hshort
    have hfind := DeviceTable.find_of_prefix hd.grown hfind
    refine ⟨hbase, ?_⟩
    simp only [getVlanDeviceChain, hsplit, deviceGet, hfind]
    rw [hagain t₂ (List.prefix_refl _)]

theorem printed_length_le {ids : List (List Char)} (hids : ∀ id ∈ ids, VlanNumeral id) :
    ((printed ids).flatMap ('.' :: ·)).length ≤ (ids.flatMap ('.' :: ·)).length := by
  induction ids with
  | nil => exact le_rfl
  | cons id ids ih =>
    have hid := hids id List.mem_cons_self
    have hlength := hid.length_le
    have ih := ih fun id' hid' => hids id' (List.mem_cons_of_mem id hid')
    simp only [printed, List.map_cons, List.flatMap_cons, List.length_append, List.length_cons,
      hid.format] at ih ⊢
    omega

theorem printed_eq {ids : List (List Char)} (hids : ∀ id ∈ ids, VlanNumeral id)
    (h : (printed ids).flatMap ('.' :: ·) = ids.flatMap ('.' :: ·)) : printed ids = ids := by
  induction ids with
  | nil => rfl
  | cons id ids ih =>
    have hid := hids id List.mem_cons_self
    have hrest : ∀ id' ∈ ids, VlanNumeral id' := fun id' hid' =>
      hids id' (List.mem_cons_of_mem id hid')
    have hlength := hid.length_le
    have hrestlength := printed_length_le hrest
    have hsum := congrArg List.length h
    simp only [printed, List.map_cons, List.flatMap_cons, List.length_append, List.length_cons,
      hid.format] at h hsum hrestlength ⊢
    obtain ⟨hfirst, htail⟩ := List.append_inj h (by
      simp only [List.length_cons]
      omega)
    rw [List.cons.inj hfirst |>.2]
    exact congrArg (id :: ·) (ih hrest htail)

theorem loopName_length {base : List Char} {ids : List (List Char)} (hids : ids ≠ []) :
    (loopName base ids).length < IFNAMSIZ := by
  rw [loopName_eq hids]
  exact Nat.lt_succ_of_le (List.length_take_le _ _)

theorem canonical_of_loopName {base : List Char} (hdot : '.' ∈ name) (hproper : baseOf name ≠ [])
    (hids : ∀ id ∈ idsOf name, VlanNumeral id) (hlength : base.length ≤ (baseOf name).length)
    (hbase : (baseOf name).length < IFNAMSIZ → base = baseOf name)
    (h : loopName base (idsOf name) = name) : Canonical name := by
  obtain ⟨-, hne, hname⟩ := split_name hdot
  have hfits : name.length < IFNAMSIZ := h ▸ loopName_length hne
  have hsum := congrArg List.length hname
  rw [joined, List.length_append] at hsum
  have hprinted := printed_length_le hids
  obtain rfl := hbase (by omega)
  rw [loopName_eq hne, List.take_of_length_le] at h
  · have hcancel := List.append_cancel_left (h.trans hname)
    have heq := printed_eq hids hcancel
    refine ⟨hproper, hfits, fun id hid => ?_⟩
    have hprint : formatInt (intOf (strtoulDec id).1) = id :=
      List.map_inj_left.mp (heq.trans (List.map_id _).symm) id hid
    rw [(hids id hid).format] at hprint
    exact ⟨_, (hids id hid).bound, hprint.symm⟩
  · rw [joined, List.length_append]
    exact Nat.le_of_lt_succ (by
      change _ < IFNAMSIZ
      omega)

theorem Canonical.loopName_eq (h : Canonical name) (hdot : '.' ∈ name) :
    loopName (baseOf name) (idsOf name) = name := by
  obtain ⟨-, hne, hname⟩ := split_name hdot
  have hprinted : printed (idsOf name) = idsOf name := by
    refine (List.map_congr_left fun id hid => ?_).trans (List.map_id _)
    obtain ⟨n, hn, rfl⟩ := h.ids id hid
    rw [(vlanNumeral_toDigits hn).1.format, (vlanNumeral_toDigits hn).2, id_eq]
  rw [VlanNames.loopName_eq hne, hprinted, ← hname]
  exact List.take_of_length_le (Nat.le_of_lt_succ h.fits)

/-- A name is resolved as it should be just if it is refused or canonical. -/
theorem nameSound_iff (ht : t.Consistent) (hdot : '.' ∈ name) :
    NameSound forceExternal t name ↔ Refused forceExternal t name ∨ Canonical name := by
  by_cases hrefused : Refused forceExternal t name
  · have hnone := chain_refused hdot hrefused
    refine iff_of_true ⟨?_, ?_, ?_⟩ (Or.inl hrefused) <;>
    · intro d hd
      rw [hnone] at hd
      cases hd
  · obtain ⟨base, d, t', hd, hlength, hname, hfits⟩ := chain_found ht hdot hrefused
    have hresult : getVlanDeviceChain forceExternal t name true = (some d, t') := hd.result
    constructor
    · intro hsound
      have hmem : d ∈ (getVlanDeviceChain forceExternal t name true).1 := by rw [hresult]; rfl
      obtain ⟨hproper, hids⟩ := hsound.proper d hmem
      have hloop := hname.symm.trans (hsound.ifname d hmem)
      exact Or.inr (canonical_of_loopName hdot hproper hids hlength (fun h => (hfits h).1) hloop)
    · intro h
      have hcanonical := h.resolve_left hrefused
      obtain ⟨-, -, hparts⟩ := split_name hdot
      have hshort : (baseOf name).length < IFNAMSIZ := by
        have hsum := congrArg List.length hparts
        rw [joined, List.length_append] at hsum
        have hlt := hcanonical.fits
        omega
      obtain ⟨rfl, hagain⟩ := hfits hshort
      rw [hcanonical.loopName_eq hdot] at hname
      refine ⟨?_, ?_, ?_⟩ <;> intro d' hd' <;> rw [hresult] at hd' <;> cases hd'
      · refine ⟨hcanonical.base, fun id hid => ?_⟩
        obtain ⟨n, hn, rfl⟩ := hcanonical.ids id hid
        exact (vlanNumeral_toDigits hn).1
      · exact hname
      · rw [hresult]
        exact hagain

theorem vlanLoop_consistent (ht : t.Consistent) {dev : Device} (hdev : dev ∈ t.devs)
    (ids : List (List Char)) : (vlanLoop true t dev ids).2.Consistent := by
  induction ids generalizing t dev with
  | nil => exact ht
  | cons id ids ih =>
    obtain ⟨v, t₁, hv, -, -⟩ := getVlanDevice_found ht hdev (intOf (strtoulDec id).1)
    have hresult : getVlanDevice t dev (intOf (strtoulDec id).1) true = (some v, t₁) := hv.result
    rw [vlanLoop]
    dsimp only
    split_ifs
    · exact ht
    · rw [hresult]
      exact ih hv.consistent hv.mem

theorem chain_consistent (ht : t.Consistent) (hdot : '.' ∈ name) :
    (getVlanDeviceChain forceExternal t name true).2.Consistent := by
  obtain ⟨hsplit, -, -⟩ := split_name hdot
  rw [getVlanDeviceChain, hsplit]
  dsimp only
  by_cases hbase : (t.devs.find? (·.ifname == baseOf name)).isNone ∧
      forceExternal (baseOf name) = true
  · have hget : deviceGet forceExternal t (baseOf name) true = (none, t) := by
      rw [deviceGet, Option.isNone_iff_eq_none.mp hbase.1]
      simp [hbase.2]
    rw [hget]
    exact ht
  · obtain ⟨dev, t₁, hdev, -, -⟩ := deviceGet_found ht hbase
    have hget : deviceGet forceExternal t (baseOf name) true = (some dev, t₁) := hdev.result
    rw [hget]
    exact vlanLoop_consistent hdev.consistent hdev.mem _

/-- Two names are resolved as they should be just if each of them is refused or canonical. -/
theorem namesSound_iff (ht : t.Consistent) (name name' : DottedName) :
    NamesSound forceExternal t name.1 name'.1 ↔
      (Refused forceExternal t name.1 ∨ Canonical name.1) ∧
      (Refused forceExternal (getVlanDeviceChain forceExternal t name.1 true).2 name'.1 ∨
        Canonical name'.1) := by
  rw [← nameSound_iff ht name.2.1, ← nameSound_iff (chain_consistent ht name.2.1) name'.2.1]
  constructor
  · intro h
    exact ⟨h.first, h.second⟩
  · rintro ⟨hfirst, hsecond⟩
    refine ⟨hfirst, hsecond, fun hne d hd d' hd' => ?_⟩
    rw [hfirst.ifname d hd, hsecond.ifname d' hd']
    exact hne

end Chain

/-- Two VLANs of a device, on an empty table. -/
def vlanFive : DottedName := ⟨"eth0.5".toList, by decide⟩
def vlanSeven : DottedName := ⟨"eth0.7".toList, by decide⟩

theorem namesSound_of_two_vlans : NamesSound (fun _ => false) {} vlanFive.1 vlanSeven.1 ↔
    (Refused (fun _ => false) {} vlanFive.1 ∨ Canonical vlanFive.1) ∧
    (Refused (fun _ => false)
        (getVlanDeviceChain (fun _ => false) {} vlanFive.1 true).2 vlanSeven.1 ∨
      Canonical vlanSeven.1) :=
  namesSound_iff DeviceTable.consistent_empty vlanFive vlanSeven

/-- A name with a zero in front of its id. -/
def vlanZeroFive : DottedName := ⟨"eth0.05".toList, by decide⟩

/-- The device for `eth0.05` is `eth0.5`. -/
theorem leading_zero_accepted : ¬∀ (forceExternal : List Char → Bool) (t : DeviceTable)
    (name name' : DottedName), t.Consistent → NamesSound forceExternal t name.1 name'.1 := by
  intro hsound
  have hnames := hsound (fun _ => false) {} vlanZeroFive vlanFive DeviceTable.consistent_empty
  have hifname := hnames.first.ifname ⟨1, "eth0.5".toList, some (0, 5)⟩ (by decide +kernel)
  revert hifname
  decide

end Netifd.VlanNames
