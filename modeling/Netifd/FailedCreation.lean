import Netifd.VlanNames

/-!
# Devices that cannot be created

`device_create` of `device.c`, which takes a device of another type out of the table before it
makes the new one, and the create functions of the types. What is done to a device that stays or
that has been made is left to the environment.
-/

namespace Netifd.FailedCreation
open VlanNames (IFNAMSIZ strtoulDec intOf vlanDevSetName baseOf idsOf)

variable {β : Type}

/-- The types in `devtypes`. -/
inductive DeviceType
  | simple
  | bridge
  | macvlan
  | veth
  | vlan8021ad
  | vlan8021q
  | tunnel
  deriving DecidableEq

/-- `struct device`. It is in the table if it has an `avl.key`. VLANs and aliases are of types of
their own. A VLAN has the device that its `dep` is on and its `id`, an alias the name of its
interface and the device that its `dep` is on. -/
structure Device (β : Type) where
  ref : ℕ := 0
  ifname : List Char
  listed : Bool := true
  type : Option DeviceType := none
  external : Bool := false
  currentConfig : Bool := false
  config : Option β := none
  vlan : Option (ℕ × ℤ) := none
  aliasDevice : Option (List Char × Option ℕ) := none

/-- A `struct device_user` that is neither the `dep` of a VLAN nor that of an alias. -/
structure DeviceUser where
  ref : ℕ
  dev : ℕ

/-- The devices in the order in which they were put into the tree, of which a search finds the
first with its name, and their users. `allocs` tells which of the next allocations succeed; all
that come after these do. -/
structure Devices (β : Type) where
  devs : List (Device β) := []
  next : ℕ := 0
  users : List DeviceUser := []
  allocs : List Bool := []

inductive DevChangeType
  | applied
  | restart
  | noChange
  | recreate
  deriving DecidableEq

/-- `system_if_force_external`, the device and its name that an interface has that is up, the
comparison of configurations, and what is done to devices by `device_apply_config`, by
`device_replace` and by `config_init`. -/
structure Environment (β : Type) where
  forceExternal : List Char → Bool := fun _ => false
  l3Dev : List Char → Option (ℕ × List Char) := fun _ => none
  checkEqual : DeviceType → Option β → β → Bool
  reload : Devices β → ℕ → DeviceType → β → Devices β := fun t _ _ _ => t
  replace : Devices β → ℕ → ℕ → Devices β := fun t _ _ => t
  configInit : Devices β → ℕ → Devices β := fun t _ => t

section Table

variable (t : Devices β)

def deviceFind (name : List Char) : Option (Device β) :=
  t.devs.find? fun d => d.listed && d.ifname == name

/-- After an allocation. -/
def Devices.allocated : Devices β := { t with allocs := t.allocs.tail }

/-- With a new device. -/
def Devices.added (dev : Device β) : Devices β :=
  { t.allocated with devs := t.devs ++ [{ dev with ref := t.next }], next := t.next + 1 }

/-- A device is changed. -/
def Devices.mapDev (ref : ℕ) (f : Device β → Device β) : Devices β :=
  { t with devs := t.devs.map fun d => if d.ref = ref then f d else d }

/-- Whether the next allocation succeeds. -/
def Devices.canAlloc : Bool := t.allocs.headD true

/-- A new device is allocated and, if it is to be found, put into the tree. -/
def deviceAlloc (dev : Device β) : Option (Device β) × Devices β :=
  if t.canAlloc then (some { dev with ref := t.next }, t.added dev) else (none, t.allocated)

def deviceDelete (ref : ℕ) : Devices β := t.mapDev ref fun d => { d with listed := false }

end Table

section Code

variable (env : Environment β) (t : Devices β)

/-- `device_create_default` for a device that is not external. -/
def deviceCreateDefault (name : List Char) : Option (Device β) × Devices β :=
  if env.forceExternal name then (none, t)
  else deviceAlloc t { ifname := name.take IFNAMSIZ, type := some .simple }

/-- The device that `alias_device_create` makes; `alias_check_state` puts it on the device of the
interface. -/
def newAlias (name : List Char) : Device β where
  ifname := ((env.l3Dev name).map (·.2)).getD []
  listed := false
  aliasDevice := some (name, (env.l3Dev name).map (·.1))

def deviceAliasGet (name : List Char) : Option (Device β) × Devices β :=
  match t.devs.find? fun d => d.aliasDevice.any (·.1 == name) with
  | some dev => (some dev, t)
  | none => deviceAlloc t (newAlias env name)

/-- `device_get` of a name without a dot, with `create` 1. -/
def deviceGetPlain (name : List Char) : Option (Device β) × Devices β :=
  if name.head? = some '@' then deviceAliasGet env t name.tail
  else
    match deviceFind t name with
    | some dev => (some dev, t)
    | none => deviceCreateDefault env t name

/-- The VLAN with an id on a device, which may have been taken out of the table. -/
def vlanOn (dev : Device β) (id : ℤ) : Option (Device β) :=
  t.devs.find? fun d => d.vlan == some (dev.ref, id)

/-- A VLAN with an id on a device. -/
def newVlan (dev : Device β) (id : ℤ) : Device β where
  ifname := vlanDevSetName dev.ifname id
  vlan := some (dev.ref, id)

/-- `get_vlan_device`, with `create`. -/
def getVlanDevice (dev : Device β) (id : ℤ) : Option (Device β) × Devices β :=
  match vlanOn t dev id with
  | some vldev => (some vldev, t)
  | none => deviceAlloc t (newVlan dev id)

/-- The loop of `get_vlan_device_chain` over what `split_vlan` cuts off. -/
def vlanLoop (t : Devices β) (dev : Device β) :
    List (List Char) → Option (Device β) × Devices β
  | [] => (some dev, t)
  | s :: next =>
    let (id, err) := strtoulDec s
    if err ≠ [] then (none, t)
    else
      match getVlanDevice t dev (intOf id) with
      | (none, t) => (none, t)
      | (some dev, t) => vlanLoop t dev next

/-- `get_vlan_device_chain`, with `create`. -/
def getVlanDeviceChain (ifname : List Char) : Option (Device β) × Devices β :=
  if !t.canAlloc then (none, t.allocated)
  else
    match deviceGetPlain env t.allocated (baseOf ifname) with
    | (none, t) => (none, t)
    | (some dev, t) => vlanLoop t dev (idsOf ifname)

/-- `device_get`, with `create` 1. -/
def deviceGet (name : List Char) : Option (Device β) × Devices β :=
  if '.' ∈ name then getVlanDeviceChain env t name else deviceGetPlain env t name

/-- A device of its own of a type. -/
def createOfType (type : DeviceType) (name : List Char) : Option (Device β) × Devices β :=
  deviceAlloc t { ifname := name.take IFNAMSIZ, type := some type }

def simpleDeviceCreate (name : List Char) : Option (Device β) × Devices β := deviceGet env t name

def bridgeCreate (name : List Char) : Option (Device β) × Devices β := createOfType t .bridge name

def macvlanCreate (name : List Char) : Option (Device β) × Devices β :=
  createOfType t .macvlan name

def vethCreate (name : List Char) : Option (Device β) × Devices β := createOfType t .veth name

def vlandevCreate (type : DeviceType) (name : List Char) : Option (Device β) × Devices β :=
  createOfType t type name

def tunnelCreate (name : List Char) : Option (Device β) × Devices β := createOfType t .tunnel name

/-- The `create` of a type. -/
def typeCreate (type : DeviceType) (name : List Char) : Option (Device β) × Devices β :=
  match type with
  | .simple => simpleDeviceCreate env t name
  | .bridge => bridgeCreate t name
  | .macvlan => macvlanCreate t name
  | .veth => vethCreate t name
  | .vlan8021ad => vlandevCreate t .vlan8021ad name
  | .vlan8021q => vlandevCreate t .vlan8021q name
  | .tunnel => tunnelCreate t name

/-- `device_set_config`. The reload functions of the types say whether the configuration has
changed. -/
def deviceSetConfig (dev : Device β) (type : DeviceType) (config : β) : DevChangeType :=
  if dev.type ≠ some type then .recreate
  else
    match type with
    | .simple | .tunnel => if env.checkEqual type dev.config config then .noChange else .restart
    | _ => if env.checkEqual type dev.config config then .applied else .restart

def deviceApplyConfig (dev : Device β) (type : DeviceType) (config : β) :
    DevChangeType × Devices β :=
  let change := if dev.external then .applied else deviceSetConfig env dev type config
  (change, if change = .recreate then t else env.reload t dev.ref type config)

/-- The rest of `device_create`, where `odev` has been taken out of the table. -/
def createDevice (odev : Option ℕ) (name : List Char) (type : DeviceType) (config : β) :
    Option (Device β) × Devices β :=
  if !t.canAlloc then (none, t.allocated)
  else
    match typeCreate env t.allocated type name with
    | (none, t) => (none, t)
    | (some dev, t) =>
      let t := t.mapDev dev.ref fun d => { d with currentConfig := true, config := some config }
      let t := match odev with
        | some odev => env.replace t dev.ref odev
        | none => t
      (some dev, env.configInit t dev.ref)

def deviceCreate (name : List Char) (type : DeviceType) (config : β) :
    Option (Device β) × Devices β :=
  match deviceFind t name with
  | some odev =>
    let t := t.mapDev odev.ref fun d => { d with currentConfig := true }
    match deviceApplyConfig env t odev type config with
    | (.recreate, t) => createDevice env (deviceDelete t odev.ref) (some odev.ref) name type config
    | (_, t) => (some odev, t)
  | none => createDevice env t none name type config

end Code

/-- Every name stands for the device that it stood for before. -/
def SameNames (t t' : Devices β) : Prop :=
  ∀ name, (deviceFind t' name).map (·.ref) = (deviceFind t name).map (·.ref)

/-- Some name stands for the device. -/
def Findable (t : Devices β) (ref : ℕ) : Prop := ∃ name d, deviceFind t name = some d ∧ d.ref = ref

/-- The device that the `dep` of a VLAN or of an alias is on. -/
def Device.dep (d : Device β) : Option ℕ := (d.vlan.map (·.1)).or (d.aliasDevice.bind (·.2))

/-- The names stand for what they stood for, and whoever was on the device of the name is on a
device that can be found. -/
structure TableKept (t t' : Devices β) (name : List Char) : Prop where
  names : SameNames t t'
  users : ∀ odev ∈ deviceFind t name, ∀ u ∈ t.users, u.dev = odev.ref →
    ∃ u' ∈ t'.users, u'.ref = u.ref ∧ Findable t' u'.dev
  deps : ∀ odev ∈ deviceFind t name, ∀ d ∈ t.devs, d.dep = some odev.ref →
    ∃ d' ∈ t'.devs, d'.ref = d.ref ∧ ∃ p ∈ d'.dep, Findable t' p

/-- The names of the VLANs on a new device are in use, of all that are made before an id cannot be
read or an allocation fails. -/
def NamesInUse (t : Devices β) : List Char → List (List Char) → List Bool → Prop
  | _, [], _ => True
  | ifname, s :: ids, allocs =>
    let name := vlanDevSetName ifname (intOf (strtoulDec s).1)
    (strtoulDec s).2 = [] → allocs.headD true = true →
      (deviceFind t name).isSome ∧ NamesInUse t name ids allocs.tail

/-- The same for a device that is there, and from its first VLAN on that is not. -/
def WayInUse (t : Devices β) (dev : Device β) : List (List Char) → Prop
  | [] => True
  | s :: ids =>
    (strtoulDec s).2 = [] →
      match vlanOn t dev (intOf (strtoulDec s).1) with
      | some vldev => WayInUse t vldev ids
      | none => NamesInUse t dev.ifname (s :: ids) t.allocs

/-- The device that there is for a name without a dot. -/
def plainDevice (t : Devices β) (name : List Char) : Option (Device β) :=
  if name.head? = some '@' then t.devs.find? fun d => d.aliasDevice.any (·.1 == name.tail)
  else deviceFind t name

/-- The device that can be made for it. -/
def newPlain (env : Environment β) (name : List Char) : Option (Device β) :=
  if name.head? = some '@' then some (newAlias env name.tail)
  else if env.forceExternal name then none
  else some { ifname := name.take IFNAMSIZ, type := some .simple }

/-- All devices that are made for a name with dots, after it has been copied, have names that are
in use. -/
def ChainInUse (env : Environment β) (t : Devices β) (name : List Char) : Prop :=
  match plainDevice t (baseOf name) with
  | some dev => WayInUse t dev (idsOf name)
  | none => ∀ dev ∈ newPlain env (baseOf name), t.canAlloc = true →
    (dev.listed = true → (deviceFind t dev.ifname).isSome) ∧
      NamesInUse t dev.ifname (idsOf name) t.allocs.tail

/-- Devices are told from others. -/
structure Devices.Consistent (t : Devices β) : Prop where
  refs : ∀ d ∈ t.devs, d.ref < t.next
  vlans : ∀ d ∈ t.devs, ∀ p ∈ d.vlan, p.1 < t.next

section Growth

variable {t t' t'' t₀ : Devices β} {dev : Device β} {name : List Char}

@[simp]
theorem deviceFind_allocated : deviceFind t.allocated name = deviceFind t name := rfl

@[simp]
theorem vlanOn_allocated (id : ℤ) : vlanOn t.allocated dev id = vlanOn t dev id := rfl

theorem deviceFind_added : deviceFind (t.added dev) name =
    (deviceFind t name).or
      (if dev.listed = true ∧ dev.ifname = name then some { dev with ref := t.next }
      else none) := by
  by_cases h : dev.listed = true ∧ dev.ifname = name <;>
    simp [deviceFind, Devices.added, List.find?_append, h]

theorem SameNames.refl (t : Devices β) : SameNames t t := fun _ => rfl

theorem SameNames.isSome (h : SameNames t t') (name : List Char) :
    (deviceFind t' name).isSome = (deviceFind t name).isSome := by
  simpa using congrArg Option.isSome (h name)

theorem sameNames_added :
    SameNames t (t.added dev) ↔ (dev.listed = true → (deviceFind t dev.ifname).isSome) := by
  constructor
  · intro h hlisted
    have hsome := h.isSome dev.ifname
    rw [deviceFind_added, if_pos ⟨hlisted, rfl⟩] at hsome
    simpa using hsome
  · intro h name
    rw [deviceFind_added]
    cases hfind : deviceFind t name with
    | some d => rfl
    | none =>
      rw [if_neg]
      · rfl
      · rintro ⟨hlisted, rfl⟩
        simp [hfind] at h
        exact absurd hlisted (by simp [h])

/-- What has been found is found again. -/
def Extends (t t' : Devices β) : Prop :=
  ∀ name d, deviceFind t name = some d → deviceFind t' name = some d

theorem sameNames_iff (h : Extends t t') (h' : Extends t' t'') :
    SameNames t t'' ↔ SameNames t t' ∧ SameNames t' t'' := by
  constructor
  · intro hsame
    have hfirst : SameNames t t' := by
      intro name
      cases hfind : deviceFind t name with
      | some d => rw [h name d hfind]
      | none =>
        cases hfind' : deviceFind t' name with
        | none => rfl
        | some d =>
          have hnone := hsame name
          rw [h' name d hfind', hfind] at hnone
          cases hnone
    exact ⟨hfirst, fun name => (hsame name).trans (hfirst name).symm⟩
  · rintro ⟨hfirst, hsecond⟩ name
    exact (hsecond name).trans (hfirst name)

theorem namesInUse_congr (h : SameNames t t') {ids : List (List Char)} {ifname : List Char}
    {allocs : List Bool} : NamesInUse t' ifname ids allocs ↔ NamesInUse t ifname ids allocs := by
  induction ids generalizing ifname allocs with
  | nil => rfl
  | cons s ids ih => simp only [NamesInUse, h.isSome, ih]

theorem Devices.Consistent.added (ht : t.Consistent) (hvlan : ∀ p ∈ dev.vlan, p.1 < t.next) :
    (t.added dev).Consistent := by
  constructor <;> intro d hd <;> rcases List.mem_append.mp hd with hd | hd
  · exact Nat.lt_succ_of_lt (ht.refs d hd)
  · rw [List.mem_singleton.mp hd]
    exact Nat.lt_succ_self _
  · exact fun p hp => Nat.lt_succ_of_lt (ht.vlans d hd p hp)
  · rw [List.mem_singleton.mp hd]
    exact fun p hp => Nat.lt_succ_of_lt (hvlan p hp)

theorem Devices.Consistent.mapDev (ht : t.Consistent) (ref : ℕ) {f : Device β → Device β}
    (href : ∀ d, (f d).ref = d.ref) (hvlan : ∀ d, (f d).vlan = d.vlan) :
    (t.mapDev ref f).Consistent := by
  constructor <;> intro d hd <;> obtain ⟨d', hd', rfl⟩ := List.mem_map.mp hd <;> split_ifs
  · exact (href d').symm ▸ ht.refs d' hd'
  · exact ht.refs d' hd'
  · exact (hvlan d').symm ▸ ht.vlans d' hd'
  · exact ht.vlans d' hd'

/-- What is kept by allocations and by new devices. -/
structure Growing (P : Devices β → Prop) : Prop where
  consistent : ∀ t, P t → t.Consistent
  allocated : ∀ t, P t → P t.allocated
  added : ∀ t dev, P t → (∀ p ∈ dev.vlan, p.1 < t.next) → P (t.added dev)

/-- A table with what is returned with it. -/
structure Grown (P : Devices β → Prop) (r : Option (Device β) × Devices β) : Prop where
  table : P r.2
  dev : ∀ dev ∈ r.1, dev.ref < r.2.next

namespace Growing

variable {P : Devices β → Prop} {env : Environment β} (h : Growing P)

include h

theorem found (ht : P t) {p : Device β → Bool} (hfind : t.devs.find? p = some dev) :
    Grown P (some dev, t) where
  table := ht
  dev d hd := by
    rw [← Option.some.inj hd]
    exact (h.consistent t ht).refs dev (List.mem_of_find?_eq_some hfind)

omit h in
theorem failed (ht : P t) : Grown P (none, t) where
  table := ht
  dev _ hd := nomatch hd

theorem alloc (ht : P t) (hvlan : ∀ p ∈ dev.vlan, p.1 < t.next) : Grown P (deviceAlloc t dev) := by
  rw [deviceAlloc]
  split_ifs
  · refine ⟨h.added t dev ht hvlan, fun d hd => ?_⟩
    rw [← Option.some.inj hd]
    exact Nat.lt_succ_self _
  · exact failed (h.allocated t ht)

theorem getVlanDevice (ht : P t) (hdev : dev.ref < t.next) (id : ℤ) :
    Grown P (getVlanDevice t dev id) := by
  rw [FailedCreation.getVlanDevice]
  cases hfind : vlanOn t dev id with
  | some vldev => exact h.found ht hfind
  | none =>
    refine h.alloc ht fun p hp => ?_
    rw [← Option.some.inj hp]
    exact hdev

theorem vlanLoop (ht : P t) (hdev : dev.ref < t.next) (ids : List (List Char)) :
    Grown P (vlanLoop t dev ids) := by
  induction ids generalizing t dev with
  | nil =>
    refine ⟨ht, fun d hd => ?_⟩
    rw [← Option.some.inj hd]
    exact hdev
  | cons s ids ih =>
    have hvlan := h.getVlanDevice ht hdev (intOf (strtoulDec s).1)
    rw [FailedCreation.vlanLoop]
    dsimp only
    split_ifs
    · exact failed ht
    · generalize FailedCreation.getVlanDevice t dev (intOf (strtoulDec s).1) = r at hvlan ⊢
      obtain ⟨_ | vldev, t'⟩ := r
      · exact hvlan
      · exact ih hvlan.table (hvlan.dev vldev rfl)

theorem deviceGetPlain (ht : P t) (name : List Char) : Grown P (deviceGetPlain env t name) := by
  rw [FailedCreation.deviceGetPlain]
  split_ifs
  · rw [deviceAliasGet]
    split
    · next hfind => exact h.found ht hfind
    · exact h.alloc ht nofun
  · split
    · next hfind => exact h.found ht hfind
    · rw [deviceCreateDefault]
      split_ifs
      · exact failed ht
      · exact h.alloc ht nofun

theorem getVlanDeviceChain (ht : P t) (name : List Char) :
    Grown P (getVlanDeviceChain env t name) := by
  have hplain : Grown P (FailedCreation.deviceGetPlain env t.allocated (baseOf name)) :=
    h.deviceGetPlain (h.allocated t ht) _
  rw [FailedCreation.getVlanDeviceChain]
  split_ifs
  · exact failed (h.allocated t ht)
  · generalize FailedCreation.deviceGetPlain env t.allocated (baseOf name) = r at hplain ⊢
    obtain ⟨_ | dev, t'⟩ := r
    · exact hplain
    · exact h.vlanLoop hplain.table (hplain.dev dev rfl) _

theorem typeCreate (ht : P t) (type : DeviceType) (name : List Char) :
    Grown P (typeCreate env t type name) := by
  cases type with
  | simple =>
    change Grown P (deviceGet env t name)
    rw [deviceGet]
    split_ifs
    · exact h.getVlanDeviceChain ht name
    · exact h.deviceGetPlain ht name
  | _ => exact h.alloc ht nofun

end Growing

theorem Extends.refl (t : Devices β) : Extends t t := fun _ _ h => h

theorem extends_added (t : Devices β) (dev : Device β) : Extends t (t.added dev) := by
  intro name d hd
  rw [deviceFind_added, hd, Option.some_or]

theorem growing_extends (t₀ : Devices β) : Growing fun t => t.Consistent ∧ Extends t₀ t where
  consistent _ h := h.1
  allocated _ h := ⟨⟨h.1.refs, h.1.vlans⟩, h.2⟩
  added t dev h hvlan :=
    ⟨h.1.added hvlan, fun name d hd => extends_added t dev name d (h.2 name d hd)⟩

/-- A device cannot be found, and no other one is taken for it. -/
structure Gone (ref : ℕ) (t : Devices β) : Prop extends t.Consistent where
  old : ref < t.next
  unlisted : ∀ d ∈ t.devs, d.ref = ref → d.listed = false

theorem growing_gone (ref : ℕ) : Growing (Gone ref : Devices β → Prop) where
  consistent _ h := h.toConsistent
  allocated _ h := ⟨⟨h.refs, h.vlans⟩, h.old, h.unlisted⟩
  added t dev h hvlan := by
    refine ⟨h.toConsistent.added hvlan, Nat.lt_succ_of_lt h.old, fun d hd href => ?_⟩
    rcases List.mem_append.mp hd with hd | hd
    · exact h.unlisted d hd href
    · rw [List.mem_singleton.mp hd] at href
      exact absurd href h.old.ne'

theorem Gone.not_found {ref : ℕ} (h : Gone ref t) (name : List Char) :
    ∀ d ∈ deviceFind t name, d.ref ≠ ref := by
  intro d hd href
  have hmem := List.mem_of_find?_eq_some hd
  have hlisted : d.listed = true := by
    have hfound := List.find?_some hd
    simp only [Bool.and_eq_true] at hfound
    exact hfound.1
  rw [h.unlisted d hmem href] at hlisted
  cases hlisted

theorem Devices.Consistent.vlanOn_new (ht : t.Consistent) (hvlan : ∀ p ∈ dev.vlan, p.1 < t.next)
    (id : ℤ) : vlanOn (t.added dev) { dev with ref := t.next } id = none := by
  refine List.find?_eq_none.mpr fun d hd => ?_
  simp only [beq_iff_eq]
  intro heq
  rcases List.mem_append.mp hd with hd | hd
  · exact absurd (ht.vlans d hd _ heq) (lt_irrefl _)
  · rw [List.mem_singleton.mp hd] at heq
    exact absurd (hvlan _ heq) (lt_irrefl _)

section Loop

variable {s : List Char} {ids : List (List Char)}

theorem vlanLoop_unread (hread : (strtoulDec s).2 ≠ []) :
    vlanLoop t dev (s :: ids) = (none, t) := by
  rw [vlanLoop]
  exact if_pos hread

theorem vlanLoop_found (hread : (strtoulDec s).2 = []) {vldev : Device β}
    (hfind : vlanOn t dev (intOf (strtoulDec s).1) = some vldev) :
    vlanLoop t dev (s :: ids) = vlanLoop t vldev ids := by
  rw [vlanLoop]
  dsimp only
  rw [if_neg (not_not.mpr hread), getVlanDevice, hfind]

theorem vlanLoop_made (hread : (strtoulDec s).2 = [])
    (hnone : vlanOn t dev (intOf (strtoulDec s).1) = none) :
    vlanLoop t dev (s :: ids) =
      if t.canAlloc then
        vlanLoop (t.added (newVlan dev (intOf (strtoulDec s).1)))
          { newVlan dev (intOf (strtoulDec s).1) with ref := t.next } ids
      else (none, t.allocated) := by
  rw [vlanLoop]
  dsimp only
  rw [if_neg (not_not.mpr hread), getVlanDevice, hnone]
  dsimp only
  rw [deviceAlloc]
  split_ifs <;> rfl

theorem extends_vlanLoop (ht : t.Consistent) (hdev : dev.ref < t.next) :
    Extends t (vlanLoop t dev ids).2 :=
  ((growing_extends t).vlanLoop ⟨ht, Extends.refl t⟩ hdev ids).table.2

theorem sameNames_of_added {allocs : List Bool} (hgrown : Extends (t.added dev) t')
    (hrest : SameNames (t.added dev) t' ↔ NamesInUse (t.added dev) dev.ifname ids allocs) :
    SameNames t t' ↔ (dev.listed = true → (deviceFind t dev.ifname).isSome) ∧
      NamesInUse t dev.ifname ids allocs := by
  rw [sameNames_iff (extends_added t dev) hgrown, hrest, sameNames_added]
  exact and_congr_right fun hname => namesInUse_congr (sameNames_added.mpr hname)

theorem vlanLoop_new (ht : t.Consistent) (hdev : dev.ref < t.next)
    (hnew : ∀ s ∈ ids.head?, vlanOn t dev (intOf (strtoulDec s).1) = none)
    (hfail : (vlanLoop t dev ids).1 = none) :
    SameNames t (vlanLoop t dev ids).2 ↔ NamesInUse t dev.ifname ids t.allocs := by
  induction ids generalizing t dev with
  | nil => cases hfail
  | cons s ids ih =>
    rw [NamesInUse]
    by_cases hread : (strtoulDec s).2 = []
    · rw [vlanLoop_made hread (hnew s rfl)] at hfail ⊢
      by_cases halloc : t.canAlloc = true
      · rw [if_pos halloc] at hfail ⊢
        set vldev := newVlan dev (intOf (strtoulDec s).1)
        have hvlan : ∀ p ∈ vldev.vlan, p.1 < t.next := fun p hp => by
          rw [← Option.some.inj hp]
          exact hdev
        have hnext : t.next < (t.added vldev).next := Nat.lt_succ_self _
        have hrest := ih (ht.added hvlan) hnext (fun s _ => ht.vlanOn_new hvlan _) hfail
        have hhead : t.allocs.headD true = true := halloc
        simp only [hread, hhead, true_imp_iff]
        have hnames := sameNames_of_added (extends_vlanLoop (ht.added hvlan) hnext) hrest
        refine hnames.trans (and_congr_left' ?_)
        exact ⟨fun h => h rfl, fun h _ => h⟩
      · rw [if_neg halloc]
        exact iff_of_true (SameNames.refl t) fun _ hhead => absurd hhead halloc
    · rw [vlanLoop_unread hread]
      exact iff_of_true (SameNames.refl t) fun hread' => absurd hread' hread

theorem vlanLoop_way (ht : t.Consistent) (hdev : dev.ref < t.next)
    (hfail : (vlanLoop t dev ids).1 = none) :
    SameNames t (vlanLoop t dev ids).2 ↔ WayInUse t dev ids := by
  induction ids generalizing dev with
  | nil => cases hfail
  | cons s ids ih =>
    rw [WayInUse]
    by_cases hread : (strtoulDec s).2 = []
    · cases hfind : vlanOn t dev (intOf (strtoulDec s).1) with
      | some vldev =>
        rw [vlanLoop_found hread hfind] at hfail ⊢
        simp only [hread, true_imp_iff]
        exact ih (ht.refs vldev (List.mem_of_find?_eq_some hfind)) hfail
      | none =>
        simp only [hread, true_imp_iff]
        refine vlanLoop_new ht hdev (fun s' hs' => ?_) hfail
        rw [← Option.some.inj hs']
        exact hfind
    · rw [vlanLoop_unread hread]
      exact iff_of_true (SameNames.refl t) fun hread' => absurd hread' hread

end Loop

end Growth

section Failures

variable {env : Environment β} {t : Devices β} {dev : Device β} {name : List Char}
  {type : DeviceType} {config : β}

theorem deviceAlloc_failed (hfail : (deviceAlloc t dev).1 = none) :
    (deviceAlloc t dev).2 = t.allocated := by
  rw [deviceAlloc] at hfail ⊢
  split_ifs at hfail ⊢
  rfl

theorem deviceGetPlain_found (hfind : plainDevice t name = some dev) :
    deviceGetPlain env t name = (some dev, t) := by
  rw [plainDevice] at hfind
  rw [deviceGetPlain, deviceAliasGet]
  split_ifs at * <;> rw [hfind]

theorem deviceGetPlain_made (hnone : plainDevice t name = none) :
    deviceGetPlain env t name =
      match newPlain env name with
      | some dev => deviceAlloc t dev
      | none => (none, t) := by
  rw [plainDevice] at hnone
  rw [deviceGetPlain, deviceAliasGet, newPlain]
  split_ifs at * with halias hforce
  · rw [hnone]
  · rw [hnone, deviceCreateDefault, if_pos hforce]
  · rw [hnone, deviceCreateDefault, if_neg hforce]

theorem deviceGetPlain_failed (hfail : (deviceGetPlain env t name).1 = none) :
    SameNames t (deviceGetPlain env t name).2 := by
  cases hfind : plainDevice t name with
  | some dev =>
    rw [deviceGetPlain_found hfind] at hfail
    cases hfail
  | none =>
    rw [deviceGetPlain_made hfind] at hfail ⊢
    cases hnew : newPlain env name with
    | some dev =>
      rw [hnew] at hfail
      dsimp only at hfail ⊢
      rw [deviceAlloc_failed hfail]
      exact SameNames.refl t
    | none => exact SameNames.refl t

theorem newPlain_vlan (hnew : newPlain env name = some dev) : dev.vlan = none := by
  rw [newPlain] at hnew
  split_ifs at hnew <;> cases hnew <;> rfl

theorem mem_of_plainDevice (hfind : plainDevice t name = some dev) : dev ∈ t.devs := by
  rw [plainDevice] at hfind
  split_ifs at hfind <;> exact List.mem_of_find?_eq_some hfind

/-- For a name with dots all that has been made is left. -/
theorem chain_failed (ht : t.Consistent) (hfail : (getVlanDeviceChain env t name).1 = none) :
    SameNames t (getVlanDeviceChain env t name).2 ↔
      (t.canAlloc = true → ChainInUse env t.allocated name) := by
  have ht' : t.allocated.Consistent := ⟨ht.refs, ht.vlans⟩
  have hcopied : SameNames t t.allocated := SameNames.refl t
  rw [getVlanDeviceChain] at hfail ⊢
  cases halloc : t.canAlloc with
  | false => exact iff_of_true hcopied nofun
  | true =>
    rw [halloc] at hfail
    simp only [Bool.not_true, Bool.false_eq_true, if_false, true_imp_iff] at hfail ⊢
    change SameNames t.allocated _ ↔ _
    generalize t.allocated = t at ht' hfail ⊢
    rw [ChainInUse]
    cases hfind : plainDevice t (baseOf name) with
    | some dev =>
      rw [deviceGetPlain_found hfind] at hfail ⊢
      exact vlanLoop_way ht' (ht'.refs dev (mem_of_plainDevice hfind)) hfail
    | none =>
      rw [deviceGetPlain_made hfind] at hfail ⊢
      cases hnew : newPlain env (baseOf name) with
      | none => exact iff_of_true (SameNames.refl t) fun _ hdev => absurd hdev (Option.not_mem_none _)
      | some dev =>
        rw [hnew] at hfail
        dsimp only at hfail ⊢
        rw [deviceAlloc] at hfail ⊢
        by_cases hbase : t.canAlloc = true
        · rw [if_pos hbase] at hfail ⊢
          have hvlan : ∀ p ∈ dev.vlan, p.1 < t.next := by
            rw [newPlain_vlan hnew]
            exact nofun
          have hnext : t.next < (t.added dev).next := Nat.lt_succ_self _
          have hrest := vlanLoop_new (ht'.added hvlan) hnext
            (fun s _ => ht'.vlanOn_new hvlan _) hfail
          have hnames := sameNames_of_added (extends_vlanLoop (ht'.added hvlan) hnext) hrest
          refine hnames.trans ⟨fun h dev' hdev' _ => ?_, fun h => h dev rfl hbase⟩
          obtain rfl := Option.some.inj hdev'
          exact h
        · rw [if_neg hbase]
          exact iff_of_true (SameNames.refl t) fun _ _ hbase' => absurd hbase' hbase

theorem typeCreate_failed (ht : t.Consistent) (hfail : (typeCreate env t type name).1 = none) :
    SameNames t (typeCreate env t type name).2 ↔
      (type = .simple → '.' ∈ name → t.canAlloc = true → ChainInUse env t.allocated name) := by
  by_cases hsimple : type = .simple
  · subst hsimple
    simp only [true_imp_iff]
    unfold typeCreate simpleDeviceCreate deviceGet at *
    dsimp only at *
    split_ifs at hfail ⊢ with hdot
    · simp only [hdot, true_imp_iff]
      exact chain_failed ht hfail
    · exact iff_of_true (deviceGetPlain_failed hfail) fun hdot' => absurd hdot' hdot
  · refine iff_of_true ?_ fun h => absurd h hsimple
    have hown : typeCreate env t type name = createOfType t type name := by
      cases type with
      | simple => exact absurd rfl hsimple
      | _ => rfl
    rw [hown, createOfType] at hfail ⊢
    rw [deviceAlloc_failed hfail]
    exact SameNames.refl t

theorem createDevice_failed {odev : Option ℕ}
    (hfail : (createDevice env t odev name type config).1 = none) :
    t.canAlloc = false ∧ (createDevice env t odev name type config).2 = t.allocated ∨
    t.canAlloc = true ∧ (typeCreate env t.allocated type name).1 = none ∧
      (createDevice env t odev name type config).2 = (typeCreate env t.allocated type name).2 := by
  rw [createDevice] at hfail ⊢
  cases halloc : t.canAlloc with
  | false => exact .inl ⟨rfl, rfl⟩
  | true =>
    rw [halloc] at hfail
    refine .inr ⟨rfl, ?_⟩
    simp only [Bool.not_true, Bool.false_eq_true, if_false] at hfail ⊢
    generalize typeCreate env t.allocated type name = r at hfail ⊢
    obtain ⟨_ | dev, t'⟩ := r
    · exact ⟨rfl, rfl⟩
    · cases hfail

theorem Growing.createDevice_failed {P : Devices β → Prop} (h : Growing P) (ht : P t)
    {odev : Option ℕ} (hfail : (createDevice env t odev name type config).1 = none) :
    P (createDevice env t odev name type config).2 := by
  rcases FailedCreation.createDevice_failed hfail with ⟨-, heq⟩ | ⟨-, -, heq⟩ <;> rw [heq]
  · exact h.allocated t ht
  · exact (h.typeCreate (h.allocated t ht) type name).table

theorem deviceCreate_gone {odev : Device β} (ht : t.Consistent)
    (hfind : deviceFind t name = some odev)
    (hfail : (deviceCreate env t name type config).1 = none) :
    Gone odev.ref (deviceCreate env t name type config).2 := by
  let marked := t.mapDev odev.ref fun d => { d with currentConfig := true }
  have hmarked : marked.Consistent := ht.mapDev odev.ref (fun _ => rfl) fun _ => rfl
  have hgone : Gone odev.ref (deviceDelete marked odev.ref) := by
    refine ⟨hmarked.mapDev odev.ref (fun _ => rfl) fun _ => rfl,
      ht.refs odev (List.mem_of_find?_eq_some hfind), fun d hd href => ?_⟩
    obtain ⟨d', -, rfl⟩ := List.mem_map.mp hd
    split_ifs at href ⊢ with hsame
    · rfl
    · exact absurd href hsame
  rw [deviceCreate, hfind] at hfail ⊢
  simp only [deviceApplyConfig] at hfail ⊢
  generalize (if odev.external = true then .applied
    else deviceSetConfig env odev type config) = change at hfail ⊢
  cases change with
  | recreate => exact (growing_gone odev.ref).createDevice_failed hgone hfail
  | _ => cases hfail

theorem deviceCreate_new (hfind : deviceFind t name = none) :
    deviceCreate env t name type config = createDevice env t none name type config := by
  rw [deviceCreate, hfind]

theorem deviceCreate_consistent (ht : t.Consistent)
    (hfail : (deviceCreate env t name type config).1 = none) :
    (deviceCreate env t name type config).2.Consistent := by
  cases hfind : deviceFind t name with
  | some odev => exact (deviceCreate_gone ht hfind hfail).toConsistent
  | none =>
    rw [deviceCreate_new hfind] at hfail ⊢
    exact ((growing_extends t).createDevice_failed ⟨ht, Extends.refl t⟩ hfail).1

theorem SameNames.kept {t' : Devices β} (h : SameNames t t') (hfind : deviceFind t name = none) :
    TableKept t t' name where
  names := h
  users odev hodev := absurd (hfind.symm.trans hodev) (Option.some_ne_none odev).symm
  deps odev hodev := absurd (hfind.symm.trans hodev) (Option.some_ne_none odev).symm

/-- A device that cannot be created leaves the table as it was if and only if there was none of its
name, and for a name with dots no device is made of which the name is not in use. -/
theorem failed_create_iff (ht : t.Consistent)
    (hfail : (deviceCreate env t name type config).1 = none) :
    TableKept t (deviceCreate env t name type config).2 name ↔
      deviceFind t name = none ∧
        (t.canAlloc = true → type = .simple → '.' ∈ name → t.allocated.canAlloc = true →
          ChainInUse env t.allocated.allocated name) := by
  cases hfind : deviceFind t name with
  | some odev =>
    have hgone := deviceCreate_gone ht hfind hfail
    refine iff_of_false (fun hkept => ?_) nofun
    have hsame := hkept.names name
    rw [hfind] at hsame
    obtain ⟨d, hd, href⟩ := Option.map_eq_some_iff.mp hsame
    exact hgone.not_found name d hd href
  | none =>
    rw [deviceCreate_new hfind] at hfail ⊢
    have hkept : TableKept t (createDevice env t none name type config).2 name ↔
        SameNames t (createDevice env t none name type config).2 :=
      ⟨TableKept.names, fun hnames => hnames.kept hfind⟩
    rw [hkept]
    simp only [true_and]
    rcases createDevice_failed hfail with ⟨halloc, heq⟩ | ⟨halloc, hcreated, heq⟩
    · rw [heq, halloc]
      exact iff_of_true (SameNames.refl t) nofun
    · rw [heq, halloc]
      simp only [true_imp_iff]
      have ht' : t.allocated.Consistent := ⟨ht.refs, ht.vlans⟩
      exact typeCreate_failed ht' hcreated

end Failures

/-- Configurations that are texts. -/
def plainEnvironment : Environment String where
  checkEqual _ old new := old == some new

/-- A device on which a VLAN is asked for. -/
def oneDevice : Devices String where
  devs := [{ ifname := "eth0".toList, type := some .simple }]
  next := 1

/-- The id of the VLAN is no number. -/
theorem failed_create_iff_no_number : TableKept oneDevice
    (deviceCreate plainEnvironment oneDevice "eth0.lan".toList .simple "").2 "eth0.lan".toList := by
  refine (failed_create_iff ⟨by decide, by decide⟩ rfl).mpr ⟨by decide, fun _ _ _ _ => ?_⟩
  intro hread
  exact absurd hread (by decide)

/-- The device of a bridge, which has a user. -/
def bridgeDevice : Device String where
  ifname := "br.lan".toList
  type := some .bridge
  config := some ""

def oneBridge : Devices String where
  devs := [bridgeDevice]
  next := 1
  users := [{ ref := 0, dev := 0 }]

/-- The bridge is to be an ordinary device, which cannot be created under its name. The user stays
on the bridge, which cannot be found any more. -/
theorem bridge_lost : ¬∀ (env : Environment String) (t : Devices String) (name : List Char)
    (type : DeviceType) (config : String), t.Consistent →
    (deviceCreate env t name type config).1 = none →
    TableKept t (deviceCreate env t name type config).2 name := by
  intro h
  have ht : oneBridge.Consistent := ⟨by decide, by decide⟩
  have hfind : deviceFind oneBridge "br.lan".toList = some bridgeDevice := rfl
  have hfail : (deviceCreate plainEnvironment oneBridge "br.lan".toList .simple "").1 = none := rfl
  have hkept := h plainEnvironment oneBridge "br.lan".toList .simple "" ht hfail
  obtain ⟨u, hu, -, name, d, hd, href⟩ :=
    hkept.users bridgeDevice hfind _ (List.mem_singleton_self _) rfl
  have huser : u = { ref := 0, dev := 0 } := List.mem_singleton.mp hu
  rw [huser] at href
  exact (deviceCreate_gone ht hfind hfail).not_found name d hd href

end Netifd.FailedCreation
