import Netifd.Device
import Mathlib.Data.List.Basic
import Mathlib.Tactic.Common

/-!
# Alias devices

An alias device passes on what happens to the device it is on, and is told which one that is to
be. While it is active, a new device is parked as that of a second user, and the switch is
completed when the alias is released. Whenever other code can run, it may claim and release the
alias, ask for another device, and do to the devices whatever it likes to. The device of an
alias is another one. The creation of the alias, its end and the claims on the other devices are
left out.
-/

namespace Netifd.AliasDevices
open ReentrantProgram ReentrantProgram.Prog

/-- The bytes of an interface name, without those that end it. -/
abbrev Ifname := List UInt8

def ifnamsiz : ℕ := 16

/-- `strncpy` to the field of a device. -/
def copyIfname (name : Ifname) : Ifname := name.take ifnamsiz

theorem copyIfname_length (name : Ifname) : (copyIfname name).length ≤ ifnamsiz :=
  List.length_take_le ifnamsiz name

theorem copyIfname_of_length {name : Ifname} (h : name.length ≤ ifnamsiz) :
    copyIfname name = name := List.take_of_length_le h

/-- The part of `struct device` that an alias on it depends on, with the number of its other
users. Memory that is not allocated is no device. -/
structure OtherDevice where
  allocated : Bool := false
  ifname : Ifname := []
  ifindex : ℕ := 0
  present : Bool := false
  linkActive : Bool := false
  currentConfig : Bool := false
  users : ℕ := 0

/-- `struct alias_device`, with its device and who has claimed that; all other devices, those of
them that `devices` lists, and `__devlock`. The last two fields are notes: the device that was
asked for last, and the devices that the alias is being switched to, the latest first. -/
structure AliasState where
  active : ℤ := 0
  userClaimed : ℕ → Bool := fun _ => false
  sysPresent : Bool := false
  linkActive : Bool := false
  hidden : Bool := true
  ifindex : ℕ := 0
  ifname : Ifname := []
  dep : Option ℕ := none
  depClaimed : Bool := false
  newDep : Option ℕ := none
  update : Bool := false
  dev : ℕ → OtherDevice := fun _ => {}
  devices : List ℕ := []
  devlock : ℕ := 0
  requested : Option ℕ := none
  switching : List (Option ℕ) := []

namespace AliasState

/-- Change one device. -/
def map (w : AliasState) (d : ℕ) (f : OtherDevice → OtherDevice) : AliasState :=
  { w with dev := fun e => if e = d then f (w.dev e) else w.dev e }

/-- A device has users. -/
def inUse (w : AliasState) (d : ℕ) : Bool :=
  (w.dev d).users != 0 || w.dep == some d || w.newDep == some d

/-- The device that the alias is on or will be on after its release. -/
def pending (w : AliasState) : Option ℕ := if w.update then w.newDep else w.dep

/-- `dep->claimed = true; ++dev->active` for the alias. -/
def claim (w : AliasState) (u : ℕ) : AliasState :=
  { w with
    userClaimed := fun v => if v = u then true else w.userClaimed v
    active := w.active + 1 }

/-- `dep->claimed = false; dev->active--` for the alias. -/
def release (w : AliasState) (u : ℕ) : AliasState :=
  { w with
    userClaimed := fun v => if v = u then false else w.userClaimed v
    active := w.active - 1 }

/-- `dev->active = 0; dep->claimed = false` for the alias. -/
def claimFailed (w : AliasState) (u : ℕ) : AliasState :=
  { w with
    userClaimed := fun v => if v = u then false else w.userClaimed v
    active := 0 }

end AliasState

/-- The `device` attribute of a request: missing, or what `device_get` makes of it. -/
inductive DeviceAttr
  | missing
  | notFound
  | found (d : ℕ)
  | created (d : ℕ) (ifname : Ifname)

/-- A member of the `alias` attribute of a request: the name of the alias, another one, or
nothing that is a string. -/
inductive NameAttr
  | this
  | other
  | invalid

/-- What happens to the alias and to the devices. -/
inductive AliasCall
  | notify (dev : Option ℕ)
  | notifyOther
  | handle (device : DeviceAttr) (names : Option (List NameAttr))
  | claim (u : ℕ)
  | release (u : ℕ)
  | create (d : ℕ) (ifname : Ifname) (listed : Bool)
  | config (d : ℕ) (current : Bool)
  | use (d : ℕ)
  | unuse (d : ℕ)
  | event (d : ℕ) (ev : DeviceEvent)
  | setIfindex (d ifindex : ℕ)
  | setIfname (d : ℕ) (ifname : Ifname)

/-- What other code may do while a call is under way. -/
def AliasCall.isCallback : AliasCall → Bool
  | .handle _ _ => false
  | _ => true

/-- The runs of the code that are considered. In a settled run the alias is asked for a device
that is still there, and not while it is being switched to another one. Nor is it while it is
active without a device, and no claim of it fails while a device is parked. The device that it is
switched to is not freed before it is in use, and neither that device nor the one that the alias
is on gets another name. -/
inductive Discipline
  | any
  | settled
  deriving DecidableEq

abbrev AliasProg := Prog AliasState AliasCall

/-- Other code runs. -/
def callOthers : AliasProg Unit := callbacks AliasCall.isCallback

/-- `device_set_present` for the alias. -/
def deviceSetPresent (state : Bool) : AliasProg Unit := do
  let w ← read
  if w.sysPresent = state then pure ()
  else
    modify fun w => { w with sysPresent := state }
    callOthers

/-- `device_set_link` for the alias. -/
def deviceSetLink (state : Bool) : AliasProg Unit := do
  let w ← read
  if w.linkActive = state then pure ()
  else
    modify fun w => { w with linkActive := state }
    callOthers

/-- `device_set_ifindex` for the alias. -/
def deviceSetIfindex (ifindex : ℕ) : AliasProg Unit := do
  let w ← read
  if w.ifindex = ifindex then pure ()
  else
    modify fun w => { w with ifindex }
    callOthers

/-- `device_set_ifname` for the alias, which is not in `devices`. -/
def deviceSetIfname (name : Ifname) : AliasProg Unit := do
  let w ← read
  if w.ifname = name then pure ()
  else
    modify fun w => { w with ifname := copyIfname name }
    callOthers

/-- `alias_device_cb`, for an alias on the device `d`. -/
def aliasDeviceCb (d : ℕ) (ev : DeviceEvent) : AliasProg Unit := do
  let w ← read
  match ev with
  | .add => deviceSetPresent true
  | .remove => deviceSetPresent false
  | .linkUp => deviceSetLink true
  | .linkDown => deviceSetLink false
  | .updateIfindex => deviceSetIfindex (w.dev d).ifindex
  | _ => callOthers

/-- `device_claim` for the user of the alias. -/
def claimDep : AliasProg ℤ := do
  let w ← read
  if w.depClaimed then pure 0
  else if w.dep = none then pure (-1)
  else
    modify fun w => { w with depClaimed := true }
    callOthers
    let failed ← ask
    if failed = 0 then
      callOthers
      pure 0
    else
      modify fun w => { w with depClaimed := false }
      pure (-1)

/-- `device_release` for the user of the alias. -/
def releaseDep : AliasProg Unit := do
  let w ← read
  if w.depClaimed = false then pure ()
  else
    modify fun w => { w with depClaimed := false }
    callOthers

section Code

variable (m : Discipline)

/-- `__device_free_unused`; the type of the device may call other code. -/
def deviceFreeUnused (d : ℕ) : AliasProg Unit := do
  let w ← read
  if w.inUse d ∨ (w.dev d).currentConfig ∨ w.devlock ≠ 0 then pure ()
  else
    require (m == .any || decide (some d ∉ w.switching))
    modify fun w =>
      { w.map d fun x => { x with allocated := false } with
        devices := w.devices.erase d, devlock := w.devlock + 1 }
    callOthers
    modify fun w => { w with devlock := w.devlock - 1 }

/-- The loop of `device_free_unused` over `devices`. -/
def freeUnusedIn : List ℕ → AliasProg Unit
  | [] => pure ()
  | d :: ds => do
    let w ← read
    whenever (d ∈ w.devices) (deviceFreeUnused m d)
    freeUnusedIn ds

/-- `device_free_unused` for all devices. -/
def deviceFreeAllUnused : AliasProg Unit := do
  let w ← read
  freeUnusedIn m w.devices

def deviceLock : AliasProg Unit := modify fun w => { w with devlock := w.devlock + 1 }

def deviceUnlock : AliasProg Unit := do
  modify fun w => { w with devlock := w.devlock - 1 }
  let w ← read
  whenever (w.devlock = 0) (deviceFreeAllUnused m)

/-- A new device; its memory may have been that of another one. -/
def createDevice (d : ℕ) (name : Ifname) (listed : Bool) : AliasProg Unit := do
  let w ← read
  require (!(w.dev d).allocated)
  modify fun w =>
    { w.map d fun _ => { allocated := true, ifname := copyIfname name } with
      devices := if listed then d :: w.devices else w.devices }

/-- Somebody else becomes a user of a device. -/
def useDevice (d : ℕ) : AliasProg Unit := do
  let w ← read
  require (w.dev d).allocated
  modify fun w => w.map d fun x => { x with users := x.users + 1 }

/-- `device_remove_user` for somebody else. -/
def unuseDevice (d : ℕ) : AliasProg Unit := do
  let w ← read
  require (decide ((w.dev d).users ≠ 0))
  modify fun w => w.map d fun x => { x with users := x.users - 1 }
  deviceFreeUnused m d

/-- `device_broadcast_event` with the change that is broadcasted. -/
def deviceEvent (d : ℕ) (ev : DeviceEvent) : AliasProg Unit := do
  modify fun w => w.map d fun x =>
    match ev with
    | .add => { x with present := true }
    | .remove => { x with present := false }
    | .linkUp => { x with linkActive := true }
    | .linkDown => { x with linkActive := false }
    | _ => x
  let w ← read
  whenever (w.dep = some d) (aliasDeviceCb d ev)

/-- `device_set_ifindex` for another device. -/
def setDeviceIfindex (d ifindex : ℕ) : AliasProg Unit := do
  modify fun w => w.map d fun x => { x with ifindex }
  deviceEvent d .updateIfindex

/-- `device_set_ifname` for another device. -/
def setDeviceIfname (d : ℕ) (name : Ifname) : AliasProg Unit := do
  let w ← read
  require (m == .any || (decide (w.dep ≠ some d) && decide (some d ∉ w.switching)))
  modify fun w => w.map d fun x => { x with ifname := copyIfname name }
  deviceEvent d .updateIfname

/-- `device_remove_user` for the second user of the alias. -/
def removeNewDep : AliasProg Unit := do
  let w ← read
  match w.newDep with
  | none => pure ()
  | some d =>
    modify fun w => { w with newDep := none }
    deviceFreeUnused m d

/-- `device_remove_user` for the user of the alias. -/
def removeDep : AliasProg Unit := do
  let w ← read
  match w.dep with
  | none => pure ()
  | some d =>
    releaseDep
    modify fun w => { w with dep := none }
    deviceFreeUnused m d

/-- `device_add_user` for the second user of the alias, which has no callback. -/
def addNewDep (d : ℕ) : AliasProg Unit := do
  let w ← read
  if w.newDep = some d then pure ()
  else
    removeNewDep m
    modify fun w => { w with newDep := some d }

/-- The alias has got its new device, as far as the notes go. -/
def switched : AliasProg Unit := modify fun w => { w with switching := w.switching.tail }

/-- `__device_add_user` for the user of the alias. -/
def attachDep (d : ℕ) : AliasProg Unit := do
  modify fun w => { w with dep := some d, switching := w.switching.tail }
  let w ← read
  whenever (w.dev d).present do
    aliasDeviceCb d .add
    -- dev->active
    let active ← ask
    whenever (active ≠ 0) (aliasDeviceCb d .up)
    let w ← read
    whenever (w.dev d).linkActive (aliasDeviceCb d .linkUp)

/-- `device_add_user` for the user of the alias. -/
def addDep (d : ℕ) : AliasProg Unit := do
  let w ← read
  if w.dep = some d then switched
  else
    removeDep m
    attachDep d

/-- The end of `alias_set_device`, for an alias that is not active. -/
def moveAlias (dev : Option ℕ) : AliasProg Unit := do
  modify fun w => { w with update := false }
  removeDep m
  modify fun w => { w with hidden := dev.isNone }
  match dev with
  | some d =>
    let w ← read
    deviceSetIfindex (w.dev d).ifindex
    let w ← read
    deviceSetIfname (w.dev d).ifname
    addDep m d
  | none =>
    switched
    deviceSetIfname []
    deviceSetLink false

def aliasSetDevice (dev : Option ℕ) : AliasProg Unit := do
  let w ← read
  if dev = w.dep then
    whenever w.update do
      removeNewDep m
      modify fun w => { w with update := false }
      whenever (dev ≠ none) (deviceSetPresent true)
  else
    modify fun w => { w with switching := dev :: w.switching }
    deviceSetPresent false
    removeNewDep m
    let w ← read
    if w.active ≠ 0 then
      require (m == .any || decide (w.dep ≠ none))
      match dev with
      | some d => addNewDep m d
      | none => pure ()
      modify fun w => { w with update := true, switching := w.switching.tail }
    else moveAlias m dev

def aliasDeviceSetState (state : Bool) : AliasProg ℤ := do
  let w ← read
  if w.dep = none then pure (-1)
  else if state then claimDep
  else
    releaseDep
    let w ← read
    whenever w.update (aliasSetDevice m w.newDep)
    pure 0

/-- `alias_notify_device` for the alias. -/
def aliasNotifyDevice (dev : Option ℕ) : AliasProg Unit := do
  let w ← read
  require (m == .any || (decide (w.switching = []) && dev.all fun d => (w.dev d).allocated))
  deviceLock
  modify fun w => { w with requested := dev }
  aliasSetDevice m dev
  deviceUnlock m

/-- `alias_notify_device` for another name. -/
def aliasNotifyOther : AliasProg Unit := do
  deviceLock
  callOthers
  deviceUnlock m

/-- `device_claim` for the alias. -/
def claimAlias (u : ℕ) : AliasProg ℤ := do
  let w ← read
  if w.userClaimed u then pure 0
  else
    modify fun w => w.claim u
    let w ← read
    if w.active ≠ 1 then pure 0
    else
      callOthers
      let ret ← aliasDeviceSetState m true
      if ret = 0 then
        callOthers
        pure 0
      else
        let w ← read
        require (m == .any || !w.update)
        modify fun w => w.claimFailed u
        pure ret

/-- `device_release` for the alias. -/
def releaseAlias (u : ℕ) : AliasProg Unit := do
  let w ← read
  if w.userClaimed u = false then pure ()
  else
    modify fun w => w.release u
    let w ← read
    -- the assertion
    require (decide (0 ≤ w.active))
    if w.active ≠ 0 then pure ()
    else
      callOthers
      let _ ← aliasDeviceSetState m false
      let w ← read
      if w.active ≠ 0 then pure () else callOthers

/-- The loop of `netifd_handle_alias`. -/
def handleNames (dev : Option ℕ) : List NameAttr → AliasProg ℤ
  | [] => pure 0
  | .this :: names => do
    aliasNotifyDevice m dev
    handleNames dev names
  | .other :: names => do
    aliasNotifyOther m
    handleNames dev names
  | .invalid :: _ => do
    match dev with
    | some d => deviceFreeUnused m d
    | none => deviceFreeAllUnused m
    -- UBUS_STATUS_INVALID_ARGUMENT
    pure 2

def netifdHandleAlias (device : DeviceAttr) (names : Option (List NameAttr)) : AliasProg ℤ := do
  match names with
  | none => pure 2
  | some names =>
    match device with
    | .missing => handleNames m none names
    -- UBUS_STATUS_NOT_FOUND
    | .notFound => pure 4
    | .found d =>
      let w ← read
      require (w.dev d).allocated
      handleNames m (some d) names
    | .created d name =>
      createDevice d name true
      handleNames m (some d) names

/-- The body of each call. -/
def aliasBody : AliasCall → AliasProg ℤ
  | .notify dev => do aliasNotifyDevice m dev; pure 0
  | .notifyOther => do aliasNotifyOther m; pure 0
  | .handle device names => netifdHandleAlias m device names
  | .claim u => claimAlias m u
  | .release u => do releaseAlias m u; pure 0
  | .create d name listed => do createDevice d name listed; pure 0
  | .config d current => do
    modify fun w => w.map d fun x => { x with currentConfig := current }
    pure 0
  | .use d => do useDevice d; pure 0
  | .unuse d => do unuseDevice m d; pure 0
  | .event d ev => do deviceEvent d ev; pure 0
  | .setIfindex d ifindex => do setDeviceIfindex d ifindex; pure 0
  | .setIfname d name => do setDeviceIfname m d name; pure 0

end Code

/-- What holds whenever other code can run: an alias with a parked device is on one; the devices
that it is on or switched to are there; and its name is that of the device it is on. -/
structure Fit (w : AliasState) : Prop where
  placed : w.update → w.dep ≠ none
  nonneg : 0 ≤ w.active
  dep : ∀ d, w.dep = some d → (w.dev d).allocated ∧ w.ifname = (w.dev d).ifname
  newDep : ∀ d, w.newDep = some d → (w.dev d).allocated
  targets : ∀ d, some d ∈ w.switching → (w.dev d).allocated
  short : ∀ d, (w.dev d).ifname.length ≤ ifnamsiz

/-- Moreover the alias is or will be on the device that was asked for, unless it is being
switched right now. -/
structure Sound (w : AliasState) : Prop extends Fit w where
  asked : w.switching = [] → w.pending = w.requested

/-- A parked device is left behind. -/
def Stuck (w : AliasState) : Prop := w.update ∧ w.active = 0

/-- What code may have made of the alias that was not about to switch it. While the alias is
being switched it stays where it is, unless a parked device gets its turn. -/
structure Near (s t : AliasState) : Prop where
  sound : Sound t
  switching : t.switching = s.switching
  names : ∀ d, some d ∈ s.switching → (t.dev d).ifname = (s.dev d).ifname
  requested : s.switching ≠ [] → t.requested = s.requested
  newDep : s.switching ≠ [] → t.newDep = none ∨ t.newDep = s.newDep
  still : s.switching ≠ [] → s.update = false →
    t.update = false ∧ t.dep = s.dep ∧ t.ifname = s.ifname

/-- What other code may have made of the alias. -/
structure Since (s t : AliasState) : Prop extends Near s t where
  stuck : Stuck t → Stuck s

theorem Near.refl {s : AliasState} (h : Sound s) : Near s s :=
  ⟨h, rfl, fun _ _ => rfl, fun _ => rfl, fun _ => Or.inr rfl, fun _ hu => ⟨hu, rfl, rfl⟩⟩

theorem Near.trans {s t u : AliasState} (hst : Near s t) (htu : Near t u) : Near s u where
  sound := htu.sound
  switching := htu.switching.trans hst.switching
  names d hd := (htu.names d (hst.switching ▸ hd)).trans (hst.names d hd)
  requested hs := (htu.requested (hst.switching ▸ hs)).trans (hst.requested hs)
  newDep hs := by
    rcases htu.newDep (hst.switching ▸ hs) with hnone | hsame
    · exact Or.inl hnone
    · rw [hsame]
      exact hst.newDep hs
  still hs hu := by
    obtain ⟨ht, hdep, hname⟩ := hst.still hs hu
    obtain ⟨hu', hdep', hname'⟩ := htu.still (hst.switching ▸ hs) ht
    exact ⟨hu', hdep'.trans hdep, hname'.trans hname⟩

theorem Since.refl {s : AliasState} (h : Sound s) : Since s s := ⟨.refl h, fun hs => hs⟩

theorem Since.trans {s t u : AliasState} (hst : Since s t) (htu : Since t u) : Since s u :=
  ⟨hst.toNear.trans htu.toNear, fun hu => hst.stuck (htu.stuck hu)⟩

/-- What every call does. -/
def settles : Spec AliasState AliasCall := fun _ s _ t => Sound s → Since s t

/-- Other code keeps the property. -/
structure Stable (J : AliasState → Prop) : Prop where
  sound : ∀ t, J t → Sound t
  since : ∀ t u, J t → Since t u → J u

theorem stable_since (s : AliasState) : Stable (Since s) :=
  ⟨fun _ h => h.sound, fun _ _ => Since.trans⟩

theorem stable_near (s : AliasState) : Stable (Near s) :=
  ⟨fun _ h => h.sound, fun _ _ h hsince => h.trans hsince.toNear⟩

theorem Stable.and {J K : AliasState → Prop} (hJ : Stable J)
    (hK : ∀ t u, J t → K t → Since t u → K u) : Stable fun t => J t ∧ K t :=
  ⟨fun t h => hJ.sound t h.1,
    fun t u h hsince => ⟨hJ.since t u h.1 hsince, hK t u h.1 h.2 hsince⟩⟩

/-- The alias as far as somebody depends on it. -/
def AliasState.standing (w : AliasState) :
    Bool × ℤ × Option ℕ × Option ℕ × Ifname × Option ℕ × List (Option ℕ) :=
  (w.update, w.active, w.dep, w.newDep, w.ifname, w.requested, w.switching)

/-- A device that the alias is on or switched to. -/
def Held (w : AliasState) (d : ℕ) : Prop :=
  w.dep = some d ∨ w.newDep = some d ∨ some d ∈ w.switching

/-- A change of a device matters only if the alias holds it. -/
theorem Since.of_devices {s t : AliasState} (h : Sound s) (hstanding : t.standing = s.standing)
    (hallocated : ∀ d, Held s d → (t.dev d).allocated)
    (hnames : ∀ d, s.dep = some d ∨ some d ∈ s.switching → (t.dev d).ifname = (s.dev d).ifname)
    (hshort : ∀ d, (t.dev d).ifname.length ≤ ifnamsiz) : Since s t := by
  obtain ⟨hupdate, hactive, hdep, hnewDep, hname, hrequested, hswitching⟩ :
      t.update = s.update ∧ t.active = s.active ∧ t.dep = s.dep ∧ t.newDep = s.newDep ∧
        t.ifname = s.ifname ∧ t.requested = s.requested ∧ t.switching = s.switching := by
    simpa [AliasState.standing] using hstanding
  have hpending : t.pending = s.pending := by
    rw [AliasState.pending, AliasState.pending, hupdate, hnewDep, hdep]
  refine ⟨⟨⟨⟨?_, ?_, ?_, ?_, ?_, hshort⟩, ?_⟩, hswitching, fun d hd => hnames d (Or.inr hd),
    fun _ => hrequested, fun _ => Or.inr hnewDep, fun _ hu => ?_⟩, ?_⟩
  · rw [hupdate, hdep]
    exact h.placed
  · rw [hactive]
    exact h.nonneg
  · intro d hd
    rw [hdep] at hd
    rw [hname, hnames d (Or.inl hd)]
    exact ⟨hallocated d (Or.inl hd), (h.dep d hd).2⟩
  · intro d hd
    rw [hnewDep] at hd
    exact hallocated d (Or.inr (Or.inl hd))
  · intro d hd
    rw [hswitching] at hd
    exact hallocated d (Or.inr (Or.inr hd))
  · rw [hswitching, hpending, hrequested]
    exact h.asked
  · exact ⟨hupdate.trans hu, hdep, hname⟩
  · rintro ⟨hparked, hidle⟩
    exact ⟨hupdate ▸ hparked, hactive ▸ hidle⟩

theorem Sound.held {w : AliasState} (h : Sound w) {d : ℕ} (hd : Held w d) :
    (w.dev d).allocated := by
  rcases hd with hdep | hnew | htarget
  · exact (h.dep d hdep).1
  · exact h.newDep d hnew
  · exact h.targets d htarget

theorem Since.of_same {s t : AliasState} (h : Sound s) (hstanding : t.standing = s.standing)
    (hdev : t.dev = s.dev) : Since s t := by
  refine .of_devices h hstanding (fun d hd => ?_) (fun d _ => by rw [hdev]) fun d => ?_
  · rw [hdev]
    exact h.held hd
  · rw [hdev]
    exact h.short d

theorem Since.of_map {s t : AliasState} (h : Sound s) (hstanding : t.standing = s.standing) {d : ℕ}
    {f : OtherDevice → OtherDevice} (hdev : t.dev = (s.map d f).dev)
    (hallocated : ∀ x, (f x).allocated = x.allocated) (hname : ∀ x, (f x).ifname = x.ifname) :
    Since s t := by
  have hkept : ∀ e, (t.dev e).allocated = (s.dev e).allocated ∧
      (t.dev e).ifname = (s.dev e).ifname := by
    intro e
    rw [hdev]
    by_cases he : e = d <;> simp [AliasState.map, he, hallocated, hname]
  refine .of_devices h hstanding (fun e he => ?_) (fun e _ => (hkept e).2) fun e => ?_
  · rw [(hkept e).1]
    exact h.held he
  · rw [(hkept e).2]
    exact h.short e

section Programs

variable {J : AliasState → Prop} (hJ : Stable J)

include hJ

theorem modify_stable {f : AliasState → AliasState} (hf : ∀ w, Sound w → Since w (f w)) :
    Preserves settles J (modify f) :=
  Preserves.modify fun w hw => hJ.since w (f w) hw (hf w (hJ.sound w hw))

theorem same_stable {f : AliasState → AliasState} (hstanding : ∀ w, (f w).standing = w.standing)
    (hdev : ∀ w, (f w).dev = w.dev) : Preserves settles J (modify f) :=
  modify_stable hJ fun w hw => .of_same hw (hstanding w) (hdev w)

theorem map_stable (d : ℕ) {f : OtherDevice → OtherDevice}
    (hallocated : ∀ x, (f x).allocated = x.allocated) (hname : ∀ x, (f x).ifname = x.ifname) :
    Preserves settles J (modify fun w => w.map d f) :=
  modify_stable hJ fun _ hw => .of_map hw rfl rfl hallocated hname

theorem callOthers_stable : Preserves settles J callOthers :=
  Preserves.callbacks fun _ s _ t _ hspec hs => hJ.since s t hs (hspec (hJ.sound s hs))

theorem setPresent_stable (state : Bool) : Preserves settles J (deviceSetPresent state) := by
  refine Preserves.after_read fun _ => Preserves.ite (fun _ => Preserves.pure ()) fun _ => ?_
  exact Preserves.bind (same_stable hJ (fun _ => rfl) fun _ => rfl) fun _ => callOthers_stable hJ

theorem setLink_stable (state : Bool) : Preserves settles J (deviceSetLink state) := by
  refine Preserves.after_read fun _ => Preserves.ite (fun _ => Preserves.pure ()) fun _ => ?_
  exact Preserves.bind (same_stable hJ (fun _ => rfl) fun _ => rfl) fun _ => callOthers_stable hJ

theorem setIfindex_stable (ifindex : ℕ) : Preserves settles J (deviceSetIfindex ifindex) := by
  refine Preserves.after_read fun _ => Preserves.ite (fun _ => Preserves.pure ()) fun _ => ?_
  exact Preserves.bind (same_stable hJ (fun _ => rfl) fun _ => rfl) fun _ => callOthers_stable hJ

theorem aliasDeviceCb_stable (d : ℕ) (ev : DeviceEvent) :
    Preserves settles J (aliasDeviceCb d ev) := by
  apply Preserves.after_read
  intro w
  cases ev with
  | add => exact setPresent_stable hJ true
  | remove => exact setPresent_stable hJ false
  | linkUp => exact setLink_stable hJ true
  | linkDown => exact setLink_stable hJ false
  | updateIfindex => exact setIfindex_stable hJ _
  | updateIfname | setup | teardown | up | down | topoChange => exact callOthers_stable hJ

theorem claimDep_stable : Preserves settles J claimDep := by
  have hothers := callOthers_stable hJ
  refine Preserves.after_read fun _ => Preserves.ite (fun _ => Preserves.pure 0) fun _ => ?_
  refine Preserves.ite (fun _ => Preserves.pure _) fun _ => ?_
  refine Preserves.bind (same_stable hJ (fun _ => rfl) fun _ => rfl) fun _ => ?_
  refine hothers.bind fun _ => ?_
  refine Preserves.ask.bind fun _ => Preserves.ite (fun _ => hothers.bind fun _ => ?_) fun _ => ?_
  · exact Preserves.pure 0
  · exact Preserves.bind (same_stable hJ (fun _ => rfl) fun _ => rfl) fun _ => Preserves.pure _

theorem releaseDep_stable : Preserves settles J releaseDep := by
  refine Preserves.after_read fun _ => Preserves.ite (fun _ => Preserves.pure ()) fun _ => ?_
  exact Preserves.bind (same_stable hJ (fun _ => rfl) fun _ => rfl) fun _ => callOthers_stable hJ

theorem freeUnused_stable (d : ℕ) : Preserves settles J (deviceFreeUnused .settled d) := by
  apply Preserves.read_bind
  intro w hw
  rw [wp_ite]
  refine ⟨fun _ => hw, fun hunused => ?_⟩
  rw [wp_bind, wp_require]
  intro hguard
  have htarget : some d ∉ w.switching := by simpa using hguard
  have hsound := hJ.sound w hw
  have hfree : ¬Held w d := by
    rintro (hdep | hnew | hmem)
    · exact hunused (Or.inl (by simp [AliasState.inUse, hdep]))
    · exact hunused (Or.inl (by simp [AliasState.inUse, hnew]))
    · exact htarget hmem
  have hrest : Preserves settles J (do
      callOthers
      modify fun w => { w with devlock := w.devlock - 1 } : AliasProg Unit) :=
    (callOthers_stable hJ).bind fun _ => same_stable hJ (fun _ => rfl) fun _ => rfl
  rw [wp_bind, wp_modify]
  refine hrest _ (hJ.since w _ hw (.of_devices hsound rfl (fun e he => ?_) (fun e _ => ?_) ?_))
  · have hne : e ≠ d := by
      rintro rfl
      exact hfree he
    simp [AliasState.map, hne, hsound.held he]
  · by_cases he : e = d <;> simp [AliasState.map, he]
  · intro e
    by_cases he : e = d <;> simp [AliasState.map, he, hsound.short]

theorem freeUnusedIn_stable (ds : List ℕ) :
    Preserves settles J (freeUnusedIn .settled ds) := by
  induction ds with
  | nil => exact Preserves.pure ()
  | cons d ds ih =>
    refine Preserves.after_read fun _ => Preserves.bind ?_ fun _ => ih
    exact Preserves.whenever fun _ => freeUnused_stable hJ d

theorem freeAllUnused_stable : Preserves settles J (deviceFreeAllUnused .settled) :=
  Preserves.after_read fun w => freeUnusedIn_stable hJ w.devices

theorem lock_stable : Preserves settles J deviceLock :=
  same_stable hJ (fun _ => rfl) fun _ => rfl

theorem unlock_stable : Preserves settles J (deviceUnlock .settled) := by
  refine Preserves.bind ?_ fun _ => Preserves.after_read fun _ => ?_
  · exact same_stable hJ (fun _ => rfl) fun _ => rfl
  · exact Preserves.whenever fun _ => freeAllUnused_stable hJ

theorem createDevice_stable (d : ℕ) (name : Ifname) (listed : Bool) :
    Preserves settles J (createDevice d name listed) := by
  apply Preserves.read_bind
  intro w hw
  rw [wp_bind, wp_require]
  intro hguard
  have hsound := hJ.sound w hw
  have hother : ∀ e, Held w e → e ≠ d := by
    rintro e he rfl
    rw [hsound.held he] at hguard
    cases hguard
  refine hJ.since w _ hw (.of_devices hsound rfl (fun e he => ?_) (fun e he => ?_) fun e => ?_)
  · simp [AliasState.map, hother e he, hsound.held he]
  · have hheld : Held w e := he.elim Or.inl fun h => Or.inr (Or.inr h)
    simp [AliasState.map, hother e hheld]
  · by_cases he : e = d
    · simp [AliasState.map, he, copyIfname_length]
    · simp [AliasState.map, he, hsound.short]

theorem useDevice_stable (d : ℕ) : Preserves settles J (useDevice d) :=
  Preserves.after_read fun _ => (Preserves.require _).bind fun _ =>
    map_stable hJ d (fun _ => rfl) fun _ => rfl

theorem unuseDevice_stable (d : ℕ) : Preserves settles J (unuseDevice .settled d) := by
  refine Preserves.after_read fun _ => (Preserves.require _).bind fun _ => Preserves.bind ?_ ?_
  · exact map_stable hJ d (fun _ => rfl) fun _ => rfl
  · exact fun _ => freeUnused_stable hJ d

theorem deviceEvent_stable (d : ℕ) (ev : DeviceEvent) :
    Preserves settles J (deviceEvent d ev) := by
  refine Preserves.bind ?_ fun _ => Preserves.after_read fun _ => ?_
  · exact map_stable hJ d (fun x => by cases ev <;> rfl) fun x => by cases ev <;> rfl
  · exact Preserves.whenever fun _ => aliasDeviceCb_stable hJ d ev

theorem setDeviceIfindex_stable (d ifindex : ℕ) :
    Preserves settles J (setDeviceIfindex d ifindex) := by
  refine Preserves.bind ?_ fun _ => deviceEvent_stable hJ d .updateIfindex
  exact map_stable hJ d (fun _ => rfl) fun _ => rfl

theorem setDeviceIfname_stable (d : ℕ) (name : Ifname) :
    Preserves settles J (setDeviceIfname .settled d name) := by
  apply Preserves.read_bind
  intro w hw
  rw [wp_bind, wp_require]
  intro hguard
  have hother : w.dep ≠ some d ∧ some d ∉ w.switching := by simpa using hguard
  have hsound := hJ.sound w hw
  rw [wp_bind, wp_modify]
  refine deviceEvent_stable hJ d .updateIfname _
    (hJ.since w _ hw (.of_devices hsound rfl (fun e he => ?_) (fun e he => ?_) fun e => ?_))
  · by_cases hed : e = d
    · subst hed
      simp [AliasState.map, hsound.held he]
    · simp [AliasState.map, hed, hsound.held he]
  · have hne : e ≠ d := by
      rintro rfl
      exact he.elim hother.1 hother.2
    simp [AliasState.map, hne]
  · by_cases he : e = d
    · simp [AliasState.map, he, copyIfname_length]
    · simp [AliasState.map, he, hsound.short]

end Programs

/-- The alias is being switched to `dev`, from the state `s` on. -/
structure Within (dev : Option ℕ) (s t : AliasState) : Prop where
  sound : Sound t
  switching : t.switching = dev :: s.switching
  names : ∀ d, some d ∈ dev :: s.switching → (t.dev d).ifname = (s.dev d).ifname
  requested : t.requested = s.requested

/-- The alias has been switched, or the device is parked. -/
structure Settled (s t : AliasState) : Prop where
  sound : Sound t
  switching : t.switching = s.switching
  names : ∀ d, some d ∈ s.switching → (t.dev d).ifname = (s.dev d).ifname
  requested : s.switching ≠ [] → t.requested = s.requested
  newDep : s.switching ≠ [] → t.newDep = none ∨ t.newDep = s.newDep
  free : ¬Stuck t

theorem Within.busy {dev : Option ℕ} {s t : AliasState} (h : Within dev s t) :
    t.switching ≠ [] := by
  rw [h.switching]
  exact List.cons_ne_nil _ _

theorem stable_within (dev : Option ℕ) (s : AliasState) : Stable (Within dev s) where
  sound _ h := h.sound
  since _ _ h hsince := ⟨hsince.sound, hsince.switching.trans h.switching,
    fun d hd => (hsince.names d (h.switching ▸ hd)).trans (h.names d hd),
    (hsince.requested h.busy).trans h.requested⟩

theorem stable_settled (s : AliasState) : Stable (Settled s) where
  sound _ h := h.sound
  since t u h hsince := by
    refine ⟨hsince.sound, hsince.switching.trans h.switching,
      fun d hd => (hsince.names d (h.switching ▸ hd)).trans (h.names d hd),
      fun hs => (hsince.requested (h.switching ▸ hs)).trans (h.requested hs), fun hs => ?_,
      fun hu => h.free (hsince.stuck hu)⟩
    rcases hsince.newDep (h.switching ▸ hs) with hnone | hsame
    · exact Or.inl hnone
    · rw [hsame]
      exact h.newDep hs

theorem Within.of_fit {dev : Option ℕ} {s t u : AliasState} (h : Within dev s t) (hfit : Fit u)
    (hswitching : u.switching = t.switching) (hdev : u.dev = t.dev)
    (hrequested : u.requested = t.requested) : Within dev s u where
  sound := ⟨hfit, fun hnone => absurd (hswitching ▸ hnone) h.busy⟩
  switching := hswitching.trans h.switching
  names d hd := by
    rw [hdev]
    exact h.names d hd
  requested := hrequested.trans h.requested

theorem Within.settled {dev : Option ℕ} {s t u : AliasState} (h : Within dev s t) (hfit : Fit u)
    (hswitching : u.switching = s.switching) (hdev : u.dev = t.dev)
    (hrequested : u.requested = t.requested) (hpending : u.pending = dev)
    (hasked : s.switching = [] → dev = s.requested)
    (hnewDep : s.switching ≠ [] → u.newDep = none ∨ u.newDep = s.newDep) (hfree : ¬Stuck u) :
    Settled s u where
  sound := by
    refine ⟨hfit, fun hnone => ?_⟩
    rw [hpending, hrequested, h.requested]
    exact hasked (hswitching ▸ hnone)
  switching := hswitching
  names d hd := by
    rw [hdev]
    exact h.names d (List.mem_cons_of_mem _ hd)
  requested _ := hrequested.trans h.requested
  newDep := hnewDep
  free := hfree

theorem freeUnused_skip {m : Discipline} {w : AliasState} {d : ℕ} {Q : AliasState → Prop}
    (hkept : w.inUse d ∨ w.devlock ≠ 0) (hQ : Q w) :
    wp settles (deviceFreeUnused m d) (fun _ t => Q t) w := by
  unfold deviceFreeUnused
  rw [wp_bind, wp_read, wp_ite]
  refine ⟨fun _ => hQ, fun hunused => absurd ?_ hunused⟩
  rcases hkept with huse | hlock
  · exact Or.inl huse
  · exact Or.inr (Or.inr hlock)

theorem removeNewDep_wp {dev : Option ℕ} {s w : AliasState} (h : Within dev s w) :
    wp settles (removeNewDep .settled) (fun _ t => Within dev s t ∧ t.newDep = none) w := by
  have hstable : Stable fun t => Within dev s t ∧ t.newDep = none := by
    refine (stable_within dev s).and fun t u ht hnone hsince => ?_
    rcases hsince.newDep ht.busy with hu | hu
    · exact hu
    · exact hu.trans hnone
  unfold removeNewDep
  rw [wp_bind, wp_read]
  cases hnew : w.newDep with
  | none => exact ⟨h, hnew⟩
  | some d =>
    rw [wp_bind, wp_modify]
    refine freeUnused_stable hstable d _ ⟨h.of_fit ?_ rfl rfl rfl, rfl⟩
    exact ⟨h.sound.placed, h.sound.nonneg, h.sound.dep, (fun e he => by cases he),
      h.sound.targets, h.sound.short⟩

/-- The alias is on no device and is being moved. -/
structure Moving (dev : Option ℕ) (s t : AliasState) : Prop extends Within dev s t where
  newDep : t.newDep = none
  update : t.update = false
  dep : t.dep = none

theorem Moving.nowhere {dev : Option ℕ} {s t : AliasState} (h : Moving dev s t) (d : ℕ) :
    t.dep ≠ some d := by
  rw [h.dep]
  exact (Option.some_ne_none d).symm

theorem stable_moving (dev : Option ℕ) (s : AliasState) : Stable (Moving dev s) where
  sound _ h := h.sound
  since t u h hsince := by
    obtain ⟨hupdate, hdep, _⟩ := hsince.still h.busy h.update
    refine ⟨(stable_within dev s).since t u h.toWithin hsince, ?_, hupdate, hdep.trans h.dep⟩
    rcases hsince.newDep h.busy with hu | hu
    · exact hu
    · exact hu.trans h.newDep

theorem removeDep_wp {dev : Option ℕ} {s w : AliasState} (h : Within dev s w)
    (hnew : w.newDep = none) (hupdate : w.update = false) :
    wp settles (removeDep .settled) (fun _ t => Moving dev s t) w := by
  have hstable : Stable fun t => (Within dev s t ∧ t.newDep = none) ∧ t.update = false := by
    refine Stable.and (.and (stable_within dev s) fun t u ht hnone hsince => ?_)
      fun t u ht hu hsince => (hsince.still ht.1.busy hu).1
    rcases hsince.newDep ht.busy with hu | hu
    · exact hu
    · exact hu.trans hnone
  unfold removeDep
  rw [wp_bind, wp_read]
  cases hdep : w.dep with
  | none => exact ⟨h, hnew, hupdate, hdep⟩
  | some d =>
    refine (releaseDep_stable hstable).followed ⟨⟨h, hnew⟩, hupdate⟩ fun _ t ht => ?_
    rw [wp_bind, wp_modify]
    refine freeUnused_stable (stable_moving dev s) d _
      ⟨ht.1.1.of_fit ?_ rfl rfl rfl, ht.1.2, ht.2, rfl⟩
    have hsound := ht.1.1.sound
    refine ⟨fun hparked => ?_, hsound.nonneg, (fun e he => by cases he), hsound.newDep,
      hsound.targets, hsound.short⟩
    rw [ht.2] at hparked
    cases hparked

theorem setIfname_wp {s w : AliasState} {d : ℕ} (h : Moving (some d) s w) :
    wp settles (deviceSetIfname (w.dev d).ifname)
      (fun _ t => Moving (some d) s t ∧ t.ifname = (s.dev d).ifname) w := by
  have hstable : Stable fun t => Moving (some d) s t ∧ t.ifname = (s.dev d).ifname := by
    refine (stable_moving (some d) s).and fun t u ht hname hsince => ?_
    exact (hsince.still ht.busy ht.update).2.2.trans hname
  have hkept : (w.dev d).ifname = (s.dev d).ifname := h.names d List.mem_cons_self
  unfold deviceSetIfname
  rw [wp_bind, wp_read, wp_ite]
  refine ⟨fun hsame => ⟨h, hsame.trans hkept⟩, fun _ => ?_⟩
  rw [wp_bind, wp_modify]
  have hcopy : copyIfname (w.dev d).ifname = (s.dev d).ifname :=
    (copyIfname_of_length (h.sound.short d)).trans hkept
  refine callOthers_stable hstable _ ⟨⟨h.of_fit ?_ rfl rfl rfl, h.newDep, h.update, h.dep⟩, hcopy⟩
  refine ⟨h.sound.placed, h.sound.nonneg, fun e he => ?_, h.sound.newDep, h.sound.targets,
    h.sound.short⟩
  exact absurd he (h.nowhere e)

section Switch

variable {s : AliasState} {dev : Option ℕ} (hasked : s.switching = [] → dev = s.requested)

include hasked

theorem attachDep_wp {w : AliasState} {d : ℕ} (hdev : dev = some d) (h : Moving dev s w)
    (hname : w.ifname = (s.dev d).ifname) :
    wp settles (attachDep d) (fun _ t => Settled s t) w := by
  have hstable := stable_settled s
  have hcb (ev : DeviceEvent) : Preserves settles (Settled s) (aliasDeviceCb d ev) :=
    aliasDeviceCb_stable hstable d ev
  have hrest : Preserves settles (Settled s) (do
      let w ← read
      whenever (w.dev d).present do
        aliasDeviceCb d .add
        let active ← ask
        whenever (active ≠ 0) (aliasDeviceCb d .up)
        let w ← read
        whenever (w.dev d).linkActive (aliasDeviceCb d .linkUp) : AliasProg Unit) := by
    refine Preserves.after_read fun _ => Preserves.whenever fun _ => (hcb .add).bind fun _ => ?_
    refine Preserves.ask.bind fun _ => (Preserves.whenever fun _ => hcb .up).bind fun _ => ?_
    exact Preserves.after_read fun _ => Preserves.whenever fun _ => hcb .linkUp
  unfold attachDep
  rw [wp_bind, wp_modify]
  subst hdev
  have htail : w.switching.tail = s.switching := by rw [h.switching, List.tail_cons]
  have hsound := h.sound
  have htarget := hsound.targets
  rw [h.switching] at htarget
  refine hrest _ (h.settled ?_ htail rfl rfl ?_ hasked (fun _ => Or.inl h.newDep) ?_)
  · refine ⟨fun _ => Option.some_ne_none d, hsound.nonneg, fun e he => ?_, hsound.newDep,
      fun e he => ?_, hsound.short⟩
    · obtain rfl : d = e := Option.some.inj he
      exact ⟨htarget d List.mem_cons_self, hname.trans (h.names d List.mem_cons_self).symm⟩
    · change some e ∈ w.switching.tail at he
      rw [htail] at he
      exact htarget e (List.mem_cons_of_mem _ he)
  · simp [AliasState.pending, h.update]
  · rintro ⟨hupdate, _⟩
    change w.update = true at hupdate
    rw [h.update] at hupdate
    cases hupdate

/-- An alias that is not active is moved to its new device. -/
theorem moveAlias_wp {w : AliasState} (h : Within dev s w) (hnew : w.newDep = none) :
    wp settles (moveAlias .settled dev) (fun _ t => Settled s t) w := by
  have hmoving := stable_moving dev s
  unfold moveAlias
  rw [wp_bind, wp_modify, wp_bind]
  have hfit : Fit { w with update := false } :=
    ⟨(fun hparked => by cases hparked), h.sound.nonneg, h.sound.dep, h.sound.newDep,
      h.sound.targets, h.sound.short⟩
  refine wp_mono _ (fun _ t ht => ?_) (removeDep_wp (h.of_fit hfit rfl rfl rfl) hnew rfl)
  have hhidden : Preserves settles (Moving dev s)
      (modify fun w => { w with hidden := dev.isNone }) :=
    same_stable hmoving (fun _ => rfl) fun _ => rfl
  refine hhidden.followed ht fun _ t ht => ?_
  cases hdev : dev with
  | none =>
    subst hdev
    have htail : t.switching.tail = s.switching := by rw [ht.switching, List.tail_cons]
    have hsound := ht.sound
    have hsettled : ∀ name, Settled s { t with switching := t.switching.tail, ifname := name } := by
      intro name
      refine ht.settled ?_ htail rfl rfl ?_ hasked (fun _ => Or.inl ht.newDep) ?_
      · refine ⟨hsound.placed, hsound.nonneg, fun e he => ?_, hsound.newDep, fun e he => ?_,
          hsound.short⟩
        · exact absurd he (ht.nowhere e)
        · exact hsound.targets e (List.mem_of_mem_tail he)
      · simp [AliasState.pending, ht.update, ht.dep]
      · rintro ⟨hupdate, _⟩
        change t.update = true at hupdate
        rw [ht.update] at hupdate
        cases hupdate
    have hlink := setLink_stable (stable_settled s) false
    unfold switched deviceSetIfname
    simp only [wp_bind, wp_modify, wp_read, wp_ite, wp_pure]
    refine ⟨fun _ => hlink _ (hsettled t.ifname), fun _ => ?_⟩
    exact (callOthers_stable (stable_settled s)).ends (hsettled _) fun _ u hu => hlink u hu
  | some d =>
    subst hdev
    rw [wp_bind, wp_read]
    refine (setIfindex_stable hmoving _).followed ht fun _ t ht => ?_
    rw [wp_bind, wp_read, wp_bind]
    refine wp_mono _ (fun _ u hu => ?_) (setIfname_wp ht)
    obtain ⟨hu, hname⟩ := hu
    unfold addDep removeDep
    simp only [wp_bind, wp_read, wp_ite, hu.dep]
    refine ⟨(fun hno => by cases hno), fun _ => ?_⟩
    exact attachDep_wp hasked rfl hu hname

/-- A switch ends on the device, or with the device parked. It is one of `alias_notify_device`,
which locks the devices, or one to the device that was parked. -/
theorem aliasSetDevice_wp (hfit : Fit s) (hdev : ∀ d, dev = some d → (s.dev d).allocated)
    (hnewDep : s.switching ≠ [] → dev = s.newDep) (hlock : s.devlock ≠ 0 ∨ dev = s.newDep) :
    wp settles (aliasSetDevice .settled dev) (fun _ t => Settled s t) s := by
  unfold aliasSetDevice
  rw [wp_bind, wp_read, wp_ite]
  constructor
  · intro hsame
    have hsettled : ∀ new, (s.update = false ∧ new = s.newDep ∨ new = none) →
        Settled s { s with newDep := new, update := false } := by
      intro new hnew
      refine ⟨⟨⟨(fun h => by cases h), hfit.nonneg, hfit.dep, fun d hd => ?_, hfit.targets,
        hfit.short⟩, fun hnone => ?_⟩, rfl, fun _ _ => rfl, fun _ => rfl, fun _ => ?_,
        fun hstuck => by cases hstuck.1⟩
      · rcases hnew with ⟨_, rfl⟩ | rfl
        · exact hfit.newDep d hd
        · cases hd
      · exact hsame.symm.trans (hasked hnone)
      · exact hnew.elim (fun h => Or.inr h.2) Or.inl
    rw [wp_whenever]
    refine ⟨fun hupdate => ?_, fun hupdate => ?_⟩
    · have hset : Preserves settles (Settled s)
          (whenever (dev ≠ none) (deviceSetPresent true)) :=
        Preserves.whenever fun _ => setPresent_stable (stable_settled s) true
      unfold removeNewDep
      rw [wp_bind, wp_bind, wp_read]
      cases hnew : s.newDep with
      | none =>
        rw [wp_pure, wp_bind, wp_modify]
        have hstart := hsettled none (Or.inr rfl)
        rw [← hnew] at hstart
        exact hset _ hstart
      | some b =>
        rw [wp_bind, wp_modify]
        apply freeUnused_skip
        · rcases hlock with hlock | hparked
          · exact Or.inr hlock
          · refine Or.inl ?_
            simp [AliasState.inUse, ← hsame, hparked, hnew]
        · rw [wp_bind, wp_modify]
          exact hset _ (hsettled none (Or.inr rfl))
    · have hoff : s.update = false := by simpa using hupdate
      have hstart := hsettled s.newDep (Or.inl ⟨hoff, rfl⟩)
      rw [← hoff] at hstart
      exact hstart
  · intro _
    rw [wp_bind, wp_modify]
    set v : AliasState := { s with switching := dev :: s.switching } with hv
    have hstart : Within dev s v := by
      refine ⟨⟨⟨hfit.placed, hfit.nonneg, hfit.dep, hfit.newDep, fun d hd => ?_, hfit.short⟩,
        fun hnone => by cases hnone⟩, rfl, fun _ _ => rfl, rfl⟩
      rcases List.mem_cons.mp hd with htarget | hmem
      · exact hdev d htarget.symm
      · exact hfit.targets d hmem
    refine (setPresent_stable (stable_within dev s) false).followed hstart fun _ w hw => ?_
    rw [wp_bind]
    refine wp_mono _ (fun _ t ht => ?_) (removeNewDep_wp hw)
    obtain ⟨ht, hnone⟩ := ht
    rw [wp_bind, wp_read, wp_ite]
    refine ⟨fun hactive => ?_, fun _ => moveAlias_wp hasked ht hnone⟩
    rw [wp_bind, wp_require]
    intro hguard
    have hplaced : t.dep ≠ none := by simpa using hguard
    have htail : t.switching.tail = s.switching := by rw [ht.switching, List.tail_cons]
    have hsound := ht.sound
    have hparked : Settled s
        { t with newDep := dev, update := true, switching := t.switching.tail } := by
      refine ht.settled ?_ htail rfl rfl rfl hasked (fun hs => Or.inr (hnewDep hs)) ?_
      · refine ⟨fun _ => hplaced, hsound.nonneg, hsound.dep, fun d hd => ?_, fun d hd => ?_,
          hsound.short⟩
        · refine hsound.targets d ?_
          rw [ht.switching]
          exact List.mem_cons.mpr (Or.inl hd.symm)
        · exact hsound.targets d (List.mem_of_mem_tail hd)
      · exact fun hstuck => hactive hstuck.2
    cases hcase : dev with
    | none =>
      rw [hcase, ← hnone] at hparked
      exact hparked
    | some d =>
      rw [hcase] at hparked
      unfold addNewDep removeNewDep
      simp only [wp_bind, wp_read, wp_ite, hnone, wp_pure, wp_modify]
      exact ⟨(fun h => by cases h), fun _ => hparked⟩

end Switch

theorem setDown_wp {s : AliasState} (h : Sound s) :
    wp settles (aliasDeviceSetState .settled false) (fun _ t => Near s t ∧ ¬Stuck t) s := by
  have hunparked : ∀ t, t.update = false → ¬Stuck t := by
    intro t ht hstuck
    rw [Stuck, ht] at hstuck
    cases hstuck.1
  unfold aliasDeviceSetState
  rw [wp_bind, wp_read, wp_ite]
  refine ⟨fun hnone => ⟨.refl h, fun hstuck => h.placed hstuck.1 hnone⟩, fun _ => ?_⟩
  simp only [Bool.false_eq_true, if_false]
  refine (releaseDep_stable (stable_near s)).followed (.refl h) fun _ t ht => ?_
  rw [wp_bind, wp_read, wp_bind, wp_whenever]
  refine ⟨fun hupdate => ?_, fun hupdate => ⟨ht, hunparked t (by simpa using hupdate)⟩⟩
  have hnear : ∀ u, Settled t u → Near s u ∧ ¬Stuck u := by
    refine fun u hu => ⟨ht.trans ⟨hu.sound, hu.switching, hu.names, hu.requested, hu.newDep,
      fun _ hoff => ?_⟩, hu.free⟩
    rw [hoff] at hupdate
    cases hupdate
  refine wp_mono _ (fun _ u hu => hnear u hu) (aliasSetDevice_wp ?_ ht.sound.toFit
    ht.sound.newDep (fun _ => rfl) (Or.inr rfl))
  intro hidle
  have hasked := ht.sound.asked hidle
  rwa [AliasState.pending, if_pos hupdate] at hasked

section Calls

variable {J : AliasState → Prop} (hJ : Stable J)

include hJ

theorem releaseAlias_stable (u : ℕ) : Preserves settles J (releaseAlias .settled u) := by
  apply Preserves.read_bind
  intro s hs
  have hsound := hJ.sound s hs
  rw [wp_ite]
  refine ⟨fun _ => hs, fun _ => ?_⟩
  rw [wp_bind, wp_modify, wp_bind, wp_read, wp_bind, wp_require]
  intro hassert
  have hnonneg : 0 ≤ (s.release u).active := by simpa using hassert
  have hreleased : Near s (s.release u) :=
    ⟨⟨⟨hsound.placed, hnonneg, hsound.dep, hsound.newDep, hsound.targets, hsound.short⟩,
      hsound.asked⟩, rfl, fun _ _ => rfl, fun _ => rfl, fun _ => Or.inr rfl,
      fun _ hoff => ⟨hoff, rfl, rfl⟩⟩
  have hdone : ∀ t, Near s t ∧ ¬Stuck t → J t := fun t ht =>
    hJ.since s t hs ⟨ht.1, fun hstuck => absurd hstuck ht.2⟩
  have hfree := (stable_near s).and (K := fun t => ¬Stuck t) fun _ _ _ ht hsince hstuck =>
    ht (hsince.stuck hstuck)
  rw [wp_ite]
  refine ⟨fun hactive => hdone _ ⟨hreleased, fun hstuck => hactive hstuck.2⟩, fun _ => ?_⟩
  refine (callOthers_stable (stable_near s)).followed hreleased fun _ t ht => ?_
  rw [wp_bind]
  refine wp_mono _ (fun _ v hv => ?_) (setDown_wp ht.sound)
  have hv' : Near s v ∧ ¬Stuck v := ⟨ht.trans hv.1, hv.2⟩
  rw [wp_bind, wp_read, wp_ite]
  exact ⟨fun _ => hdone v hv', fun _ => (callOthers_stable hfree).ends hv' fun _ => hdone⟩

theorem claimAlias_stable (u : ℕ) : Preserves settles J (claimAlias .settled u) := by
  apply Preserves.read_bind
  intro s hs
  have hsound := hJ.sound s hs
  have hnonneg := hsound.nonneg
  rw [wp_ite]
  refine ⟨fun _ => hs, fun _ => ?_⟩
  rw [wp_bind, wp_modify, wp_bind, wp_read]
  have hpos : 0 < (s.claim u).active := by
    change 0 < s.active + 1
    omega
  have hclaimed : Near s (s.claim u) :=
    ⟨⟨⟨hsound.placed, Int.le_of_lt hpos, hsound.dep, hsound.newDep, hsound.targets, hsound.short⟩,
      hsound.asked⟩, rfl, fun _ _ => rfl, fun _ => rfl, fun _ => Or.inr rfl,
      fun _ hoff => ⟨hoff, rfl, rfl⟩⟩
  have hstart : Near s (s.claim u) ∧ ¬Stuck (s.claim u) :=
    ⟨hclaimed, fun hstuck => absurd hstuck.2 (Int.ne_of_gt hpos)⟩
  have hdone : ∀ t, Near s t ∧ ¬Stuck t → J t := fun t ht =>
    hJ.since s t hs ⟨ht.1, fun hstuck => absurd hstuck ht.2⟩
  have hfree := (stable_near s).and (K := fun t => ¬Stuck t) fun _ _ _ ht hsince hstuck =>
    ht (hsince.stuck hstuck)
  have hup : Preserves settles (fun t => Near s t ∧ ¬Stuck t)
      (aliasDeviceSetState .settled true) := by
    refine Preserves.after_read fun _ => Preserves.ite (fun _ => Preserves.pure _) fun _ => ?_
    exact Preserves.ite (fun _ => claimDep_stable hfree) fun h => absurd rfl h
  rw [wp_ite]
  refine ⟨fun _ => hdone _ hstart, fun _ => ?_⟩
  refine (callOthers_stable hfree).followed hstart fun _ t ht => ?_
  refine hup.followed ht fun ret t ht => ?_
  rw [wp_ite]
  refine ⟨fun _ => ?_, fun _ => ?_⟩
  · exact ((callOthers_stable hfree).bind fun _ => Preserves.pure 0).ends ht fun _ => hdone
  · rw [wp_bind, wp_read, wp_bind, wp_require]
    intro hguard
    have hoff : t.update = false := by simpa using hguard
    have htsound := ht.1.sound
    have hfailed : Near t (t.claimFailed u) :=
      ⟨⟨⟨htsound.placed, Int.le_refl _, htsound.dep, htsound.newDep, htsound.targets, htsound.short⟩,
        htsound.asked⟩, rfl, fun _ _ => rfl, fun _ => rfl, fun _ => Or.inr rfl,
        fun _ hoff => ⟨hoff, rfl, rfl⟩⟩
    refine hdone _ ⟨ht.1.trans hfailed, fun hstuck => ?_⟩
    have hon : t.update = true := hstuck.1
    rw [hoff] at hon
    cases hon

theorem notifyDevice_stable (dev : Option ℕ) :
    Preserves settles J (aliasNotifyDevice .settled dev) := by
  apply Preserves.read_bind
  intro s hs
  have hsound := hJ.sound s hs
  rw [wp_bind, wp_require]
  intro hguard
  obtain ⟨hidle, hallocated⟩ :
      s.switching = [] ∧ dev.all (fun d => (s.dev d).allocated) = true := by
    simpa using hguard
  unfold deviceLock
  rw [wp_bind, wp_modify, wp_bind, wp_modify, wp_bind]
  set v : AliasState := { s with devlock := s.devlock + 1, requested := dev } with hv
  have hfit : Fit v :=
    ⟨hsound.placed, hsound.nonneg, hsound.dep, hsound.newDep, hsound.targets, hsound.short⟩
  have hbusy : ∀ {P : Prop}, s.switching ≠ [] → P := fun h => absurd hidle h
  refine wp_mono _ (fun _ t ht => ?_) (aliasSetDevice_wp (s := v) (fun _ => rfl) hfit
    (fun d hd => ?_) hbusy (Or.inl (Nat.succ_ne_zero _)))
  · refine unlock_stable hJ t (hJ.since s t hs ⟨⟨ht.sound, ht.switching, fun d hd => ?_, hbusy,
      hbusy, hbusy⟩, fun hstuck => absurd hstuck ht.free⟩)
    rw [hidle] at hd
    cases hd
  · subst hd
    simpa using hallocated

theorem notifyOther_stable : Preserves settles J (aliasNotifyOther .settled) :=
  (lock_stable hJ).bind fun _ => (callOthers_stable hJ).bind fun _ => unlock_stable hJ

theorem handleNames_stable (dev : Option ℕ) (names : List NameAttr) :
    Preserves settles J (handleNames .settled dev names) := by
  induction names with
  | nil => exact Preserves.pure 0
  | cons name names ih =>
    cases name with
    | this => exact (notifyDevice_stable hJ dev).bind fun _ => ih
    | other => exact (notifyOther_stable hJ).bind fun _ => ih
    | invalid =>
      cases dev with
      | none => exact (freeAllUnused_stable hJ).bind fun _ => Preserves.pure 2
      | some d => exact (freeUnused_stable hJ d).bind fun _ => Preserves.pure 2

theorem handleAlias_stable (device : DeviceAttr) (names : Option (List NameAttr)) :
    Preserves settles J (netifdHandleAlias .settled device names) := by
  cases names with
  | none => exact Preserves.pure 2
  | some names =>
    cases device with
    | missing => exact handleNames_stable hJ none names
    | notFound => exact Preserves.pure 4
    | found d =>
      exact Preserves.after_read fun _ => (Preserves.require _).bind fun _ =>
        handleNames_stable hJ (some d) names
    | created d name =>
      exact (createDevice_stable hJ d name true).bind fun _ =>
        handleNames_stable hJ (some d) names

theorem aliasBody_stable (p : AliasCall) : Preserves settles J (aliasBody .settled p) := by
  have hdone {code : AliasProg Unit} (hcode : Preserves settles J code) :
      Preserves settles J (do code; pure (0 : ℤ)) := hcode.bind fun _ => Preserves.pure 0
  cases p with
  | notify dev => exact hdone (notifyDevice_stable hJ dev)
  | notifyOther => exact hdone (notifyOther_stable hJ)
  | handle device names => exact handleAlias_stable hJ device names
  | claim u => exact claimAlias_stable hJ u
  | release u => exact hdone (releaseAlias_stable hJ u)
  | create d name listed => exact hdone (createDevice_stable hJ d name listed)
  | config d current => exact hdone (map_stable hJ d (fun _ => rfl) fun _ => rfl)
  | use d => exact hdone (useDevice_stable hJ d)
  | unuse d => exact hdone (unuseDevice_stable hJ d)
  | event d ev => exact hdone (deviceEvent_stable hJ d ev)
  | setIfindex d ifindex => exact hdone (setDeviceIfindex_stable hJ d ifindex)
  | setIfname d name => exact hdone (setDeviceIfname_stable hJ d name)

end Calls

theorem aliasBody_settles : Verified (aliasBody .settled) settles := fun p s =>
  wp_imp _ fun hs => aliasBody_stable (stable_since s) p s (.refl hs)

/-- Any call may come next. -/
def anyCall : AliasCall → AliasState → Bool := fun _ _ => true

/-- An alias that nobody has asked for a device yet. -/
def newAlias : AliasState := {}

theorem newAlias_sound : Sound newAlias where
  placed h := by cases h
  nonneg := Int.le_refl _
  dep d h := by cases h
  newDep d h := by cases h
  targets d h := by cases h
  short d := Nat.zero_le _
  asked _ := rfl

/-- Between the calls of a settled run, an alias that is not active is on the device that was
asked for last, and that device is still there and lends it its name. -/
theorem inactive_alias_on_requested {w : AliasState}
    (run : Reachable (aliasBody .settled) anyCall newAlias w) (hinactive : w.active = 0) :
    w.dep = w.requested ∧
      ∀ d, w.dep = some d → (w.dev d).allocated = true ∧ w.ifname = (w.dev d).ifname := by
  have hsince : Since newAlias w := by
    refine run.invariant aliasBody_settles ?_ (.refl newAlias_sound)
    exact fun p s r t _ hspec hs => hs.trans (hspec hs.sound)
  have hoff : w.update = false := by
    by_contra hupdate
    obtain ⟨hparked, _⟩ := hsince.stuck ⟨by simpa using hupdate, hinactive⟩
    cases hparked
  have hasked := hsince.sound.asked hsince.switching
  rw [AliasState.pending, hoff] at hasked
  exact ⟨hasked, hsince.sound.dep⟩

/-- A device that somebody else uses as well is parked, and the alias is on it once it has been
released. -/
theorem inactive_alias_on_requested_parked : ∃ w,
    Reachable (aliasBody .settled) anyCall newAlias w ∧ w.active = 0 ∧
      w.dep = w.requested ∧ w.dep = some 1 ∧ (w.dev 1).allocated = true ∧
      w.ifname = (w.dev 1).ifname := by
  obtain ⟨w, hw, hactive, hdep⟩ := exists_reachable (aliasBody .settled) anyCall newAlias
    (fun w => w.active = 0 ∧ w.dep = some 1) 100
    [(.create 0 [1] true, []), (.notify (some 0), [.resume]),
      (.claim 0, [.resume, .resume, .pick 0, .resume, .resume]),
      (.create 1 [2] true, []), (.use 1, []), (.notify (some 1), []),
      (.release 0, [.resume, .resume, .resume, .resume, .resume])] (by decide)
  obtain ⟨hasked, hplaced⟩ := inactive_alias_on_requested hw hactive
  exact ⟨w, hw, hactive, hasked, hdep, hplaced 1 hdep⟩

/-- An alias is claimed, a request creates a device for it, and the alias is released: the
device is freed when it is no longer parked, and the alias is on it. -/
theorem parked_device_freed : ∃ w,
    Reachable (aliasBody .any) anyCall newAlias w ∧ w.active = 0 ∧ w.dep = some 1 ∧
      (w.dev 1).allocated = false :=
  exists_reachable (aliasBody .any) anyCall newAlias
    (fun w => w.active = 0 ∧ w.dep = some 1 ∧ (w.dev 1).allocated = false) 100
    [(.create 0 [1] true, []), (.handle (.found 0) (some [.this]), [.resume]),
      (.claim 0, [.resume, .resume, .pick 0, .resume, .resume]),
      (.handle (.created 1 [2]) (some [.this]), []),
      (.release 0, [.resume, .resume, .resume, .resume, .resume, .resume])] (by decide)

end Netifd.AliasDevices
