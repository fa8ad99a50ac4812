import Netifd.Device
import Mathlib.Data.List.Basic
import Mathlib.Tactic.Common

/-!
# Devices that are replaced

`device_replace` moves the ordinary users of a device to another one and frees it. Its aliases are
told that it goes, and have to leave it of their own accord. Whoever is told anything may run any
of the operations. Names and settings of devices are left out; what is done to all devices is
done to one after the other.
-/

namespace Netifd.ReplacedDevices
open ReentrantProgram ReentrantProgram.Prog

/-- The two users of `struct alias_device`. -/
structure AliasDevice where
  dep : ℕ
  newDep : ℕ

/-- The `cb` of a user: missing, `alias_device_cb`, or that of anybody else. -/
inductive UserCb
  | missing
  | aliasCb (a : ℕ)
  | other
  deriving DecidableEq

/-- Which devices are aliases, and the callbacks of the users. -/
structure Setting where
  aliasDevice : ℕ → Option AliasDevice := fun _ => none
  cb : ℕ → UserCb := fun _ => .other
  dep : ∀ a x, aliasDevice a = some x → cb x.dep = .aliasCb a
  newDep : ∀ a x, aliasDevice a = some x → cb x.newDep = .missing

/-- The presence of the devices by cause, and `update` of the alias devices. The last field is a
note of the devices whose users have been moved or that have been freed, or are about to be. -/
structure DeviceData where
  sysPresent : ℕ → Bool := fun _ => false
  disabled : ℕ → Bool := fun _ => false
  deferred : ℕ → Bool := fun _ => false
  update : ℕ → Bool := fun _ => false
  closed : ℕ → Bool := fun _ => false

abbrev DeviceWorld := World DeviceData

/-- What is done to users and devices, by anybody. -/
inductive DeviceCall
  | addUser (u : ℕ) (d : Option ℕ)
  | removeUser (u : ℕ)
  | claim (u : ℕ)
  | release (u : ℕ)
  | broadcast (d : ℕ) (ev : DeviceEvent)
  | setPresent (d : ℕ) (state : Bool)
  | setDisabled (d : ℕ) (value : Bool)
  | setDeferred (d : ℕ) (value : Bool)
  | setLink (d : ℕ) (state : Bool)
  | setIfindex (d ifindex : ℕ)
  | config (d : ℕ) (current : Bool)
  | freeUnused (d : ℕ)
  | lock
  | unlock
  | replace (new old : ℕ)
  | notifyAlias (a : ℕ) (dev : Option ℕ)
  | checkAlias (a : ℕ) (dev : Option ℕ)

/-- The runs of the code that are considered: those in which a device gets no user from the time
that its users are moved, or that it is freed; and those in which no alias is on a device that has
been replaced when it is freed. -/
structure ReplaceGuards where
  attaching : Bool := false
  leaving : Bool := false

abbrev DeviceProg := Prog DeviceWorld DeviceCall

/-- Anything may run. -/
def others : DeviceProg Unit := callbacks fun _ => true

/-- A call of which the result is not used. -/
def perform (p : DeviceCall) : DeviceProg Unit := do
  let _ ← invoke p
  pure ()

/-- One of the flags of a device gets a value. -/
def set (f : ℕ → Bool) (d : ℕ) (b : Bool) : ℕ → Bool := fun e => if e = d then b else f e

/-- Change the data that are not in `struct device`. -/
def updateData (f : DeviceData → DeviceData) : DeviceProg Unit :=
  modify fun w => { w with ext := f w.ext }

/-- A device is about to go. -/
def close (w : DeviceWorld) (d : ℕ) : DeviceWorld :=
  { w with ext := { w.ext with closed := set w.ext.closed d true } }

/-- `device_set_ifname` for an alias device, where the name may be the one that it has. -/
def aliasSetIfname (a : ℕ) : DeviceProg Unit := do
  let changed ← ask
  whenever (changed ≠ 0) (perform (.broadcast a .updateIfname))

def setUpdate (a : ℕ) (b : Bool) : DeviceProg Unit :=
  updateData fun data => { data with update := set data.update a b }

/-- `alias_set_device` if the device is the one that the alias is on. -/
def aliasKeepDevice (a : ℕ) (x : AliasDevice) (dev : Option ℕ) : DeviceProg Unit := do
  let w ← read
  whenever (w.ext.update a) do
    perform (.removeUser x.newDep)
    setUpdate a false
    whenever (dev ≠ none) (perform (.setPresent a true))

def aliasSetDevice (a : ℕ) (x : AliasDevice) (dev : Option ℕ) : DeviceProg Unit := do
  let w ← read
  if dev = (w.user x.dep).dev then aliasKeepDevice a x dev
  else
    perform (.setPresent a false)
    perform (.removeUser x.newDep)
    let w ← read
    if (w.dev a).active ≠ 0 then
      whenever (dev ≠ none) (perform (.addUser x.newDep dev))
      setUpdate a true
    else
      setUpdate a false
      perform (.removeUser x.dep)
      match dev with
      | some d =>
        let w ← read
        perform (.setIfindex a (w.dev d).ifindex)
        aliasSetIfname a
        perform (.addUser x.dep dev)
      | none =>
        aliasSetIfname a
        perform (.setLink a false)

def aliasDeviceSetState (a : ℕ) (x : AliasDevice) (state : Bool) : DeviceProg ℤ := do
  let w ← read
  if (w.user x.dep).dev = none then pure (-1)
  else if state then invoke (.claim x.dep)
  else
    perform (.release x.dep)
    let w ← read
    whenever (w.ext.update a) (aliasSetDevice a x (w.user x.newDep).dev)
    pure 0

/-- `alias_device_cb` for the user `u` of the alias device `a`. -/
def aliasDeviceCb (a u : ℕ) : DeviceEvent → DeviceProg Unit
  | .add => perform (.setPresent a true)
  | .remove => perform (.setPresent a false)
  | .linkUp => perform (.setLink a true)
  | .linkDown => perform (.setLink a false)
  | .updateIfindex => do
    let w ← read
    match (w.user u).dev with
    | some d => perform (.setIfindex a (w.dev d).ifindex)
    | none => modify fun w => { w with fault := true }
  | ev => perform (.broadcast a ev)

def aliasDeviceFree (x : AliasDevice) : DeviceProg Unit := do
  perform (.removeUser x.newDep)
  perform (.removeUser x.dep)

section Code

variable (setting : Setting) (g : ReplaceGuards)

/-- A device that is no alias does whatever it likes to. -/
def deviceHooks : Hooks DeviceData DeviceCall where
  callback u ev :=
    match setting.cb u with
    | .missing => pure ()
    | .aliasCb a => aliasDeviceCb a u ev
    | .other => others
  setState d state :=
    match setting.aliasDevice d with
    | some x => aliasDeviceSetState d x state
    | none => do
      others
      let n ← ask
      pure (-(n : ℤ))
  resolve _ := ask
  free d := do
    modify fun w => close w d
    match setting.aliasDevice d with
    | some x => aliasDeviceFree x
    | none => others

/-- `__device_set_present`. -/
def setDevicePresent (d : ℕ) (state : Bool) : DeviceProg Unit := do
  let w ← read
  if (w.dev d).present = state then pure ()
  else
    modify fun w => w.mapDev d fun x => { x with present := state }
    deviceBroadcastEvent (deviceHooks setting) d (if state then .add else .remove)

def deviceRefreshPresent (d : ℕ) : DeviceProg Unit := do
  let w ← read
  setDevicePresent setting d (w.ext.sysPresent d && !(w.ext.disabled d || w.ext.deferred d))

def deviceSetPresent (d : ℕ) (state : Bool) : DeviceProg Unit := do
  let w ← read
  if w.ext.sysPresent d = state then pure ()
  else
    updateData fun data => { data with sysPresent := set data.sysPresent d state }
    deviceRefreshPresent setting d

def deviceSetDisabled (d : ℕ) (value : Bool) : DeviceProg Unit := do
  updateData fun data => { data with disabled := set data.disabled d value }
  deviceRefreshPresent setting d

def deviceSetDeferred (d : ℕ) (value : Bool) : DeviceProg Unit := do
  updateData fun data => { data with deferred := set data.deferred d value }
  deviceRefreshPresent setting d

def deviceSetLink (d : ℕ) (state : Bool) : DeviceProg Unit := do
  let w ← read
  if (w.dev d).linkActive = state then pure ()
  else
    modify fun w => w.mapDev d fun x => { x with linkActive := state }
    deviceBroadcastEvent (deviceHooks setting) d (if state then .linkUp else .linkDown)

/-- `__device_add_user`. -/
def attachTo (u d : ℕ) : DeviceProg Unit := do
  let w ← read
  require (!g.attaching || !w.ext.closed d)
  attachDeviceUser (deviceHooks setting) u d

/-- `device_add_user`. -/
def addDeviceUser (u : ℕ) (d : Option ℕ) : DeviceProg Unit := do
  let w ← read
  if (w.user u).dev = d then pure ()
  else
    whenever ((w.user u).dev ≠ none) (deviceRemoveUser (deviceHooks setting) u)
    match d with
    | none => pure ()
    | some d => attachTo setting g u d

/-- The loop of `device_replace`, over the users that are still there. -/
def moveUsers (new old : ℕ) : List ℕ → DeviceProg Unit
  | [] => pure ()
  | u :: us => do
    let w ← read
    whenever ((w.user u).dev = some old) do
      deviceRelease (deviceHooks setting) u
      modify fun w => w.detach u
      attachTo setting g u new
    moveUsers new old us

def deviceReplace (new old : ℕ) : DeviceProg Unit := do
  modify fun w => { w with devlock := w.devlock + 1 }
  let w ← read
  whenever (w.dev old).present (deviceSetPresent setting old false)
  modify fun w => close w old
  let w ← read
  moveUsers setting g new old (w.dev old).users
  modify fun w => { w with devlock := w.devlock - 1 }
  let w ← read
  require (!g.leaving || (w.dev old).aliases.isEmpty)
  deviceFree (deviceHooks setting) old

/-- `alias_set_device`, out of `alias_check_state`. An alias that has been freed is not found. -/
def checkAlias (a : ℕ) (dev : Option ℕ) : DeviceProg Unit := do
  let w ← read
  match setting.aliasDevice a with
  | some x => whenever ((w.dev a).freed = false) (aliasSetDevice a x dev)
  | none => pure ()

def aliasNotifyDevice (a : ℕ) (dev : Option ℕ) : DeviceProg Unit := do
  modify fun w => { w with devlock := w.devlock + 1 }
  checkAlias setting a dev
  modify fun w => { w with devlock := w.devlock - 1 }

/-- The body of each call. -/
def deviceBody : DeviceCall → DeviceProg ℤ
  | .addUser u d => do addDeviceUser setting g u d; pure 0
  | .removeUser u => do deviceRemoveUser (deviceHooks setting) u; pure 0
  | .claim u => deviceClaim (deviceHooks setting) u
  | .release u => do deviceRelease (deviceHooks setting) u; pure 0
  | .broadcast d ev => do deviceBroadcastEvent (deviceHooks setting) d ev; pure 0
  | .setPresent d state => do deviceSetPresent setting d state; pure 0
  | .setDisabled d value => do deviceSetDisabled setting d value; pure 0
  | .setDeferred d value => do deviceSetDeferred setting d value; pure 0
  | .setLink d state => do deviceSetLink setting d state; pure 0
  | .setIfindex d ifindex => do deviceSetIfindex (deviceHooks setting) d ifindex; pure 0
  | .config d current => do
    modify fun w => w.mapDev d fun x => { x with currentConfig := current }
    pure 0
  | .freeUnused d => do deviceFreeUnused (deviceHooks setting) d; pure 0
  | .lock => do modify fun w => { w with devlock := w.devlock + 1 }; pure 0
  | .unlock => do modify fun w => { w with devlock := w.devlock - 1 }; pure 0
  | .replace new old => do deviceReplace setting g new old; pure 0
  | .notifyAlias a dev => do aliasNotifyDevice setting a dev; pure 0
  | .checkAlias a dev => do checkAlias setting a dev; pure 0

end Code

/-- The list of a device that a user is in if it is on the device. -/
def ownList (w : DeviceWorld) (u d : ℕ) : List ℕ :=
  if (w.user u).isAlias then (w.dev d).aliases else (w.dev d).users

/-- No user is on the device, but for aliases if these need not leave it. -/
def Deserted (g : ReplaceGuards) (w : DeviceWorld) (d : ℕ) : Prop :=
  ∀ u, g.leaving = true ∨ (w.user u).isAlias = false → (w.user u).dev ≠ some d

/-- Whoever is on a device is in its list, and a device that has been freed is deserted for good.
There may be more in the lists. -/
structure Linked (g : ReplaceGuards) (w : DeviceWorld) : Prop where
  placed : ∀ u d, (w.user u).dev = some d → u ∈ ownList w u d
  closed : ∀ d, (w.dev d).freed = true → w.ext.closed d = true
  deserted : ∀ d, (w.dev d).freed = true → Deserted g w d

/-- From one state to another no user has come to a device that is to go. -/
structure Since (g : ReplaceGuards) (s w : DeviceWorld) : Prop extends Linked g w where
  remains : ∀ d, s.ext.closed d = true → w.ext.closed d = true
  on : ∀ d, s.ext.closed d = true → ∀ u, (w.user u).dev = some d → (s.user u).dev = some d
  kind : ∀ u, (w.user u).isAlias = (s.user u).isAlias

/-- What every call does. -/
def linkedSpec (g : ReplaceGuards) : Spec DeviceWorld DeviceCall := fun _ s _ t =>
  Linked g s → Since g s t

section Relation

variable {g : ReplaceGuards} {s w t : DeviceWorld}

theorem Linked.since (h : Linked g w) : Since g w w where
  toLinked := h
  remains _ hd := hd
  on _ _ _ hu := hu
  kind _ := rfl

theorem Since.trans (h : Since g s w) (h' : Since g w t) : Since g s t where
  toLinked := h'.toLinked
  remains d hd := h'.remains d (h.remains d hd)
  on d hd u hu := h.on d hd u (h'.on d (h.remains d hd) u hu)
  kind u := (h'.kind u).trans (h.kind u)

theorem Since.deserted_of (h : Since g w t) {d : ℕ} (hclosed : w.ext.closed d = true)
    (hd : Deserted g w d) : Deserted g t d := by
  intro u hu hon
  rw [h.kind u] at hu
  exact hd u hu (h.on d hclosed u hon)

theorem Since.congr (h : Since g s w) (hdev : ∀ u, (t.user u).dev = (w.user u).dev)
    (hkind : ∀ u, (t.user u).isAlias = (w.user u).isAlias)
    (husers : ∀ d, (t.dev d).users = (w.dev d).users)
    (haliases : ∀ d, (t.dev d).aliases = (w.dev d).aliases)
    (hfreed : ∀ d, (t.dev d).freed = (w.dev d).freed) (hclosed : t.ext.closed = w.ext.closed) :
    Since g s t where
  placed u d hu := by
    rw [ownList, hkind, husers, haliases]
    exact h.placed u d ((hdev u).symm.trans hu)
  closed d hd := by
    rw [hclosed]
    exact h.closed d ((hfreed d).symm.trans hd)
  deserted d hd u hu := by
    rw [hkind] at hu
    rw [hdev]
    exact h.deserted d ((hfreed d).symm.trans hd) u hu
  remains d hd := by
    rw [hclosed]
    exact h.remains d hd
  on d hd u hu := h.on d hd u ((hdev u).symm.trans hu)
  kind u := (hkind u).trans (h.kind u)

theorem Since.mapDev (h : Since g s w) (d : ℕ) {f : Device → Device}
    (husers : ∀ x, (f x).users = x.users) (haliases : ∀ x, (f x).aliases = x.aliases)
    (hfreed : ∀ x, (f x).freed = x.freed) : Since g s (w.mapDev d f) := by
  refine h.congr (fun _ => rfl) (fun _ => rfl) (fun e => ?_) (fun e => ?_) (fun e => ?_) rfl
  all_goals by_cases he : e = d <;> simp [he, husers, haliases, hfreed]

theorem Since.mapUser (h : Since g s w) (u : ℕ) {f : DeviceUser → DeviceUser}
    (hdev : ∀ x, (f x).dev = x.dev) (hkind : ∀ x, (f x).isAlias = x.isAlias) :
    Since g s (w.mapUser u f) := by
  refine h.congr (fun v => ?_) (fun v => ?_) (fun _ => rfl) (fun _ => rfl) (fun _ => rfl) rfl
  all_goals by_cases hv : v = u <;> simp [hv, hdev, hkind]

theorem Since.recount (h : Since g s w) (u d : ℕ) (claimed : Bool) (count : ℤ → ℤ) :
    Since g s ((w.mapUser u fun x => { x with claimed }).mapDev d fun x =>
      { x with active := count x.active }) := by
  have huser : Since g s (w.mapUser u fun x => { x with claimed }) := by
    apply h.mapUser
    all_goals exact fun _ => rfl
  apply huser.mapDev
  all_goals exact fun _ => rfl

theorem Since.close (h : Since g s w) (d : ℕ) : Since g s (close w d) where
  placed := h.placed
  closed e he := by
    have hclosed := h.closed e he
    simp [ReplacedDevices.close, set, hclosed]
  deserted := h.deserted
  remains e he := by
    have hclosed := h.remains e he
    simp [ReplacedDevices.close, set, hclosed]
  on := h.on
  kind := h.kind

/-- A user comes to a device that stays. -/
theorem Since.attach (h : Since g s w) {d : ℕ} (hopen : w.ext.closed d = false) (u : ℕ) :
    Since g s (w.attach u d) := by
  have hdev : ∀ v, ((w.attach u d).user v).dev = if v = u then some d else (w.user v).dev := by
    intro v
    by_cases hv : v = u <;> simp [World.attach, hv]
  have hkind : ∀ v, ((w.attach u d).user v).isAlias = (w.user v).isAlias := by
    intro v
    by_cases hv : v = u <;> simp [World.attach, hv]
  have hfreed : ∀ e, ((w.attach u d).dev e).freed = (w.dev e).freed := by
    intro e
    by_cases he : e = d
    · by_cases ha : (w.user u).isAlias <;> simp [World.attach, he, ha]
    · simp [World.attach, he]
  have hother : ∀ v e, w.ext.closed e = true → ((w.attach u d).user v).dev = some e →
      (w.user v).dev = some e := by
    intro v e hclosed hv
    rw [hdev] at hv
    split_ifs at hv with hvu
    · obtain rfl := Option.some.inj hv
      rw [hopen] at hclosed
      cases hclosed
    · exact hv
  refine { placed := fun v e hv => ?_, closed := fun e he => ?_,
           deserted := fun e he v hv hon => ?_, remains := h.remains,
           on := fun e he v hv => ?_, kind := fun v => ?_ }
  · rw [hdev] at hv
    rw [ownList, hkind]
    split_ifs at hv with hvu
    · obtain rfl := Option.some.inj hv
      subst hvu
      by_cases ha : (w.user v).isAlias <;> simp [World.attach, ha]
    · have hmem := h.placed v e hv
      rw [ownList] at hmem
      by_cases he : e = d
      · subst he
        by_cases ha : (w.user u).isAlias <;> by_cases hav : (w.user v).isAlias <;>
          simp_all [World.attach]
      · simpa [World.attach, he] using hmem
  · exact h.closed e ((hfreed e).symm.trans he)
  · have he' := (hfreed e).symm.trans he
    rw [hkind] at hv
    exact h.deserted e he' v hv (hother v e (h.closed e he') hon)
  · exact h.on e he v (hother v e (h.remains e he) hv)
  · exact (hkind v).trans (h.kind v)

/-- A user leaves the device that it is on. -/
theorem Since.detach (h : Since g s w) (u : ℕ) : Since g s (w.detach u) := by
  cases hd : (w.user u).dev with
  | none => rwa [detach_of_none hd]
  | some d =>
    have hdev : ∀ v e, ((w.detach u).user v).dev = some e → v ≠ u ∧ (w.user v).dev = some e := by
      intro v e hv
      rw [detach_user] at hv
      split_ifs at hv with hvu
      exact ⟨hvu, hv⟩
    have hkind : ∀ v, ((w.detach u).user v).isAlias = (w.user v).isAlias := by
      intro v
      by_cases hv : v = u <;> simp [World.detach, hd, hv]
    have hfreed : ∀ e, ((w.detach u).dev e).freed = (w.dev e).freed := by
      intro e
      by_cases he : e = d <;> simp [World.detach, hd, he]
    have hext : (w.detach u).ext = w.ext := by simp [World.detach, hd]
    refine { placed := fun v e hv => ?_, closed := fun e he => ?_,
             deserted := fun e he v hv hon => ?_, remains := fun e he => ?_,
             on := fun e he v hv => h.on e he v (hdev v e hv).2, kind := fun v => ?_ }
    · obtain ⟨hvu, hv⟩ := hdev v e hv
      have hmem := h.placed v e hv
      rw [ownList, hkind]
      rw [ownList] at hmem
      by_cases he : e = d
      · subst he
        by_cases hav : (w.user v).isAlias
        all_goals
          simp only [hav, if_true] at hmem ⊢
          simpa [World.detach, hd] using (List.mem_erase_of_ne hvu).mpr hmem
      · simpa [World.detach, hd, he] using hmem
    · rw [hext]
      exact h.closed e ((hfreed e).symm.trans he)
    · rw [hkind] at hv
      exact h.deserted e ((hfreed e).symm.trans he) v hv (hdev v e hon).2
    · rw [hext]
      exact h.remains e he
    · exact (hkind v).trans (h.kind v)

theorem Since.freed (h : Since g s w) {d : ℕ} (hclosed : w.ext.closed d = true)
    (hd : Deserted g w d) :
    Since g s { w.mapDev d fun x => { x with freed := true } with devlock := w.devlock - 1 } where
  placed u e hu := by
    have hmem := h.placed u e hu
    rw [ownList] at hmem ⊢
    by_cases he : e = d
    · subst he
      simpa using hmem
    · simpa [he] using hmem
  closed e he := by
    by_cases hed : e = d
    · rwa [hed]
    · exact h.closed e (by simpa [hed] using he)
  deserted e he := by
    by_cases hed : e = d
    · rwa [hed]
    · exact h.deserted e (by simpa [hed] using he)
  remains := h.remains
  on := h.on
  kind := h.kind

end Relation

section Calls

variable {setting : Setting} {g : ReplaceGuards} {s w : DeviceWorld}

theorem others_keeps : Preserves (linkedSpec g) (Since g s) others :=
  Preserves.callbacks fun _ _ _ _ _ hspec h => h.trans (hspec h.toLinked)

theorem invoke_keeps (p : DeviceCall) : Preserves (linkedSpec g) (Since g s) (invoke p) := by
  intro w hw
  rw [wp_invoke]
  exact fun _ _ hspec => hw.trans (hspec hw.toLinked)

theorem perform_keeps (p : DeviceCall) : Preserves (linkedSpec g) (Since g s) (perform p) :=
  (invoke_keeps p).bind fun _ => Preserves.pure ()

theorem updateData_keeps {f : DeviceData → DeviceData}
    (hf : ∀ data, (f data).closed = data.closed) :
    Preserves (linkedSpec g) (Since g s) (updateData f) := by
  refine Preserves.modify fun w hw => ?_
  exact hw.congr (fun _ => rfl) (fun _ => rfl) (fun _ => rfl) (fun _ => rfl) (fun _ => rfl)
    (hf w.ext)

theorem devlock_keeps (f : ℕ → ℕ) :
    Preserves (linkedSpec g) (Since g s) (modify fun w => { w with devlock := f w.devlock }) :=
  Preserves.modify fun _ hw => hw.congr (fun _ => rfl) (fun _ => rfl) (fun _ => rfl)
    (fun _ => rfl) (fun _ => rfl) rfl

theorem setUpdate_keeps (a : ℕ) (b : Bool) :
    Preserves (linkedSpec g) (Since g s) (setUpdate a b) := by
  unfold setUpdate
  exact updateData_keeps fun _ => rfl

theorem aliasSetIfname_keeps (a : ℕ) : Preserves (linkedSpec g) (Since g s) (aliasSetIfname a) :=
  Preserves.ask.bind fun _ => Preserves.whenever fun _ => perform_keeps _

theorem aliasKeepDevice_keeps (a : ℕ) (x : AliasDevice) (dev : Option ℕ) :
    Preserves (linkedSpec g) (Since g s) (aliasKeepDevice a x dev) := by
  refine Preserves.after_read fun w => Preserves.whenever fun _ => ?_
  refine (perform_keeps _).bind fun _ => (setUpdate_keeps a _).bind fun _ => ?_
  exact Preserves.whenever fun _ => perform_keeps _

theorem aliasSetDevice_keeps (a : ℕ) (x : AliasDevice) (dev : Option ℕ) :
    Preserves (linkedSpec g) (Since g s) (aliasSetDevice a x dev) := by
  refine Preserves.after_read fun w => Preserves.ite (fun _ => aliasKeepDevice_keeps a x dev) ?_
  intro _
  refine (perform_keeps _).bind fun _ => (perform_keeps _).bind fun _ => ?_
  refine Preserves.after_read fun v => Preserves.ite (fun _ => ?_) fun _ => ?_
  · refine Preserves.bind (Preserves.whenever fun _ => perform_keeps _) fun _ => ?_
    exact setUpdate_keeps a _
  · refine (setUpdate_keeps a _).bind fun _ => (perform_keeps _).bind fun _ => ?_
    cases dev with
    | some d =>
      refine Preserves.after_read fun _ => (perform_keeps _).bind fun _ => ?_
      exact (aliasSetIfname_keeps a).bind fun _ => perform_keeps _
    | none => exact (aliasSetIfname_keeps a).bind fun _ => perform_keeps _

theorem aliasDeviceSetState_keeps (a : ℕ) (x : AliasDevice) (state : Bool) :
    Preserves (linkedSpec g) (Since g s) (aliasDeviceSetState a x state) := by
  refine Preserves.after_read fun w => Preserves.ite (fun _ => Preserves.pure _) fun _ => ?_
  refine Preserves.ite (fun _ => invoke_keeps _) fun _ => ?_
  refine (perform_keeps _).bind fun _ => Preserves.after_read fun v => ?_
  refine Preserves.bind (Preserves.whenever fun _ => ?_) fun _ => Preserves.pure _
  exact aliasSetDevice_keeps a x _

theorem aliasDeviceCb_keeps (a u : ℕ) (ev : DeviceEvent) :
    Preserves (linkedSpec g) (Since g s) (aliasDeviceCb a u ev) := by
  cases ev with
  | updateIfindex =>
    refine Preserves.after_read fun w => ?_
    cases (w.user u).dev with
    | some d => exact perform_keeps _
    | none =>
      refine Preserves.modify fun _ hw => ?_
      exact hw.congr (fun _ => rfl) (fun _ => rfl) (fun _ => rfl) (fun _ => rfl) (fun _ => rfl) rfl
  | _ => exact perform_keeps _

theorem aliasDeviceFree_keeps (x : AliasDevice) :
    Preserves (linkedSpec g) (Since g s) (aliasDeviceFree x) :=
  (perform_keeps _).bind fun _ => perform_keeps _

theorem hooks_keep : (deviceHooks setting).Keep (linkedSpec g) (Since g s) where
  callback u ev := by
    unfold deviceHooks
    dsimp only
    cases setting.cb u with
    | missing => exact Preserves.pure _
    | aliasCb a => exact aliasDeviceCb_keeps a u ev
    | other => exact others_keeps
  setState d state := by
    unfold deviceHooks
    dsimp only
    cases setting.aliasDevice d with
    | some x => exact aliasDeviceSetState_keeps d x state
    | none => exact others_keeps.bind fun _ => Preserves.ask.bind fun _ => Preserves.pure _
  resolve _ := Preserves.ask
  ifindex _ d _ hw := hw.mapDev d (fun _ => rfl) (fun _ => rfl) fun _ => rfl

theorem claims_keep : (deviceHooks setting).KeepClaims (linkedSpec g) (Since g s) where
  toKeep := hooks_keep
  claim _ u d hw _ _ := hw.recount u d true (· + 1)
  claimFailed _ u d hw _ := hw.recount u d false fun _ => 0
  release _ u d hw _ _ := (hw.recount u d false (· - 1)).congr (fun _ => rfl) (fun _ => rfl)
    (fun _ => rfl) (fun _ => rfl) (fun _ => rfl) rfl
  adrift _ _ hw _ _ := hw.congr (fun _ => rfl) (fun _ => rfl) (fun _ => rfl) (fun _ => rfl)
    (fun _ => rfl) rfl

theorem free_wp {d : ℕ} (hw : Since g s w) (hd : Deserted g w d) :
    wp (linkedSpec g) (do
      (deviceHooks setting).free d
      modify fun w =>
        { w.mapDev d fun x => { x with freed := true } with devlock := w.devlock - 1 })
      (fun _ t => Since g s t) w := by
  have hclose := hw.close d
  have hclosed : (close w d).ext.closed d = true := by simp [close, set]
  have hends : ∀ t, Since g (close w d) t → Since g s
      { t.mapDev d fun x => { x with freed := true } with devlock := t.devlock - 1 } := fun t ht =>
    (hclose.trans ht).freed (ht.remains d hclosed) (ht.deserted_of hclosed hd)
  have hstart : Since g (close w d) (close w d) := hclose.toLinked.since
  simp only [deviceHooks, wp_bind, wp_modify]
  cases setting.aliasDevice d with
  | some x => exact (aliasDeviceFree_keeps x).ends hstart fun _ t ht => hends t ht
  | none => exact others_keeps.ends hstart fun _ t ht => hends t ht

theorem deviceFree_wp {d : ℕ} (hw : Since g s w) (hclosed : w.ext.closed d = true)
    (hd : Deserted g w d) :
    wp (linkedSpec g) (deviceFree (deviceHooks setting) d) (fun _ t => Since g s t) w := by
  have hlock : Since g w { w with devlock := w.devlock + 1 } :=
    hw.toLinked.since.congr (fun _ => rfl) (fun _ => rfl) (fun _ => rfl) (fun _ => rfl)
      (fun _ => rfl) rfl
  unfold deviceFree
  rw [wp_bind, wp_modify]
  refine (claims_keep.cleanup d).followed hlock fun _ t ht => ?_
  exact free_wp (hw.trans ht) (ht.deserted_of hclosed hd)

theorem freeUnused_keeps (d : ℕ) :
    Preserves (linkedSpec g) (Since g s) (deviceFreeUnused (deviceHooks setting) d) := by
  refine Preserves.read_bind fun w hw => ?_
  split_ifs with hkeep
  · exact hw
  · simp only [World.attached, List.append_eq_nil_iff, not_or, not_not] at hkeep
    obtain ⟨⟨haliases, husers⟩, -⟩ := hkeep
    have hd : Deserted g w d := by
      intro u _ hu
      have hmem := hw.placed u d hu
      rw [ownList, haliases, husers, ite_self] at hmem
      cases hmem
    have hlock : Since g s { w with devlock := w.devlock + 1 } :=
      hw.congr (fun _ => rfl) (fun _ => rfl) (fun _ => rfl) (fun _ => rfl) (fun _ => rfl) rfl
    simp only [deviceFree, deviceCleanup, wp_bind, wp_modify, wp_read, husers, haliases,
      deviceCleanupTo, wp_pure]
    have hfree := @free_wp setting g s _ d hlock hd
    rwa [wp_bind] at hfree

theorem removeUser_keeps (u : ℕ) :
    Preserves (linkedSpec g) (Since g s) (deviceRemoveUser (deviceHooks setting) u) := by
  refine Preserves.after_read fun w => ?_
  cases (w.user u).dev with
  | none => exact Preserves.pure ()
  | some d =>
    have hdetach : Preserves (linkedSpec g) (Since g s) (do
        let w ← read
        require ((deviceHooks setting).mayDetach w u)
        modify fun w => w.detach u
        deviceFreeUnused (deviceHooks setting) d) := by
      refine Preserves.after_read fun _ => (Preserves.require _).bind fun _ => ?_
      exact (Preserves.modify fun w hw => hw.detach u).bind fun _ => freeUnused_keeps d
    refine Preserves.bind (Preserves.modify fun w hw => ?_) fun _ => ?_
    · exact hw.mapUser u (fun _ => rfl) fun _ => rfl
    · refine Preserves.after_read fun v => ?_
      dsimp only
      split_ifs
      · exact (claims_keep.releaseUser u).bind fun _ => hdetach
      · exact hdetach

theorem setDevicePresent_keeps (d : ℕ) (state : Bool) :
    Preserves (linkedSpec g) (Since g s) (setDevicePresent setting d state) := by
  refine Preserves.after_read fun w => Preserves.ite (fun _ => Preserves.pure ()) fun _ => ?_
  refine Preserves.bind (Preserves.modify fun w hw => ?_) fun _ => hooks_keep.broadcast d _
  apply hw.mapDev
  all_goals exact fun _ => rfl

theorem deviceRefreshPresent_keeps (d : ℕ) :
    Preserves (linkedSpec g) (Since g s) (deviceRefreshPresent setting d) :=
  Preserves.after_read fun _ => setDevicePresent_keeps d _

theorem deviceSetPresent_keeps (d : ℕ) (state : Bool) :
    Preserves (linkedSpec g) (Since g s) (deviceSetPresent setting d state) := by
  refine Preserves.after_read fun w => Preserves.ite (fun _ => Preserves.pure ()) fun _ => ?_
  refine Preserves.bind ?_ fun _ => deviceRefreshPresent_keeps d
  apply updateData_keeps
  exact fun _ => rfl

theorem deviceSetDisabled_keeps (d : ℕ) (value : Bool) :
    Preserves (linkedSpec g) (Since g s) (deviceSetDisabled setting d value) := by
  refine Preserves.bind ?_ fun _ => deviceRefreshPresent_keeps d
  apply updateData_keeps
  exact fun _ => rfl

theorem deviceSetDeferred_keeps (d : ℕ) (value : Bool) :
    Preserves (linkedSpec g) (Since g s) (deviceSetDeferred setting d value) := by
  refine Preserves.bind ?_ fun _ => deviceRefreshPresent_keeps d
  apply updateData_keeps
  exact fun _ => rfl

theorem deviceSetLink_keeps (d : ℕ) (state : Bool) :
    Preserves (linkedSpec g) (Since g s) (deviceSetLink setting d state) := by
  refine Preserves.after_read fun w => Preserves.ite (fun _ => Preserves.pure ()) fun _ => ?_
  refine Preserves.bind (Preserves.modify fun w hw => ?_) fun _ => hooks_keep.broadcast d _
  apply hw.mapDev
  all_goals exact fun _ => rfl

theorem checkAlias_keeps (a : ℕ) (dev : Option ℕ) :
    Preserves (linkedSpec g) (Since g s) (checkAlias setting a dev) := by
  refine Preserves.after_read fun w => ?_
  cases setting.aliasDevice a with
  | some x => exact Preserves.whenever fun _ => aliasSetDevice_keeps a x dev
  | none => exact Preserves.pure ()

theorem deserted_of_moved {v t : DeviceWorld} {old : ℕ} (hw : Linked g w)
    (hclosed : w.ext.closed old = true) (h : Since g w v)
    (hmoved : ∀ u ∈ (w.dev old).users, (v.user u).dev ≠ some old) (ht : Since g v t)
    (haliases : g.leaving = true → (t.dev old).aliases = []) : Deserted g t old := by
  intro u hu hon
  have hon' := ht.on old (h.remains old hclosed) u hon
  cases hkind : (t.user u).isAlias with
  | true =>
    have hmem := ht.placed u old hon
    rw [ownList, hkind, if_pos rfl, haliases (hu.resolve_right (by simp [hkind]))] at hmem
    cases hmem
  | false =>
    have hmem := hw.placed u old (h.on old hclosed u hon')
    have hkind' : (w.user u).isAlias = false :=
      (h.kind u).symm.trans ((ht.kind u).symm.trans hkind)
    rw [ownList, hkind', if_neg (by decide)] at hmem
    exact hmoved u hmem hon'

section Attaching

variable (hg : g.attaching = true)

include hg

theorem attachTo_wp (u d : ℕ) (hw : Since g s w) :
    wp (linkedSpec g) (attachTo setting g u d)
      (fun _ t => Since g s t ∧ ∀ e, w.ext.closed e = true → (t.user u).dev ≠ some e) w := by
  simp only [attachTo, wp_bind, wp_read, wp_require, hg, Bool.not_true, Bool.false_or,
    Bool.not_eq_true']
  intro hopen
  have hattach := hw.attach hopen u
  refine wp_mono _ (fun _ t ht => ?_) (hooks_keep.attachUser u d hattach.toLinked.since)
  refine ⟨hattach.trans ht, fun e he hu => ?_⟩
  have hclosed : (w.attach u d).ext.closed e = true := he
  have hon := ht.on e hclosed u hu
  have hat : ((w.attach u d).user u).dev = some d := by simp [World.attach]
  obtain rfl := Option.some.inj (hat.symm.trans hon)
  rw [hopen] at he
  cases he

theorem attachTo_keeps (u d : ℕ) :
    Preserves (linkedSpec g) (Since g s) (attachTo setting g u d) := fun _ hw =>
  wp_mono _ (fun _ _ ht => ht.1) (attachTo_wp hg u d hw)

theorem addDeviceUser_keeps (u : ℕ) (d : Option ℕ) :
    Preserves (linkedSpec g) (Since g s) (addDeviceUser setting g u d) := by
  refine Preserves.after_read fun w => Preserves.ite (fun _ => Preserves.pure ()) fun _ => ?_
  refine Preserves.bind (Preserves.whenever fun _ => removeUser_keeps u) fun _ => ?_
  cases d with
  | none => exact Preserves.pure ()
  | some d => exact attachTo_keeps hg u d

theorem moveUsers_wp {new old : ℕ} {us : List ℕ} (hw : Linked g w)
    (hclosed : w.ext.closed old = true) :
    wp (linkedSpec g) (moveUsers setting g new old us)
      (fun _ t => Since g w t ∧ ∀ u ∈ us, (t.user u).dev ≠ some old) w := by
  induction us generalizing w with
  | nil => exact ⟨hw.since, nofun⟩
  | cons u us ih =>
    have hrest : ∀ t, Since g w t → (t.user u).dev ≠ some old →
        wp (linkedSpec g) (moveUsers setting g new old us)
          (fun _ v => Since g w v ∧ ∀ x ∈ u :: us, (v.user x).dev ≠ some old) t := by
      intro t ht hu
      have hclosed' := ht.remains old hclosed
      refine wp_mono _ (fun _ v hv => ?_) (ih ht.toLinked hclosed')
      refine ⟨ht.trans hv.1, fun x hx => ?_⟩
      rcases List.mem_cons.mp hx with rfl | hx
      · exact fun hon => hu (hv.1.on old hclosed' x hon)
      · exact hv.2 x hx
    rw [moveUsers, wp_bind, wp_read, wp_bind, wp_whenever]
    refine ⟨fun _ => ?_, fun hoff => hrest w hw.since hoff⟩
    refine (claims_keep.releaseUser u).followed hw.since fun _ v hv => ?_
    rw [wp_bind, wp_modify]
    have hdetach := hv.detach u
    refine wp_mono _ (fun _ t ht => ?_) (attachTo_wp hg u new hdetach)
    exact hrest t ht.1 (ht.2 old (hdetach.remains old hclosed))

theorem deviceReplace_keeps (new old : ℕ) :
    Preserves (linkedSpec g) (Since g s) (deviceReplace setting g new old) := by
  refine Preserves.bind (devlock_keeps (· + 1)) fun _ => ?_
  refine Preserves.after_read fun _ => ?_
  refine Preserves.bind (Preserves.whenever fun _ => deviceSetPresent_keeps old false) fun _ => ?_
  intro w hw
  have hclose := hw.close old
  have hclosed : (close w old).ext.closed old = true := by simp [close, set]
  rw [wp_bind, wp_modify, wp_bind, wp_read, wp_bind]
  refine wp_mono _ (fun _ v hv => ?_) (moveUsers_wp hg hclose.toLinked hclosed)
  obtain ⟨hsince, hmoved⟩ := hv
  have hunlock : Since g v { v with devlock := v.devlock - 1 } :=
    hsince.toLinked.since.congr (fun _ => rfl) (fun _ => rfl) (fun _ => rfl) (fun _ => rfl)
      (fun _ => rfl) rfl
  simp only [wp_bind, wp_modify, wp_read, wp_require]
  intro hleave
  have haliases : g.leaving = true → (v.dev old).aliases = [] := fun hleaving => by
    simpa [hleaving] using hleave
  exact deviceFree_wp (hclose.trans (hsince.trans hunlock)) (hsince.remains old hclosed)
    (deserted_of_moved hclose.toLinked hclosed hsince hmoved hunlock haliases)

/-- Every call keeps the lists and the pointers together. -/
theorem deviceBody_verified : Verified (deviceBody setting g) (linkedSpec g) := by
  have hthen : ∀ {s : DeviceWorld} {x : DeviceProg Unit},
      Preserves (linkedSpec g) (Since g s) x →
        Preserves (linkedSpec g) (Since g s) (do x; pure (0 : ℤ)) := fun hx =>
    Preserves.bind hx fun _ => Preserves.pure _
  intro p s
  refine wp_imp _ fun hs => ?_
  cases p with
  | addUser u d => exact hthen (addDeviceUser_keeps hg u d) s hs.since
  | removeUser u => exact hthen (removeUser_keeps u) s hs.since
  | claim u => exact claims_keep.claimUser u s hs.since
  | release u => exact hthen (claims_keep.releaseUser u) s hs.since
  | broadcast d ev => exact hthen (hooks_keep.broadcast d ev) s hs.since
  | setPresent d state => exact hthen (deviceSetPresent_keeps d state) s hs.since
  | setDisabled d value => exact hthen (deviceSetDisabled_keeps d value) s hs.since
  | setDeferred d value => exact hthen (deviceSetDeferred_keeps d value) s hs.since
  | setLink d state => exact hthen (deviceSetLink_keeps d state) s hs.since
  | setIfindex d ifindex => exact hthen (hooks_keep.setIfindex d ifindex) s hs.since
  | config d current =>
    refine hthen (Preserves.modify fun w hw => ?_) s hs.since
    apply hw.mapDev
    all_goals exact fun _ => rfl
  | freeUnused d => exact hthen (freeUnused_keeps d) s hs.since
  | lock => exact hthen (devlock_keeps (· + 1)) s hs.since
  | unlock => exact hthen (devlock_keeps (· - 1)) s hs.since
  | replace new old => exact hthen (deviceReplace_keeps hg new old) s hs.since
  | notifyAlias a dev =>
    refine hthen ((devlock_keeps (· + 1)).bind fun _ => ?_) s hs.since
    exact (checkAlias_keeps a dev).bind fun _ => devlock_keeps (· - 1)
  | checkAlias a dev => exact hthen (checkAlias_keeps a dev) s hs.since

end Attaching

end Calls

/-- Devices that nobody uses yet, and all users. -/
def freshDevices (setting : Setting) (dev : ℕ → Device) : DeviceWorld where
  dev d := { dev d with active := 0, users := [], aliases := [], freed := false }
  user u :=
    { isAlias := match setting.cb u with
        | .aliasCb _ => true
        | _ => false }
  ext := {}

theorem freshDevices_linked (setting : Setting) (g : ReplaceGuards) (dev : ℕ → Device) :
    Linked g (freshDevices setting dev) where
  placed u d hu := by simp [freshDevices] at hu
  closed d hd := by simp [freshDevices] at hd
  deserted d hd := by simp [freshDevices] at hd

def anyCall : DeviceCall → DeviceWorld → Bool := fun _ _ => true

section Runs

variable {setting : Setting} {dev : ℕ → Device} {g : ReplaceGuards} {w : DeviceWorld}

theorem deserted_of_run (hg : g.attaching = true)
    (run : Reachable (deviceBody setting g) anyCall (freshDevices setting dev) w) {d : ℕ}
    (hfreed : (w.dev d).freed = true) : Deserted g w d := by
  have hlinked : Linked g w := run.invariant (deviceBody_verified hg)
    (fun _ _ _ _ _ hspec h => (hspec h).toLinked) (freshDevices_linked setting g dev)
  exact hlinked.deserted d hfreed

theorem ordinary_user_moved {leaving : Bool}
    (run : Reachable (deviceBody setting { attaching := true, leaving }) anyCall
      (freshDevices setting dev) w) {u d : ℕ} (hu : (w.user u).isAlias = false)
    (hd : (w.user u).dev = some d) : (w.dev d).freed = false := by
  cases hfreed : (w.dev d).freed with
  | false => rfl
  | true => exact absurd hd (deserted_of_run rfl run hfreed u (.inr hu))

/-- In a run in which nobody comes to a device that is about to go, and no alias is on a device
that has been replaced when it is freed, no user refers to a device that has been freed. -/
theorem freed_unused_of_run
    (run : Reachable (deviceBody setting { attaching := true, leaving := true }) anyCall
      (freshDevices setting dev) w) {u d : ℕ} (hd : (w.user u).dev = some d) :
    (w.dev d).freed = false := by
  cases hfreed : (w.dev d).freed with
  | false => rfl
  | true => exact absurd hd (deserted_of_run rfl run hfreed u (.inl rfl))

end Runs

/-- The device 2 is the alias of an interface whose main device is the user 20. -/
def oneAlias : Setting where
  aliasDevice a := if a = 2 then some { dep := 10, newDep := 11 } else none
  cb u := if u = 10 then .aliasCb 2 else if u = 11 then .missing else .other
  dep a x h := by
    split_ifs at h with ha
    obtain rfl := Option.some.inj h
    rw [ha]
    rfl
  newDep a x h := by
    split_ifs at h
    obtain rfl := Option.some.inj h
    rfl

/-- The interface goes down when its device is replaced, and its alias leaves the device. -/
theorem freed_unused_of_run_alias : ∃ w,
    Reachable (deviceBody oneAlias { attaching := true, leaving := true }) anyCall
      (freshDevices oneAlias fun _ => {}) w ∧
      (w.user 20).dev = some 1 ∧ (w.user 10).dev = none ∧ (w.dev 0).freed = true ∧
        (w.dev 1).freed = false := by
  obtain ⟨w, hw, hmoved, hleft, hfreed⟩ := exists_reachable
    (deviceBody oneAlias { attaching := true, leaving := true }) anyCall
    (freshDevices oneAlias fun _ => {})
    (fun w => (w.user 20).dev = some 1 ∧ (w.user 10).dev = none ∧ (w.dev 0).freed = true) 200
    [(.addUser 20 (some 0), []), (.setPresent 0 true, [.resume]),
      (.notifyAlias 2 (some 0), [.pick 0]), (.addUser 21 (some 2), [.resume]),
      (.replace 1 0, [.resume, .enter (.notifyAlias 2 none), .pick 0, .resume, .resume])]
    (by decide)
  exact ⟨w, hw, hmoved, hleft, hfreed, freed_unused_of_run hw hmoved⟩

/-- The alias is in use when the device is replaced and is released later. It stays on the old
device, which is freed. -/
theorem active_alias_left_behind : ¬∀ (setting : Setting) (dev : ℕ → Device) (w : DeviceWorld),
    Reachable (deviceBody setting {}) anyCall (freshDevices setting dev) w →
      ∀ u d, (w.user u).dev = some d → (w.dev d).freed = false := by
  intro h
  obtain ⟨w, hw, hon, hfreed⟩ := exists_reachable (deviceBody oneAlias {}) anyCall
    (freshDevices oneAlias fun _ => {})
    (fun w => (w.user 10).dev = some 0 ∧ (w.dev 0).freed = true) 200
    [(.addUser 20 (some 0), []), (.setPresent 0 true, [.resume]),
      (.claim 20, [.resume, .resume, .pick 0, .resume]), (.notifyAlias 2 (some 0), [.pick 0]),
      (.addUser 21 (some 2), [.resume]), (.claim 21, [.resume, .resume]),
      (.replace 1 0, [.resume, .enter (.notifyAlias 2 none), .resume, .resume, .resume, .pick 0,
        .resume, .resume])]
    (by decide)
  have hkept := h oneAlias (fun _ => {}) w hw 10 0 hon
  rw [hfreed] at hkept
  cases hkept

end Netifd.ReplacedDevices
