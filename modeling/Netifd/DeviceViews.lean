import Netifd.Device
import Mathlib.Data.List.Nodup
import Mathlib.Tactic.Common

/-!
# What users know of their devices

A user learns of the presence of its device by `ADD` and `REMOVE`, and an interface of whether
its main device is up and has a link by `UP`, `DOWN`, `LINK_UP` and `LINK_DOWN`. Each event comes
when something changes, and a callback may change it again before all users have been told.
-/

namespace Netifd.DeviceViews
open ReentrantProgram ReentrantProgram.Prog

/-- What there is to know of a device. -/
inductive View
  | present | active | link
  deriving DecidableEq

/-- The presence of the devices by cause, which users are the `main_dev` of an interface, and
what the users have been told last: for `present` whether the last of `ADD` and `REMOVE` was
`ADD`, for the others `enabled` and `link_state` of the interface. -/
structure ViewExt where
  sysPresent : ℕ → Bool := fun _ => false
  disabled : ℕ → Bool := fun _ => false
  deferred : ℕ → Bool := fun _ => false
  isMain : ℕ → Bool := fun _ => false
  told : View → ℕ → Bool := fun _ _ => false

abbrev Views := World ViewExt

/-- How it is. -/
def flag (w : Views) : View → ℕ → Bool
  | .present, d => (w.dev d).present
  | .active, d => decide (0 < (w.dev d).active)
  | .link, d => (w.dev d).linkActive

/-- How it is with the device that a user is on. -/
def actual (w : Views) (k : View) (u : ℕ) : Bool :=
  match (w.user u).dev with
  | some d => flag w k d
  | none => false

/-- All users are concerned with presence, and interfaces with everything. -/
def concerns (w : Views) (k : View) (u : ℕ) : Bool := k == .present || w.ext.isMain u

/-- A user is told something. -/
def tell (w : Views) (k : View) (u : ℕ) (b : Bool) : Views :=
  { w with ext :=
    { w.ext with told := fun l v => if l = k ∧ v = u then b else w.ext.told l v } }

def viewEvent : DeviceEvent → Option (View × Bool)
  | .add => some (.present, true)
  | .remove => some (.present, false)
  | .up => some (.active, true)
  | .down => some (.active, false)
  | .linkUp => some (.link, true)
  | .linkDown => some (.link, false)
  | _ => none

section Guards

variable (g : View → Bool) (w : Views)

/-- What a user is told is so with the device that it is on. -/
def mayTell (k : View) (u : ℕ) (b : Bool) : Bool :=
  !g k || !concerns w k u || actual w k u == b

/-- What a user has been told by then is so with the device that it gets, and what is so it knows,
or it will be told since the device is present. -/
def mayAttach (u d : ℕ) : Bool :=
  [View.present, .active, .link].all fun k => !g k || !concerns w k u ||
    ((!w.ext.told k u || flag w k d) && (!flag w k d || w.ext.told k u || (w.dev d).present))

/-- No interface has been told that a device is up whose bring-up fails. -/
def mayFail (d : ℕ) : Bool :=
  !g .active || (w.attached d).all fun v => !w.ext.isMain v || !w.ext.told .active v

/-- An interface that is about to lose its main device has been told that it is not so any
more. -/
def mayLeave (ks : List View) (u : ℕ) : Bool :=
  ks.all fun k => !g k || !w.ext.isMain u || !w.ext.told k u

end Guards

/-- The operations on users and devices, as calls of their own or out of a callback. -/
inductive ViewCall
  | addUser (u : ℕ) (d : Option ℕ)
  | removeUser (u : ℕ)
  | claim (u : ℕ)
  | release (u : ℕ)
  | setPresent (d : ℕ) (state : Bool)
  | setDisabled (d : ℕ) (value : Bool)
  | setDeferred (d : ℕ) (value : Bool)
  | setLink (d : ℕ) (state : Bool)

/-- Whatever else may run. -/
def others : Prog Views ViewCall Unit := callbacks fun _ => true

section Programs

variable (g : View → Bool)

/-- Every callback takes note of what it is told, and it and every state change may run any of
the operations. An interface that is taken off its device has been told that the given flags are
not set any more. -/
def viewHooks (ks : List View := []) : Hooks ViewExt ViewCall where
  callback u ev :=
    match viewEvent ev with
    | some (k, b) => do
      let w ← read
      require (mayTell g w k u b)
      modify fun w => tell w k u b
      others
    | none => others
  setState _ _ := do
    others
    let n ← ask
    pure (-(n : ℤ))
  resolve _ := ask
  free _ := pure ()
  mayFail := fun w _ d => mayFail g w d
  mayDetach := fun w u => mayLeave g w ks u

/-- `__device_set_present`. -/
def setDevicePresent (d : ℕ) (state : Bool) : Prog Views ViewCall Unit := do
  let w ← read
  if (w.dev d).present = state then pure ()
  else
    modify fun w => w.mapDev d fun x => { x with present := state }
    deviceBroadcastEvent (viewHooks g) d (if state then .add else .remove)

def deviceRefreshPresent (d : ℕ) : Prog Views ViewCall Unit := do
  let w ← read
  setDevicePresent g d (w.ext.sysPresent d && !(w.ext.disabled d || w.ext.deferred d))

/-- One of the causes of presence gets a value. -/
def set (f : ℕ → Bool) (d : ℕ) (b : Bool) : ℕ → Bool := fun e => if e = d then b else f e

def deviceSetPresent (d : ℕ) (state : Bool) : Prog Views ViewCall Unit := do
  let w ← read
  if w.ext.sysPresent d = state then pure ()
  else
    modify fun w => { w with ext := { w.ext with sysPresent := set w.ext.sysPresent d state } }
    deviceRefreshPresent g d

def deviceSetDisabled (d : ℕ) (value : Bool) : Prog Views ViewCall Unit := do
  modify fun w => { w with ext := { w.ext with disabled := set w.ext.disabled d value } }
  deviceRefreshPresent g d

def deviceSetDeferred (d : ℕ) (value : Bool) : Prog Views ViewCall Unit := do
  modify fun w => { w with ext := { w.ext with deferred := set w.ext.deferred d value } }
  deviceRefreshPresent g d

def deviceSetLink (d : ℕ) (state : Bool) : Prog Views ViewCall Unit := do
  let w ← read
  if (w.dev d).linkActive = state then pure ()
  else
    modify fun w => w.mapDev d fun x => { x with linkActive := state }
    deviceBroadcastEvent (viewHooks g) d (if state then .linkUp else .linkDown)

/-- `device_add_user` for a device. -/
def addUserTo (u d : ℕ) : Prog Views ViewCall Unit := do
  let w ← read
  if (w.user u).dev = some d then pure ()
  else
    deviceRemoveUser (viewHooks g) u
    let w ← read
    require (mayAttach g w u d)
    attachDeviceUser (viewHooks g) u d

/-- `interface_set_main_dev`, where what is done to the interface and to its `l3_dev` runs other
operations. -/
def interfaceSetMainDev (u : ℕ) (d : Option ℕ) : Prog Views ViewCall Unit := do
  let w ← read
  if (w.user u).dev = d then pure ()
  else
    others
    match d with
    | some d => addUserTo g u d
    | none =>
      deviceRemoveUser (viewHooks g [.active]) u
      modify fun w => tell w .link u false
    others

/-- The body of each operation. -/
def viewBody : ViewCall → Prog Views ViewCall ℤ
  | .addUser u d => do
    let w ← read
    if w.ext.isMain u then interfaceSetMainDev g u d
    else
      match d with
      | some d => addUserTo g u d
      | none => deviceRemoveUser (viewHooks g) u
    pure 0
  | .removeUser u => do deviceRemoveUser (viewHooks g [.active, .link]) u; pure 0
  | .claim u => deviceClaim (viewHooks g) u
  | .release u => do deviceRelease (viewHooks g) u; pure 0
  | .setPresent d state => do deviceSetPresent g d state; pure 0
  | .setDisabled d value => do deviceSetDisabled g d value; pure 0
  | .setDeferred d value => do deviceSetDeferred g d value; pure 0
  | .setLink d state => do deviceSetLink g d state; pure 0

end Programs

/-- The lists of the devices agree with the pointers of the users, and a count falls below zero
only where an assertion fails. -/
structure Linked (w : Views) : Prop where
  nodup : ∀ d, (w.attached d).Nodup
  mem : ∀ u d, u ∈ w.attached d ↔ (w.user u).dev = some d
  sound : w.fault = false → ∀ d, 0 ≤ (w.dev d).active

/-- A user has been told how it is; nothing has to be known of the presence of no device. -/
def Agrees (w : Views) (k : View) (u : ℕ) : Prop :=
  k = .present ∧ (w.user u).dev = none ∨ w.ext.told k u = actual w k u

/-- A user has been told how it is, or it had not been told before and is where it was. -/
def Settled (k : View) (s w : Views) (u : ℕ) : Prop :=
  Agrees w k u ∨
    ¬Agrees s k u ∧ (w.user u).dev = (s.user u).dev ∧ w.ext.told k u = s.ext.told k u

/-- From one state to another all users that are concerned are settled, but for some that are
told apart by their device and by what they have been told. Counts mean something only until an
assertion fails. -/
structure TracksBut (P : ℕ → Option ℕ → Bool → Prop) (k : View) (s w : Views) : Prop where
  linked : Linked w
  isMain : w.ext.isMain = s.ext.isMain
  fault : s.fault = true → w.fault = true
  settled : (k = .active → w.fault = false) → ∀ u, concerns w k u = true →
    Settled k s w u ∨ P u (w.user u).dev (w.ext.told k u)

/-- All users are settled. -/
abbrev Tracks (k : View) (s w : Views) : Prop := TracksBut (fun _ _ _ => False) k s w

/-- What every call does to what is known. -/
def viewSpec (k : View) : Spec Views ViewCall := fun _ s _ t => Linked s → Tracks k s t

theorem actual_of_dev {w : Views} {u d : ℕ} (h : (w.user u).dev = some d) (k : View) :
    actual w k u = flag w k d := by simp only [actual, h]

section Relation

variable {P Q : ℕ → Option ℕ → Bool → Prop} {k : View} {s w t : Views}

theorem Settled.refl (k : View) (s : Views) (u : ℕ) : Settled k s s u := by
  by_cases h : Agrees s k u
  · exact Or.inl h
  · exact Or.inr ⟨h, rfl, rfl⟩

theorem Tracks.refl (hs : Linked s) : Tracks k s s where
  linked := hs
  isMain := rfl
  fault := id
  settled _ u _ := Or.inl (Settled.refl k s u)

theorem sound_of_sound (hfault : w.fault = true → t.fault = true)
    (hsound : k = .active → t.fault = false) : k = .active → w.fault = false := by
  intro hk
  by_contra hf
  have hlater := hfault (by simpa using hf)
  simp [hsound hk] at hlater

theorem settled_congr {u : ℕ} (hdev : (t.user u).dev = (w.user u).dev)
    (htold : t.ext.told k u = w.ext.told k u) (hactual : actual t k u = actual w k u) :
    Settled k s t u ↔ Settled k s w u := by
  have hagrees : Agrees t k u ↔ Agrees w k u := by rw [Agrees, hdev, htold, hactual, Agrees]
  rw [Settled, hagrees, hdev, htold, Settled]

theorem TracksBut.trans (h : TracksBut P k s w) (h' : Tracks k w t) : TracksBut P k s t where
  linked := h'.linked
  isMain := h'.isMain.trans h.isMain
  fault hf := h'.fault (h.fault hf)
  settled hsound u hu := by
    have hsound' := sound_of_sound h'.fault hsound
    have hu' : concerns w k u = true := by rwa [concerns, ← h'.isMain]
    rcases h'.settled hsound u hu with (hagrees | ⟨hnot, hdev, htold⟩) | hfalse
    · exact Or.inl (Or.inl hagrees)
    · rcases h.settled hsound' u hu' with (hagrees | ⟨hnot', hdev', htold'⟩) | hP
      · exact absurd hagrees hnot
      · exact Or.inl (Or.inr ⟨hnot', hdev.trans hdev', htold.trans htold'⟩)
      · right
        rwa [hdev, htold]
    · exact hfalse.elim

theorem TracksBut.mono (h : TracksBut P k s w)
    (hPQ : (k = .active → w.fault = false) → ∀ u, concerns w k u = true →
      P u (w.user u).dev (w.ext.told k u) →
        Settled k s w u ∨ Q u (w.user u).dev (w.ext.told k u)) : TracksBut Q k s w where
  linked := h.linked
  isMain := h.isMain
  fault := h.fault
  settled hsound u hu := by
    rcases h.settled hsound u hu with hsettled | hP
    · exact Or.inl hsettled
    · exact hPQ hsound u hu hP

theorem TracksBut.congr (h : TracksBut P k s w) (ht : Linked t)
    (hmain : t.ext.isMain = w.ext.isMain) (hfault : w.fault = true → t.fault = true)
    (hdev : ∀ u, (t.user u).dev = (w.user u).dev)
    (htold : ∀ u, t.ext.told k u = w.ext.told k u)
    (hflag : (k = .active → t.fault = false) → ∀ d, flag t k d = flag w k d) :
    TracksBut P k s t where
  linked := ht
  isMain := hmain.trans h.isMain
  fault hf := hfault (h.fault hf)
  settled hsound u hu := by
    have hu' : concerns w k u = true := by rwa [concerns, ← hmain]
    have hactual : actual t k u = actual w k u := by
      unfold actual
      rw [hdev]
      cases (w.user u).dev with
      | none => rfl
      | some d => exact hflag hsound d
    rw [settled_congr (hdev u) (htold u) hactual, hdev, htold]
    exact h.settled (sound_of_sound hfault hsound) u hu'

theorem TracksBut.change (h : Tracks k s w) (ht : Linked t) (d : ℕ)
    (hmain : t.ext.isMain = w.ext.isMain) (hfault : w.fault = true → t.fault = true)
    (hdev : ∀ u, (t.user u).dev = (w.user u).dev)
    (htold : ∀ u, t.ext.told k u = w.ext.told k u)
    (hflag : ∀ e, e ≠ d → flag t k e = flag w k e) :
    TracksBut (fun _ x _ => x = some d) k s t where
  linked := ht
  isMain := hmain.trans h.isMain
  fault hf := hfault (h.fault hf)
  settled hsound u hu := by
    by_cases hd : (t.user u).dev = some d
    · exact Or.inr hd
    · left
      have hu' : concerns w k u = true := by rwa [concerns, ← hmain]
      have hactual : actual t k u = actual w k u := by
        rw [hdev] at hd
        unfold actual
        rw [hdev]
        cases hx : (w.user u).dev with
        | none => rfl
        | some e =>
          refine hflag e ?_
          rintro rfl
          exact hd hx
      rw [settled_congr (hdev u) (htold u) hactual]
      exact (h.settled (sound_of_sound hfault hsound) u hu').resolve_right id

end Relation

section Lists

variable {w v : Views}

theorem Linked.congr (h : Linked w) (hl : ∀ d, v.attached d = w.attached d)
    (hd : ∀ u, (v.user u).dev = (w.user u).dev)
    (hsound : v.fault = false → ∀ d, 0 ≤ (v.dev d).active) : Linked v where
  nodup d := by rw [hl]; exact h.nodup d
  mem u d := by rw [hl, hd]; exact h.mem u d
  sound := hsound

theorem Linked.listed (h : Linked w) : w.Listed := ⟨h.nodup, h.mem⟩

theorem Linked.mapDev (h : Linked w) (d : ℕ) {f : Device → Device}
    (hu : ∀ x, (f x).users = x.users) (hl : ∀ x, (f x).aliases = x.aliases)
    (ha : ∀ x, (f x).active = x.active) : Linked (w.mapDev d f) := by
  refine h.congr (attached_mapDev w d · hu hl) (fun _ => rfl) ?_
  intro hf e
  have hnonneg := h.sound hf e
  by_cases he : e = d
  · simpa [he, ha] using he ▸ hnonneg
  · simpa [he] using hnonneg

theorem Linked.mapUser (h : Linked w) (u : ℕ) {f : DeviceUser → DeviceUser}
    (hd : ∀ x, (f x).dev = x.dev) : Linked (w.mapUser u f) := by
  refine h.congr (fun _ => rfl) ?_ h.sound
  intro x
  by_cases hx : x = u <;> simp [hx, hd]

theorem Linked.claim (h : Linked w) (u d : ℕ) : Linked (w.claim u d) := by
  refine h.congr (attached_mapDev _ d · (fun _ => rfl) (fun _ => rfl)) ?_ ?_
  · intro x
    by_cases hx : x = u <;> simp [World.claim, hx]
  · intro hf e
    have hnonneg := h.sound hf e
    by_cases he : e = d
    · subst he
      simp only [World.claim, World.mapDev_dev, if_true, World.mapUser_dev]
      omega
    · simpa [World.claim, he] using hnonneg

theorem Linked.release (h : Linked w) (u d : ℕ) : Linked (w.release u d) := by
  refine h.congr ?_ ?_ ?_
  · intro e
    by_cases he : e = d <;> simp [World.release, World.attached, he]
  · intro x
    by_cases hx : x = u <;> simp [World.release, hx]
  · intro hf e
    simp only [World.release, Bool.or_eq_false_iff, decide_eq_false_iff_not] at hf
    have hnonneg := h.sound hf.1 e
    by_cases he : e = d
    · subst he
      simpa [World.release] using hf.2
    · simpa [World.release, he] using hnonneg

theorem Linked.claimFailed (h : Linked w) (u d : ℕ) : Linked (w.claimFailed u d) := by
  refine h.congr (attached_mapDev _ d · (fun _ => rfl) (fun _ => rfl)) ?_ ?_
  · intro x
    by_cases hx : x = u <;> simp [World.claimFailed, hx]
  · intro hf e
    have hnonneg := h.sound hf e
    by_cases he : e = d
    · simp [World.claimFailed, he]
    · simpa [World.claimFailed, he] using hnonneg

theorem attach_dev (w : Views) (u d x : ℕ) :
    ((w.attach u d).user x).dev = if x = u then some d else (w.user x).dev := by
  by_cases hx : x = u <;> simp [World.attach, hx]

theorem Linked.attach (h : Linked w) {u : ℕ} (d : ℕ) (hd : (w.user u).dev = none) :
    Linked (w.attach u d) := by
  have hlisted := h.listed.attach d hd
  refine ⟨hlisted.nodup, hlisted.mem, fun hf e => ?_⟩
  have hactive : ((w.attach u d).dev e).active = (w.dev e).active := by
    by_cases he : e = d
    · by_cases ha : (w.user u).isAlias <;> simp [World.attach, he, ha]
    · simp [World.attach, he]
  rw [hactive]
  exact h.sound hf e

theorem Linked.detach (h : Linked w) (u : ℕ) : Linked (w.detach u) := by
  have hlisted := h.listed.detach u
  refine ⟨hlisted.nodup, hlisted.mem, fun hf e => ?_⟩
  cases hd : (w.user u).dev with
  | none =>
    rw [detach_of_none hd] at hf ⊢
    exact h.sound hf e
  | some d =>
    have hnonneg := h.sound (by simpa [World.detach, hd] using hf) e
    by_cases he : e = d <;> simpa [World.detach, hd, he] using hnonneg

end Lists

section Telling

variable {g : View → Bool} {ks : List View} {k : View} {P : ℕ → Option ℕ → Bool → Prop} {s : Views}

theorem others_keeps : Preserves (viewSpec k) (TracksBut P k s) others :=
  Preserves.callbacks fun _ _ _ _ _ hspec h => h.trans (hspec h.linked)

theorem tell_other {l : View} (hl : l ≠ k) (u : ℕ) (b : Bool) {w : Views}
    (h : TracksBut P k s w) : TracksBut P k s (tell w l u b) := by
  refine h.congr (h.linked.congr (fun _ => rfl) (fun _ => rfl) h.linked.sound) rfl id
    (fun _ => rfl) ?_ fun _ _ => rfl
  intro x
  simp [tell, Ne.symm hl]

theorem tell_settled {u : ℕ} {b : Bool} {w : Views} (h : TracksBut P k s w)
    (htrue : concerns w k u = true → actual w k u = b) :
    TracksBut (fun v x y => v ≠ u ∧ P v x y) k s (tell w k u b) where
  linked := h.linked.congr (fun _ => rfl) (fun _ => rfl) h.linked.sound
  isMain := h.isMain
  fault := h.fault
  settled hsound v hv := by
    by_cases hvu : v = u
    · subst hvu
      refine Or.inl (Or.inl (Or.inr ?_))
      have hactual : actual (tell w k v b) k v = actual w k v := rfl
      rw [hactual, htrue hv]
      simp [tell]
    · have htold : (tell w k u b).ext.told k v = w.ext.told k v := by simp [tell, hvu]
      have hagrees : Agrees (tell w k u b) k v ↔ Agrees w k v := by
        rw [Agrees, htold]
        rfl
      rw [Settled, hagrees, htold]
      rcases h.settled hsound v hv with hsettled | hP
      · exact Or.inl hsettled
      · exact Or.inr ⟨hvu, hP⟩

variable (hg : g k = true)

include hg

theorem callback_settles {u : ℕ} {ev : DeviceEvent} {b : Bool} (hev : viewEvent ev = some (k, b))
    {w : Views} (h : TracksBut P k s w) : wp (viewSpec k) ((viewHooks g ks).callback u ev)
      (fun _ t => TracksBut (fun v x y => v ≠ u ∧ P v x y) k s t) w := by
  simp only [viewHooks, hev, wp_bind, wp_read, wp_require, wp_modify]
  intro hmay
  apply others_keeps
  apply tell_settled h
  intro hu
  simpa [mayTell, hg, hu] using hmay

theorem callback_keeps (u : ℕ) (ev : DeviceEvent) :
    Preserves (viewSpec k) (TracksBut P k s) ((viewHooks g ks).callback u ev) := by
  intro w h
  cases hev : viewEvent ev with
  | none =>
    simp only [viewHooks, hev]
    exact others_keeps w h
  | some e =>
    obtain ⟨l, b⟩ := e
    by_cases hl : l = k
    · subst hl
      refine wp_mono _ (fun _ t ht => ?_) (callback_settles hg hev h)
      exact ht.mono fun _ v _ hv => Or.inr hv.2
    · simp only [viewHooks, hev, wp_bind, wp_read, wp_require, wp_modify]
      intro _
      exact others_keeps _ (tell_other hl u b h)

theorem broadcastTo_keeps (d : ℕ) (ev : DeviceEvent) (us : List ℕ) :
    Preserves (viewSpec k) (TracksBut P k s) (deviceBroadcastTo (viewHooks g ks) d ev us) := by
  induction us with
  | nil => exact Preserves.pure ()
  | cons u us ih =>
    apply Preserves.read_bind
    intro w h
    split_ifs
    · exact (callback_keeps hg u ev).bind (fun _ => ih) w h
    · exact ih w h

theorem broadcast_keeps (d : ℕ) (ev : DeviceEvent) :
    Preserves (viewSpec k) (TracksBut P k s) (deviceBroadcastEvent (viewHooks g ks) d ev) :=
  Preserves.read_bind fun w h => broadcastTo_keeps hg d ev _ w h

theorem broadcastTo_settles {d : ℕ} {ev : DeviceEvent} {b : Bool}
    (hev : viewEvent ev = some (k, b)) (us : List ℕ) :
    ∀ w, TracksBut (fun v x _ => v ∈ us ∧ x = some d) k s w →
      wp (viewSpec k) (deviceBroadcastTo (viewHooks g ks) d ev us) (fun _ t => Tracks k s t) w := by
  induction us with
  | nil => exact fun w h => h.mono fun _ v _ hv => absurd hv.1 List.not_mem_nil
  | cons u us ih =>
    intro w h
    simp only [deviceBroadcastTo, wp_bind, wp_read]
    split_ifs with hd
    · rw [wp_bind]
      refine wp_mono _ (fun _ t ht => ih t ?_) (callback_settles hg hev h)
      refine ht.mono fun _ v _ hv => Or.inr ⟨?_, hv.2.2⟩
      exact (List.mem_cons.mp hv.2.1).resolve_left hv.1
    · apply ih
      refine h.mono fun _ v _ hv => Or.inr ⟨?_, hv.2⟩
      refine (List.mem_cons.mp hv.1).resolve_left ?_
      rintro rfl
      exact hd hv.2

theorem broadcast_settles {d : ℕ} {ev : DeviceEvent} {b : Bool}
    (hev : viewEvent ev = some (k, b)) {w : Views}
    (h : TracksBut (fun _ x _ => x = some d) k s w) :
    wp (viewSpec k) (deviceBroadcastEvent (viewHooks g ks) d ev) (fun _ t => Tracks k s t) w := by
  simp only [deviceBroadcastEvent, wp_bind, wp_read]
  apply broadcastTo_settles hg hev
  exact h.mono fun _ v _ hv => Or.inr ⟨(h.linked.mem v d).mpr hv, hv⟩

end Telling

end Netifd.DeviceViews
