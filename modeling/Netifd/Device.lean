import Netifd.ReentrantProgram
import Mathlib.Data.List.Perm.Basic
import Mathlib.Data.List.Nodup
import Mathlib.Tactic.Common

/-!
# Devices and their users

The reference counting of `device.c`. A device keeps its users in two lists, one for
ordinary users and one for aliases; a user points back at its device and holds a claim
on it or not. Callbacks, the state change of a device and the freeing of its type are
hooks, because every kind of user and of device supplies its own.
-/

namespace Netifd
open ReentrantProgram ReentrantProgram.Prog

/-- The events of `enum device_event`. -/
inductive DeviceEvent
  | add | remove
  | updateIfname | updateIfindex
  | setup | teardown | up | down
  | linkUp | linkDown
  | topoChange
  deriving DecidableEq

/-- The part of `struct device` that its users depend on. -/
structure Device where
  ifindex : ℕ := 0
  present : Bool := false
  active : ℤ := 0
  linkActive : Bool := false
  external : Bool := false
  currentConfig : Bool := false
  users : List ℕ := []
  aliases : List ℕ := []
  freed : Bool := false

structure DeviceUser where
  dev : Option ℕ := none
  claimed : Bool := false
  hotplug : Bool := false
  isAlias : Bool := false

/-- All devices and users, `__devlock`, and a flag that an assertion has failed or a
`NULL` pointer was followed. The devices' own data are in `ext`. -/
structure World (ε : Type) where
  dev : ℕ → Device
  user : ℕ → DeviceUser
  devlock : ℕ := 0
  fault : Bool := false
  ext : ε

namespace World

variable {ε : Type}

/-- Change one device. -/
def mapDev (w : World ε) (d : ℕ) (f : Device → Device) : World ε :=
  { w with dev := fun e => if e = d then f (w.dev e) else w.dev e }

/-- Change one user. -/
def mapUser (w : World ε) (u : ℕ) (f : DeviceUser → DeviceUser) : World ε :=
  { w with user := fun v => if v = u then f (w.user v) else w.user v }

@[simp] theorem mapDev_dev (w : World ε) (d e : ℕ) (f : Device → Device) :
    (w.mapDev d f).dev e = if e = d then f (w.dev e) else w.dev e := rfl

@[simp] theorem mapDev_user (w : World ε) (d : ℕ) (f : Device → Device) :
    (w.mapDev d f).user = w.user := rfl

@[simp] theorem mapDev_fault (w : World ε) (d : ℕ) (f : Device → Device) :
    (w.mapDev d f).fault = w.fault := rfl

@[simp] theorem mapDev_ext (w : World ε) (d : ℕ) (f : Device → Device) :
    (w.mapDev d f).ext = w.ext := rfl

@[simp] theorem mapUser_dev (w : World ε) (u : ℕ) (f : DeviceUser → DeviceUser) :
    (w.mapUser u f).dev = w.dev := rfl

@[simp] theorem mapUser_user (w : World ε) (u v : ℕ) (f : DeviceUser → DeviceUser) :
    (w.mapUser u f).user v = if v = u then f (w.user v) else w.user v := rfl

@[simp] theorem mapUser_fault (w : World ε) (u : ℕ) (f : DeviceUser → DeviceUser) :
    (w.mapUser u f).fault = w.fault := rfl

@[simp] theorem mapUser_ext (w : World ε) (u : ℕ) (f : DeviceUser → DeviceUser) :
    (w.mapUser u f).ext = w.ext := rfl

/-- Everybody attached to a device. -/
def attached (w : World ε) (d : ℕ) : List ℕ := (w.dev d).aliases ++ (w.dev d).users

/-- `dep->claimed = true; ++dev->active`. -/
def claim (w : World ε) (u d : ℕ) : World ε :=
  (w.mapUser u fun x => { x with claimed := true }).mapDev d fun x =>
    { x with active := x.active + 1 }

/-- `dep->claimed = false; dev->active--; assert(dev->active >= 0)`. -/
def release (w : World ε) (u d : ℕ) : World ε :=
  let w := (w.mapUser u fun x => { x with claimed := false }).mapDev d fun x =>
    { x with active := x.active - 1 }
  { w with fault := w.fault || decide ((w.dev d).active < 0) }

/-- `dev->active = 0; dep->claimed = false`, the failure branch of a claim. -/
def claimFailed (w : World ε) (u d : ℕ) : World ε :=
  (w.mapUser u fun x => { x with claimed := false }).mapDev d fun x => { x with active := 0 }

/-- `dep->dev = dev; safe_list_add(&dep->list, head)`. -/
def attach (w : World ε) (u d : ℕ) : World ε :=
  (w.mapUser u fun x => { x with dev := some d }).mapDev d fun x =>
    if (w.user u).isAlias then { x with aliases := u :: x.aliases }
    else { x with users := u :: x.users }

/-- `safe_list_del(&dep->list); dep->dev = NULL`. -/
def detach (w : World ε) (u : ℕ) : World ε :=
  match (w.user u).dev with
  | none => w
  | some d =>
    (w.mapUser u fun x => { x with dev := none }).mapDev d fun x =>
      { x with users := x.users.erase u, aliases := x.aliases.erase u }

end World

/-- What the kinds of users and devices supply, and which runs are considered: a claim may
fail, and a user may be taken off its device, only in states that `mayFail` and
`mayDetach` admit. The code itself admits all of them. -/
structure Hooks (ε ρ : Type) where
  callback : ℕ → DeviceEvent → Prog (World ε) ρ Unit
  setState : ℕ → Bool → Prog (World ε) ρ ℤ
  resolve : ℕ → Prog (World ε) ρ ℕ
  free : ℕ → Prog (World ε) ρ Unit
  mayFail : World ε → ℕ → ℕ → Bool := fun _ _ _ => true
  mayDetach : World ε → ℕ → Bool := fun _ _ => true

section Functions

variable {ε ρ : Type} (h : Hooks ε ρ)

/-- `device_broadcast_cb` for the users of a device that are still on it. -/
def deviceBroadcastTo (d : ℕ) (ev : DeviceEvent) : List ℕ → Prog (World ε) ρ Unit
  | [] => pure ()
  | u :: us => do
    let w ← read
    if (w.user u).dev = some d then h.callback u ev
    deviceBroadcastTo d ev us

/-- `device_broadcast_event`: first the aliases, then the users. -/
def deviceBroadcastEvent (d : ℕ) (ev : DeviceEvent) : Prog (World ε) ρ Unit := do
  let w ← read
  deviceBroadcastTo h d ev (w.attached d)

def deviceSetIfindex (d ifindex : ℕ) : Prog (World ε) ρ Unit := do
  let w ← read
  if (w.dev d).ifindex = ifindex then pure ()
  else
    modify fun w => w.mapDev d fun x => { x with ifindex := ifindex }
    deviceBroadcastEvent h d .updateIfindex

/-- The bring-up of a device: an external one only needs its interface index, any other
is switched on by its own function. -/
def deviceBringUp (d : ℕ) : Prog (World ε) ρ ℤ := do
  let w ← read
  if (w.dev d).external then
    let ifindex ← h.resolve d
    deviceSetIfindex h d ifindex
    let w ← read
    if (w.dev d).ifindex = 0 then pure (-1) else pure 0
  else h.setState d true

def deviceClaim (u : ℕ) : Prog (World ε) ρ ℤ := do
  let w ← read
  if (w.user u).claimed then pure 0
  else match (w.user u).dev with
    | none => pure (-1)
    | some d => do
      modify fun w => w.claim u d
      let w ← read
      if (w.dev d).active ≠ 1 then pure 0
      else
        deviceBroadcastEvent h d .setup
        let ret ← deviceBringUp h d
        if ret = 0 then
          deviceBroadcastEvent h d .up
          pure ret
        else
          let w ← read
          require (h.mayFail w u d)
          modify fun w => w.claimFailed u d
          pure ret

def deviceRelease (u : ℕ) : Prog (World ε) ρ Unit := do
  let w ← read
  if (w.user u).claimed = false then pure ()
  else match (w.user u).dev with
    | none => modify fun w => { w with fault := true }
    | some d => do
      modify fun w => w.release u d
      let w ← read
      if (w.dev d).active ≠ 0 then pure ()
      else
        deviceBroadcastEvent h d .teardown
        let w ← read
        if (w.dev d).external = false then
          let _ ← h.setState d false
        let w ← read
        if (w.dev d).active ≠ 0 then pure ()
        else deviceBroadcastEvent h d .down

/-- `device_cleanup_cb` for the users of a device that are still on it. -/
def deviceCleanupTo (d : ℕ) : List ℕ → Prog (World ε) ρ Unit
  | [] => pure ()
  | u :: us => do
    let w ← read
    if (w.user u).dev = some d then
      h.callback u .remove
      deviceRelease h u
    deviceCleanupTo d us

/-- `device_cleanup`: first the users, then the aliases. -/
def deviceCleanup (d : ℕ) : Prog (World ε) ρ Unit := do
  let w ← read
  deviceCleanupTo h d (w.dev d).users
  let w ← read
  deviceCleanupTo h d (w.dev d).aliases

def deviceFree (d : ℕ) : Prog (World ε) ρ Unit := do
  modify fun w => { w with devlock := w.devlock + 1 }
  deviceCleanup h d
  h.free d
  modify fun w =>
    { w.mapDev d fun x => { x with freed := true } with devlock := w.devlock - 1 }

def deviceFreeUnused (d : ℕ) : Prog (World ε) ρ Unit := do
  let w ← read
  if w.attached d ≠ [] ∨ (w.dev d).currentConfig ∨ w.devlock ≠ 0 then pure ()
  else deviceFree h d

def deviceRemoveUser (u : ℕ) : Prog (World ε) ρ Unit := do
  let w ← read
  match (w.user u).dev with
  | none => pure ()
  | some d => do
    modify fun w => w.mapUser u fun x => { x with hotplug := false }
    let w ← read
    if (w.user u).claimed then deviceRelease h u
    let w ← read
    require (h.mayDetach w u)
    modify fun w => w.detach u
    deviceFreeUnused h d

/-- `__device_add_user`. -/
def attachDeviceUser (u d : ℕ) : Prog (World ε) ρ Unit := do
  modify fun w => w.attach u d
  let w ← read
  if (w.dev d).present then
    h.callback u .add
    let w ← read
    if (w.dev d).active ≠ 0 then h.callback u .up
    let w ← read
    if (w.dev d).linkActive then h.callback u .linkUp

/-- `device_add_user`; a missing device takes the user off the one it is on. -/
def deviceAddUser (u : ℕ) (d : Option ℕ) : Prog (World ε) ρ Unit := do
  let w ← read
  if (w.user u).dev = d then pure ()
  else
    if (w.user u).dev ≠ none then deviceRemoveUser h u
    match d with
    | none => pure ()
    | some d => attachDeviceUser h u d

end Functions

section Lists

variable {ε : Type}

@[simp] theorem attached_mapUser (w : World ε) (u e : ℕ) (f : DeviceUser → DeviceUser) :
    (w.mapUser u f).attached e = w.attached e := rfl

theorem attached_mapDev (w : World ε) (d e : ℕ) {f : Device → Device}
    (hu : ∀ x, (f x).users = x.users) (ha : ∀ x, (f x).aliases = x.aliases) :
    (w.mapDev d f).attached e = w.attached e := by
  by_cases he : e = d <;> simp [World.attached, he, hu, ha]

@[simp] theorem attached_claim (w : World ε) (u d e : ℕ) :
    (w.claim u d).attached e = w.attached e :=
  attached_mapDev _ d e (fun _ => rfl) (fun _ => rfl)

@[simp] theorem attached_release (w : World ε) (u d e : ℕ) :
    (w.release u d).attached e = w.attached e := by
  by_cases he : e = d <;> simp [World.release, World.attached, he]

@[simp] theorem attached_claimFailed (w : World ε) (u d e : ℕ) :
    (w.claimFailed u d).attached e = w.attached e :=
  attached_mapDev _ d e (fun _ => rfl) (fun _ => rfl)

theorem attached_attach (w : World ε) (u d : ℕ) :
    ((w.attach u d).attached d).Perm (u :: w.attached d) := by
  by_cases ha : (w.user u).isAlias
  · simp [World.attach, World.attached, ha]
  · simp [World.attach, World.attached, ha, List.perm_middle]

theorem attached_attach_of_ne (w : World ε) {u d e : ℕ} (he : e ≠ d) :
    (w.attach u d).attached e = w.attached e := by
  simp [World.attach, World.attached, he]

theorem detach_of_none {w : World ε} {u : ℕ} (hd : (w.user u).dev = none) : w.detach u = w := by
  simp [World.detach, hd]

theorem attached_detach {w : World ε} {u d : ℕ} (hd : (w.user u).dev = some d) :
    (w.detach u).attached d = (w.dev d).aliases.erase u ++ (w.dev d).users.erase u := by
  simp [World.detach, hd, World.attached]

theorem attached_detach_of_ne {w : World ε} {u d e : ℕ} (hd : (w.user u).dev = some d)
    (he : e ≠ d) : (w.detach u).attached e = w.attached e := by
  simp [World.detach, hd, World.attached, he]

theorem detach_user (w : World ε) (u v : ℕ) :
    ((w.detach u).user v).dev = if v = u then none else (w.user v).dev := by
  cases hd : (w.user u).dev with
  | none =>
    rw [detach_of_none hd]
    split_ifs with hv
    · rw [hv, hd]
    · rfl
  | some d => by_cases hv : v = u <;> simp [World.detach, hd, hv]

theorem detach_dev (w : World ε) (u : ℕ) : ((w.detach u).user u).dev = none := by
  simp [detach_user]

/-- The lists of the devices agree with the pointers of the users. -/
structure World.Listed (w : World ε) : Prop where
  nodup : ∀ d, (w.attached d).Nodup
  mem : ∀ u d, u ∈ w.attached d ↔ (w.user u).dev = some d

namespace World.Listed

variable {w : World ε}

theorem attach (h : w.Listed) {u : ℕ} (d : ℕ) (hd : (w.user u).dev = none) :
    (w.attach u d).Listed := by
  have hnot : ∀ e, u ∉ w.attached e := fun e hu => by simpa [hd] using (h.mem u e).mp hu
  refine ⟨fun e => ?_, fun v e => ?_⟩
  · by_cases he : e = d
    · subst he
      exact (attached_attach w u e).nodup_iff.mpr (List.nodup_cons.mpr ⟨hnot e, h.nodup e⟩)
    · rw [attached_attach_of_ne w he]
      exact h.nodup e
  · by_cases he : e = d
    · subst he
      rw [(attached_attach w u e).mem_iff, List.mem_cons, h.mem v e]
      by_cases hv : v = u <;> simp [World.attach, hv]
    · rw [attached_attach_of_ne w he, h.mem v e]
      by_cases hv : v = u
      · simp [World.attach, hv, hd, Ne.symm he]
      · simp [World.attach, hv]

theorem mem_detach (h : w.Listed) (u v d : ℕ) :
    v ∈ (w.detach u).attached d ↔ v ∈ w.attached d ∧ v ≠ u := by
  have hlists := List.nodup_append.mp (h.nodup d)
  -- a list that is left alone does not have the user
  have hother : (w.user u).dev ≠ some d → v ∈ w.attached d → v ≠ u := by
    rintro hdev hv rfl
    exact hdev ((h.mem v d).mp hv)
  cases hd : (w.user u).dev with
  | none =>
    rw [detach_of_none hd]
    exact ⟨fun hv => ⟨hv, hother (by simp [hd]) hv⟩, fun hv => hv.1⟩
  | some e =>
    by_cases he : d = e
    · subst he
      rw [attached_detach hd, List.mem_append, hlists.1.mem_erase_iff, hlists.2.1.mem_erase_iff,
        ← and_or_left, ← List.mem_append, and_comm]
      rfl
    · rw [attached_detach_of_ne hd he]
      exact ⟨fun hv => ⟨hv, hother (by simpa [hd] using Ne.symm he) hv⟩, fun hv => hv.1⟩

theorem detach (h : w.Listed) (u : ℕ) : (w.detach u).Listed := by
  refine ⟨fun d => ?_, fun v d => ?_⟩
  · cases hd : (w.user u).dev with
    | none =>
      rw [detach_of_none hd]
      exact h.nodup d
    | some e =>
      by_cases he : d = e
      · subst he
        rw [attached_detach hd]
        exact (h.nodup d).sublist (List.erase_sublist.append List.erase_sublist)
      · rw [attached_detach_of_ne hd he]
        exact h.nodup d
  · rw [h.mem_detach, detach_user, h.mem v d]
    by_cases hv : v = u <;> simp [hv]

end World.Listed

end Lists

/-- Nothing that the users and the kinds of devices supply breaks an invariant. -/
structure Hooks.Keep {ε ρ : Type} (h : Hooks ε ρ) (spec : Spec (World ε) ρ) (I : World ε → Prop) :
    Prop where
  callback : ∀ u ev, Preserves spec I (h.callback u ev)
  setState : ∀ d state, Preserves spec I (h.setState d state)
  resolve : ∀ d, Preserves spec I (h.resolve d)
  ifindex : ∀ (w : World ε) (d ifindex : ℕ), I w → I (w.mapDev d fun x => { x with ifindex })

namespace Hooks.Keep

variable {ε ρ : Type} {h : Hooks ε ρ} {spec : Spec (World ε) ρ} {I : World ε → Prop}

theorem broadcastTo (hkeep : h.Keep spec I) (d : ℕ) (ev : DeviceEvent) (us : List ℕ) :
    Preserves spec I (deviceBroadcastTo h d ev us) := by
  induction us with
  | nil => exact Preserves.pure ()
  | cons u us ih =>
    apply Preserves.read_bind
    intro w hw
    split_ifs
    · exact (hkeep.callback u ev).bind (fun _ => ih) w hw
    · exact ih w hw

theorem broadcast (hkeep : h.Keep spec I) (d : ℕ) (ev : DeviceEvent) :
    Preserves spec I (deviceBroadcastEvent h d ev) :=
  Preserves.read_bind fun w hw => hkeep.broadcastTo d ev _ w hw

theorem setIfindex (hkeep : h.Keep spec I) (d ifindex : ℕ) :
    Preserves spec I (deviceSetIfindex h d ifindex) := by
  apply Preserves.read_bind
  intro w hw
  split_ifs
  · exact hw
  · exact hkeep.broadcast d .updateIfindex _ (hkeep.ifindex w d ifindex hw)

theorem bringUp (hkeep : h.Keep spec I) (d : ℕ) : Preserves spec I (deviceBringUp h d) := by
  apply Preserves.read_bind
  intro w hw
  split_ifs
  · refine (hkeep.resolve d).bind (fun ifindex => (hkeep.setIfindex d ifindex).bind fun _ =>
      Preserves.read_bind fun v hv => ?_) w hw
    split_ifs <;> exact hv
  · exact hkeep.setState d true w hw

theorem attachUser (hkeep : h.Keep spec I) {w : World ε} (u d : ℕ) (hw : I (w.attach u d)) :
    wp spec (attachDeviceUser h u d) (fun _ t => I t) w := by
  have hlink : Preserves spec I (do
      let w ← read
      if (w.dev d).linkActive then h.callback u .linkUp) := by
    apply Preserves.read_bind
    intro v hv
    split_ifs
    · exact hkeep.callback u .linkUp v hv
    · exact hv
  have hup : Preserves spec I (do
      let w ← read
      if (w.dev d).active ≠ 0 then h.callback u .up
      let w ← read
      if (w.dev d).linkActive then h.callback u .linkUp) := by
    apply Preserves.read_bind
    intro v hv
    split_ifs
    · exact (hkeep.callback u .up).bind (fun _ => hlink) v hv
    · exact hlink v hv
  unfold attachDeviceUser
  simp only [wp_bind, wp_modify, wp_read]
  split_ifs
  · exact (hkeep.callback u .add).bind (fun _ => hup) _ hw
  · exact hw

end Hooks.Keep

/-- Nor do claims, wherever the hooks admit that they fail. -/
structure Hooks.KeepClaims {ε ρ : Type} (h : Hooks ε ρ) (spec : Spec (World ε) ρ)
    (I : World ε → Prop) : Prop extends h.Keep spec I where
  claim : ∀ w u d, I w → (w.user u).dev = some d → (w.user u).claimed = false → I (w.claim u d)
  claimFailed : ∀ w u d, I w → h.mayFail w u d = true → I (w.claimFailed u d)
  release : ∀ w u d, I w → (w.user u).dev = some d → (w.user u).claimed = true → I (w.release u d)
  adrift : ∀ w u, I w → (w.user u).dev = none → (w.user u).claimed = true →
    I { w with fault := true }

namespace Hooks.KeepClaims

variable {ε ρ : Type} {h : Hooks ε ρ} {spec : Spec (World ε) ρ} {I : World ε → Prop}

theorem claimUser (hkeep : h.KeepClaims spec I) (u : ℕ) : Preserves spec I (deviceClaim h u) := by
  apply Preserves.read_bind
  intro w hw
  split_ifs with hc
  · exact hw
  · cases hd : (w.user u).dev with
    | none => exact hw
    | some d =>
      have hclaim : I (w.claim u d) := hkeep.claim w u d hw hd (by simpa using hc)
      simp only [wp_bind, wp_modify, wp_read]
      split_ifs
      · exact hclaim
      · refine (hkeep.broadcast d .setup).bind (fun _ => ?_) _ hclaim
        refine (hkeep.bringUp d).bind fun ret => ?_
        split_ifs
        · exact (hkeep.broadcast d .up).bind fun _ => Preserves.pure ret
        · intro v hv
          simp only [wp_bind, wp_modify, wp_read, wp_require, wp_pure]
          exact hkeep.claimFailed v u d hv

theorem releaseUser (hkeep : h.KeepClaims spec I) (u : ℕ) :
    Preserves spec I (deviceRelease h u) := by
  apply Preserves.read_bind
  intro w hw
  split_ifs with hc
  · exact hw
  · have hclaimed : (w.user u).claimed = true := by simpa using hc
    cases hd : (w.user u).dev with
    | none => exact hkeep.adrift w u hw hd hclaimed
    | some d =>
      have hrelease : I (w.release u d) := hkeep.release w u d hw hd hclaimed
      simp only [wp_bind, wp_modify, wp_read]
      split_ifs
      · exact hrelease
      · refine (hkeep.broadcast d .teardown).bind (fun _ => Preserves.read_bind fun v hv => ?_)
          _ hrelease
        have htail : Preserves spec I (do
            let w ← read
            if (w.dev d).active ≠ 0 then pure ()
            else deviceBroadcastEvent h d .down) := by
          apply Preserves.read_bind
          intro x hx
          split_ifs
          · exact hx
          · exact hkeep.broadcast d .down x hx
        split_ifs
        · exact (hkeep.setState d false).bind (fun _ => htail) v hv
        · exact htail v hv

theorem cleanupTo (hkeep : h.KeepClaims spec I) (d : ℕ) (us : List ℕ) :
    Preserves spec I (deviceCleanupTo h d us) := by
  induction us with
  | nil => exact Preserves.pure ()
  | cons u us ih =>
    apply Preserves.read_bind
    intro w hw
    split_ifs
    · exact (hkeep.callback u .remove).bind
        (fun _ => (hkeep.releaseUser u).bind fun _ => ih) w hw
    · exact ih w hw

theorem cleanup (hkeep : h.KeepClaims spec I) (d : ℕ) : Preserves spec I (deviceCleanup h d) :=
  Preserves.read_bind fun w hw => (hkeep.cleanupTo d (w.dev d).users).bind
    (fun _ => Preserves.read_bind fun v hv => hkeep.cleanupTo d (v.dev d).aliases v hv) w hw

end Hooks.KeepClaims

end Netifd
