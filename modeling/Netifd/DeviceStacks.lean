import Netifd.Device
import Netifd.DeviceRefcount
import Mathlib.Data.Set.Insert
import Mathlib.Logic.Function.Basic

/-!
# Devices on top of each other

What `device_claim` and `device_release` do to a stack of devices: a device that is claimed first
makes its link in the kernel, on another device that it claims before. The state callbacks of
`macvlan.c`, `vlandev.c`, `vlan.c`, `veth.c`, `tunnel.c` and of simple devices. Whoever listens to
the events of the devices claims and releases nothing in turn.
-/

namespace Netifd.DeviceStacks

/-- The types of devices that are not made of members. -/
inductive Kind
  | simple | vlan | macvlan | vlandev | veth | tunnel
  deriving DecidableEq

/-- netifd makes the link in the kernel. -/
def Kind.ownLink : Kind → Bool
  | .simple => false
  | _ => true

/-- The device claims another one when it is brought up. -/
def Kind.stacked : Kind → Bool
  | .vlan | .macvlan | .vlandev => true
  | _ => false

/-- The user that a device has of the one below, or a user like an interface. -/
inductive User
  | own (d : ℕ)
  | other (i : ℕ)
  deriving DecidableEq

/-- Some devices, each of which comes after the one that it is on, and their users. -/
structure Stack where
  kind : ℕ → Kind
  external : ℕ → Bool
  base : ℕ → Option ℕ
  target : ℕ → Option ℕ
  users : ℕ → List User
  size : ℕ
  base_lt : ∀ d p, base d = some p → p < d
  lt_size : ∀ d p, base d = some p → d < size
  base_kind : ∀ d p, base d = some p → (kind d).stacked = true ∨ kind d = .simple
  nodup : ∀ d, (users d).Nodup
  mem_own : ∀ d e, User.own e ∈ users d ↔ base e = some d
  mem_other : ∀ d i, User.other i ∈ users d ↔ target i = some d

/-- The device that a user is on. -/
def Stack.dev (s : Stack) : User → Option ℕ
  | .own d => s.base d
  | .other i => s.target i

/-- What can be seen of the devices: which have told that they are up and not that they are taken
down, which are up in the kernel, which links that netifd makes are there, and which simple devices
have found the one below. -/
structure Moment where
  usable : ℕ → Bool := fun _ => false
  running : ℕ → Bool := fun _ => false
  link : ℕ → Bool := fun _ => false
  attached : ℕ → Bool := fun _ => false

/-- All devices and users, and the moments before. -/
structure World where
  active : ℕ → ℤ := fun _ => 0
  claimed : User → Bool := fun _ => false
  now : Moment := {}
  past : List Moment := []

/-- What the kernel answers during one call. -/
structure Kernel where
  errno : ℕ → ℕ
  ifindex : ℕ → ℕ
  parent : ℕ → Bool

namespace World

/-- Something happens that can be seen. -/
def happen (w : World) (f : Moment → Moment) : World :=
  { w with now := f w.now, past := w.now :: w.past }

def setUsable (w : World) (d : ℕ) (b : Bool) : World :=
  w.happen fun m => { m with usable := Function.update m.usable d b }

def setRunning (w : World) (d : ℕ) (b : Bool) : World :=
  w.happen fun m => { m with running := Function.update m.running d b }

def setLink (w : World) (d : ℕ) (b : Bool) : World :=
  w.happen fun m => { m with link := Function.update m.link d b }

/-- `device_add_user(&dev->parent, pdev)`. -/
def attach (w : World) (d : ℕ) : World :=
  w.happen fun m => { m with attached := Function.update m.attached d true }

/-- `device_broadcast_event`, to listeners that claim and release nothing themselves. -/
def broadcast (w : World) (d : ℕ) : DeviceEvent → World
  | .up => w.setUsable d true
  | .teardown => w.setUsable d false
  | _ => w

/-- `dep->claimed = claimed`, with the count of the device changed. -/
def recount (w : World) (u : User) (d : ℕ) (claimed : Bool) (active : ℤ) : World :=
  { w with
    claimed := Function.update w.claimed u claimed
    active := Function.update w.active d active }

section Recount

variable (w : World) {u v : User} {d e : ℕ} (claimed : Bool) (active : ℤ)

@[simp] theorem recount_claimed_self : (w.recount u d claimed active).claimed u = claimed :=
  Function.update_self ..

theorem recount_claimed (h : v ≠ u) : (w.recount u d claimed active).claimed v = w.claimed v :=
  Function.update_of_ne h ..

@[simp] theorem recount_active_self : (w.recount u d claimed active).active d = active :=
  Function.update_self ..

theorem recount_active (h : e ≠ d) : (w.recount u d claimed active).active e = w.active e :=
  Function.update_of_ne h ..

@[simp] theorem recount_now : (w.recount u d claimed active).now = w.now := rfl

end Recount

end World

abbrev SetState := Bool → World → ℤ × World

section Code
variable (s : Stack) (k : Kernel)

/-- `system_if_resolve`: a link that is not there has no index. -/
def systemIfResolve (d : ℕ) (w : World) : ℕ :=
  if (s.kind d).ownLink && !w.now.link d then 0 else k.ifindex d

/-- `system_macvlan_add` and the like. -/
def systemLinkAdd (d : ℕ) (w : World) : ℤ × World :=
  (-(k.errno d), if k.errno d = 0 then w.setLink d true else w)

def setDeviceState (d : ℕ) (state : Bool) (w : World) : ℤ × World :=
  if state then
    if systemIfResolve s k d w = 0 then (-1, w) else (0, w.setRunning d true)
  else (0, w.setRunning d false)

/-- The device is brought up, or an index of an external one is looked for. -/
def bringUp (setState : SetState) (d : ℕ) (w : World) : ℤ × World :=
  if s.external d then (if systemIfResolve s k d w = 0 then -1 else 0, w) else setState true w

/-- `device_claim`, of a user on `d` that has no claim. -/
def deviceClaim (setState : SetState) (u : User) (d : ℕ) (w : World) : ℤ × World :=
  let w := w.recount u d true (w.active d + 1)
  if w.active d ≠ 1 then (0, w)
  else
    let up := bringUp s k setState d (w.broadcast d .setup)
    if up.1 = 0 then (0, up.2.broadcast d .up) else (up.1, up.2.recount u d false 0)

/-- The device is taken down, or an external one is left alone. -/
def takeDown (setState : SetState) (d : ℕ) (w : World) : World :=
  if s.external d then w else (setState false w).2

/-- `device_release`, of a user on `d` that has a claim. -/
def deviceRelease (setState : SetState) (u : User) (d : ℕ) (w : World) : World :=
  let w := w.recount u d false (w.active d - 1)
  if w.active d ≠ 0 then w
  else
    let w := takeDown s setState d (w.broadcast d .teardown)
    if w.active d ≠ 0 then w else w.broadcast d .down

variable (d : ℕ) (lower : ∀ p, s.base d = some p → SetState)

/-- `device_claim(&dev->parent)`. -/
def claimParent (w : World) : ℤ × World :=
  if w.claimed (.own d) then (0, w)
  else
    match h : s.base d with
    | none => (-1, w)
    | some p => deviceClaim s k (lower p h) (.own d) p w

/-- `device_release(&dev->parent)`. -/
def releaseParent (w : World) : World :=
  if w.claimed (.own d) then
    match h : s.base d with
    | none => w
    | some p => deviceRelease s (lower p h) (.own d) p w
  else w

/-- `simple_device_set_state`. The device below is not held any more while this one goes down. -/
def simpleDeviceSetState : SetState := fun state w =>
  let w := if state && !w.now.attached d && k.parent d && (s.base d).isSome then w.attach d else w
  if w.now.attached d then
    if state then
      let claim := claimParent s k d lower w
      if claim.1 < 0 then claim else setDeviceState s k d true claim.2
    else setDeviceState s k d false (releaseParent s d lower w)
  else setDeviceState s k d state w

/-- The steps that `macvlan_set_up` and `vlandev_set_up` share. -/
def stackedSetUp (w : World) : ℤ × World :=
  let claim := claimParent s k d lower w
  if claim.1 < 0 then claim
  else
    let add := systemLinkAdd k d claim.2
    if add.1 < 0 then (add.1, releaseParent s d lower add.2)
    else
      let up := setDeviceState s k d true add.2
      if up.1 ≠ 0 then (up.1, releaseParent s d lower (up.2.setLink d false)) else (0, up.2)

/-- The steps that `macvlan_set_down` and `vlandev_set_down` share. -/
def stackedSetDown (w : World) : ℤ × World :=
  (0, releaseParent s d lower ((setDeviceState s k d false w).2.setLink d false))

def macvlanSetState : SetState := fun up w =>
  if up then stackedSetUp s k d lower w else stackedSetDown s k d lower w

def vlandevSetState : SetState := fun up w =>
  if up then stackedSetUp s k d lower w else stackedSetDown s k d lower w

/-- `vlan_set_device_state`: whether the link could be made is not asked, and it is not taken away
where the device cannot be brought up. -/
def vlanSetDeviceState : SetState := fun up w =>
  if up then
    let claim := claimParent s k d lower w
    if claim.1 < 0 then claim
    else
      let up := setDeviceState s k d true (systemLinkAdd k d claim.2).2
      if up.1 ≠ 0 then (up.1, releaseParent s d lower up.2) else up
  else (0, releaseParent s d lower ((setDeviceState s k d false w).2.setLink d false))

def vethSetState : SetState := fun up w =>
  if up then
    let add := systemLinkAdd k d w
    if add.1 < 0 then add
    else
      let up := setDeviceState s k d true add.2
      if up.1 ≠ 0 then (up.1, up.2.setLink d false) else (0, up.2)
  else (0, (setDeviceState s k d false w).2.setLink d false)

def tunnelSetState : SetState := fun up w =>
  let add := if up then systemLinkAdd k d w else (0, w)
  if add.1 ≠ 0 then add
  else
    let ret := setDeviceState s k d up add.2
    if ret.1 ≠ 0 ∨ !up then (ret.1, ret.2.setLink d false) else ret

/-- The callback of each type. -/
def kindSetState : SetState :=
  match s.kind d with
  | .simple => simpleDeviceSetState s k d lower
  | .vlan => vlanSetDeviceState s k d lower
  | .macvlan => macvlanSetState s k d lower
  | .vlandev => vlandevSetState s k d lower
  | .veth => vethSetState s k d
  | .tunnel => tunnelSetState s k d

end Code

/-- `dev->set_state`, which may go down to the bottom of the stack. -/
def setState (s : Stack) (k : Kernel) (d : ℕ) : SetState :=
  kindSetState s k d fun p h =>
    have := s.base_lt d p h
    setState s k p
termination_by d

/-- A call for a user that is no device. -/
inductive Call
  | claim (i : ℕ) (k : Kernel)
  | release (i : ℕ) (k : Kernel)

/-- `device_claim` and `device_release`. -/
def call (s : Stack) (w : World) : Call → World
  | .claim i k =>
    if w.claimed (.other i) then w
    else
      match s.target i with
      | none => w
      | some d => (deviceClaim s k (setState s k d) (.other i) d w).2
  | .release i k =>
    if w.claimed (.other i) then
      match s.target i with
      | none => w
      | some d => deviceRelease s (setState s k d) (.other i) d w
    else w

/-- A run from the start, when nothing is claimed. -/
def run (s : Stack) (calls : List Call) : World := calls.foldl (call s) {}

/-- The device is brought up together with this one below. -/
def OnBase (s : Stack) (m : Moment) (d p : ℕ) : Prop :=
  s.base d = some p ∧
    ((s.kind d).stacked = true ∨ s.kind d = .simple ∧ m.attached d = true)

/-- At each moment a device that is usable, and not an external one, is up in the kernel, with its
link and the device below it; a link is only there while the device below is usable, except a VLAN
that was left behind. -/
structure Fine (s : Stack) (m : Moment) : Prop where
  running_of_usable : ∀ d, s.external d = false → m.usable d = true → m.running d = true
  link_of_running : ∀ d, (s.kind d).ownLink = true → m.running d = true → m.link d = true
  base_of_usable : ∀ d p, s.external d = false → OnBase s m d p → m.usable d = true →
    m.usable p = true
  base_of_running : ∀ d p, (s.kind d).stacked = true → s.base d = some p → m.running d = true →
    m.usable p = true
  base_of_link : ∀ d p, (s.kind d).stacked = true → s.kind d ≠ .vlan → s.base d = some p →
    m.link d = true → m.usable p = true

/-- What netifd has for a device that it has brought up. -/
structure Held (s : Stack) (w : World) (d : ℕ) : Prop where
  running : w.now.running d = true
  parent : ∀ p, OnBase s w.now d p → w.claimed (.own d) = true

/-- What netifd has for a device that is down or external. A VLAN may be left in the kernel, and a
simple device may hold the one below. -/
structure Clear (s : Stack) (w : World) (d : ℕ) : Prop where
  running : w.now.running d = false
  link : (s.kind d).ownLink = true → s.kind d ≠ .vlan → w.now.link d = false
  parent : (s.kind d).stacked = true → w.claimed (.own d) = false

/-- What holds of all devices but some that are just brought up or taken down. -/
structure Sound (s : Stack) (busy : Set ℕ) (w : World) : Prop where
  count : ∀ d, w.active d = (s.users d).countP w.claimed
  placed : ∀ d, w.claimed (.own d) = true → s.base d ≠ none
  running : ∀ d, (s.kind d).stacked = true → w.now.running d = true → w.claimed (.own d) = true
  link : ∀ d, (s.kind d).stacked = true → s.kind d ≠ .vlan → w.now.link d = true →
    w.claimed (.own d) = true
  held : ∀ d, d ∉ busy → s.external d = false → w.active d ≠ 0 → Held s w d
  clear : ∀ d, d ∉ busy → w.active d = 0 ∨ s.external d = true → Clear s w d
  usable : ∀ d, d ∉ busy → (w.now.usable d = true ↔ w.active d ≠ 0)
  unusable : ∀ d, d ∈ busy → w.now.usable d = false
  fine : Fine s w.now
  past : ∀ m ∈ w.past, Fine s m

/-- The two moments are the same for the device. -/
structure AgreeAt (d : ℕ) (m m' : Moment) : Prop where
  usable : m'.usable d = m.usable d
  running : m'.running d = m.running d
  link : m'.link d = m.link d
  attached : m'.attached d = m.attached d

/-- Nothing has changed for the devices from `n` on and their users, except for `u`. -/
structure Frame (n : ℕ) (u : User) (w w' : World) : Prop where
  active : ∀ e, n ≤ e → w'.active e = w.active e
  claimed : ∀ v, v ≠ u → (∀ e, v = .own e → n ≤ e) → w'.claimed v = w.claimed v
  now : ∀ e, n ≤ e → AgreeAt e w.now w'.now

section Frames

variable {n n' d : ℕ} {u : User} {w v t : World}

theorem AgreeAt.trans {m m' m'' : Moment} (h : AgreeAt d m m') (h' : AgreeAt d m' m'') :
    AgreeAt d m m'' :=
  ⟨h'.usable.trans h.usable, h'.running.trans h.running, h'.link.trans h.link,
    h'.attached.trans h.attached⟩

theorem Frame.refl (n : ℕ) (u : User) (w : World) : Frame n u w w :=
  ⟨fun _ _ => rfl, fun _ _ _ => rfl, fun _ _ => ⟨rfl, rfl, rfl, rfl⟩⟩

theorem Frame.trans (h : Frame n u w v) (h' : Frame n u v t) : Frame n u w t where
  active e he := (h'.active e he).trans (h.active e he)
  claimed x hx hn := (h'.claimed x hx hn).trans (h.claimed x hx hn)
  now e he := (h.now e he).trans (h'.now e he)

theorem Frame.mono (h : Frame n u w v) (hn : n ≤ n') : Frame n' u w v where
  active e he := h.active e (hn.trans he)
  claimed x hx hx' := h.claimed x hx fun e he => hn.trans (hx' e he)
  now e he := h.now e (hn.trans he)

theorem frame_happen {f : Moment → Moment} (u : User)
    (hother : ∀ e, e ≠ d → AgreeAt e w.now (f w.now)) : Frame (d + 1) u w (w.happen f) where
  active _ _ := rfl
  claimed _ _ _ := rfl
  now e he := hother e (by omega)

end Frames

section Happenings

variable {s : Stack} {busy : Set ℕ} {w : World} {d p : ℕ}

theorem Sound.base_usable (h : Sound s busy w) (hbusy : ∀ e ∈ busy, d ≤ e)
    (hbase : s.base d = some p) (hclaimed : w.claimed (.own d) = true) :
    w.now.usable p = true := by
  have hlt := s.base_lt d p hbase
  have hfree : p ∉ busy := by
    intro hp
    have := hbusy p hp
    omega
  have hpos : 0 < (s.users p).countP w.claimed :=
    List.countP_pos_iff.mpr ⟨.own d, (s.mem_own p d).mpr hbase, hclaimed⟩
  apply (h.usable p hfree).mpr
  rw [h.count p]
  omega

/-- Something happens to a busy device, in a way that what it has is held by what it claims. -/
theorem Sound.happen (h : Sound s busy w) (hd : d ∈ busy) (hbusy : ∀ e ∈ busy, d ≤ e)
    {f : Moment → Moment} (husable : (f w.now).usable = w.now.usable)
    (hother : ∀ e, e ≠ d → AgreeAt e w.now (f w.now))
    (hlinked : (s.kind d).ownLink = true → (f w.now).running d = true → (f w.now).link d = true)
    (hrunning : (s.kind d).stacked = true → (f w.now).running d = true →
      w.claimed (.own d) = true)
    (hlink : (s.kind d).stacked = true → s.kind d ≠ .vlan → (f w.now).link d = true →
      w.claimed (.own d) = true) : Sound s busy (w.happen f) := by
  have hdown := h.unusable d hd
  constructor
  · exact h.count
  · exact h.placed
  · intro e hstacked hrun
    by_cases he : e = d
    · subst he
      exact hrunning hstacked hrun
    · exact h.running e hstacked ((hother e he).running ▸ hrun)
  · intro e hstacked hvlan hl
    by_cases he : e = d
    · subst he
      exact hlink hstacked hvlan hl
    · exact h.link e hstacked hvlan ((hother e he).link ▸ hl)
  · intro e hfree hext hactive
    have he : e ≠ d := fun heq => hfree (heq ▸ hd)
    have hheld := h.held e hfree hext hactive
    constructor
    · exact (hother e he).running.trans hheld.running
    · rintro q ⟨hbase, hon⟩
      apply hheld.parent q
      rw [OnBase, ← (hother e he).attached]
      exact ⟨hbase, hon⟩
  · intro e hfree hidle
    have he : e ≠ d := fun heq => hfree (heq ▸ hd)
    have hclear := h.clear e hfree hidle
    constructor
    · exact (hother e he).running.trans hclear.running
    · intro hown hvlan
      exact (hother e he).link.trans (hclear.link hown hvlan)
    · exact hclear.parent
  · intro e hfree
    exact (congrFun husable e ▸ h.usable e hfree)
  · intro e he
    exact (congrFun husable e).trans (h.unusable e he)
  · constructor
    · intro e hext hup
      by_cases he : e = d
      · subst he
        rw [World.happen, congrFun husable e, hdown] at hup
        cases hup
      · apply (hother e he).running.trans
        exact h.fine.running_of_usable e hext ((congrFun husable e).symm.trans hup)
    · intro e hown hrun
      by_cases he : e = d
      · subst he
        exact hlinked hown hrun
      · apply (hother e he).link.trans
        exact h.fine.link_of_running e hown ((hother e he).running ▸ hrun)
    · intro e q hext hon hup
      by_cases he : e = d
      · subst he
        rw [World.happen, congrFun husable e, hdown] at hup
        cases hup
      · apply (congrFun husable q).trans
        apply h.fine.base_of_usable e q hext _ ((congrFun husable e).symm.trans hup)
        rw [OnBase, ← (hother e he).attached]
        exact hon
    · intro e q hstacked hbase hrun
      apply (congrFun husable q).trans
      by_cases he : e = d
      · subst he
        exact h.base_usable hbusy hbase (hrunning hstacked hrun)
      · exact h.fine.base_of_running e q hstacked hbase ((hother e he).running ▸ hrun)
    · intro e q hstacked hvlan hbase hl
      apply (congrFun husable q).trans
      by_cases he : e = d
      · subst he
        exact h.base_usable hbusy hbase (hlink hstacked hvlan hl)
      · exact h.fine.base_of_link e q hstacked hvlan hbase ((hother e he).link ▸ hl)
  · intro m hm
    rcases List.mem_cons.mp hm with rfl | hm
    · exact h.fine
    · exact h.past m hm

theorem agree_running (w : World) {d e : ℕ} (b : Bool) (he : e ≠ d) :
    AgreeAt e w.now (w.setRunning d b).now := by
  constructor <;> simp [World.setRunning, World.happen, Function.update_of_ne he]

theorem agree_link (w : World) {d e : ℕ} (b : Bool) (he : e ≠ d) :
    AgreeAt e w.now (w.setLink d b).now := by
  constructor <;> simp [World.setLink, World.happen, Function.update_of_ne he]

theorem agree_usable (w : World) {d e : ℕ} (b : Bool) (he : e ≠ d) :
    AgreeAt e w.now (w.setUsable d b).now := by
  constructor <;> simp [World.setUsable, World.happen, Function.update_of_ne he]

theorem agree_attached (w : World) {d e : ℕ} (he : e ≠ d) :
    AgreeAt e w.now (w.attach d).now := by
  constructor <;> simp [World.attach, World.happen, Function.update_of_ne he]

theorem Sound.ifUp (h : Sound s busy w) (hd : d ∈ busy) (hbusy : ∀ e ∈ busy, d ≤ e)
    (hlinked : (s.kind d).ownLink = true → w.now.link d = true)
    (hclaimed : (s.kind d).stacked = true → w.claimed (.own d) = true) :
    Sound s busy (w.setRunning d true) := by
  apply h.happen hd hbusy rfl (fun e he => agree_running w true he)
  · exact fun hown _ => hlinked hown
  · exact fun hstacked _ => hclaimed hstacked
  · exact fun hstacked _ _ => hclaimed hstacked

theorem Sound.ifDown (h : Sound s busy w) (hd : d ∈ busy) (hbusy : ∀ e ∈ busy, d ≤ e) :
    Sound s busy (w.setRunning d false) := by
  apply h.happen hd hbusy rfl (fun e he => agree_running w false he)
  · intro _ hrun
    simp at hrun
  · intro _ hrun
    simp at hrun
  · exact h.link d

theorem Sound.linkAdd (h : Sound s busy w) (hd : d ∈ busy) (hbusy : ∀ e ∈ busy, d ≤ e)
    (hclaimed : (s.kind d).stacked = true → w.claimed (.own d) = true) :
    Sound s busy (w.setLink d true) := by
  apply h.happen hd hbusy rfl (fun e he => agree_link w true he)
  · intro _ _
    exact Function.update_self ..
  · exact h.running d
  · exact fun hstacked _ _ => hclaimed hstacked

theorem Sound.linkDel (h : Sound s busy w) (hd : d ∈ busy) (hbusy : ∀ e ∈ busy, d ≤ e)
    (hrunning : w.now.running d = false) : Sound s busy (w.setLink d false) := by
  apply h.happen hd hbusy rfl (fun e he => agree_link w false he)
  · intro _ hrun
    rw [hrunning] at hrun
    cases hrun
  · exact h.running d
  · intro _ _ hlink
    simp at hlink

theorem Sound.attach (h : Sound s busy w) (hd : d ∈ busy) (hbusy : ∀ e ∈ busy, d ≤ e) :
    Sound s busy (w.attach d) :=
  h.happen hd hbusy rfl (fun _ he => agree_attached w he) (h.fine.link_of_running d) (h.running d)
    (h.link d)

end Happenings

section Counts

variable {s : Stack} {busy : Set ℕ} {w : World} {u : User} {p : ℕ}

theorem mem_users (s : Stack) (d : ℕ) (u : User) : u ∈ s.users d ↔ s.dev u = some d := by
  cases u with
  | own e => exact s.mem_own d e
  | other i => exact s.mem_other d i

theorem notMem_users {s : Stack} {u : User} {p d : ℕ} (hdev : s.dev u = some p) (hd : d ≠ p) :
    u ∉ s.users d := by
  rw [mem_users, hdev, Option.some.injEq]
  exact Ne.symm hd

theorem Sound.count_claim (h : Sound s busy w) (hdev : s.dev u = some p)
    (hu : w.claimed u = false) (d : ℕ) :
    (w.recount u p true (w.active p + 1)).active d =
      (s.users d).countP (w.recount u p true (w.active p + 1)).claimed := by
  have hother : ∀ v, v ≠ u → Function.update w.claimed u true v = w.claimed v :=
    fun v hv => Function.update_of_ne hv ..
  by_cases hd : d = p
  · subst hd
    have hcount := h.count d
    have hadd := countP_update (s.nodup d) ((mem_users s d u).mpr hdev) hu
      (Function.update_self u true w.claimed) hother
    simp only [World.recount, Function.update_self, hadd, hcount]
    push_cast
    rfl
  · have hsame := countP_eq_of_notMem (notMem_users hdev hd) hother
    simp only [World.recount, Function.update_of_ne hd, hsame]
    exact h.count d

theorem Sound.count_release (h : Sound s busy w) (hdev : s.dev u = some p)
    (hu : w.claimed u = true) (d : ℕ) :
    (w.recount u p false (w.active p - 1)).active d =
      (s.users d).countP (w.recount u p false (w.active p - 1)).claimed := by
  have hother : ∀ v, v ≠ u → w.claimed v = Function.update w.claimed u false v :=
    fun v hv => (Function.update_of_ne hv ..).symm
  by_cases hd : d = p
  · subst hd
    have hcount := h.count d
    have hadd := countP_update (s.nodup d) ((mem_users s d u).mpr hdev)
      (Function.update_self u false w.claimed) hu hother
    simp only [World.recount, Function.update_self, hcount, hadd]
    push_cast
    omega
  · have hsame := countP_eq_of_notMem (notMem_users hdev hd) hother
    simp only [World.recount, Function.update_of_ne hd, ← hsame]
    exact h.count d

theorem Sound.only_user (h : Sound s busy w) (hdev : s.dev u = some p) (hu : w.claimed u = true)
    (hlast : w.active p = 1) {v : User} (hv : s.dev v = some p) (hclaimed : w.claimed v = true) :
    v = u := by
  by_contra hne
  have hrelease := h.count_release hdev hu p
  have hpos : 0 < (s.users p).countP (w.recount u p false (w.active p - 1)).claimed := by
    refine List.countP_pos_iff.mpr ⟨v, (mem_users s p v).mpr hv, ?_⟩
    exact (Function.update_of_ne hne ..).trans hclaimed
  simp only [World.recount, Function.update_self, hlast] at hrelease hpos
  omega

/-- What a device must not have any more when it releases the one below. -/
def Leaves (s : Stack) (w : World) (u : User) : Prop :=
  ∀ d, u = .own d → ((s.kind d).stacked = true → w.now.running d = false) ∧
    ((s.kind d).stacked = true → s.kind d ≠ .vlan → w.now.link d = false)

/-- A claim is made or given up by a user of a device that is busy, or active before and after. -/
theorem Sound.recount (h : Sound s busy w) (hdev : s.dev u = some p) {claimed : Bool} {active : ℤ}
    (hcount : ∀ d, (w.recount u p claimed active).active d =
      (s.users d).countP (w.recount u p claimed active).claimed)
    (hown : ∀ d, u = .own d → d ∈ busy) (hleaves : claimed = false → Leaves s w u)
    (hp : p ∈ busy ∨ w.active p ≠ 0 ∧ active ≠ 0) :
    Sound s busy (w.recount u p claimed active) := by
  have hother : ∀ d, d ∉ busy → (w.recount u p claimed active).claimed (.own d) =
      w.claimed (.own d) := by
    intro d hd
    have hne : User.own d ≠ u := fun heq => hd (hown d heq.symm)
    exact World.recount_claimed w claimed active hne
  have hactive : ∀ d, d ∉ busy → ((w.recount u p claimed active).active d = 0 ↔
      w.active d = 0) := by
    intro d hd
    by_cases hdp : d = p
    · subst hdp
      obtain ⟨hbefore, hafter⟩ := hp.resolve_left hd
      simp [hbefore, hafter]
    · rw [World.recount_active w claimed active hdp]
  constructor
  · exact hcount
  · intro d hclaimed
    by_cases hd : User.own d = u
    · have hbase : s.base d = some p := by
        rw [← hdev, ← hd]
        rfl
      simp [hbase]
    · rw [World.recount_claimed w claimed active hd] at hclaimed
      exact h.placed d hclaimed
  · intro d hstacked hrun
    by_cases hd : User.own d = u
    · cases claimed with
      | true => simp [hd]
      | false =>
        have hnot := (hleaves rfl d hd.symm).1 hstacked
        rw [World.recount_now, hnot] at hrun
        cases hrun
    · rw [World.recount_claimed w claimed active hd]
      exact h.running d hstacked hrun
  · intro d hstacked hvlan hlink
    by_cases hd : User.own d = u
    · cases claimed with
      | true => simp [hd]
      | false =>
        have hnot := (hleaves rfl d hd.symm).2 hstacked hvlan
        rw [World.recount_now, hnot] at hlink
        cases hlink
    · rw [World.recount_claimed w claimed active hd]
      exact h.link d hstacked hvlan hlink
  · intro d hd hext hne
    have hheld := h.held d hd hext fun h0 => hne ((hactive d hd).mpr h0)
    constructor
    · exact hheld.running
    · intro q hon
      rw [hother d hd]
      exact hheld.parent q hon
  · intro d hd hidle
    have hclear := h.clear d hd (hidle.imp_left (hactive d hd).mp)
    constructor
    · exact hclear.running
    · exact hclear.link
    · intro hkind
      rw [hother d hd]
      exact hclear.parent hkind
  · intro d hd
    rw [Ne, hactive d hd]
    exact h.usable d hd
  · exact h.unusable
  · exact h.fine
  · exact h.past

theorem Sound.begin (h : Sound s busy w) (hp : w.now.usable p = false) :
    Sound s (insert p busy) w where
  count := h.count
  placed := h.placed
  running := h.running
  link := h.link
  held d hd := h.held d fun hmem => hd (Set.mem_insert_of_mem _ hmem)
  clear d hd := h.clear d fun hmem => hd (Set.mem_insert_of_mem _ hmem)
  usable d hd := h.usable d fun hmem => hd (Set.mem_insert_of_mem _ hmem)
  unusable d hd := by
    rcases Set.mem_insert_iff.mp hd with rfl | hd
    · exact hp
    · exact h.unusable d hd
  fine := h.fine
  past := h.past

theorem Sound.finish (h : Sound s (insert p busy) w) (hactive : w.active p = 0)
    (hclear : Clear s w p) (hfree : p ∉ busy) : Sound s busy w where
  count := h.count
  placed := h.placed
  running := h.running
  link := h.link
  held d hd hext hne := by
    apply h.held d _ hext hne
    intro hmem
    rcases Set.mem_insert_iff.mp hmem with rfl | hmem
    · exact hne hactive
    · exact hd hmem
  clear d hd hidle := by
    by_cases hdp : d = p
    · subst hdp
      exact hclear
    · exact h.clear d (fun hmem => (Set.mem_insert_iff.mp hmem).elim hdp hd) hidle
  usable d hd := by
    by_cases hdp : d = p
    · subst hdp
      simp [h.unusable d (Set.mem_insert d busy), hactive]
    · exact h.usable d fun hmem => (Set.mem_insert_iff.mp hmem).elim hdp hd
  unusable d hd := h.unusable d (Set.mem_insert_of_mem _ hd)
  fine := h.fine
  past := h.past

theorem setUsable_self (w : World) (d : ℕ) (b : Bool) : (w.setUsable d b).now.usable d = b :=
  Function.update_self ..

theorem setUsable_other (w : World) {d e : ℕ} (b : Bool) (he : e ≠ d) :
    (w.setUsable d b).now.usable e = w.now.usable e := Function.update_of_ne he ..

theorem setUsable_mono {d : ℕ} (hd : w.now.usable d = true) :
    (w.setUsable p true).now.usable d = true := by
  by_cases hdp : d = p
  · subst hdp
    exact setUsable_self w d true
  · exact (setUsable_other w true hdp).trans hd

/-- A device that has been brought up tells so. -/
theorem Sound.up (h : Sound s (insert p busy) w) (hfree : p ∉ busy) (hbusy : ∀ e ∈ busy, p ≤ e)
    (hactive : w.active p ≠ 0) (hheld : s.external p = false → Held s w p)
    (hclear : s.external p = true → Clear s w p) : Sound s busy (w.setUsable p true) := by
  have hall : ∀ e ∈ insert p busy, p ≤ e := by
    intro e he
    rcases Set.mem_insert_iff.mp he with rfl | he
    · exact le_rfl
    · exact hbusy e he
  have hnot : ∀ {d}, d ≠ p → d ∉ busy → d ∉ insert p busy :=
    fun hdp hd hmem => (Set.mem_insert_iff.mp hmem).elim hdp hd
  constructor
  · exact h.count
  · exact h.placed
  · exact h.running
  · exact h.link
  · intro d hd hext hne
    by_cases hdp : d = p
    · subst hdp
      exact ⟨(hheld hext).running, (hheld hext).parent⟩
    · have hold := h.held d (hnot hdp hd) hext hne
      exact ⟨hold.running, hold.parent⟩
  · intro d hd hidle
    by_cases hdp : d = p
    · subst hdp
      have hold := hclear (hidle.resolve_left hactive)
      exact ⟨hold.running, hold.link, hold.parent⟩
    · have hold := h.clear d (hnot hdp hd) hidle
      exact ⟨hold.running, hold.link, hold.parent⟩
  · intro d hd
    by_cases hdp : d = p
    · subst hdp
      exact iff_of_true (setUsable_self w d true) hactive
    · rw [setUsable_other w true hdp]
      exact h.usable d (hnot hdp hd)
  · intro d hd
    have hdp : d ≠ p := fun heq => hfree (heq ▸ hd)
    rw [setUsable_other w true hdp]
    exact h.unusable d (Set.mem_insert_of_mem _ hd)
  · constructor
    · intro d hext hup
      by_cases hdp : d = p
      · subst hdp
        exact (hheld hext).running
      · rw [setUsable_other w true hdp] at hup
        exact h.fine.running_of_usable d hext hup
    · exact h.fine.link_of_running
    · intro d q hext hon hup
      apply setUsable_mono
      by_cases hdp : d = p
      · subst hdp
        exact h.base_usable hall hon.1 ((hheld hext).parent q hon)
      · rw [setUsable_other w true hdp] at hup
        exact h.fine.base_of_usable d q hext hon hup
    · intro d q hstacked hbase hrun
      exact setUsable_mono (h.fine.base_of_running d q hstacked hbase hrun)
    · intro d q hstacked hvlan hbase hlink
      exact setUsable_mono (h.fine.base_of_link d q hstacked hvlan hbase hlink)
  · intro m hm
    rcases List.mem_cons.mp hm with rfl | hm
    · exact h.fine
    · exact h.past m hm

/-- A device tells that it is taken down when its last user leaves, and nothing is on it. -/
theorem Sound.teardown (h : Sound s busy w) (hdev : s.dev u = some p) (hu : w.claimed u = true)
    (hlast : w.active p = 1) (hown : ∀ d, u = .own d → d ∈ busy) (hleaves : Leaves s w u) :
    Sound s (insert p busy) (w.setUsable p false) := by
  have honly : ∀ d, s.base d = some p → w.claimed (.own d) = true → u = .own d :=
    fun d hbase hclaimed => (h.only_user hdev hu hlast (v := .own d) hbase hclaimed).symm
  have hstill : ∀ q, q ≠ p → w.now.usable q = true →
      (w.setUsable p false).now.usable q = true :=
    fun q hq hup => (setUsable_other w false hq).trans hup
  have hnot : ∀ d, d ∉ insert p busy → d ≠ p ∧ d ∉ busy :=
    fun d hd => ⟨fun heq => hd (heq ▸ Set.mem_insert p busy),
      fun hmem => hd (Set.mem_insert_of_mem _ hmem)⟩
  constructor
  · exact h.count
  · exact h.placed
  · exact h.running
  · exact h.link
  · intro d hd hext hne
    have hold := h.held d (hnot d hd).2 hext hne
    exact ⟨hold.running, hold.parent⟩
  · intro d hd hidle
    have hold := h.clear d (hnot d hd).2 hidle
    exact ⟨hold.running, hold.link, hold.parent⟩
  · intro d hd
    rw [setUsable_other w false (hnot d hd).1]
    exact h.usable d (hnot d hd).2
  · intro d hd
    by_cases hdp : d = p
    · subst hdp
      exact setUsable_self w d false
    · rw [setUsable_other w false hdp]
      exact h.unusable d ((Set.mem_insert_iff.mp hd).resolve_left hdp)
  · constructor
    · intro d hext hup
      by_cases hdp : d = p
      · rw [hdp, setUsable_self] at hup
        cases hup
      · rw [setUsable_other w false hdp] at hup
        exact h.fine.running_of_usable d hext hup
    · exact h.fine.link_of_running
    · intro d q hext hon hup
      have hdp : d ≠ p := by
        rintro rfl
        rw [setUsable_self] at hup
        cases hup
      rw [setUsable_other w false hdp] at hup
      apply hstill q _ (h.fine.base_of_usable d q hext hon hup)
      rintro rfl
      -- the device on this one is not the one that leaves, since that is not usable
      have hd : d ∉ busy := by
        intro hd
        rw [h.unusable d hd] at hup
        cases hup
      have hheld := h.held d hd hext ((h.usable d hd).mp hup)
      exact hd (hown d (honly d hon.1 (hheld.parent q hon)))
    · intro d q hstacked hbase hrun
      apply hstill q _ (h.fine.base_of_running d q hstacked hbase hrun)
      rintro rfl
      have hgone := (hleaves d (honly d hbase (h.running d hstacked hrun))).1 hstacked
      rw [World.setUsable, World.happen, hgone] at hrun
      cases hrun
    · intro d q hstacked hvlan hbase hlink
      apply hstill q _ (h.fine.base_of_link d q hstacked hvlan hbase hlink)
      rintro rfl
      have hgone := (hleaves d (honly d hbase (h.link d hstacked hvlan hlink))).2 hstacked hvlan
      rw [World.setUsable, World.happen, hgone] at hlink
      cases hlink
  · intro m hm
    rcases List.mem_cons.mp hm with rfl | hm
    · exact h.fine
    · exact h.past m hm

end Counts

end Netifd.DeviceStacks
