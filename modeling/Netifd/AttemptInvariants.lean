import Netifd.ClaimAttempts
import Netifd.DeviceRefcount

/-!
# Invariants of an attempt

What a claim keeps while it brings devices up, the claim of a lower device being part of it. What
netifd has for a device is a function of the users that are no devices.
-/

namespace Netifd.ClaimAttempts

namespace World

variable (w : World) {d e : ℕ} {u v : User}

@[simp] theorem map_dev_self (f : Dev → Dev) : (w.map d f).dev d = f (w.dev d) :=
  Function.update_self ..

theorem map_dev (f : Dev → Dev) (h : e ≠ d) : (w.map d f).dev e = w.dev e :=
  Function.update_of_ne h ..

@[simp] theorem map_claimed (f : Dev → Dev) : (w.map d f).claimed = w.claimed := rfl

@[simp] theorem map_sysPresent (f : Dev → Dev) : (w.map d f).sysPresent = w.sysPresent := rfl

@[simp] theorem mark_claimed_self (b : Bool) : (w.mark u b).claimed u = b :=
  Function.update_self ..

theorem mark_claimed (b : Bool) (h : v ≠ u) : (w.mark u b).claimed v = w.claimed v :=
  Function.update_of_ne h ..

@[simp] theorem mark_dev (b : Bool) : (w.mark u b).dev = w.dev := rfl

@[simp] theorem mark_sysPresent (b : Bool) : (w.mark u b).sysPresent = w.sysPresent := rfl

theorem map_active (f : Dev → Dev) (hf : (f (w.dev d)).active = (w.dev d).active) :
    ((w.map d f).dev e).active = (w.dev e).active := by
  by_cases h : e = d
  · subst h
    rw [map_dev_self, hf]
  · rw [map_dev w f h]

end World

/-- The device `d` holds `e` while it is up. -/
def needs (s : Stack) (x : Dev) (d e : ℕ) : Bool :=
  match s.kind d with
  | .simple => x.attached && decide (s.base d = some e)
  | .vlan | .macvlan | .vlandev => decide (s.base d = some e)
  | .bridge => x.memPresent e
  | .veth | .tunnel => false

/-- What is known of the members of a device agrees, and only a bridge has any; for a simple one
no link is made. -/
structure Ports (s : Stack) (w : World) (d : ℕ) : Prop where
  unlinked : s.kind d = .simple → (w.dev d).link = false
  plain : s.kind d ≠ .bridge → (w.dev d).members = []
  nodup : (w.dev d).members.Nodup
  below : ∀ m ∈ (w.dev d).members, m ∈ s.below d
  count : (w.dev d).nPresent = (w.dev d).members.countP (w.dev d).memPresent
  mem : ∀ m, (w.dev d).memPresent m = true → m ∈ (w.dev d).members
  shown : ∀ m, (w.dev d).memPresent m = true → w.sysPresent d = true

/-- The device holds just what it needs. -/
def Holds (s : Stack) (w : World) (d : ℕ) : Prop :=
  ∀ e, w.claimed (.dep d e) = needs s (w.dev d) d e

/-- The device holds nothing, and has no link. -/
def Bare (w : World) (d : ℕ) : Prop :=
  (∀ e, w.claimed (.dep d e) = false) ∧ (w.dev d).link = false

/-- The counts are right, and every device that is not just brought up or taken down holds what it
needs if it is up, and nothing if it is not. -/
structure Sound (s : Stack) (busy : Set ℕ) (w : World) : Prop where
  count : ∀ d, (w.dev d).active = (s.users d).countP w.claimed
  placed : ∀ d e, w.claimed (.dep d e) = true → e ∈ s.below d
  ports : ∀ d, Ports s w d
  held : ∀ d, d ∉ busy → s.external d = false → (w.dev d).active ≠ 0 → Holds s w d
  bare : ∀ d, d ∉ busy → (w.dev d).active = 0 ∨ s.external d = true → Bare w d

/-- Nothing is just brought up or taken down. -/
abbrev Settled (s : Stack) (w : World) : Prop := Sound s ∅ w

/-- The counts are right, and a device that is not up claims nothing. -/
structure Grounded (s : Stack) (w : World) : Prop where
  count : ∀ d, (w.dev d).active = (s.users d).countP w.claimed
  idle : ∀ d, (w.dev d).active = 0 → ∀ e, w.claimed (.dep d e) = false

/-- The claims of `w₀` are still there, and so is what netifd knew of the devices that were up. -/
structure Near (s : Stack) (w₀ w : World) : Prop where
  kept : ∀ v, w₀.claimed v = true → w.claimed v = true
  link : ∀ d, (w₀.dev d).active ≠ 0 → (w.dev d).link = (w₀.dev d).link
  needs : ∀ d, (w₀.dev d).active ≠ 0 → ∀ e, needs s (w.dev d) d e = needs s (w₀.dev d) d e

/-- What is known of a device does not change, but some members that are not present may go. -/
structure Dev.Agree (x y : Dev) : Prop where
  active : y.active = x.active
  link : y.link = x.link
  attached : y.attached = x.attached
  memPresent : y.memPresent = x.memPresent
  nPresent : y.nPresent = x.nPresent
  forceActive : y.forceActive = x.forceActive
  members : y.members ⊆ x.members

/-- The devices that are just brought up or taken down are left alone. -/
structure Frame (s : Stack) (busy : Set ℕ) (w w' : World) : Prop where
  dev : ∀ d ∈ busy, (w.dev d).Agree (w'.dev d)
  dep : ∀ d ∈ busy, ∀ e, w'.claimed (.dep d e) = w.claimed (.dep d e)
  other : ∀ i, w'.claimed (.other i) = w.claimed (.other i)
  shown : ∀ d ∈ busy, s.kind d = .bridge → w'.sysPresent d = w.sysPresent d

/-- The devices that are just brought up hold no more than they need. -/
def Awake (s : Stack) (busy : Set ℕ) (w : World) : Prop :=
  ∀ d ∈ busy, (w.dev d).active ≠ 0 ∧
    ∀ e, w.claimed (.dep d e) = true → needs s (w.dev d) d e = true

section Basics

variable {s : Stack} {busy : Set ℕ} {w v t w₀ : World} {u : User} {d p : ℕ}

theorem Sound.grounded (h : Sound s busy w) (hawake : Awake s busy w) : Grounded s w where
  count := h.count
  idle d hdown := (h.bare d (fun hd => (hawake d hd).1 hdown) (.inl hdown)).1

theorem Dev.Agree.refl (x : Dev) : x.Agree x :=
  ⟨rfl, rfl, rfl, rfl, rfl, rfl, List.Subset.refl _⟩

theorem Dev.Agree.trans {x y z : Dev} (h : x.Agree y) (h' : y.Agree z) : x.Agree z where
  active := h'.active.trans h.active
  link := h'.link.trans h.link
  attached := h'.attached.trans h.attached
  memPresent := h'.memPresent.trans h.memPresent
  nPresent := h'.nPresent.trans h.nPresent
  forceActive := h'.forceActive.trans h.forceActive
  members := List.Subset.trans h'.members h.members

theorem Dev.Agree.needs {x y : Dev} (h : x.Agree y) (s : Stack) (d e : ℕ) :
    ClaimAttempts.needs s y d e = ClaimAttempts.needs s x d e := by
  simp only [ClaimAttempts.needs, h.attached, h.memPresent]

theorem Frame.refl (w : World) : Frame s busy w w :=
  ⟨fun _ _ => .refl _, fun _ _ _ => rfl, fun _ => rfl, fun _ _ _ => rfl⟩

theorem Frame.trans (h : Frame s busy w v) (h' : Frame s busy v t) : Frame s busy w t where
  dev d hd := (h.dev d hd).trans (h'.dev d hd)
  dep d hd e := (h'.dep d hd e).trans (h.dep d hd e)
  other i := (h'.other i).trans (h.other i)
  shown d hd hkind := (h'.shown d hd hkind).trans (h.shown d hd hkind)

theorem Frame.awake (h : Frame s busy w v) (hawake : Awake s busy w) : Awake s busy v := by
  intro d hd
  obtain ⟨hactive, hneeds⟩ := hawake d hd
  refine ⟨by rwa [(h.dev d hd).active], fun e he => ?_⟩
  rw [(h.dev d hd).needs]
  exact hneeds e (by rwa [← h.dep d hd])

theorem Near.refl (w : World) : Near s w w :=
  ⟨fun _ h => h, fun _ _ => rfl, fun _ _ _ => rfl⟩

/-- A device that was up still is. -/
theorem Near.active (h : Near s w₀ w) (h₀ : Grounded s w₀) (hw : Sound s busy w)
    (hd : (w₀.dev d).active ≠ 0) : (w.dev d).active ≠ 0 := by
  have hle : (s.users d).countP w₀.claimed ≤ (s.users d).countP w.claimed :=
    List.countP_mono_left fun v _ hv => h.kept v hv
  rw [h₀.count d] at hd
  rw [hw.count d]
  omega

theorem dev_eq (hp : s.dev u = some p) : u ∈ s.users p := by
  cases u with
  | dep d e =>
    rw [Stack.dev] at hp
    split at hp
    · rename_i he
      cases hp
      exact (s.dep_mem d p p).mpr ⟨rfl, he⟩
    · cases hp
  | other i => exact (s.other_mem i p).mpr hp

theorem not_mem_users (hp : s.dev u = some p) (hd : d ≠ p) : u ∉ s.users d := by
  intro hmem
  cases u with
  | dep b e =>
    obtain ⟨heq, he⟩ := (s.dep_mem b d e).mp hmem
    rw [Stack.dev, heq, if_pos he] at hp
    exact hd (Option.some.inj hp)
  | other i =>
    rw [Stack.dev, (s.other_mem i d).mp hmem] at hp
    exact hd (Option.some.inj hp)

/-- An invariant of a claim that began in `w₀`. -/
structure Good (s : Stack) (w₀ : World) (busy : Set ℕ) (w : World) : Prop where
  sound : Sound s busy w
  near : Near s w₀ w

theorem Sound.of_same {busy' : Set ℕ} (h : Sound s busy w)
    (hcount : ∀ d, (v.dev d).active = (s.users d).countP v.claimed)
    (hplaced : ∀ d e, v.claimed (.dep d e) = true → e ∈ s.below d) (hports : ∀ d, Ports s v d)
    (hsub : ∀ d, d ∉ busy' → d ∉ busy)
    (hdep : ∀ d, d ∉ busy' → ∀ e, v.claimed (.dep d e) = w.claimed (.dep d e))
    (hlink : ∀ d, d ∉ busy' → (v.dev d).link = (w.dev d).link)
    (hactive : ∀ d, d ∉ busy' → ((v.dev d).active = 0 ↔ (w.dev d).active = 0))
    (hneeds : ∀ d, d ∉ busy' → (w.dev d).active ≠ 0 →
      ∀ e, needs s (v.dev d) d e = needs s (w.dev d) d e) : Sound s busy' v where
  count := hcount
  placed := hplaced
  ports := hports
  held d hd hext hup e := by
    have hup' : (w.dev d).active ≠ 0 := fun hzero => hup ((hactive d hd).mpr hzero)
    rw [hdep d hd, hneeds d hd hup']
    exact h.held d (hsub d hd) hext hup' e
  bare d hd hdown := by
    have hdown' : (w.dev d).active = 0 ∨ s.external d = true :=
      hdown.imp_left (hactive d hd).mp
    obtain ⟨hclaims, hnone⟩ := h.bare d (hsub d hd) hdown'
    exact ⟨fun e => (hdep d hd e).trans (hclaims e), (hlink d hd).trans hnone⟩

/-- The device is up or down now. -/
theorem Sound.finish (h : Sound s (insert d busy) w)
    (hheld : s.external d = false → (w.dev d).active ≠ 0 → Holds s w d)
    (hbare : (w.dev d).active = 0 ∨ s.external d = true → Bare w d) : Sound s busy w where
  count := h.count
  placed := h.placed
  ports := h.ports
  held e he := by
    by_cases hed : e = d
    · subst hed
      exact hheld
    · exact h.held e fun hmem => (Set.mem_insert_iff.mp hmem).elim hed he
  bare e he := by
    by_cases hed : e = d
    · subst hed
      exact hbare
    · exact h.bare e fun hmem => (Set.mem_insert_iff.mp hmem).elim hed he

theorem Ports.of_agree {x : Dev} (h : Ports s w d) (hx : v.dev d = x)
    (hlink : s.kind d = .simple → x.link = (w.dev d).link)
    (hmembers : x.members = (w.dev d).members) (hpresent : x.memPresent = (w.dev d).memPresent)
    (hn : x.nPresent = (w.dev d).nPresent) (hshown : v.sysPresent d = w.sysPresent d) :
    Ports s v d := by
  subst hx
  constructor
  · exact fun hkind => (hlink hkind).trans (h.unlinked hkind)
  · rw [hmembers]
    exact h.plain
  · rw [hmembers]
    exact h.nodup
  · rw [hmembers]
    exact h.below
  · rw [hmembers, hpresent, hn]
    exact h.count
  · rw [hmembers, hpresent]
    exact h.mem
  · rw [hpresent, hshown]
    exact h.shown

theorem recount_dev_self (w : World) (u : User) (d : ℕ) (b : Bool) (n : ℤ) :
    (w.recount u d b n).dev d = { w.dev d with active := n } := by
  rw [World.recount, World.mark_dev, World.map_dev_self]

theorem recount_dev (w : World) (u : User) {d e : ℕ} (b : Bool) (n : ℤ) (h : e ≠ d) :
    (w.recount u d b n).dev e = w.dev e := by
  rw [World.recount, World.mark_dev, World.map_dev _ _ h]

theorem recount_claimed (w : World) {u v : User} (d : ℕ) (b : Bool) (n : ℤ) (h : v ≠ u) :
    (w.recount u d b n).claimed v = w.claimed v := World.mark_claimed _ _ h

@[simp] theorem recount_claimed_self (w : World) (u : User) (d : ℕ) (b : Bool) (n : ℤ) :
    (w.recount u d b n).claimed u = b := World.mark_claimed_self ..

theorem recount_ports (h : Ports s w d) (u : User) (p : ℕ) (b : Bool) (n : ℤ) :
    Ports s (w.recount u p b n) d := by
  by_cases hd : d = p
  · subst hd
    exact h.of_agree (recount_dev_self ..) (fun _ => rfl) rfl rfl rfl rfl
  · exact h.of_agree (recount_dev w u b n hd) (fun _ => rfl) rfl rfl rfl rfl

theorem recount_needs (w : World) (u : User) (p : ℕ) (b : Bool) (n : ℤ) (e : ℕ) :
    needs s ((w.recount u p b n).dev d) d e = needs s (w.dev d) d e := by
  by_cases hd : d = p
  · subst hd
    rw [recount_dev_self]
    rfl
  · rw [recount_dev w u b n hd]

theorem recount_link (w : World) (u : User) (p : ℕ) (b : Bool) (n : ℤ) :
    ((w.recount u p b n).dev d).link = (w.dev d).link := by
  by_cases hd : d = p
  · subst hd
    rw [recount_dev_self]
  · rw [recount_dev w u b n hd]

/-- The count of the device of a user is right again. -/
theorem Sound.recount {busy' : Set ℕ} (h : Sound s busy w) (hp : s.dev u = some p) {b : Bool}
    {n : ℤ} (hn : n = (s.users p).countP (w.recount u p b n).claimed)
    (hbelow : ∀ d e, u = .dep d e → d ∈ busy') (hsub : busy ⊆ busy')
    (hactive : p ∉ busy' → (n = 0 ↔ (w.dev p).active = 0)) :
    Sound s busy' (w.recount u p b n) := by
  have hne : ∀ d, d ∉ busy' → ∀ e, User.dep d e ≠ u :=
    fun d hd e heq => hd (hbelow d e heq.symm)
  apply h.of_same
  · intro d
    by_cases hd : d = p
    · subst hd
      rw [recount_dev_self]
      exact hn
    · rw [recount_dev w u b n hd, h.count d]
      have hsame := countP_eq_of_notMem (not_mem_users hp hd) (p := w.claimed)
        (q := (w.recount u p b n).claimed) fun v hv => recount_claimed w p b n hv
      rw [hsame]
  · intro d e hclaimed
    by_cases hd : User.dep d e = u
    · subst hd
      rw [Stack.dev] at hp
      split at hp
      · assumption
      · cases hp
    · rw [recount_claimed w p b n hd] at hclaimed
      exact h.placed d e hclaimed
  · exact fun d => recount_ports (h.ports d) u p b n
  · exact fun d hd hmem => hd (hsub hmem)
  · exact fun d hd e => recount_claimed w p b n (hne d hd e)
  · exact fun d _ => recount_link w u p b n
  · intro d hd
    by_cases hdp : d = p
    · subst hdp
      rw [recount_dev_self]
      exact hactive hd
    · rw [recount_dev w u b n hdp]
  · exact fun d _ _ e => recount_needs w u p b n e

theorem count_claim (h : Sound s busy w) (hp : s.dev u = some p) (hu : w.claimed u = false)
    (n : ℤ) :
    (w.dev p).active + 1 = (s.users p).countP (w.recount u p true n).claimed := by
  have hcount := countP_update (s.users_nodup p) (dev_eq hp) hu
    (recount_claimed_self w u p true n) fun v hv => recount_claimed w p true n hv
  rw [hcount, h.count p]
  push_cast
  rfl

theorem count_release (h : Sound s busy w) (hp : s.dev u = some p) (hu : w.claimed u = true)
    (n : ℤ) :
    (w.dev p).active - 1 = (s.users p).countP (w.recount u p false n).claimed := by
  have hcount := countP_update (s.users_nodup p) (dev_eq hp)
    (recount_claimed_self w u p false n) hu fun v hv => (recount_claimed w p false n hv).symm
  rw [h.count p, hcount]
  push_cast
  omega

theorem Near.recount (h : Near s w₀ w) (p : ℕ) {b : Bool} (n : ℤ)
    (hb : b = false → w₀.claimed u = false) : Near s w₀ (w.recount u p b n) where
  kept v hv := by
    by_cases hvu : v = u
    · subst hvu
      rw [recount_claimed_self]
      by_contra hfalse
      rw [hb (by simpa using hfalse)] at hv
      cases hv
    · rw [recount_claimed w p b n hvu]
      exact h.kept v hv
  link d hd := (recount_link w u p b n).trans (h.link d hd)
  needs d hd e := (recount_needs w u p b n e).trans (h.needs d hd e)

theorem Near.map (h : Near s w₀ w) (hd : (w₀.dev d).active = 0) (f : Dev → Dev) :
    Near s w₀ (w.map d f) where
  kept := h.kept
  link e he := by
    have hne : e ≠ d := by
      rintro rfl
      exact he hd
    rw [World.map_dev w f hne]
    exact h.link e he
  needs e he := by
    have hne : e ≠ d := by
      rintro rfl
      exact he hd
    rw [World.map_dev w f hne]
    exact h.needs e he

theorem Good.ask (h : Good s w₀ busy w) : Good s w₀ busy w.ask where
  sound :=
    { count := h.sound.count
      placed := h.sound.placed
      ports := fun d => (h.sound.ports d).of_agree rfl (fun _ => rfl) rfl rfl rfl rfl
      held := h.sound.held
      bare := h.sound.bare }
  near := ⟨h.near.kept, h.near.link, h.near.needs⟩

/-- A device changes that is just brought up or taken down. -/
theorem Good.modify (h : Good s w₀ busy w) (hd : d ∈ busy) (h₀ : (w₀.dev d).active = 0)
    {f : Dev → Dev} (hactive : (f (w.dev d)).active = (w.dev d).active)
    (hports : Ports s (w.map d f) d) : Good s w₀ busy (w.map d f) where
  sound := by
    have hne : ∀ e, e ∉ busy → e ≠ d := fun e he heq => he (heq ▸ hd)
    apply h.sound.of_same
    · intro e
      rw [w.map_active f hactive]
      exact h.sound.count e
    · exact h.sound.placed
    · intro e
      by_cases hed : e = d
      · subst hed
        exact hports
      · exact (h.sound.ports e).of_agree (World.map_dev w f hed) (fun _ => rfl) rfl rfl rfl rfl
    · exact fun _ he => he
    · exact fun _ _ _ => rfl
    · intro e he
      rw [World.map_dev w f (hne e he)]
    · intro e he
      rw [World.map_dev w f (hne e he)]
    · intro e he _ m
      rw [World.map_dev w f (hne e he)]
  near := h.near.map h₀ f

theorem Good.setLink (h : Good s w₀ busy w) (hd : d ∈ busy) (h₀ : (w₀.dev d).active = 0)
    (hkind : s.kind d ≠ .simple) (b : Bool) : Good s w₀ busy (w.setLink d b) :=
  h.modify hd h₀ rfl ((h.sound.ports d).of_agree (World.map_dev_self ..)
    (fun hsimple => absurd hsimple hkind) rfl rfl rfl rfl)

theorem frame_ask (w : World) : Frame s busy w w.ask :=
  ⟨fun _ _ => .refl _, fun _ _ _ => rfl, fun _ => rfl, fun _ _ _ => rfl⟩

theorem frame_map (w : World) (f : Dev → Dev) (hd : d ∉ busy) : Frame s busy w (w.map d f) where
  dev e he := by
    have hne : e ≠ d := by
      rintro rfl
      exact hd he
    rw [World.map_dev w f hne]
    exact .refl _
  dep _ _ _ := rfl
  other _ := rfl
  shown _ _ _ := rfl

theorem Frame.mark (h : Frame s busy w v) (u : User) (b : Bool) :
    Frame s busy (w.mark u b) (v.mark u b) where
  dev := h.dev
  dep d hd e := by
    by_cases heq : User.dep d e = u
    · subst heq
      simp
    · rw [World.mark_claimed _ _ heq, World.mark_claimed _ _ heq]
      exact h.dep d hd e
  other i := by
    by_cases heq : User.other i = u
    · subst heq
      simp
    · rw [World.mark_claimed _ _ heq, World.mark_claimed _ _ heq]
      exact h.other i
  shown := h.shown

theorem mark_mark (w : World) (u : User) (b b' : Bool) :
    (w.mark u b).mark u b' = w.mark u b' := by
  simp [World.mark]

theorem mark_self (w : World) (u : User) {b : Bool} (h : w.claimed u = b) : w.mark u b = w := by
  subst h
  simp [World.mark]

theorem frame_recount (w : World) (u : User) (b : Bool) (n : ℤ) (hp : p ∉ busy) :
    Frame s busy (w.mark u b) (w.recount u p b n) :=
  (frame_map w _ hp).mark u b

end Basics

/-- The user is no device's, or that of one that is just brought up and needs it. -/
def Owned (s : Stack) (busy : Set ℕ) (w : World) (u : User) : Prop :=
  ∀ d e, u = .dep d e → d ∈ busy ∧ needs s (w.dev d) d e = true

/-- What a claim does. -/
structure Claimed (s : Stack) (w₀ : World) (busy : Set ℕ) (u : User) (w : World)
    (r : ℤ × World) : Prop where
  nonpos : r.1 ≤ 0
  good : Good s w₀ busy r.2
  frame : Frame s busy (w.mark u (decide (r.1 = 0))) r.2

/-- What a release does. -/
structure Released (s : Stack) (w₀ : World) (busy : Set ℕ) (u : User) (w w' : World) : Prop where
  good : Good s w₀ busy w'
  frame : Frame s busy (w.mark u false) w'

/-- What a state callback keeps while it brings the device up or takes it down. -/
structure Kept (s : Stack) (w₀ : World) (busy : Set ℕ) (d : ℕ) (w w' : World) : Prop where
  good : Good s w₀ (insert d busy) w'
  frame : Frame s busy w w'
  active : (w'.dev d).active = (w.dev d).active

/-- The device is to be brought up. -/
structure Rising (s : Stack) (w₀ : World) (busy : Set ℕ) (d : ℕ) (w : World) : Prop where
  good : Good s w₀ (insert d busy) w
  above : ∀ e ∈ busy, d < e
  internal : s.external d = false
  awake : Awake s (insert d busy) w
  bare : Bare w d
  start : (w₀.dev d).active = 0

/-- The device is to be taken down. -/
structure Falling (s : Stack) (w₀ : World) (busy : Set ℕ) (d : ℕ) (w : World) : Prop where
  good : Good s w₀ (insert d busy) w
  above : ∀ e ∈ busy, d < e
  holds : Holds s w d
  start : (w₀.dev d).active = 0

/-- What it does when it is to bring the device up. -/
structure Raised (s : Stack) (w₀ : World) (busy : Set ℕ) (d : ℕ) (w : World)
    (r : ℤ × World) : Prop where
  nonpos : r.1 ≤ 0
  kept : Kept s w₀ busy d w r.2
  held : r.1 = 0 → s.external d = false → Holds s r.2 d
  bare : r.1 ≠ 0 ∨ s.external d = true → Bare r.2 d

/-- What it does when it is to take the device down. -/
structure Lowered (s : Stack) (w₀ : World) (busy : Set ℕ) (d : ℕ) (w w' : World) : Prop where
  kept : Kept s w₀ busy d w w'
  bare : Bare w' d

/-- Some devices are gone that hold nothing; `d` is the one where it began. -/
structure Calm (s : Stack) (d : ℕ) (w w' : World) : Prop where
  claimed : w'.claimed = w.claimed
  active : ∀ e, (w'.dev e).active = (w.dev e).active
  link : ∀ e, (w'.dev e).link = (w.dev e).link
  agree : ∀ e, (w.dev e).active ≠ 0 → (w.dev e).Agree (w'.dev e)
  shown : ∀ e, e ≠ d → s.kind e = .bridge → (w.dev e).active ≠ 0 →
    w'.sysPresent e = w.sysPresent e
  present : ∀ e, w.present e = false → w'.present e = false

/-- All calls do what they should. -/
structure Works (s : Stack) (w₀ : World) (call : Call → World → Answer) : Prop where
  claim : ∀ {busy w u p r}, Good s w₀ busy w → s.dev u = some p → (∀ e ∈ busy, p < e) →
    Owned s busy w u → Awake s busy w → w.claimed u = false → call (.claim u) w = some r →
    Claimed s w₀ busy u w r
  release : ∀ {busy w u p r}, Good s w₀ busy w → s.dev u = some p → (∀ e ∈ busy, p < e) →
    (∀ d e, u = .dep d e → d ∈ busy) → w₀.claimed u = false → call (.release u) w = some r →
    Released s w₀ busy u w r.2
  held : ∀ {w u r}, w.claimed u = true → call (.claim u) w = some r → r = (0, w)
  unheld : ∀ {w u r}, w.claimed u = false → call (.release u) w = some r → r.2 = w
  up : ∀ {busy w d r}, Rising s w₀ busy d w → call (.setState d true) w = some r →
    Raised s w₀ busy d w r
  down : ∀ {busy w d r}, Falling s w₀ busy d w → call (.setState d false) w = some r →
    Lowered s w₀ busy d w r.2
  there : ∀ {w d r}, w.sysPresent d = true → call (.setPresent d true) w = some r → r.2 = w
  gone : ∀ {busy w d r}, Good s w₀ busy w → Awake s busy w →
    (∀ m, (w.dev d).memPresent m = false) → call (.setPresent d false) w = some r →
    Good s w₀ busy r.2 ∧ Calm s d w r.2

end Netifd.ClaimAttempts
