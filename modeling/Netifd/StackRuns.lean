import Netifd.DeviceStacks

/-!
# Runs of claims on stacked devices

Each state callback does what it should if those of the devices below do, so every device does, and
every run keeps the accounts.
-/

namespace Netifd.DeviceStacks

/-- What a state callback does when it is to bring its device up. -/
structure Raised (s : Stack) (busy : Set ℕ) (d : ℕ) (w : World) (result : ℤ × World) : Prop where
  sound : Sound s (insert d busy) result.2
  frame : Frame (d + 1) (.own d) w result.2
  active : result.2.active d = w.active d
  nonpos : result.1 ≤ 0
  held : result.1 = 0 → s.external d = false → Held s result.2 d
  clear : result.1 ≠ 0 ∨ s.external d = true → Clear s result.2 d

/-- What it does when it is to take the device down. -/
structure Lowered (s : Stack) (busy : Set ℕ) (d : ℕ) (w w' : World) : Prop where
  sound : Sound s (insert d busy) w'
  frame : Frame (d + 1) (.own d) w w'
  active : w'.active d = w.active d
  clear : Clear s w' d

/-- The callback does either. -/
structure Works (s : Stack) (d : ℕ) (f : SetState) : Prop where
  up : ∀ busy w, s.external d = false → Sound s (insert d busy) w → (∀ e ∈ busy, d < e) →
    Clear s w d → Raised s busy d w (f true w)
  down : ∀ busy w, s.external d = false → Sound s (insert d busy) w → (∀ e ∈ busy, d < e) →
    Held s w d → Lowered s busy d w (f false w).2

/-- What a claim does. -/
structure Claimed (s : Stack) (busy : Set ℕ) (n : ℕ) (u : User) (w : World)
    (result : ℤ × World) : Prop where
  sound : Sound s busy result.2
  frame : Frame n u w result.2
  nonpos : result.1 ≤ 0
  claimed : result.2.claimed u = true ↔ result.1 = 0

/-- What a release does. -/
structure Released (s : Stack) (busy : Set ℕ) (n : ℕ) (u : User) (w w' : World) : Prop where
  sound : Sound s busy w'
  frame : Frame n u w w'
  claimed : w'.claimed u = false

section Calls

variable {s : Stack} {k : Kernel} {busy : Set ℕ} {w : World} {u : User} {d p : ℕ} {f : SetState}

theorem frame_recount (w : World) (u : User) (d : ℕ) (claimed : Bool) (active : ℤ) :
    Frame (d + 1) u w (w.recount u d claimed active) where
  active e he := by
    apply World.recount_active
    omega
  claimed v hv _ := World.recount_claimed w claimed active hv
  now _ _ := ⟨rfl, rfl, rfl, rfl⟩

theorem frame_usable (w : World) (u : User) (d : ℕ) (b : Bool) :
    Frame (d + 1) u w (w.setUsable d b) := frame_happen u fun _ he => agree_usable w b he

theorem Frame.above {v : World} (h : Frame (d + 1) (.own d) w v) (u : User) :
    Frame (d + 1) u w v where
  active := h.active
  claimed x _ hx := by
    apply h.claimed x _ hx
    rintro rfl
    have := hx d rfl
    omega
  now := h.now

theorem Leaves.of_frame {v : World} {n : ℕ} (h : Leaves s w u) (hframe : Frame n u w v)
    (hn : ∀ d, u = .own d → n ≤ d) : Leaves s v u := by
  intro d hd
  have hagree := hframe.now d (hn d hd)
  rw [hagree.running, hagree.link]
  exact h d hd

variable (hfree : p ∉ busy) (hdev : s.dev u = some p) (hown : ∀ d, u = .own d → d ∈ busy)

include hfree hdev hown in
theorem Sound.claim_first (h : Sound s busy w) (hu : w.claimed u = false)
    (hidle : w.active p = 0) :
    Sound s (insert p busy) (w.recount u p true (w.active p + 1)) ∧
      Clear s (w.recount u p true (w.active p + 1)) p := by
  have hdown : w.now.usable p = false := by
    have husable := h.usable p hfree
    rw [hidle] at husable
    simpa using husable
  have hne : User.own p ≠ u := fun heq => hfree (hown p heq.symm)
  have hclear := h.clear p hfree (.inl hidle)
  constructor
  · apply (h.begin hdown).recount hdev (h.count_claim hdev hu)
    · exact fun d hd => Set.mem_insert_of_mem _ (hown d hd)
    · simp
    · exact .inl (Set.mem_insert p busy)
  · constructor
    · exact hclear.running
    · exact hclear.link
    · intro hkind
      rw [World.recount_claimed w true _ hne]
      exact hclear.parent hkind

include hfree hdev hown in
theorem Sound.claim_failed (h : Sound s (insert p busy) w) (hu : w.claimed u = true)
    (hone : w.active p = 1) (hclear : Clear s w p) (hleaves : Leaves s w u) :
    Sound s busy (w.recount u p false 0) := by
  have hne : User.own p ≠ u := fun heq => hfree (hown p heq.symm)
  have hcount := h.count_release hdev hu
  rw [hone] at hcount
  have hleft : Sound s (insert p busy) (w.recount u p false 0) := by
    apply h.recount hdev hcount
    · exact fun d hd => Set.mem_insert_of_mem _ (hown d hd)
    · exact fun _ => hleaves
    · exact .inl (Set.mem_insert p busy)
  apply hleft.finish (World.recount_active_self ..) _ hfree
  constructor
  · exact hclear.running
  · exact hclear.link
  · intro hkind
    rw [World.recount_claimed w false _ hne]
    exact hclear.parent hkind

theorem bringUp_spec (hf : Works s p f) (h : Sound s (insert p busy) w)
    (hbusy : ∀ e ∈ busy, p < e) (hclear : Clear s w p) :
    Raised s busy p w (bringUp s k f p w) := by
  rw [bringUp]
  split
  · rename_i hext
    constructor
    · exact h
    · exact Frame.refl ..
    · rfl
    · dsimp only
      split <;> decide
    · simp [hext]
    · exact fun _ => hclear
  · rename_i hext
    exact hf.up busy w (by simpa using hext) h hbusy hclear

theorem Raised.claimed {v : World} {result : ℤ × World} (h : Raised s busy p v result)
    (hbusy : ∀ e ∈ busy, p < e) (hdev : s.dev u = some p) (hown : ∀ d, u = .own d → d ∈ busy)
    (hleaves : Leaves s v u) (hu : v.claimed u = true) (hone : v.active p = 1) :
    Claimed s busy (p + 1) u v (if result.1 = 0 then (0, result.2.broadcast p .up)
      else (result.1, result.2.recount u p false 0)) := by
  have hfree : p ∉ busy := fun hp => (hbusy p hp).false
  have habove : ∀ d, u = .own d → p + 1 ≤ d := fun d hd => hbusy d (hown d hd)
  have hne : u ≠ .own p := fun heq => hfree (hown p heq)
  have hframe := h.frame.above u
  have hkept : result.2.claimed u = true := (h.frame.claimed u hne habove).trans hu
  have hactive : result.2.active p = 1 := h.active.trans hone
  split
  · rename_i hzero
    constructor
    · apply h.sound.up hfree (fun e he => (hbusy e he).le) (by simp [hactive]) (h.held hzero)
      exact fun hext => h.clear (.inr hext)
    · exact hframe.trans (frame_usable ..)
    · exact le_rfl
    · exact iff_of_true hkept rfl
  · rename_i hzero
    have hleaves' : Leaves s result.2 u := hleaves.of_frame hframe habove
    constructor
    · exact h.sound.claim_failed hfree hdev hown hkept hactive (h.clear (.inl hzero)) hleaves'
    · exact hframe.trans (frame_recount ..)
    · exact h.nonpos
    · simp [hzero]

/-- A claim brings the device up, or is not made. -/
theorem deviceClaim_spec (hf : Works s p f) (h : Sound s busy w) (hbusy : ∀ e ∈ busy, p < e)
    (hdev : s.dev u = some p) (hown : ∀ d, u = .own d → d ∈ busy) (hleaves : Leaves s w u)
    (hu : w.claimed u = false) : Claimed s busy (p + 1) u w (deviceClaim s k f u p w) := by
  have hfree : p ∉ busy := fun hp => (hbusy p hp).false
  have hframe := frame_recount w u p true (w.active p + 1)
  rw [deviceClaim]
  split
  · -- somebody else holds the device
    rename_i hmore
    rw [World.recount_active_self] at hmore
    constructor
    · apply h.recount hdev (h.count_claim hdev hu) hown
      · simp
      · right
        have hcount := h.count p
        omega
    · exact hframe
    · exact le_rfl
    · exact iff_of_true (World.recount_claimed_self ..) rfl
  · rename_i hfirst
    rw [World.recount_active_self] at hfirst
    obtain ⟨hsound, hclear⟩ := h.claim_first hfree hdev hown hu (by omega)
    have hraised := bringUp_spec (k := k) hf hsound hbusy hclear
    have hclaim := hraised.claimed hbusy hdev hown hleaves (World.recount_claimed_self ..)
      (by rw [World.recount_active_self]; omega)
    constructor
    · exact hclaim.sound
    · exact hframe.trans hclaim.frame
    · exact hclaim.nonpos
    · exact hclaim.claimed

theorem takeDown_spec (hf : Works s p f) (h : Sound s (insert p busy) w)
    (hbusy : ∀ e ∈ busy, p < e) (hheld : s.external p = false → Held s w p)
    (hclear : s.external p = true → Clear s w p) :
    Lowered s busy p w (takeDown s f p w) := by
  rw [takeDown]
  split
  · rename_i hext
    exact ⟨h, Frame.refl .., rfl, hclear hext⟩
  · rename_i hext
    have hext : s.external p = false := by simpa using hext
    exact hf.down busy w hext h hbusy (hheld hext)

include hdev hown in
theorem Sound.release_last (h : Sound s busy w) (hu : w.claimed u = true) (hlast : w.active p = 1)
    (hleaves : Leaves s w u) :
    Sound s (insert p busy) ((w.recount u p false (w.active p - 1)).setUsable p false) := by
  have hcount := h.count_release hdev hu
  apply (h.teardown hdev hu hlast hown hleaves).recount hdev hcount
  · exact fun d hd => Set.mem_insert_of_mem _ (hown d hd)
  · exact fun _ => hleaves
  · exact .inl (Set.mem_insert p busy)

theorem broadcast_down (w : World) (d : ℕ) :
    (if w.active d ≠ 0 then w else w.broadcast d .down) = w := by
  split
  · rfl
  · rfl

/-- A release takes the device down if nobody else holds it. -/
theorem deviceRelease_spec (hf : Works s p f) (h : Sound s busy w) (hbusy : ∀ e ∈ busy, p < e)
    (hdev : s.dev u = some p) (hown : ∀ d, u = .own d → d ∈ busy) (hleaves : Leaves s w u)
    (hu : w.claimed u = true) : Released s busy (p + 1) u w (deviceRelease s f u p w) := by
  have hfree : p ∉ busy := fun hp => (hbusy p hp).false
  have habove : ∀ d, u = .own d → p + 1 ≤ d := fun d hd => hbusy d (hown d hd)
  have hne : u ≠ .own p := fun heq => hfree (hown p heq)
  have hframe := frame_recount w u p false (w.active p - 1)
  rw [deviceRelease]
  split
  · rename_i hmore
    rw [World.recount_active_self] at hmore
    constructor
    · apply h.recount hdev (h.count_release hdev hu) hown (fun _ => hleaves)
      right
      have hcount := h.count p
      have hpos : 0 < (s.users p).countP w.claimed :=
        List.countP_pos_iff.mpr ⟨u, (mem_users s p u).mpr hdev, hu⟩
      omega
    · exact hframe
    · exact World.recount_claimed_self ..
  · rename_i hlast
    rw [World.recount_active_self] at hlast
    have hone : w.active p = 1 := by omega
    have hsound := h.release_last hdev hown hu hone hleaves
    have hown' : ((w.recount u p false (w.active p - 1)).setUsable p false).claimed (.own p) =
        w.claimed (.own p) := World.recount_claimed (d := p) w false (w.active p - 1) (Ne.symm hne)
    have hlowered := takeDown_spec hf hsound hbusy
      (fun hext => by
        have hheld := h.held p hfree hext (by omega)
        constructor
        · exact hheld.running
        · exact fun q hon => hown'.trans (hheld.parent q hon))
      (fun hext => by
        have hclear := h.clear p hfree (.inr hext)
        constructor
        · exact hclear.running
        · exact hclear.link
        · exact fun hkind => hown'.trans (hclear.parent hkind))
    have hleft : ((w.recount u p false (w.active p - 1)).setUsable p false).active p = 0 :=
      (World.recount_active_self (u := u) (d := p) w false (w.active p - 1)).trans (by omega)
    have hidle := hlowered.active.trans hleft
    have hdone : Released s busy (p + 1) u w
        (takeDown s f p ((w.recount u p false (w.active p - 1)).setUsable p false)) := by
      constructor
      · exact hlowered.sound.finish hidle hlowered.clear hfree
      · exact hframe.trans ((frame_usable ..).trans (hlowered.frame.above u))
      · apply (hlowered.frame.claimed u hne habove).trans
        exact World.recount_claimed_self (d := p) w false (w.active p - 1)
    exact (congrArg (Released s busy (p + 1) u w) (broadcast_down _ p)).mpr hdone

end Calls

section Callbacks

variable {s : Stack} {k : Kernel} {busy : Set ℕ} {w v : World} {d : ℕ}
  {lower : ∀ p, s.base d = some p → SetState}

theorem Clear.of_frame (h : Clear s w d) (hframe : Frame d (.own d) w v)
    (hclaimed : v.claimed (.own d) = false) : Clear s v d where
  running := (hframe.now d le_rfl).running.trans h.running
  link hown hvlan := (hframe.now d le_rfl).link.trans (h.link hown hvlan)
  parent _ := hclaimed

theorem leaves_own (hrunning : (s.kind d).stacked = true → w.now.running d = false)
    (hlink : (s.kind d).stacked = true → s.kind d ≠ .vlan → w.now.link d = false) :
    Leaves s w (.own d) := by
  rintro e heq
  obtain rfl : d = e := User.own.inj heq
  exact ⟨hrunning, hlink⟩

theorem ownLink_of_stacked {kind : Kind} (h : kind.stacked = true) : kind.ownLink = true := by
  cases kind with
  | simple => simp [Kind.stacked] at h
  | _ => rfl

theorem le_of_busy (hbusy : ∀ e ∈ busy, d < e) : ∀ e ∈ insert d busy, d ≤ e := by
  intro e he
  rcases Set.mem_insert_iff.mp he with rfl | he
  · exact le_rfl
  · exact (hbusy e he).le

theorem Clear.leaves (h : Clear s w d) : Leaves s w (.own d) :=
  leaves_own (fun _ => h.running) fun hstacked => h.link (ownLink_of_stacked hstacked)

theorem claimParent_spec (hlower : ∀ p h, Works s p (lower p h)) (h : Sound s (insert d busy) w)
    (hbusy : ∀ e ∈ busy, d < e) (hleaves : Leaves s w (.own d)) :
    Claimed s (insert d busy) d (.own d) w (claimParent s k d lower w) := by
  rw [claimParent]
  split
  · rename_i hclaimed
    exact ⟨h, Frame.refl .., le_rfl, iff_of_true hclaimed rfl⟩
  · rename_i hclaimed
    have hclaimed : w.claimed (.own d) = false := by simpa using hclaimed
    split
    · exact ⟨h, Frame.refl .., by norm_num, by simp [hclaimed]⟩
    · rename_i p hbase
      have hlt := s.base_lt d p hbase
      have hall : ∀ e ∈ insert d busy, p < e := by
        intro e he
        rcases Set.mem_insert_iff.mp he with rfl | he
        · exact hlt
        · exact hlt.trans (hbusy e he)
      have hown : ∀ e, User.own d = .own e → e ∈ insert d busy := by
        rintro e heq
        obtain rfl : d = e := User.own.inj heq
        exact Set.mem_insert d busy
      have hclaim := deviceClaim_spec (k := k) (u := .own d) (hlower p hbase) h hall hbase hown
        hleaves hclaimed
      exact ⟨hclaim.sound, hclaim.frame.mono hlt, hclaim.nonpos, hclaim.claimed⟩

theorem releaseParent_spec (hlower : ∀ p h, Works s p (lower p h))
    (h : Sound s (insert d busy) w) (hbusy : ∀ e ∈ busy, d < e) (hleaves : Leaves s w (.own d)) :
    Released s (insert d busy) d (.own d) w (releaseParent s d lower w) := by
  rw [releaseParent]
  split
  · rename_i hclaimed
    split
    · rename_i hbase
      exact absurd hbase (h.placed d hclaimed)
    · rename_i p hbase
      have hlt := s.base_lt d p hbase
      have hall : ∀ e ∈ insert d busy, p < e := by
        intro e he
        rcases Set.mem_insert_iff.mp he with rfl | he
        · exact hlt
        · exact hlt.trans (hbusy e he)
      have hown : ∀ e, User.own d = .own e → e ∈ insert d busy := by
        rintro e heq
        obtain rfl : d = e := User.own.inj heq
        exact Set.mem_insert d busy
      have hrelease := deviceRelease_spec (u := .own d) (hlower p hbase) h hall hbase hown hleaves
        hclaimed
      exact ⟨hrelease.sound, hrelease.frame.mono hlt, hrelease.claimed⟩
  · rename_i hclaimed
    exact ⟨h, Frame.refl .., by simpa using hclaimed⟩

theorem setDeviceState_cases (s : Stack) (k : Kernel) (d : ℕ) (w : World) :
    setDeviceState s k d true w = (-1, w) ∨
      setDeviceState s k d true w = (0, w.setRunning d true) ∧
        ((s.kind d).ownLink = true → w.now.link d = true) := by
  rw [setDeviceState, if_pos rfl]
  split
  · exact .inl rfl
  · rename_i hindex
    refine .inr ⟨rfl, ?_⟩
    intro hown
    by_contra hlink
    simp [systemIfResolve, hown, hlink] at hindex

theorem systemLinkAdd_cases (k : Kernel) (d : ℕ) (w : World) :
    systemLinkAdd k d w = (0, w.setLink d true) ∨
      (systemLinkAdd k d w).1 < 0 ∧ (systemLinkAdd k d w).2 = w := by
  rw [systemLinkAdd]
  by_cases hzero : k.errno d = 0
  · left
    simp [hzero]
  · right
    constructor
    · simp only
      omega
    · simp [hzero]

theorem frame_running (w : World) (u : User) (d : ℕ) (b : Bool) :
    Frame (d + 1) u w (w.setRunning d b) := frame_happen u fun _ he => agree_running w b he

theorem frame_link (w : World) (u : User) (d : ℕ) (b : Bool) :
    Frame (d + 1) u w (w.setLink d b) := frame_happen u fun _ he => agree_link w b he

theorem frame_attach (w : World) (u : User) (d : ℕ) : Frame (d + 1) u w (w.attach d) :=
  frame_happen u fun _ he => agree_attached w he

theorem Raised.giveUp (hlower : ∀ p h, Works s p (lower p h)) (h : Sound s (insert d busy) v)
    (hbusy : ∀ e ∈ busy, d < e) (hclear : v.now.running d = false)
    (hlink : (s.kind d).ownLink = true → s.kind d ≠ .vlan → v.now.link d = false)
    (hframe : Frame (d + 1) (.own d) w v) (hactive : v.active d = w.active d) {ret : ℤ}
    (hret : ret < 0) : Raised s busy d w (ret, releaseParent s d lower v) := by
  have hleaves : Leaves s v (.own d) :=
    leaves_own (fun _ => hclear) fun hstacked => hlink (ownLink_of_stacked hstacked)
  have hrelease := releaseParent_spec hlower h hbusy hleaves
  constructor
  · exact hrelease.sound
  · exact hframe.trans (hrelease.frame.mono (by omega))
  · exact (hrelease.frame.active d le_rfl).trans hactive
  · exact hret.le
  · intro hzero
    omega
  · intro _
    constructor
    · exact (hrelease.frame.now d le_rfl).running.trans hclear
    · exact fun hown hvlan => (hrelease.frame.now d le_rfl).link.trans (hlink hown hvlan)
    · exact fun _ => hrelease.claimed

theorem Claimed.raised {result : ℤ × World}
    (h : Claimed s (insert d busy) d (.own d) w result) (hfail : result.1 < 0)
    (hclear : Clear s w d) : Raised s busy d w result where
  sound := h.sound
  frame := h.frame.mono (by omega)
  active := h.frame.active d le_rfl
  nonpos := h.nonpos
  held hzero := by omega
  clear _ := by
    apply hclear.of_frame h.frame
    have hnot : result.2.claimed (.own d) ≠ true := fun hclaimed =>
      hfail.ne (h.claimed.mp hclaimed)
    simpa using hnot

theorem Raised.done (hext : s.external d = false) (h : Sound s (insert d busy) v)
    (hbusy : ∀ e ∈ busy, d < e)
    (hlinked : (s.kind d).ownLink = true → v.now.link d = true)
    (hclaimed : ∀ p, OnBase s v.now d p → v.claimed (.own d) = true)
    (hstacked : (s.kind d).stacked = true → v.claimed (.own d) = true)
    (hframe : Frame (d + 1) (.own d) w v) (hactive : v.active d = w.active d) :
    Raised s busy d w (0, v.setRunning d true) := by
  have hall := le_of_busy hbusy
  constructor
  · exact h.ifUp (Set.mem_insert d busy) hall hlinked hstacked
  · exact hframe.trans (frame_running ..)
  · exact hactive
  · exact le_rfl
  · intro _ _
    exact ⟨Function.update_self .., hclaimed⟩
  · simp [hext]

theorem stackedSetUp_spec (hlower : ∀ p h, Works s p (lower p h)) (hext : s.external d = false)
    (h : Sound s (insert d busy) w) (hbusy : ∀ e ∈ busy, d < e) (hclear : Clear s w d) :
    Raised s busy d w (stackedSetUp s k d lower w) := by
  have hall := le_of_busy hbusy
  have hmem := Set.mem_insert d busy
  have hclaim := claimParent_spec (k := k) hlower h hbusy hclear.leaves
  rw [stackedSetUp]
  generalize claimParent s k d lower w = claim at hclaim
  have hagree := hclaim.frame.now d le_rfl
  have hactive := hclaim.frame.active d le_rfl
  have hframe : Frame (d + 1) (.own d) w claim.2 := hclaim.frame.mono (by omega)
  have hstill : claim.2.now.running d = false := hagree.running.trans hclear.running
  by_cases hfail : claim.1 < 0
  · simp only [if_pos hfail]
    exact hclaim.raised hfail hclear
  have hclaimed : claim.2.claimed (.own d) = true :=
    hclaim.claimed.mpr (le_antisymm hclaim.nonpos (not_lt.mp hfail))
  simp only [if_neg hfail]
  rcases systemLinkAdd_cases k d claim.2 with hadd | ⟨hneg, hsame⟩
  · -- the link has been made
    have hadded := hclaim.sound.linkAdd hmem hall fun _ => hclaimed
    rw [hadd, if_neg (lt_irrefl 0)]
    rcases setDeviceState_cases s k d (claim.2.setLink d true) with hup | ⟨hup, hlinked⟩
    · rw [hup, if_pos (by norm_num)]
      have hdeleted := hadded.linkDel hmem hall hstill
      apply Raised.giveUp hlower hdeleted hbusy hstill _ _ hactive (by norm_num)
      · exact fun _ _ => Function.update_self ..
      · exact hframe.trans ((frame_link ..).trans (frame_link ..))
    · rw [hup, if_neg (by simp)]
      exact Raised.done hext hadded hbusy hlinked (fun _ _ => hclaimed) (fun _ => hclaimed)
        (hframe.trans (frame_link ..)) hactive
  · rw [if_pos hneg, hsame]
    apply Raised.giveUp hlower hclaim.sound hbusy hstill _ hframe hactive hneg
    exact fun hown hvlan => hagree.link.trans (hclear.link hown hvlan)

theorem vlanSetDeviceState_up (hlower : ∀ p h, Works s p (lower p h))
    (hext : s.external d = false) (hkind : s.kind d = .vlan) (h : Sound s (insert d busy) w)
    (hbusy : ∀ e ∈ busy, d < e) (hclear : Clear s w d) :
    Raised s busy d w (vlanSetDeviceState s k d lower true w) := by
  have hall := le_of_busy hbusy
  have hclaim := claimParent_spec (k := k) hlower h hbusy hclear.leaves
  rw [vlanSetDeviceState, if_pos rfl]
  generalize claimParent s k d lower w = claim at hclaim
  have hagree := hclaim.frame.now d le_rfl
  have hactive := hclaim.frame.active d le_rfl
  have hframe : Frame (d + 1) (.own d) w claim.2 := hclaim.frame.mono (by omega)
  have hstill : claim.2.now.running d = false := hagree.running.trans hclear.running
  by_cases hfail : claim.1 < 0
  · simp only [if_pos hfail]
    exact hclaim.raised hfail hclear
  have hclaimed : claim.2.claimed (.own d) = true :=
    hclaim.claimed.mpr (le_antisymm hclaim.nonpos (not_lt.mp hfail))
  simp only [if_neg hfail]
  -- the link is there or not
  obtain ⟨v, hv, hsound, hframe', hactive', hstill', hclaimed'⟩ : ∃ v,
      (systemLinkAdd k d claim.2).2 = v ∧ Sound s (insert d busy) v ∧
      Frame (d + 1) (.own d) w v ∧ v.active d = w.active d ∧ v.now.running d = false ∧
      v.claimed (.own d) = true := by
    rcases systemLinkAdd_cases k d claim.2 with hadd | ⟨-, hsame⟩
    · refine ⟨_, rfl, ?_⟩
      rw [hadd]
      exact ⟨hclaim.sound.linkAdd (Set.mem_insert d busy) hall fun _ => hclaimed,
        hframe.trans (frame_link ..), hactive, hstill, hclaimed⟩
    · exact ⟨claim.2, hsame, hclaim.sound, hframe, hactive, hstill, hclaimed⟩
  rw [hv]
  rcases setDeviceState_cases s k d v with hup | ⟨hup, hlinked⟩
  · rw [hup, if_pos (by norm_num)]
    apply Raised.giveUp hlower hsound hbusy hstill' _ hframe' hactive' (by norm_num)
    exact fun _ hvlan => absurd hkind hvlan
  · rw [hup, if_neg (by simp)]
    exact Raised.done hext hsound hbusy hlinked (fun _ _ => hclaimed') (fun _ => hclaimed')
      hframe' hactive'

theorem not_onBase (hsimple : s.kind d ≠ .simple) (hstacked : (s.kind d).stacked = false)
    (m : Moment) (p : ℕ) : ¬OnBase s m d p := by
  rintro ⟨-, h | ⟨h, -⟩⟩
  · rw [hstacked] at h
    cases h
  · exact hsimple h

theorem Raised.alone (h : Sound s (insert d busy) v) (hclear : Clear s v d)
    (hframe : Frame (d + 1) (.own d) w v) (hactive : v.active d = w.active d) {ret : ℤ}
    (hret : ret < 0) :
    Raised s busy d w (ret, v) where
  sound := h
  frame := hframe
  active := hactive
  nonpos := hret.le
  held hzero := by
    dsimp only at hzero
    omega
  clear _ := hclear

/-- The steps of a device that has its link and no other below it. -/
theorem setUp_alone (hext : s.external d = false) (hown : (s.kind d).ownLink = true)
    (hstacked : (s.kind d).stacked = false) (h : Sound s (insert d busy) w)
    (hbusy : ∀ e ∈ busy, d < e) (hclear : Clear s w d) :
    Raised s busy d w (systemLinkAdd k d w) ∧ (systemLinkAdd k d w).1 < 0 ∨
      systemLinkAdd k d w = (0, w.setLink d true) ∧
        (setDeviceState s k d true (w.setLink d true) = (-1, w.setLink d true) ∧
            Raised s busy d w (-1, (w.setLink d true).setLink d false) ∨
          setDeviceState s k d true (w.setLink d true) =
              (0, (w.setLink d true).setRunning d true) ∧
            Raised s busy d w (0, (w.setLink d true).setRunning d true)) := by
  have hall := le_of_busy hbusy
  have hmem := Set.mem_insert d busy
  have hsimple : s.kind d ≠ .simple := by
    intro hkind
    simp [hkind, Kind.ownLink] at hown
  have hnone : (s.kind d).stacked = true → w.claimed (.own d) = true := by simp [hstacked]
  rcases systemLinkAdd_cases k d w with hadd | ⟨hneg, hsame⟩
  · right
    have hadded := h.linkAdd hmem hall hnone
    refine ⟨hadd, ?_⟩
    rcases setDeviceState_cases s k d (w.setLink d true) with hup | ⟨hup, hlinked⟩
    · left
      have hdeleted := hadded.linkDel hmem hall hclear.running
      refine ⟨hup, Raised.alone (w := w) hdeleted ?_ ?_ rfl (by norm_num)⟩
      · exact ⟨hclear.running, fun _ _ => Function.update_self .., hclear.parent⟩
      · exact (frame_link ..).trans (frame_link ..)
    · right
      refine ⟨hup, Raised.done hext hadded hbusy hlinked ?_ hnone (frame_link ..) rfl⟩
      exact fun p hon => absurd hon (not_onBase hsimple hstacked _ p)
  · left
    refine ⟨?_, hneg⟩
    generalize systemLinkAdd k d w = add at hneg hsame
    obtain ⟨ret, v⟩ := add
    subst hsame
    exact Raised.alone h hclear (Frame.refl ..) rfl hneg

theorem vethSetState_up (hext : s.external d = false) (hkind : s.kind d = .veth)
    (h : Sound s (insert d busy) w) (hbusy : ∀ e ∈ busy, d < e) (hclear : Clear s w d) :
    Raised s busy d w (vethSetState s k d true w) := by
  rw [vethSetState, if_pos rfl]
  rcases setUp_alone (k := k) hext (by simp [hkind, Kind.ownLink])
    (by simp [hkind, Kind.stacked]) h hbusy hclear with
    ⟨hraised, hneg⟩ | ⟨hadd, ⟨hup, hraised⟩ | ⟨hup, hraised⟩⟩
  · rw [if_pos hneg]
    exact hraised
  · simp only [hadd, lt_irrefl, if_false, hup]
    exact hraised
  · simp only [hadd, lt_irrefl, if_false, hup]
    exact hraised

theorem tunnelSetState_up (hext : s.external d = false) (hkind : s.kind d = .tunnel)
    (h : Sound s (insert d busy) w) (hbusy : ∀ e ∈ busy, d < e) (hclear : Clear s w d) :
    Raised s busy d w (tunnelSetState s k d true w) := by
  rw [tunnelSetState]
  rcases setUp_alone (k := k) hext (by simp [hkind, Kind.ownLink])
    (by simp [hkind, Kind.stacked]) h hbusy hclear with
    ⟨hraised, hneg⟩ | ⟨hadd, ⟨hup, hraised⟩ | ⟨hup, hraised⟩⟩
  · simp only [if_true, if_pos hneg.ne]
    exact hraised
  · simp only [if_true, hadd, ne_eq, not_true_eq_false, if_false, hup]
    simpa using hraised
  · simp only [if_true, hadd, ne_eq, not_true_eq_false, if_false, hup]
    simpa using hraised

/-- The index of a simple device does not depend on netifd. -/
theorem simpleDeviceSetState_up (hlower : ∀ p h, Works s p (lower p h))
    (hext : s.external d = false) (hkind : s.kind d = .simple) (h : Sound s (insert d busy) w)
    (hbusy : ∀ e ∈ busy, d < e) (hclear : Clear s w d) :
    Raised s busy d w (simpleDeviceSetState s k d lower true w) := by
  have hall := le_of_busy hbusy
  have hnot : ¬(s.kind d).stacked = true := by simp [hkind, Kind.stacked]
  have hnotLink : ¬(s.kind d).ownLink = true := by simp [hkind, Kind.ownLink]
  have hleaves (v : World) : Leaves s v (.own d) :=
    leaves_own (fun hstacked => absurd hstacked hnot) fun hstacked => absurd hstacked hnot
  rw [simpleDeviceSetState]
  -- the device below may be found just now
  obtain ⟨v, hv, hsound, hframe, hactive, hstill⟩ : ∃ v,
      (if true && !w.now.attached d && k.parent d && (s.base d).isSome then w.attach d else w) = v ∧
      Sound s (insert d busy) v ∧ Frame (d + 1) (.own d) w v ∧ v.active d = w.active d ∧
      v.now.running d = false := by
    split
    · exact ⟨_, rfl, h.attach (Set.mem_insert d busy) hall, frame_attach .., rfl, hclear.running⟩
    · exact ⟨w, rfl, h, Frame.refl .., rfl, hclear.running⟩
  simp only [hv]
  have hcleared : ∀ {t : World}, t.now.running d = false → Clear s t d := by
    intro t ht
    exact ⟨ht, fun hown => absurd hown hnotLink, fun hstacked => absurd hstacked hnot⟩
  have hup : ∀ t : World, Sound s (insert d busy) t → Frame (d + 1) (.own d) w t →
      t.active d = w.active d → t.now.running d = false →
      (t.now.attached d = true → t.claimed (.own d) = true) →
      Raised s busy d w (setDeviceState s k d true t) := by
    intro t ht hframe hactive hstill hclaimed
    rcases setDeviceState_cases s k d t with hup | ⟨hup, hlinked⟩
    · rw [hup]
      constructor
      · exact ht
      · exact hframe
      · exact hactive
      · norm_num
      · norm_num
      · exact fun _ => hcleared hstill
    · rw [hup]
      apply Raised.done hext ht hbusy hlinked _ (fun hstacked => absurd hstacked hnot) hframe hactive
      rintro p ⟨-, hon | ⟨-, hon⟩⟩
      · exact absurd hon hnot
      · exact hclaimed hon
  by_cases hattached : v.now.attached d = true
  · simp only [if_pos hattached, if_true]
    have hclaim := claimParent_spec (k := k) hlower hsound hbusy (hleaves v)
    generalize claimParent s k d lower v = claim at hclaim
    have hrest := hframe.trans (hclaim.frame.mono (by omega))
    have hactive' := (hclaim.frame.active d le_rfl).trans hactive
    have hstill' := (hclaim.frame.now d le_rfl).running.trans hstill
    split
    · rename_i hneg
      exact ⟨hclaim.sound, hrest, hactive', hclaim.nonpos, fun hzero => by omega,
        fun _ => hcleared hstill'⟩
    · rename_i hneg
      have hclaimed := hclaim.claimed.mpr (le_antisymm hclaim.nonpos (not_lt.mp hneg))
      exact hup claim.2 hclaim.sound hrest hactive' hstill' fun _ => hclaimed
  · simp only [if_neg hattached]
    exact hup v hsound hframe hactive hstill fun h => absurd h hattached

theorem setDown_spec (hlower : ∀ p h, Works s p (lower p h)) (h : Sound s (insert d busy) w)
    (hbusy : ∀ e ∈ busy, d < e) : Lowered s busy d w
      (releaseParent s d lower ((setDeviceState s k d false w).2.setLink d false)) := by
  have hall := le_of_busy hbusy
  have hmem := Set.mem_insert d busy
  have hdown : (setDeviceState s k d false w).2 = w.setRunning d false := rfl
  have hstill : ((w.setRunning d false).setLink d false).now.running d = false :=
    Function.update_self ..
  have hlink : ((w.setRunning d false).setLink d false).now.link d = false :=
    Function.update_self ..
  rw [hdown]
  have hdeleted := (h.ifDown hmem hall).linkDel hmem hall (Function.update_self ..)
  have hrelease := releaseParent_spec hlower hdeleted hbusy
    (leaves_own (fun _ => hstill) fun _ _ => hlink)
  have hagree := hrelease.frame.now d le_rfl
  constructor
  · exact hrelease.sound
  · exact (frame_running ..).trans ((frame_link ..).trans (hrelease.frame.mono (by omega)))
  · exact hrelease.frame.active d le_rfl
  · exact ⟨hagree.running.trans hstill, fun _ _ => hagree.link.trans hlink,
      fun _ => hrelease.claimed⟩

theorem setDown_alone (hstacked : (s.kind d).stacked = false) (h : Sound s (insert d busy) w)
    (hbusy : ∀ e ∈ busy, d < e) :
    Lowered s busy d w ((setDeviceState s k d false w).2.setLink d false) := by
  have hall := le_of_busy hbusy
  have hmem := Set.mem_insert d busy
  constructor
  · exact (h.ifDown hmem hall).linkDel hmem hall (Function.update_self ..)
  · exact (frame_running ..).trans (frame_link ..)
  · rfl
  · exact ⟨Function.update_self .., fun _ _ => Function.update_self .., by simp [hstacked]⟩

theorem simpleDeviceSetState_down (hlower : ∀ p h, Works s p (lower p h))
    (hkind : s.kind d = .simple) (h : Sound s (insert d busy) w) (hbusy : ∀ e ∈ busy, d < e) :
    Lowered s busy d w (simpleDeviceSetState s k d lower false w).2 := by
  have hall := le_of_busy hbusy
  have hmem := Set.mem_insert d busy
  have hnot : ¬(s.kind d).stacked = true := by simp [hkind, Kind.stacked]
  have hnotLink : ¬(s.kind d).ownLink = true := by simp [hkind, Kind.ownLink]
  have hdown : ∀ t : World, Sound s (insert d busy) t → Frame (d + 1) (.own d) w t →
      t.active d = w.active d → Lowered s busy d w (t.setRunning d false) := by
    intro t ht hframe hactive
    constructor
    · exact ht.ifDown hmem hall
    · exact hframe.trans (frame_running ..)
    · exact hactive
    · exact ⟨Function.update_self .., fun hown => absurd hown hnotLink,
        fun hstacked => absurd hstacked hnot⟩
  rw [simpleDeviceSetState]
  simp only [Bool.false_and, Bool.false_eq_true, if_false]
  by_cases hattached : w.now.attached d = true
  · have hrelease := releaseParent_spec hlower h hbusy
      (leaves_own (fun hstacked => absurd hstacked hnot) fun hstacked => absurd hstacked hnot)
    rw [if_pos hattached]
    exact hdown _ hrelease.sound (hrelease.frame.mono (by omega)) (hrelease.frame.active d le_rfl)
  · rw [if_neg hattached]
    exact hdown w h (Frame.refl ..) rfl

theorem kindSetState_works (hlower : ∀ p h, Works s p (lower p h)) :
    Works s d (kindSetState s k d lower) where
  up busy w hext h hbusy hclear := by
    unfold kindSetState
    cases hkind : s.kind d with
    | simple => exact simpleDeviceSetState_up hlower hext hkind h hbusy hclear
    | vlan => exact vlanSetDeviceState_up hlower hext hkind h hbusy hclear
    | macvlan => exact stackedSetUp_spec hlower hext h hbusy hclear
    | vlandev => exact stackedSetUp_spec hlower hext h hbusy hclear
    | veth => exact vethSetState_up hext hkind h hbusy hclear
    | tunnel => exact tunnelSetState_up hext hkind h hbusy hclear
  down busy w hext h hbusy hheld := by
    unfold kindSetState
    cases hkind : s.kind d with
    | simple => exact simpleDeviceSetState_down hlower hkind h hbusy
    | vlan => exact setDown_spec hlower h hbusy
    | macvlan => exact setDown_spec hlower h hbusy
    | vlandev => exact setDown_spec hlower h hbusy
    | veth => exact setDown_alone (by simp [hkind, Kind.stacked]) h hbusy
    | tunnel =>
      have hdown := setDown_alone (k := k) (by simp [hkind, Kind.stacked]) h hbusy
      simpa [tunnelSetState, setDeviceState] using hdown

end Callbacks

theorem setState_works (s : Stack) (k : Kernel) (d : ℕ) : Works s d (setState s k d) := by
  induction d using Nat.strong_induction_on with
  | h d ih =>
    rw [setState]
    apply kindSetState_works
    exact fun p hbase => ih p (s.base_lt d p hbase)

section Runs

variable {s : Stack} {w : World}

theorem sound_start (s : Stack) : Sound s ∅ {} := by
  have hfine : Fine s ({} : World).now := by constructor <;> simp
  have hclear : ∀ d, Clear s {} d := by
    intro d
    constructor <;> simp
  constructor
  · simp
  · simp
  · simp
  · simp
  · simp
  · exact fun d _ _ => hclear d
  · simp
  · simp
  · exact hfine
  · simp

theorem leaves_other (s : Stack) (w : World) (i : ℕ) : Leaves s w (.other i) := by
  rintro d heq
  cases heq

theorem call_sound (h : Sound s ∅ w) (c : Call) : Sound s ∅ (call s w c) := by
  have hnone : ∀ d : ℕ, ∀ e ∈ (∅ : Set ℕ), d < e := by simp
  have hown : ∀ i d, User.other i = .own d → d ∈ (∅ : Set ℕ) := by
    intro i d heq
    cases heq
  cases c with
  | claim i k =>
    rw [call]
    split
    · exact h
    · rename_i hclaimed
      split
      · exact h
      · rename_i d hdev
        exact (deviceClaim_spec (u := .other i) (setState_works s k d) h (hnone d) hdev (hown i)
          (leaves_other s w i) (by simpa using hclaimed)).sound
  | release i k =>
    rw [call]
    split
    · rename_i hclaimed
      split
      · exact h
      · rename_i d hdev
        exact (deviceRelease_spec (u := .other i) (setState_works s k d) h (hnone d) hdev (hown i)
          (leaves_other s w i) hclaimed).sound
    · exact h

/-- A call is nothing to the claims of the other users. -/
theorem call_claimed_other (h : Sound s ∅ w) {i j : ℕ} (hij : j ≠ i) (k : Kernel) :
    (call s w (.claim i k)).claimed (.other j) = w.claimed (.other j) ∧
      (call s w (.release i k)).claimed (.other j) = w.claimed (.other j) := by
  have hnone : ∀ d : ℕ, ∀ e ∈ (∅ : Set ℕ), d < e := by simp
  have hown : ∀ d, User.other i = .own d → d ∈ (∅ : Set ℕ) := by
    intro d heq
    cases heq
  have hne : User.other j ≠ .other i := fun heq => hij (User.other.inj heq)
  constructor
  · rw [call]
    split
    · rfl
    · rename_i hclaimed
      split
      · rfl
      · rename_i d hdev
        have hclaim := deviceClaim_spec (k := k) (u := .other i) (setState_works s k d) h
          (hnone d) hdev hown (leaves_other s w i) (by simpa using hclaimed)
        apply hclaim.frame.claimed _ hne
        intro e heq
        cases heq
  · rw [call]
    split
    · rename_i hclaimed
      split
      · rfl
      · rename_i d hdev
        have hrelease := deviceRelease_spec (u := .other i) (setState_works s k d) h (hnone d)
          hdev hown (leaves_other s w i) hclaimed
        apply hrelease.frame.claimed _ hne
        intro e heq
        cases heq
    · rfl

theorem call_release_claimed (h : Sound s ∅ w) {i d : ℕ} (hdev : s.target i = some d)
    (k : Kernel) : (call s w (.release i k)).claimed (.other i) = false := by
  rw [call]
  split
  · rename_i hclaimed
    rw [hdev]
    apply (deviceRelease_spec (u := .other i) (setState_works s k d) h (by simp) hdev _
      (leaves_other s w i) hclaimed).claimed
    intro e heq
    cases heq
  · rename_i hclaimed
    simpa using hclaimed

theorem run_sound (s : Stack) (calls : List Call) : Sound s ∅ (run s calls) := by
  have hrun : ∀ w, Sound s ∅ w → Sound s ∅ (calls.foldl (call s) w) := by
    induction calls with
    | nil => exact fun w h => h
    | cons c calls ih => exact fun w h => ih _ (call_sound h c)
  exact hrun {} (sound_start s)

/-- The two states are the same, up to VLANs that are left behind and to whether a simple device
has found the one below. -/
structure Alike (s : Stack) (w w' : World) : Prop where
  claimed : ∀ u, w'.claimed u = w.claimed u
  active : ∀ d, w'.active d = w.active d
  usable : ∀ d, w'.now.usable d = w.now.usable d
  running : ∀ d, w'.now.running d = w.now.running d
  link : ∀ d, (s.kind d).ownLink = true → s.kind d ≠ .vlan → w'.now.link d = w.now.link d

variable {w' : World}

theorem active_eq (h : Sound s ∅ w) (h' : Sound s ∅ w')
    (hother : ∀ i, w'.claimed (.other i) = w.claimed (.other i)) {d : ℕ}
    (habove : ∀ e, d < e → w'.claimed (.own e) = w.claimed (.own e)) :
    w'.active d = w.active d := by
  have hsame : (s.users d).countP w'.claimed = (s.users d).countP w.claimed := by
    apply List.countP_congr
    intro u hu
    cases u with
    | other i => rw [hother i]
    | own e => rw [habove e (s.base_lt e d ((s.mem_own d e).mp hu))]
  rw [h.count d, h'.count d, hsame]

theorem claimed_iff (h : Sound s ∅ w) {d p : ℕ} (hbase : s.base d = some p)
    (hkind : (s.kind d).stacked = true) :
    w.claimed (.own d) = true ↔ w.active d ≠ 0 ∧ s.external d = false := by
  have hfree : d ∉ (∅ : Set ℕ) := by simp
  constructor
  · intro hclaimed
    by_contra hidle
    have hclear := h.clear d hfree (by
      by_cases hactive : w.active d = 0
      · exact .inl hactive
      · right
        by_contra hext
        exact hidle ⟨hactive, by simpa using hext⟩)
    rw [hclear.parent hkind] at hclaimed
    cases hclaimed
  · rintro ⟨hactive, hext⟩
    exact (h.held d hfree hext hactive).parent p ⟨hbase, .inl hkind⟩

theorem own_eq (h : Sound s ∅ w) (h' : Sound s ∅ w')
    (hother : ∀ i, w'.claimed (.other i) = w.claimed (.other i))
    (hsimple : ∀ d, s.kind d = .simple → w'.claimed (.own d) = w.claimed (.own d)) (n : ℕ) :
    ∀ d, s.size ≤ d + n → w'.claimed (.own d) = w.claimed (.own d) := by
  have hnone : ∀ {t : World}, Sound s ∅ t → ∀ d, s.base d = none → t.claimed (.own d) = false := by
    intro t ht d hbase
    by_contra hclaimed
    exact ht.placed d (by simpa using hclaimed) hbase
  induction n with
  | zero =>
    intro d hd
    have hbase : s.base d = none := by
      by_contra hsome
      obtain ⟨p, hp⟩ := Option.ne_none_iff_exists'.mp hsome
      have := s.lt_size d p hp
      omega
    rw [hnone h d hbase, hnone h' d hbase]
  | succ n ih =>
    intro d hd
    have hactive := active_eq (d := d) h h' hother fun e he => ih e (by omega)
    cases hbase : s.base d with
    | none => rw [hnone h d hbase, hnone h' d hbase]
    | some p =>
      rcases s.base_kind d p hbase with hkind | hkind
      · have hiff := claimed_iff h hbase hkind
        have hiff' := claimed_iff h' hbase hkind
        rw [hactive] at hiff'
        exact Bool.eq_iff_iff.mpr (hiff'.trans hiff.symm)
      · exact hsimple d hkind

end Runs

/-- A MACVLAN device on a simple one, with an interface on it. -/
def macvlanStack : Stack where
  kind d := if d = 1 then .macvlan else .simple
  external _ := false
  base d := if d = 1 then some 0 else none
  target i := if i = 0 then some 1 else none
  users d := if d = 0 then [.own 1] else if d = 1 then [.other 0] else []
  size := 2
  base_lt d p h := by
    split at h
    · cases h
      omega
    · cases h
  lt_size d p h := by
    split at h
    · omega
    · cases h
  base_kind d p h := by
    split at h
    · rename_i hd
      simp [hd, Kind.stacked]
    · cases h
  nodup d := by
    split
    · simp
    · split <;> simp
  mem_own d e := by
    by_cases hd : d = 0
    · subst hd
      simp
    · have hd' : ¬0 = d := fun h => hd h.symm
      by_cases hd1 : d = 1 <;> simp [hd, hd', hd1]
  mem_other d i := by
    by_cases hd : d = 0
    · subst hd
      simp
    · by_cases hd1 : d = 1
      · subst hd1
        simp
      · have hd' : ¬1 = d := fun h => hd1 h.symm
        simp [hd, hd1, hd']

/-- The kernel does not make links. -/
def refusing : Kernel where
  errno _ := 17
  ifindex _ := 2
  parent _ := false

/-- An interface tries to claim the device and releases it. -/
def attempt : List Call := [.claim 0 refusing, .release 0 refusing]

theorem attempt_claims (u : User) (hu : u ≠ .own 1) :
    (run macvlanStack []).claimed u = (run macvlanStack attempt).claimed u := by
  have hstart := sound_start macvlanStack
  have hclaimed := call_sound hstart (.claim 0 refusing)
  cases u with
  | own d =>
    have hd : d ≠ 1 := fun heq => hu (congrArg User.own heq)
    have hbase : macvlanStack.base d = none := if_neg hd
    have hfalse : (run macvlanStack attempt).claimed (.own d) = false := by
      by_contra htrue
      exact (run_sound macvlanStack attempt).placed d (by simpa using htrue) hbase
    exact hfalse.symm
  | other i =>
    by_cases hi : i = 0
    · subst hi
      exact (call_release_claimed hclaimed (d := 1) rfl refusing).symm
    · have hfirst := (call_claimed_other hstart hi refusing).1
      have hsecond := (call_claimed_other hclaimed hi refusing).2
      exact (hsecond.trans hfirst).symm

end Netifd.DeviceStacks
