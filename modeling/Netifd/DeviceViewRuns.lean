import Netifd.DeviceViews

/-!
# Runs in which users know their devices

Each operation settles the users that are concerned by it, whatever its callbacks do. A run in
which nobody is told what is not so any more leaves no user with a wrong view between calls.
-/

namespace Netifd.DeviceViews
open ReentrantProgram ReentrantProgram.Prog

section Operations

variable {g : View → Bool} {ks : List View} {k : View} {P : ℕ → Option ℕ → Bool → Prop} {s : Views}

theorem setState_keeps (d : ℕ) (state : Bool) :
    Preserves (viewSpec k) (TracksBut P k s) ((viewHooks g ks).setState d state) :=
  others_keeps.bind fun _ => Preserves.ask.bind fun _ => Preserves.pure _

theorem TracksBut.mapDev {w : Views} (h : TracksBut P k s w) (d : ℕ) {f : Device → Device}
    (hu : ∀ x, (f x).users = x.users) (hl : ∀ x, (f x).aliases = x.aliases)
    (ha : ∀ x, (f x).active = x.active) (hflag : ∀ e, flag (w.mapDev d f) k e = flag w k e) :
    TracksBut P k s (w.mapDev d f) :=
  h.congr (h.linked.mapDev d hu hl ha) rfl id (fun _ => rfl) (fun _ => rfl) fun _ => hflag

theorem TracksBut.mapUser {w : Views} (h : TracksBut P k s w) (u : ℕ)
    {f : DeviceUser → DeviceUser} (hd : ∀ x, (f x).dev = x.dev) :
    TracksBut P k s (w.mapUser u f) := by
  refine h.congr (h.linked.mapUser u hd) rfl id ?_ (fun _ => rfl) fun _ _ => rfl
  intro x
  by_cases hx : x = u <;> simp [hx, hd]

theorem flag_of_ne_active (hk : k ≠ .active) {w t : Views} {d : ℕ}
    (hpresent : (t.dev d).present = (w.dev d).present)
    (hlink : (t.dev d).linkActive = (w.dev d).linkActive) : flag t k d = flag w k d := by
  cases k with
  | present => exact hpresent
  | active => exact absurd rfl hk
  | link => exact hlink

theorem flag_of_active {w t : Views} {d : ℕ}
    (hactive : 0 < (t.dev d).active ↔ 0 < (w.dev d).active) :
    flag t .active d = flag w .active d := by simp [flag, hactive]

variable (hg : g k = true)

include hg

theorem setIfindex_keeps (d ifindex : ℕ) :
    Preserves (viewSpec k) (TracksBut P k s) (deviceSetIfindex (viewHooks g ks) d ifindex) := by
  apply Preserves.read_bind
  intro w h
  split_ifs
  · exact h
  · apply broadcast_keeps hg d .updateIfindex
    refine h.mapDev (f := fun x => { x with ifindex }) d (fun _ => rfl) (fun _ => rfl)
      (fun _ => rfl) ?_
    intro e
    cases k <;> by_cases he : e = d <;> simp [flag, he]

theorem bringUp_keeps (d : ℕ) :
    Preserves (viewSpec k) (TracksBut P k s) (deviceBringUp (viewHooks g ks) d) := by
  apply Preserves.read_bind
  intro w h
  split_ifs
  · refine Preserves.ask.bind (fun ifindex => (setIfindex_keeps hg d ifindex).bind fun _ =>
      Preserves.read_bind fun v hv => ?_) w h
    split_ifs <;> exact hv
  · exact setState_keeps d true w h

theorem change_settles {d : ℕ} {ev : DeviceEvent} {b : Bool} {f : Device → Device} {l : View}
    (hev : viewEvent ev = some (l, b)) (hu : ∀ x, (f x).users = x.users)
    (hl : ∀ x, (f x).aliases = x.aliases) (ha : ∀ x, (f x).active = x.active)
    (hflag : l ≠ k → ∀ w : Views, ∀ e, flag (w.mapDev d f) k e = flag w k e) :
    Preserves (viewSpec k) (Tracks k s) (do
      modify fun w : Views => w.mapDev d f
      deviceBroadcastEvent (viewHooks g ks) d ev) := by
  intro w h
  simp only [wp_bind, wp_modify]
  by_cases hk : l = k
  · subst hk
    apply broadcast_settles hg hev
    apply h.change (h.linked.mapDev d hu hl ha) d rfl id (fun _ => rfl) fun _ => rfl
    intro e he
    cases l <;> simp [flag, he]
  · exact broadcast_keeps hg d ev _ (h.mapDev d hu hl ha (hflag hk w))

theorem setDevicePresent_keeps (d : ℕ) (state : Bool) :
    Preserves (viewSpec k) (Tracks k s) (setDevicePresent g d state) := by
  have hev : viewEvent (if state then .add else .remove) = some (.present, state) := by
    cases state <;> rfl
  refine Preserves.after_read fun _ => Preserves.ite (fun _ => Preserves.pure ()) fun _ => ?_
  apply change_settles (f := fun x => { x with present := state }) hg hev (fun _ => rfl)
    (fun _ => rfl) fun _ => rfl
  intro hk w e
  cases k with
  | present => exact absurd rfl hk
  | active => by_cases he : e = d <;> simp [flag, he]
  | link => by_cases he : e = d <;> simp [flag, he]

theorem refreshPresent_keeps (d : ℕ) :
    Preserves (viewSpec k) (Tracks k s) (deviceRefreshPresent g d) :=
  Preserves.after_read fun _ => setDevicePresent_keeps hg d _

theorem setLink_keeps (d : ℕ) (state : Bool) :
    Preserves (viewSpec k) (Tracks k s) (deviceSetLink g d state) := by
  have hev : viewEvent (if state then .linkUp else .linkDown) = some (.link, state) := by
    cases state <;> rfl
  refine Preserves.after_read fun _ => Preserves.ite (fun _ => Preserves.pure ()) fun _ => ?_
  apply change_settles (f := fun x => { x with linkActive := state }) hg hev (fun _ => rfl)
    (fun _ => rfl) fun _ => rfl
  intro hk w e
  cases k with
  | link => exact absurd rfl hk
  | active => by_cases he : e = d <;> simp [flag, he]
  | present => by_cases he : e = d <;> simp [flag, he]

end Operations

theorem TracksBut.cause {P : ℕ → Option ℕ → Bool → Prop} {k : View} {s w : Views}
    (h : TracksBut P k s w) {f : ViewExt → ViewExt} (hmain : (f w.ext).isMain = w.ext.isMain)
    (htold : (f w.ext).told = w.ext.told) : TracksBut P k s { w with ext := f w.ext } :=
  h.congr (h.linked.congr (fun _ => rfl) (fun _ => rfl) h.linked.sound) hmain id (fun _ => rfl)
    (fun u => congrFun (congrFun htold k) u) fun _ _ => by cases k <;> rfl

section Claims

variable {g : View → Bool} {ks : List View} {k : View} {s : Views}

theorem claim_user_dev (w : Views) (u d v : ℕ) :
    ((w.claim u d).user v).dev = (w.user v).dev := by
  by_cases hv : v = u <;> simp [World.claim, hv]

theorem release_user_dev (w : Views) (u d v : ℕ) :
    ((w.release u d).user v).dev = (w.user v).dev := by
  by_cases hv : v = u <;> simp [World.release, hv]

theorem claimFailed_user_dev (w : Views) (u d v : ℕ) :
    ((w.claimFailed u d).user v).dev = (w.user v).dev := by
  by_cases hv : v = u <;> simp [World.claimFailed, hv]

theorem flag_claim (w : Views) (u : ℕ) {d e : ℕ} (h : k ≠ .active ∨ e ≠ d) :
    flag (w.claim u d) k e = flag w k e := by
  by_cases he : e = d
  · have hk := h.resolve_right (not_not.mpr he)
    apply flag_of_ne_active hk <;> simp [World.claim, he]
  · cases k <;> simp [flag, World.claim, he]

theorem flag_release (w : Views) (u : ℕ) {d e : ℕ} (h : k ≠ .active ∨ e ≠ d) :
    flag (w.release u d) k e = flag w k e := by
  by_cases he : e = d
  · have hk := h.resolve_right (not_not.mpr he)
    apply flag_of_ne_active hk <;> simp [World.release, he]
  · cases k <;> simp [flag, World.release, he]

theorem flag_claimFailed (w : Views) (u : ℕ) {d e : ℕ} (h : k ≠ .active ∨ e ≠ d) :
    flag (w.claimFailed u d) k e = flag w k e := by
  by_cases he : e = d
  · have hk := h.resolve_right (not_not.mpr he)
    apply flag_of_ne_active hk <;> simp [World.claimFailed, he]
  · cases k <;> simp [flag, World.claimFailed, he]

theorem claim_more {w : Views} (h : Tracks k s w) (u : ℕ) {d : ℕ}
    (hmore : ((w.claim u d).dev d).active ≠ 1) : Tracks k s (w.claim u d) := by
  have hplus : ((w.claim u d).dev d).active = (w.dev d).active + 1 := by simp [World.claim]
  refine h.congr (h.linked.claim u d) rfl id (claim_user_dev w u d) (fun _ => rfl) ?_
  intro _ e
  by_cases he : k = .active ∧ e = d
  · obtain ⟨rfl, rfl⟩ := he
    apply flag_of_active
    omega
  · exact flag_claim w u (not_and_or.mp he)

theorem claim_first {w : Views} (h : Tracks k s w) (u d : ℕ) :
    TracksBut (fun _ x _ => k = .active ∧ x = some d) k s (w.claim u d) := by
  by_cases hk : k = .active
  · refine (h.change (h.linked.claim u d) d rfl id (claim_user_dev w u d) (fun _ => rfl)
      fun e he => flag_claim w u (Or.inr he)).mono fun _ v _ hv => Or.inr ⟨hk, hv⟩
  · refine TracksBut.mono (P := fun _ _ _ => False) ?_ fun _ _ _ => False.elim
    exact h.congr (h.linked.claim u d) rfl id (claim_user_dev w u d) (fun _ => rfl)
      fun _ e => flag_claim w u (Or.inl hk)

/-- Nobody was told that a device is up that is not up after all. -/
theorem claimFailed_settles (hg : g k = true) {w : Views} {u d : ℕ}
    (h : TracksBut (fun _ x _ => k = .active ∧ x = some d) k s w) (hmay : mayFail g w d = true) :
    Tracks k s (w.claimFailed u d) := by
  by_cases hk : k = .active
  · subst hk
    refine ⟨h.linked.claimFailed u d, h.isMain, h.fault, ?_⟩
    intro hsound v hv
    rw [mayFail, hg, Bool.not_true, Bool.false_or, List.all_eq_true] at hmay
    by_cases hd : (w.user v).dev = some d
    · have htold := hmay v ((h.linked.mem v d).mpr hd)
      have hmain : w.ext.isMain v = true := hv
      rw [hmain, Bool.not_true, Bool.false_or, Bool.not_eq_true'] at htold
      refine Or.inl (Or.inl (Or.inr ?_))
      rw [actual, claimFailed_user_dev, hd]
      simpa [flag, World.claimFailed] using htold
    · have hactual : actual (w.claimFailed u d) .active v = actual w .active v := by
        unfold actual
        rw [claimFailed_user_dev]
        cases hx : (w.user v).dev with
        | none => rfl
        | some e =>
          refine flag_claimFailed w u (Or.inr ?_)
          rintro rfl
          exact hd hx
      have hagrees : Agrees (w.claimFailed u d) .active v ↔ Agrees w .active v := by
        rw [Agrees, claimFailed_user_dev, hactual]
        rfl
      rw [Settled, hagrees, claimFailed_user_dev]
      rcases h.settled hsound v hv with hsettled | ⟨-, hdev⟩
      · exact Or.inl hsettled
      · exact absurd hdev hd
  · have htracks : Tracks k s w := h.mono fun _ _ _ hv => absurd hv.1 hk
    exact htracks.congr (htracks.linked.claimFailed u d) rfl id (claimFailed_user_dev w u d)
      (fun _ => rfl) fun _ e => flag_claimFailed w u (Or.inl hk)

theorem broadcast_active (hg : g k = true) {d : ℕ} {ev : DeviceEvent} {b : Bool}
    (hev : viewEvent ev = some (.active, b)) {w : Views}
    {P : ℕ → Option ℕ → Bool → Prop} (h : TracksBut P k s w)
    (hP : ∀ v x y, P v x y → k = .active ∧ x = some d) :
    wp (viewSpec k) (deviceBroadcastEvent (viewHooks g ks) d ev) (fun _ t => Tracks k s t) w := by
  by_cases hk : k = .active
  · subst hk
    exact broadcast_settles hg hev (h.mono fun _ v _ hv => Or.inr (hP v _ _ hv).2)
  · exact broadcast_keeps hg d ev w (h.mono fun _ v _ hv => absurd (hP v _ _ hv).1 hk)

theorem claim_keeps (hg : g k = true) (u : ℕ) :
    Preserves (viewSpec k) (Tracks k s) (deviceClaim (viewHooks g ks) u) := by
  apply Preserves.read_bind
  intro w h
  split_ifs
  · exact h
  · cases hd : (w.user u).dev with
    | none => exact h
    | some d =>
      simp only [wp_bind, wp_modify, wp_read]
      split_ifs with hmore
      · exact claim_more h u hmore
      · have hfirst := claim_first h u d
        refine (broadcast_keeps hg d .setup).followed hfirst fun _ x hx => ?_
        refine (bringUp_keeps hg d).followed hx fun ret y hy => ?_
        split_ifs
        · rw [wp_bind]
          exact wp_mono _ (fun _ t ht => ht) (broadcast_active hg rfl hy fun _ _ _ => id)
        · simp only [wp_bind, wp_modify, wp_read, wp_require, wp_pure]
          exact fun hmay => claimFailed_settles hg hy hmay

theorem release_more {w : Views} (hw : Linked w) (u : ℕ) {d : ℕ}
    (hmore : ((w.release u d).dev d).active ≠ 0) : Tracks k w (w.release u d) := by
  have hminus : ((w.release u d).dev d).active = (w.dev d).active - 1 := by simp [World.release]
  refine (Tracks.refl hw).congr (hw.release u d) rfl ?_ (release_user_dev w u d) (fun _ => rfl) ?_
  · intro hf
    simp [World.release, hf]
  · intro _ e
    by_cases he : k = .active ∧ e = d
    · obtain ⟨rfl, rfl⟩ := he
      apply flag_of_active
      omega
    · exact flag_release w u (not_and_or.mp he)

theorem release_last {w : Views} (hw : Linked w) (u d : ℕ) :
    TracksBut (fun v x y => k = .active ∧ x = some d ∧ (w.user v).dev = some d ∧
      y = w.ext.told k v) k w (w.release u d) := by
  have hfault : w.fault = true → (w.release u d).fault = true := by
    intro hf
    simp [World.release, hf]
  by_cases hk : k = .active
  · refine ((Tracks.refl hw).change (hw.release u d) d rfl hfault (release_user_dev w u d)
      (fun _ => rfl) fun e he => flag_release w u (Or.inr he)).mono fun _ v _ hv => Or.inr ?_
    exact ⟨hk, hv, release_user_dev w u d v ▸ hv, rfl⟩
  · refine TracksBut.mono (P := fun _ _ _ => False) ?_ fun _ _ _ => False.elim
    exact (Tracks.refl hw).congr (hw.release u d) rfl hfault (release_user_dev w u d)
      (fun _ => rfl) fun _ e => flag_release w u (Or.inl hk)

theorem claimed_again {w x : Views} {d : ℕ} (hup : k = .active → flag w .active d = true)
    (h : TracksBut (fun v x y => k = .active ∧ x = some d ∧ (w.user v).dev = some d ∧
      y = w.ext.told k v) k w x) (hagain : (x.dev d).active ≠ 0) : Tracks k w x := by
  apply h.mono
  rintro hsound v - ⟨rfl, hdev, hdev', htold⟩
  left
  have hnonneg := h.linked.sound (hsound rfl) d
  have hflag : flag x .active d = true := decide_eq_true (by omega)
  have hnow : actual x .active v = true := (actual_of_dev hdev .active).trans hflag
  have hthen : actual w .active v = true := (actual_of_dev hdev' .active).trans (hup rfl)
  by_cases hagrees : Agrees x .active v
  · exact Or.inl hagrees
  · right
    refine ⟨?_, hdev.trans hdev'.symm, htold⟩
    rintro (⟨hpresent, -⟩ | hthen')
    · cases hpresent
    · apply hagrees
      right
      rw [htold, hthen', hthen, hnow]

theorem release_tracks (hg : g k = true) (u : ℕ) {w : Views} (hw : Linked w) :
    wp (viewSpec k) (deviceRelease (viewHooks g ks) u) (fun _ t => Tracks k w t) w := by
  unfold deviceRelease
  simp only [wp_bind, wp_read]
  split_ifs
  · exact Tracks.refl hw
  · cases hd : (w.user u).dev with
    | none =>
      have hfault : Linked { w with fault := true } :=
        hw.congr (fun _ => rfl) (fun _ => rfl) fun hf => Bool.noConfusion hf
      have htracks : Tracks k w { w with fault := true } :=
        (Tracks.refl hw).congr hfault rfl (fun _ => rfl) (fun _ => rfl) (fun _ => rfl) fun _ e => by
          cases k <;> rfl
      exact htracks
    | some d =>
      simp only [wp_bind, wp_modify, wp_read]
      split_ifs with hmore
      · exact release_more hw u hmore
      · have hup : k = .active → flag w .active d = true := by
          intro _
          have hminus : ((w.release u d).dev d).active = (w.dev d).active - 1 := by
            simp [World.release]
          exact decide_eq_true (by omega)
        have htail : ∀ x, TracksBut (fun v x y => k = .active ∧ x = some d ∧
            (w.user v).dev = some d ∧ y = w.ext.told k v) k w x → wp (viewSpec k) (do
              let w ← read
              if (w.dev d).active ≠ 0 then pure ()
              else deviceBroadcastEvent (viewHooks g ks) d .down) (fun _ t => Tracks k w t) x := by
          intro x hx
          simp only [wp_bind, wp_read]
          split_ifs with hagain
          · exact claimed_again hup hx hagain
          · exact broadcast_active hg rfl hx fun _ _ _ hv => ⟨hv.1, hv.2.1⟩
        refine (broadcast_keeps hg d .teardown).followed (release_last hw u d) fun _ x hx => ?_
        simp only [wp_bind, wp_read]
        split_ifs
        · rw [wp_bind]
          exact (setState_keeps d false).ends hx fun _ y hy => htail y hy
        · exact htail x hx

theorem release_keeps (hg : g k = true) (u : ℕ) :
    Preserves (viewSpec k) (Tracks k s) (deviceRelease (viewHooks g ks) u) :=
  fun _ h => wp_mono _ (fun _ _ ht => h.trans ht) (release_tracks hg u h.linked)

end Claims

section Users

variable {g : View → Bool} {ks : List View} {k : View} {s : Views} {u : ℕ}

theorem freeUnused_wp {P : ℕ → Option ℕ → Bool → Prop} (d : ℕ) {w : Views}
    (h : TracksBut P k s w) : wp (viewSpec k) (deviceFreeUnused (viewHooks g ks) d)
      (fun _ t => TracksBut P k s t ∧ t.user = w.user) w := by
  unfold deviceFreeUnused
  simp only [wp_bind, wp_read]
  split_ifs with hkeep
  · exact ⟨h, rfl⟩
  · have hempty : (w.dev d).aliases = [] ∧ (w.dev d).users = [] := by
      simp only [World.attached, List.append_eq_nil_iff, not_or, not_not] at hkeep
      exact hkeep.1
    simp only [deviceFree, deviceCleanup, viewHooks, wp_bind, wp_modify, wp_read, hempty,
      deviceCleanupTo, wp_pure]
    refine ⟨?_, rfl⟩
    have hfreed : TracksBut P k s (w.mapDev d fun x => { x with freed := true }) := by
      refine h.mapDev (f := fun x => { x with freed := true }) d (fun _ => rfl) (fun _ => rfl)
        (fun _ => rfl) ?_
      intro e
      cases k <;> by_cases he : e = d <;> simp [flag, he]
    exact hfreed.congr (hfreed.linked.congr (fun _ => rfl) (fun _ => rfl) hfreed.linked.sound) rfl
      id (fun _ => rfl) (fun _ => rfl) fun _ _ => by cases k <;> rfl

/-- A user that is taken off its device is an exception but for presence. -/
theorem detach_tracks {w : Views} (h : Tracks k s w) (u : ℕ) :
    TracksBut (fun v _ _ => v = u ∧ k ≠ .present) k s (w.detach u) := by
  have hext : (w.detach u).ext = w.ext := by
    cases hd : (w.user u).dev <;> simp [World.detach, hd]
  have hfault : (w.detach u).fault = w.fault := by
    cases hd : (w.user u).dev <;> simp [World.detach, hd]
  have hflag : ∀ e, flag (w.detach u) k e = flag w k e := by
    intro e
    cases hd : (w.user u).dev with
    | none => simp [World.detach, hd]
    | some d => cases k <;> by_cases he : e = d <;> simp [World.detach, hd, flag, he]
  refine ⟨h.linked.detach u, hext ▸ h.isMain, fun hf => hfault ▸ h.fault hf, ?_⟩
  intro hsound v hv
  by_cases hvu : v = u
  · by_cases hk : k = .present
    · refine Or.inl (Or.inl (Or.inl ⟨hk, ?_⟩))
      rw [detach_user, if_pos hvu]
    · exact Or.inr ⟨hvu, hk⟩
  · have hdev : ((w.detach u).user v).dev = (w.user v).dev := by rw [detach_user, if_neg hvu]
    have hactual : actual (w.detach u) k v = actual w k v := by
      unfold actual
      rw [hdev]
      cases (w.user v).dev with
      | none => rfl
      | some e => exact hflag e
    have hagrees : Agrees (w.detach u) k v ↔ Agrees w k v := by
      rw [Agrees, hdev, hext, hactual, Agrees]
    rw [Settled, hagrees, hdev, hext]
    rw [hfault] at hsound
    rw [concerns, hext] at hv
    exact Or.inl ((h.settled hsound v hv).resolve_right id)

theorem detach_settles (hg : g k = true) {w : Views} {ks : List View} (h : Tracks k s w)
    (hleave : mayLeave g w ks u = true) :
    TracksBut (fun v _ _ => v = u ∧ k ≠ .present ∧ k ∉ ks) k s (w.detach u) := by
  have hext : (w.detach u).ext = w.ext := by
    cases hd : (w.user u).dev <;> simp [World.detach, hd]
  apply (detach_tracks h u).mono
  rintro - v hv ⟨rfl, hk⟩
  by_cases hmem : k ∈ ks
  · have hmain : w.ext.isMain v = true := by simpa [concerns, hk, hext] using hv
    have htold : w.ext.told k v = false := by
      simpa [hg, hmain] using List.all_eq_true.mp hleave k hmem
    refine Or.inl (Or.inl (Or.inr ?_))
    rw [hext, htold, actual, detach_dev]
  · exact Or.inr ⟨rfl, hk, hmem⟩

theorem removeUser_wp (hg : g k = true) (ks : List View) {w : Views} (h : Tracks k s w) :
    wp (viewSpec k) (deviceRemoveUser (viewHooks g ks) u) (fun _ t =>
      TracksBut (fun v _ _ => v = u ∧ k ≠ .present ∧ k ∉ ks) k s t ∧ (t.user u).dev = none) w := by
  unfold deviceRemoveUser
  simp only [wp_bind, wp_read]
  cases hd : (w.user u).dev with
  | none => exact ⟨h.mono fun _ _ _ => False.elim, hd⟩
  | some d =>
    have hdetach : ∀ v, Tracks k s v → wp (viewSpec k) (do
        let w ← read
        require ((viewHooks g ks).mayDetach w u)
        modify fun w => w.detach u
        deviceFreeUnused (viewHooks g ks) d) (fun _ t =>
          TracksBut (fun v _ _ => v = u ∧ k ≠ .present ∧ k ∉ ks) k s t ∧
            (t.user u).dev = none) v := by
      intro v hv
      simp only [wp_bind, wp_modify, wp_read, wp_require]
      intro hleave
      refine wp_mono _ (fun _ t ht => ⟨ht.1, ?_⟩) (freeUnused_wp d (detach_settles hg hv hleave))
      rw [ht.2, detach_dev]
    have hplug : Tracks k s (w.mapUser u fun x => { x with hotplug := false }) :=
      h.mapUser u fun _ => rfl
    simp only [wp_bind, wp_modify, wp_read]
    split_ifs
    · rw [wp_bind]
      exact wp_mono _ (fun _ t ht => hdetach t ht) (release_keeps hg u _ hplug)
    · exact hdetach _ hplug

theorem removeUser_keeps (hg : g k = true) {ks : List View} {w : Views} (h : Tracks k s w)
    (hks : w.ext.isMain u = true → k ≠ .present → k ∈ ks) :
    wp (viewSpec k) (deviceRemoveUser (viewHooks g ks) u) (fun _ t => Tracks k s t) w := by
  refine wp_mono _ ?_ (removeUser_wp hg ks h)
  rintro _ t ⟨ht, -⟩
  apply ht.mono
  rintro - v hv ⟨rfl, hk, hmem⟩
  have hmain : t.ext.isMain v = true := by simpa [concerns, hk] using hv
  refine absurd (hks ?_ hk) hmem
  rwa [h.isMain, ← ht.isMain]

/-- A new user of a device that is not present has been told how everything is, and one of a
device that is present may still have to be told what is so. -/
theorem attach_tracks (hg : g k = true) {w : Views} {d : ℕ}
    (h : TracksBut (fun v _ _ => v = u ∧ k ≠ .present) k s w) (hdev : (w.user u).dev = none)
    (hmay : mayAttach g w u d = true) :
    TracksBut (fun v x y => v = u ∧ x = some d ∧ (w.dev d).present = true ∧
      (k = .present ∨ y = false)) k s (w.attach u d) := by
  have hflag : ∀ e, flag (w.attach u d) k e = flag w k e := by
    intro e
    by_cases ha : (w.user u).isAlias <;> cases k <;> by_cases he : e = d <;>
      simp [World.attach, flag, ha, he]
  refine ⟨h.linked.attach d hdev, h.isMain, h.fault, ?_⟩
  intro hsound v hv
  by_cases hvu : v = u
  · subst hvu
    have hon : ((w.attach v d).user v).dev = some d := by rw [attach_dev, if_pos rfl]
    have hconcerns : concerns w k v = true := hv
    have hguard : (w.ext.told k v = true → flag w k d = true) ∧
        (flag w k d = true → w.ext.told k v = true ∨ (w.dev d).present = true) := by
      have hk := List.all_eq_true.mp hmay k (by cases k <;> simp)
      simp only [hg, hconcerns, Bool.not_true, Bool.false_or, Bool.and_eq_true, Bool.or_eq_true,
        Bool.not_eq_true'] at hk
      constructor
      · intro htold
        exact hk.1.resolve_left (by simp [htold])
      · intro hflag
        rcases hk.2 with (hnot | htold) | hpresent
        · simp [hflag] at hnot
        · exact Or.inl htold
        · exact Or.inr hpresent
    by_cases hagrees : w.ext.told k v = flag w k d
    · refine Or.inl (Or.inl (Or.inr ?_))
      rw [actual_of_dev hon, hflag]
      exact hagrees
    · right
      have htold : w.ext.told k v = false := by
        by_contra htold
        have htold : w.ext.told k v = true := by simpa using htold
        exact hagrees (htold.trans (hguard.1 htold).symm)
      have hset : flag w k d = true := by
        by_contra hset
        exact hagrees (htold.trans (by simpa using hset))
      refine ⟨rfl, hon, ?_, Or.inr htold⟩
      exact (hguard.2 hset).resolve_left (by simp [htold])
  · have hdev' : ((w.attach u d).user v).dev = (w.user v).dev := by rw [attach_dev, if_neg hvu]
    have hactual : actual (w.attach u d) k v = actual w k v := by
      unfold actual
      rw [hdev']
      cases (w.user v).dev with
      | none => rfl
      | some e => exact hflag e
    have hagrees : Agrees (w.attach u d) k v ↔ Agrees w k v := by
      rw [Agrees, hdev', hactual, Agrees]
      rfl
    rw [Settled, hagrees, hdev']
    rcases h.settled hsound v hv with hsettled | ⟨heq, -⟩
    · exact Or.inl hsettled
    · exact absurd heq hvu

theorem untold_settled {w : Views} {d : ℕ} (hk : k ≠ .present) {p : Prop}
    (h : TracksBut (fun v x y => v = u ∧ x = some d ∧ p ∧ (k = .present ∨ y = false)) k s w)
    (hflag : flag w k d = false) : Tracks k s w := by
  apply h.mono
  rintro - v - ⟨rfl, hdev, -, hcase⟩
  refine Or.inl (Or.inl (Or.inr ?_))
  rw [actual_of_dev hdev, hflag]
  exact hcase.resolve_left hk

theorem attachUser_wp (hg : g k = true) {w : Views} {d : ℕ}
    (h : TracksBut (fun v _ _ => v = u ∧ k ≠ .present) k s w) (hdev : (w.user u).dev = none)
    (hmay : mayAttach g w u d = true) :
    wp (viewSpec k) (attachDeviceUser (viewHooks g) u d) (fun _ t => Tracks k s t) w := by
  have hattach := attach_tracks hg h hdev hmay
  have hpresent : ((w.attach u d).dev d).present = (w.dev d).present := by
    by_cases ha : (w.user u).isAlias <;> simp [World.attach, ha]
  have hlink : Preserves (viewSpec k) (Tracks k s) (do
      let w ← read
      if (w.dev d).linkActive then (viewHooks g).callback u .linkUp) :=
    Preserves.after_read fun _ => Preserves.ite (fun _ => callback_keeps hg u .linkUp) fun _ =>
      Preserves.pure ()
  have hrest : Preserves (viewSpec k) (Tracks k s) (do
      let w ← read
      if (w.dev d).active ≠ 0 then (viewHooks g).callback u .up
      let w ← read
      if (w.dev d).linkActive then (viewHooks g).callback u .linkUp) := by
    refine Preserves.after_read fun _ => Preserves.ite (fun _ => ?_) fun _ => hlink
    exact (callback_keeps hg u .up).bind fun _ => hlink
  unfold attachDeviceUser
  simp only [wp_bind, wp_modify, wp_read]
  rw [hpresent]
  split_ifs with hthere
  · cases k with
    | present =>
      rw [wp_bind]
      refine wp_mono _ (fun _ t ht => hrest t ?_) (callback_settles hg rfl hattach)
      exact ht.mono fun _ v _ hv => absurd hv.2.1 hv.1
    | active =>
      refine (callback_keeps hg u .add).followed hattach fun _ x hx => ?_
      simp only [wp_bind, wp_read]
      split_ifs with hup
      · rw [wp_bind]
        refine wp_mono _ (fun _ t ht => hlink t ?_) (callback_settles hg rfl hx)
        exact ht.mono fun _ v _ hv => absurd hv.2.1 hv.1
      · apply hlink x
        have hzero : (x.dev d).active = 0 := not_not.mp hup
        exact untold_settled (by decide) hx (by simp [flag, hzero])
    | link =>
      refine (callback_keeps hg u .add).followed hattach fun _ x hx => ?_
      have hend : ∀ y, TracksBut (fun v x y => v = u ∧ x = some d ∧ (w.dev d).present = true ∧
          (View.link = .present ∨ y = false)) .link s y → wp (viewSpec .link) (do
            let w ← read
            if (w.dev d).linkActive then (viewHooks g).callback u .linkUp)
          (fun _ t => Tracks .link s t) y := by
        intro y hy
        simp only [wp_bind, wp_read]
        split_ifs with hlinked
        · refine wp_mono _ (fun _ t ht => ?_) (callback_settles hg rfl hy)
          exact ht.mono fun _ v _ hv => absurd hv.2.1 hv.1
        · exact untold_settled (by decide) hy (by simpa [flag] using hlinked)
      simp only [wp_bind, wp_read]
      split_ifs
      · exact (callback_keeps hg u .up).followed hx fun _ y hy => hend y hy
      · exact hend x hx
  · apply hattach.mono
    exact fun _ v _ hv => absurd hv.2.2.1 hthere

theorem addUserTo_keeps (hg : g k = true) (d : ℕ) :
    Preserves (viewSpec k) (Tracks k s) (addUserTo g u d) := by
  apply Preserves.read_bind
  intro w h
  split_ifs
  · exact h
  · rw [wp_bind]
    refine wp_mono _ ?_ (removeUser_wp hg [] h)
    rintro _ t ⟨ht, hdev⟩
    simp only [wp_bind, wp_read, wp_require]
    refine attachUser_wp hg (ht.mono fun _ v _ hv => ?_) hdev
    exact Or.inr ⟨hv.1, hv.2.1⟩

theorem setMainDev_keeps (hg : g k = true) (d : Option ℕ) :
    Preserves (viewSpec k) (Tracks k s) (interfaceSetMainDev g u d) := by
  refine Preserves.after_read fun _ => Preserves.ite (fun _ => Preserves.pure ()) fun _ =>
    others_keeps.bind fun _ => ?_
  cases d with
  | some d => exact (addUserTo_keeps hg d).bind fun _ => others_keeps
  | none =>
    intro w h
    simp only [wp_bind]
    refine wp_mono _ ?_ (removeUser_wp (u := u) hg [.active] h)
    rintro _ t ⟨ht, hdev⟩
    simp only [wp_bind, wp_modify]
    apply others_keeps
    by_cases hk : k = .link
    · subst hk
      have hactual : actual t .link u = false := by simp [actual, hdev]
      refine (tell_settled (u := u) ht fun _ => hactual).mono fun _ v _ hv => ?_
      exact absurd hv.2.1 hv.1
    · apply tell_other (Ne.symm hk)
      apply ht.mono
      rintro - v - ⟨-, hpresent, hmem⟩
      cases k with
      | present => exact absurd rfl hpresent
      | active => exact absurd (List.mem_singleton_self _) hmem
      | link => exact absurd rfl hk

theorem viewBody_verified (hg : g k = true) : Verified (viewBody g) (viewSpec k) := by
  intro p s
  apply wp_imp
  intro hs
  have hstart : Tracks k s s := Tracks.refl hs
  have hzero : ∀ {x : Prog Views ViewCall Unit}, Preserves (viewSpec k) (Tracks k s) x →
      wp (viewSpec k) (do x; pure (0 : ℤ)) (fun _ t => Tracks k s t) s :=
    fun hx => hx.bind (fun _ => Preserves.pure 0) s hstart
  cases p with
  | addUser u d =>
    simp only [viewBody, wp_bind, wp_read]
    split_ifs with hmain
    · rw [wp_bind]
      exact wp_mono _ (fun _ _ ht => ht) (setMainDev_keeps hg d s hstart)
    · cases d with
      | some d =>
        rw [wp_bind]
        exact wp_mono _ (fun _ _ ht => ht) (addUserTo_keeps hg d s hstart)
      | none =>
        rw [wp_bind]
        refine wp_mono _ (fun _ _ ht => ht) (removeUser_keeps hg hstart fun hm => ?_)
        exact absurd hm hmain
  | removeUser u =>
    rw [viewBody, wp_bind]
    refine wp_mono _ (fun _ _ ht => ht) (removeUser_keeps hg hstart fun _ hk => ?_)
    cases k with
    | present => exact absurd rfl hk
    | active => simp
    | link => simp
  | claim u => exact claim_keeps hg u s hstart
  | release u => exact hzero (release_keeps hg u)
  | setPresent d state =>
    apply hzero
    refine Preserves.after_read fun _ => Preserves.ite (fun _ => Preserves.pure ()) fun _ => ?_
    refine (Preserves.modify fun w h => ?_).bind fun _ => refreshPresent_keeps hg d
    exact h.cause (f := fun x => { x with sysPresent := set x.sysPresent d state }) rfl rfl
  | setDisabled d value =>
    apply hzero
    refine (Preserves.modify fun w h => ?_).bind fun _ => refreshPresent_keeps hg d
    exact h.cause (f := fun x => { x with disabled := set x.disabled d value }) rfl rfl
  | setDeferred d value =>
    apply hzero
    refine (Preserves.modify fun w h => ?_).bind fun _ => refreshPresent_keeps hg d
    exact h.cause (f := fun x => { x with deferred := set x.deferred d value }) rfl rfl
  | setLink d state => exact hzero (setLink_keeps hg d state)

end Users

/-- Any operation may come next. -/
def anyView : ViewCall → Views → Bool := fun _ _ => true

/-- Devices that nobody uses yet, users of either kind and interfaces that know nothing. -/
def freshViews (dev : ℕ → Device) (isAlias : ℕ → Bool) (ext : ViewExt) : Views where
  dev d := { dev d with active := 0, users := [], aliases := [] }
  user u := { isAlias := isAlias u }
  ext := { ext with told := fun _ _ => false }

theorem freshViews_linked (dev : ℕ → Device) (isAlias : ℕ → Bool) (ext : ViewExt) :
    Linked (freshViews dev isAlias ext) := by
  constructor <;> simp [freshViews, World.attached]

theorem agrees_of_run {g : View → Bool} {k : View} (hg : g k = true) {dev : ℕ → Device}
    {isAlias : ℕ → Bool} {ext : ViewExt} {w : Views}
    (run : Reachable (viewBody g) anyView (freshViews dev isAlias ext) w)
    (hsound : k = .active → w.fault = false) (u : ℕ) (hu : concerns w k u = true) :
    Agrees w k u := by
  have hstart := freshViews_linked dev isAlias ext
  have htracks : Tracks k (freshViews dev isAlias ext) w :=
    run.invariant (viewBody_verified hg) (fun _ _ _ _ _ hspec h => h.trans (hspec h.linked))
      (Tracks.refl hstart)
  rcases htracks.settled hsound u hu with (hagrees | ⟨hnot, -⟩) | hfalse
  · exact hagrees
  · exact absurd (Or.inr rfl) hnot
  · exact hfalse.elim

/-- The runs in which `ADD` and `REMOVE` are told only while they are so, and only a user that was
not told `ADD` last gets a device that is not present. -/
def presenceGuard : View → Bool := fun k => k == .present

/-- In such a run the last of `ADD` and `REMOVE` that a user of a device was told agrees with its
presence, whatever the callbacks have done in between. -/
theorem presence_known_of_run (dev : ℕ → Device) (isAlias : ℕ → Bool) (ext : ViewExt) {w : Views}
    (run : Reachable (viewBody presenceGuard) anyView (freshViews dev isAlias ext) w) (u d : ℕ)
    (hd : (w.user u).dev = some d) : w.ext.told .present u = (w.dev d).present := by
  rcases agrees_of_run (k := .present) rfl run (fun h => View.noConfusion h) u rfl with
    ⟨-, hnone⟩ | htold
  · simp [hd] at hnone
  · exact htold.trans (actual_of_dev hd .present)

/-- Two users are told of a device that comes, and one of them brings it up. -/
theorem presence_known_of_run_two : ∃ w,
    Reachable (viewBody presenceGuard) anyView (freshViews (fun _ => {}) (fun _ => false) {}) w ∧
      (w.user 0).dev = some 0 ∧ (w.dev 0).present = true ∧ w.ext.told .present 0 = true := by
  obtain ⟨w, hw, hdev, hpresent⟩ := exists_reachable (viewBody presenceGuard) anyView
    (freshViews (fun _ => {}) (fun _ => false) {})
    (fun w => (w.user 0).dev = some 0 ∧ (w.dev 0).present = true) 60
    [(.addUser 0 (some 0), []), (.addUser 1 (some 0), []),
      (.setPresent 0 true, [.enter (.claim 1), .resume, .resume, .resume, .pick 0, .resume, .resume,
        .resume, .resume])] (by decide +kernel)
  exact ⟨w, hw, hdev, hpresent,
    (presence_known_of_run _ _ _ hw 0 0 hdev).trans hpresent⟩

/-- The first user that is told of a device makes it absent again. The second is told that first,
and then that the device is present. -/
theorem presence_not_known : ∃ w,
    Reachable (viewBody fun _ => false) anyView
      (freshViews (fun _ => {}) (fun _ => false) {}) w ∧
      (w.user 0).dev = some 0 ∧ w.ext.told .present 0 ≠ (w.dev 0).present :=
  exists_reachable (viewBody fun _ => false) anyView _
    (fun w => (w.user 0).dev = some 0 ∧ w.ext.told .present 0 ≠ (w.dev 0).present) 60
    [(.addUser 0 (some 0), []), (.addUser 1 (some 0), []),
      (.setPresent 0 true, [.enter (.setPresent 0 false), .resume, .resume, .resume, .resume])]
    (by decide +kernel)

/-- The runs in which an interface is told of its main device what is so, gets a device of which
it knows what is so or is told so, knows nothing that is so when it is taken off one, and was
not told `UP` when a bring-up fails. -/
def mainDevGuard : View → Bool := fun k => k != .present

/-- In such a run `enabled` says whether the interface has a main device that is up, and
`link_state` whether it has one with a link, as long as no assertion has failed. -/
theorem main_dev_known_of_run (dev : ℕ → Device) (isAlias : ℕ → Bool) (ext : ViewExt) {w : Views}
    (run : Reachable (viewBody mainDevGuard) anyView (freshViews dev isAlias ext) w)
    (hsound : w.fault = false) (u : ℕ) (hu : w.ext.isMain u = true) :
    (w.ext.told .active u = true ↔ ∃ d, (w.user u).dev = some d ∧ 0 < (w.dev d).active) ∧
      (w.ext.told .link u = true ↔ ∃ d, (w.user u).dev = some d ∧ (w.dev d).linkActive = true) := by
  have hknown : ∀ k, k ≠ .present → mainDevGuard k = true →
      (w.ext.told k u = true ↔ ∃ d, (w.user u).dev = some d ∧ flag w k d = true) := by
    intro k hk hg
    have hconcerns : concerns w k u = true := by simp [concerns, hu]
    have hagrees :=
      (agrees_of_run hg run (fun _ => hsound) u hconcerns).resolve_left fun h => hk h.1
    rw [hagrees, actual]
    cases (w.user u).dev with
    | none => simp
    | some d => simp
  refine ⟨(hknown .active (by decide) rfl).trans ?_, hknown .link (by decide) rfl⟩
  simp [flag]

/-- An interface gets a device that is present and claims it. -/
theorem main_dev_known_of_run_claim : ∃ w,
    Reachable (viewBody mainDevGuard) anyView
      (freshViews (fun _ => {}) (fun _ => false) { isMain := fun u => u == 0 }) w ∧
      (w.dev 0).active = 1 ∧ w.ext.told .active 0 = true := by
  obtain ⟨w, hw, hdev, hactive, hfault, hmain⟩ := exists_reachable (viewBody mainDevGuard) anyView
    (freshViews (fun _ => {}) (fun _ => false) { isMain := fun u => u == 0 })
    (fun w => (w.user 0).dev = some 0 ∧ (w.dev 0).active = 1 ∧ w.fault = false ∧
      w.ext.isMain 0 = true) 60
    [(.setPresent 0 true, []), (.addUser 0 (some 0), [.resume, .resume, .resume]),
      (.claim 0, [.resume, .resume, .pick 0, .resume])] (by decide +kernel)
  obtain ⟨henabled, -⟩ := main_dev_known_of_run _ _ _ hw hfault 0 hmain
  exact ⟨w, hw, hactive, henabled.mpr ⟨0, hdev, by omega⟩⟩

/-- An interface loses a device that somebody else keeps up, and is still enabled. -/
theorem main_dev_not_known : ∃ w,
    Reachable (viewBody fun _ => false) anyView
      (freshViews (fun _ => {}) (fun _ => false) { isMain := fun u => u == 0 }) w ∧
      w.fault = false ∧ w.ext.isMain 0 = true ∧ (w.user 0).dev = none ∧
      w.ext.told .active 0 = true :=
  exists_reachable (viewBody fun _ => false) anyView _
    (fun w => w.fault = false ∧ w.ext.isMain 0 = true ∧ (w.user 0).dev = none ∧
      w.ext.told .active 0 = true) 60
    [(.setPresent 0 true, []), (.addUser 1 (some 0), [.resume]),
      (.claim 1, [.resume, .resume, .pick 0, .resume]),
      (.addUser 0 (some 0), [.resume, .resume, .resume, .resume]),
      (.addUser 0 none, [.resume, .resume])] (by decide +kernel)

end Netifd.DeviceViews
