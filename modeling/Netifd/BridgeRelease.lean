import Netifd.Bridge

/-!
# Released bridges

Whatever runs while a bridge is claimed may enable it and claim members; whatever runs while it
is not, or while a claim has yet to begin with the members, only gives up. So a bridge that has
been set down stays down until it is claimed again.
-/

namespace Netifd.Bridge
open ReentrantProgram ReentrantProgram.Prog

/-- No claimed member is absent, and other code never saw one. -/
structure Sound (leaving : List ℕ) (w : BridgeState) : Prop where
  counted : CountedWith leaving w
  bound : ∀ k, (w.member k).claimed → (w.member k).present
  unseen : w.stray = false
  nonneg : 0 ≤ w.devActive

/-- Nothing is held, except by the members that are freed. -/
structure Free (leaving : List ℕ) (w : BridgeState) : Prop where
  claimed : ∀ k ∉ leaving, (w.member k).claimed = false
  active : w.active = false

/-- Nothing is held that was not held before, except by the members that are freed. -/
structure Narrow (leaving : List ℕ) (s t : BridgeState) : Prop where
  claimed : ∀ k ∉ leaving, (t.member k).claimed → (s.member k).claimed
  active : t.active → s.active

theorem Narrow.refl (leaving : List ℕ) (s : BridgeState) : Narrow leaving s s :=
  ⟨fun _ _ h => h, fun h => h⟩

theorem Narrow.trans {leaving : List ℕ} {s t u : BridgeState} (hst : Narrow leaving s t)
    (htu : Narrow leaving t u) : Narrow leaving s u :=
  ⟨fun k hk h => hst.claimed k hk (htu.claimed k hk h), fun h => hst.active (htu.active h)⟩

theorem Free.narrow {leaving : List ℕ} {s t : BridgeState} (h : Free leaving t) :
    Narrow leaving s t := by
  refine ⟨fun k hk hclaimed => ?_, fun hactive => ?_⟩
  · rw [h.claimed k hk] at hclaimed
    cases hclaimed
  · rw [h.active] at hactive
    cases hactive

theorem Free.of_narrow {leaving : List ℕ} {s t : BridgeState} (h : Free leaving s)
    (hnarrow : Narrow leaving s t) : Free leaving t := by
  refine ⟨fun k hk => ?_, ?_⟩
  · by_contra hclaimed
    have hbefore := hnarrow.claimed k hk (by simpa using hclaimed)
    rw [h.claimed k hk] at hbefore
    cases hbefore
  · by_contra hactive
    have hbefore := hnarrow.active (by simpa using hactive)
    rw [h.active] at hbefore
    cases hbefore

/-- What other code may have made of the bridge. -/
structure Since (leaving : List ℕ) (s t : BridgeState) : Prop where
  sound : Sound leaving t
  members : t.members ⊆ s.members
  unsettled : t.unsettled = s.unsettled
  idle : t.devActive = 0 → s.devActive = 0 → Narrow leaving s t
  released : t.devActive = 0 → s.devActive ≠ 0 → Free leaving t
  waiting : 0 < s.unsettled → Narrow leaving s t

namespace Since

variable {leaving : List ℕ} {s t u : BridgeState}

theorem free (h : Since leaving s t) (hs : s.devActive = 0 → Free leaving s)
    (hidle : t.devActive = 0) : Free leaving t := by
  by_cases hactive : s.devActive = 0
  · exact (hs hactive).of_narrow (h.idle hidle hactive)
  · exact h.released hidle hactive

theorem refl (h : Sound leaving s) : Since leaving s s where
  sound := h
  members := List.Subset.refl _
  unsettled := rfl
  idle _ _ := .refl leaving s
  released h0 h1 := absurd h0 h1
  waiting _ := .refl leaving s

theorem trans (hst : Since leaving s t) (htu : Since leaving t u) : Since leaving s u where
  sound := htu.sound
  members := List.Subset.trans htu.members hst.members
  unsettled := htu.unsettled.trans hst.unsettled
  idle hu hs := by
    by_cases ht : t.devActive = 0
    · exact (hst.idle ht hs).trans (htu.idle hu ht)
    · exact (htu.released hu ht).narrow
  released hu hs := htu.free (fun ht => hst.released ht hs) hu
  waiting hs := (hst.waiting hs).trans (htu.waiting (hst.unsettled ▸ hs))

end Since

/-- What a step leaves alone that claims nothing. -/
def BridgeState.standing (w : BridgeState) : List ℕ × ℤ × ℕ × Bool :=
  (w.members, w.devActive, w.unsettled, w.stray)

/-- The members as they count. -/
def BridgeState.roster (w : BridgeState) : List ℕ × List ℕ × (ℕ → BridgeMember) × ℤ :=
  (w.members, w.leaving, w.member, w.nPresent)

theorem Since.of_member {leaving : List ℕ} {s t : BridgeState} {k : ℕ} (h : Sound leaving s)
    (hcounted : CountedWith leaving t) (hstanding : t.standing = s.standing)
    (hactive : t.active → s.active)
    (hother : ∀ i, i ≠ k → t.member i = s.member i)
    (hself : (t.member k).claimed → (s.member k).claimed ∧ (t.member k).present) :
    Since leaving s t := by
  obtain ⟨hmembers, hdev, hunsettled, hstray⟩ : t.members = s.members ∧
      t.devActive = s.devActive ∧ t.unsettled = s.unsettled ∧ t.stray = s.stray := by
    simpa [BridgeState.standing] using hstanding
  have hnarrow : Narrow leaving s t := by
    refine ⟨fun i _ hi => ?_, hactive⟩
    by_cases hik : i = k
    · subst hik
      exact (hself hi).1
    · rwa [hother i hik] at hi
  have hbound : ∀ i, (t.member i).claimed → (t.member i).present := by
    intro i hi
    by_cases hik : i = k
    · subst hik
      exact (hself hi).2
    · rw [hother i hik] at hi ⊢
      exact h.bound i hi
  refine ⟨⟨hcounted, hbound, hstray.trans h.unseen, hdev ▸ h.nonneg⟩,
    hmembers ▸ List.Subset.refl _, hunsettled, fun _ _ => hnarrow, fun h0 h1 => ?_,
    fun _ => hnarrow⟩
  exact absurd (hdev ▸ h0) h1

/-- What a call does: a callback holds nothing more once the bridge is released, and after the
other calls nothing is held unless the bridge is claimed. -/
structure Rested (w : BridgeState) : Prop where
  sound : Sound [] w
  settled : w.unsettled = 0
  free : w.devActive = 0 → Free [] w

def releases : Spec BridgeState BridgeCall := fun p s _ t =>
  (∀ leaving, Sound leaving s → p.isCallback = true → Since leaving s t) ∧
    (p.isCallback = false → Rested s → Rested t)

/-- Other code keeps the property. -/
structure Stable (leaving : List ℕ) (J : BridgeState → Prop) : Prop where
  sound : ∀ t, J t → Sound leaving t
  since : ∀ t u, J t → Since leaving t u → J u

theorem stable_since {leaving : List ℕ} (s : BridgeState) : Stable leaving (Since leaving s) :=
  ⟨fun _ h => h.sound, fun _ _ => Since.trans⟩

theorem stable_rested : Stable [] Rested where
  sound _ h := h.sound
  since _ _ h hsince := ⟨hsince.sound, hsince.unsettled.trans h.settled, hsince.free h.free⟩

theorem Stable.and {leaving : List ℕ} {J K : BridgeState → Prop} (hJ : Stable leaving J)
    (hK : ∀ t u, K t → Since leaving t u → K u) : Stable leaving fun t => J t ∧ K t :=
  ⟨fun t h => hJ.sound t h.1, fun t u h hsince => ⟨hJ.since t u h.1 hsince, hK t u h.2 hsince⟩⟩

theorem CountedWith.same {leaving : List ℕ} {s t : BridgeState} (hs : CountedWith leaving s)
    (h : t.roster = s.roster) : CountedWith leaving t := by
  obtain ⟨hmembers, hleaving, hmember, hcount⟩ : t.members = s.members ∧ t.leaving = s.leaving ∧
      t.member = s.member ∧ t.nPresent = s.nPresent := by
    simpa [BridgeState.roster] using h
  have hallocated : t.allocated = s.allocated := by
    rw [BridgeState.allocated, hmembers, hleaving]
    rfl
  refine ⟨hs.1.congr hallocated (fun k => by rw [hmember]) (fun k => ?_) hcount,
    hleaving.trans hs.2⟩
  rw [hmember]
  exact fun hk => hk

theorem Since.of_same {leaving : List ℕ} {s t : BridgeState} (h : Sound leaving s)
    (hroster : t.roster = s.roster) (hstanding : t.standing = s.standing)
    (hactive : t.active → s.active) : Since leaving s t := by
  have hmember : t.member = s.member := congrArg (fun roster => roster.2.2.1) hroster
  refine .of_member (k := 0) h (h.counted.same hroster) hstanding hactive (fun i _ => ?_) ?_
  · rw [hmember]
  · rw [hmember]
    exact fun hclaimed => ⟨hclaimed, h.bound 0 hclaimed⟩

theorem Since.grown {leaving : List ℕ} {s t : BridgeState} (h : Sound leaving s)
    (hactive : s.devActive ≠ 0) (hsettled : s.unsettled = 0) (hcounted : CountedWith leaving t)
    (hbound : ∀ k, (t.member k).claimed → (t.member k).present) (hmembers : t.members = s.members)
    (hdev : t.devActive = s.devActive) (hunsettled : t.unsettled = s.unsettled)
    (hstray : t.stray = s.stray) : Since leaving s t where
  sound := ⟨hcounted, hbound, hstray.trans h.unseen, hdev ▸ h.nonneg⟩
  members := hmembers ▸ List.Subset.refl _
  unsettled := hunsettled
  idle ht _ := absurd (hdev ▸ ht) hactive
  released ht _ := absurd (hdev ▸ ht) hactive
  waiting hs := by omega

/-- What other code made of the bridge while a member was freed. -/
theorem Since.freed {leaving : List ℕ} {w u : BridgeState} {k : ℕ}
    (h : Since (k :: leaving)
      { w with members := w.members.erase k, leaving := k :: w.leaving } u)
    (habsent : (u.member k).present = false) :
    Since leaving w { u.map k fun bm => { devPresent := bm.devPresent } with
      leaving := u.leaving.erase k } := by
  set t : BridgeState := { u.map k fun bm => { devPresent := bm.devPresent } with
    leaving := u.leaving.erase k } with ht
  have hself : (t.member k).claimed = false := by simp [ht, BridgeState.map]
  have hother : ∀ i, i ≠ k → t.member i = u.member i := by
    intro i hi
    simp [ht, BridgeState.map, hi]
  have houtside : ∀ i ∉ leaving, i ≠ k → i ∉ k :: leaving := by
    intro i hi hik hmem
    exact (List.mem_cons.mp hmem).elim hik hi
  have hnarrow : Narrow (k :: leaving)
      { w with members := w.members.erase k, leaving := k :: w.leaving } u →
      Narrow leaving w t := by
    refine fun hu => ⟨fun i hi hclaimed => ?_, hu.active⟩
    by_cases hik : i = k
    · rw [hik, hself] at hclaimed
      cases hclaimed
    · rw [hother i hik] at hclaimed
      exact hu.claimed i (houtside i hi hik) hclaimed
  refine ⟨⟨freed_counted leaving h.sound.counted habsent, fun i hi => ?_, h.sound.unseen,
    h.sound.nonneg⟩, ?_, h.unsettled, fun h0 h1 => hnarrow (h.idle h0 h1), fun h0 h1 => ?_,
    fun hw => hnarrow (h.waiting hw)⟩
  · by_cases hik : i = k
    · rw [hik, hself] at hi
      cases hi
    · rw [hother i hik] at hi ⊢
      exact h.sound.bound i hi
  · exact List.Subset.trans h.members List.erase_subset
  · have hfree := h.released h0 h1
    refine ⟨fun i hi => ?_, hfree.active⟩
    by_cases hik : i = k
    · rw [hik, hself]
    · rw [hother i hik]
      exact hfree.claimed i (houtside i hi hik)

theorem Sound.no_stray {leaving : List ℕ} {w : BridgeState} (h : Sound leaving w) :
    w.hasStray = false := by
  rw [BridgeState.hasStray, List.any_eq_false]
  intro k _ hstray
  rw [Bool.and_eq_true, Bool.not_eq_true'] at hstray
  rw [h.bound k hstray.1] at hstray
  cases hstray.2

section Programs

variable {leaving : List ℕ} {J : BridgeState → Prop} (hJ : Stable leaving J)

include hJ

theorem modify_stable {f : BridgeState → BridgeState}
    (hf : ∀ w, Sound leaving w → Since leaving w (f w)) : Preserves releases J (modify f) :=
  Preserves.modify fun w hw => hJ.since w (f w) hw (hf w (hJ.sound w hw))

theorem same_stable {f : BridgeState → BridgeState} (hroster : ∀ w, (f w).roster = w.roster)
    (hstanding : ∀ w, (f w).standing = w.standing) (hactive : ∀ w, (f w).active → w.active) :
    Preserves releases J (modify f) :=
  modify_stable hJ fun w hw => .of_same hw (hroster w) (hstanding w) (hactive w)

theorem map_stable (k : ℕ) {f : BridgeMember → BridgeMember}
    (hpresent : ∀ bm, (f bm).present = bm.present) (hattached : ∀ bm, (f bm).attached → bm.attached)
    (hclaimed : ∀ bm, (f bm).claimed → bm.claimed) :
    Preserves releases J (modify fun w => w.map k f) := by
  apply modify_stable hJ
  intro w hw
  have hself : (w.map k f).member k = f (w.member k) := by simp [BridgeState.map]
  refine .of_member (k := k) hw ⟨hw.counted.1.map k hpresent hattached, hw.counted.2⟩ rfl
    (fun h => h) ?_ ?_
  · intro i hi
    simp [BridgeState.map, hi]
  · rw [hself, hpresent]
    exact fun h => ⟨hclaimed _ h, hw.bound k (hclaimed _ h)⟩

theorem callOthers_stable : Preserves releases J callOthers := by
  refine Preserves.bind (modify_stable hJ fun w hw => ?_) fun _ => Preserves.callbacks ?_
  · exact .of_same hw rfl (by simp [BridgeState.standing, hw.no_stray]) fun h => h
  · intro p s _ t hp hspec hs
    exact hJ.since s t hs (hspec.1 leaving (hJ.sound s hs) hp)

theorem setPresent_stable (state : Bool) : Preserves releases J (bridgeSetPresent state) := by
  refine Preserves.after_read fun _ => Preserves.ite (fun _ => Preserves.pure ()) fun _ => ?_
  exact Preserves.bind (same_stable hJ (fun _ => rfl) (fun _ => rfl) fun _ h => h) fun _ =>
    callOthers_stable hJ

theorem disableInterface_stable : Preserves releases J bridgeDisableInterface :=
  same_stable hJ (fun _ => rfl) (fun _ => rfl) fun _ h => by cases h

theorem releaseMember_stable (k : ℕ) : Preserves releases J (releaseMember k) := by
  refine Preserves.after_read fun _ => Preserves.ite (fun _ => Preserves.pure ()) fun _ => ?_
  refine Preserves.bind ?_ fun _ => callOthers_stable hJ
  exact map_stable hJ k (fun _ => rfl) (fun _ h => h) fun _ h => by cases h

theorem disableMember_stable (k : ℕ) : Preserves releases J (bridgeDisableMember k) := by
  refine Preserves.after_read fun _ => Preserves.ite (fun _ => Preserves.pure ()) fun _ => ?_
  exact (releaseMember_stable hJ k).bind fun _ => callOthers_stable hJ

/-- A member may be claimed now. -/
structure Open (k : ℕ) (w : BridgeState) : Prop where
  claimed : w.devActive ≠ 0
  settled : w.unsettled = 0
  present : (w.member k).present

theorem enableInterface_open (k : ℕ) :
    Preserves releases (fun t => J t ∧ Open k t) bridgeEnableInterface := by
  refine Preserves.after_read fun _ => Preserves.ite (fun _ => Preserves.pure 0) fun _ => ?_
  refine Preserves.ask.bind fun _ => Preserves.ite (fun _ => ?_) fun _ => Preserves.pure _
  refine Preserves.bind (Preserves.modify ?_) fun _ => Preserves.pure 0
  rintro w ⟨hw, hopen⟩
  have hsound := hJ.sound w hw
  have hsince := Since.grown (t := { w with active := true }) hsound hopen.claimed hopen.settled
    (hsound.counted.same rfl) hsound.bound rfl rfl rfl rfl
  exact ⟨hJ.since w _ hw hsince, ⟨hopen.claimed, hopen.settled, hopen.present⟩⟩

theorem claimMember_wp {w : BridgeState} {k : ℕ} (hw : J w) (hopen : Open k w) :
    wp releases (claimMember k) (fun _ t => J t) w := by
  have hfailed : Preserves releases J
      (modify fun w => w.map k fun bm => { bm with claimed := false }) :=
    map_stable hJ k (fun _ => rfl) (fun _ h => h) fun _ h => by cases h
  have hrest : Preserves releases J (do
      callOthers
      let failed ← ask
      if failed = 0 then
        callOthers
        pure 0
      else
        modify fun w => w.map k fun bm => { bm with claimed := false }
        pure (-1) : BridgeProg ℤ) := by
    refine (callOthers_stable hJ).bind fun _ => Preserves.ask.bind fun _ => Preserves.ite ?_ ?_
    · exact fun _ => (callOthers_stable hJ).bind fun _ => Preserves.pure 0
    · exact fun _ => hfailed.bind fun _ => Preserves.pure _
  unfold claimMember
  rw [wp_bind, wp_read, wp_ite]
  refine ⟨fun _ => hw, fun _ => ?_⟩
  rw [wp_bind, wp_modify]
  apply hrest
  have hsound := hJ.sound w hw
  refine hJ.since w _ hw (.grown hsound hopen.claimed hopen.settled ?_ ?_ rfl rfl rfl rfl)
  · exact ⟨hsound.counted.1.map k (fun _ => rfl) fun _ h => h, hsound.counted.2⟩
  · intro i hi
    by_cases hik : i = k
    · subst hik
      simpa [BridgeState.map] using hopen.present
    · simp only [BridgeState.map, hik, if_false] at hi ⊢
      exact hsound.bound i hi

theorem enableFailed_stable (k : ℕ) : Preserves releases J (enableFailed .released k) := by
  apply Preserves.read_bind
  intro w hw
  rw [wp_bind, wp_require]
  intro hguard
  have hpresent : (w.member k).present = true := by simpa using hguard
  have hsound := hJ.sound w hw
  rw [wp_bind, wp_modify]
  set u : BridgeState := { w.removePresent k with nFailed := w.nFailed + 1 } with hu
  have hcounted : CountedWith leaving u :=
    ⟨(hsound.counted.1.removePresent hpresent).congr rfl (fun _ => rfl) (fun _ h => h) rfl,
      hsound.counted.2⟩
  have hother : ∀ i, i ≠ k → u.member i = w.member i := by
    intro i hi
    simp [hu, BridgeState.removePresent, BridgeState.map, hi]
  unfold releaseMember
  simp only [wp_bind, wp_read, wp_ite, wp_modify, wp_pure]
  refine ⟨fun hunclaimed => ?_, fun _ => ?_⟩
  · refine hJ.since w u hw (.of_member hsound hcounted rfl (fun h => h) hother fun hclaimed => ?_)
    rw [hunclaimed] at hclaimed
    cases hclaimed
  · refine callOthers_stable hJ _ (hJ.since w _ hw (.of_member (k := k) hsound ?_ rfl (fun h => h)
      ?_ ?_))
    · exact ⟨hcounted.1.map k (fun _ => rfl) fun _ h => h, hcounted.2⟩
    · intro i hi
      rw [← hother i hi]
      simp [BridgeState.map, hi]
    · intro hclaimed
      simp [BridgeState.map] at hclaimed

theorem enableMember_stable (k : ℕ) : Preserves releases J (bridgeEnableMember .released k) := by
  have hset := setPresent_stable hJ true
  apply Preserves.read_bind
  intro w hw
  rw [wp_ite]
  refine ⟨fun _ => hw, fun hpresent => ?_⟩
  rw [wp_bind, wp_require]
  intro hguard
  have hopen : w.devActive ≠ 0 ∧ w.unsettled = 0 := by simpa using hguard
  refine (enableInterface_open hJ k).followed ⟨hw, hopen.1, hopen.2, by simpa using hpresent⟩ ?_
  rintro ret t ⟨ht, hopen⟩
  rw [wp_ite, wp_bind]
  refine ⟨fun _ => enableFailed_stable hJ k t ht, fun _ => ?_⟩
  refine wp_mono _ (fun ret u hu => ?_) (claimMember_wp hJ ht hopen)
  rw [wp_ite, wp_bind, wp_ask]
  refine ⟨fun _ => enableFailed_stable hJ k u hu, fun _ failed => ?_⟩
  rw [wp_ite]
  refine ⟨fun _ => enableFailed_stable hJ k u hu, fun _ => ?_⟩
  exact (hset.bind fun _ => (callOthers_stable hJ).bind fun _ => Preserves.pure 0) u hu

theorem removeMember_stable (k : ℕ) : Preserves releases J (bridgeRemoveMember .released k) := by
  have hrest : Preserves releases J (do
      let w ← read
      if w.bridgeEmpty then pure ()
      else
        modify fun w => { w with forceActive := false }
        let w ← read
        whenever (w.nPresent = 0) (bridgeSetPresent false) : BridgeProg Unit) := by
    refine Preserves.after_read fun _ => Preserves.ite (fun _ => Preserves.pure ()) fun _ => ?_
    refine Preserves.bind (same_stable hJ (fun _ => rfl) (fun _ => rfl) fun _ h => h) fun _ => ?_
    apply Preserves.after_read
    intro _
    exact Preserves.whenever fun _ => setPresent_stable hJ false
  refine Preserves.after_read fun _ => Preserves.ite (fun _ => Preserves.pure ()) fun _ => ?_
  refine (Preserves.whenever fun _ => disableMember_stable hJ k).bind fun _ => ?_
  apply Preserves.read_bind
  intro w hw
  rw [wp_bind, wp_require]
  intro hpresent
  rw [wp_bind, wp_require]
  intro hunclaimed
  have hsound := hJ.sound w hw
  refine hrest _ (hJ.since w _ hw
    (.of_member (k := k) hsound ?_ rfl (fun h => h) (fun i hi => ?_) ?_))
  · exact ⟨hsound.counted.1.removePresent (by simpa using hpresent), hsound.counted.2⟩
  · simp [BridgeState.removePresent, BridgeState.map, hi]
  · have hno : (w.member k).claimed = false := by simpa using hunclaimed
    intro hclaimed
    simp [BridgeState.removePresent, BridgeState.map, hno] at hclaimed

theorem toggleDevice_stable (k : ℕ) : Preserves releases J (toggleDevice k) := by
  have hset (state : Bool) : Preserves releases J
      (modify fun w => w.map k fun bm => { bm with devPresent := state }) :=
    map_stable hJ k (fun _ => rfl) (fun _ h => h) fun _ h => h
  exact (hset false).bind fun _ => (callOthers_stable hJ).bind fun _ =>
    (hset true).bind fun _ => callOthers_stable hJ

omit hJ in
theorem freeMember_stable {w : BridgeState} {k : ℕ} {Q : BridgeState → Prop}
    (hw : Sound (k :: leaving) w)
    (hQ : ∀ u, Since (k :: leaving) w u → (u.member k).present = false →
      Q { u.map k fun bm => { devPresent := bm.devPresent } with leaving := u.leaving.erase k }) :
    wp releases (bridgeFreeMember .released k) (fun _ t => Q t) w := by
  have hJ := @stable_since (k :: leaving) w
  have hplug : Preserves releases (Since (k :: leaving) w)
      (modify fun w => w.map k fun bm => { bm with hotplug := false }) :=
    map_stable hJ k (fun _ => rfl) (fun _ h => h) fun _ h => h
  have hdetach : Preserves releases (Since (k :: leaving) w)
      (modify fun w => w.map k fun bm => { bm with attached := false }) :=
    map_stable hJ k (fun _ => rfl) (fun _ h => by cases h) fun _ h => h
  refine (removeMember_stable hJ k).followed (.refl hw) fun _ _ h => ?_
  refine hplug.followed h fun _ _ h => ?_
  refine (releaseMember_stable hJ k).followed h fun _ _ h => ?_
  refine hdetach.followed h fun _ v h => ?_
  rw [wp_bind, wp_read]
  have htoggle : Preserves releases (Since (k :: leaving) w)
      (whenever (v.member k).devPresent (toggleDevice k)) :=
    Preserves.whenever fun _ => toggleDevice_stable hJ k
  refine htoggle.followed h fun _ t h => ?_
  rw [wp_bind, wp_read, wp_bind, wp_require]
  intro hguard
  exact hQ t h (by simpa using hguard)

theorem deleteMember_stable (k : ℕ) : Preserves releases J (deleteMember .released k) := by
  apply Preserves.read_bind
  intro w hw
  rw [wp_whenever]
  refine ⟨fun hk => ?_, fun _ => hw⟩
  rw [wp_bind, wp_modify]
  have hsound := hJ.sound w hw
  refine @freeMember_stable leaving _ _ _ ?_ fun u hu habsent => ?_
  · exact ⟨left_counted leaving hsound.counted hk, hsound.bound, hsound.unseen, hsound.nonneg⟩
  · exact hJ.since w _ hw (hu.freed habsent)

theorem addPresent_stable {w : BridgeState} {k : ℕ} (hw : J w) (hk : k ∈ w.allocated)
    (habsent : (w.member k).present = false) : J (w.addPresent k) := by
  have hsound := hJ.sound w hw
  refine hJ.since w _ hw (.of_member (k := k) hsound ?_ rfl (fun h => h) (fun i hi => ?_) ?_)
  · exact ⟨hsound.counted.1.addPresent hk habsent, hsound.counted.2⟩
  · simp [BridgeState.addPresent, BridgeState.map, hi]
  · intro hclaimed
    simpa [BridgeState.addPresent, BridgeState.map] using hclaimed

theorem enabled_stable (k : ℕ) : Preserves releases J
    (do let _ ← bridgeEnableMember .released k : BridgeProg Unit) :=
  (enableMember_stable hJ k).bind fun _ => Preserves.pure ()

theorem memberAdd_stable {w : BridgeState} {k : ℕ} (hw : J w) (hk : k ∈ w.allocated) :
    wp releases (bridgeMemberAdd .released k) (fun _ t => J t) w := by
  unfold bridgeMemberAdd
  rw [wp_bind, wp_read, wp_bind, wp_require]
  intro hguard
  have habsent : (w.member k).present = false := by simpa using hguard
  have hrest : Preserves releases J (do
      let w ← read
      whenever (w.nPresent = 1) (bridgeSetPresent true)
      let w ← read
      whenever (w.devActive ≠ 0) do
        let _ ← bridgeEnableMember .released k : BridgeProg Unit) := by
    refine Preserves.after_read fun _ => Preserves.bind ?_ fun _ => Preserves.after_read fun _ => ?_
    · exact Preserves.whenever fun _ => setPresent_stable hJ true
    · exact Preserves.whenever fun _ => enabled_stable hJ k
  rw [wp_bind, wp_modify]
  exact hrest _ (addPresent_stable hJ hw hk habsent)

theorem devicePresent_stable (k : ℕ) (state : Bool) :
    Preserves releases J (devicePresent .released k state) := by
  refine Preserves.after_read fun _ => Preserves.ite (fun _ => Preserves.pure ()) fun _ => ?_
  refine Preserves.bind ?_ fun _ => Preserves.read_bind fun w hw => ?_
  · exact map_stable hJ k (fun _ => rfl) (fun _ h => h) fun _ h => h
  rw [wp_whenever]
  refine ⟨fun hattached => ?_, fun _ => hw⟩
  unfold bridgeMemberCb
  rw [wp_bind, wp_read]
  split_ifs
  · exact memberAdd_stable hJ hw ((hJ.sound w hw).counted.1.attached k hattached)
  · exact deleteMember_stable hJ k w hw
  · exact removeMember_stable hJ k w hw

theorem retryMembers_stable : Preserves releases J (bridgeRetryMembers .released) := by
  have hretry : ∀ k w, J w → k ∈ w.members →
      wp releases (retryMember .released k) (fun _ t => J t) w := by
    intro k w hw hk
    unfold retryMember
    rw [wp_bind, wp_read, wp_whenever]
    refine ⟨fun hretry => ?_, fun _ => hw⟩
    rw [wp_bind, wp_modify]
    exact enabled_stable hJ k _
      (addPresent_stable hJ hw (List.mem_append_left _ hk) hretry.1)
  refine Preserves.after_read fun w => Preserves.whenever fun _ => Preserves.bind ?_ fun _ => ?_
  · exact same_stable hJ (fun _ => rfl) (fun _ => rfl) fun _ h => h
  · exact forEachMember_preserves w.members hretry

theorem prepare_stable : Preserves releases J bridgeHotplugPrepare := by
  refine Preserves.bind ?_ fun _ => setPresent_stable hJ true
  exact same_stable hJ (fun _ => rfl) (fun _ => rfl) fun _ h => h

/-- Nobody claims a member again after it has been released. -/
def Unheld (leaving : List ℕ) (k : ℕ) (w : BridgeState) : Prop :=
  w.devActive = 0 ∨ 0 < w.unsettled → k ∉ leaving → (w.member k).claimed = false

omit hJ in
theorem Unheld.since {k : ℕ} {t u : BridgeState} (h : Unheld leaving k t)
    (hsince : Since leaving t u) : Unheld leaving k u := by
  have hkept (hnarrow : Narrow leaving t u) (ht : t.devActive = 0 ∨ 0 < t.unsettled)
      (hk : k ∉ leaving) : (u.member k).claimed = false := by
    by_contra hclaimed
    have hbefore := hnarrow.claimed k hk (by simpa using hclaimed)
    rw [h ht hk] at hbefore
    cases hbefore
  rintro (hidle | hwaiting) hk
  · by_cases ht : t.devActive = 0
    · exact hkept (hsince.idle hidle ht) (Or.inl ht) hk
    · exact (hsince.released hidle ht).claimed k hk
  · rw [hsince.unsettled] at hwaiting
    exact hkept (hsince.waiting hwaiting) (Or.inr hwaiting) hk

theorem disableMember_unheld (k : ℕ) {w : BridgeState} (hw : J w) :
    wp releases (bridgeDisableMember k) (fun _ t => J t ∧ Unheld leaving k t) w := by
  have hboth : Stable leaving fun t => J t ∧ Unheld leaving k t :=
    hJ.and fun t u ht hsince => ht.since hsince
  have hothers : Preserves releases (fun t => J t ∧ Unheld leaving k t) (do
      callOthers
      callOthers : BridgeProg Unit) :=
    (callOthers_stable hboth).bind fun _ => callOthers_stable hboth
  unfold bridgeDisableMember releaseMember
  simp only [wp_bind, wp_read, wp_ite, wp_modify, wp_pure]
  refine ⟨fun habsent => ⟨hw, fun _ _ => ?_⟩, fun _ => ⟨fun hunclaimed => ?_, fun _ => ?_⟩⟩
  · by_contra hclaimed
    have hpresent := (hJ.sound w hw).bound k (by simpa using hclaimed)
    rw [habsent] at hpresent
    cases hpresent
  · exact callOthers_stable hboth w ⟨hw, fun _ _ => hunclaimed⟩
  · have hmap : Preserves releases J
        (modify fun w => w.map k fun bm => { bm with claimed := false }) :=
      map_stable hJ k (fun _ => rfl) (fun _ h => h) fun _ h => by cases h
    have hstart : J (w.map k fun bm => { bm with claimed := false }) := hmap w hw
    have hafter := hothers _ ⟨hstart, fun _ _ => by simp [BridgeState.map]⟩
    rwa [wp_bind] at hafter

theorem disableMembers_wp (ks : List ℕ) {w : BridgeState} (hw : J w) :
    wp releases (forEachMember bridgeDisableMember ks)
      (fun _ t => J t ∧ ∀ k ∈ ks, k ∈ t.members → Unheld leaving k t) w := by
  induction ks generalizing J w with
  | nil => exact ⟨hw, by simp⟩
  | cons k ks ih =>
    have hboth : Stable leaving fun t => J t ∧ (k ∈ t.members → Unheld leaving k t) :=
      hJ.and fun t u ht hsince hk => (ht (hsince.members hk)).since hsince
    have hrest : ∀ v, (J v ∧ (k ∈ v.members → Unheld leaving k v)) →
        wp releases (forEachMember bridgeDisableMember ks)
          (fun _ t => J t ∧ ∀ i ∈ k :: ks, i ∈ t.members → Unheld leaving i t) v := by
      intro v hv
      refine wp_mono _ (fun _ t ht => ⟨ht.1.1, ?_⟩) (ih hboth hv)
      rintro i hi
      rcases List.mem_cons.mp hi with rfl | hi
      · exact ht.1.2
      · exact ht.2 i hi
    unfold forEachMember
    rw [wp_bind, wp_read, wp_bind, wp_whenever]
    refine ⟨fun _ => ?_, fun hgone => hrest w ⟨hw, fun hk => absurd hk hgone⟩⟩
    exact wp_mono _ (fun _ t ht => hrest t ⟨ht.1, fun _ => ht.2⟩) (disableMember_unheld hJ k hw)

omit hJ in
theorem setDown_wp {w : BridgeState} (hw : Sound leaving w) :
    wp releases bridgeSetDown (fun _ t => Since leaving w t ∧
      (t.devActive = 0 ∨ 0 < t.unsettled → Free leaving t)) w := by
  have hJ := @stable_since leaving w
  unfold bridgeSetDown
  rw [wp_bind, wp_read, wp_bind]
  refine wp_mono _ (fun _ t ht => ?_) (disableMembers_wp hJ w.members (.refl hw))
  obtain ⟨hsince, hunheld⟩ := ht
  refine ⟨disableInterface_stable hJ t hsince, fun hdown => ⟨fun k hk => ?_, rfl⟩⟩
  change (t.member k).claimed = false
  by_contra hclaimed
  have hpresent := hsince.sound.bound k (by simpa using hclaimed)
  have hmem : k ∈ t.members := by
    have hallocated := hsince.sound.counted.1.present k hpresent
    rw [BridgeState.allocated, hsince.sound.counted.2, List.mem_append] at hallocated
    exact hallocated.resolve_right hk
  exact hclaimed (hunheld k (hsince.members hmem) hmem hdown hk)

theorem setDown_stable : Preserves releases J bridgeSetDown := fun w hw =>
  wp_mono _ (fun _ t ht => hJ.since w t hw ht.1) (setDown_wp (hJ.sound w hw))

omit hJ in
theorem Sound.unsettle {w : BridgeState} (h : Sound leaving w) (n : ℕ) :
    Sound leaving { w with unsettled := n } :=
  ⟨h.counted.same rfl, h.bound, h.unseen, h.nonneg⟩

/-- What other code made of the bridge after the attempt was given up. -/
def GivenUp (leaving : List ℕ) (own : ℕ) (t u : BridgeState) : Prop :=
  Since leaving { t with unsettled := t.unsettled + own } u ∧ (0 < own → Free leaving u)

omit hJ in
theorem stable_givenUp (own : ℕ) (t : BridgeState) : Stable leaving (GivenUp leaving own t) where
  sound _ h := h.1.sound
  since u v h hsince := by
    refine ⟨h.1.trans hsince, fun hown => (h.2 hown).of_narrow (hsince.waiting ?_)⟩
    rw [h.1.unsettled]
    exact Nat.add_pos_right _ hown

omit hJ in
theorem Sound.unclaimed {w : BridgeState} (h : Sound leaving w) (hnone : w.nPresent = 0) (k : ℕ) :
    (w.member k).claimed = false := by
  by_contra hclaimed
  have hpresent := h.bound k (by simpa using hclaimed)
  have hcount := h.counted.1.count
  rw [hnone, eq_comm, Int.natCast_eq_zero, List.countP_eq_zero] at hcount
  exact hcount k (h.counted.1.present k hpresent) hpresent

/-- The bridge is brought up, or the attempt is given up. -/
theorem setUpMembers_wp (own : ℕ) {K : BridgeState → Prop}
    (hK : ∀ t u, J t → GivenUp leaving own t u → K u) {w : BridgeState}
    (hw : J { w with nFailed := 0, unsettled := w.unsettled - own }) :
    wp releases (bridgeSetUpMembers .released own)
      (fun r t => (r = 0 → J t) ∧ (r ≠ 0 → K t)) w := by
  have hretry : Preserves releases J bridgeCheckRetry :=
    same_stable hJ (fun _ => rfl) (fun _ => rfl) fun _ h => h
  have hloop : Preserves releases J (forEachMember
      (fun k => do let _ ← bridgeEnableMember .released k) w.members) :=
    forEachMember_preserves w.members fun k v hv _ => enabled_stable hJ k v hv
  unfold bridgeSetUpMembers
  rw [wp_bind, wp_modify, wp_bind, wp_read]
  refine hloop.followed hw fun _ _ hv => hretry.followed hv fun _ t ht => ?_
  have hsound := (hJ.sound t ht).unsettle (t.unsettled + own)
  rw [wp_bind, wp_read, wp_ite]
  constructor
  · rintro ⟨_, hnone⟩
    rw [wp_bind, wp_modify]
    have hgiven := @stable_givenUp leaving own t
    have htail : Preserves releases (GivenUp leaving own t) (do
        bridgeSetPresent false
        pure (-1) : BridgeProg ℤ) := (setPresent_stable hgiven false).bind fun _ => Preserves.pure _
    unfold bridgeDisableInterface
    rw [wp_bind, wp_modify]
    have hsince := Since.of_same (t := { t with unsettled := t.unsettled + own, active := false })
      hsound rfl rfl fun h => by cases h
    have hfree : Free leaving { t with unsettled := t.unsettled + own, active := false } :=
      ⟨fun k _ => hsound.unclaimed hnone k, rfl⟩
    refine wp_mono _ (fun r u hu => ?_)
      (wp_and _ (htail _ ⟨hsince, fun _ => hfree⟩) (Q := fun r _ => r ≠ 0) ?_)
    · exact ⟨fun h => absurd h hu.2, fun _ => hK t u ht hu.1⟩
    · rw [wp_bind]
      exact wp_mono _ (fun _ _ _ h => by cases h) (wp_trivial _ _ _)
  · intro _
    unfold bridgeDeviceUp
    refine (callOthers_stable hJ).followed ht fun _ u hu => ?_
    rw [wp_bind, wp_ask]
    intro failed
    rw [wp_ite]
    refine ⟨fun _ => ⟨fun _ => hu, fun h => absurd rfl h⟩, fun _ => ?_⟩
    rw [wp_bind, wp_modify, wp_bind]
    refine wp_mono _ (fun _ v hv => ?_) (setDown_wp ((hJ.sound u hu).unsettle (u.unsettled + own)))
    refine ⟨(fun h => by cases h), fun _ => hK u v hu ⟨hv.1, fun hown => hv.2 (Or.inr ?_)⟩⟩
    rw [hv.1.unsettled]
    exact Nat.add_pos_right _ hown

theorem setUp_wp (own : ℕ) {K : BridgeState → Prop}
    (hK : ∀ t u, J t → GivenUp leaving own t u → K u) {w : BridgeState}
    (hgive : w.unsettled = own → K w)
    (hbegin : ∀ active, w.devActive ≠ 0 → w.unsettled = own →
      J { w with active, nFailed := 0, unsettled := w.unsettled - own }) :
    wp releases (bridgeSetUp .released own) (fun r t => (r = 0 → J t) ∧ (r ≠ 0 → K t)) w := by
  unfold bridgeSetUp
  rw [wp_bind, wp_read, wp_bind, wp_require]
  intro hguard
  have hopen : w.devActive ≠ 0 ∧ w.unsettled = own := by simpa using hguard
  have hmembers := hbegin w.active hopen.1 hopen.2
  have hactive := hbegin true hopen.1 hopen.2
  have hgiven : ∀ r : ℤ, r ≠ 0 → (r = 0 → J w) ∧ (r ≠ 0 → K w) := fun r hr =>
    ⟨fun h => absurd h hr, fun _ => hgive hopen.2⟩
  rw [wp_ite]
  refine ⟨fun _ => ?_, fun _ => setUpMembers_wp hJ own hK hmembers⟩
  rw [wp_ite]
  refine ⟨fun _ => hgiven (-1) (by decide), fun _ => ?_⟩
  unfold bridgeEnableInterface
  simp only [wp_bind, wp_read, wp_ite, wp_pure, wp_ask, wp_modify]
  refine ⟨fun _ => ⟨fun h => absurd rfl h, fun _ => setUpMembers_wp hJ own hK hmembers⟩,
    fun _ failed => ?_⟩
  refine ⟨fun _ => ⟨fun h => absurd rfl h, fun _ => setUpMembers_wp hJ own hK hactive⟩, fun _ => ?_⟩
  exact ⟨hgiven (-1), fun h => absurd (by decide) h⟩

theorem claimBridge_stable (u : ℕ) : Preserves releases J (claimBridge .released u) := by
  apply Preserves.read_bind
  intro w hw
  have hsound := hJ.sound w hw
  rw [wp_ite]
  refine ⟨fun _ => hw, fun _ => ?_⟩
  rw [wp_bind, wp_modify, wp_bind, wp_read, wp_ite]
  have hnonneg := hsound.nonneg
  constructor
  · intro _
    have hpos : (w.claim u).devActive ≠ 0 := by
      change w.devActive + 1 ≠ 0
      omega
    refine hJ.since w _ hw ⟨⟨hsound.counted.same rfl, hsound.bound, hsound.unseen, ?_⟩,
      List.Subset.refl _, rfl, fun h => absurd h hpos, fun h => absurd h hpos,
      fun _ => ⟨fun _ _ h => h, fun h => h⟩⟩
    change 0 ≤ w.devActive + 1
    omega
  · intro hfirst
    have hidle : w.devActive = 0 := by
      have hone : w.devActive + 1 = 1 := by simpa [BridgeState.claim] using hfirst
      omega
    rw [wp_bind, wp_modify]
    set v : BridgeState := { w.claim u with unsettled := (w.claim u).unsettled + 1 } with hv
    have hvsound : Sound leaving v := by
      refine ⟨hsound.counted.same rfl, hsound.bound, hsound.unseen, ?_⟩
      change 0 ≤ w.devActive + 1
      omega
    refine (callOthers_stable (stable_since v)).followed (.refl hvsound) fun _ t ht => ?_
    have hJw := @stable_since leaving w
    rw [wp_bind]
    have hup := setUp_wp hJw 1 (K := fun t => Sound leaving t ∧ t.members ⊆ w.members ∧
      t.unsettled = w.unsettled + 1 ∧ Narrow leaving w t) ?_ ?_ ?_ (w := t)
    · refine wp_mono _ (fun r x hx => ?_) hup
      rw [wp_ite]
      refine ⟨fun hr => ?_, fun hr => ?_⟩
      · exact ((callOthers_stable hJ).bind fun _ => Preserves.pure 0) x
          (hJ.since w x hw (hx.1 hr))
      · rw [wp_bind, wp_modify]
        obtain ⟨hxsound, hxmembers, hxunsettled, hxnarrow⟩ := hx.2 hr
        refine hJ.since w _ hw ⟨⟨?_, hxsound.bound, hxsound.unseen, le_refl _⟩, hxmembers, ?_,
          fun _ _ => ⟨hxnarrow.claimed, hxnarrow.active⟩, fun _ h => absurd hidle h,
          fun _ => ⟨hxnarrow.claimed, hxnarrow.active⟩⟩
        · exact hxsound.counted.same rfl
        · change x.unsettled - 1 = w.unsettled
          omega
    · intro x y hx hy
      exact ⟨hy.1.sound, List.Subset.trans hy.1.members hx.members,
        hy.1.unsettled.trans (by rw [← hx.unsettled]), (hy.2 Nat.one_pos).narrow⟩
    · intro _
      have hnarrow := ht.waiting (Nat.succ_pos _)
      exact ⟨ht.sound, ht.members, ht.unsettled, hnarrow.claimed, hnarrow.active⟩
    · intro active hactive hone
      have hzero : w.unsettled = 0 := by
        have hsame : t.unsettled = w.unsettled + 1 := ht.unsettled
        omega
      refine ⟨⟨?_, ht.sound.bound, ht.sound.unseen, ht.sound.nonneg⟩, ht.members, ?_,
        fun h => absurd h hactive, fun h => absurd h hactive, fun h => by omega⟩
      · exact ht.sound.counted.same rfl
      · change t.unsettled - 1 = w.unsettled
        omega

theorem releaseBridge_stable (u : ℕ) : Preserves releases J (releaseBridge u) := by
  apply Preserves.read_bind
  intro w hw
  have hsound := hJ.sound w hw
  rw [wp_ite]
  refine ⟨fun _ => hw, fun _ => ?_⟩
  rw [wp_bind, wp_modify, wp_bind, wp_read, wp_bind, wp_require]
  intro hassert
  have hnonneg : 0 ≤ w.devActive - 1 := by simpa [BridgeState.release] using hassert
  have hheld : w.devActive ≠ 0 := by omega
  set v : BridgeState := w.release u with hv
  have hvsound : Sound leaving v :=
    ⟨hsound.counted.same rfl, hsound.bound, hsound.unseen, hnonneg⟩
  have hback : ∀ t, Since leaving v t → (t.devActive = 0 → Free leaving t) →
      Since leaving w t := fun t ht hfree =>
    ⟨ht.sound, ht.members, ht.unsettled, fun _ h => absurd h hheld, fun h _ => hfree h,
      fun h => ⟨(ht.waiting h).claimed, (ht.waiting h).active⟩⟩
  rw [wp_ite]
  refine ⟨fun hv0 => hJ.since w v hw (hback v (.refl hvsound) fun h => absurd h hv0), fun _ => ?_⟩
  refine (callOthers_stable (stable_since v)).followed (.refl hvsound) fun _ t ht => ?_
  rw [wp_bind]
  refine wp_mono _ (fun _ x hx => ?_) (setDown_wp ht.sound)
  have hboth := (@stable_since leaving v).and
    (K := fun t => t.devActive = 0 → Free leaving t) fun _ _ ht hsince h => hsince.free ht h
  have hxboth : Since leaving v x ∧ (x.devActive = 0 → Free leaving x) :=
    ⟨ht.trans hx.1, fun h => hx.2 (Or.inl h)⟩
  rw [wp_bind, wp_read, wp_ite]
  refine ⟨fun _ => hJ.since w x hw (hback x hxboth.1 hxboth.2), fun _ => ?_⟩
  exact (callOthers_stable hboth).ends hxboth fun _ y hy =>
    hJ.since w y hw (hback y hy.1 hy.2)

theorem setUp_stable : Preserves releases J (bridgeSetUp .released 0) := by
  intro w hw
  refine wp_mono _ (fun r t ht => ?_) (setUp_wp hJ 0 (K := J) ?_ (fun _ => hw) ?_)
  · by_cases hr : r = 0
    · exact ht.1 hr
    · exact ht.2 hr
  · exact fun t u ht hu => hJ.since t u ht hu.1
  · intro active hactive hsettled
    have hsound := hJ.sound w hw
    exact hJ.since w _ hw (.grown hsound hactive hsettled (hsound.counted.same rfl) hsound.bound rfl
      rfl rfl rfl)

theorem restart_stable : Preserves releases J (bridgeRestart .released) := by
  have hset (state : Bool) := setPresent_stable hJ state
  refine Preserves.after_read fun _ => Preserves.whenever fun _ => (hset false).bind fun _ => ?_
  refine Preserves.after_read fun _ => Preserves.ite (fun _ => ?_) fun _ => hset true
  refine (setDown_stable hJ).bind fun _ => (setUp_stable hJ).bind fun _ => ?_
  exact Preserves.whenever fun _ => hset true

end Programs

theorem createMember_rested (k : ℕ) (hotplug : Bool) :
    Preserves releases Rested (bridgeCreateMember .released k hotplug) := by
  have hpin : Preserves releases Rested
      (modify fun w => w.map k fun bm => { bm with pinned := hotplug }) :=
    map_stable stable_rested k (fun _ => rfl) (fun _ h => h) fun _ h => h
  apply Preserves.read_bind
  intro w hw
  split_ifs with hk
  · exact hpin w hw
  · rw [wp_bind, wp_modify, wp_bind, wp_read, wp_whenever]
    set t : BridgeState := { w.map k fun bm =>
        { hotplug, pinned := hotplug, attached := true, devPresent := bm.devPresent } with
      members := w.members.orderedInsert (· ≤ ·) k } with ht
    have hself : (t.member k).claimed = false := by simp [ht, BridgeState.map]
    have hother : ∀ i, i ≠ k → t.member i = w.member i := by
      intro i hi
      simp [ht, BridgeState.map, hi]
    have hmem : k ∈ w.members.orderedInsert (· ≤ ·) k :=
      (List.mem_orderedInsert _).mpr (Or.inl rfl)
    have hrested : Rested t := by
      refine ⟨⟨created_counted hotplug hw.sound.counted hk, fun i hi => ?_, hw.sound.unseen,
        hw.sound.nonneg⟩, hw.settled, fun hidle => ⟨fun i hi => ?_, (hw.free hidle).active⟩⟩
      · by_cases hik : i = k
        · rw [hik, hself] at hi
          cases hi
        · rw [hother i hik] at hi ⊢
          exact hw.sound.bound i hi
      · by_cases hik : i = k
        · rw [hik, hself]
        · rw [hother i hik]
          exact (hw.free hidle).claimed i hi
    exact ⟨fun _ => memberAdd_stable stable_rested hrested (List.mem_append_left _ hmem),
      fun _ => hrested⟩

theorem addMembers_rested (ks : List ℕ) : Preserves releases Rested (addMembers .released ks) := by
  induction ks with
  | nil => exact Preserves.pure ()
  | cons k ks ih => exact (createMember_rested k false).bind fun _ => ih

theorem configInit_rested (bridgeEmpty : Bool) (ifnames : List ℕ) :
    Preserves releases Rested (bridgeConfigInit .released bridgeEmpty ifnames) := by
  have hsame := @same_stable _ _ stable_rested
  refine Preserves.bind (hsame (fun _ => rfl) (fun _ => rfl) fun _ h => h) fun _ => ?_
  refine Preserves.bind ?_ fun _ => ?_
  · exact Preserves.whenever fun _ => prepare_stable stable_rested
  refine Preserves.bind (hsame (fun _ => rfl) (fun _ => rfl) fun _ h => h) fun _ => ?_
  refine (addMembers_rested ifnames).bind fun _ => Preserves.after_read fun w => ?_
  refine Preserves.bind ?_ fun _ => hsame (fun _ => rfl) (fun _ => rfl) fun _ h => h
  exact forEachMember_preserves _ fun k v hv _ => deleteMember_stable stable_rested k v hv

theorem bridgeBody_releases : Verified (bridgeBody .released) releases := by
  intro p w
  have hcallback {code : BridgeProg ℤ}
      (hcode : ∀ leaving J, Stable leaving J → Preserves releases J code) :
      wp releases code (fun _ t => ∀ leaving, Sound leaving w → p.isCallback = true →
        Since leaving w t) w :=
    wp_forall _ fun leaving => wp_imp _ fun hw => wp_imp _ fun _ =>
      hcode leaving _ (stable_since w) w (.refl hw)
  have hcall {code : BridgeProg ℤ} (hcode : Preserves releases Rested code) :
      wp releases code (fun _ t => p.isCallback = false → Rested w → Rested t) w :=
    wp_imp _ fun _ => wp_imp _ fun hw => hcode w hw
  have hdone {code : BridgeProg Unit} {J : BridgeState → Prop} (hcode : Preserves releases J code) :
      Preserves releases J (do code; pure (0 : ℤ)) := hcode.bind fun _ => Preserves.pure 0
  have hsteady {code : BridgeProg ℤ}
      (hcode : ∀ leaving J, Stable leaving J → Preserves releases J code) :
      wp releases code (fun r t => releases p w r t) w :=
    wp_and _ (hcallback hcode) (hcall (hcode [] Rested stable_rested))
  have hown {code : BridgeProg ℤ} (hp : p.isCallback = false)
      (hcode : Preserves releases Rested code) :
      wp releases code (fun r t => releases p w r t) w := by
    refine wp_and _ (wp_mono _ (fun _ _ _ _ _ h => ?_) (wp_trivial _ _ _)) (hcall hcode)
    rw [hp] at h
    cases h
  cases p with
  | devicePresent k state => exact hsteady fun _ _ hJ => hdone (devicePresent_stable hJ k state)
  | claim u => exact hsteady fun _ _ hJ => claimBridge_stable hJ u
  | release u => exact hsteady fun _ _ hJ => hdone (releaseBridge_stable hJ u)
  | retry => exact hsteady fun _ _ hJ => hdone (retryMembers_stable hJ)
  | addMember k => exact hown rfl (hdone (createMember_rested k true))
  | delMember k => exact hsteady fun _ _ hJ => hdone (deleteMember_stable hJ k)
  | configInit bridgeEmpty ifnames => exact hown rfl (hdone (configInit_rested bridgeEmpty ifnames))
  | restart => exact hsteady fun _ _ hJ => hdone (restart_stable hJ)
  | prepare => exact hsteady fun _ _ hJ => hdone (prepare_stable hJ)

theorem newBridge_rested (devPresent : ℕ → Bool) : Rested (newBridge devPresent) where
  sound := ⟨newBridge_counted devPresent, (fun _ h => by cases h), rfl, le_refl _⟩
  settled := rfl
  free _ := ⟨fun _ _ => rfl, rfl⟩

/-- Between calls of a released run, a bridge that nobody claims holds nothing. -/
theorem released_holds_nothing (devPresent : ℕ → Bool) {w : BridgeState}
    (run : Reachable (bridgeBody .released) anyCall (newBridge devPresent) w) :
    (w.devActive = 0 → w.active = false ∧ ∀ k, (w.member k).claimed = false) ∧
      (∀ k, (w.member k).claimed → (w.member k).present) ∧ w.stray = false := by
  have hrested : Rested w := by
    refine run.invariant bridgeBody_releases ?_ (newBridge_rested devPresent)
    intro p s r t _ hspec hs
    cases hp : p.isCallback with
    | false => exact hspec.2 hp hs
    | true => exact stable_rested.since s t hs (hspec.1 [] hs.sound hp)
  refine ⟨fun hidle => ⟨(hrested.free hidle).active, fun k => ?_⟩, hrested.sound.bound,
    hrested.sound.unseen⟩
  exact (hrested.free hidle).claimed k List.not_mem_nil

/-- A bridge with two members is claimed and released. -/
theorem released_holds_nothing_two : ∃ w,
    Reachable (bridgeBody .released) anyCall (newBridge fun _ => true) w ∧
      (w.members = [0, 1] ∧ (w.member 0).present ∧ (w.member 1).present ∧ w.devActive = 0) ∧
      w.active = false ∧ ∀ k, (w.member k).claimed = false := by
  obtain ⟨w, hw, hstate⟩ := exists_reachable (bridgeBody .released) anyCall (newBridge fun _ => true)
    (fun w => w.members = [0, 1] ∧ (w.member 0).present ∧ (w.member 1).present ∧ w.devActive = 0)
    200
    [(.configInit false [0, 1], [.resume]),
      (.claim 0, [.resume, .pick 0, .resume, .pick 0, .resume, .pick 0, .resume, .resume, .pick 0,
        .resume, .pick 0, .resume, .resume, .pick 0, .resume]),
      (.release 0, [.resume, .resume, .resume, .resume, .resume, .resume])] (by decide)
  exact ⟨w, hw, hstate, (released_holds_nothing _ hw).1 hstate.2.2.2⟩

/-- One of two members cannot be added, so the timer runs. The bridge is released before it
expires, and the member is claimed for a bridge that nobody claims. -/
theorem retry_after_release : ∃ w,
    Reachable (bridgeBody .any) anyCall (newBridge fun _ => true) w ∧ w.devActive = 0 ∧
      w.active = true ∧ (w.member 1).claimed = true :=
  exists_reachable (bridgeBody .any) anyCall (newBridge fun _ => true)
    (fun w => w.devActive = 0 ∧ w.active = true ∧ (w.member 1).claimed = true) 100
    [(.configInit false [0, 1], [.resume]),
      (.claim 0, [.resume, .pick 0, .resume, .pick 0, .resume, .pick 0, .resume, .resume, .pick 0,
        .resume, .pick 1, .resume, .resume, .pick 0, .resume]),
      (.release 0, [.resume, .resume, .resume, .resume]),
      (.retry, [.pick 0, .resume, .pick 0, .resume, .pick 0, .resume])] (by decide)

end Netifd.Bridge
