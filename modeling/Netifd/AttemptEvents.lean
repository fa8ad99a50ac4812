import Netifd.AttemptBridges

/-!
# Devices that are gone during an attempt

The callbacks of the devices on a bridge whose members all fail. They hold nothing then, or are
bridges that are not up.
-/

namespace Netifd.ClaimAttempts

section Gone

variable {s : Stack} {k : ℕ → Kernel} {w₀ w v t : World} {busy : Set ℕ} {b d m : ℕ}
  {call : Call → World → Answer} {r : ℤ × World}

theorem Calm.refl (w : World) : Calm s d w w :=
  ⟨rfl, fun _ => rfl, fun _ => rfl, fun _ _ => .refl _, fun _ _ _ _ => rfl, fun _ h => h⟩

theorem Calm.trans (h : Calm s d w v) (h' : Calm s d v t) : Calm s d w t where
  claimed := h'.claimed.trans h.claimed
  active e := (h'.active e).trans (h.active e)
  link e := (h'.link e).trans (h.link e)
  agree e he := (h.agree e he).trans (h'.agree e (by rwa [h.active e]))
  shown e hne hkind he :=
    (h'.shown e hne hkind (by rwa [h.active e])).trans (h.shown e hne hkind he)
  present e he := h'.present e (h.present e he)

/-- It began at a device that is no bridge, or a bridge that is not up. -/
theorem Calm.other (h : Calm s b w v) (hb : s.kind b ≠ .bridge ∨ (w.dev b).active = 0) :
    Calm s d w v where
  claimed := h.claimed
  active := h.active
  link := h.link
  agree := h.agree
  shown e _ hkind he := by
    apply h.shown e _ hkind he
    rintro rfl
    exact hb.elim (fun hne => hne hkind) he
  present := h.present

theorem Calm.awake (h : Calm s d w v) (hawake : Awake s busy w) : Awake s busy v := by
  intro e he
  obtain ⟨hactive, hneeds⟩ := hawake e he
  refine ⟨by rwa [h.active e], fun m hm => ?_⟩
  rw [h.claimed] at hm
  rw [(h.agree e hactive).needs]
  exact hneeds m hm

/-- What holds while the users of a device hear that it is gone. -/
structure Hearing (s : Stack) (w₀ : World) (busy : Set ℕ) (d : ℕ) (w v : World) : Prop where
  good : Good s w₀ busy v
  awake : Awake s busy v
  calm : Calm s d w v

theorem Hearing.step (h : Hearing s w₀ busy d w v) (hgood : Good s w₀ busy t)
    (hcalm : Calm s d v t) : Hearing s w₀ busy d w t :=
  ⟨hgood, hcalm.awake h.awake, h.calm.trans hcalm⟩

theorem Good.needed (h : Good s w₀ busy w) (hawake : Awake s busy w) {e : ℕ}
    (hclaimed : w.claimed (.dep b e) = true) : needs s (w.dev b) b e = true := by
  by_cases hb : b ∈ busy
  · exact (hawake b hb).2 e hclaimed
  · by_cases hdown : (w.dev b).active = 0 ∨ s.external b = true
    · rw [(h.sound.bare b hb hdown).1 e] at hclaimed
      cases hclaimed
    · obtain ⟨hup, hext⟩ := not_or.mp hdown
      rwa [← h.sound.held b hb (by simpa using hext) hup e]

theorem Good.not_present (h : Good s w₀ busy w) {sysPresent present : ℕ → Bool}
    (hports : ∀ e, Ports s { w with sysPresent, present } e) :
    Good s w₀ busy { w with sysPresent, present } where
  sound :=
    { count := h.sound.count
      placed := h.sound.placed
      ports := hports
      held := h.sound.held
      bare := h.sound.bare }
  near := ⟨h.near.kept, h.near.link, h.near.needs⟩

/-- A device changes that is not up, or in a way that does not matter. -/
theorem Good.adjust (h₀ : Grounded s w₀) (h : Good s w₀ busy w) {f : Dev → Dev}
    (hactive : (f (w.dev b)).active = (w.dev b).active)
    (hlink : (f (w.dev b)).link = (w.dev b).link)
    (hneeds : (w.dev b).active ≠ 0 → ∀ e, needs s (f (w.dev b)) b e = needs s (w.dev b) b e)
    (hports : Ports s (w.map b f) b) : Good s w₀ busy (w.map b f) := by
  have hlink' (e : ℕ) : ((w.map b f).dev e).link = (w.dev e).link := by
    by_cases he : e = b
    · rw [he, World.map_dev_self, hlink]
    · rw [World.map_dev w f he]
  have hneeds' (e : ℕ) (he : (w.dev e).active ≠ 0) (m : ℕ) :
      needs s ((w.map b f).dev e) e m = needs s (w.dev e) e m := by
    by_cases heb : e = b
    · subst heb
      rw [World.map_dev_self, hneeds he]
    · rw [World.map_dev w f heb]
  constructor
  · apply h.sound.of_same
    · intro e
      rw [w.map_active f hactive]
      exact h.sound.count e
    · exact h.sound.placed
    · intro e
      by_cases heb : e = b
      · subst heb
        exact hports
      · exact (h.sound.ports e).of_agree (World.map_dev w f heb) (fun _ => rfl) rfl rfl rfl rfl
    · exact fun _ he => he
    · exact fun _ _ _ => rfl
    · exact fun e _ => hlink' e
    · intro e _
      rw [w.map_active f hactive]
    · exact fun e _ => hneeds' e
  · constructor
    · exact h.near.kept
    · exact fun e he => (hlink' e).trans (h.near.link e he)
    · intro e he m
      rw [hneeds' e (h.near.active h₀ h.sound he)]
      exact h.near.needs e he m

theorem calm_map (w : World) {f : Dev → Dev} (hactive : (f (w.dev b)).active = (w.dev b).active)
    (hlink : (f (w.dev b)).link = (w.dev b).link)
    (hagree : (w.dev b).active ≠ 0 → (w.dev b).Agree (f (w.dev b))) : Calm s d w (w.map b f) where
  claimed := rfl
  active e := w.map_active f hactive
  link e := by
    by_cases he : e = b
    · rw [he, World.map_dev_self, hlink]
    · rw [World.map_dev w f he]
  agree e he := by
    by_cases heb : e = b
    · subst heb
      rw [World.map_dev_self]
      exact hagree he
    · rw [World.map_dev w f heb]
      exact .refl _
  shown _ _ _ _ := rfl
  present _ he := he

theorem Hearing.memberRemoved (hcall : Works s w₀ call) (h₀ : Grounded s w₀)
    (h : Hearing s w₀ busy d w v) (hidle : (v.dev b).active = 0)
    (hr : memberRemoved s call b v = some r) : Hearing s w₀ busy d w r.2 := by
  rw [ClaimAttempts.memberRemoved] at hr
  split at hr
  · rw [← Option.some.inj hr]
    exact h
  have hports : Ports s (v.map b fun x => { x with forceActive := false }) b :=
    (h.good.sound.ports b).of_agree (World.map_dev_self ..) (fun _ => rfl) rfl rfl rfl rfl
  have hcleared := h.step (h.good.adjust h₀ rfl rfl (fun hup => absurd hidle hup) hports)
    (calm_map v rfl rfl fun hup => absurd hidle hup)
  generalize hvt : (v.map b fun x => { x with forceActive := false }) = t at hr hports hcleared
  have hidle' : (t.dev b).active = 0 := by
    rw [← hvt, World.map_dev_self]
    exact hidle
  dsimp only at hr
  rcases whenever_cases hr with ⟨hn, hr⟩ | ⟨-, hr⟩
  · obtain ⟨hgood, hcalm⟩ := hcall.gone hcleared.good hcleared.awake (hports.none_present hn) hr
    exact hcleared.step hgood (hcalm.other (.inr hidle'))
  · rw [hr]
    exact hcleared

/-- A member of a bridge that is not up is not present any more, and may leave the list. -/
theorem Hearing.removed (hcall : Works s w₀ call) (h₀ : Grounded s w₀)
    (h : Hearing s w₀ busy d w v) (hidle : (v.dev b).active = 0) {f : Dev → Dev}
    (hactive : (f (v.dev b)).active = (v.dev b).active)
    (hlink : (f (v.dev b)).link = (v.dev b).link) (hports : Ports s (v.map b f) b)
    (hr : ClaimAttempts.memberRemoved s call b (v.map b f) = some r) :
    Hearing s w₀ busy d w r.2 := by
  have hstep := h.step (h.good.adjust h₀ hactive hlink (fun hup => absurd hidle hup) hports)
    (calm_map v hactive hlink fun hup => absurd hidle hup)
  apply hstep.memberRemoved hcall h₀ _ hr
  rw [World.map_dev_self, hactive, hidle]

theorem Hearing.removeMember (hcall : Works s w₀ call) (h₀ : Grounded s w₀)
    (h : Hearing s w₀ busy d w v) (hidle : (v.dev b).active = 0 ∨ (v.dev b).memPresent m = false)
    (hr : bridgeRemoveMember s call b m v = some r) : Hearing s w₀ busy d w r.2 := by
  rw [bridgeRemoveMember] at hr
  split at hr
  · rw [← Option.some.inj hr]
    exact h
  rename_i hm
  have hdown := hidle.resolve_right hm
  obtain ⟨⟨n, t⟩, hq, hrest⟩ := Option.bind_eq_some_iff.mp hr
  rcases whenever_cases hq with ⟨hup, -⟩ | ⟨-, hsame⟩
  · exact absurd hdown hup
  · obtain rfl : t = v := hsame
    exact h.removed hcall h₀ hdown rfl rfl
      ((h.good.sound.ports b).removePresent (by simpa using hm)) hrest

theorem Ports.erase (h : Ports s v b) (hm : (v.dev b).memPresent m = false) :
    Ports s (v.map b fun x => { x with members := x.members.erase m }) b := by
  have hdev : (v.map b fun x => { x with members := x.members.erase m }).dev b =
      { v.dev b with members := (v.dev b).members.erase m } := World.map_dev_self ..
  constructor
  · rw [hdev]
    exact h.unlinked
  · rw [hdev]
    intro hkind
    simp [h.plain hkind]
  · rw [hdev]
    exact h.nodup.erase m
  · rw [hdev]
    exact fun e he => h.below e (List.mem_of_mem_erase he)
  · rw [hdev]
    dsimp only
    rw [h.count, List.countP_erase]
    simp [hm]
  · rw [hdev]
    intro e he
    have hne : e ≠ m := by
      rintro rfl
      simp [hm] at he
    exact (List.mem_erase_of_ne hne).mpr (h.mem e he)
  · rw [hdev]
    exact h.shown

theorem map_map (w : World) (b : ℕ) (f g : Dev → Dev) :
    (w.map b f).map b g = w.map b fun x => g (f x) := by
  simp [World.map]

theorem Hearing.unclaimed (h : Hearing s w₀ busy d w v) (hkind : s.kind b = .bridge)
    (hidle : (v.dev b).active = 0 ∨ (v.dev b).memPresent m = false) :
    v.claimed (.dep b m) = false := by
  by_contra hclaimed
  have hclaimed' : v.claimed (.dep b m) = true := by simpa using hclaimed
  rcases hidle with hdown | hm
  · have hb : b ∉ busy := fun hmem => (h.awake b hmem).1 hdown
    exact hclaimed ((h.good.sound.bare b hb (.inl hdown)).1 m)
  · have hneeds := h.good.needed h.awake hclaimed'
    rw [needs_bridge hkind, hm] at hneeds
    cases hneeds

/-- The member leaves the list before it is marked. -/
theorem Hearing.erased (hcall : Works s w₀ call) (h₀ : Grounded s w₀)
    (h : Hearing s w₀ busy d w v) (hidle : (v.dev b).active = 0 ∨ (v.dev b).memPresent m = false)
    (hr : bridgeRemoveMember s call b m
      (v.map b fun x => { x with members := x.members.erase m }) = some r) :
    Hearing s w₀ busy d w r.2 := by
  have hports := h.good.sound.ports b
  by_cases hm : (v.dev b).memPresent m = false
  · have herased := h.step (h.good.adjust h₀ rfl rfl (fun _ _ => rfl) (hports.erase hm))
      (calm_map v rfl rfl fun _ => ⟨rfl, rfl, rfl, rfl, rfl, rfl, List.erase_subset⟩)
    apply herased.removeMember hcall h₀ (.inr _) hr
    rw [World.map_dev_self]
    exact hm
  · have hdown := hidle.resolve_right hm
    have hdev : (v.map b fun x => { x with members := x.members.erase m }).dev b =
        { v.dev b with members := (v.dev b).members.erase m } := World.map_dev_self ..
    rw [bridgeRemoveMember, hdev, if_neg hm] at hr
    obtain ⟨⟨n, t⟩, hq, hr⟩ := Option.bind_eq_some_iff.mp hr
    rcases whenever_cases hq with ⟨hup, -⟩ | ⟨-, hsame⟩
    · exact absurd hdown hup
    obtain rfl : t = _ := hsame
    have hleft := (hports.removePresent (m := m) (by simpa using hm)).erase (m := m) (by
      rw [World.removePresent, World.map_dev_self]
      exact Function.update_self ..)
    rw [World.removePresent, map_map] at hleft
    dsimp only at hr
    rw [World.removePresent, map_map] at hr
    exact h.removed hcall h₀ hdown rfl rfl hleft hr

theorem Hearing.deleteMember (hcall : Works s w₀ call) (h₀ : Grounded s w₀)
    (hkind : s.kind b = .bridge) (h : Hearing s w₀ busy d w v)
    (hidle : (v.dev b).active = 0 ∨ (v.dev b).memPresent m = false) (hgone : v.present m = false)
    (hr : deleteMember s call b m v = some r) : Hearing s w₀ busy d w r.2 := by
  have hv : Hearing s w₀ busy d v v := ⟨h.good, h.awake, .refl v⟩
  obtain ⟨⟨n, t⟩, hq, hfreed⟩ := Option.bind_eq_some_iff.mp hr
  have ht := hv.erased hcall h₀ hidle hq
  obtain ⟨⟨n', t'⟩, hq', hrest⟩ := Option.bind_eq_some_iff.mp hfreed
  have hclaimed : t.claimed (.dep b m) = false := by
    rw [ht.calm.claimed]
    exact h.unclaimed hkind hidle
  obtain rfl : t' = t := hcall.unheld hclaimed hq'
  have hpresent : t'.present m = false := ht.calm.present m hgone
  dsimp only at hrest
  rw [if_neg (by simp [hpresent])] at hrest
  rw [← Option.some.inj hrest]
  exact h.step ht.good ht.calm

theorem Hearing.broadcastCb (hcall : Works s w₀ call) (h₀ : Grounded s w₀)
    (h : Hearing s w₀ busy d w v) (hgone : v.present d = false) {u : User} (hu : u ∈ s.users d)
    (hr : deviceBroadcastCb s k true call false v u = some r) : Hearing s w₀ busy d w r.2 := by
  cases u with
  | other i =>
    rw [← Option.some.inj hr]
    exact h
  | dep b e =>
    obtain ⟨rfl, -⟩ := (s.dep_mem b d e).mp hu
    rw [deviceBroadcastCb] at hr
    split at hr
    · rename_i hkind
      rcases whenever_cases hr with ⟨-, hr⟩ | ⟨-, hr⟩
      · rw [bridgeMemberCb, if_neg (by simp)] at hr
        split at hr
        · cases hr
        rename_i hguard
        have hidle : (v.dev b).active = 0 ∨ (v.dev b).memPresent e = false := by
          by_contra hboth
          obtain ⟨hup, hm⟩ := not_or.mp hboth
          exact hguard ⟨rfl, hup, by simpa using hm⟩
        split at hr
        · exact h.deleteMember hcall h₀ hkind hidle hgone hr
        · exact h.removeMember hcall h₀ hidle hr
      · rw [hr]
        exact h
    · rename_i hkind
      rcases whenever_cases hr with ⟨-, hr⟩ | ⟨-, hr⟩
      · have hplain : ∀ m, (v.dev b).memPresent m = false := by
          intro m
          by_contra hm
          have hmem := (h.good.sound.ports b).mem m (by simpa using hm)
          rw [(h.good.sound.ports b).plain hkind] at hmem
          cases hmem
        obtain ⟨hgood, hcalm⟩ := hcall.gone h.good h.awake hplain hr
        exact h.step hgood (hcalm.other (.inl hkind))
      · rw [hr]
        exact h

theorem Ports.hide {e : ℕ} (h : Ports s w e) (hnone : ∀ m, (w.dev d).memPresent m = false)
    (present : ℕ → Bool) :
    Ports s { w with sysPresent := Function.update w.sysPresent d false, present } e where
  unlinked := h.unlinked
  plain := h.plain
  nodup := h.nodup
  below := h.below
  count := h.count
  mem := h.mem
  shown m hm := by
    have hne : e ≠ d := by
      rintro rfl
      rw [hnone m] at hm
      cases hm
    exact (Function.update_of_ne hne ..).trans (h.shown m hm)

theorem deviceSetPresent_gone (hcall : Works s w₀ call) (h₀ : Grounded s w₀)
    (h : Good s w₀ busy w) (hawake : Awake s busy w)
    (hnone : ∀ m, (w.dev d).memPresent m = false)
    (hr : deviceSetPresent s k true call d false w = some r) :
    Good s w₀ busy r.2 ∧ Calm s d w r.2 := by
  have hhidden (present : ℕ → Bool) (hpresent : ∀ e, w.present e = false → present e = false) :
      Hearing s w₀ busy d w
        { w with sysPresent := Function.update w.sysPresent d false, present } := by
    refine ⟨h.not_present fun e => (h.sound.ports e).hide hnone present, hawake, ?_⟩
    exact ⟨rfl, fun _ => rfl, fun _ => rfl, fun _ _ => .refl _,
      fun e he _ _ => Function.update_of_ne he .., hpresent⟩
  rw [deviceSetPresent] at hr
  split at hr
  · rw [← Option.some.inj hr]
    exact ⟨h, .refl w⟩
  dsimp only [Bool.false_and] at hr
  split at hr
  · rw [← Option.some.inj hr]
    have hearing := hhidden w.present fun _ he => he
    exact ⟨hearing.good, hearing.calm⟩
  have hbegin := hhidden (Function.update w.present d false) fun e he => by
    by_cases hed : e = d
    · subst hed
      simp
    · rw [Function.update_of_ne hed]
      exact he
  have hgone : Function.update w.present d false d = false := Function.update_self ..
  have hearing := forEach_keeps (P := Hearing s w₀ busy d
      { w with
        sysPresent := Function.update w.sysPresent d false
        present := Function.update w.present d false }) _
    (fun hx hP hcb => hP.broadcastCb hcall h₀ (hP.calm.present d hgone) hx hcb)
    ⟨hbegin.good, hbegin.awake, .refl _⟩ hr
  exact ⟨hearing.good, hbegin.calm.trans hearing.calm⟩

end Gone

end Netifd.ClaimAttempts
