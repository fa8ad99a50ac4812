import Netifd.AttemptInvariants

/-!
# Bringing up a device on another one

Claims and releases keep the invariants if the calls in them do, and so does the state callback of
every device that is no bridge.
-/

namespace Netifd.ClaimAttempts

section Calls

variable {s : Stack} {k : ℕ → Kernel} {w₀ w : World} {busy : Set ℕ} {u : User} {p : ℕ}
  {call : Call → World → Answer} {r : ℤ × World}

theorem Good.finish {d : ℕ} (h : Good s w₀ (insert d busy) w)
    (hheld : s.external d = false → (w.dev d).active ≠ 0 → Holds s w d)
    (hbare : (w.dev d).active = 0 ∨ s.external d = true → Bare w d) : Good s w₀ busy w :=
  ⟨h.sound.finish hheld hbare, h.near⟩

theorem setDeviceState_nonpos (k : ℕ → Kernel) (d : ℕ) (w : World) :
    (setDeviceState k d true w).1 ≤ 0 := by
  simp only [setDeviceState, if_true]
  split <;> decide

/-- The device of a user that has not claimed it, where nobody else has. -/
theorem Good.claim_first (h : Good s w₀ busy w) (hp : s.dev u = some p) (hfree : p ∉ busy)
    (howned : Owned s busy w u) (hu : w.claimed u = false) (hdown : (w.dev p).active = 0) :
    Good s w₀ (insert p busy) (w.recount u p true 1) ∧ Bare (w.recount u p true 1) p := by
  have hcount : (1 : ℤ) = (s.users p).countP (w.recount u p true 1).claimed := by
    rw [← count_claim h.sound hp hu, hdown]
    rfl
  have hne : ∀ e, User.dep p e ≠ u := fun e heq => hfree (howned p e heq.symm).1
  obtain ⟨hclaims, hlink⟩ := h.sound.bare p hfree (.inl hdown)
  refine ⟨⟨?_, ?_⟩, ?_, ?_⟩
  · apply h.sound.recount hp hcount
    · exact fun d e heq => Set.mem_insert_of_mem p (howned d e heq).1
    · exact Set.subset_insert p busy
    · exact fun hmem => absurd (Set.mem_insert p busy) hmem
  · exact h.near.recount p 1 (by simp)
  · intro e
    rw [recount_claimed w p true 1 (hne e)]
    exact hclaims e
  · rw [recount_link]
    exact hlink

theorem Owned.awake (h : Owned s busy w u) (hawake : Awake s busy w) (hfree : p ∉ busy) (n : ℤ) :
    Awake s busy (w.recount u p true n) := by
  intro d hd
  have hne : d ≠ p := by
    rintro rfl
    exact hfree hd
  rw [recount_dev w u true n hne]
  refine ⟨(hawake d hd).1, fun e he => ?_⟩
  by_cases heq : User.dep d e = u
  · exact (h d e heq.symm).2
  · rw [recount_claimed w p true n heq] at he
    exact (hawake d hd).2 e he

/-- The device comes up, or the index of an external one is looked for. -/
theorem Works.bringUp (hcall : Works s w₀ call) (h : Good s w₀ (insert p busy) w)
    (hbusy : ∀ e ∈ busy, p < e) (hawake : Awake s (insert p busy) w) (hbare : Bare w p)
    (h₀ : (w₀.dev p).active = 0)
    (hr : bringUp s k call p w = some r) : Raised s w₀ busy p w r := by
  rw [ClaimAttempts.bringUp] at hr
  split at hr
  · rename_i hext
    obtain rfl := Option.some.inj hr
    constructor
    · exact setDeviceState_nonpos k p w
    · exact ⟨h.ask, frame_ask w, rfl⟩
    · simp [hext]
    · exact fun _ => hbare
  · rename_i hext
    exact hcall.up ⟨h, hbusy, by simpa using hext, hawake, hbare, h₀⟩ hr

theorem Raised.claimed (h : Raised s w₀ busy p w r) (hp : s.dev u = some p)
    (hbusy : ∀ e ∈ busy, p < e) (hown : ∀ d e, u = .dep d e → d ∈ busy)
    (hu : w.claimed u = true) (hone : (w.dev p).active = 1) (hstart : w₀.claimed u = false) :
    Claimed s w₀ busy u w (if r.1 = 0 then (0, r.2) else (r.1, r.2.recount u p false 0)) := by
  have hfree : p ∉ busy := fun hmem => (hbusy p hmem).false
  have hne : ∀ e, User.dep p e ≠ u := fun e heq => hfree (hown p e heq.symm)
  have hmarked : w.mark u true = w := mark_self w u hu
  have hactive : (r.2.dev p).active = 1 := h.kept.active.trans hone
  have hkept : r.2.claimed u = true := by
    cases u with
    | dep d e => exact (h.kept.frame.dep d (hown d e rfl) e).trans hu
    | other i => exact (h.kept.frame.other i).trans hu
  split
  · rename_i hzero
    refine ⟨le_rfl, h.kept.good.finish (fun hext _ => h.held hzero hext) ?_, ?_⟩
    · intro hdown
      apply h.bare
      rw [hactive] at hdown
      exact .inr (hdown.resolve_left (by decide))
    · simp only [decide_true, hmarked]
      exact h.kept.frame
  · rename_i hzero
    refine ⟨h.nonpos, ⟨?_, h.kept.good.near.recount p 0 fun _ => hstart⟩, ?_⟩
    · have hcount : (0 : ℤ) = (s.users p).countP (r.2.recount u p false 0).claimed := by
        rw [← count_release h.kept.good.sound hp hkept, hactive]
        rfl
      have hleft : Sound s (insert p busy) (r.2.recount u p false 0) := by
        apply h.kept.good.sound.recount hp hcount
        · exact fun d e heq => Set.mem_insert_of_mem p (hown d e heq)
        · exact Set.Subset.refl _
        · exact fun hmem => absurd (Set.mem_insert p busy) hmem
      apply hleft.finish
      · intro _ hup
        rw [recount_dev_self] at hup
        exact absurd rfl hup
      · intro _
        obtain ⟨hclaims, hlink⟩ := h.bare (.inl hzero)
        refine ⟨fun e => ?_, ?_⟩
        · rw [recount_claimed r.2 p false 0 (hne e)]
          exact hclaims e
        · rw [recount_link]
          exact hlink
    · simp only [hzero, decide_false]
      exact (h.kept.frame.mark u false).trans (frame_recount r.2 u false 0 hfree)

theorem deviceClaim_spec (h₀ : Grounded s w₀) (hcall : Works s w₀ call) (h : Good s w₀ busy w)
    (hp : s.dev u = some p) (hbusy : ∀ e ∈ busy, p < e) (howned : Owned s busy w u)
    (hawake : Awake s busy w) (hu : w.claimed u = false)
    (hr : deviceClaim s k call u w = some r) : Claimed s w₀ busy u w r := by
  have hfree : p ∉ busy := fun hmem => (hbusy p hmem).false
  simp only [deviceClaim, hu, Bool.false_eq_true, if_false, hp, recount_dev_self] at hr
  by_cases hfirst : (w.dev p).active + 1 ≠ 1
  · -- somebody else holds the device
    rw [if_pos hfirst] at hr
    obtain rfl := Option.some.inj hr
    have hcount := h.sound.count p
    refine ⟨le_rfl, ⟨?_, h.near.recount p _ (by simp)⟩, frame_recount w u true _ hfree⟩
    apply h.sound.recount hp (count_claim h.sound hp hu _)
    · exact fun d e heq => (howned d e heq).1
    · exact Set.Subset.refl busy
    · intro _
      omega
  rw [if_neg hfirst] at hr
  have hdown : (w.dev p).active = 0 := by omega
  rw [hdown, zero_add] at hr
  obtain ⟨hgood, hbare⟩ := h.claim_first hp hfree howned hu hdown
  have hframe := frame_recount (s := s) w u true 1 hfree
  have hone : ((w.recount u p true 1).dev p).active = 1 := by rw [recount_dev_self]
  have hawake' : Awake s (insert p busy) (w.recount u p true 1) := by
    intro d hd
    rcases Set.mem_insert_iff.mp hd with rfl | hd
    · refine ⟨by rw [hone]; decide, fun e he => ?_⟩
      rw [hbare.1 e] at he
      cases he
    · exact howned.awake hawake hfree 1 d hd
  have hstart : (w₀.dev p).active = 0 := by
    by_contra hup
    exact h.near.active h₀ h.sound hup hdown
  obtain ⟨q, hq, hrest⟩ := Option.bind_eq_some_iff.mp hr
  have hclaim := (hcall.bringUp hgood hbusy hawake' hbare hstart hq).claimed hp hbusy
    (fun d e heq => (howned d e heq).1) (recount_claimed_self ..) hone (by
      by_contra hkept
      rw [h.near.kept u (by simpa using hkept)] at hu
      cases hu)
  have hresult : r = if q.1 = 0 then (0, q.2) else (q.1, q.2.recount u p false 0) := by
    split
    · rename_i hzero
      simpa [hzero] using hrest.symm
    · rename_i hzero
      simpa [hzero] using hrest.symm
  rw [← hresult] at hclaim
  refine ⟨hclaim.nonpos, hclaim.good, ?_⟩
  have hmark := (hframe.mark u (decide (r.1 = 0))).trans hclaim.frame
  rwa [mark_mark] at hmark

theorem released_of_not_claimed (h : Good s w₀ busy w) (hu : w.claimed u = false) :
    Released s w₀ busy u w w := by
  refine ⟨h, ?_⟩
  rw [mark_self w u hu]
  exact .refl w

theorem deviceRelease_unheld (hu : w.claimed u = false)
    (hr : deviceRelease s call u w = some r) : r.2 = w := by
  simp only [deviceRelease, hu, Bool.false_eq_true, if_false, silent] at hr
  rw [← Option.some.inj hr]

theorem deviceRelease_spec (h₀ : Grounded s w₀) (hcall : Works s w₀ call) (h : Good s w₀ busy w)
    (hp : s.dev u = some p) (hbusy : ∀ e ∈ busy, p < e) (hown : ∀ d e, u = .dep d e → d ∈ busy)
    (hstart : w₀.claimed u = false) (hr : deviceRelease s call u w = some r) :
    Released s w₀ busy u w r.2 := by
  by_cases hu : w.claimed u = true
  swap
  · have hu' : w.claimed u = false := by simpa using hu
    rw [deviceRelease_unheld hu' hr]
    exact released_of_not_claimed h hu'
  have hfree : p ∉ busy := fun hmem => (hbusy p hmem).false
  have hne : ∀ e, User.dep p e ≠ u := fun e heq => hfree (hown p e heq.symm)
  have hcount := count_release h.sound hp hu ((w.dev p).active - 1)
  have hframe := frame_recount (s := s) w u false ((w.dev p).active - 1) hfree
  have hnear : Near s w₀ (w.recount u p false ((w.dev p).active - 1)) :=
    h.near.recount p _ fun _ => hstart
  have hdep (e : ℕ) : (w.recount u p false ((w.dev p).active - 1)).claimed (.dep p e) =
      w.claimed (.dep p e) := recount_claimed w p false _ (hne e)
  have hsound : Sound s (insert p busy) (w.recount u p false ((w.dev p).active - 1)) := by
    apply h.sound.recount hp hcount
    · exact fun d e heq => Set.mem_insert_of_mem p (hown d e heq)
    · exact Set.subset_insert p busy
    · exact fun hmem => absurd (Set.mem_insert p busy) hmem
  have hup : (w.dev p).active ≠ 0 := by
    have hpos : 0 < (s.users p).countP w.claimed :=
      List.countP_pos_iff.mpr ⟨u, dev_eq hp, hu⟩
    rw [h.sound.count p]
    omega
  simp only [deviceRelease, hu, if_true, hp, recount_dev_self, silent] at hr
  split at hr
  · cases hr
  split at hr
  · rename_i hleft
    obtain rfl := Option.some.inj hr
    refine ⟨⟨?_, hnear⟩, hframe⟩
    apply hsound.finish
    · intro hext hactive e
      rw [hdep, recount_needs]
      exact h.sound.held p hfree hext hup e
    · intro hdown
      rw [recount_dev_self] at hdown
      have hext : s.external p = true := by tauto
      obtain ⟨hclaims, hlink⟩ := h.sound.bare p hfree (.inr hext)
      exact ⟨fun e => (hdep e).trans (hclaims e), by rwa [recount_link]⟩
  · rename_i hlast
    obtain ⟨hzero, hext⟩ := not_or.mp hlast
    obtain ⟨q, hq, hrest⟩ := Option.bind_eq_some_iff.mp hr
    have hzero' : ((w.recount u p false ((w.dev p).active - 1)).dev p).active = 0 := by
      rw [recount_dev_self]
      simpa using hzero
    have hold : Holds s (w.recount u p false ((w.dev p).active - 1)) p := by
      intro e
      rw [hdep, recount_needs]
      exact h.sound.held p hfree (by simpa using hext) hup e
    have hbefore : (w₀.dev p).active = 0 := by
      by_contra hactive
      exact hnear.active h₀ hsound hactive hzero'
    have hlowered := hcall.down ⟨⟨hsound, hnear⟩, hbusy, hold, hbefore⟩ hq
    rw [← Option.some.inj hrest]
    refine ⟨hlowered.kept.good.finish ?_ fun _ => hlowered.bare, hframe.trans hlowered.kept.frame⟩
    intro _ hactive
    rw [hlowered.kept.active, hzero'] at hactive
    exact absurd rfl hactive

end Calls

/-- The device holds just this one below, or none. -/
def Deps (w : World) (d : ℕ) (q : Option ℕ) : Prop :=
  ∀ e, w.claimed (.dep d e) = decide (q = some e)

section Callbacks

variable {s : Stack} {k : ℕ → Kernel} {w₀ w v : World} {busy : Set ℕ} {d p : ℕ}
  {call : Call → World → Answer} {r : ℤ × World}

theorem Bare.deps (h : Bare w d) : Deps w d none := by
  intro e
  rw [h.1 e]
  rfl

theorem Deps.bare (h : Deps w d none) (hlink : (w.dev d).link = false) : Bare w d := by
  refine ⟨fun e => ?_, hlink⟩
  rw [h e]
  rfl

theorem Kept.refl (h : Good s w₀ (insert d busy) w) : Kept s w₀ busy d w w :=
  ⟨h, .refl w, rfl⟩

theorem Kept.ask (h : Kept s w₀ busy d w v) : Kept s w₀ busy d w v.ask :=
  ⟨h.good.ask, h.frame.trans (frame_ask v), h.active⟩

theorem Kept.setLink (h : Kept s w₀ busy d w v) (hfree : d ∉ busy) (h₀ : (w₀.dev d).active = 0)
    (hkind : s.kind d ≠ .simple) (b : Bool) : Kept s w₀ busy d w (v.setLink d b) where
  good := h.good.setLink (Set.mem_insert d busy) h₀ hkind b
  frame := h.frame.trans (frame_map v _ hfree)
  active := by
    rw [World.setLink, World.map_dev_self]
    exact h.active

theorem Frame.unmark {b : Bool} (h : Frame s (insert d busy) (w.mark (.dep d p) b) v)
    (hfree : d ∉ busy) : Frame s busy w v where
  dev e he := h.dev e (Set.mem_insert_of_mem d he)
  dep e he m := by
    rw [h.dep e (Set.mem_insert_of_mem d he) m]
    apply World.mark_claimed
    intro heq
    obtain ⟨rfl, -⟩ := User.dep.inj heq
    exact hfree he
  other i := by
    rw [h.other i]
    exact World.mark_claimed _ _ (by simp)
  shown e he := h.shown e (Set.mem_insert_of_mem d he)

theorem Kept.claim (h : Kept s w₀ busy d w v) (hfree : d ∉ busy)
    (hclaim : Claimed s w₀ (insert d busy) (.dep d p) v r) : Kept s w₀ busy d w r.2 where
  good := hclaim.good
  frame := h.frame.trans (hclaim.frame.unmark hfree)
  active := ((hclaim.frame.dev d (Set.mem_insert d busy)).active).trans h.active

theorem Kept.release {t : World} (h : Kept s w₀ busy d w v) (hfree : d ∉ busy)
    (hrelease : Released s w₀ (insert d busy) (.dep d p) v t) : Kept s w₀ busy d w t where
  good := hrelease.good
  frame := h.frame.trans (hrelease.frame.unmark hfree)
  active := ((hrelease.frame.dev d (Set.mem_insert d busy)).active).trans h.active

theorem Frame.claimed_mark {b : Bool} (h : Frame s (insert d busy) (w.mark (.dep d p) b) v)
    (e : ℕ) : v.claimed (.dep d e) = if e = p then b else w.claimed (.dep d e) := by
  rw [h.dep d (Set.mem_insert d busy) e]
  by_cases he : e = p
  · subst he
    simp
  · rw [if_neg he]
    apply World.mark_claimed
    intro heq
    exact he (User.dep.inj heq).2

theorem Frame.deps_claim {b : Bool} (h : Frame s (insert d busy) (w.mark (.dep d p) b) v)
    (hdeps : Deps w d none) : Deps v d (if b then some p else none) := by
  intro e
  rw [h.claimed_mark, hdeps e]
  by_cases he : e = p
  · subst he
    cases b <;> simp
  · have he' : ¬p = e := fun heq => he heq.symm
    cases b <;> simp [he, he']

theorem Frame.deps_release (h : Frame s (insert d busy) (w.mark (.dep d p) false) v)
    (hdeps : Deps w d (some p)) : Deps v d none := by
  intro e
  rw [h.claimed_mark, hdeps e]
  by_cases he : e = p
  · simp [he]
  · have he' : ¬p = e := fun heq => he heq.symm
    simp [he, he']

theorem dev_dep (hp : p ∈ s.below d) : s.dev (.dep d p) = some p := if_pos hp

theorem base_mem (hp : s.base d = some p) : p ∈ s.below d := List.mem_of_mem_head? hp

theorem lt_busy (hp : p ∈ s.below d) (hbusy : ∀ e ∈ busy, d < e) : ∀ e ∈ insert d busy, p < e := by
  have hlt := s.below_lt d p hp
  intro e he
  rcases Set.mem_insert_iff.mp he with rfl | he
  · exact hlt
  · exact hlt.trans (hbusy e he)

theorem Kept.claimed (hcall : Works s w₀ call) (h : Kept s w₀ busy d w v)
    (hbusy : ∀ e ∈ busy, d < e) (hp : p ∈ s.below d) (hneeds : needs s (v.dev d) d p = true)
    (hawake : Awake s (insert d busy) v) (hnone : v.claimed (.dep d p) = false)
    (hr : call (.claim (.dep d p)) v = some r) : Claimed s w₀ (insert d busy) (.dep d p) v r := by
  refine hcall.claim h.good (dev_dep hp) (lt_busy hp hbusy) ?_ hawake hnone hr
  intro b e heq
  obtain ⟨rfl, rfl⟩ := User.dep.inj heq
  exact ⟨Set.mem_insert d busy, hneeds⟩

theorem Kept.released (hcall : Works s w₀ call) (h₀ : Grounded s w₀) (h : Kept s w₀ busy d w v)
    (hbusy : ∀ e ∈ busy, d < e) (hp : p ∈ s.below d) (hstart : (w₀.dev d).active = 0)
    (hr : call (.release (.dep d p)) v = some r) :
    Released s w₀ (insert d busy) (.dep d p) v r.2 := by
  refine hcall.release h.good (dev_dep hp) (lt_busy hp hbusy) ?_ ?_ hr
  · intro b e heq
    obtain ⟨rfl, rfl⟩ := User.dep.inj heq
    exact Set.mem_insert d busy
  · exact h₀.idle d hstart p

theorem needs_follows (hkind : (s.kind d).follows = true) (x : Dev) (e : ℕ) :
    needs s x d e = decide (s.base d = some e) := by
  rw [needs]
  cases hk : s.kind d <;> rw [hk] at hkind <;> first | rfl | cases hkind

theorem needs_of_follows (hkind : (s.kind d).follows = true) (hp : s.base d = some p) (x : Dev)
    (e : ℕ) : needs s x d e = decide (some p = some e) := by
  rw [needs_follows hkind, hp]

theorem not_simple_of_follows (hkind : (s.kind d).follows = true) : s.kind d ≠ .simple := by
  intro hsimple
  rw [hsimple] at hkind
  cases hkind

theorem Kept.failed (h : Kept s w₀ busy d w v) {n : ℤ} (hn : n < 0) (hdeps : Deps v d none)
    (hlink : (v.dev d).link = false) : Raised s w₀ busy d w (n, v) where
  nonpos := hn.le
  kept := h
  held hzero := absurd hzero hn.ne
  bare _ := hdeps.bare hlink

theorem Kept.done (h : Kept s w₀ busy d w v) (hext : s.external d = false) (hheld : Holds s v d) :
    Raised s w₀ busy d w (0, v) where
  nonpos := le_rfl
  kept := h
  held _ _ := hheld
  bare hn := by
    rw [hext] at hn
    simp at hn

theorem systemLinkAdd_cases (k : ℕ → Kernel) (d : ℕ) (w : World) :
    systemLinkAdd k d w = (0, w.ask.setLink d true) ∨
      (systemLinkAdd k d w).1 < 0 ∧ (systemLinkAdd k d w).2 = w.ask := by
  by_cases herr : (k w.asked).errno d = 0
  · simp [systemLinkAdd, herr]
  · right
    simp only [systemLinkAdd, if_neg herr, and_true]
    omega

theorem setDeviceState_cases (k : ℕ → Kernel) (d : ℕ) (w : World) :
    setDeviceState k d true w = (0, w.ask) ∨ setDeviceState k d true w = (-1, w.ask) := by
  simp only [setDeviceState, if_true]
  split
  · exact .inr rfl
  · exact .inl rfl

@[simp] theorem setLink_link (w : World) (d : ℕ) (b : Bool) : ((w.setLink d b).dev d).link = b := by
  rw [World.setLink, World.map_dev_self]

/-- The claim on the device below, where nothing has been claimed. -/
theorem Bare.claim (hbare : Bare w d)
    (hclaim : Claimed s w₀ (insert d busy) (.dep d p) w r) :
    Deps r.2 d (if r.1 = 0 then some p else none) ∧ (r.2.dev d).link = false := by
  have hdeps := hclaim.frame.deps_claim hbare.deps
  simp only [decide_eq_true_eq] at hdeps
  exact ⟨hdeps, (hclaim.frame.dev d (Set.mem_insert d busy)).link.trans hbare.2⟩

/-- The device below is given back. -/
theorem Kept.giveUp (hcall : Works s w₀ call) (h₀ : Grounded s w₀) (h : Kept s w₀ busy d w v)
    (hbusy : ∀ e ∈ busy, d < e) (hp : p ∈ s.below d) (hstart : (w₀.dev d).active = 0)
    (hdeps : Deps v d (some p)) (hlink : (v.dev d).link = false) {n : ℤ} (hn : n < 0)
    (hr : call (.release (.dep d p)) v = some r) : Raised s w₀ busy d w (n, r.2) := by
  have hfree : d ∉ busy := fun hmem => (hbusy d hmem).false
  have hrelease := h.released hcall h₀ hbusy hp hstart hr
  apply (h.release hfree hrelease).failed hn (hrelease.frame.deps_release hdeps)
  exact (hrelease.frame.dev d (Set.mem_insert d busy)).link.trans hlink

theorem Deps.holds (h : Deps w d none) (hnone : ∀ e, needs s (w.dev d) d e = false) :
    Holds s w d := by
  intro e
  rw [h e, hnone e]
  rfl

theorem stackedSetUp_spec (hcall : Works s w₀ call) (h₀ : Grounded s w₀)
    (h : Rising s w₀ busy d w) (hkind : (s.kind d).follows = true) (hp : s.base d = some p)
    (hr : stackedSetUp k call d p w = some r) : Raised s w₀ busy d w r := by
  have hfree : d ∉ busy := fun hmem => (h.above d hmem).false
  have hsimple := not_simple_of_follows hkind
  have hbelow := base_mem hp
  have hneeds := needs_of_follows hkind hp
  obtain ⟨⟨n, v⟩, hq, hr⟩ := Option.bind_eq_some_iff.mp hr
  have hclaim := (Kept.refl h.good).claimed hcall h.above hbelow (by simp [hneeds]) h.awake
    (h.bare.1 p) hq
  have hkept := (Kept.refl h.good).claim hfree hclaim
  obtain ⟨hdeps, hlink⟩ := h.bare.claim hclaim
  have hnonpos : n ≤ 0 := hclaim.nonpos
  dsimp only at hr hkept hdeps hlink
  by_cases hneg : n < 0
  · rw [if_pos hneg] at hr
    obtain rfl := Option.some.inj hr
    rw [if_neg hneg.ne] at hdeps
    exact hkept.failed hneg hdeps hlink
  rw [if_neg hneg] at hr
  rw [if_pos (by omega)] at hdeps
  rcases systemLinkAdd_cases k d v with hadd | ⟨hadd, hsnd⟩
  · rw [hadd, if_neg (by simp)] at hr
    have hlinked := hkept.ask.setLink hfree h.start hsimple true
    rcases setDeviceState_cases k d (v.ask.setLink d true) with hup | hup
    · rw [hup, if_neg (by simp)] at hr
      obtain rfl := Option.some.inj hr
      apply hlinked.ask.done h.internal
      exact fun e => (hdeps e).trans (hneeds _ e).symm
    · rw [hup, if_pos (by simp)] at hr
      obtain ⟨q, hq, hr⟩ := Option.bind_eq_some_iff.mp hr
      obtain rfl := Option.some.inj hr
      exact (hlinked.ask.setLink hfree h.start hsimple false).giveUp hcall h₀ h.above hbelow
        h.start hdeps (setLink_link ..) (by simp) hq
  · rw [if_pos hadd, hsnd] at hr
    obtain ⟨q, hq, hr⟩ := Option.bind_eq_some_iff.mp hr
    obtain rfl := Option.some.inj hr
    exact hkept.ask.giveUp hcall h₀ h.above hbelow h.start hdeps hlink hadd hq

/-- In a guarded run the link of a VLAN is only there when the VLAN is up. -/
theorem vlanSetUp_spec (hcall : Works s w₀ call) (h₀ : Grounded s w₀)
    (h : Rising s w₀ busy d w) (hkind : (s.kind d).follows = true) (hp : s.base d = some p)
    (hr : vlanSetUp k true call d p w = some r) : Raised s w₀ busy d w r := by
  have hfree : d ∉ busy := fun hmem => (h.above d hmem).false
  have hsimple := not_simple_of_follows hkind
  have hbelow := base_mem hp
  have hneeds := needs_of_follows hkind hp
  obtain ⟨⟨n, v⟩, hq, hr⟩ := Option.bind_eq_some_iff.mp hr
  have hclaim := (Kept.refl h.good).claimed hcall h.above hbelow (by simp [hneeds]) h.awake
    (h.bare.1 p) hq
  have hkept := (Kept.refl h.good).claim hfree hclaim
  obtain ⟨hdeps, hlink⟩ := h.bare.claim hclaim
  have hnonpos : n ≤ 0 := hclaim.nonpos
  dsimp only at hr hkept hdeps hlink
  by_cases hneg : n < 0
  · rw [if_pos hneg] at hr
    obtain rfl := Option.some.inj hr
    rw [if_neg hneg.ne] at hdeps
    exact hkept.failed hneg hdeps hlink
  rw [if_neg hneg] at hr
  rw [if_pos (by omega)] at hdeps
  have hdone {t : World} (ht : Kept s w₀ busy d w t) (hclaimed : t.claimed = v.claimed) :
      Raised s w₀ busy d w (0, t) := by
    apply ht.done h.internal
    intro e
    rw [hclaimed]
    exact (hdeps e).trans (hneeds _ e).symm
  rcases systemLinkAdd_cases k d v with hadd | ⟨hadd, hsnd⟩
  · rw [hadd] at hr
    rcases setDeviceState_cases k d (v.ask.setLink d true) with hup | hup
    · rw [hup, if_neg (by simp)] at hr
      obtain rfl := Option.some.inj hr
      exact hdone (hkept.ask.setLink hfree h.start hsimple true).ask rfl
    · -- the link would stay, but the guard stops here
      rw [hup, if_pos (by simp), if_pos (by simp)] at hr
      cases hr
  · rw [hsnd] at hr
    rcases setDeviceState_cases k d v.ask with hup | hup
    · rw [hup, if_neg (by simp)] at hr
      obtain rfl := Option.some.inj hr
      exact hdone hkept.ask.ask rfl
    · rw [hup, if_pos (by simp), if_neg (by simp [hadd.ne])] at hr
      obtain ⟨q, hq, hr⟩ := Option.bind_eq_some_iff.mp hr
      obtain rfl := Option.some.inj hr
      exact hkept.ask.ask.giveUp hcall h₀ h.above hbelow h.start hdeps hlink (by simp) hq

theorem vethSetUp_spec (h : Rising s w₀ busy d w) (hkind : s.kind d = .veth)
    (hr : vethSetState k d true w = some r) :
    Raised s w₀ busy d w r := by
  have hfree : d ∉ busy := fun hmem => (h.above d hmem).false
  have hsimple : s.kind d ≠ .simple := by simp [hkind]
  have hnone (x : Dev) (e : ℕ) : needs s x d e = false := by simp [needs, hkind]
  have hkept := Kept.refl h.good
  simp only [vethSetState, if_true] at hr
  rcases systemLinkAdd_cases k d w with hadd | ⟨hadd, hsnd⟩
  · rw [hadd, if_neg (by simp)] at hr
    have hlinked := hkept.ask.setLink hfree h.start hsimple true
    rcases setDeviceState_cases k d (w.ask.setLink d true) with hup | hup
    · rw [hup, if_neg (by simp)] at hr
      obtain rfl := Option.some.inj hr
      exact hlinked.ask.done h.internal (Deps.holds h.bare.deps fun e => hnone _ e)
    · rw [hup, if_pos (by simp)] at hr
      obtain rfl := Option.some.inj hr
      exact (hlinked.ask.setLink hfree h.start hsimple false).failed (by simp) h.bare.deps
        (setLink_link ..)
  · rw [if_pos hadd] at hr
    obtain rfl := Option.some.inj hr
    have hfailed := hkept.ask.failed hadd h.bare.deps h.bare.2
    rwa [← hsnd] at hfailed

theorem tunnelSetUp_spec (h : Rising s w₀ busy d w) (hkind : s.kind d = .tunnel)
    (hr : tunnelSetState k d true w = some r) :
    Raised s w₀ busy d w r := by
  have hfree : d ∉ busy := fun hmem => (h.above d hmem).false
  have hsimple : s.kind d ≠ .simple := by simp [hkind]
  have hnone (x : Dev) (e : ℕ) : needs s x d e = false := by simp [needs, hkind]
  have hkept := Kept.refl h.good
  simp only [tunnelSetState, if_true, Bool.not_true, Bool.false_eq_true, or_false] at hr
  rcases systemLinkAdd_cases k d w with hadd | ⟨hadd, hsnd⟩
  · rw [hadd, if_neg (by simp)] at hr
    have hlinked := hkept.ask.setLink hfree h.start hsimple true
    rcases setDeviceState_cases k d (w.ask.setLink d true) with hup | hup
    · rw [hup, if_neg (by simp)] at hr
      obtain rfl := Option.some.inj hr
      exact hlinked.ask.done h.internal (Deps.holds h.bare.deps fun e => hnone _ e)
    · rw [hup, if_pos (by simp)] at hr
      obtain rfl := Option.some.inj hr
      exact (hlinked.ask.setLink hfree h.start hsimple false).failed (by simp) h.bare.deps
        (setLink_link ..)
  · rw [if_pos hadd.ne] at hr
    obtain rfl := Option.some.inj hr
    have hfailed := hkept.ask.failed hadd h.bare.deps h.bare.2
    rwa [← hsnd] at hfailed

theorem Kept.attach (h : Kept s w₀ busy d w v) (hfree : d ∉ busy)
    (h₀ : (w₀.dev d).active = 0) : Kept s w₀ busy d w (v.attach d) where
  good := h.good.modify (Set.mem_insert d busy) h₀ rfl
    ((h.good.sound.ports d).of_agree (World.map_dev_self ..) (fun _ => rfl) rfl rfl rfl rfl)
  frame := h.frame.trans (frame_map v _ hfree)
  active := by
    rw [World.attach, World.map_dev_self]
    exact h.active

theorem Kept.awake (h : Kept s w₀ busy d w v) (hawake : Awake s (insert d busy) w)
    (hneeds : ∀ e, v.claimed (.dep d e) = true → needs s (v.dev d) d e = true) :
    Awake s (insert d busy) v := by
  intro b hb
  rcases Set.mem_insert_iff.mp hb with rfl | hmem
  · exact ⟨by rw [h.active]; exact (hawake b hb).1, hneeds⟩
  · have hbusy : Awake s busy w := fun e he => hawake e (Set.mem_insert_of_mem d he)
    exact h.frame.awake hbusy b hmem

theorem findParent_spec (h : Rising s w₀ busy d w) :
    Kept s w₀ busy d w (findParent s k d true w) ∧ Bare (findParent s k d true w) d := by
  have hfree : d ∉ busy := fun hmem => (h.above d hmem).false
  have hkept := Kept.refl h.good
  rw [findParent]
  split
  · rw [systemIfGetParent]
    split
    · refine ⟨hkept.ask.attach hfree h.start, h.bare.1, ?_⟩
      rw [World.attach, World.map_dev_self]
      exact h.bare.2
    · exact ⟨hkept.ask, h.bare⟩
  · exact ⟨hkept, h.bare⟩

theorem needs_simple (hkind : s.kind d = .simple) (w : World) (e : ℕ) :
    needs s (w.dev d) d e = decide (pdev s d w = some e) := by
  rw [needs, hkind, pdev]
  cases (w.dev d).attached <;> simp

theorem pdev_mem (hp : pdev s d w = some p) : p ∈ s.below d := by
  rw [pdev] at hp
  split at hp
  · exact base_mem hp
  · cases hp

/-- In a guarded run a simple device that holds the one below comes up. -/
theorem simpleSetUp_spec (hcall : Works s w₀ call) (h : Rising s w₀ busy d w)
    (hkind : s.kind d = .simple)
    (hr : simpleDeviceSetState s k true call d true w = some r) : Raised s w₀ busy d w r := by
  have hfree : d ∉ busy := fun hmem => (h.above d hmem).false
  obtain ⟨hkept, hbare⟩ := findParent_spec (k := k) h
  rw [simpleDeviceSetState] at hr
  generalize findParent s k d true w = v at hr hkept hbare
  dsimp only at hr
  cases hp : pdev s d v with
  | none =>
    simp only [hp, Option.some.injEq] at hr
    subst hr
    have hnone (e : ℕ) : needs s (v.dev d) d e = false := by simp [needs_simple hkind, hp]
    rcases setDeviceState_cases k d v with hup | hup
    · rw [hup]
      exact hkept.ask.done h.internal (Deps.holds hbare.deps hnone)
    · rw [hup]
      exact hkept.ask.failed (by simp) hbare.deps hbare.2
  | some p =>
    have hbelow := pdev_mem hp
    simp only [hp, if_true] at hr
    obtain ⟨⟨n, t⟩, hq, hr⟩ := Option.bind_eq_some_iff.mp hr
    have hawake : Awake s (insert d busy) v := hkept.awake h.awake fun e he => by
      rw [hbare.1 e] at he
      cases he
    have hclaim := hkept.claimed hcall h.above hbelow (by simp [needs_simple hkind, hp])
      hawake (hbare.1 p) hq
    have hkept' := hkept.claim hfree hclaim
    obtain ⟨hdeps, hlink⟩ := hbare.claim hclaim
    have hagree := hclaim.frame.dev d (Set.mem_insert d busy)
    have hnonpos : n ≤ 0 := hclaim.nonpos
    dsimp only at hr hkept' hdeps hlink hagree
    by_cases hneg : n < 0
    · rw [if_pos hneg] at hr
      obtain rfl := Option.some.inj hr
      rw [if_neg hneg.ne] at hdeps
      exact hkept'.failed hneg hdeps hlink
    rw [if_neg hneg] at hr
    rw [if_pos (by omega)] at hdeps
    rcases setDeviceState_cases k d t with hup | hup
    · rw [hup, if_neg (by simp)] at hr
      obtain rfl := Option.some.inj hr
      apply hkept'.ask.done h.internal
      intro e
      have hpdev : pdev s d t.ask = some p := by
        have hattached : (t.ask.dev d).attached = (v.dev d).attached := hagree.attached
        rw [← hp, pdev, pdev, hattached]
      rw [needs_simple hkind, hpdev]
      exact hdeps e
    · -- the claim on the parent would stay, but the guard stops here
      rw [hup, if_pos (by simp)] at hr
      cases hr

theorem Kept.letGo (hcall : Works s w₀ call) (h₀ : Grounded s w₀) (h : Kept s w₀ busy d w v)
    (hbusy : ∀ e ∈ busy, d < e) (hp : p ∈ s.below d) (hstart : (w₀.dev d).active = 0)
    (hdeps : Deps v d (some p)) (hlink : (v.dev d).link = false)
    (hr : call (.release (.dep d p)) v = some r) : Lowered s w₀ busy d w r.2 :=
  have hraised := h.giveUp hcall h₀ hbusy hp hstart hdeps hlink (by decide : (-1 : ℤ) < 0) hr
  ⟨hraised.kept, hraised.bare (.inl (by simp))⟩

theorem Holds.deps (h : Holds s w d) (hnone : ∀ e, needs s (w.dev d) d e = false) :
    Deps w d none := by
  intro e
  rw [h e, hnone e]
  rfl

theorem stackedSetDown_spec (hcall : Works s w₀ call) (h₀ : Grounded s w₀)
    (h : Falling s w₀ busy d w) (hkind : (s.kind d).follows = true) (hp : s.base d = some p)
    (hr : stackedSetDown k call d p w = some r) : Lowered s w₀ busy d w r.2 := by
  have hfree : d ∉ busy := fun hmem => (h.above d hmem).false
  have hneeds := needs_of_follows hkind hp
  have hunlinked := (Kept.refl h.good).setLink hfree h.start (not_simple_of_follows hkind) false
  have hdeps : Deps w d (some p) := fun e => (h.holds e).trans (hneeds _ e)
  obtain ⟨q, hq, hr⟩ := Option.bind_eq_some_iff.mp hr
  obtain rfl := Option.some.inj hr
  have hlowered := hunlinked.letGo hcall h₀ h.above (base_mem hp) h.start hdeps
    (setLink_link ..) hq
  exact hlowered

theorem Falling.alone (h : Falling s w₀ busy d w) (hkind : s.kind d ≠ .simple)
    (hnone : ∀ e, needs s (w.dev d) d e = false) :
    Lowered s w₀ busy d w (w.setLink d false) := by
  have hfree : d ∉ busy := fun hmem => (h.above d hmem).false
  have hdeps : Deps (w.setLink d false) d none := h.holds.deps hnone
  exact ⟨(Kept.refl h.good).setLink hfree h.start hkind false, hdeps.bare (setLink_link ..)⟩

theorem simpleSetDown_spec (hcall : Works s w₀ call) (h₀ : Grounded s w₀)
    (h : Falling s w₀ busy d w) (hkind : s.kind d = .simple)
    (hr : simpleDeviceSetState s k true call d false w = some r) :
    Lowered s w₀ busy d w r.2 := by
  have hlink := (h.good.sound.ports d).unlinked hkind
  have hdeps : Deps w d (pdev s d w) := fun e => (h.holds e).trans (needs_simple hkind w e)
  have hfind : findParent s k d false w = w := by simp [findParent]
  rw [simpleDeviceSetState, hfind] at hr
  dsimp only at hr
  cases hp : pdev s d w with
  | none =>
    simp only [hp, Option.some.injEq] at hr
    subst hr
    rw [hp] at hdeps
    exact ⟨Kept.refl h.good, hdeps.bare hlink⟩
  | some p =>
    simp only [hp, Bool.false_eq_true, if_false] at hr
    obtain ⟨q, hq, hr⟩ := Option.bind_eq_some_iff.mp hr
    obtain rfl := Option.some.inj hr
    rw [hp] at hdeps
    have hlowered := (Kept.refl h.good).letGo hcall h₀ h.above (pdev_mem hp) h.start hdeps hlink hq
    exact hlowered

end Callbacks

end Netifd.ClaimAttempts
