import Netifd.AttemptCallbacks

/-!
# Bringing up a bridge

The members of a bridge join one after another, and the bridge gives up those that it has if it
cannot be brought up itself.
-/

namespace Netifd.ClaimAttempts

section Bridges

variable {s : Stack} {k : ℕ → Kernel} {w₀ w v t : World} {busy : Set ℕ} {b m : ℕ}
  {call : Call → World → Answer} {r : ℤ × World}

theorem forEach_induct {α : Type} {code : World → α → Answer} {P : List α → World → Prop}
    (xs : List α)
    (hstep : ∀ {done v x r}, x ∈ xs → P done v → code v x = some r → P (x :: done) r.2)
    {done : List α} (hP : P done w) (hr : forEach code xs w = some r) :
    P (xs.reverse ++ done) r.2 := by
  induction xs generalizing done w with
  | nil =>
    obtain rfl := Option.some.inj hr
    exact hP
  | cons x xs ih =>
    obtain ⟨q, hq, hr⟩ := Option.bind_eq_some_iff.mp hr
    rw [List.reverse_cons, List.append_assoc]
    exact ih (fun hx => hstep (List.mem_cons_of_mem x hx)) (hstep List.mem_cons_self hP hq) hr

theorem forEach_keeps {α : Type} {code : World → α → Answer} {P : World → Prop} (xs : List α)
    (hstep : ∀ {v x r}, x ∈ xs → P v → code v x = some r → P r.2) (hP : P w)
    (hr : forEach code xs w = some r) : P r.2 := by
  induction xs generalizing w with
  | nil =>
    obtain rfl := Option.some.inj hr
    exact hP
  | cons x xs ih =>
    obtain ⟨q, hq, hr⟩ := Option.bind_eq_some_iff.mp hr
    exact ih (fun hx => hstep (List.mem_cons_of_mem x hx)) (hstep List.mem_cons_self hP hq) hr

theorem whenever_cases {c : Prop} [Decidable c] {code : World → Answer}
    (hr : whenever c code w = some r) : c ∧ code w = some r ∨ ¬c ∧ r.2 = w := by
  rw [whenever] at hr
  split at hr
  · rename_i hc
    exact .inl ⟨hc, hr⟩
  · rename_i hc
    rw [← Option.some.inj hr]
    exact .inr ⟨hc, rfl⟩

theorem needs_bridge (hkind : s.kind b = .bridge) (x : Dev) (e : ℕ) :
    needs s x b e = x.memPresent e := by
  rw [needs, hkind]

/-- The loop over the members while the bridge is taken down. -/
structure Leaving (s : Stack) (w₀ : World) (busy : Set ℕ) (b : ℕ) (w : World) (xs done : List ℕ)
    (v : World) : Prop where
  kept : Kept s w₀ busy b w v
  needed : ∀ e, v.claimed (.dep b e) = true → (v.dev b).memPresent e = true
  members : (v.dev b).members ⊆ xs
  gone : ∀ m ∈ done, v.claimed (.dep b m) = false

theorem Leaving.step (hcall : Works s w₀ call) (h₀ : Grounded s w₀) (hbusy : ∀ e ∈ busy, b < e)
    (hstart : (w₀.dev b).active = 0) {xs done : List ℕ} (h : Leaving s w₀ busy b w xs done v)
    (hr : whenever (m ∈ (v.dev b).members) (bridgeDisableMember call b m) v = some r) :
    Leaving s w₀ busy b w xs (m :: done) r.2 := by
  have hfree : b ∉ busy := fun hmem => (hbusy b hmem).false
  have hskip (habsent : v.claimed (.dep b m) = false) : Leaving s w₀ busy b w xs (m :: done) v := by
    refine ⟨h.kept, h.needed, h.members, fun e he => ?_⟩
    rcases List.mem_cons.mp he with rfl | he
    · exact habsent
    · exact h.gone e he
  rcases whenever_cases hr with ⟨hmem, hr⟩ | ⟨hmem, hr⟩
  · rcases whenever_cases hr with ⟨hpresent, hr⟩ | ⟨hpresent, hr⟩
    · have hrelease := h.kept.released hcall h₀ hbusy
        ((h.kept.good.sound.ports b).below m hmem) hstart hr
      have hagree := hrelease.frame.dev b (Set.mem_insert b busy)
      have hclaims := hrelease.frame.claimed_mark
      refine ⟨h.kept.release hfree hrelease, ?_, List.Subset.trans hagree.members h.members, ?_⟩
      · intro e he
        rw [hclaims] at he
        split at he
        · cases he
        · rw [hagree.memPresent]
          exact h.needed e he
      · intro e he
        rw [hclaims]
        split
        · rfl
        · rename_i hne
          exact h.gone e ((List.mem_cons.mp he).resolve_left hne)
    · rw [hr]
      apply hskip
      by_contra hclaimed
      exact hpresent (h.needed m (by simpa using hclaimed))
  · rw [hr]
    apply hskip
    by_contra hclaimed
    exact hmem ((h.kept.good.sound.ports b).mem m (h.needed m (by simpa using hclaimed)))

theorem bridgeSetDown_spec (hcall : Works s w₀ call) (h₀ : Grounded s w₀)
    (hbusy : ∀ e ∈ busy, b < e) (hstart : (w₀.dev b).active = 0) (hkind : s.kind b = .bridge)
    (h : Kept s w₀ busy b w v)
    (hneeded : ∀ e, v.claimed (.dep b e) = true → (v.dev b).memPresent e = true)
    (hr : bridgeSetDown k call b v = some r) : Lowered s w₀ busy b w r.2 := by
  have hfree : b ∉ busy := fun hmem => (hbusy b hmem).false
  obtain ⟨q, hq, hr⟩ := Option.bind_eq_some_iff.mp hr
  obtain rfl := Option.some.inj hr
  have hbegin : Leaving s w₀ busy b w (v.dev b).members [] v :=
    ⟨h, hneeded, List.Subset.refl _, fun m hm => absurd hm List.not_mem_nil⟩
  have hleaving := forEach_induct _ (fun _ hP hx => hP.step hcall h₀ hbusy hstart hx) hbegin hq
  have hdeps : Deps (q.2.setLink b false) b none := by
    intro e
    by_contra hclaimed
    have he : q.2.claimed (.dep b e) = true := Bool.eq_true_of_not_eq_false hclaimed
    have hmem : e ∈ (v.dev b).members :=
      hleaving.members ((hleaving.kept.good.sound.ports b).mem e (hleaving.needed e he))
    exact hclaimed (hleaving.gone e (List.mem_append_left _ (List.mem_reverse.mpr hmem)))
  exact ⟨hleaving.kept.setLink hfree hstart (by simp [hkind]) false,
    hdeps.bare (setLink_link ..)⟩

/-- The loop over the members while the bridge is brought up. -/
structure Joining (s : Stack) (w₀ : World) (busy : Set ℕ) (b : ℕ) (w : World) (xs done : List ℕ)
    (v : World) : Prop where
  kept : Kept s w₀ busy b w v
  needed : ∀ e, v.claimed (.dep b e) = true → (v.dev b).memPresent e = true
  members : (v.dev b).members ⊆ xs
  joined : ∀ m ∈ done, (v.dev b).memPresent m = true → v.claimed (.dep b m) = true

section Join

variable {xs done : List ℕ}

theorem Joining.ask (h : Joining s w₀ busy b w xs done v) :
    Joining s w₀ busy b w xs done v.ask :=
  ⟨h.kept.ask, h.needed, h.members, h.joined⟩

theorem Joining.setLink (h : Joining s w₀ busy b w xs done v) (hfree : b ∉ busy)
    (h₀ : (w₀.dev b).active = 0) (hkind : s.kind b = .bridge) (link : Bool) :
    Joining s w₀ busy b w xs done (v.setLink b link) where
  kept := h.kept.setLink hfree h₀ (by simp [hkind]) link
  needed e he := by
    rw [World.setLink, World.map_dev_self]
    exact h.needed e he
  members := by
    rw [World.setLink, World.map_dev_self]
    exact h.members
  joined := by
    rw [World.setLink, World.map_dev_self]
    exact h.joined

theorem Joining.enableInterface (h : Joining s w₀ busy b w xs done v) (hfree : b ∉ busy)
    (h₀ : (w₀.dev b).active = 0) (hkind : s.kind b = .bridge) :
    Joining s w₀ busy b w xs done (bridgeEnableInterface k b v).2 := by
  rw [bridgeEnableInterface]
  split
  · exact h
  · rcases systemLinkAdd_cases k b v with hadd | ⟨-, hsnd⟩
    · rw [hadd]
      exact h.ask.setLink hfree h₀ hkind true
    · rw [hsnd]
      exact h.ask

theorem bridgeEnableInterface_memPresent (k : ℕ → Kernel) (b : ℕ) (v : World) :
    ((bridgeEnableInterface k b v).2.dev b).memPresent = (v.dev b).memPresent := by
  rw [bridgeEnableInterface]
  split
  · rfl
  · rcases systemLinkAdd_cases k b v with hadd | ⟨-, hsnd⟩
    · rw [hadd, World.setLink, World.map_dev_self]
      rfl
    · rw [hsnd]
      rfl

theorem Ports.removePresent (h : Ports s v b) (hm : (v.dev b).memPresent m = true) :
    Ports s (v.removePresent b m) b := by
  have hdev : (v.removePresent b m).dev b = { v.dev b with
      memPresent := Function.update (v.dev b).memPresent m false
      nPresent := (v.dev b).nPresent - 1 } := World.map_dev_self ..
  have hother (e : ℕ) (he : Function.update (v.dev b).memPresent m false e = true) :
      (v.dev b).memPresent e = true := by
    by_cases hem : e = m
    · subst hem
      simp at he
    · rwa [Function.update_of_ne hem] at he
  constructor
  · rw [hdev]
    exact h.unlinked
  · rw [hdev]
    exact h.plain
  · rw [hdev]
    exact h.nodup
  · rw [hdev]
    exact h.below
  · rw [hdev]
    have hself : Function.update (v.dev b).memPresent m false m = false := Function.update_self ..
    have hcount := countP_update h.nodup (h.mem m hm) hself hm
      fun e he => (Function.update_of_ne he _ _).symm
    have hn := h.count
    rw [hcount] at hn
    push_cast at hn
    dsimp only
    omega
  · rw [hdev]
    exact fun e he => h.mem e (hother e he)
  · rw [hdev]
    exact fun e he => h.shown e (hother e he)

theorem Joining.enableFailed (hcall : Works s w₀ call) (h₀ : Grounded s w₀)
    (hrising : Rising s w₀ busy b w) (h : Joining s w₀ busy b w xs done v)
    (hm : (v.dev b).memPresent m = true) {n : ℤ} (hr : enableFailed call b m n v = some r) :
    Joining s w₀ busy b w xs (m :: done) r.2 := by
  have hfree : b ∉ busy := fun hmem => (hrising.above b hmem).false
  have hports := h.kept.good.sound.ports b
  obtain ⟨q, hq, hr⟩ := Option.bind_eq_some_iff.mp hr
  obtain rfl := Option.some.inj hr
  have hdev : (v.removePresent b m).dev b = { v.dev b with
      memPresent := Function.update (v.dev b).memPresent m false
      nPresent := (v.dev b).nPresent - 1 } := World.map_dev_self ..
  have hkept : Kept s w₀ busy b w (v.removePresent b m) := by
    refine ⟨h.kept.good.modify (Set.mem_insert b busy) hrising.start rfl (hports.removePresent hm),
      h.kept.frame.trans (frame_map v _ hfree), ?_⟩
    rw [hdev]
    exact h.kept.active
  have hrelease := hkept.released hcall h₀ hrising.above (hports.below m (hports.mem m hm))
    hrising.start hq
  have hagree := hrelease.frame.dev b (Set.mem_insert b busy)
  have hclaims := hrelease.frame.claimed_mark
  have hpresent : (q.2.dev b).memPresent = Function.update (v.dev b).memPresent m false := by
    have hsame := hagree.memPresent
    rw [World.mark_dev, hdev] at hsame
    exact hsame
  have hmembers : (q.2.dev b).members ⊆ (v.dev b).members := by
    have hsub := hagree.members
    rw [World.mark_dev, hdev] at hsub
    exact hsub
  refine ⟨hkept.release hfree hrelease, ?_, List.Subset.trans hmembers h.members, ?_⟩
  · intro e he
    rw [hclaims] at he
    split at he
    · cases he
    · rename_i hne
      rw [hpresent, Function.update_of_ne hne]
      exact h.needed e he
  · intro e he hpres
    rw [hpresent] at hpres
    have hne : e ≠ m := by
      rintro rfl
      simp at hpres
    rw [Function.update_of_ne hne] at hpres
    rw [hclaims, if_neg hne]
    exact h.joined e ((List.mem_cons.mp he).resolve_left hne) hpres

theorem Joining.claim (hcall : Works s w₀ call) (hrising : Rising s w₀ busy b w)
    (hkind : s.kind b = .bridge) (h : Joining s w₀ busy b w xs done v)
    (hm : (v.dev b).memPresent m = true) (hr : call (.claim (.dep b m)) v = some r) :
    Joining s w₀ busy b w xs done r.2 ∧ r.1 ≤ 0 ∧
      (r.2.dev b).memPresent = (v.dev b).memPresent ∧
      (r.1 = 0 → r.2.claimed (.dep b m) = true) := by
  have hfree : b ∉ busy := fun hmem => (hrising.above b hmem).false
  have hports := h.kept.good.sound.ports b
  by_cases hclaimed : v.claimed (.dep b m) = true
  · obtain rfl := hcall.held hclaimed hr
    exact ⟨h, le_rfl, rfl, fun _ => hclaimed⟩
  have hawake : Awake s (insert b busy) v := h.kept.awake hrising.awake fun e he => by
    rw [needs_bridge hkind]
    exact h.needed e he
  have hclaim := h.kept.claimed hcall hrising.above (hports.below m (hports.mem m hm))
    (by rw [needs_bridge hkind, hm]) hawake (by simpa using hclaimed) hr
  have hagree := hclaim.frame.dev b (Set.mem_insert b busy)
  have hclaims := hclaim.frame.claimed_mark
  refine ⟨⟨h.kept.claim hfree hclaim, ?_, List.Subset.trans hagree.members h.members, ?_⟩,
    hclaim.nonpos, hagree.memPresent, ?_⟩
  · intro e he
    rw [hclaims] at he
    rw [hagree.memPresent, World.mark_dev]
    split at he
    · rename_i hem
      rw [hem, hm]
    · exact h.needed e he
  · intro e he hpres
    rw [hagree.memPresent, World.mark_dev] at hpres
    have hjoined := h.joined e he hpres
    have hne : e ≠ m := by
      rintro rfl
      exact hclaimed hjoined
    rw [hclaims, if_neg hne]
    exact hjoined
  · intro hzero
    rw [hclaims, if_pos rfl, hzero]
    rfl

theorem Joining.add (h : Joining s w₀ busy b w xs done v)
    (hm : (v.dev b).memPresent m = true → v.claimed (.dep b m) = true) :
    Joining s w₀ busy b w xs (m :: done) v := by
  refine ⟨h.kept, h.needed, h.members, fun e he => ?_⟩
  rcases List.mem_cons.mp he with rfl | he
  · exact hm
  · exact h.joined e he

theorem Joining.step (hcall : Works s w₀ call) (h₀ : Grounded s w₀)
    (hrising : Rising s w₀ busy b w) (hkind : s.kind b = .bridge)
    (h : Joining s w₀ busy b w xs done v)
    (hr : whenever (m ∈ (v.dev b).members) (bridgeEnableMember k call b m) v = some r) :
    Joining s w₀ busy b w xs (m :: done) r.2 := by
  have hfree : b ∉ busy := fun hmem => (hrising.above b hmem).false
  rcases whenever_cases hr with ⟨hmem, hr⟩ | ⟨hmem, hr⟩
  swap
  · rw [hr]
    exact h.add fun hm => absurd ((h.kept.good.sound.ports b).mem m hm) hmem
  rw [bridgeEnableMember] at hr
  by_cases hm : (v.dev b).memPresent m = false
  · rw [if_pos hm] at hr
    rw [← Option.some.inj hr]
    exact h.add fun htrue => absurd htrue (by simp [hm])
  rw [if_neg hm] at hr
  have henable := h.enableInterface (k := k) hfree hrising.start hkind
  have hpresent : ((bridgeEnableInterface k b v).2.dev b).memPresent m = true := by
    rw [bridgeEnableInterface_memPresent]
    simpa using hm
  generalize bridgeEnableInterface k b v = enable at hr henable hpresent
  dsimp only at hr
  split at hr
  · exact henable.enableFailed hcall h₀ hrising hpresent hr
  obtain ⟨⟨n, t⟩, hq, hr⟩ := Option.bind_eq_some_iff.mp hr
  obtain ⟨hclaim, hnonpos, hsame, hclaimed⟩ := henable.claim hcall hrising hkind hpresent hq
  rw [← hsame] at hpresent
  dsimp only at hr hclaim hnonpos hpresent hclaimed
  split at hr
  · exact hclaim.enableFailed hcall h₀ hrising hpresent hr
  rename_i hneg
  split at hr
  · obtain ⟨q, hq, hr⟩ := Option.bind_eq_some_iff.mp hr
    -- a bridge with a member that is present has told so already
    have hthere : t.ask.sysPresent b = true :=
      (hclaim.kept.good.sound.ports b).shown m hpresent
    rw [← Option.some.inj hr, hcall.there hthere hq]
    exact hclaim.ask.add fun _ => hclaimed (by omega)
  · exact hclaim.ask.enableFailed hcall h₀ hrising hpresent hr

end Join

theorem Kept.calm (h : Kept s w₀ busy b w v) (hfree : b ∉ busy)
    (hawake : Awake s (insert b busy) v) (hgood : Good s w₀ (insert b busy) t)
    (hcalm : Calm s b v t) : Kept s w₀ busy b w t where
  good := hgood
  frame := by
    apply h.frame.trans
    have hup (e : ℕ) (he : e ∈ busy) : (v.dev e).active ≠ 0 :=
      (hawake e (Set.mem_insert_of_mem b he)).1
    constructor
    · exact fun e he => hcalm.agree e (hup e he)
    · exact fun _ _ _ => congrFun hcalm.claimed _
    · exact fun _ => congrFun hcalm.claimed _
    · intro e he hkind
      apply hcalm.shown e _ hkind (hup e he)
      rintro rfl
      exact hfree he
  active := (hcalm.active b).trans h.active

theorem Ports.none_present (h : Ports s v b) (hn : (v.dev b).nPresent = 0) (m : ℕ) :
    (v.dev b).memPresent m = false := by
  by_contra hm
  have hm' : (v.dev b).memPresent m = true := by simpa using hm
  have hpos : 0 < (v.dev b).members.countP (v.dev b).memPresent :=
    List.countP_pos_iff.mpr ⟨m, h.mem m hm', hm'⟩
  have hcount := h.count
  omega

theorem bridgeSetUpMembers_spec (hcall : Works s w₀ call) (h₀ : Grounded s w₀)
    (hrising : Rising s w₀ busy b w) (hkind : s.kind b = .bridge)
    (h : Joining s w₀ busy b w (v.dev b).members [] v)
    (hr : bridgeSetUpMembers k call b v = some r) : Raised s w₀ busy b w r := by
  have hfree : b ∉ busy := fun hmem => (hrising.above b hmem).false
  have hsimple : s.kind b ≠ .simple := by simp [hkind]
  obtain ⟨⟨n, t⟩, hq, hr⟩ := Option.bind_eq_some_iff.mp hr
  have hjoining := forEach_induct _ (fun _ hP hx => hP.step hcall h₀ hrising hkind hx) h hq
  have hports := hjoining.kept.good.sound.ports b
  dsimp only at hr hjoining hports
  split at hr
  · -- no member is left
    rename_i hnone
    obtain ⟨q, hq, hr⟩ := Option.bind_eq_some_iff.mp hr
    obtain rfl := Option.some.inj hr
    have hempty := hports.none_present hnone.2
    have hclaims (e : ℕ) : t.claimed (.dep b e) = false := by
      by_contra he
      have hpresent := hjoining.needed e (by simpa using he)
      rw [hempty e] at hpresent
      cases hpresent
    have hkept := hjoining.kept.setLink hfree hrising.start hsimple false
    have hawake := hkept.awake hrising.awake fun e he => absurd he (by
      have hfalse : (t.setLink b false).claimed (.dep b e) = false := hclaims e
      simp [hfalse])
    have hpresent (m : ℕ) : ((t.setLink b false).dev b).memPresent m = false := by
      rw [World.setLink, World.map_dev_self]
      exact hempty m
    obtain ⟨hgood, hcalm⟩ := hcall.gone hkept.good hawake hpresent hq
    have hbare : Bare q.2 b := by
      refine ⟨fun e => ?_, ?_⟩
      · rw [hcalm.claimed]
        exact hclaims e
      · rw [hcalm.link]
        exact setLink_link ..
    exact ⟨by simp, hkept.calm hfree hawake hgood hcalm, fun hzero => absurd hzero (by simp),
      fun _ => hbare⟩
  · rcases setDeviceState_cases k b t with hup | hup
    · rw [hup, if_neg (by simp)] at hr
      obtain rfl := Option.some.inj hr
      apply hjoining.kept.ask.done hrising.internal
      intro e
      rw [needs_bridge hkind, Bool.eq_iff_iff]
      constructor
      · exact hjoining.needed e
      · intro hpresent
        have hmem := hjoining.members (hports.mem e hpresent)
        exact hjoining.joined e (List.mem_append_left _ (List.mem_reverse.mpr hmem)) hpresent
    · rw [hup, if_pos (by simp)] at hr
      obtain ⟨q, hq, hr⟩ := Option.bind_eq_some_iff.mp hr
      obtain rfl := Option.some.inj hr
      have hlowered := bridgeSetDown_spec hcall h₀ hrising.above hrising.start hkind
        hjoining.kept.ask hjoining.needed hq
      exact ⟨by simp, hlowered.kept, fun hzero => absurd hzero (by simp), fun _ => hlowered.bare⟩

theorem bridgeSetUp_spec (hcall : Works s w₀ call) (h₀ : Grounded s w₀)
    (hrising : Rising s w₀ busy b w) (hkind : s.kind b = .bridge)
    (hr : bridgeSetUp k call b w = some r) : Raised s w₀ busy b w r := by
  have hfree : b ∉ busy := fun hmem => (hrising.above b hmem).false
  have hbegin : Joining s w₀ busy b w (w.dev b).members [] w := by
    refine ⟨Kept.refl hrising.good, fun e he => ?_, List.Subset.refl _,
      fun m hm => absurd hm List.not_mem_nil⟩
    rw [hrising.bare.1 e] at he
    cases he
  rw [bridgeSetUp] at hr
  split at hr
  · split at hr
    · obtain rfl := Option.some.inj hr
      exact (Kept.refl hrising.good).failed (by simp) hrising.bare.deps hrising.bare.2
    · have henable := hbegin.enableInterface (k := k) hfree hrising.start hkind
      dsimp only at hr
      split at hr
      · rename_i hfailed
        obtain rfl := Option.some.inj hr
        rw [bridgeEnableInterface, if_neg (by simp [hrising.bare.2])] at hfailed ⊢
        rcases systemLinkAdd_cases k b w with hadd | ⟨hadd, hsnd⟩
        · rw [hadd] at hfailed
          exact absurd rfl hfailed
        · have hraised := (Kept.refl hrising.good).ask.failed hadd hrising.bare.deps hrising.bare.2
          rwa [← hsnd] at hraised
      · exact bridgeSetUpMembers_spec hcall h₀ hrising hkind
          ⟨henable.kept, henable.needed, List.Subset.refl _, henable.joined⟩ hr
  · exact bridgeSetUpMembers_spec hcall h₀ hrising hkind hbegin hr

/-- Every callback brings its device up, or leaves nothing behind. -/
theorem setState_up (hcall : Works s w₀ call) (h₀ : Grounded s w₀) (h : Rising s w₀ busy b w)
    (hr : setState s k true call b true w = some r) : Raised s w₀ busy b w r := by
  have hstacked (hkind : (s.kind b).follows = true)
      (hr : stackedSetState s k true call b true w = some r) : Raised s w₀ busy b w r := by
    rw [stackedSetState] at hr
    cases hp : s.base b with
    | none =>
      simp only [hp, if_true, Option.some.injEq] at hr
      subst hr
      exact (Kept.refl h.good).failed (by simp) h.bare.deps h.bare.2
    | some p =>
      simp only [hp, if_true] at hr
      split at hr
      · exact vlanSetUp_spec hcall h₀ h hkind hp hr
      · exact stackedSetUp_spec hcall h₀ h hkind hp hr
  rw [setState] at hr
  cases hkind : s.kind b with
  | simple =>
    rw [hkind] at hr
    exact simpleSetUp_spec hcall h hkind hr
  | vlan | macvlan | vlandev =>
    rw [hkind] at hr
    exact hstacked (by rw [hkind]; rfl) hr
  | veth =>
    rw [hkind] at hr
    exact vethSetUp_spec h hkind hr
  | tunnel =>
    rw [hkind] at hr
    exact tunnelSetUp_spec h hkind hr
  | bridge =>
    rw [hkind] at hr
    exact bridgeSetUp_spec hcall h₀ h hkind hr

theorem setState_down (hcall : Works s w₀ call) (h₀ : Grounded s w₀) (h : Falling s w₀ busy b w)
    (hr : setState s k true call b false w = some r) : Lowered s w₀ busy b w r.2 := by
  have hstacked (hkind : (s.kind b).follows = true)
      (hr : stackedSetState s k true call b false w = some r) : Lowered s w₀ busy b w r.2 := by
    rw [stackedSetState] at hr
    cases hp : s.base b with
    | none =>
      simp only [hp, Bool.false_eq_true, if_false, Option.some.injEq] at hr
      subst hr
      apply h.alone (not_simple_of_follows hkind)
      intro e
      simp [needs_follows hkind, hp]
    | some p =>
      simp only [hp, Bool.false_eq_true, if_false] at hr
      exact stackedSetDown_spec hcall h₀ h hkind hp hr
  rw [setState] at hr
  cases hkind : s.kind b with
  | simple =>
    rw [hkind] at hr
    exact simpleSetDown_spec hcall h₀ h hkind hr
  | vlan | macvlan | vlandev =>
    rw [hkind] at hr
    exact hstacked (by rw [hkind]; rfl) hr
  | veth =>
    rw [hkind] at hr
    obtain rfl := Option.some.inj hr
    exact h.alone (by simp [hkind]) fun e => by simp [needs, hkind]
  | tunnel =>
    rw [hkind] at hr
    obtain rfl := Option.some.inj hr
    exact h.alone (by simp [hkind]) fun e => by simp [needs, hkind]
  | bridge =>
    rw [hkind] at hr
    exact bridgeSetDown_spec hcall h₀ h.above h.start hkind (Kept.refl h.good)
      (fun e he => by rwa [h.holds e, needs_bridge hkind] at he) hr

end Bridges

end Netifd.ClaimAttempts
