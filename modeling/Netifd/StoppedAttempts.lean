import Netifd.StuckDevices

/-!
# Attempts that are stopped

A guarded call that is stopped and the same call without a guard, side by side: the second one
leaves a device behind.
-/

namespace Netifd.ClaimAttempts

/-- Something is left behind of a device in front of `p`. -/
def Behind (s : Stack) (k : ℕ → Kernel) (p : ℕ) (w : World) : Prop :=
  ∃ d < p, Never k d ∧ Left s d w

/-- The two calls return the same, or the second one leaves something behind in front of `p`. -/
def Parts (s : Stack) (k : ℕ → Kernel) (p : ℕ) (w : World) (a a' : Answer) : Prop :=
  ∀ r, a' = some r → Behind s k p r.2 ∨ ¬Behind s k p w ∧ a = some r

/-- Or it leaves something behind of `p` itself. -/
def PartsAt (s : Stack) (k : ℕ → Kernel) (p : ℕ) (w : World) (a a' : Answer) : Prop :=
  ∀ r, a' = some r → Behind s k p r.2 ∨ ¬Behind s k p w ∧ a = some r ∨
    r.1 ≠ 0 ∧ Never k p ∧ Mark s p r.2

/-- Guarded calls and those without a guard that the callbacks of `p` are made of. -/
structure Twin (s : Stack) (k : ℕ → Kernel) (p : ℕ) (call call' : Call → World → Answer) :
    Prop where
  low : Low s p call'
  moving : Moving s call' p fun w v => Behind s k p w → Behind s k p v
  claim : ∀ q w, Parts s k p w (call (.claim (.dep p q)) w) (call' (.claim (.dep p q)) w)
  release : ∀ q w, Parts s k p w (call (.release (.dep p q)) w) (call' (.release (.dep p q)) w)
  present : s.kind p = .bridge → ∀ state w,
    Parts s k p w (call (.setPresent p state) w) (call' (.setPresent p state) w)

section Combine

variable {s : Stack} {k : ℕ → Kernel} {p : ℕ} {w v : World} {a a' e e' : Answer}

theorem Parts.done {q : ℤ × World} (h : Behind s k p w → Behind s k p q.2) :
    Parts s k p w (some q) (some q) := by
  intro r hr
  by_cases hw : Behind s k p w
  · left
    rw [← Option.some.inj hr]
    exact h hw
  · exact .inr ⟨hw, hr⟩

theorem Parts.same (h : Moves (fun w v => Behind s k p w → Behind s k p v) w a) :
    Parts s k p w a a := by
  intro r hr
  by_cases hw : Behind s k p w
  · exact .inl (h r hr hw)
  · exact .inr ⟨hw, hr⟩

theorem Parts.next (hv : Behind s k p w → Behind s k p v) (h : Parts s k p v a a') :
    Parts s k p w a a' :=
  fun r hr => (h r hr).imp_right fun ⟨hnone, ha⟩ => ⟨fun hw => hnone (hv hw), ha⟩

theorem Parts.ite {c : Prop} [Decidable c] (h : Parts s k p w a a') (h' : Parts s k p w e e') :
    Parts s k p w (if c then a else e) (if c then a' else e') := by
  split
  · exact h
  · exact h'

theorem Parts.bind {f f' : ℤ × World → Answer} (h : Parts s k p w a a')
    (hf : ∀ q, Parts s k p q.2 (f q) (f' q)) : Parts s k p w (a >>= f) (a' >>= f') := by
  intro r hr
  obtain ⟨q, hq, hr⟩ := Option.bind_eq_some_iff.mp hr
  refine (hf q r hr).imp_right fun ⟨hnone, hfq⟩ => ?_
  obtain ⟨hw, ha⟩ := (h q hq).resolve_left hnone
  exact ⟨hw, Option.bind_eq_some_iff.mpr ⟨q, ha, hfq⟩⟩

theorem Parts.at (h : Parts s k p w a a') : PartsAt s k p w a a' :=
  fun r hr => (h r hr).imp_right .inl

theorem PartsAt.next (hv : Behind s k p w → Behind s k p v) (h : PartsAt s k p v a a') :
    PartsAt s k p w a a' :=
  fun r hr => (h r hr).imp_right fun h => h.imp_left fun ⟨hnone, ha⟩ =>
    ⟨fun hw => hnone (hv hw), ha⟩

theorem PartsAt.ite {c : Prop} [Decidable c] (h : c → PartsAt s k p w a a')
    (h' : ¬c → PartsAt s k p w e e') :
    PartsAt s k p w (if c then a else e) (if c then a' else e') := by
  split
  · rename_i hc
    exact h hc
  · rename_i hc
    exact h' hc

theorem Parts.bindAt {f f' : ℤ × World → Answer} (h : Parts s k p w a a')
    (hf : ∀ q, a' = some q → PartsAt s k p q.2 (f q) (f' q)) :
    PartsAt s k p w (a >>= f) (a' >>= f') := by
  intro r hr
  obtain ⟨q, hq, hr⟩ := Option.bind_eq_some_iff.mp hr
  refine (hf q hq r hr).imp_right fun hleft => hleft.imp_left fun ⟨hnone, hfq⟩ => ?_
  obtain ⟨hw, ha⟩ := (h q hq).resolve_left hnone
  exact ⟨hw, Option.bind_eq_some_iff.mpr ⟨q, ha, hfq⟩⟩

theorem Parts.forEach {α : Type} {f f' : World → α → Answer}
    (h : ∀ v x, Parts s k p v (f v x) (f' v x)) (xs : List α) (w : World) :
    Parts s k p w (forEach f xs w) (forEach f' xs w) := by
  induction xs generalizing w with
  | nil => exact .done fun hw => hw
  | cons x xs ih => exact (h w x).bind fun q => ih q.2

theorem Parts.whenever {c : Prop} [Decidable c] {f f' : World → Answer}
    (h : Parts s k p w (f w) (f' w)) : Parts s k p w (whenever c f w) (whenever c f' w) :=
  h.ite (.done fun hw => hw)

end Combine

namespace Twin

variable {s : Stack} {k : ℕ → Kernel} {p : ℕ} {call call' : Call → World → Answer} {w : World}
  (h : Twin s k p call call')

theorem never (hsteady : Steady k) (hfailed : (setDeviceState k p true w).1 ≠ 0) : Never k p := by
  intro t
  apply hsteady w.asked t p
  by_contra hne
  simp [setDeviceState, hne] at hfailed

include h

theorem simpleUp (hsteady : Steady k) (hkind : s.kind p = .simple) (w : World) :
    PartsAt s k p w (simpleDeviceSetState s k true call p true w)
      (simpleDeviceSetState s k false call' p true w) := by
  rw [simpleDeviceSetState, simpleDeviceSetState]
  refine .next (h.moving.findParent k true w) ?_
  dsimp only
  cases pdev s p (findParent s k p true w) with
  | none => exact (Parts.done (h.moving.deviceState k true _)).at
  | some q =>
    refine (h.claim q _).bindAt fun t ht =>
      .ite (fun _ => (Parts.done fun hw => hw).at) fun hclaimed => ?_
    intro r hr
    rw [if_neg (by simp)] at hr
    by_cases hup : (setDeviceState k p true t.2).1 = 0
    · rw [if_neg (by simp [hup])]
      exact (Parts.done (h.moving.deviceState k true _)).at r hr
    · obtain rfl := Option.some.inj hr
      have hmade := (h.low.made q _ t ht).resolve_left hclaimed
      exact .inr (.inr ⟨hup, never hsteady hup, .inr ⟨hkind, q, hmade⟩⟩)

theorem simpleDown (w : World) :
    Parts s k p w (simpleDeviceSetState s k true call p false w)
      (simpleDeviceSetState s k false call' p false w) := by
  rw [simpleDeviceSetState, simpleDeviceSetState]
  refine .next (h.moving.findParent k false w) ?_
  dsimp only
  cases pdev s p (findParent s k p false w) with
  | none => exact .done (h.moving.deviceState k false _)
  | some q => exact (h.release q _).bind fun _ => .done fun hw => hw

theorem linkUp (w : World) (hw : Behind s k p w) :
    Behind s k p (setDeviceState k p true (systemLinkAdd k p w).2).2 :=
  h.moving.deviceState k true _ (h.moving.linkAdd k w hw)

theorem vlanUp (hsteady : Steady k) (hkind : s.kind p = .vlan) (q : ℕ) (w : World) :
    PartsAt s k p w (vlanSetUp k true call p q w) (vlanSetUp k false call' p q w) := by
  refine (h.claim q w).bindAt fun t _ => .ite (fun _ => (Parts.done fun hw => hw).at) fun _ => ?_
  refine .ite (fun hup => ?_) fun _ => (Parts.done (h.linkUp t.2)).at
  by_cases hadd : (systemLinkAdd k p t.2).1 = 0
  · intro r hr
    rw [if_neg (by simp)] at hr
    obtain ⟨v, hv, hr⟩ := Option.bind_eq_some_iff.mp hr
    have hkept := (h.low.release _ _ (fun x hx => dev_dep_lt hx) v hv).1
    obtain rfl := Option.some.inj hr
    refine .inr (.inr ⟨hup, never hsteady hup, .inl ⟨hkind, hkept.trans ?_⟩⟩)
    rcases systemLinkAdd_cases k p t.2 with hmade | ⟨hneg, -⟩
    · rw [hmade]
      exact setLink_link ..
    · omega
  · rw [if_neg (by simp [hadd]), if_neg (by simp)]
    refine Parts.at (.next (h.linkUp t.2) ((h.release q _).bind fun _ => ?_))
    exact .done fun hw => hw

theorem stackedUp (q : ℕ) (w : World) :
    Parts s k p w (stackedSetUp k call p q w) (stackedSetUp k call' p q w) := by
  refine (h.claim q w).bind fun t => .ite (.done fun hw => hw) (.ite ?_ (.ite ?_ ?_))
  · exact .next (h.moving.linkAdd k t.2) ((h.release q _).bind fun _ => .done fun hw => hw)
  · exact .next (fun hw => h.moving.setLink false _ (h.linkUp t.2 hw))
      ((h.release q _).bind fun _ => .done fun hw => hw)
  · exact .done (h.linkUp t.2)

theorem stackedDown (q : ℕ) (w : World) :
    Parts s k p w (stackedSetDown k call p q w) (stackedSetDown k call' p q w) :=
  .next (h.moving.setLink false w) ((h.release q _).bind fun _ => .done fun hw => hw)

theorem stackedSetStateUp (hsteady : Steady k) (w : World) :
    PartsAt s k p w (stackedSetState s k true call p true w)
      (stackedSetState s k false call' p true w) := by
  rw [stackedSetState, stackedSetState]
  cases s.base p with
  | none => exact (Parts.done fun hw => hw).at
  | some q =>
    exact .ite (fun _ => .ite (fun hkind => h.vlanUp hsteady hkind q w) fun _ =>
      (h.stackedUp q w).at) fun hdown => absurd rfl hdown

theorem stackedSetStateDown (w : World) :
    Parts s k p w (stackedSetState s k true call p false w)
      (stackedSetState s k false call' p false w) := by
  rw [stackedSetState, stackedSetState]
  cases s.base p with
  | none => exact .done (h.moving.setLink false w)
  | some q => exact h.stackedDown q w

theorem enableMember (hkind : s.kind p = .bridge) (m : ℕ) (w : World) :
    Parts s k p w (bridgeEnableMember k call p m w) (bridgeEnableMember k call' p m w) := by
  have hfailed (n : ℤ) (v : World) :
      Parts s k p v (enableFailed call p m n v) (enableFailed call' p m n v) :=
    .next (h.moving.map v _) ((h.release m _).bind fun _ => .done fun hw => hw)
  refine .ite (.done fun hw => hw) (.next (h.moving.enableInterface k w) (.ite (hfailed _ _) ?_))
  refine (h.claim m _).bind fun t => .ite (hfailed _ _)
    (.next (h.moving.ask t.2) (.ite ?_ (hfailed _ _)))
  exact (h.present hkind true _).bind fun _ => .done fun hw => hw

theorem bridgeDown (w : World) :
    Parts s k p w (bridgeSetDown k call p w) (bridgeSetDown k call' p w) :=
  (Parts.forEach (fun v m => .whenever (.whenever (h.release m v))) _ _).bind fun _ =>
    .done (h.moving.setLink false _)

theorem bridgeUp (hkind : s.kind p = .bridge) (w : World) :
    Parts s k p w (bridgeSetUp k call p w) (bridgeSetUp k call' p w) := by
  have hmembers (v : World) :
      Parts s k p v (bridgeSetUpMembers k call p v) (bridgeSetUpMembers k call' p v) := by
    refine (Parts.forEach (fun t m => .whenever (h.enableMember hkind m t)) _ _).bind fun t => ?_
    refine .ite ?_ (.next (h.moving.deviceState k true t.2) (.ite ?_ (.done fun hw => hw)))
    · exact .next (h.moving.setLink false t.2)
        ((h.present hkind false _).bind fun _ => .done fun hw => hw)
    · exact (h.bridgeDown _).bind fun _ => .done fun hw => hw
  refine .ite (.ite (.done fun hw => hw) (.next (h.moving.enableInterface k w) ?_)) (hmembers w)
  exact .ite (.done fun hw => hw) (hmembers _)

theorem setStateUp (hsteady : Steady k) (w : World) :
    PartsAt s k p w (setState s k true call p true w) (setState s k false call' p true w) := by
  rw [setState, setState]
  cases hkind : s.kind p with
  | simple => exact h.simpleUp hsteady hkind w
  | vlan | macvlan | vlandev => exact h.stackedSetStateUp hsteady w
  | veth => exact (Parts.same (h.moving.vethSetState true w)).at
  | tunnel => exact (Parts.same (h.moving.tunnelSetState true w)).at
  | bridge => exact (h.bridgeUp hkind w).at

theorem setStateDown (w : World) :
    Parts s k p w (setState s k true call p false w) (setState s k false call' p false w) := by
  rw [setState, setState]
  cases s.kind p with
  | simple => exact h.simpleDown w
  | vlan | macvlan | vlandev => exact h.stackedSetStateDown w
  | veth => exact Parts.same (h.moving.vethSetState false w)
  | tunnel => exact Parts.same (h.moving.tunnelSetState false w)
  | bridge => exact h.bridgeDown w

end Twin

section Depth

variable {s : Stack} {k : ℕ → Kernel} {p m : ℕ} {w v : World} {call call' : Call → World → Answer}

theorem Behind.mono (h : Behind s k p w) (hpm : p ≤ m) : Behind s k m w := by
  obtain ⟨d, hd, hleft⟩ := h
  exact ⟨d, by omega, hleft⟩

theorem Behind.recount {u : User} (h : Behind s k p w) (hu : ∀ d e, u = .dep d e → p ≤ d) (b : Bool)
    (n : ℤ) : Behind s k p (w.recount u p b n) := by
  obtain ⟨d, hd, hnever, hleft⟩ := h
  refine ⟨d, hd, hnever, hleft.recount (fun e heq => ?_) (by omega) b n⟩
  have := hu d e heq
  omega

/-- A guarded call does what the one without a guard does, or that one leaves something behind. -/
structure Alike (s : Stack) (k : ℕ → Kernel) (call call' : Call → World → Answer) : Prop where
  claim : ∀ u m w, (∀ p, s.dev u = some p → p < m) → (∀ d e, u = .dep d e → m ≤ d) →
    Parts s k m w (call (.claim u) w) (call' (.claim u) w)
  release : ∀ u m w, (∀ p, s.dev u = some p → p < m) → (∀ d e, u = .dep d e → m ≤ d) →
    Parts s k m w (call (.release u) w) (call' (.release u) w)
  up : ∀ p w, PartsAt s k p w (call (.setState p true) w) (call' (.setState p true) w)
  down : ∀ p w, Parts s k p w (call (.setState p false) w) (call' (.setState p false) w)

theorem exec_moving (hapart : Apart s) (n : ℕ) :
    Moving s (exec s k false n) p fun w v => Behind s k p w → Behind s k p v := by
  have hmoves {d : ℕ} (hd : d < p) (q e : ℕ) : User.dep p q ≠ .dep d e := by
    intro heq
    have := (User.dep.inj heq).1
    omega
  constructor
  · exact fun _ hw => hw
  · exact fun h h' hw => h' (h hw)
  · exact fun _ hw => hw
  · rintro v f ⟨d, hd, hnever, hactive, hmark⟩
    have hdev := World.map_dev v f (Nat.ne_of_lt hd)
    exact ⟨d, hd, hnever, by rwa [hdev], hmark.of_same ⟨by rw [hdev], fun _ => rfl⟩⟩
  · rintro q v r hr ⟨d, hd, hnever, hleft⟩
    exact ⟨d, hd, hnever, (exec_stays hapart hnever n).claim _ v r (hmoves hd q) hleft hr⟩
  · rintro q v r hr ⟨d, hd, hnever, hleft⟩
    exact ⟨d, hd, hnever, (exec_stays hapart hnever n).release _ v r (hmoves hd q) hleft hr⟩
  · rintro hkind state v r hr ⟨d, hd, hnever, hactive, hmark⟩
    obtain ⟨hdev, hclaims⟩ := (setPresent_shown hapart k n (.self hkind) state v).2 r hr
    refine ⟨d, hd, hnever, by rwa [hdev], hmark.of_same ⟨by rw [hdev], fun e => by rw [hclaims]⟩⟩

theorem exec_twin (hapart : Apart s) (n : ℕ) (h : Alike s k (exec s k true n) (exec s k false n))
    (p : ℕ) : Twin s k p (exec s k true n) (exec s k false n) where
  low := exec_low hapart k n p
  moving := exec_moving hapart n
  claim q w := h.claim _ p w (fun _ hx => dev_dep_lt hx) fun _ _ heq =>
    (User.dep.inj heq).1.le
  release q w := h.release _ p w (fun _ hx => dev_dep_lt hx) fun _ _ heq =>
    (User.dep.inj heq).1.le
  present hkind state w := by
    rw [(setPresent_shown hapart k n (.self hkind) state w).1]
    exact Parts.same ((exec_moving hapart n).present hkind state w)

theorem Behind.claimed {u : User} {r : ℤ × World} {n : ℕ} (hapart : Apart s)
    (h : Behind s k m w) (howner : ∀ d e, u = .dep d e → m ≤ d)
    (hr : exec s k false n (.claim u) w = some r) : Behind s k m r.2 := by
  obtain ⟨d, hd, hnever, hleft⟩ := h
  refine ⟨d, hd, hnever, (exec_stays hapart hnever n).claim u w r (fun e heq => ?_) hleft hr⟩
  have := howner d e heq
  omega

theorem Behind.released {u : User} {r : ℤ × World} {n : ℕ} (hapart : Apart s)
    (h : Behind s k m w) (howner : ∀ d e, u = .dep d e → m ≤ d)
    (hr : exec s k false n (.release u) w = some r) : Behind s k m r.2 := by
  obtain ⟨d, hd, hnever, hleft⟩ := h
  refine ⟨d, hd, hnever, (exec_stays hapart hnever n).release u w r (fun e heq => ?_) hleft hr⟩
  have := howner d e heq
  omega

section Step

variable {n : ℕ} (hapart : Apart s) (h : Alike s k (exec s k true n) (exec s k false n)) {u : User}
  (hu : ∀ p, s.dev u = some p → p < m) (howner : ∀ d e, u = .dep d e → m ≤ d)

include hapart h hu howner

theorem deviceClaim_parts (w : World) :
    Parts s k m w (exec s k true (n + 1) (.claim u) w) (exec s k false (n + 1) (.claim u) w) := by
  intro r hr
  by_cases hw : Behind s k m w
  · exact .inl (hw.claimed hapart howner hr)
  rw [exec, body, deviceClaim] at hr
  rw [exec, body, deviceClaim]
  by_cases hheld : w.claimed u = true
  · rw [if_pos hheld] at hr ⊢
    exact .inr ⟨hw, hr⟩
  rw [if_neg hheld] at hr ⊢
  cases hp : s.dev u with
  | none =>
    simp only [hp] at hr
    exact .inr ⟨hw, hr⟩
  | some p =>
    have hpm := hu p hp
    have habove (d e : ℕ) (heq : u = .dep d e) : p ≤ d := hpm.le.trans (howner d e heq)
    have hne (e : ℕ) : u ≠ .dep p e := by
      intro heq
      have := howner p e heq
      omega
    simp only [hp] at hr
    dsimp only
    generalize w.recount u p true ((w.dev p).active + 1) = v at hr ⊢
    by_cases hmore : (v.dev p).active ≠ 1
    · rw [if_pos hmore] at hr ⊢
      exact .inr ⟨hw, hr⟩
    rw [if_neg hmore] at hr ⊢
    obtain ⟨q, hq, hr⟩ := Option.bind_eq_some_iff.mp hr
    have hup : PartsAt s k p v (bringUp s k (exec s k true n) p v)
        (bringUp s k (exec s k false n) p v) :=
      .ite (fun _ => (Parts.done ((exec_moving hapart n).deviceState k true v)).at) fun _ =>
        h.up p v
    rcases hup q hq with hbehind | ⟨-, hsame⟩ | ⟨hfailed, hnever, hmark⟩
    · left
      split at hr
      · rw [← Option.some.inj hr]
        exact hbehind.mono hpm.le
      · rw [← Option.some.inj hr]
        exact (hbehind.recount habove false 0).mono hpm.le
    · exact .inr ⟨hw, Option.bind_eq_some_iff.mpr ⟨q, hsame, hr⟩⟩
    · rw [if_neg hfailed] at hr
      rw [← Option.some.inj hr]
      exact .inl ⟨p, hpm, hnever, hmark.left hne false le_rfl⟩

theorem deviceRelease_parts (w : World) :
    Parts s k m w (exec s k true (n + 1) (.release u) w)
      (exec s k false (n + 1) (.release u) w) := by
  intro r hr
  by_cases hw : Behind s k m w
  · exact .inl (hw.released hapart howner hr)
  rw [exec, body, deviceRelease] at hr
  rw [exec, body, deviceRelease]
  by_cases hheld : w.claimed u = true
  · rw [if_pos hheld] at hr ⊢
    cases hp : s.dev u with
    | none =>
      simp only [hp] at hr
      cases hr
    | some p =>
      simp only [hp] at hr
      dsimp only
      generalize w.recount u p false ((w.dev p).active - 1) = v at hr ⊢
      by_cases hassert : (v.dev p).active < 0
      · rw [if_pos hassert] at hr
        cases hr
      rw [if_neg hassert] at hr ⊢
      by_cases hmore : (v.dev p).active ≠ 0 ∨ s.external p = true
      · rw [if_pos hmore] at hr ⊢
        exact .inr ⟨hw, hr⟩
      rw [if_neg hmore] at hr ⊢
      obtain ⟨q, hq, hr⟩ := Option.bind_eq_some_iff.mp hr
      rcases h.down p v q hq with hbehind | ⟨-, hsame⟩
      · rw [← Option.some.inj hr]
        exact .inl (hbehind.mono (hu p hp).le)
      · exact .inr ⟨hw, Option.bind_eq_some_iff.mpr ⟨q, hsame, hr⟩⟩
  · rw [if_neg hheld] at hr ⊢
    exact .inr ⟨hw, hr⟩

end Step

/-- A call whose guard stops it leaves something behind, by induction on how deep the calls
nest. -/
theorem exec_alike (hapart : Apart s) (hsteady : Steady k) (n : ℕ) :
    Alike s k (exec s k true n) (exec s k false n) := by
  induction n with
  | zero =>
    constructor
    all_goals
      intros
      intro r hr
      cases hr
  | succ n ih =>
    constructor
    · exact fun u m w hu howner => deviceClaim_parts hapart ih hu howner w
    · exact fun u m w hu howner => deviceRelease_parts hapart ih hu howner w
    · exact fun p w => (exec_twin hapart n ih p).setStateUp hsteady w
    · exact fun p w => (exec_twin hapart n ih p).setStateDown w

end Depth

end Netifd.ClaimAttempts
