import Netifd.AttemptBridges
import Netifd.AttemptSteps
import Mathlib.Logic.Relation

/-!
# Devices that are left behind

Where no bridge is on another one, a device that was left behind stays so to the end of the claim:
its index is not resolved, so that it does not come up and is not taken down.
-/

namespace Netifd.ClaimAttempts

/-- A bridge is the device or below it. -/
def HasBridge (s : Stack) (e : ℕ) : Prop :=
  ∃ b, s.kind b = .bridge ∧ Relation.ReflTransGen (fun x y => x ∈ s.below y) b e

/-- No bridge is on another one. -/
def Apart (s : Stack) : Prop := ∀ b e, s.kind b = .bridge → e ∈ s.below b → ¬HasBridge s e

/-- Whether the kernel resolves the index of a device does not change. -/
def Steady (k : ℕ → Kernel) : Prop := ∀ t t' d, (k t).ifindex d = 0 → (k t').ifindex d = 0

section Presence

variable {s : Stack} {k : ℕ → Kernel} {w v : World} {call call' : Call → World → Answer}
  {d e : ℕ} {r : ℤ × World}

theorem HasBridge.up (h : HasBridge s d) (hd : d ∈ s.below e) : HasBridge s e := by
  obtain ⟨b, hb, hpath⟩ := h
  exact ⟨b, hb, hpath.tail hd⟩

theorem HasBridge.self (h : s.kind d = .bridge) : HasBridge s d := ⟨d, h, .refl⟩

theorem forEach_congr {α : Type} {f f' : World → α → Answer} (xs : List α)
    (h : ∀ x ∈ xs, ∀ v, f v x = f' v x) (v : World) : forEach f xs v = forEach f' xs v := by
  induction xs generalizing v with
  | nil => rfl
  | cons x xs ih =>
    rw [forEach, forEach, h x List.mem_cons_self v]
    exact congrArg _ (funext fun q => ih (fun y hy => h y (List.mem_cons_of_mem x hy)) q.2)

/-- Nothing but which devices are there has changed. -/
def Shown (w v : World) : Prop := v.dev = w.dev ∧ v.claimed = w.claimed

/-- Where no bridge is on another one, what a bridge tells changes only which devices are there,
and reaches no guard. -/
theorem setPresent_shown (hapart : Apart s) (k : ℕ → Kernel) (n : ℕ) {d : ℕ} (h : HasBridge s d)
    (state : Bool) (w : World) :
    exec s k true n (.setPresent d state) w = exec s k false n (.setPresent d state) w ∧
      ∀ r, exec s k false n (.setPresent d state) w = some r → Shown w r.2 := by
  induction n generalizing d state w with
  | zero => exact ⟨rfl, fun r hr => by cases hr⟩
  | succ n ih =>
    have hcb (add : Bool) (u : User) (hu : u ∈ s.users d) (v : World) :
        deviceBroadcastCb s k true (exec s k true n) add v u =
            deviceBroadcastCb s k false (exec s k false n) add v u ∧
          ∀ r, deviceBroadcastCb s k false (exec s k false n) add v u = some r →
            Shown v r.2 := by
      cases u with
      | other i =>
        refine ⟨rfl, fun r hr => ?_⟩
        rw [← Option.some.inj hr]
        exact ⟨rfl, rfl⟩
      | dep b x =>
        obtain ⟨rfl, hbelow⟩ := (s.dep_mem b d x).mp hu
        have hkind : s.kind b ≠ .bridge := fun hb => hapart b x hb hbelow h
        rw [deviceBroadcastCb, deviceBroadcastCb, if_neg hkind, if_neg hkind, whenever, whenever]
        split
        · exact ih (h.up hbelow) add v
        · refine ⟨rfl, fun r hr => ?_⟩
          rw [← Option.some.inj hr]
          exact ⟨rfl, rfl⟩
    constructor
    · have heach (add : Bool) (v : World) :
          forEach (deviceBroadcastCb s k true (exec s k true n) add) (s.users d) v =
            forEach (deviceBroadcastCb s k false (exec s k false n) add) (s.users d) v :=
        forEach_congr _ (fun u hu v => (hcb add u hu v).1) v
      rw [exec, exec, body, body, deviceSetPresent, deviceSetPresent]
      simp only [heach]
    · intro r hr
      rw [exec, body, deviceSetPresent] at hr
      split at hr
      · rw [← Option.some.inj hr]
        exact ⟨rfl, rfl⟩
      dsimp only at hr
      split at hr
      · rw [← Option.some.inj hr]
        exact ⟨rfl, rfl⟩
      refine forEach_keeps (P := Shown w) _ (fun {v u q} hu hP hstep => ?_) ?_ hr
      · have hshown := (hcb _ u hu v).2 q hstep
        exact ⟨hshown.1.trans hP.1, hshown.2.trans hP.2⟩
      · exact ⟨rfl, rfl⟩

end Presence

/-- The link of the device and its claims, but one, are as before. -/
def SameBut (d : ℕ) (u : User) (w v : World) : Prop :=
  (v.dev d).link = (w.dev d).link ∧
    ∀ e, User.dep d e ≠ u → v.claimed (.dep d e) = w.claimed (.dep d e)

def SameAt (d : ℕ) (w v : World) : Prop :=
  (v.dev d).link = (w.dev d).link ∧ ∀ e, v.claimed (.dep d e) = w.claimed (.dep d e)

/-- What calls for devices in front of `d` leave alone. -/
structure Low (s : Stack) (d : ℕ) (call : Call → World → Answer) : Prop where
  claim : ∀ u w, (∀ p, s.dev u = some p → p < d) → Moves (SameBut d u) w (call (.claim u) w)
  release : ∀ u w, (∀ p, s.dev u = some p → p < d) → Moves (SameBut d u) w (call (.release u) w)
  state : ∀ p state w, p < d → Moves (SameAt d) w (call (.setState p state) w)
  held : ∀ u w r, w.claimed u = true → call (.claim u) w = some r → r = (0, w)
  made : ∀ q w r, call (.claim (.dep d q)) w = some r → r.1 < 0 ∨ r.2.claimed (.dep d q) = true

section LowCalls

variable {s : Stack} {k : ℕ → Kernel} {d : ℕ}

theorem sameBut_recount (w : World) (u : User) (p : ℕ) (b : Bool) (n : ℤ) :
    SameBut d u w (w.recount u p b n) :=
  ⟨recount_link w u p b n, fun _ he => recount_claimed w p b n he⟩

theorem SameBut.trans {u : User} {w v t : World} (h : SameBut d u w v) (h' : SameBut d u v t) :
    SameBut d u w t :=
  ⟨h'.1.trans h.1, fun e he => (h'.2 e he).trans (h.2 e he)⟩

theorem SameAt.but {w v : World} (h : SameAt d w v) (u : User) : SameBut d u w v :=
  ⟨h.1, fun e _ => h.2 e⟩

section Users

variable {call : Call → World → Answer} {u : User} {R : World → World → Prop}
  (hrefl : ∀ v, R v v) (htrans : ∀ w v t, R w v → R v t → R w t)
  (hrecount : ∀ v p b n, s.dev u = some p → R v (v.recount u p b n))

include hrefl htrans hrecount

theorem deviceClaim_moves (hask : ∀ v, R v v.ask)
    (hstate : ∀ p, s.dev u = some p → ∀ v, Moves R v (call (.setState p true) v)) (w : World) :
    Moves R w (deviceClaim s k call u w) := by
  rw [deviceClaim]
  refine Moving.ite (Moving.done (hrefl w)) ?_
  cases hp : s.dev u with
  | none => exact Moving.done (hrefl w)
  | some p =>
    have hclaimed := hrecount w p true ((w.dev p).active + 1) hp
    refine Moving.ite (Moving.done hclaimed) ?_
    intro r hr
    obtain ⟨⟨n, t⟩, hq, hr⟩ := Option.bind_eq_some_iff.mp hr
    have hup : R (w.recount u p true ((w.dev p).active + 1)) t := by
      rw [bringUp] at hq
      split at hq
      · obtain ⟨-, rfl⟩ := Prod.mk.inj (Option.some.inj hq)
        exact hask _
      · exact hstate p hp _ _ hq
    dsimp only at hr
    split at hr
    · rw [← Option.some.inj hr]
      exact htrans _ _ _ hclaimed hup
    · rw [← Option.some.inj hr]
      exact htrans _ _ _ (htrans _ _ _ hclaimed hup) (hrecount t p false 0 hp)

theorem deviceRelease_moves
    (hstate : ∀ p, s.dev u = some p → ∀ v, Moves R v (call (.setState p false) v)) (w : World) :
    Moves R w (deviceRelease s call u w) := by
  rw [deviceRelease]
  refine Moving.ite ?_ (Moving.done (hrefl w))
  cases hp : s.dev u with
  | none =>
    intro r hr
    cases hr
  | some p =>
    have hreleased := hrecount w p false ((w.dev p).active - 1) hp
    refine Moving.stop (Moving.ite (Moving.done hreleased) ?_)
    intro r hr
    obtain ⟨q, hq, hr⟩ := Option.bind_eq_some_iff.mp hr
    rw [← Option.some.inj hr]
    exact htrans _ _ _ hreleased (hstate p hp _ q hq)

end Users

theorem dev_dep_lt {p q x : ℕ} (hx : s.dev (.dep p q) = some x) : x < p := by
  rw [Stack.dev] at hx
  split at hx
  · rename_i hq
    rw [← Option.some.inj hx]
    exact s.below_lt p q hq
  · cases hx

theorem exec_low (hapart : Apart s) (k : ℕ → Kernel) (n d : ℕ) :
    Low s d (exec s k false n) := by
  induction n with
  | zero =>
    constructor
    all_goals
      intros
      first | (intro r hr; cases hr) | (rename_i hr; cases hr)
  | succ n ih =>
    constructor
    · intro u w hu
      exact deviceClaim_moves (R := SameBut d u) (fun v => ⟨rfl, fun _ _ => rfl⟩)
        (fun _ _ _ => SameBut.trans)
        (fun v p b n _ => sameBut_recount v u p b n) (fun v => ⟨rfl, fun _ _ => rfl⟩)
        (fun p hp v r hr => (ih.state p true v (hu p hp) r hr).but u) w
    · intro u w hu
      exact deviceRelease_moves (R := SameBut d u) (fun v => ⟨rfl, fun _ _ => rfl⟩)
        (fun _ _ _ => SameBut.trans)
        (fun v p b n _ => sameBut_recount v u p b n)
        (fun p hp v r hr => (ih.state p false v (hu p hp) r hr).but u) w
    · intro p state w hp
      have hne (q e : ℕ) : User.dep d e ≠ .dep p q := by
        intro heq
        have := (User.dep.inj heq).1
        omega
      have hlt (q x : ℕ) (hx : s.dev (.dep p q) = some x) : x < d := (dev_dep_lt hx).trans hp
      have hmoving : Moving s (exec s k false n) p (SameAt d) := by
        constructor
        · exact fun v => ⟨rfl, fun _ => rfl⟩
        · exact fun h h' => ⟨h'.1.trans h.1, fun e => (h'.2 e).trans (h.2 e)⟩
        · exact fun v => ⟨rfl, fun _ => rfl⟩
        · intro v f
          refine ⟨?_, fun _ => rfl⟩
          rw [World.map_dev v f (by omega : d ≠ p)]
        · intro q v r hr
          obtain ⟨hlink, hclaims⟩ := ih.claim _ v (hlt q) r hr
          exact ⟨hlink, fun e => hclaims e (hne q e)⟩
        · intro q v r hr
          obtain ⟨hlink, hclaims⟩ := ih.release _ v (hlt q) r hr
          exact ⟨hlink, fun e => hclaims e (hne q e)⟩
        · intro hkind state v r hr
          obtain ⟨hdev, hclaims⟩ := (setPresent_shown hapart k n (.self hkind) state v).2 r hr
          exact ⟨by rw [hdev], fun e => by rw [hclaims]⟩
      exact hmoving.setState false state w
    · intro u w r hu hr
      rw [exec, body, deviceClaim, if_pos hu] at hr
      exact (Option.some.inj hr).symm
    · intro q w r hr
      rw [exec, body, deviceClaim] at hr
      split at hr
      · rename_i hu
        rw [← Option.some.inj hr]
        exact .inr hu
      cases hp : s.dev (.dep d q) with
      | none =>
        simp only [hp, Option.some.injEq] at hr
        rw [← hr]
        simp
      | some p =>
        simp only [hp] at hr
        split at hr
        · rw [← Option.some.inj hr]
          exact .inr (recount_claimed_self ..)
        obtain ⟨⟨m, t⟩, hq, hr⟩ := Option.bind_eq_some_iff.mp hr
        obtain ⟨hnonpos, hclaimed⟩ : m ≤ 0 ∧ t.claimed (.dep d q) = true := by
          rw [bringUp] at hq
          split at hq
          · have hnonpos := setDeviceState_nonpos k p
              (w.recount (.dep d q) p true ((w.dev p).active + 1))
            rw [Option.some.inj hq] at hnonpos
            obtain ⟨-, rfl⟩ := Prod.mk.inj (Option.some.inj hq)
            exact ⟨hnonpos, recount_claimed_self ..⟩
          · have hsame := (ih.state p true _ (dev_dep_lt hp) _ hq).2 q
            refine ⟨?_, hsame.trans (recount_claimed_self ..)⟩
            cases n with
            | zero => cases hq
            | succ n => exact setState_nonpos false _ _ hq
        dsimp only at hr
        split at hr
        · rw [← Option.some.inj hr]
          exact .inr hclaimed
        · rename_i hne
          rw [← Option.some.inj hr]
          exact .inl (by dsimp only; omega)

end LowCalls

/-- Something is there that is taken away only when the device is taken down. -/
def Mark (s : Stack) (d : ℕ) (w : World) : Prop :=
  s.kind d = .vlan ∧ (w.dev d).link = true ∨
    s.kind d = .simple ∧ ∃ e, w.claimed (.dep d e) = true

/-- The kernel never resolves the index of the device. -/
def Never (k : ℕ → Kernel) (d : ℕ) : Prop := ∀ t, (k t).ifindex d = 0

/-- Something is there, and the device is not up. -/
def Left (s : Stack) (d : ℕ) (w : World) : Prop := (w.dev d).active ≤ 0 ∧ Mark s d w

section Stuck

variable {s : Stack} {k : ℕ → Kernel} {d : ℕ} {w v : World} {call : Call → World → Answer}
  {r : ℤ × World}

theorem Mark.of_same (h : Mark s d w) (hsame : SameAt d w v) : Mark s d v := by
  rcases h with ⟨hkind, hlink⟩ | ⟨hkind, e, he⟩
  · exact .inl ⟨hkind, hsame.1.trans hlink⟩
  · exact .inr ⟨hkind, e, (hsame.2 e).trans he⟩

theorem setDeviceState_never (h : Never k d) (w : World) :
    setDeviceState k d true w = (-1, w.ask) := by
  simp [setDeviceState, h w.asked]

theorem vlanSetUp_stuck (hlow : Low s d call) (hnever : Never k d) (hkind : s.kind d = .vlan)
    {p : ℕ} (hlink : (w.dev d).link = true) (hr : vlanSetUp k false call d p w = some r) :
    r.1 ≠ 0 ∧ Mark s d r.2 := by
  have hlt (x : ℕ) (hx : s.dev (.dep d p) = some x) : x < d := dev_dep_lt hx
  obtain ⟨⟨n, t⟩, hq, hr⟩ := Option.bind_eq_some_iff.mp hr
  have hlink' : (t.dev d).link = true := (hlow.claim _ _ hlt _ hq).1.trans hlink
  dsimp only at hr
  split at hr
  · rename_i hneg
    rw [← Option.some.inj hr]
    exact ⟨hneg.ne, .inl ⟨hkind, hlink'⟩⟩
  rw [setDeviceState_never hnever, if_pos (by simp), if_neg (by simp)] at hr
  obtain ⟨q, hq', hr⟩ := Option.bind_eq_some_iff.mp hr
  rw [← Option.some.inj hr]
  refine ⟨by simp, .inl ⟨hkind, (hlow.release _ _ hlt _ hq').1.trans ?_⟩⟩
  rcases systemLinkAdd_cases k d t with hadd | ⟨-, hsnd⟩
  · rw [hadd]
    exact setLink_link ..
  · rw [hsnd]
    exact hlink'

theorem simpleSetUp_stuck (hlow : Low s d call) (hnever : Never k d) (hkind : s.kind d = .simple)
    {e : ℕ} (he : w.claimed (.dep d e) = true)
    (hr : simpleDeviceSetState s k false call d true w = some r) :
    r.1 ≠ 0 ∧ Mark s d r.2 := by
  have hclaims : (findParent s k d true w).claimed = w.claimed := by
    rw [findParent]
    split
    · rw [systemIfGetParent]
      split <;> rfl
    · rfl
  rw [simpleDeviceSetState] at hr
  generalize findParent s k d true w = v at hr hclaims
  rw [← hclaims] at he
  dsimp only at hr
  cases hp : pdev s d v with
  | none =>
    simp only [hp, Option.some.injEq] at hr
    rw [← hr, setDeviceState_never hnever]
    exact ⟨by simp, .inr ⟨hkind, e, he⟩⟩
  | some p =>
    simp only [hp, if_true] at hr
    obtain ⟨⟨n, t⟩, hq, hr⟩ := Option.bind_eq_some_iff.mp hr
    have he' : t.claimed (.dep d e) = true := by
      by_cases hep : e = p
      · subst hep
        obtain ⟨-, rfl⟩ := Prod.mk.inj (hlow.held _ _ _ he hq)
        exact he
      · have hne : User.dep d e ≠ .dep d p := fun heq => hep (User.dep.inj heq).2
        exact ((hlow.claim _ _ (fun x hx => dev_dep_lt hx) _ hq).2 e hne).trans he
    dsimp only at hr
    split at hr
    · rename_i hneg
      rw [← Option.some.inj hr]
      exact ⟨hneg.ne, .inr ⟨hkind, e, he'⟩⟩
    · rw [if_neg (by simp), setDeviceState_never hnever] at hr
      rw [← Option.some.inj hr]
      exact ⟨by simp, .inr ⟨hkind, e, he'⟩⟩

/-- A device that was left behind does not come up. -/
theorem setState_stuck (hlow : Low s d call) (hnever : Never k d) (h : Mark s d w)
    (hr : setState s k false call d true w = some r) : r.1 ≠ 0 ∧ Mark s d r.2 := by
  rw [setState] at hr
  rcases h with ⟨hkind, hlink⟩ | ⟨hkind, e, he⟩
  · simp only [hkind] at hr
    rw [stackedSetState] at hr
    cases hp : s.base d with
    | none =>
      simp only [hp, if_true, Option.some.injEq] at hr
      rw [← hr]
      exact ⟨by simp, .inl ⟨hkind, hlink⟩⟩
    | some p =>
      simp only [hp, if_true, hkind] at hr
      exact vlanSetUp_stuck hlow hnever hkind hlink hr
  · simp only [hkind] at hr
    exact simpleSetUp_stuck hlow hnever hkind he hr

theorem exec_setState_stuck (hapart : Apart s) (hnever : Never k d) (n : ℕ) (h : Mark s d w)
    (hr : exec s k false n (.setState d true) w = some r) : r.1 ≠ 0 ∧ Mark s d r.2 := by
  cases n with
  | zero => cases hr
  | succ n => exact setState_stuck (exec_low hapart k n d) hnever h hr

theorem Mark.recount {u : User} (h : Mark s d w) (hu : ∀ e, u ≠ .dep d e) (p : ℕ) (b : Bool)
    (n : ℤ) : Mark s d (w.recount u p b n) :=
  h.of_same ⟨recount_link w u p b n, fun e => recount_claimed w p b n (hu e).symm⟩

theorem Mark.left {u : User} (h : Mark s d w) (hu : ∀ e, u ≠ .dep d e) (b : Bool) {n : ℤ}
    (hn : n ≤ 0) : Left s d (w.recount u d b n) := by
  refine ⟨?_, h.recount hu d b n⟩
  rw [recount_dev_self]
  exact hn

theorem Left.recount {u : User} (h : Left s d w) (hu : ∀ e, u ≠ .dep d e) {p : ℕ} (hp : p ≠ d)
    (b : Bool) (n : ℤ) : Left s d (w.recount u p b n) := by
  refine ⟨?_, h.2.recount hu p b n⟩
  rw [recount_dev w u b n hp.symm]
  exact h.1

/-- What is left behind stays. -/
structure Stays (s : Stack) (d : ℕ) (call : Call → World → Answer) : Prop where
  claim : ∀ u w r, (∀ e, u ≠ .dep d e) → Left s d w → call (.claim u) w = some r → Left s d r.2
  release : ∀ u w r, (∀ e, u ≠ .dep d e) → Left s d w → call (.release u) w = some r →
    Left s d r.2
  state : ∀ p state w r, p ≠ d → Left s d w → call (.setState p state) w = some r → Left s d r.2

theorem deviceClaim_left (hapart : Apart s) (hnever : Never k d) (n : ℕ) {u : User}
    (hu : ∀ e, u ≠ .dep d e) (hdev : s.dev u = some d) (h : Left s d w)
    (hr : deviceClaim s k (exec s k false n) u w = some r) : Left s d r.2 := by
  rw [deviceClaim] at hr
  split at hr
  · rw [← Option.some.inj hr]
    exact h
  simp only [hdev, recount_dev_self] at hr
  split at hr
  · rename_i hmore
    rw [← Option.some.inj hr]
    have hactive := h.1
    exact h.2.left hu true (by omega)
  obtain ⟨⟨m, t⟩, hq, hr⟩ := Option.bind_eq_some_iff.mp hr
  have hmark := h.2.recount hu d true ((w.dev d).active + 1)
  obtain ⟨hne, hmark'⟩ : m ≠ 0 ∧ Mark s d t := by
    rw [bringUp] at hq
    split at hq
    · rw [setDeviceState_never hnever] at hq
      obtain ⟨rfl, rfl⟩ := Prod.mk.inj (Option.some.inj hq)
      exact ⟨by decide, hmark⟩
    · exact exec_setState_stuck hapart hnever n hmark hq
  dsimp only at hr
  rw [if_neg hne] at hr
  rw [← Option.some.inj hr]
  exact hmark'.left hu false le_rfl

theorem deviceRelease_left {u : User} (hdev : s.dev u = some d) (h : Left s d w)
    (hr : deviceRelease s call u w = some r) : Left s d r.2 := by
  rw [deviceRelease] at hr
  split at hr
  · have hactive := h.1
    -- the count would become negative, which the assertion forbids
    simp only [hdev, recount_dev_self] at hr
    rw [if_pos (by omega)] at hr
    cases hr
  · rw [← Option.some.inj hr]
    exact h

theorem exec_stays (hapart : Apart s) (hnever : Never k d) (n : ℕ) :
    Stays s d (exec s k false n) := by
  induction n with
  | zero =>
    constructor
    all_goals
      intros
      rename_i hr
      cases hr
  | succ n ih =>
    constructor
    · intro u w r hu h hr
      by_cases hdev : s.dev u = some d
      · exact deviceClaim_left hapart hnever n hu hdev h hr
      · have hne (p : ℕ) (hp : s.dev u = some p) : p ≠ d := fun heq => hdev (heq ▸ hp)
        exact deviceClaim_moves (R := fun w v => Left s d w → Left s d v) (fun _ h => h)
          (fun _ _ _ h h' hw => h' (h hw)) (fun v p b m hp h => h.recount hu (hne p hp) b m)
          (fun _ h => h) (fun p hp v q hq h => ih.state p true v q (hne p hp) h hq) w r hr h
    · intro u w r hu h hr
      by_cases hdev : s.dev u = some d
      · exact deviceRelease_left hdev h hr
      · have hne (p : ℕ) (hp : s.dev u = some p) : p ≠ d := fun heq => hdev (heq ▸ hp)
        exact deviceRelease_moves (R := fun w v => Left s d w → Left s d v) (fun _ h => h)
          (fun _ _ _ h h' hw => h' (h hw)) (fun v p b m hp h => h.recount hu (hne p hp) b m)
          (fun p hp v q hq h => ih.state p false v q (hne p hp) h hq) w r hr h
    · intro p state w r hp h hr
      have hu (q e : ℕ) : User.dep p q ≠ .dep d e := fun heq => hp (User.dep.inj heq).1
      have hmoving : Moving s (exec s k false n) p (fun w v => Left s d w → Left s d v) := by
        constructor
        · exact fun _ h => h
        · exact fun h h' hw => h' (h hw)
        · exact fun _ h => h
        · intro v f h
          refine ⟨?_, h.2.of_same ⟨?_, fun _ => rfl⟩⟩
          · rw [World.map_dev v f hp.symm]
            exact h.1
          · rw [World.map_dev v f hp.symm]
        · exact fun q v t ht h => ih.claim _ v t (hu q) h ht
        · exact fun q v t ht h => ih.release _ v t (hu q) h ht
        · intro hkind st v t ht h
          obtain ⟨hdev, hclaims⟩ := (setPresent_shown hapart k n (.self hkind) st v).2 t ht
          refine ⟨by rw [hdev]; exact h.1, h.2.of_same ⟨by rw [hdev], fun e => by rw [hclaims]⟩⟩
      exact hmoving.setState false state w r hr h

end Stuck

end Netifd.ClaimAttempts
