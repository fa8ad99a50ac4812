import Netifd.AttemptEvents
import Netifd.StoppedAttempts

/-!
# Failed claims

The invariants hold of every claim, by induction on how deep the calls nest, and a claim that fails
leaves the claims of the users that are no devices as they were. A claim that is stopped leaves a
device behind.
-/

namespace Netifd.ClaimAttempts

/-- Calls that nest no deeper than `n` do what they should, by induction on `n`. -/
theorem exec_works {s : Stack} {w₀ : World} (k : ℕ → Kernel) (h₀ : Grounded s w₀) (n : ℕ) :
    Works s w₀ (exec s k true n) := by
  induction n with
  | zero =>
    constructor
    all_goals
      intros
      rename_i hr
      cases hr
  | succ n ih =>
    constructor
    · intro busy w u p r h hp hbusy howned hawake hu hr
      exact deviceClaim_spec h₀ ih h hp hbusy howned hawake hu hr
    · intro busy w u p r h hp hbusy hown hstart hr
      exact deviceRelease_spec h₀ ih h hp hbusy hown hstart hr
    · intro w u r hu hr
      rw [exec, body, deviceClaim, if_pos hu] at hr
      exact (Option.some.inj hr).symm
    · intro w u r hu hr
      exact deviceRelease_unheld hu hr
    · intro busy w d r h hr
      exact setState_up ih h₀ h hr
    · intro busy w d r h hr
      exact setState_down ih h₀ h hr
    · intro w d r hd hr
      rw [exec, body, deviceSetPresent, if_pos hd] at hr
      rw [← Option.some.inj hr]
    · intro busy w d r h hawake hnone hr
      exact deviceSetPresent_gone ih h₀ h hawake hnone hr

/-- The one result is the other, if it is there. -/
def Within (a a' : Answer) : Prop := ∀ r, a = some r → a' = some r

section Within

variable {s : Stack} {k : ℕ → Kernel} {a a' : Answer} {call call' : Call → World → Answer}
  {w : World} {b d m p : ℕ}

theorem Within.refl (a : Answer) : Within a a := fun _ h => h

theorem Within.bind {f f' : ℤ × World → Answer} (h : Within a a')
    (hf : ∀ q, Within (f q) (f' q)) : Within (a >>= f) (a' >>= f') := by
  intro r hr
  obtain ⟨q, hq, hr⟩ := Option.bind_eq_some_iff.mp hr
  exact Option.bind_eq_some_iff.mpr ⟨q, h q hq, hf q r hr⟩

theorem Within.ite {c : Prop} [Decidable c] {e e' : Answer} (h : Within a a')
    (h' : Within e e') : Within (if c then a else e) (if c then a' else e') := by
  split
  · exact h
  · exact h'

theorem Within.whenever {c : Prop} [Decidable c] {f f' : World → Answer}
    (h : Within (f w) (f' w)) : Within (whenever c f w) (whenever c f' w) :=
  h.ite (.refl _)

/-- The guard stops here, or nowhere. -/
theorem Within.stop {c : Prop} [Decidable c] (h : Within a a') :
    Within (if true = true ∧ c then none else a) (if false = true ∧ c then none else a') := by
  intro r hr
  split at hr
  · cases hr
  · rw [if_neg (by simp)]
    exact h r hr

theorem forEach_within {α : Type} {f f' : World → α → Answer} (h : ∀ w x, Within (f w x) (f' w x))
    (xs : List α) (w : World) : Within (forEach f xs w) (forEach f' xs w) := by
  induction xs generalizing w with
  | nil => exact .refl _
  | cons x xs ih => exact (h w x).bind fun q => ih q.2

variable (h : ∀ c w, Within (call c w) (call' c w))

include h

theorem deviceClaim_within (u : User) :
    Within (deviceClaim s k call u w) (deviceClaim s k call' u w) := by
  rw [deviceClaim, deviceClaim]
  refine .ite (.refl _) ?_
  cases s.dev u with
  | none => exact .refl _
  | some d =>
    refine .ite (.refl _) ((Within.ite (.refl _) (h _ _)).bind fun _ => .refl _)

theorem deviceRelease_within (u : User) :
    Within (deviceRelease s call u w) (deviceRelease s call' u w) := by
  rw [deviceRelease, deviceRelease]
  refine .ite ?_ (.refl _)
  cases s.dev u with
  | none => exact .refl _
  | some d => exact .ite (.refl _) (.ite (.refl _) ((h _ _).bind fun _ => .refl _))

theorem simpleDeviceSetState_within (state : Bool) :
    Within (simpleDeviceSetState s k true call d state w)
      (simpleDeviceSetState s k false call' d state w) := by
  rw [simpleDeviceSetState, simpleDeviceSetState]
  dsimp only
  cases pdev s d (findParent s k d state w) with
  | none => exact .refl _
  | some p =>
    exact .ite ((h _ _).bind fun _ => .ite (.refl _) (.stop (.refl _)))
      ((h _ _).bind fun _ => .refl _)

theorem stackedSetState_within (state : Bool) :
    Within (stackedSetState s k true call d state w)
      (stackedSetState s k false call' d state w) := by
  rw [stackedSetState, stackedSetState]
  cases s.base d with
  | none => exact .refl _
  | some p =>
    refine .ite (.ite ?_ ?_) ?_
    · exact (h _ _).bind fun _ => .ite (.refl _)
        (.ite (.stop ((h _ _).bind fun _ => .refl _)) (.refl _))
    · exact (h _ _).bind fun _ => .ite (.refl _)
        (.ite ((h _ _).bind fun _ => .refl _) (.ite ((h _ _).bind fun _ => .refl _) (.refl _)))
    · exact (h _ _).bind fun _ => .refl _

theorem bridgeEnableMember_within :
    Within (bridgeEnableMember k call b m w) (bridgeEnableMember k call' b m w) := by
  have hfailed (n : ℤ) (w : World) :
      Within (enableFailed call b m n w) (enableFailed call' b m n w) :=
    (h _ _).bind fun _ => .refl _
  exact .ite (.refl _) (.ite (hfailed _ _) ((h _ _).bind fun _ => .ite (hfailed _ _)
    (.ite ((h _ _).bind fun _ => .refl _) (hfailed _ _))))

theorem bridgeSetDown_within :
    Within (bridgeSetDown k call b w) (bridgeSetDown k call' b w) :=
  (forEach_within (fun _ _ => .whenever (.whenever (h _ _))) _ _).bind fun _ => .refl _

theorem bridgeSetState_within (state : Bool) :
    Within (bridgeSetState k call b state w) (bridgeSetState k call' b state w) := by
  have hmembers (w : World) :
      Within (bridgeSetUpMembers k call b w) (bridgeSetUpMembers k call' b w) :=
    (forEach_within (fun _ _ => .whenever (bridgeEnableMember_within h)) _ _).bind fun _ =>
      .ite ((h _ _).bind fun _ => .refl _)
        (.ite ((bridgeSetDown_within h).bind fun _ => .refl _) (.refl _))
  exact .ite (.ite (.ite (.refl _) (.ite (.refl _) (hmembers _))) (hmembers _))
    (bridgeSetDown_within h)

theorem bridgeRemoveMember_within :
    Within (bridgeRemoveMember s call b m w) (bridgeRemoveMember s call' b m w) :=
  .ite (.refl _) ((Within.whenever (.whenever (h _ _))).bind fun _ =>
    .ite (.refl _) (.whenever (h _ _)))

theorem bridgeMemberCb_within (add : Bool) :
    Within (bridgeMemberCb s k true call b m add w)
      (bridgeMemberCb s k false call' b m add w) := by
  refine .ite (.ite (.refl _) ?_) (.stop (.ite ?_ ?_))
  · exact (Within.whenever (h _ _)).bind fun _ => .whenever (bridgeEnableMember_within h)
  · exact (bridgeRemoveMember_within h).bind fun _ => (h _ _).bind fun _ =>
      .ite ((h _ _).bind fun _ => h _ _) (.refl _)
  · exact bridgeRemoveMember_within h

theorem deviceSetPresent_within (state : Bool) :
    Within (deviceSetPresent s k true call d state w)
      (deviceSetPresent s k false call' d state w) := by
  refine .ite (.refl _) (.ite (.refl _) (forEach_within (fun w u => ?_) _ _))
  cases u with
  | other i => exact .refl _
  | dep b e => exact .ite (.whenever (bridgeMemberCb_within h _)) (.whenever (h _ _))

theorem setState_within (state : Bool) :
    Within (setState s k true call d state w) (setState s k false call' d state w) := by
  rw [setState, setState]
  cases s.kind d with
  | simple => exact simpleDeviceSetState_within h state
  | vlan | macvlan | vlandev => exact stackedSetState_within h state
  | veth | tunnel => exact .refl _
  | bridge => exact bridgeSetState_within h state

end Within

/-- A guarded call that is not stopped is the call. -/
theorem exec_within (s : Stack) (k : ℕ → Kernel) (n : ℕ) (c : Call) (w : World) :
    Within (exec s k true n c w) (exec s k false n c w) := by
  induction n generalizing c w with
  | zero => exact .refl _
  | succ n ih =>
    cases c with
    | claim u => exact deviceClaim_within ih u
    | release u => exact deviceRelease_within ih u
    | setState d state => exact setState_within ih state
    | setPresent d state => exact deviceSetPresent_within ih state

/-- Every device is settled but those that are just brought up: these are above the device of `u`,
and one of them needs what `u` is to claim, unless `u` is like an interface. -/
structure Ready (s : Stack) (busy : Set ℕ) (u : User) (w : World) : Prop where
  sound : Sound s busy w
  awake : Awake s busy w
  owned : Owned s busy w u
  above : ∀ p, s.dev u = some p → ∀ e ∈ busy, p < e

/-- What the claim of a user is not to change when it fails. -/
structure Unchanged (w w' : World) : Prop where
  active : ∀ d, (w'.dev d).active = (w.dev d).active
  claimed : w'.claimed = w.claimed
  link : ∀ d, (w'.dev d).link = (w.dev d).link

section Unchanged

variable {s : Stack} {k : ℕ → Kernel} {busy : Set ℕ} {w w' : World}

theorem dep_eq (h : Sound s busy w) (h' : Sound s busy w') (hnear : Near s w w')
    (hframe : Frame s busy w w') {d : ℕ} (hactive : (w'.dev d).active = (w.dev d).active) (e : ℕ) :
    w'.claimed (.dep d e) = w.claimed (.dep d e) := by
  by_cases hd : d ∈ busy
  · exact hframe.dep d hd e
  by_cases hdown : (w.dev d).active = 0 ∨ s.external d = true
  · have hdown' := hdown
    rw [← hactive] at hdown'
    rw [(h.bare d hd hdown).1 e, (h'.bare d hd hdown').1 e]
  · obtain ⟨hup, hext⟩ := not_or.mp hdown
    have hext' : s.external d = false := by simpa using hext
    rw [h.held d hd hext' hup e, h'.held d hd hext' (by rwa [hactive]) e]
    exact hnear.needs d hup e

/-- The counts follow from the claims of the users that are no devices and of the devices that are
just brought up: the other users of a device are devices that come after it. -/
theorem active_eq (h : Sound s busy w) (h' : Sound s busy w') (hnear : Near s w w')
    (hframe : Frame s busy w w') (d : ℕ) : (w'.dev d).active = (w.dev d).active := by
  induction hn : s.size - d using Nat.strong_induction_on generalizing d with
  | _ n ih =>
    subst hn
    rw [h.count d, h'.count d]
    congr 1
    apply List.countP_congr
    intro u hu
    cases u with
    | other i => rw [hframe.other i]
    | dep e x =>
      obtain ⟨rfl, hbelow⟩ := (s.dep_mem e d x).mp hu
      have hlt := s.below_lt e x hbelow
      have hsize := s.lt_size e x hbelow
      have hactive := ih (s.size - e) (by omega) e rfl
      rw [dep_eq h h' hnear hframe hactive]

theorem unchanged_of_frame (h : Sound s busy w) (h' : Sound s busy w') (hnear : Near s w w')
    (hframe : Frame s busy w w') : Unchanged w w' := by
  have hactive := active_eq h h' hnear hframe
  refine ⟨hactive, ?_, ?_⟩
  · funext u
    cases u with
    | other i => exact hframe.other i
    | dep d e => exact dep_eq h h' hnear hframe (hactive d) e
  · intro d
    by_cases hd : d ∈ busy
    · exact (hframe.dev d hd).link
    by_cases hup : (w.dev d).active ≠ 0
    · exact hnear.link d hup
    · have hdown : (w.dev d).active = 0 := not_not.mp hup
      have hdown' : (w'.dev d).active = 0 := (hactive d).trans hdown
      rw [(h.bare d hd (.inl hdown)).2, (h'.bare d hd (.inl hdown')).2]

theorem awake_empty (s : Stack) (w : World) : Awake s ∅ w :=
  fun d hd => absurd hd (Set.notMem_empty d)

theorem owned_other (s : Stack) (busy : Set ℕ) (w : World) (i : ℕ) :
    Owned s busy w (.other i) := by
  intro d e heq
  cases heq

theorem deviceClaim_none {call : Call → World → Answer} {u : User} (hu : w.claimed u = false)
    (hp : s.dev u = none) : deviceClaim s k call u w = some (-1, w) := by
  simp [deviceClaim, hu, hp]

/-- Nothing is known of any device. -/
def blank : World where
  dev _ := {}
  sysPresent _ := false
  present _ := false
  claimed _ := false

theorem settled_blank (s : Stack) : Settled s blank where
  count d := by simp [blank]
  placed d e h := by simp [blank] at h
  ports d := by constructor <;> simp [blank]
  held d _ _ hup := absurd rfl hup
  bare _ _ _ := ⟨fun _ => rfl, rfl⟩

theorem near_blank (s : Stack) (w : World) : Near s blank w where
  kept v hv := by cases hv
  link _ hup := absurd rfl hup
  needs _ hup := absurd rfl hup

/-- Guarded claims and releases of users that are no devices leave everything settled. -/
theorem settled_call (s : Stack) (k : ℕ → Kernel) (n : ℕ) {c : Call} {i : ℕ} {r : ℤ × World}
    (hc : c = .claim (.other i) ∨ c = .release (.other i)) (h : Settled s w)
    (hr : exec s k true n c w = some r) : Settled s r.2 := by
  have hworks := exec_works k ((settled_blank s).grounded (awake_empty s blank)) n
  have hgood : Good s blank ∅ w := ⟨h, near_blank s w⟩
  have hbusy (p : ℕ) : ∀ e ∈ (∅ : Set ℕ), p < e := fun e he => absurd he (Set.notMem_empty e)
  cases n with
  | zero => cases hr
  | succ n =>
    rcases hc with rfl | rfl
    · by_cases hu : w.claimed (.other i) = true
      · rw [hworks.held hu hr]
        exact h
      have hu' : w.claimed (.other i) = false := by simpa using hu
      cases hp : s.dev (.other i) with
      | none =>
        rw [exec, body, deviceClaim_none hu' hp] at hr
        rw [← Option.some.inj hr]
        exact h
      | some p =>
        exact (hworks.claim hgood hp (hbusy p) (owned_other s ∅ w i) (awake_empty s w) hu'
          hr).good.sound
    · cases hp : s.dev (.other i) with
      | none =>
        rw [exec, body, deviceRelease] at hr
        split at hr
        · simp only [hp] at hr
          cases hr
        · rw [← Option.some.inj hr]
          exact h
      | some p =>
        refine (hworks.release hgood hp (hbusy p) ?_ rfl hr).good.sound
        intro d e heq
        cases heq

theorem Settled.ready (h : Settled s w) (i : ℕ) : Ready s ∅ (.other i) w :=
  ⟨h, awake_empty s w, owned_other s ∅ w i, fun _ _ e he => absurd he (Set.notMem_empty e)⟩

/-- A claim that fails and is not stopped changes nothing. -/
theorem unchanged_of_guarded {n : ℕ} {u : User} {r : ℤ × World} (h : Ready s busy u w)
    (hguarded : (exec s k true n (.claim u) w).isSome)
    (hclaim : exec s k false n (.claim u) w = some r) (hfailed : r.1 ≠ 0) : Unchanged w r.2 := by
  obtain ⟨q, hq⟩ := Option.isSome_iff_exists.mp hguarded
  obtain rfl := Option.some.inj ((exec_within s k n _ w q hq).symm.trans hclaim)
  have hworks := exec_works k (h.sound.grounded h.awake) n
  have hgood : Good s w busy w := ⟨h.sound, .refl w⟩
  by_cases hu : w.claimed u = true
  · rw [hworks.held hu hq] at hfailed
    exact absurd rfl hfailed
  have hu' : w.claimed u = false := by simpa using hu
  cases hp : s.dev u with
  | none =>
    cases n with
    | zero => cases hq
    | succ n =>
      rw [exec, body, deviceClaim_none hu' hp] at hq
      rw [← Option.some.inj hq]
      exact ⟨fun _ => rfl, rfl, fun _ => rfl⟩
  | some p =>
    have hclaimed := hworks.claim hgood hp (h.above p hp) h.owned h.awake hu' hq
    have hframe := hclaimed.frame
    rw [decide_eq_false hfailed, mark_self w u hu'] at hframe
    exact unchanged_of_frame h.sound hclaimed.good.sound hclaimed.good.near hframe

/-- A claim that changes nothing is not stopped. -/
theorem guarded_of_unchanged (hapart : Apart s) (hsteady : Steady k) {n : ℕ} {u : User}
    {r : ℤ × World} (h : Ready s busy u w) (hr : exec s k false n (.claim u) w = some r)
    (hsame : Unchanged w r.2) : (exec s k true n (.claim u) w).isSome := by
  by_cases hu : w.claimed u = true
  · cases n with
    | zero => cases hr
    | succ n => simp [exec, body, deviceClaim, hu]
  have hu' : w.claimed u = false := by simpa using hu
  cases hp : s.dev u with
  | none =>
    cases n with
    | zero => cases hr
    | succ n => simp [exec, body, deviceClaim_none hu' hp]
  | some p =>
    have halike := (exec_alike hapart hsteady n).claim u (p + 1) w
      (fun q hq => by rw [hp] at hq; rw [← Option.some.inj hq]; exact p.lt_succ_self)
      fun d e heq => h.above p hp d (h.owned d e heq).1
    rcases halike r hr with ⟨d, hd, -, hactive, hmark⟩ | ⟨-, hguarded⟩
    · -- the device that is left behind was not up before, and had nothing then
      have hfree : d ∉ busy := fun hbusy => absurd (h.above p hp d hbusy) (by omega)
      have hdown : (w.dev d).active = 0 := by
        rw [hsame.active d, h.sound.count d] at hactive
        rw [h.sound.count d]
        omega
      obtain ⟨hclaims, hlink⟩ := h.sound.bare d hfree (.inl hdown)
      rcases hmark with ⟨-, hmade⟩ | ⟨-, e, he⟩
      · rw [hsame.link d, hlink] at hmade
        cases hmade
      · rw [hsame.claimed, hclaims e] at he
        cases he
    · rw [hguarded]
      rfl

end Unchanged

/-- A VLAN and a macvlan on `eth0`, a veth device, and a bridge of these last two; three interfaces
are on `eth0`, the VLAN and the bridge. -/
def shop : Stack where
  kind
    | 1 => .vlan
    | 2 => .macvlan
    | 3 => .veth
    | 4 => .bridge
    | _ => .simple
  external _ := false
  withheld _ := false
  bridgeEmpty _ := false
  hotplug _ _ := false
  below
    | 1 => [0]
    | 2 => [0]
    | 4 => [2, 3]
    | _ => []
  target
    | 0 => some 0
    | 1 => some 1
    | 2 => some 4
    | _ => none
  users
    | 0 => [.dep 1 0, .dep 2 0, .other 0]
    | 1 => [.other 1]
    | 2 => [.dep 4 2]
    | 3 => [.dep 4 3]
    | 4 => [.other 2]
    | _ => []
  size := 5
  below_lt d e he := by
    rcases d with _ | _ | _ | _ | _ | d <;> simp at he <;> omega
  lt_size d e he := by
    rcases d with _ | _ | _ | _ | _ | d <;> simp at he <;> omega
  users_nodup e := by rcases e with _ | _ | _ | _ | _ | e <;> simp
  dep_mem d e x := by
    rcases e with _ | _ | _ | _ | _ | e <;> rcases d with _ | _ | _ | _ | _ | d <;> simp
  other_mem i e := by
    rcases e with _ | _ | _ | _ | _ | e <;> rcases i with _ | _ | _ | i <;> simp

/-- The index of one device cannot be resolved. -/
def unresolved (d : ℕ) (_ : ℕ) : Kernel where
  errno _ := 0
  ifindex e := if e = d then 0 else e + 1
  parent _ := false
  addif _ _ := true

/-- Both members of the bridge are there. -/
def cold : World where
  dev d :=
    if d = 4 then
      { members := [2, 3], memPresent := fun m => decide (m ∈ [2, 3]), nPresent := 2 }
    else {}
  sysPresent _ := true
  present _ := true
  claimed _ := false

theorem settled_cold : Settled shop cold where
  count d := by
    simp only [cold, List.countP_false]
    split <;> rfl
  placed d e h := by cases h
  ports d := by
    by_cases hd : d = 4
    · subst hd
      constructor <;> simp [cold, shop]
    · constructor <;> simp [cold, hd]
  held d _ _ hup := by
    refine absurd ?_ hup
    simp only [cold]
    split <;> rfl
  bare d _ _ := by
    refine ⟨fun _ => rfl, ?_⟩
    simp only [cold]
    split <;> rfl

theorem apart_shop : Apart shop := by
  have hfour (d : ℕ) (hd : shop.kind d = .bridge) : d = 4 := by
    rcases d with _ | _ | _ | _ | _ | d <;> simp [shop] at hd ⊢
  rintro b e hb he ⟨c, hc, hpath⟩
  rw [hfour b hb] at he
  rw [hfour c hc] at hpath
  rcases hpath.cases_head with rfl | ⟨y, hy, -⟩
  · exact absurd (shop.below_lt 4 4 he) (lt_irrefl 4)
  · rcases y with _ | _ | _ | _ | _ | y <;> simp [shop] at hy

/-- What a call does in the shop. -/
def result (d : ℕ) (guarded : Bool) (u : User) (w : World) : ℤ × World :=
  (exec shop (unresolved d) guarded 12 (.claim u) w).getD (0, w)

theorem exec_result {d : ℕ} {guarded : Bool} {u : User} {w : World}
    (h : (exec shop (unresolved d) guarded 12 (.claim u) w).isSome) :
    exec shop (unresolved d) guarded 12 (.claim u) w = some (result d guarded u w) := by
  obtain ⟨r, hr⟩ := Option.isSome_iff_exists.mp h
  rw [result, hr, Option.getD_some]

end Netifd.ClaimAttempts
