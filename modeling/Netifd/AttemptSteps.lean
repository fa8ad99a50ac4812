import Netifd.AttemptCallbacks

/-!
# Steps of the state callbacks

A relation between the states of a run that every step of a state callback respects, and the calls
in it, holds of the callback. What a callback returns is not positive.
-/

namespace Netifd.ClaimAttempts

/-- The world is left related to `w`. -/
def Moves (R : World → World → Prop) (w : World) (a : Answer) : Prop :=
  ∀ r, a = some r → R w r.2

/-- A relation that every step of the callbacks of `p` respects. -/
structure Moving (s : Stack) (call : Call → World → Answer) (p : ℕ)
    (R : World → World → Prop) : Prop where
  refl : ∀ v, R v v
  trans : ∀ {w v t}, R w v → R v t → R w t
  ask : ∀ v, R v v.ask
  map : ∀ v f, R v (v.map p f)
  claim : ∀ q v, Moves R v (call (.claim (.dep p q)) v)
  release : ∀ q v, Moves R v (call (.release (.dep p q)) v)
  present : s.kind p = .bridge → ∀ state v, Moves R v (call (.setPresent p state) v)

namespace Moving

variable {s : Stack} {k : ℕ → Kernel} {call : Call → World → Answer} {p : ℕ}
  {R : World → World → Prop} {w v : World} {a a' : Answer}

theorem done {q : ℤ × World} (h : R w q.2) : Moves R w (some q) := by
  intro r hr
  rwa [← Option.some.inj hr]

theorem ite {c : Prop} [Decidable c] (h : Moves R w a) (h' : Moves R w a') :
    Moves R w (if c then a else a') := by
  split
  · exact h
  · exact h'

theorem stop {c : Prop} [Decidable c] (h : Moves R w a) :
    Moves R w (if c then none else a) := by
  split
  · intro r hr
    cases hr
  · exact h

variable (h : Moving s call p R)

include h

theorem next (hv : R w v) (ha : Moves R v a) : Moves R w a :=
  fun r hr => h.trans hv (ha r hr)

theorem bind {f : ℤ × World → Answer} (ha : Moves R w a) (hf : ∀ q, Moves R q.2 (f q)) :
    Moves R w (a >>= f) := by
  intro r hr
  obtain ⟨q, hq, hr⟩ := Option.bind_eq_some_iff.mp hr
  exact h.trans (ha q hq) (hf q r hr)

theorem whenever {c : Prop} [Decidable c] {f : World → Answer} (hf : Moves R w (f w)) :
    Moves R w (whenever c f w) :=
  ite hf (done (h.refl w))

theorem forEach {α : Type} {f : World → α → Answer} (hf : ∀ v x, Moves R v (f v x))
    (xs : List α) (w : World) : Moves R w (forEach f xs w) := by
  induction xs generalizing w with
  | nil => exact done (h.refl w)
  | cons x xs ih => exact h.bind (hf w x) fun q => ih q.2

theorem deviceState (k : ℕ → Kernel) (state : Bool) (w : World) :
    R w (setDeviceState k p state w).2 := by
  cases state with
  | false => exact h.refl w
  | true => exact h.ask w

theorem setLink (b : Bool) (w : World) : R w (w.setLink p b) := h.map w _

theorem linkAdd (k : ℕ → Kernel) (w : World) : R w (systemLinkAdd k p w).2 := by
  rcases systemLinkAdd_cases k p w with hadd | ⟨-, hsnd⟩
  · rw [hadd]
    exact h.trans (h.ask w) (h.setLink true _)
  · rw [hsnd]
    exact h.ask w

theorem findParent (k : ℕ → Kernel) (state : Bool) (w : World) :
    R w (findParent s k p state w) := by
  rw [ClaimAttempts.findParent]
  split
  · rw [systemIfGetParent]
    split
    · exact h.trans (h.ask w) (h.map _ _)
    · exact h.ask w
  · exact h.refl w

theorem simpleDeviceSetState (guarded state : Bool) (w : World) :
    Moves R w (simpleDeviceSetState s k guarded call p state w) := by
  rw [ClaimAttempts.simpleDeviceSetState]
  refine h.next (h.findParent k state w) ?_
  dsimp only
  cases pdev s p (ClaimAttempts.findParent s k p state w) with
  | none => exact done (h.deviceState k state _)
  | some q =>
    exact ite (h.bind (h.claim q _) fun _ => ite (done (h.refl _))
        (stop (done (h.deviceState k true _))))
      (h.bind (h.release q _) fun _ => done (h.deviceState k false _))

theorem stackedSetState (guarded state : Bool) (w : World) :
    Moves R w (stackedSetState s k guarded call p state w) := by
  rw [ClaimAttempts.stackedSetState]
  cases s.base p with
  | none =>
    cases state with
    | false => exact done (h.setLink false w)
    | true => exact done (h.refl w)
  | some q =>
    have hup (v : World) :
        R v (setDeviceState k p true (systemLinkAdd k p v).2).2 :=
      h.trans (h.linkAdd k v) (h.deviceState k true _)
    refine ite (ite ?_ ?_) ?_
    · exact h.bind (h.claim q w) fun t => ite (done (h.refl _))
        (ite (stop (h.bind (h.next (hup t.2) (h.release q _)) fun _ => done (h.refl _)))
          (done (hup t.2)))
    · exact h.bind (h.claim q w) fun t => ite (done (h.refl _))
        (ite (h.bind (h.next (h.linkAdd k t.2) (h.release q _)) fun _ => done (h.refl _))
          (ite (h.bind (h.next (h.trans (hup t.2) (h.setLink false _)) (h.release q _))
            fun _ => done (h.refl _)) (done (hup t.2))))
    · exact h.bind (h.next (h.setLink false w) (h.release q _)) fun _ => done (h.refl _)

theorem vethSetState (state : Bool) (w : World) : Moves R w (vethSetState k p state w) := by
  have hup : R w (setDeviceState k p true (systemLinkAdd k p w).2).2 :=
    h.trans (h.linkAdd k w) (h.deviceState k true _)
  exact ite (ite (done (h.linkAdd k w)) (ite (done (h.trans hup (h.setLink false _)))
    (done hup))) (done (h.setLink false w))

theorem tunnelSetState (state : Bool) (w : World) : Moves R w (tunnelSetState k p state w) := by
  have hadd : R w (if state then systemLinkAdd k p w else (0, w)).2 := by
    split
    · exact h.linkAdd k w
    · exact h.refl w
  rw [ClaimAttempts.tunnelSetState]
  generalize (if state then systemLinkAdd k p w else (0, w)) = add at hadd
  refine ite (done hadd) (done ?_)
  split
  · exact h.trans (h.trans hadd (h.deviceState k state _)) (h.setLink false _)
  · exact h.trans hadd (h.deviceState k state _)

theorem enableInterface (k : ℕ → Kernel) (w : World) : R w (bridgeEnableInterface k p w).2 := by
  rw [bridgeEnableInterface]
  split
  · exact h.refl w
  · exact h.linkAdd k w

theorem bridgeEnableMember (hkind : s.kind p = .bridge) (m : ℕ) (w : World) :
    Moves R w (bridgeEnableMember k call p m w) := by
  have hfailed (n : ℤ) (v : World) : Moves R v (enableFailed call p m n v) :=
    h.bind (h.next (h.map v _) (h.release m _)) fun _ => done (h.refl _)
  exact ite (done (h.refl w)) (ite (h.next (h.enableInterface k w) (hfailed _ _))
    (h.bind (h.next (h.enableInterface k w) (h.claim m _)) fun _ => ite (hfailed _ _)
      (ite (h.bind (h.next (h.ask _) (h.present hkind true _)) fun _ => done (h.refl _))
        (h.next (h.ask _) (hfailed _ _)))))

theorem bridgeSetDown (w : World) : Moves R w (bridgeSetDown k call p w) :=
  h.bind (h.forEach (fun v m => h.whenever (h.whenever (h.release m v))) _ w)
    fun _ => done (h.setLink false _)

theorem bridgeSetUpMembers (hkind : s.kind p = .bridge) (w : World) :
    Moves R w (bridgeSetUpMembers k call p w) :=
  h.bind (h.forEach (fun v m => h.whenever (h.bridgeEnableMember hkind m v)) _ w) fun _ =>
    ite (h.bind (h.next (h.setLink false _) (h.present hkind false _)) fun _ => done (h.refl _))
      (ite (h.bind (h.next (h.ask _) (h.bridgeSetDown _)) fun _ => done (h.refl _))
        (done (h.ask _)))

theorem bridgeSetState (hkind : s.kind p = .bridge) (state : Bool) (w : World) :
    Moves R w (bridgeSetState k call p state w) :=
  ite (ite (ite (done (h.refl w)) (ite (done (h.enableInterface k w))
      (h.next (h.enableInterface k w) (h.bridgeSetUpMembers hkind _))))
    (h.bridgeSetUpMembers hkind w)) (h.bridgeSetDown w)

theorem setState (guarded state : Bool) (w : World) :
    Moves R w (setState s k guarded call p state w) := by
  rw [ClaimAttempts.setState]
  cases hkind : s.kind p with
  | simple => exact h.simpleDeviceSetState guarded state w
  | vlan | macvlan | vlandev => exact h.stackedSetState guarded state w
  | veth => exact h.vethSetState state w
  | tunnel => exact h.tunnelSetState state w
  | bridge => exact h.bridgeSetState hkind state w

end Moving

/-- What is returned is not positive. -/
def Nonpos (a : Answer) : Prop := ∀ r, a = some r → r.1 ≤ 0

section Returns

variable {s : Stack} {k : ℕ → Kernel} {call : Call → World → Answer} {p : ℕ} {a a' : Answer}

theorem Nonpos.done {q : ℤ × World} (h : q.1 ≤ 0) : Nonpos (some q) := by
  intro r hr
  rwa [← Option.some.inj hr]

theorem Nonpos.bind {f : ℤ × World → Answer} (h : ∀ q, Nonpos (f q)) : Nonpos (a >>= f) := by
  intro r hr
  obtain ⟨q, -, hr⟩ := Option.bind_eq_some_iff.mp hr
  exact h q r hr

theorem Nonpos.ite {c : Prop} [Decidable c] (h : c → Nonpos a) (h' : Nonpos a') :
    Nonpos (if c then a else a') := by
  split
  · rename_i hc
    exact h hc
  · exact h'

theorem Nonpos.stop {c : Prop} [Decidable c] (h : Nonpos a) :
    Nonpos (if c then none else a) := by
  apply Nonpos.ite _ h
  intro _ r hr
  cases hr

theorem nonpos_linkAdd (k : ℕ → Kernel) (d : ℕ) (w : World) :
    Nonpos (some (systemLinkAdd k d w)) := by
  apply Nonpos.done
  rw [systemLinkAdd]
  dsimp only
  omega

theorem nonpos_deviceState (k : ℕ → Kernel) (d : ℕ) (w : World) :
    Nonpos (some (setDeviceState k d true w)) := .done (setDeviceState_nonpos k d w)

theorem nonpos_enableInterface (k : ℕ → Kernel) (b : ℕ) (w : World) :
    Nonpos (some (bridgeEnableInterface k b w)) := by
  rw [bridgeEnableInterface]
  split
  · exact .done le_rfl
  · exact nonpos_linkAdd k b w

theorem simpleDeviceSetState_nonpos (guarded : Bool) (w : World) :
    Nonpos (simpleDeviceSetState s k guarded call p true w) := by
  rw [simpleDeviceSetState]
  dsimp only
  cases pdev s p (findParent s k p true w) with
  | none => exact nonpos_deviceState k p _
  | some q =>
    exact .ite (fun _ => .bind fun _ => .ite (fun hneg => .done hneg.le)
      (.stop (nonpos_deviceState k p _))) (.bind fun _ => .done (by simp [setDeviceState]))

theorem stackedSetState_nonpos (guarded : Bool) (w : World) :
    Nonpos (stackedSetState s k guarded call p true w) := by
  rw [stackedSetState]
  cases s.base p with
  | none => exact .done (by simp)
  | some q =>
    refine .ite (fun _ => .ite (fun _ => ?_) ?_) (.bind fun _ => .done (by simp))
    · exact .bind fun _ => .ite (fun hneg => .done hneg.le)
        (.ite (fun _ => .stop (.bind fun _ => .done (setDeviceState_nonpos ..)))
          (nonpos_deviceState k p _))
    · exact .bind fun _ => .ite (fun hneg => .done hneg.le)
        (.ite (fun hneg => .bind fun _ => .done hneg.le)
          (.ite (fun _ => .bind fun _ => .done (setDeviceState_nonpos ..))
            (nonpos_deviceState k p _)))

theorem bridgeSetState_nonpos (w : World) : Nonpos (bridgeSetState k call p true w) := by
  have hmembers (v : World) : Nonpos (bridgeSetUpMembers k call p v) :=
    .bind fun _ => .ite (fun _ => .bind fun _ => .done (by simp))
      (.ite (fun _ => .bind fun _ => .done (setDeviceState_nonpos ..)) (nonpos_deviceState k p _))
  exact .ite (fun _ => .ite (fun _ => .ite (fun _ => .done (by simp))
      (.ite (fun _ => nonpos_enableInterface k p w) (hmembers _))) (hmembers w))
    (.bind fun _ => .done (by simp))

/-- What a state callback returns when it is to bring the device up. -/
theorem setState_nonpos (guarded : Bool) (w : World) :
    Nonpos (setState s k guarded call p true w) := by
  rw [setState]
  cases s.kind p with
  | simple => exact simpleDeviceSetState_nonpos guarded w
  | vlan | macvlan | vlandev => exact stackedSetState_nonpos guarded w
  | veth =>
    exact .ite (fun _ => .ite (fun hneg => .done hneg.le) (.ite (fun _ => .done
      (setDeviceState_nonpos ..)) (nonpos_deviceState k p _))) (.done (by simp))
  | tunnel =>
    simp only [tunnelSetState, if_true]
    refine .ite (fun _ => nonpos_linkAdd k p w) (.done ?_)
    split
    · exact setDeviceState_nonpos k p _
    · exact setDeviceState_nonpos k p _
  | bridge => exact bridgeSetState_nonpos w

end Returns

end Netifd.ClaimAttempts
