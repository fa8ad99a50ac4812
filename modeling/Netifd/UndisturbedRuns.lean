import Netifd.QuietEvents

/-!
# Undisturbed runs

What an interface may do when it is told to go down and no event comes in meanwhile. The call
always comes to an end, and an interface that rises is up then.
-/

namespace Netifd.UndisturbedRuns
open ReentrantProgram ReentrantProgram.Prog QuietEvents
open ForcedTeardown (Running running_of_lifecycle protoCb_teardown interfaceSetDown'_silent)

section Devices

variable {I : LiveInterface → Prop} {slot : DeviceSlot} {s : LiveInterface}

abbrev MayStay {α : Type} (I : LiveInterface → Prop) (x : InterfaceProg α) : Prop :=
  MayKeep quietBody I x

section Claims

variable (hclaimed : ∀ s b, I s → I (s.mapUser slot fun u => { u with claimed := b }))

include hclaimed

theorem releaseDevice_may : MayStay I (releaseDevice slot) := by
  refine MayKeep.after_read fun s => MayKeep.ite (fun _ => ?_) fun _ => MayKeep.pure _
  exact MayKeep.bind (MayKeep.modify fun s => hclaimed s false) fun _ => MayKeep.callbacks

theorem releaseAttached_may : MayStay I (releaseAttached slot) :=
  MayKeep.after_read fun _ => MayKeep.ite (fun _ => MayKeep.pure _) fun _ =>
    releaseDevice_may hclaimed

theorem claimDevice_may (hs : I s) : May quietBody (claimDevice slot)
    (fun ret t => I t ∧ ((s.users slot).dev ≠ none → ret = 0)) s := by
  simp only [claimDevice, may_bind, may_read, may_ite, may_pure, may_modify]
  refine ⟨fun _ => ⟨hs, by simp⟩, fun _ => ⟨fun hdev => ?_, fun _ => may_callbacks ?_⟩⟩
  · exact ⟨hs, fun h => absurd hdev h⟩
  · exact may_ask 0 ⟨fun _ => ⟨hclaimed s true hs, by simp⟩, fun h => absurd rfl h⟩

end Claims

section Slots

variable (hslot : ∀ s f, I s → I (s.mapUser slot f))

include hslot

theorem removeDevice_may : MayStay I (removeDevice slot) := by
  refine MayKeep.after_read fun s => MayKeep.ite (fun _ => MayKeep.pure _) fun _ => ?_
  refine MayKeep.bind (MayKeep.modify fun s => hslot s _) fun _ => ?_
  refine MayKeep.bind (releaseDevice_may fun s _ => hslot s _) fun _ => ?_
  exact MayKeep.bind (MayKeep.modify fun s => hslot s _) fun _ => MayKeep.callbacks

theorem addDevice_may (dev : Option ℕ) : MayStay I (addDevice slot dev) := by
  have hgreetings : MayStay I (greetings slot) := by
    cases slot with
    | main => exact MayKeep.callbacks
    | l3 => exact MayKeep.pure _
    | ext => exact MayKeep.pure _
  refine MayKeep.after_read fun s => MayKeep.ite (fun _ => MayKeep.pure _) fun _ => ?_
  refine MayKeep.bind (removeDevice_may hslot) fun _ => ?_
  cases dev with
  | none => exact MayKeep.pure _
  | some d => exact MayKeep.bind (MayKeep.modify fun s => hslot s _) fun _ => hgreetings

end Slots

theorem interfaceSetL3Dev_may (hslot : ∀ s f, I s → I (s.mapUser .l3 f))
    (hip : ∀ s config proto ip, I s →
      I { s with configIpEnabled := config, protoIpEnabled := proto, protoIp := ip })
    (dev : Option ℕ) : MayStay I (interfaceSetL3Dev {} dev) := by
  have henable : ∀ config proto, MayStay I (enableIp config proto) := fun config proto =>
    MayKeep.modify fun s => hip s config proto s.protoIp
  have hclaim : MayStay I (claimL3Dev {}) := by
    have hdevice : MayStay I (claimDevice .l3) := fun s hs =>
      (claimDevice_may (fun s _ => hslot s _) hs).mono fun _ _ ht => ht.1
    refine hdevice.bind fun _ => MayKeep.after_read fun _ => ?_
    exact MayKeep.bind MayKeep.require fun _ => MayKeep.pure _
  refine MayKeep.after_read fun s => MayKeep.ite (fun _ => MayKeep.pure _) fun _ => ?_
  refine MayKeep.bind (MayKeep.modify fun s => hip s false false {}) fun _ => ?_
  refine MayKeep.bind (addDevice_may hslot dev) fun _ => ?_
  refine MayKeep.ite (fun _ => MayKeep.pure _) fun _ => MayKeep.ite (fun _ => ?_) fun _ => ?_
  · exact hclaim.bind fun _ => MayKeep.ite (fun _ => MayKeep.pure _) fun _ => henable _ _
  · exact henable _ _

end Devices

section Down

variable {s t : LiveInterface}

/-- Nothing changes that can be seen. -/
abbrev MayLook {α : Type} (s : LiveInterface) (x : InterfaceProg α) : Prop :=
  MayStay (fun t => visible t = visible s) x

theorem claimed_visible {slot : DeviceSlot} {v : LiveInterface} (t : LiveInterface) (b : Bool)
    (ht : visible t = visible v) :
    visible (t.mapUser slot fun u => { u with claimed := b }) = visible v :=
  (visible_mapUser (f := fun u => { u with claimed := b }) (.inr fun _ => rfl)).trans ht

theorem l3_visible {v : LiveInterface} (t : LiveInterface) (f : DeviceUser → DeviceUser)
    (ht : visible t = visible v) : visible (t.mapUser .l3 f) = visible v :=
  (visible_mapUser (.inl (by simp))).trans ht

theorem markInterfaceDown_may (hstate : s.state ≠ .down) : May quietBody markInterfaceDown
    (fun _ t => visible t = visible { s with state := .down }) s := by
  have hflush : MayLook { s with state := .down } interfaceFlushState :=
    releaseAttached_may claimed_visible
  simp only [markInterfaceDown, interfaceEvent, may_bind, may_read, may_ite, may_modify, may_pure]
  refine ⟨fun h => absurd h hstate, fun _ => ⟨fun _ => ?_, fun _ => ?_⟩⟩
  · exact hflush _ rfl
  · exact hflush _ rfl

theorem interfaceProtoDown_may (hstate : s.state ≠ .down) {R : LiveInterface → Prop}
    (hchange : ∀ t, visible t = visible { s with state := .down } →
      May quietBody (interfaceHandleConfigChange {}) (fun _ u => R u) t) :
    May quietBody (interfaceProtoDown {}) (fun _ u => R u) s := by
  rw [interfaceProtoDown, may_bind, may_read, if_neg hstate, may_bind]
  refine (markInterfaceDown_may hstate).mono fun _ t ht => ?_
  rw [may_bind]
  refine (releaseAttached_may claimed_visible t ht).mono fun _ u hu => ?_
  rw [may_bind]
  exact (removeDevice_may l3_visible u hu).mono fun _ v hv => hchange v hv

theorem may_quietBody {p : InterfaceCall} (hp : wakes s p = false) {Q : ℤ → LiveInterface → Prop}
    (h : May quietBody (interfaceBody {} p) Q s) : May quietBody (quietBody p) Q s :=
  may_guarded (by simp [awakens, hp]) h

/-- An immediate protocol that could be attached. -/
def Answers (s : LiveInterface) : Prop :=
  ∃ proto, s.proto = some proto ∧ proto.cb ≠ .invalid ∧ proto.cb ≠ .shell ∧
    proto.handler.immediate = true

theorem Answers.congr (h : Answers s) (hproto : t.proto = s.proto) : Answers t := by
  rw [Answers, hproto]
  exact h

theorem protoTeardown_may (h : Answers s) {R : LiveInterface → Prop}
    (hdown : May quietBody (interfaceProtoDown {}) (fun _ u => R u) s) :
    May quietBody (interfaceProtoEvent {} .teardown) (fun _ u => R u) s := by
  obtain ⟨proto, hproto, hvalid, hcb, himmediate⟩ := h
  rw [interfaceProtoEvent, may_bind, may_read, hproto]
  dsimp only
  rw [protoCb_teardown hvalid hcb, may_bind, may_pure, if_neg (by simp [himmediate]), may_bind,
    may_invoke]
  refine may_quietBody rfl ?_
  rw [interfaceBody, may_bind]
  exact hdown.mono fun _ _ hu => by simpa using hu

end Down

section Up

variable {s t : LiveInterface}

theorem ip_visible {v : LiveInterface} (t : LiveInterface) (config proto : Bool) (ip : IpContents)
    (ht : visible t = visible v) :
    visible { t with configIpEnabled := config, protoIpEnabled := proto, protoIp := ip } =
      visible v := ht

theorem staticProtoSetup_may : May quietBody (staticProtoSetup {})
    (fun ret t => ret = 0 ∧ visible t = visible s) s := by
  have hl3 : MayLook s (interfaceSetL3Dev {} (s.users .main).dev) :=
    interfaceSetL3Dev_may l3_visible ip_visible _
  rw [staticProtoSetup, may_bind, may_read, may_bind]
  refine (hl3 s rfl).mono fun _ t ht => ?_
  rw [may_bind]
  refine may_ask 0 ?_
  rw [may_bind, may_modify, may_bind]
  refine may_ask 0 ?_
  rw [if_pos rfl, may_pure]
  exact ⟨rfl, ht⟩

theorem protoCb_may {proto : InterfaceProtoState} (hvalid : proto.cb ≠ .invalid)
    (hcb : proto.cb ≠ .shell) : May quietBody (protoCb {} proto .setup)
      (fun ret t => ret = 0 ∧ visible t = visible s) s := by
  unfold protoCb
  cases h : proto.cb with
  | none => simp
  | static => exact staticProtoSetup_may
  | shell => exact absurd h hcb
  | invalid => exact absurd h hvalid

theorem interfaceProtoUp_may (hstate : s.state = .setup) :
    May quietBody (interfaceProtoUp {}) (fun _ t => t.state = .up) s := by
  have hl3 : MayLook s (interfaceSetL3Dev {} (s.users .main).dev) :=
    interfaceSetL3Dev_may l3_visible ip_visible _
  rw [interfaceProtoUp, may_bind, may_read, if_neg (not_not_intro hstate)]
  split_ifs
  · rw [may_bind]
    refine (hl3 s rfl).mono fun _ t _ => ?_
    simp [interfaceEvent]
  · simp [interfaceEvent]

theorem interfaceSetUp'_may (h : Answers s) :
    May quietBody (interfaceSetUp' {}) (fun _ t => t.state = .up) s := by
  obtain ⟨proto, hproto, hvalid, hcb, himmediate⟩ := h
  have hsetup : May quietBody (interfaceProtoEvent {} .setup)
      (fun ret t => ret = 0 ∧ t.state = .up) { s with state := .setup } := by
    rw [interfaceProtoEvent, may_bind, may_read, hproto]
    dsimp only
    rw [may_bind]
    refine (protoCb_may hvalid hcb).mono fun ret t ht => ?_
    obtain ⟨rfl, hvisible⟩ := ht
    have hstate : t.state = .setup := congrArg Prod.fst hvisible
    rw [if_neg (by simp [himmediate]), may_bind, may_invoke]
    refine may_quietBody rfl ?_
    rw [interfaceBody, may_bind]
    exact (interfaceProtoUp_may hstate).mono fun _ u hu => by simpa using hu
  rw [interfaceSetUp', may_bind, may_modify, may_bind]
  refine hsetup.mono fun ret t ht => ?_
  rw [if_neg (not_not_intro ht.1), may_pure]
  exact ht.2

theorem starts_congr (h : visible t = visible s) : starts t = starts s := by
  simp only [visible, Prod.mk.injEq] at h
  obtain ⟨-, -, -, hconf, havailable, henabled, hlink, hinit, -⟩ := h
  simp only [starts, hconf, havailable, henabled, hlink, hinit]

theorem interfaceCheckState_may (h : Answers s) (hdown : s.state = .down)
    (hstarts : starts s = true) :
    May quietBody (interfaceCheckState {}) (fun _ t => t.state = .up) s := by
  rw [interfaceCheckState, may_bind, may_read, hdown]
  dsimp only
  rw [if_pos (by simpa only [starts] using hstarts), may_bind]
  exact (interfaceSetUp'_may h).mono fun _ t ht => by simpa using ht

theorem interfaceSetUp_may (h : Answers s) (hdown : s.state = .down)
    (hauto : s.conf.autostart = true) (havailable : s.available = true)
    (hready : (s.users .main).dev = none ∨ starts s = true) :
    May quietBody (interfaceSetUp {}) (fun _ t => t.state = .up) s := by
  have hsame : { s.conf with autostart := true } = s.conf := by rw [← hauto]
  rw [interfaceSetUp, may_bind, may_modify, hsame, may_bind, may_read, if_neg (by simp [hdown]),
    if_neg (by simp [havailable])]
  split_ifs with hdev
  · exact interfaceSetUp'_may h
  · have hstarts : starts s = true := hready.resolve_left hdev
    rw [may_bind]
    refine (claimDevice_may claimed_visible (rfl : visible s = visible s)).mono fun ret t ht => ?_
    obtain ⟨hvisible, hclaimed⟩ := ht
    have hproto : t.proto = s.proto := congrArg (fun v => v.2.2.1) hvisible
    have hstate : t.state = .down := (congrArg Prod.fst hvisible).trans hdown
    rw [if_pos (hclaimed hdev), may_bind]
    refine (interfaceCheckState_may (h.congr hproto) hstate
      ((starts_congr hvisible).trans hstarts)).mono fun _ u hu => ?_
    simpa using hu

end Up

section Removal

variable {s t : LiveInterface}

/-- Nothing sets the interface up. -/
def Withdrawn (s : LiveInterface) : Prop := s.state = .down ∧ s.available = false

theorem interfaceSetAvailable_may (hdown : s.state = .down) :
    May quietBody (interfaceSetAvailable {} false) (fun _ t => Withdrawn t) s := by
  rw [interfaceSetAvailable, may_bind, may_read, may_ite, may_pure, may_bind, may_modify]
  refine ⟨fun havailable => ⟨hdown, havailable⟩, fun _ => ?_⟩
  rw [if_neg (by simp), interfaceSetDown', may_bind, may_read, hdown]
  exact releaseAttached_may (I := Withdrawn) (fun _ _ h => h) _ ⟨rfl, rfl⟩

theorem interfaceSetLinkState_may : MayStay Withdrawn (interfaceSetLinkState {} false) := by
  intro s hs
  rw [interfaceSetLinkState, may_bind, may_read, may_ite, may_pure, may_bind, may_modify]
  refine ⟨fun _ => hs, fun _ => ?_⟩
  rw [may_bind, interfaceCheckState, may_bind, may_read, hs.1]
  dsimp only
  rw [if_neg (by simp [hs.2]), may_pure, may_bind, may_read, if_neg (by simp), may_pure]
  exact ⟨rfl, hs.2⟩

theorem interfaceSetMainDev_may : MayStay Withdrawn (interfaceSetMainDev {} none) := by
  refine MayKeep.after_read fun s => MayKeep.ite (fun _ => MayKeep.pure _) fun _ => ?_
  refine MayKeep.bind (fun t ht => interfaceSetAvailable_may ht.1) fun _ => ?_
  refine MayKeep.bind (addDevice_may (fun _ _ h => h) none) fun _ => ?_
  rw [if_pos rfl]
  exact interfaceSetLinkState_may

theorem interfaceSetProtoState_may : MayStay Withdrawn (interfaceSetProtoState {} none) :=
  MayKeep.after_read fun _ => MayKeep.bind MayKeep.require fun _ =>
    MayKeep.modify fun _ h => ⟨rfl, h.2⟩

theorem interfaceDoFree_may (hdown : s.state = .down) :
    May quietBody (interfaceDoFree {}) (fun _ _ => True) s := by
  have hemptied : MayStay Withdrawn (do
      interfaceFlushState
      interfaceSetProtoState {} none
      interfaceSetMainDev {} none
      interfaceSetL3Dev {} none) := by
    refine MayKeep.bind (releaseAttached_may fun _ _ h => h) fun _ => ?_
    refine MayKeep.bind interfaceSetProtoState_may fun _ => ?_
    refine MayKeep.bind interfaceSetMainDev_may fun _ => ?_
    exact interfaceSetL3Dev_may (fun _ _ h => h) (fun _ _ _ _ h => h) none
  have hext : MayStay (fun t => t.state = .down) (removeDevice .ext) :=
    removeDevice_may fun _ _ h => h
  rw [interfaceDoFree, may_bind, interfaceEvent, may_modify, may_bind, interfaceCleanup, may_bind]
  refine May.mono (fun _ t ht => ?_) (hext _ (by exact hdown))
  rw [interfaceCleanupState, may_bind]
  refine (interfaceSetAvailable_may ht).mono fun _ u hu => ?_
  refine (hemptied u hu).mono fun _ _ _ => ?_
  rw [may_modify]
  trivial

theorem setConfigState_may (hdown : s.state = .down) :
    May quietBody (setConfigState {} .remove) (fun _ _ => True) s := by
  rw [setConfigState, may_bind, may_modify, may_bind, may_read, if_pos (by exact hdown),
    interfaceHandleConfigChange, may_bind, may_read, may_bind, may_modify]
  exact interfaceDoFree_may hdown

end Removal

section Call

variable {s t : LiveInterface}

theorem interfaceSetUp_ends (h : Answers s) (hdown : s.state = .down)
    (hauto : s.conf.autostart = true) (havailable : s.available = true) :
    May quietBody (interfaceSetUp {}) (fun _ _ => True) s := by
  by_cases hready : (s.users .main).dev = none ∨ starts s = true
  · exact (interfaceSetUp_may h hdown hauto havailable hready).mono fun _ _ _ => trivial
  rw [not_or, Bool.not_eq_true] at hready
  have hsame : { s.conf with autostart := true } = s.conf := by rw [← hauto]
  rw [interfaceSetUp, may_bind, may_modify, hsame, may_bind, may_read, if_neg (by simp [hdown]),
    if_neg (by simp [havailable]), if_neg hready.1, may_bind]
  refine (claimDevice_may claimed_visible (rfl : visible s = visible s)).mono fun ret t ht => ?_
  obtain ⟨hvisible, hclaimed⟩ := ht
  have hstate : t.state = .down := (congrArg Prod.fst hvisible).trans hdown
  have hlow : starts t = false := (starts_congr hvisible).trans hready.2
  rw [if_pos (hclaimed hready.1), may_bind, interfaceCheckState, may_bind, may_read, hstate]
  dsimp only
  rw [if_neg (by simpa only [starts, Bool.not_eq_true] using hlow), may_pure, may_pure]
  trivial

theorem restartInterface_ends (h : Answers s) (hdown : s.state = .down) :
    May quietBody (restartInterface {}) (fun _ _ => True) s := by
  rw [restartInterface, may_bind, may_read, may_ite, may_bind, may_ite, may_bind, may_invoke]
  refine ⟨fun hwanted => ?_, fun _ => ⟨fun _ => ?_, fun _ => by simp⟩⟩
  · rw [Bool.and_eq_true] at hwanted
    exact (interfaceSetUp_ends h hdown hwanted.1 hwanted.2).mono fun _ _ _ => by simp
  · refine may_quietBody rfl ?_
    rw [interfaceBody, may_bind]
    exact (setConfigState_may hdown).mono fun _ _ _ => by simp

theorem restartInterface_rises (h : Answers s) (hdown : s.state = .down)
    (hauto : s.conf.autostart = true) (havailable : s.available = true)
    (hready : (s.users .main).dev = none ∨ starts s = true) :
    May quietBody (restartInterface {}) (fun _ t => t.state = .up) s := by
  rw [restartInterface, may_bind, may_read, if_pos (by simp [hauto, havailable]), may_bind]
  exact (interfaceSetUp_may h hdown hauto havailable hready).mono fun _ _ ht => by simpa using ht

theorem Running.answers {r : Running} (hcb : r.proto.cb ≠ .shell) : Answers r.iface :=
  ⟨r.proto, r.attached, r.valid, hcb, (r.coherent r.valid).mpr hcb⟩

theorem interfaceSetDown'_may {r : Running} (hcb : r.proto.cb ≠ .shell)
    (hnormal : r.iface.configState = .normal) {R : LiveInterface → Prop}
    (hrestart : ∀ t, visible t = visible { r.iface with state := .down } →
      May quietBody (restartInterface {}) (fun _ u => R u) t) :
    May quietBody (interfaceSetDown' {} false) (fun _ u => R u) r.iface := by
  have hteardown : ∀ t : LiveInterface, t.state ≠ .down → t.proto = r.iface.proto →
      visible { t with state := .down } = visible { r.iface with state := .down } →
      May quietBody (interfaceProtoEvent {} .teardown) (fun _ u => R u) t := by
    intro t hstate hproto hvisible
    refine protoTeardown_may ((Running.answers hcb).congr hproto) ?_
    refine interfaceProtoDown_may hstate fun u hu => ?_
    have hconfig : u.configState = .normal :=
      (congrArg (fun v => v.2.1) (hu.trans hvisible)).trans hnormal
    rw [interfaceHandleConfigChange, may_bind, may_read, may_bind, may_modify, hconfig]
    refine hrestart _ (Eq.trans ?_ (hu.trans hvisible))
    simp only [visible, hconfig]
  rw [interfaceSetDown', may_bind, may_read]
  rcases r.state with hsetup | hup
  · rw [hsetup]
    simp only [may_bind, may_modify, may_pure, reduceCtorEq, if_false]
    exact hteardown _ (by simp) rfl rfl
  · rw [hup]
    simp only [interfaceEvent, may_bind, may_modify, may_pure, reduceCtorEq, if_true, if_false]
    exact hteardown _ (by simp) rfl rfl

theorem normal_of_running (hlife : Lifecycle {} ⟨true, .any⟩ s)
    (hstate : s.state = .setup ∨ s.state = .up) : s.configState = .normal := by
  refine hlife.normal ?_ rfl
  rcases hstate with hstate | hstate
  · simp [hstate]
  · simp [hstate]

theorem interfaceSetDown'_rises (hlife : Lifecycle {} ⟨true, .any⟩ s) (hrises : Rises s) :
    May quietBody (interfaceSetDown' {} false) (fun _ t => t.state = .up) s := by
  have hnormal : s.configState = .normal := normal_of_running hlife hrises.state
  obtain ⟨r, rfl⟩ := running_of_lifecycle hlife hrises.state
  have hcb : r.proto.cb ≠ .shell := by simpa [r.isShell_eq] using hrises.immediate
  refine interfaceSetDown'_may hcb hnormal fun t ht => ?_
  have hstarts : starts t = starts r.iface :=
    starts_congr (s := { r.iface with state := .down }) ht
  simp only [visible, Prod.mk.injEq] at ht
  obtain ⟨hdown, -, hproto, hconf, havailable, -, -, -, hdev⟩ := ht
  exact restartInterface_rises ((Running.answers hcb).congr hproto) hdown
    (hconf ▸ hrises.wanted) (havailable.trans hrises.available)
    (hrises.ready.imp hdev.trans hstarts.trans)

theorem interfaceSetDown'_ends (hlife : Lifecycle {} ⟨true, .any⟩ s) :
    ReentrantProgram.Ends quietBody (interfaceSetDown' {} false) s := by
  have hrunning : s.state = .setup ∨ s.state = .up →
      ReentrantProgram.Ends quietBody (interfaceSetDown' {} false) s := by
    intro hstate
    have hnormal : s.configState = .normal := normal_of_running hlife hstate
    obtain ⟨r, rfl⟩ := running_of_lifecycle hlife hstate
    by_cases hcb : r.proto.cb = .shell
    · exact interfaceSetDown'_silent hcb false
    · obtain ⟨_, t, hrun, -⟩ := interfaceSetDown'_may hcb hnormal fun t ht => by
        have hproto : t.proto = r.iface.proto := congrArg (fun v => v.2.2.1) ht
        exact restartInterface_ends ((Running.answers hcb).congr hproto) (congrArg Prod.fst ht)
      exact ⟨(), t, hrun⟩
  cases hstate : s.state with
  | down =>
    apply ReentrantProgram.Ends.read_bind
    rw [hstate]
    obtain ⟨_, t, hrun, -⟩ := releaseAttached_may (I := fun _ => True) (fun _ _ h => h) s trivial
    exact ⟨(), t, hrun⟩
  | teardown =>
    apply ReentrantProgram.Ends.read_bind
    rw [hstate]
    exact ReentrantProgram.Ends.pure _
  | setup => exact hrunning (.inl hstate)
  | up => exact hrunning (.inr hstate)

end Call

end Netifd.UndisturbedRuns
