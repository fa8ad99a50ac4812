import Netifd.ForcedTeardown

/-!
# Interfaces at rest

What an interface does that is down, or waits for its teardown, while its devices and the other
interfaces tell it only what does not let it start. It stays so; and one that goes down stays down
unless it wants to be up, is available, and has what it needs.
-/

namespace Netifd.QuietEvents
open ReentrantProgram ReentrantProgram.Prog
open ForcedTeardown (running_of_lifecycle protoCb_teardown)

/-- What its devices, its parent and those that it depends on tell an interface. -/
def isNews : InterfaceCall → Bool
  | .parentEvent _ _ | .dependencyUp _ | .dependencyDown _ => true
  | p => isDeviceEvent p

/-- What `interface_check_state` asks of an interface that is down, to set it up. -/
def starts (s : LiveInterface) : Bool :=
  s.available &&
    (s.conf.autostart && s.enabled && (s.linkState || s.conf.forceLink) && !s.configInit)

/-- The event lets an interface that is down start. -/
def wakes (s : LiveInterface) : InterfaceCall → Bool
  | .mainDevEvent .add => s.conf.autostart && !s.available
  | .mainDevEvent .up => starts { s with enabled := true }
  | .mainDevEvent .linkUp => starts { s with linkState := true }
  -- the state is checked after the loss of a link, too
  | .mainDevEvent .linkDown => starts { s with linkState := false }
  | .parentEvent .up (some dev) =>
    s.conf.autostart && (!s.available || (s.users .main).dev != some dev)
  | .dependencyUp _ => s.conf.autostart && !s.available
  | _ => false

/-- The event may start the interface. -/
def awakens (p : InterfaceCall) (s : LiveInterface) : Bool := s.state == .down && wakes s p

/-- The machine in which no such event comes. -/
def quietBody : InterfaceCall → InterfaceProg ℤ :=
  guarded (fun p s => !awakens p s) (interfaceBody {})

/-- How sure it is that an interface that is down stays so: as long as its events are quiet, also
when it is told to restart, as long as it is not available, or as long as it does not want to be
up. -/
inductive Rest
  | asleep
  | unready
  | off
  | unwanted

def Rest.Holds : Rest → LiveInterface → Prop
  | .asleep, _ => True
  | .unready, s =>
    starts s = false ∧
      (s.conf.autostart = true → s.available = true → (s.users .main).dev ≠ none)
  | .off, s => s.conf.autostart = true → s.available = false
  | .unwanted, s => s.conf.autostart = false

/-- What is known once the interface is not available. -/
def Rest.withdrawn : Rest → Rest
  | .unwanted => .unwanted
  | _ => .off

/-- An interface that is down, with no reload pending. -/
structure Resting (r : Rest) (s : LiveInterface) : Prop where
  down : s.state = .down
  config : s.configState ≠ .reload
  coherent : ∀ proto, s.proto = some proto → proto.Coherent
  rest : r.Holds s

/-- The interface of a shell protocol that waits for the end of its teardown. -/
structure Waiting (s : LiveInterface) : Prop where
  state : s.state = .teardown
  shell : s.isShell = true
  coherent : ∀ proto, s.proto = some proto → proto.Coherent

/-- An immediate protocol is about to answer its teardown. -/
structure Falling (s : LiveInterface) : Prop where
  state : s.state ≠ .down
  config : s.configState = .normal
  coherent : ∀ proto, s.proto = some proto → proto.Coherent
  rest : Rest.unready.Holds s

/-- What is asked of a resting interface when a call comes. -/
def settles : InterfaceCall → Rest → Prop
  | .protoEvent _, _ => True
  | .setConfigState state, r => state = .remove ∧ r = .off
  | p, _ => isNews p = true

/-- What the calls do that come out of quiet events. -/
def quietSpec : Spec LiveInterface InterfaceCall := fun p s _ t =>
  (isNews p = true ∨ p = .protoEvent .linkLost → Waiting s → Waiting t) ∧
  (∀ r, settles p r → Resting r s → Resting r t) ∧
  (p = .protoEvent .down → Falling s → Resting .unready t)

/-- What the invariants speak of. -/
def visible (s : LiveInterface) :=
  (s.state, s.configState, s.proto, s.conf, s.available, s.enabled, s.linkState, s.configInit,
    (s.users .main).dev)

section Resting

variable {r : Rest} {s t : LiveInterface} {slot : DeviceSlot}

theorem Rest.Holds.congr (h : r.Holds s) (hconf : t.conf = s.conf)
    (havailable : t.available = s.available) (henabled : t.enabled = s.enabled)
    (hlink : t.linkState = s.linkState) (hinit : t.configInit = s.configInit)
    (hdev : (t.users .main).dev = (s.users .main).dev) : r.Holds t := by
  revert h
  cases r with
  | asleep => exact id
  | unready =>
    simp only [Rest.Holds, starts, hconf, havailable, henabled, hlink, hinit, hdev]
    exact id
  | off =>
    simp only [Rest.Holds, hconf, havailable]
    exact id
  | unwanted =>
    simp only [Rest.Holds, hconf]
    exact id

theorem Resting.congr (h : Resting r s) (heq : visible t = visible s) : Resting r t := by
  simp only [visible, Prod.mk.injEq] at heq
  obtain ⟨hstate, hconfig, hproto, hconf, havailable, henabled, hlink, hinit, hdev⟩ := heq
  exact ⟨hstate.trans h.down, hconfig ▸ h.config, hproto ▸ h.coherent,
    h.rest.congr hconf havailable henabled hlink hinit hdev⟩

theorem Resting.off_of_withdrawn (h : Resting r.withdrawn s) : Resting .off s := by
  refine ⟨h.down, h.config, h.coherent, ?_⟩
  have hrest := h.rest
  cases r with
  | unwanted => exact fun hauto => absurd (hrest.symm.trans hauto) (by simp)
  | _ => exact hrest

theorem starts_of_off (h : Rest.off.Holds s) : starts s = false := by
  cases hauto : s.conf.autostart with
  | false => simp [starts, hauto]
  | true => simp [starts, h hauto]

theorem Resting.of_withdrawn (h : Resting r.withdrawn s) : Resting r s := by
  refine ⟨h.down, h.config, h.coherent, ?_⟩
  have hoff : Rest.off.Holds s := h.off_of_withdrawn.rest
  cases r with
  | asleep => trivial
  | unready =>
    refine ⟨starts_of_off hoff, fun hauto havailable => ?_⟩
    exact absurd ((hoff hauto).symm.trans havailable) (by simp)
  | off => exact hoff
  | unwanted => exact h.rest

theorem Resting.asleep (h : Resting r s) : Resting .asleep s :=
  ⟨h.down, h.config, h.coherent, trivial⟩

end Resting

section Down

variable {α : Type} {r : Rest} {s t : LiveInterface} {slot : DeviceSlot}

abbrev Rests (r : Rest) (x : InterfaceProg α) : Prop := Preserves quietSpec (Resting r) x

theorem deviceCallbacks_rests : Rests r deviceCallbacks := by
  refine Preserves.callbacks fun p _ _ _ hp hspec hs => hspec.2.1 r ?_ hs
  cases p <;> first | rfl | cases hp

theorem protoEvent_rests (ev : InterfaceProtoEvent) : Rests r (invoke (.protoEvent ev)) :=
  fun _ hs _ _ hspec => hspec.2.1 r trivial hs

theorem modify_rests {f : LiveInterface → LiveInterface} (hf : ∀ s, visible (f s) = visible s) :
    Rests r (modify f) := Preserves.modify fun s hs => hs.congr (hf s)

theorem interfaceEvent_rests (ev : InterfaceEvent) : Rests r (interfaceEvent ev) :=
  modify_rests fun _ => rfl

theorem visible_mapUser {f : DeviceUser → DeviceUser}
    (hf : slot ≠ .main ∨ ∀ u, (f u).dev = u.dev) : visible (s.mapUser slot f) = visible s := by
  rcases hf with hslot | hf
  · simp [visible, LiveInterface.mapUser, Ne.symm hslot]
  · simp only [visible, LiveInterface.mapUser]
    split_ifs
    · rw [hf]
    · rfl

theorem claimSteps_rests (slot : DeviceSlot) : ClaimSteps quietSpec (Resting r) slot where
  callbacks := deviceCallbacks_rests
  claimed _ _ hs := hs.congr (visible_mapUser (.inr fun _ => rfl))
  unplugged _ hs := hs.congr (visible_mapUser (.inr fun _ => rfl))

theorem claimDevice_rests : Rests r (claimDevice slot) := (claimSteps_rests slot).claimDevice

theorem releaseAttached_rests : Rests r (releaseAttached slot) :=
  (claimSteps_rests slot).releaseAttached

theorem slotSteps_rests (hslot : slot ≠ .main ∨ r ≠ .unready) :
    SlotSteps quietSpec (Resting r) slot := by
  refine ⟨claimSteps_rests slot, fun s dev hs => ?_⟩
  rcases hslot with hslot | hr
  · exact hs.congr (visible_mapUser (.inl hslot))
  · refine ⟨hs.down, hs.config, hs.coherent, ?_⟩
    have hrest := hs.rest
    cases r with
    | unready => exact absurd rfl hr
    | _ => exact hrest

theorem removeDevice_rests (hslot : slot ≠ .main) : Rests r (removeDevice slot) :=
  (slotSteps_rests (.inl hslot)).removeDevice

theorem claimL3Dev_rests : Rests r (claimL3Dev {}) := (claimSteps_rests .l3).claimL3Dev

theorem interfaceSetL3Dev_rests (dev : Option ℕ) : Rests r (interfaceSetL3Dev {} dev) :=
  (slotSteps_rests (.inl (by simp))).interfaceSetL3Dev (fun _ _ _ _ hs => hs.congr rfl) dev

theorem coherent_setShell {f : ProtoShellState → ProtoShellState}
    (h : ∀ proto, s.proto = some proto → proto.Coherent) (proto : InterfaceProtoState)
    (hproto : (s.proto.map fun proto => { proto with shell := f proto.shell }) = some proto) :
    proto.Coherent := by
  obtain ⟨old, hold, rfl⟩ := Option.map_eq_some_iff.mp hproto
  exact h old hold

theorem Resting.setShell (hs : Resting r s) (f : ProtoShellState → ProtoShellState) : Resting r
    { s with proto := s.proto.map fun proto => { proto with shell := f proto.shell } } :=
  ⟨hs.down, hs.config, coherent_setShell hs.coherent, hs.rest.congr rfl rfl rfl rfl rfl rfl⟩

theorem setShell_rests (f : ProtoShellState → ProtoShellState) : Rests r (setShell f) :=
  Preserves.modify fun _ hs => hs.setShell f

theorem interfaceProtoEvent_rests {cmd : InterfaceProtoCmd} (hcmd : cmd ≠ .setup) :
    Rests r (interfaceProtoEvent {} cmd) := by
  refine Preserves.after_read fun s => ?_
  cases s.proto with
  | none => exact fun _ _ => trivial
  | some proto =>
    have hcb : Rests r (protoCb {} proto cmd) := by
      unfold protoCb
      cases proto.cb with
      | none => exact Preserves.pure _
      | invalid => exact Preserves.pure _
      | shell => exact protoShellHandler_keeps setShell_rests cmd
      | static =>
        cases cmd with
        | setup => exact absurd rfl hcmd
        | teardown => exact Preserves.pure _
        | renew => exact Preserves.pure _
    refine hcb.bind fun ret => Preserves.ite (fun _ => Preserves.pure _) fun _ => ?_
    exact (protoEvent_rests _).bind fun _ => Preserves.pure _

theorem interfaceSetDown'_rests (force : Bool) : Rests r (interfaceSetDown' {} force) := by
  refine Preserves.read_bind fun s hs => ?_
  rw [hs.down]
  exact releaseAttached_rests s hs

theorem interfaceCheckState_rests (hs : Resting r s) (hstarts : starts s = false) :
    wp quietSpec (interfaceCheckState {}) (fun _ t => Resting r t) s := by
  rw [interfaceCheckState, wp_bind, wp_read, hs.down]
  dsimp only
  rw [if_neg (by simpa only [starts, Bool.not_eq_true] using hstarts)]
  exact hs

theorem Resting.relink (hs : Resting r s) {enabled linkState : Bool}
    (hstarts : starts { s with enabled, linkState } = false) :
    Resting r { s with enabled, linkState } := by
  refine ⟨hs.down, hs.config, hs.coherent, ?_⟩
  have hrest := hs.rest
  cases r with
  | asleep => trivial
  | unready => exact ⟨hstarts, hrest.2⟩
  | off => exact hrest
  | unwanted => exact hrest

theorem interfaceSetEnabled_rests (hs : Resting r s) {enabled : Bool}
    (hstarts : starts { s with enabled } = false) :
    wp quietSpec (interfaceSetEnabled {} enabled) (fun _ t => Resting r t) s := by
  rw [interfaceSetEnabled, wp_bind, wp_read, wp_ite, wp_bind, wp_modify, wp_pure]
  exact ⟨fun _ => hs, fun _ => interfaceCheckState_rests (hs.relink hstarts) hstarts⟩

theorem interfaceSetLinkState_rests (hs : Resting r s) {linkState : Bool}
    (hstarts : starts { s with linkState } = false) :
    wp quietSpec (interfaceSetLinkState {} linkState) (fun _ t => Resting r t) s := by
  rw [interfaceSetLinkState, wp_bind, wp_read, wp_ite, wp_bind, wp_modify, wp_bind, wp_pure]
  refine ⟨fun _ => hs, fun _ => wp_mono _ (fun _ t ht => ?_)
    (interfaceCheckState_rests (hs.relink hstarts) hstarts)⟩
  rw [wp_bind, wp_read, wp_ite]
  refine ⟨fun hup => ?_, fun _ => ht⟩
  rw [ht.down] at hup
  simp at hup

theorem withdraw_rests (hs : Resting r s) :
    wp quietSpec (interfaceSetAvailable {} false) (fun _ t => Resting r.withdrawn t) s := by
  have hoff : ∀ available, available = false →
      Resting r.withdrawn { s with available } := by
    intro available havailable
    refine ⟨hs.down, hs.config, hs.coherent, ?_⟩
    have hrest := hs.rest
    cases r with
    | unwanted => exact hrest
    | _ => exact fun _ => havailable
  rw [interfaceSetAvailable, wp_bind, wp_read, wp_ite, wp_bind, wp_modify]
  constructor
  · exact hoff s.available
  · intro _
    rw [if_neg (by simp)]
    exact interfaceSetDown'_rests true _ (hoff false rfl)

theorem present_rests (hs : Resting r s)
    (havailable : s.conf.autostart = true → s.available = true) :
    wp quietSpec (interfaceSetAvailable {} true) (fun _ t => Resting r t) s := by
  rw [interfaceSetAvailable, wp_bind, wp_read, wp_ite, wp_bind, wp_modify]
  refine ⟨fun _ => hs, fun hchanged => ?_⟩
  have hauto : s.conf.autostart = false := by
    by_contra hauto
    exact hchanged (havailable (by simpa using hauto))
  rw [if_pos rfl, wp_bind, wp_read, if_neg (by simp [hauto])]
  refine ⟨hs.down, hs.config, hs.coherent, ?_⟩
  cases r with
  | asleep => trivial
  | unready => exact ⟨by simp [starts, hauto], fun h => absurd (hauto.symm.trans h) (by simp)⟩
  | off => exact fun h => absurd (hauto.symm.trans h) (by simp)
  | unwanted => exact hauto

theorem interfaceSetMainDev_rests (dev : Option ℕ) : Rests r (interfaceSetMainDev {} dev) := by
  have hl3 : Rests r.withdrawn (do
      let s ← read
      if (s.users .l3).dev = none then interfaceSetL3Dev {} dev else pure ()) :=
    Preserves.after_read fun _ => Preserves.ite (fun _ => interfaceSetL3Dev_rests dev) fun _ =>
      Preserves.pure _
  have hunlink : Rests r.withdrawn (interfaceSetLinkState {} false) := fun t ht =>
    interfaceSetLinkState_rests ht (starts_of_off ht.off_of_withdrawn.rest)
  have hmain : DeviceSlot.main ≠ .main ∨ r.withdrawn ≠ .unready := by
    cases r <;> simp [Rest.withdrawn]
  refine Preserves.read_bind fun s hs => ?_
  rw [wp_ite, wp_pure, wp_bind]
  refine ⟨fun _ => hs, fun _ => wp_mono _ (fun _ t ht => ?_) (withdraw_rests hs)⟩
  refine Preserves.ends (I := Resting r.withdrawn) ?_ ht fun _ _ hu => hu.of_withdrawn
  refine ((slotSteps_rests hmain).addDevice dev).bind fun _ => ?_
  refine Preserves.ite (fun _ => hunlink) fun _ => ?_
  split_ifs
  · refine claimL3Dev_rests.bind fun ret => ?_
    exact Preserves.ite (fun _ => Preserves.pure _) fun _ => hl3
  · refine Preserves.bind (Preserves.pure _) fun ret => ?_
    exact Preserves.ite (fun _ => Preserves.pure _) fun _ => hl3

theorem wakes_of_down (hs : Resting r s) {p : InterfaceCall} (hquiet : awakens p s = false) :
    wakes s p = false := by simpa [awakens, hs.down] using hquiet

theorem interfaceMainDevCb_rests {ev : DeviceEvent} (hs : Resting r s)
    (hquiet : wakes s (.mainDevEvent ev) = false) :
    wp quietSpec (interfaceMainDevCb {} ev) (fun _ t => Resting r t) s := by
  cases ev with
  | add => exact present_rests hs fun hauto => by simpa [wakes, hauto] using hquiet
  | remove =>
    rw [interfaceMainDevCb, wp_bind]
    refine wp_mono _ (fun _ t ht => ?_) (withdraw_rests hs)
    refine Preserves.ends (I := Resting r.withdrawn) ?_ ht fun _ _ hu => hu.of_withdrawn
    refine Preserves.ask.bind fun n => Preserves.after_read fun s => ?_
    exact Preserves.ite (fun _ => interfaceSetMainDev_rests none) fun _ => Preserves.pure _
  | up => exact interfaceSetEnabled_rests hs hquiet
  | down => exact interfaceSetEnabled_rests hs (by simp [starts])
  | linkUp => exact interfaceSetLinkState_rests hs hquiet
  | linkDown => exact interfaceSetLinkState_rests hs hquiet
  | topoChange =>
    exact Preserves.bind (interfaceProtoEvent_rests (by simp)) (fun _ => Preserves.pure _) s hs
  | _ => exact hs

theorem interfaceL3DevCb_rests (ev : DeviceEvent) : Rests r (interfaceL3DevCb {} ev) := by
  have hteardown : Rests r (do
      let _ ← interfaceProtoEvent {} .teardown
      pure ()) := (interfaceProtoEvent_rests (by simp)).bind fun _ => Preserves.pure _
  exact Preserves.after_read fun _ => Preserves.ite (fun _ => Preserves.pure _) fun _ =>
    Preserves.ite (fun _ => hteardown) fun _ => Preserves.pure _

theorem interfaceExtDevCb_rests (ev : DeviceEvent) : Rests r (interfaceExtDevCb ev) :=
  Preserves.ite (fun _ => removeDevice_rests (by simp)) fun _ => Preserves.pure _

theorem interfaceAliasCb_rests {ev : InterfaceEvent} {dev : Option ℕ} (hs : Resting r s)
    (hquiet : wakes s (.parentEvent ev dev) = false) :
    wp quietSpec (interfaceAliasCb {} ev dev) (fun _ t => Resting r t) s := by
  cases ev with
  | up =>
    cases dev with
    | none => exact hs
    | some d =>
      rw [interfaceAliasCb, if_neg (by simp), wp_bind]
      cases hauto : s.conf.autostart with
      | false =>
        -- that it does not want to be up is the more that has to be remembered here
        have hboth : wp quietSpec (interfaceSetMainDev {} (some d))
            (fun _ t => Resting r t ∧ Resting .unwanted t) s :=
          wp_and _ (interfaceSetMainDev_rests (some d) s hs)
            (interfaceSetMainDev_rests (some d) s ⟨hs.down, hs.config, hs.coherent, hauto⟩)
        refine wp_mono _ (fun _ t ht => present_rests ht.1 fun h => ?_) hboth
        exact absurd (ht.2.rest.symm.trans h) (by simp)
      | true =>
        obtain ⟨havailable, hsame⟩ : s.available = true ∧ (s.users .main).dev = some d := by
          simpa [wakes, hauto] using hquiet
        rw [interfaceSetMainDev, wp_bind, wp_read, if_pos hsame]
        exact present_rests hs fun _ => havailable
  | down =>
    rw [interfaceAliasCb, wp_bind]
    refine wp_mono _ (fun _ t ht => ?_) (withdraw_rests hs)
    exact (interfaceSetMainDev_rests none).ends ht fun _ _ hu => hu.of_withdrawn
  | _ => exact hs

theorem interfaceSetProtoState_rests : Rests r (interfaceSetProtoState {} none) := by
  refine Preserves.after_read fun s => Preserves.bind (Preserves.require _) fun _ => ?_
  refine Preserves.modify fun s hs => ⟨rfl, hs.config, by simp, ?_⟩
  exact hs.rest.congr rfl rfl rfl rfl rfl rfl

theorem interfaceCleanupState_rests : Rests r (interfaceCleanupState {}) := by
  intro s hs
  rw [interfaceCleanupState, wp_bind]
  refine wp_mono _ (fun _ t ht => ?_) (withdraw_rests hs)
  refine Preserves.ends (I := Resting r.withdrawn) ?_ ht fun _ _ hu => hu.of_withdrawn
  refine releaseAttached_rests.bind fun _ => interfaceSetProtoState_rests.bind fun _ => ?_
  exact (interfaceSetMainDev_rests none).bind fun _ => interfaceSetL3Dev_rests none

theorem interfaceDoFree_rests : Rests r (interfaceDoFree {}) := by
  have hcleanup : Rests r (interfaceCleanup {}) :=
    (removeDevice_rests (by simp)).bind fun _ => interfaceCleanupState_rests
  refine (interfaceEvent_rests _).bind fun _ => hcleanup.bind fun _ => ?_
  exact modify_rests fun _ => rfl

theorem setConfigState_rests (hs : Resting r s) :
    wp quietSpec (setConfigState {} .remove) (fun _ t => Resting r t) s := by
  simp only [setConfigState, interfaceHandleConfigChange, wp_bind, wp_modify, wp_read, hs.down,
    if_true]
  refine interfaceDoFree_rests _ ⟨rfl, by simp, hs.coherent, ?_⟩
  exact hs.rest.congr rfl rfl rfl rfl rfl rfl

theorem interfaceSetUp_rests (hs : Resting .unready s) (hauto : s.conf.autostart = true)
    (havailable : s.available = true) :
    wp quietSpec (interfaceSetUp {}) (fun _ t => Resting .unready t) s := by
  have hsame : { s.conf with autostart := true } = s.conf := by rw [← hauto]
  rw [interfaceSetUp, wp_bind, wp_modify, hsame, wp_bind, wp_read, if_neg (by simp [hs.down]),
    if_neg (by simp [havailable]), if_neg (hs.rest.2 hauto havailable)]
  refine claimDevice_rests.followed hs fun ret t ht => ?_
  rw [wp_ite, wp_bind]
  exact ⟨fun _ => interfaceCheckState_rests ht ht.rest.1, fun _ => ht⟩

theorem restartInterface_rests : Rests .unready (restartInterface {}) := by
  refine Preserves.read_bind fun s hs => ?_
  rw [wp_ite, wp_bind, wp_ite, wp_bind]
  refine ⟨fun h => ?_, fun h => ⟨fun _ _ t hspec => ?_, fun _ => hs⟩⟩
  · rw [Bool.and_eq_true] at h
    exact interfaceSetUp_rests hs h.1 h.2
  · have hoff : Resting .off s :=
      ⟨hs.down, hs.config, hs.coherent, fun hauto => by simpa [hauto] using h⟩
    exact Resting.of_withdrawn (r := .unready) (hspec.2.1 .off ⟨rfl, rfl⟩ hoff)

theorem interfaceHandleConfigChange_rests :
    Rests .unready (interfaceHandleConfigChange {}) := by
  refine Preserves.read_bind fun s hs => ?_
  rw [wp_bind, wp_modify]
  have hnormal : Resting .unready { s with configState := .normal } :=
    ⟨hs.down, by simp, hs.coherent, hs.rest.congr rfl rfl rfl rfl rfl rfl⟩
  cases hconfig : s.configState with
  | normal => exact restartInterface_rests _ hnormal
  | reload => exact absurd hconfig hs.config
  | remove => exact interfaceDoFree_rests _ hnormal

theorem markInterfaceDown_falls (hs : Falling s) :
    wp quietSpec markInterfaceDown (fun _ t => Resting .unready t) s := by
  have hdown : Resting .unready { s with linkUpEvent := false, state := .down } :=
    ⟨rfl, by simp [hs.config], hs.coherent, hs.rest.congr rfl rfl rfl rfl rfl rfl⟩
  have hflush : Rests .unready (do
      modify fun s : LiveInterface =>
        { s with configIpEnabled := false, protoIpEnabled := false, protoIp := {} }
      interfaceFlushState) :=
    Preserves.bind (modify_rests fun _ => rfl) fun _ => releaseAttached_rests
  rw [markInterfaceDown, wp_bind, wp_read, if_neg hs.state, wp_bind, wp_modify]
  split_ifs
  · exact (interfaceEvent_rests _).followed hdown fun _ t ht => hflush t ht
  · exact hflush _ hdown

theorem interfaceProtoDown_falls (hs : Falling s) :
    wp quietSpec (interfaceProtoDown {}) (fun _ t => Resting .unready t) s := by
  rw [interfaceProtoDown, wp_bind, wp_read, if_neg hs.state, wp_bind]
  refine wp_mono _ (fun _ t ht => ?_) (markInterfaceDown_falls hs)
  refine releaseAttached_rests.followed ht fun _ u hu => ?_
  refine (removeDevice_rests (by simp)).followed hu fun _ v hv => ?_
  exact interfaceHandleConfigChange_rests v hv

theorem protoShellCheckDependencies_rests (hs : Resting r s)
    (hpresent : s.conf.autostart = true → s.available = true) :
    wp quietSpec (protoShellCheckDependencies {}) (fun _ t => Resting r t) s := by
  rw [protoShellCheckDependencies, wp_bind, wp_read]
  cases s.shell with
  | none => exact hs
  | some st =>
    dsimp only
    cases st.deps.all id with
    | true => exact present_rests hs hpresent
    | false => exact wp_mono _ (fun _ _ ht => ht.of_withdrawn) (withdraw_rests hs)

theorem protoShellUpdateHostDep_rests (hs : Resting r s) {i : ℕ}
    (hquiet : wakes s (.dependencyUp i) = false) :
    wp quietSpec (protoShellUpdateHostDep {} i) (fun _ t => Resting r t) s := by
  rw [protoShellUpdateHostDep, wp_bind, wp_ask]
  intro n
  rw [wp_bind, setShell, wp_modify]
  let found (st : ProtoShellState) : ProtoShellState :=
    if n = 0 then st else { st with deps := st.deps.set i true }
  refine protoShellCheckDependencies_rests (hs.setShell found) fun hauto => ?_
  have hwanted : s.conf.autostart = true := hauto
  simpa [wakes, hwanted] using hquiet

theorem protoShellIfDownCb_rests (i : ℕ) : Rests r (protoShellIfDownCb i) := by
  refine (setShell_rests _).bind fun _ => Preserves.after_read fun s => ?_
  cases s.shell with
  | none => exact Preserves.pure _
  | some st =>
    refine Preserves.ite (fun _ => ?_) fun _ => Preserves.pure _
    refine (protoEvent_rests _).bind fun _ => ?_
    exact (protoShellHandler_keeps setShell_rests _).bind fun _ => Preserves.pure _

theorem interfaceProtoEventCb_rests (ev : InterfaceProtoEvent) :
    Rests r (interfaceProtoEventCb {} ev) := by
  intro s hs
  cases ev with
  | up => simpa [interfaceProtoEventCb, interfaceProtoUp, hs.down] using hs
  | down => simpa [interfaceProtoEventCb, interfaceProtoDown, hs.down] using hs
  | linkLost => simpa [interfaceProtoEventCb, interfaceProtoLinkLost, hs.down] using hs
  | renew => exact hs

end Down

section Waiting

variable {s t : LiveInterface}

theorem Waiting.congr (h : Waiting s) (hstate : t.state = s.state) (hproto : t.proto = s.proto) :
    Waiting t := by
  have hshell : t.isShell = s.isShell := by rw [LiveInterface.isShell, hproto]; rfl
  exact ⟨hstate.trans h.state, hshell.trans h.shell, hproto ▸ h.coherent⟩

abbrev Waits {α : Type} (x : InterfaceProg α) : Prop := Preserves quietSpec Waiting x

theorem deviceCallbacks_waits : Waits deviceCallbacks := by
  refine Preserves.callbacks fun p _ _ _ hp hspec hs => hspec.1 (.inl ?_) hs
  cases p <;> first | rfl | cases hp

theorem setShell_waits (f : ProtoShellState → ProtoShellState) : Waits (setShell f) := by
  refine Preserves.modify fun s hs => ⟨hs.state, ?_, coherent_setShell hs.coherent⟩
  have hshell := hs.shell
  cases hproto : s.proto with
  | none => simp [LiveInterface.isShell, hproto] at hshell
  | some proto => simpa [LiveInterface.isShell, hproto] using hshell

theorem waiting_deviceSteps : DeviceSteps {} quietSpec Waiting := by
  refine DeviceSteps.of_core (fun heq hs => ?_) deviceCallbacks_waits
  simp only [LiveInterface.core, Prod.mk.injEq] at heq
  exact hs.congr heq.2.2.2.1 heq.2.2.2.2.2.2.1

theorem modify_waits {f : LiveInterface → LiveInterface} (hstate : ∀ s, (f s).state = s.state)
    (hproto : ∀ s, (f s).proto = s.proto) : Waits (modify f) :=
  Preserves.modify fun s hs => hs.congr (hstate s) (hproto s)

theorem interfaceProtoEvent_waits (cmd : InterfaceProtoCmd) :
    Waits (interfaceProtoEvent {} cmd) := by
  refine Preserves.read_bind fun s hs => ?_
  cases hproto : s.proto with
  | none => trivial
  | some proto =>
    have hcb : proto.cb = .shell := by simpa [isShell_eq hproto] using hs.shell
    have hlater : proto.handler.immediate = false := by
      simpa [hcb] using hs.coherent proto hproto (by simp [hcb])
    dsimp only
    rw [protoCb, hcb, hlater]
    refine (protoShellHandler_keeps setShell_waits cmd).followed hs fun ret t ht => ?_
    rw [if_pos (.inr rfl)]
    exact ht

theorem interfaceSetDown'_waits (hs : Waiting s) (force : Bool) :
    wp quietSpec (interfaceSetDown' {} force) (fun _ t => Waiting t) s := by
  rw [interfaceSetDown', wp_bind, wp_read, hs.state]
  exact hs

theorem waiting_transitions : Transitions {} quietSpec Waiting where
  toDeviceSteps := waiting_deviceSteps
  emit _ _ := modify_waits (fun _ => rfl) fun _ => rfl
  protoEvent := interfaceProtoEvent_waits
  checkState := Preserves.read_bind fun s hs => by
    rw [hs.state]
    exact hs
  setUp' hs hdown _ := absurd (hs.state.symm.trans hdown) (by simp)
  setDown' s hs := interfaceSetDown'_waits hs false
  present hs := hs.congr rfl rfl
  withdraw {s} hs :=
    have hwithdrawn : Waiting { s with available := false } := hs.congr rfl rfl
    interfaceSetDown'_waits hwithdrawn true

theorem protoShellUpdateHostDep_waits (i : ℕ) : Waits (protoShellUpdateHostDep {} i) := by
  refine Preserves.ask.bind fun n => (setShell_waits _).bind fun _ => ?_
  refine Preserves.after_read fun s => ?_
  cases s.shell with
  | none => exact Preserves.pure _
  | some st => exact waiting_transitions.interfaceSetAvailable_keeps _

theorem protoShellIfDownCb_waits (i : ℕ) : Waits (protoShellIfDownCb i) := by
  have hlost : Waits (invoke (.protoEvent .linkLost)) := fun _ hs _ _ hspec =>
    hspec.1 (.inr rfl) hs
  refine (setShell_waits _).bind fun _ => Preserves.after_read fun s => ?_
  cases s.shell with
  | none => exact Preserves.pure _
  | some st =>
    refine Preserves.ite (fun _ => hlost.bind fun _ => ?_) fun _ => Preserves.pure _
    exact (protoShellHandler_keeps setShell_waits _).bind fun _ => Preserves.pure _

end Waiting

section Runs

variable {r : Rest} {s t : LiveInterface}

theorem interfaceBody_waits {p : InterfaceCall} (hp : isNews p = true ∨ p = .protoEvent .linkLost) :
    Waits (interfaceBody {} p) := by
  rcases hp with hp | rfl
  swap
  · refine Preserves.bind (Preserves.read_bind fun s hs => ?_) fun _ => Preserves.pure _
    rw [if_pos (by simp [hs.state])]
    exact hs
  cases p with
  | mainDevEvent ev =>
    exact toDeviceUser_keeps .main (waiting_transitions.interfaceMainDevCb_keeps ev)
  | l3DevEvent ev => exact toDeviceUser_keeps .l3 (waiting_transitions.interfaceL3DevCb_keeps ev)
  | extDevEvent ev =>
    exact toDeviceUser_keeps .ext (waiting_transitions.interfaceExtDevCb_keeps ev)
  | parentEvent ev dev =>
    exact (waiting_transitions.interfaceAliasCb_keeps ev dev).bind fun _ => Preserves.pure _
  | dependencyUp i => exact (protoShellUpdateHostDep_waits i).bind fun _ => Preserves.pure _
  | dependencyDown i => exact (protoShellIfDownCb_waits i).bind fun _ => Preserves.pure _
  | _ => cases hp

theorem interfaceBody_rests {p : InterfaceCall} (hp : settles p r) (hs : Resting r s)
    (hquiet : awakens p s = false) :
    wp quietSpec (interfaceBody {} p) (fun _ t => Resting r t) s := by
  have hwakes : wakes s p = false := wakes_of_down hs hquiet
  have hthen : ∀ {x : InterfaceProg Unit}, wp quietSpec x (fun _ t => Resting r t) s →
      wp quietSpec (do x; pure (0 : ℤ)) (fun _ t => Resting r t) s := by
    intro x hx
    rw [wp_bind]
    exact hx
  have huser : ∀ {slot : DeviceSlot} {x : InterfaceProg Unit},
      wp quietSpec x (fun _ t => Resting r t) s →
      wp quietSpec (toDeviceUser slot x) (fun _ t => Resting r t) s := by
    intro slot x hx
    rw [toDeviceUser, wp_bind, wp_read, wp_ite]
    exact ⟨fun _ => hs, fun _ => hthen hx⟩
  cases p with
  | mainDevEvent ev => exact huser (interfaceMainDevCb_rests hs hwakes)
  | l3DevEvent ev => exact huser (interfaceL3DevCb_rests ev s hs)
  | extDevEvent ev => exact huser (interfaceExtDevCb_rests ev s hs)
  | parentEvent ev dev => exact hthen (interfaceAliasCb_rests hs hwakes)
  | dependencyUp i => exact hthen (protoShellUpdateHostDep_rests hs hwakes)
  | dependencyDown i => exact hthen (protoShellIfDownCb_rests i s hs)
  | protoEvent ev => exact hthen (interfaceProtoEventCb_rests ev s hs)
  | setConfigState state =>
    obtain ⟨rfl, -⟩ := hp
    exact hthen (setConfigState_rests hs)
  | _ => cases hp

theorem quietBody_verified : Verified quietBody quietSpec := by
  refine verified_guarded fun p s hquiet => ?_
  rw [Bool.not_eq_true'] at hquiet
  refine wp_and _ ?_ (wp_and _ ?_ ?_)
  · exact wp_imp _ fun hp => wp_imp _ fun hs => interfaceBody_waits hp s hs
  · refine wp_forall _ fun r => wp_imp _ fun hp => wp_imp _ fun hs => ?_
    exact interfaceBody_rests hp hs hquiet
  · refine wp_imp _ fun hp => wp_imp _ fun hs => ?_
    subst hp
    rw [interfaceBody, wp_bind]
    exact interfaceProtoDown_falls hs

end Runs

section GoingDown

variable {s : LiveInterface}

/-- Going down, the interface comes up again: its protocol answers at once, and then it is told to
restart and has what it needs. -/
structure Rises (s : LiveInterface) : Prop where
  state : s.state = .setup ∨ s.state = .up
  immediate : s.isShell = false
  wanted : s.conf.autostart = true
  available : s.available = true
  ready : (s.users .main).dev = none ∨ starts s = true

/-- It is neither up nor on its way there. -/
def Low (s : LiveInterface) : Prop := Waiting s ∨ Resting .asleep s

theorem Low.not_running (h : Low s) : ¬(s.state = .setup ∨ s.state = .up) := by
  rcases h with hwaiting | hresting
  · simp [hwaiting.state]
  · simp [hresting.down]

theorem unready_of_not_rises (hstate : s.state = .setup ∨ s.state = .up)
    (himmediate : s.isShell = false) (hrises : ¬Rises s) : Rest.unready.Holds s := by
  constructor
  · by_contra hstarts
    rw [Bool.not_eq_false] at hstarts
    have hneeds := hstarts
    simp only [starts, Bool.and_eq_true] at hneeds
    exact hrises ⟨hstate, himmediate, hneeds.2.1.1.1, hneeds.1, .inr hstarts⟩
  · exact fun hauto havailable hdev =>
      hrises ⟨hstate, himmediate, hauto, havailable, .inl hdev⟩

theorem teardown_low (hlife : Lifecycle {} ⟨true, .any⟩ s)
    (hstate : s.state = .setup ∨ s.state = .up) (hrises : ¬Rises s) {t : LiveInterface}
    (ht : t.state = .teardown) (hproto : t.proto = s.proto)
    (hconfig : t.configState = s.configState)
    (hrest : Rest.unready.Holds s → Rest.unready.Holds t) :
    wp quietSpec (interfaceProtoEvent {} .teardown) (fun _ u => Low u) t := by
  obtain ⟨running, rfl⟩ := running_of_lifecycle hlife hstate
  have hattached : t.proto = some running.proto := hproto.trans running.attached
  have hcoherent : ∀ proto, t.proto = some proto → proto.Coherent := hproto ▸ hlife.coherent
  by_cases hcb : running.proto.cb = .shell
  · have hwaiting : Waiting t := ⟨ht, by simp [isShell_eq hattached, hcb], hcoherent⟩
    exact (interfaceProtoEvent_waits _).ends hwaiting fun _ _ hu => .inl hu
  · have hnormal : running.iface.configState = .normal := by
      refine hlife.normal ?_ rfl
      rcases hstate with hstate | hstate
      · simp [hstate]
      · simp [hstate]
    have hunready : Rest.unready.Holds running.iface :=
      unready_of_not_rises hstate (by simpa [running.isShell_eq] using hcb) hrises
    have hfalling : Falling t :=
      ⟨by simp [ht], hconfig.trans hnormal, hcoherent, hrest hunready⟩
    have himmediate : running.proto.handler.immediate = true :=
      (running.coherent running.valid).mpr hcb
    rw [interfaceProtoEvent, wp_bind, wp_read, hattached]
    dsimp only
    rw [protoCb_teardown running.valid hcb, wp_bind, wp_pure, if_neg (by simp [himmediate]),
      wp_bind, wp_invoke]
    exact fun _ _ hspec => .inr (hspec.2.2 rfl hfalling).asleep

theorem interfaceSetDown'_low (hlife : Lifecycle {} ⟨true, .any⟩ s) (hrises : ¬Rises s) :
    wp quietSpec (interfaceSetDown' {} false) (fun _ t => Low t) s := by
  cases hstate : s.state with
  | down =>
    have hnormal : s.configState = .normal := hlife.normal (by simp [hstate]) rfl
    have hresting : Resting .asleep s := ⟨hstate, by simp [hnormal], hlife.coherent, trivial⟩
    exact (interfaceSetDown'_rests false).ends hresting fun _ _ ht => .inr ht
  | teardown =>
    have hwaiting : Waiting s := ⟨hstate, hlife.torn hstate, hlife.coherent⟩
    exact wp_mono _ (fun _ _ ht => .inl ht) (interfaceSetDown'_waits hwaiting false)
  | setup =>
    rw [interfaceSetDown', wp_bind, wp_read, hstate]
    simp only [reduceCtorEq, wp_bind, wp_modify, if_false]
    exact teardown_low hlife (.inl hstate) hrises rfl rfl rfl fun h =>
      h.congr rfl rfl rfl rfl rfl rfl
  | up =>
    rw [interfaceSetDown', wp_bind, wp_read, hstate]
    simp only [interfaceEvent, wp_bind, wp_modify, if_true]
    exact teardown_low hlife (.inr hstate) hrises rfl rfl rfl fun h =>
      h.congr rfl rfl rfl rfl rfl rfl

end GoingDown

end Netifd.QuietEvents
