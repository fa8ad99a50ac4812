import Netifd.InterfaceInvariants

/-!
# Links that cannot be added

`interface_handle_link` with `add`, and what it returns. Once the device is there, the one way to
fail is a main device that takes no links, and then a main device that was hot-plugged is gone
already.
-/

namespace Netifd.LinkAdds
open ReentrantProgram ReentrantProgram.Prog

def ubusStatusNotSupported : ℤ := 8

/-- `device_remove_user` for the main device. The devices are locked, so that none is freed. -/
def removeMainDev : InterfaceProg Unit := do
  let s ← read
  if (s.users .main).dev = none then pure ()
  else
    modify fun s => s.mapUser .main fun u => { u with hotplug := false }
    releaseDevice .main
    modify fun s => s.mapUser .main fun u => { u with dev := none }

/-- `hotplug_ops` of the main device that was there. Those of a bridge, which are the only ones,
always succeed. -/
def addToMainDev : InterfaceProg ℤ := do
  let ops ← ask
  if ops = 0 then pure ubusStatusNotSupported
  else
    deviceCallbacks
    pure 0

/-- The end of `interface_add_link`, for an interface without a main device. -/
def plugMainDev (dev : ℕ) (linkExt : Bool) : InterfaceProg ℤ := do
  addDeviceIf linkExt .ext (some dev)
  interfaceSetMainDev {} (some dev)
  modify fun s => s.mapUser .main fun u => { u with hotplug := true }
  pure 0

def interfaceAddLink (dev : ℕ) (linkExt : Bool) : InterfaceProg ℤ := do
  let s ← read
  if (s.users .main).dev = some dev then pure 0
  else
    whenever ((s.users .main).hotplug = true) removeMainDev
    if (s.users .main).dev ≠ none then addToMainDev else plugMainDev dev linkExt

/-- The events of the devices and of the parent of an interface. -/
def isEvent : InterfaceCall → Bool
  | .parentEvent _ _ => true
  | p => isDeviceEvent p

/-- `device_get`, `interface_set_device_config` and `device_set_present`: the devices and the
parent of the interface, which may be on the new device, tell what becomes of them. -/
def makePresent : InterfaceProg Unit := callbacks isEvent

/-- The rest of `interface_handle_link` with `add`, with the device if there is one. -/
def linkFound (found : Option ℕ) (linkExt : Bool) : InterfaceProg ℤ :=
  match found with
  | none => pure ubusStatusNotFound
  | some dev => interfaceAddLink dev linkExt

/-- `interface_handle_link` with `add`. -/
def interfaceHandleLink (found : Option ℕ) (linkExt : Bool) : InterfaceProg ℤ := do
  makePresent
  linkFound found linkExt

/-- `interface_handle_link` has failed, with the interface as `interface_add_link` found it. -/
structure FailedLink where
  found : Option ℕ
  linkExt : Bool
  before : LiveInterface
  shown : LiveInterface
  ret : ℤ
  after : LiveInterface
  present : Exec (interfaceBody {}) makePresent before () shown
  run : Exec (interfaceBody {}) (linkFound found linkExt) shown ret after
  failed : ret ≠ 0

theorem exists_failedLink {found : Option ℕ} {linkExt : Bool} {s t : LiveInterface} {ret : ℤ}
    (h : Exec (interfaceBody {}) (interfaceHandleLink found linkExt) s ret t) (hret : ret ≠ 0) :
    ∃ l : FailedLink, l.found = found ∧ l.before = s ∧ l.after = t := by
  obtain ⟨_, u, hpresent, hrun⟩ := h.of_bind rfl
  exact ⟨⟨found, linkExt, s, u, ret, t, hpresent, hrun, hret⟩, rfl, rfl, rfl⟩

/-- The main device, whether it was hot-plugged, the layer 3 device, and the availability. -/
def links (s : LiveInterface) : Option ℕ × Bool × Option ℕ × Bool :=
  ((s.users .main).dev, (s.users .main).hotplug, (s.users .l3).dev, s.available)

/-- Nothing of it has changed. -/
def FailedLink.Undone (l : FailedLink) : Prop := links l.after = links l.before

/-- The main device is not one that was hot-plugged. -/
def Unplugged (s : LiveInterface) : Prop := (s.users .main).hotplug = false

/-- The calls that events of devices and of the parent can lead to. -/
def followsEvent : InterfaceCall → Bool
  | .protoEvent _ | .setConfigState _ => true
  | p => isEvent p

/-- None of them marks the main device as hot-plugged. -/
def unpluggedSpec : Spec LiveInterface InterfaceCall := fun p s _ t =>
  followsEvent p = true → Unplugged s → Unplugged t

section Unplugged

variable {α : Type} {slot : DeviceSlot}

abbrev StaysUnplugged (x : InterfaceProg α) : Prop := Preserves unpluggedSpec Unplugged x

theorem deviceCallbacks_unplugged : StaysUnplugged deviceCallbacks := by
  refine Preserves.callbacks fun p _ _ _ hp hspec hs => hspec ?_ hs
  cases p <;> first | rfl | cases hp

theorem invoke_unplugged {p : InterfaceCall} (hp : followsEvent p = true) :
    StaysUnplugged (invoke p) := fun _ hs _ _ hspec => hspec hp hs

theorem modify_unplugged {f : LiveInterface → LiveInterface} (hf : ∀ s, (f s).users = s.users) :
    StaysUnplugged (modify f) := Preserves.modify fun s hs => by
  unfold Unplugged
  rw [hf s]
  exact hs

theorem mapUser_unplugged {s : LiveInterface} {f : DeviceUser → DeviceUser}
    (hf : ∀ u, u.hotplug = false → (f u).hotplug = false) (hs : Unplugged s) :
    Unplugged (s.mapUser slot f) := by
  unfold Unplugged LiveInterface.mapUser
  dsimp only
  split_ifs
  · exact hf _ hs
  · exact hs

theorem slotSteps_unplugged (slot : DeviceSlot) : SlotSteps unpluggedSpec Unplugged slot where
  callbacks := deviceCallbacks_unplugged
  claimed _ _ hs := mapUser_unplugged (fun _ => id) hs
  unplugged _ hs := mapUser_unplugged (fun _ _ => rfl) hs
  placed _ _ hs := mapUser_unplugged (fun _ => id) hs

theorem releaseDevice_unplugged : StaysUnplugged (releaseDevice slot) :=
  (slotSteps_unplugged slot).releaseDevice

theorem releaseAttached_unplugged : StaysUnplugged (releaseAttached slot) :=
  (slotSteps_unplugged slot).releaseAttached

theorem removeDevice_unplugged : StaysUnplugged (removeDevice slot) :=
  (slotSteps_unplugged slot).removeDevice

theorem claimL3Dev_unplugged : StaysUnplugged (claimL3Dev {}) :=
  (slotSteps_unplugged .l3).claimL3Dev

theorem interfaceSetL3Dev_unplugged (dev : Option ℕ) :
    StaysUnplugged (interfaceSetL3Dev {} dev) :=
  (slotSteps_unplugged .l3).interfaceSetL3Dev (fun _ _ _ _ hs => hs) dev

theorem interfaceEvent_unplugged (ev : InterfaceEvent) : StaysUnplugged (interfaceEvent ev) :=
  modify_unplugged fun _ => rfl

theorem setShell_unplugged (f : ProtoShellState → ProtoShellState) :
    StaysUnplugged (setShell f) := modify_unplugged fun _ => rfl

theorem staticProtoSetup_unplugged : StaysUnplugged (staticProtoSetup {}) := by
  refine Preserves.after_read fun s => (interfaceSetL3Dev_unplugged _).bind fun _ => ?_
  refine Preserves.ask.bind fun n => Preserves.bind (modify_unplugged fun _ => rfl) fun _ => ?_
  refine Preserves.ask.bind fun failed => ?_
  exact Preserves.ite (fun _ => Preserves.pure _) fun _ => Preserves.pure _

theorem interfaceProtoEvent_unplugged (cmd : InterfaceProtoCmd) :
    StaysUnplugged (interfaceProtoEvent {} cmd) := by
  refine Preserves.after_read fun s => ?_
  cases s.proto with
  | none => exact fun _ _ => trivial
  | some proto =>
    have hcb : StaysUnplugged (protoCb {} proto cmd) := by
      unfold protoCb
      cases proto.cb with
      | none => exact Preserves.pure _
      | invalid => exact Preserves.pure _
      | shell => exact protoShellHandler_keeps setShell_unplugged cmd
      | static =>
        cases cmd with
        | setup => exact staticProtoSetup_unplugged
        | teardown => exact Preserves.pure _
        | renew => exact Preserves.pure _
    refine hcb.bind fun ret => Preserves.ite (fun _ => Preserves.pure _) fun _ => ?_
    exact (invoke_unplugged rfl).bind fun _ => Preserves.pure _

theorem protoEvent_unplugged (cmd : InterfaceProtoCmd) : StaysUnplugged (do
    let _ ← interfaceProtoEvent {} cmd
    pure ()) := (interfaceProtoEvent_unplugged cmd).bind fun _ => Preserves.pure _

theorem markInterfaceDown_unplugged : StaysUnplugged markInterfaceDown := by
  refine Preserves.after_read fun s => Preserves.ite (fun _ => Preserves.pure _) fun _ => ?_
  refine Preserves.bind (modify_unplugged fun _ => rfl) fun _ => ?_
  have hrest : StaysUnplugged (do
      modify fun s : LiveInterface =>
        { s with configIpEnabled := false, protoIpEnabled := false, protoIp := {} }
      interfaceFlushState) :=
    Preserves.bind (modify_unplugged fun _ => rfl) fun _ => releaseAttached_unplugged
  split_ifs
  · exact (interfaceEvent_unplugged _).bind fun _ => hrest
  · exact hrest

theorem interfaceSetDown'_unplugged (force : Bool) :
    StaysUnplugged (interfaceSetDown' {} force) := by
  have hflush : StaysUnplugged (if force = true then interfaceFlushState else pure ()) :=
    Preserves.ite (fun _ => releaseAttached_unplugged) fun _ => Preserves.pure _
  have hteardown : StaysUnplugged (do
      let _ ← interfaceProtoEvent {} .teardown
      if force then interfaceFlushState else pure ()) :=
    (interfaceProtoEvent_unplugged _).bind fun _ => hflush
  refine Preserves.after_read fun s => ?_
  cases s.state with
  | down => exact releaseAttached_unplugged
  | teardown => exact Preserves.pure _
  | setup => exact Preserves.bind (modify_unplugged fun _ => rfl) fun _ => hteardown
  | up =>
    refine Preserves.bind (modify_unplugged fun _ => rfl) fun _ => ?_
    exact (interfaceEvent_unplugged _).bind fun _ => hteardown

theorem interfaceSetUp'_unplugged : StaysUnplugged (interfaceSetUp' {}) := by
  refine Preserves.bind (modify_unplugged fun _ => rfl) fun _ => ?_
  refine (interfaceProtoEvent_unplugged _).bind fun ret => Preserves.ite (fun _ => ?_) fun _ => ?_
  · exact markInterfaceDown_unplugged.bind fun _ => Preserves.pure _
  · exact Preserves.pure _

theorem setUp'_unplugged : StaysUnplugged (do
    let _ ← interfaceSetUp' {}
    pure ()) := interfaceSetUp'_unplugged.bind fun _ => Preserves.pure _

theorem interfaceCheckState_unplugged : StaysUnplugged (interfaceCheckState {}) := by
  refine Preserves.after_read fun s => ?_
  have hlost : StaysUnplugged (do
      let _ ← interfaceProtoEvent {} .teardown
      markInterfaceDown) :=
    (interfaceProtoEvent_unplugged _).bind fun _ => markInterfaceDown_unplugged
  cases s.state with
  | teardown => exact Preserves.pure _
  | down => exact Preserves.ite (fun _ => setUp'_unplugged) fun _ => Preserves.pure _
  | setup => exact Preserves.ite (fun _ => hlost) fun _ => Preserves.pure _
  | up => exact Preserves.ite (fun _ => hlost) fun _ => Preserves.pure _

theorem interfaceSetEnabled_unplugged (enabled : Bool) :
    StaysUnplugged (interfaceSetEnabled {} enabled) :=
  Preserves.after_read fun _ => Preserves.ite (fun _ => Preserves.pure _) fun _ =>
    Preserves.bind (modify_unplugged fun _ => rfl) fun _ => interfaceCheckState_unplugged

theorem interfaceSetLinkState_unplugged (linkState : Bool) :
    StaysUnplugged (interfaceSetLinkState {} linkState) := by
  refine Preserves.after_read fun s => Preserves.ite (fun _ => Preserves.pure _) fun _ => ?_
  refine Preserves.bind (modify_unplugged fun _ => rfl) fun _ => ?_
  refine interfaceCheckState_unplugged.bind fun _ => Preserves.after_read fun t => ?_
  refine Preserves.ite (fun _ => ?_) fun _ => Preserves.pure _
  exact (interfaceEvent_unplugged _).bind fun _ => modify_unplugged fun _ => rfl

theorem interfaceSetUp_unplugged : StaysUnplugged (interfaceSetUp {}) := by
  refine Preserves.bind (modify_unplugged fun _ => rfl) fun _ => Preserves.after_read fun s => ?_
  refine Preserves.ite (fun _ => Preserves.pure _) fun _ => ?_
  refine Preserves.ite (fun _ => Preserves.pure _) fun _ => ?_
  refine Preserves.ite (fun _ => interfaceSetUp'_unplugged) fun _ => ?_
  refine (slotSteps_unplugged .main).claimDevice.bind fun ret => ?_
  refine Preserves.ite (fun _ => ?_) fun _ => Preserves.pure _
  exact interfaceCheckState_unplugged.bind fun _ => Preserves.pure _

theorem setUp_unplugged : StaysUnplugged (do
    let _ ← interfaceSetUp {}
    pure ()) := interfaceSetUp_unplugged.bind fun _ => Preserves.pure _

theorem interfaceSetAvailable_unplugged (available : Bool) :
    StaysUnplugged (interfaceSetAvailable {} available) := by
  refine Preserves.after_read fun s => Preserves.ite (fun _ => Preserves.pure _) fun _ => ?_
  refine Preserves.bind (modify_unplugged fun _ => rfl) fun _ => ?_
  refine Preserves.ite (fun _ => Preserves.after_read fun t => ?_) fun _ => ?_
  · exact Preserves.ite (fun _ => setUp_unplugged) fun _ => Preserves.pure _
  · exact interfaceSetDown'_unplugged true

theorem interfaceSetMainDev_unplugged (dev : Option ℕ) :
    StaysUnplugged (interfaceSetMainDev {} dev) := by
  have hl3 : StaysUnplugged (do
      let s ← read
      if (s.users .l3).dev = none then interfaceSetL3Dev {} dev else pure ()) :=
    Preserves.after_read fun _ => Preserves.ite (fun _ => interfaceSetL3Dev_unplugged dev) fun _ =>
      Preserves.pure _
  refine Preserves.after_read fun s => Preserves.ite (fun _ => Preserves.pure _) fun _ => ?_
  refine (interfaceSetAvailable_unplugged false).bind fun _ => ?_
  refine ((slotSteps_unplugged .main).addDevice dev).bind fun _ => ?_
  refine Preserves.ite (fun _ => interfaceSetLinkState_unplugged false) fun _ => ?_
  split_ifs
  · refine claimL3Dev_unplugged.bind fun ret => ?_
    exact Preserves.ite (fun _ => Preserves.pure _) fun _ => hl3
  · refine Preserves.bind (Preserves.pure _) fun ret => ?_
    exact Preserves.ite (fun _ => Preserves.pure _) fun _ => hl3

theorem interfaceMainDevCb_unplugged (ev : DeviceEvent) :
    StaysUnplugged (interfaceMainDevCb {} ev) := by
  cases ev with
  | add => exact interfaceSetAvailable_unplugged true
  | remove =>
    refine (interfaceSetAvailable_unplugged false).bind fun _ => Preserves.ask.bind fun n => ?_
    refine Preserves.after_read fun s => Preserves.ite (fun _ => ?_) fun _ => Preserves.pure _
    exact interfaceSetMainDev_unplugged none
  | up => exact interfaceSetEnabled_unplugged true
  | down => exact interfaceSetEnabled_unplugged false
  | linkUp => exact interfaceSetLinkState_unplugged true
  | linkDown => exact interfaceSetLinkState_unplugged false
  | topoChange => exact protoEvent_unplugged .renew
  | _ => exact Preserves.pure _

theorem interfaceL3DevCb_unplugged (ev : DeviceEvent) : StaysUnplugged (interfaceL3DevCb {} ev) :=
  Preserves.after_read fun _ => Preserves.ite (fun _ => Preserves.pure _) fun _ =>
    Preserves.ite (fun _ => protoEvent_unplugged .teardown) fun _ => Preserves.pure _

theorem interfaceExtDevCb_unplugged (ev : DeviceEvent) : StaysUnplugged (interfaceExtDevCb ev) :=
  Preserves.ite (fun _ => removeDevice_unplugged) fun _ => Preserves.pure _

theorem interfaceAliasCb_unplugged (ev : InterfaceEvent) (dev : Option ℕ) :
    StaysUnplugged (interfaceAliasCb {} ev dev) := by
  cases ev with
  | up =>
    refine Preserves.ite (fun _ => Preserves.pure _) fun _ => ?_
    exact (interfaceSetMainDev_unplugged dev).bind fun _ => interfaceSetAvailable_unplugged true
  | down =>
    exact (interfaceSetAvailable_unplugged false).bind fun _ => interfaceSetMainDev_unplugged none
  | _ => exact Preserves.pure _

theorem interfaceSetProtoState_unplugged (proto : Option InterfaceProtoState) :
    StaysUnplugged (interfaceSetProtoState {} proto) :=
  Preserves.after_read fun _ => Preserves.bind (Preserves.require _) fun _ =>
    modify_unplugged fun _ => rfl

theorem interfaceCleanupState_unplugged : StaysUnplugged (interfaceCleanupState {}) := by
  refine (interfaceSetAvailable_unplugged false).bind fun _ => ?_
  refine releaseAttached_unplugged.bind fun _ => ?_
  refine (interfaceSetProtoState_unplugged none).bind fun _ => ?_
  exact (interfaceSetMainDev_unplugged none).bind fun _ => interfaceSetL3Dev_unplugged none

theorem claimMainDev_unplugged : StaysUnplugged (claimMainDev {}) := by
  have hfind : StaysUnplugged findMainDev :=
    Preserves.after_read fun _ => Preserves.ite
      (fun _ => Preserves.ask.bind fun _ => Preserves.pure _) fun _ => Preserves.pure _
  refine Preserves.after_read fun s => Preserves.ite (fun _ => Preserves.ask.bind fun n => ?_) ?_
  · exact Preserves.ite (fun _ => Preserves.pure _) fun _ => interfaceAliasCb_unplugged .up _
  · refine fun _ => hfind.bind fun dev => ?_
    exact Preserves.ite (fun _ => Preserves.pure _) fun _ => interfaceSetMainDev_unplugged dev

theorem interfaceDoReload_unplugged : StaysUnplugged (interfaceDoReload {}) := by
  refine (interfaceEvent_unplugged _).bind fun _ => interfaceCleanupState_unplugged.bind fun _ => ?_
  have hinit : StaysUnplugged (protoInitInterface {}) :=
    Preserves.after_read fun _ => Preserves.ask.bind fun _ => interfaceSetProtoState_unplugged _
  refine hinit.bind fun _ => claimMainDev_unplugged.bind fun _ => Preserves.after_read fun s => ?_
  exact Preserves.ite (fun _ => interfaceSetAvailable_unplugged true) fun _ => Preserves.pure _

theorem interfaceDoFree_unplugged : StaysUnplugged (interfaceDoFree {}) := by
  have hcleanup : StaysUnplugged (interfaceCleanup {}) :=
    removeDevice_unplugged.bind fun _ => interfaceCleanupState_unplugged
  refine (interfaceEvent_unplugged _).bind fun _ => hcleanup.bind fun _ => ?_
  exact modify_unplugged fun _ => rfl

theorem restartInterface_unplugged : StaysUnplugged (restartInterface {}) := by
  refine Preserves.after_read fun s => Preserves.ite (fun _ => setUp_unplugged) fun _ => ?_
  refine Preserves.ite (fun _ => ?_) fun _ => Preserves.pure _
  exact (invoke_unplugged rfl).bind fun _ => Preserves.pure _

theorem interfaceHandleConfigChange_unplugged :
    StaysUnplugged (interfaceHandleConfigChange {}) := by
  refine Preserves.after_read fun s => Preserves.bind (modify_unplugged fun _ => rfl) fun _ => ?_
  cases s.configState with
  | normal => exact restartInterface_unplugged
  | reload => exact interfaceDoReload_unplugged.bind fun _ => restartInterface_unplugged
  | remove => exact interfaceDoFree_unplugged

theorem setConfigState_unplugged (state : InterfaceConfigState) :
    StaysUnplugged (setConfigState {} state) := by
  refine Preserves.bind (modify_unplugged fun _ => rfl) fun _ => Preserves.after_read fun s => ?_
  exact Preserves.ite (fun _ => interfaceHandleConfigChange_unplugged) fun _ =>
    interfaceSetDown'_unplugged false

theorem interfaceProtoUp_unplugged : StaysUnplugged (interfaceProtoUp {}) := by
  have hup : StaysUnplugged (do
      modify fun s : LiveInterface =>
        { s with configIpEnabled := true, protoIpEnabled := true, state := .up }
      interfaceEvent .up) :=
    Preserves.bind (modify_unplugged fun _ => rfl) fun _ => interfaceEvent_unplugged _
  refine Preserves.after_read fun s => ?_
  split_ifs
  · exact interfaceEvent_unplugged _
  · exact Preserves.pure _
  · exact (interfaceSetL3Dev_unplugged _).bind fun _ => hup
  · exact hup

theorem interfaceProtoDown_unplugged : StaysUnplugged (interfaceProtoDown {}) := by
  refine Preserves.after_read fun s => Preserves.ite (fun _ => Preserves.pure _) fun _ => ?_
  refine markInterfaceDown_unplugged.bind fun _ => releaseAttached_unplugged.bind fun _ => ?_
  exact removeDevice_unplugged.bind fun _ => interfaceHandleConfigChange_unplugged

theorem interfaceProtoLinkLost_unplugged : StaysUnplugged (interfaceProtoLinkLost {}) := by
  refine Preserves.after_read fun s => Preserves.ite (fun _ => Preserves.pure _) fun _ => ?_
  refine markInterfaceDown_unplugged.bind fun _ => Preserves.after_read fun t => ?_
  exact Preserves.bind (Preserves.require _) fun _ => modify_unplugged fun _ => rfl

theorem interfaceProtoEventCb_unplugged (ev : InterfaceProtoEvent) :
    StaysUnplugged (interfaceProtoEventCb {} ev) := by
  cases ev with
  | up => exact interfaceProtoUp_unplugged
  | down => exact interfaceProtoDown_unplugged
  | linkLost => exact interfaceProtoLinkLost_unplugged
  | renew => exact Preserves.pure _

theorem interfaceBody_unplugged : Verified (interfaceBody {}) unpluggedSpec := by
  intro p s
  refine wp_imp _ fun hp => wp_imp _ fun hs => ?_
  have hthen : ∀ {x : InterfaceProg Unit}, StaysUnplugged x →
      StaysUnplugged (do x; pure (0 : ℤ)) := fun hx => hx.bind fun _ => Preserves.pure _
  cases p with
  | mainDevEvent ev => exact toDeviceUser_keeps _ (interfaceMainDevCb_unplugged ev) s hs
  | l3DevEvent ev => exact toDeviceUser_keeps _ (interfaceL3DevCb_unplugged ev) s hs
  | extDevEvent ev => exact toDeviceUser_keeps _ (interfaceExtDevCb_unplugged ev) s hs
  | parentEvent ev dev => exact hthen (interfaceAliasCb_unplugged ev dev) s hs
  | protoEvent ev => exact hthen (interfaceProtoEventCb_unplugged ev) s hs
  | setConfigState state => exact hthen (setConfigState_unplugged state) s hs
  | _ => cases hp

end Unplugged

section Failures

variable {l : FailedLink}

theorem FailedLink.unplugged_shown (hbefore : Unplugged l.before) : Unplugged l.shown := by
  have hpresent : StaysUnplugged makePresent := by
    refine Preserves.callbacks fun p _ _ _ hp hspec hs => hspec ?_ hs
    cases p <;> first | rfl | cases hp
  exact l.present.sound interfaceBody_unplugged (hpresent l.before hbefore)

theorem removeMainDev_wp {s : LiveInterface} (hdev : (s.users .main).dev ≠ none) :
    wp unpluggedSpec removeMainDev
      (fun _ t => (t.users .main).dev = none ∧ Unplugged t) s := by
  rw [removeMainDev, wp_bind, wp_read, if_neg hdev, wp_bind, wp_modify, wp_bind]
  have hcleared : Unplugged (s.mapUser .main fun u => { u with hotplug := false }) := by
    simp [Unplugged, LiveInterface.mapUser]
  refine releaseDevice_unplugged.ends hcleared fun _ t ht => ?_
  rw [wp_modify]
  refine ⟨by simp [LiveInterface.mapUser], ?_⟩
  simpa [Unplugged, LiveInterface.mapUser] using ht

theorem plugMainDev_succeeds (dev : ℕ) (linkExt : Bool) (s : LiveInterface) :
    wp unpluggedSpec (plugMainDev dev linkExt) (fun ret _ => ret = 0) s :=
  wp_after _ fun _ _ => wp_after _ fun _ _ => wp_after _ fun _ _ => rfl

theorem addToMainDev_wp (s : LiveInterface) :
    wp unpluggedSpec addToMainDev (fun ret t => ret ≠ 0 → t = s) s := by
  rw [addToMainDev, wp_bind, wp_ask]
  intro ops
  rw [wp_ite]
  refine ⟨fun _ _ => rfl, fun _ => wp_after _ fun _ _ => ?_⟩
  exact fun hret => absurd rfl hret

/-- What a failing `interface_add_link` leaves of a main device that was hot-plugged. -/
def Unhooked (t : LiveInterface) : Prop := (t.users .main).dev = none ∧ Unplugged t

theorem interfaceAddLink_wp (dev : ℕ) (linkExt : Bool) (s : LiveInterface) :
    wp unpluggedSpec (interfaceAddLink dev linkExt) (fun ret t => ret ≠ 0 →
      ((s.users .main).hotplug = true → Unhooked t) ∧
        ((s.users .main).hotplug = false → t = s)) s := by
  rw [interfaceAddLink, wp_bind, wp_read]
  by_cases hsame : (s.users .main).dev = some dev
  · rw [if_pos hsame, wp_pure]
    exact fun hret => absurd rfl hret
  rw [if_neg hsame]
  by_cases hdev : (s.users .main).dev = none
  · rw [if_neg (not_not_intro hdev)]
    refine wp_after _ fun _ t => ?_
    exact wp_mono _ (fun _ _ hzero hret => absurd hzero hret) (plugMainDev_succeeds dev linkExt t)
  · rw [if_pos hdev, wp_bind, wp_whenever]
    constructor
    · intro hhotplug
      refine wp_mono _ (fun _ t ht => ?_) (removeMainDev_wp hdev)
      refine wp_mono _ (fun ret u hu hret => ⟨fun _ => ?_, fun hplain => ?_⟩) (addToMainDev_wp t)
      · rw [hu hret]
        exact ht
      · exact absurd (hhotplug.symm.trans hplain) (by decide)
    · intro hplain
      refine wp_mono _ (fun ret u hu hret => ⟨fun hhotplug => ?_, fun _ => hu hret⟩)
        (addToMainDev_wp s)
      exact absurd hhotplug hplain

theorem FailedLink.after_of_not_found (l : FailedLink) (hfound : l.found = none) :
    l.after = l.shown := by
  have hrun := l.run
  rw [hfound] at hrun
  have hsame : wp unpluggedSpec (linkFound none l.linkExt) (fun _ t => t = l.shown) l.shown := rfl
  exact hrun.sound interfaceBody_unplugged hsame

theorem FailedLink.after_of_found (l : FailedLink) {dev : ℕ} (hfound : l.found = some dev) :
    ((l.shown.users .main).hotplug = true → Unhooked l.after) ∧
      ((l.shown.users .main).hotplug = false → l.after = l.shown) := by
  have hrun := l.run
  rw [hfound] at hrun
  exact hrun.sound interfaceBody_unplugged (interfaceAddLink_wp dev l.linkExt l.shown) l.failed

/-- A failed call has changed nothing exactly if the device was not found or the main device was
not hot-plugged, and what came in while the device was made present has changed nothing either. -/
theorem undone_iff (l : FailedLink) : l.Undone ↔
    (l.found = none ∨ (l.before.users .main).hotplug = false) ∧
      links l.shown = links l.before := by
  have hflag : ∀ {s t : LiveInterface}, links s = links t →
      (s.users .main).hotplug = (t.users .main).hotplug := fun h => congrArg (fun x => x.2.1) h
  cases hfound : l.found with
  | none =>
    have hsame : l.after = l.shown := l.after_of_not_found hfound
    rw [FailedLink.Undone, hsame]
    exact ⟨fun h => ⟨.inl rfl, h⟩, fun h => h.2⟩
  | some dev =>
    obtain ⟨hlost, hkept⟩ := l.after_of_found hfound
    constructor
    · intro hundone
      have hplain : (l.shown.users .main).hotplug = false := by
        by_contra hhotplug
        obtain ⟨-, hunplugged⟩ := hlost (by simpa using hhotplug)
        have hbefore : Unplugged l.before := (hflag hundone).symm.trans hunplugged
        exact hhotplug (l.unplugged_shown hbefore)
      have hshown : links l.shown = links l.before := by
        rw [← hkept hplain]
        exact hundone
      exact ⟨.inr ((hflag hshown).symm.trans hplain), hshown⟩
    · rintro ⟨hplain, hshown⟩
      have hbefore : (l.before.users .main).hotplug = false := by simpa using hplain
      rw [FailedLink.Undone, hkept ((hflag hshown).trans hbefore)]
      exact hshown

end Failures

/-- An interface without a device, of the protocol that does nothing. -/
def plainInterface : Interface := { name := "lan" }

/-- The interface is added, and then a link to it; then another link is added. -/
def secondLink : Option (LiveInterface × ℤ × LiveInterface × List (Choice InterfaceCall)) := do
  let s ← replay (interfaceBody {}) interfaceCallable 200
    [(.reload plainInterface, [.pick 0]), (.addLink 1 false, [.resume, .resume])] noInterface
  let result ← run (interfaceBody {}) 200 (linkFound (some 2) false) s [.pick 0]
  pure (s, result)

/-- The second link is refused, but the first is gone. -/
theorem first_link_lost : ¬∀ l : FailedLink,
    Reachable (interfaceBody {}) interfaceCallable noInterface l.before → l.Undone := by
  intro h
  have hcomputed : secondLink.map (fun r => (r.2.1, (r.1.users .main).dev,
      (r.2.2.1.users .main).dev)) = some (ubusStatusNotSupported, some 1, none) := by decide
  obtain ⟨⟨s, ret, t, rest⟩, hlink, hvalues⟩ := Option.map_eq_some_iff.mp hcomputed
  simp only [Prod.mk.injEq] at hvalues
  obtain ⟨hret, hbefore, hafter⟩ := hvalues
  simp only [secondLink, Option.bind_eq_bind, Option.bind_eq_some_iff] at hlink
  obtain ⟨before, hreplay, result, hrun, hpair⟩ := hlink
  cases hpair
  have hundone := h
    { found := some 2, linkExt := false, before := s, shown := s, ret, after := t
      present := .resume .ret, run := run_sound _ _ _ _ _ hrun, failed := by rw [hret]; decide }
    (replay_sound hreplay)
  have hdev := congrArg Prod.fst hundone
  exact absurd (hafter.symm.trans (hdev.trans hbefore)) (by decide)

end Netifd.LinkAdds
