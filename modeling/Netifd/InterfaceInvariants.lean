import Netifd.ShellProtocol

/-!
# Invariants of the interface machine

What an invariant has to be kept by, so that all the functions of an interface keep it: first
the operations on devices, then the transitions of the state machine, then the commands and
events of a shell protocol. The functions that change the configuration are left to those who
know what the invariant says of it.
-/

namespace Netifd
open ReentrantProgram ReentrantProgram.Prog

/-- The record without what the calls between reloads write. -/
def Interface.settled (iface : Interface) : Interface := { iface with autostart := true }

namespace LiveInterface

/-- The parts of an interface that matter to any of the invariants. -/
def core (s : LiveInterface) :=
  (s.inTable, s.keptOnReload, { s.conf with autostart := true }, s.state, s.configState,
    s.available, s.proto, s.emitted, s.wanted, s.endedEarly)

/-- The same with the layer 3 device and the contents of `proto_ip`. -/
def coreIp (s : LiveInterface) := (s.core, s.users .l3, s.protoIp)

/-- The parts of an interface that only configuration changes write. -/
def settings (s : LiveInterface) :=
  (s.inTable, s.keptOnReload, s.wanted, s.conf.settled, s.configState,
    s.proto.map fun proto => (proto.handler, proto.config))

/-- The protocol is a shell protocol, which answers later. -/
def isShell (s : LiveInterface) : Bool := s.proto.any fun proto => proto.cb == .shell

end LiveInterface

variable {g : RunGuards} {spec : Spec LiveInterface InterfaceCall} {I : LiveInterface → Prop}

theorem isShell_eq {s : LiveInterface} {proto : InterfaceProtoState} (h : s.proto = some proto) :
    s.isShell = (proto.cb == .shell) := by simp [LiveInterface.isShell, h]

theorem isShell_of_shell {s : LiveInterface} {st : ProtoShellState} (h : s.shell = some st) :
    s.isShell = true := by
  unfold LiveInterface.shell at h
  split at h
  · next proto hproto =>
    split_ifs at h with hcb
    simp [isShell_eq hproto, hcb]
  · cases h

/-- The operations on devices keep an invariant. -/
structure DeviceSteps (g : RunGuards) (spec : Spec LiveInterface InterfaceCall)
    (I : LiveInterface → Prop) : Prop where
  quiet : ∀ {s t : LiveInterface}, t.coreIp = s.coreIp → I s → I t
  callbacks : Preserves spec I deviceCallbacks
  releaseL3 : Preserves spec I (releaseAttached .l3)
  claimL3 : ∀ {s : LiveInterface}, I s → (s.users .l3).claimed = true →
    Preserves spec I (claimL3Dev g)
  setL3 : ∀ dev, Preserves spec I (interfaceSetL3Dev g dev)

namespace DeviceSteps

variable (h : DeviceSteps g spec I)

include h

theorem modify {f : LiveInterface → LiveInterface} (hf : ∀ s, (f s).coreIp = s.coreIp) :
    Preserves spec I (modify f) := Preserves.modify fun s hs => h.quiet (hf s) hs

end DeviceSteps

/-- What is done to a device user that stays on its device keeps an invariant. -/
structure ClaimSteps (spec : Spec LiveInterface InterfaceCall) (I : LiveInterface → Prop)
    (slot : DeviceSlot) : Prop where
  callbacks : Preserves spec I deviceCallbacks
  claimed : ∀ (s : LiveInterface) (b : Bool), I s →
    I (s.mapUser slot fun u => { u with claimed := b })
  unplugged : ∀ s : LiveInterface, I s → I (s.mapUser slot fun u => { u with hotplug := false })

/-- So does its move to another device. -/
structure SlotSteps (spec : Spec LiveInterface InterfaceCall) (I : LiveInterface → Prop)
    (slot : DeviceSlot) : Prop extends ClaimSteps spec I slot where
  placed : ∀ (s : LiveInterface) (dev : Option ℕ), I s → I (s.mapUser slot fun u => { u with dev })

theorem SlotSteps.of_all {slot : DeviceSlot} (hslot : ∀ s f, I s → I (s.mapUser slot f))
    (hcallbacks : Preserves spec I deviceCallbacks) : SlotSteps spec I slot :=
  ⟨⟨hcallbacks, fun s _ => hslot s _, fun s => hslot s _⟩, fun s _ => hslot s _⟩

namespace ClaimSteps

variable {slot : DeviceSlot} (h : ClaimSteps spec I slot)

include h

theorem claimDevice : Preserves spec I (claimDevice slot) := by
  have hclaimed : ∀ b, Preserves spec I (modify fun s =>
      s.mapUser slot fun u => { u with claimed := b }) :=
    fun b => Preserves.modify fun s => h.claimed s b
  refine Preserves.after_read fun s => ?_
  split_ifs
  · exact Preserves.pure _
  · exact Preserves.pure _
  · refine Preserves.bind (hclaimed true) fun _ => ?_
    refine Preserves.bind h.callbacks fun _ => Preserves.bind Preserves.ask fun n => ?_
    split_ifs
    · exact Preserves.pure _
    · exact Preserves.bind (hclaimed false) fun _ => Preserves.pure _

theorem releaseDevice : Preserves spec I (releaseDevice slot) := by
  refine Preserves.after_read fun s => ?_
  split_ifs
  · exact Preserves.bind (Preserves.modify fun s => h.claimed s false) fun _ => h.callbacks
  · exact Preserves.pure _

theorem releaseAttached : Preserves spec I (releaseAttached slot) := by
  refine Preserves.after_read fun s => ?_
  split_ifs
  · exact Preserves.pure _
  · exact h.releaseDevice

end ClaimSteps

theorem ClaimSteps.claimL3Dev (h : ClaimSteps spec I .l3) : Preserves spec I (claimL3Dev g) :=
  Preserves.bind h.claimDevice fun _ => Preserves.after_read fun _ =>
    Preserves.bind (Preserves.require _) fun _ => Preserves.pure _

namespace SlotSteps

variable {slot : DeviceSlot} (h : SlotSteps spec I slot)

include h

theorem removeDevice : Preserves spec I (removeDevice slot) := by
  refine Preserves.after_read fun s => ?_
  split_ifs
  · exact Preserves.pure _
  · refine Preserves.bind (Preserves.modify h.unplugged) fun _ => ?_
    refine Preserves.bind h.releaseDevice fun _ => ?_
    exact Preserves.bind (Preserves.modify fun s => h.placed s none) fun _ => h.callbacks

theorem greetings : Preserves spec I (greetings slot) := by
  cases slot with
  | main => exact h.callbacks
  | l3 => exact Preserves.pure ()
  | ext => exact Preserves.pure ()

theorem addDevice (dev : Option ℕ) : Preserves spec I (addDevice slot dev) := by
  refine Preserves.after_read fun s => ?_
  split_ifs
  · exact Preserves.pure _
  · refine Preserves.bind h.removeDevice fun _ => ?_
    cases dev with
    | none => exact Preserves.pure ()
    | some d =>
      exact Preserves.bind (Preserves.modify fun s => h.placed s (some d)) fun _ => h.greetings

theorem removeDeviceIf (b : Bool) : Preserves spec I (removeDeviceIf b slot) := by
  cases b with
  | false => exact Preserves.pure ()
  | true => exact h.removeDevice

theorem addDeviceIf (b : Bool) (dev : Option ℕ) : Preserves spec I (addDeviceIf b slot dev) := by
  cases b with
  | false => exact Preserves.pure ()
  | true => exact h.addDevice dev

end SlotSteps

theorem SlotSteps.interfaceSetL3Dev (h : SlotSteps spec I .l3)
    (hip : ∀ (s : LiveInterface) (config proto : Bool) (ip : IpContents), I s →
      I { s with configIpEnabled := config, protoIpEnabled := proto, protoIp := ip })
    (dev : Option ℕ) : Preserves spec I (interfaceSetL3Dev g dev) := by
  have henable : ∀ config proto, Preserves spec I (enableIp config proto) :=
    fun config proto => Preserves.modify fun s => hip s config proto s.protoIp
  refine Preserves.after_read fun s => ?_
  split_ifs
  · exact Preserves.pure _
  all_goals
    refine Preserves.bind (Preserves.modify fun s => hip s false false {}) fun _ => ?_
    refine Preserves.bind (h.addDevice dev) fun _ => ?_
  · exact Preserves.pure _
  · refine Preserves.bind h.claimL3Dev fun ret => ?_
    split_ifs
    · exact Preserves.pure _
    · exact henable _ _
  · exact henable _ _

theorem DeviceSteps.of_core (hcore : ∀ {s t : LiveInterface}, t.core = s.core → I s → I t)
    (hcallbacks : Preserves spec I deviceCallbacks) : DeviceSteps g spec I := by
  have hl3 : SlotSteps spec I .l3 := SlotSteps.of_all (fun s f hs =>
    hcore (s := s) (t := s.mapUser .l3 f) rfl hs) hcallbacks
  refine ⟨fun heq => hcore (congrArg Prod.fst heq), hcallbacks, hl3.releaseAttached,
    fun _ _ => hl3.claimL3Dev, hl3.interfaceSetL3Dev fun s _ _ _ hs => hcore (s := s) rfl hs⟩

/-- The transitions of the state machine keep an invariant. -/
structure Transitions (g : RunGuards) (spec : Spec LiveInterface InterfaceCall)
    (I : LiveInterface → Prop) : Prop extends DeviceSteps g spec I where
  emit : ∀ {ev}, ev ≠ .up → ev ≠ .down → Preserves spec I (interfaceEvent ev)
  protoEvent : ∀ cmd, Preserves spec I (interfaceProtoEvent g cmd)
  checkState : Preserves spec I (interfaceCheckState g)
  setUp' : ∀ {s : LiveInterface}, I s → s.state = .down → s.available = true →
    wp spec (interfaceSetUp' g) (fun _ t => I t) s
  setDown' : Preserves spec I (interfaceSetDown' g false)
  present : ∀ {s : LiveInterface}, I s → I { s with available := true }
  withdraw : ∀ {s : LiveInterface}, I s →
    wp spec (interfaceSetDown' g true) (fun _ t => I t) { s with available := false }

namespace Transitions

variable (h : Transitions g spec I)

include h

theorem mapUser {slot : DeviceSlot} (hslot : slot ≠ .l3) (s : LiveInterface)
    (f : DeviceUser → DeviceUser) (hs : I s) : I (s.mapUser slot f) := by
  refine h.quiet ?_ hs
  have hl3 : (s.mapUser slot f).users .l3 = s.users .l3 := if_neg (Ne.symm hslot)
  rw [LiveInterface.coreIp, hl3]
  rfl

theorem slot {slot : DeviceSlot} (hslot : slot ≠ .l3) : SlotSteps spec I slot :=
  SlotSteps.of_all (h.mapUser hslot) h.callbacks

theorem interfaceSetEnabled_keeps (enabled : Bool) :
    Preserves spec I (interfaceSetEnabled g enabled) := by
  refine Preserves.after_read fun s => ?_
  split_ifs
  · exact Preserves.pure _
  · exact Preserves.bind (h.modify fun _ => rfl) fun _ => h.checkState

theorem interfaceSetLinkState_keeps (linkState : Bool) :
    Preserves spec I (interfaceSetLinkState g linkState) := by
  refine Preserves.after_read fun s => ?_
  split_ifs
  · exact Preserves.pure _
  · refine Preserves.bind (h.modify fun _ => rfl) fun _ => ?_
    refine Preserves.bind h.checkState fun _ => Preserves.after_read fun t => ?_
    split_ifs
    · exact Preserves.bind (h.emit (by simp) (by simp)) fun _ => h.modify fun _ => rfl
    · exact Preserves.pure _

theorem interfaceSetUp_keeps : Preserves spec I (interfaceSetUp g) := by
  refine Preserves.bind (h.modify fun _ => rfl) fun _ => Preserves.read_bind fun s hs => ?_
  simp only [wp_ite, wp_pure, wp_bind, not_not, Bool.not_eq_true']
  refine ⟨fun _ => hs, fun hstate => ⟨fun _ => hs, fun havailable => ⟨fun _ => ?_, fun _ => ?_⟩⟩⟩
  · exact h.setUp' hs hstate (by simpa using havailable)
  · refine (h.slot (by simp)).claimDevice.ends hs fun ret t ht => ?_
    simp only [wp_ite, wp_pure, wp_bind]
    exact ⟨fun _ => h.checkState t ht, fun _ => ht⟩

theorem interfaceSetDown_keeps : Preserves spec I (interfaceSetDown g) :=
  Preserves.bind (h.modify fun _ => rfl) fun _ => h.setDown'

theorem interfaceSetAvailable_keeps (available : Bool) :
    Preserves spec I (interfaceSetAvailable g available) := by
  refine Preserves.read_bind fun s hs => ?_
  simp only [wp_ite, wp_pure, wp_bind, wp_modify, wp_read]
  refine ⟨fun _ => hs, fun _ => ⟨?_, fun hfalse => ?_⟩⟩
  · rintro rfl
    exact ⟨fun _ => h.interfaceSetUp_keeps _ (h.present hs), fun _ => h.present hs⟩
  · obtain rfl : available = false := by simpa using hfalse
    exact h.withdraw hs

theorem interfaceSetMainDev_keeps (dev : Option ℕ) :
    Preserves spec I (interfaceSetMainDev g dev) := by
  refine Preserves.read_bind fun s hs => (show Preserves spec I _ from ?_) s hs
  have hl3 : Preserves spec I (do
      let s ← read
      if (s.users .l3).dev = none then interfaceSetL3Dev g dev else pure ()) := by
    refine Preserves.after_read fun s => ?_
    split_ifs
    · exact h.setL3 dev
    · exact Preserves.pure _
  split_ifs with hsame hnone hclaimed
  · exact Preserves.pure _
  all_goals
    refine Preserves.bind (h.interfaceSetAvailable_keeps false) fun _ => ?_
    refine Preserves.bind ((h.slot (by simp)).addDevice dev) fun _ => ?_
  · exact h.interfaceSetLinkState_keeps false
  · refine Preserves.bind (h.claimL3 hs hclaimed) fun ret => ?_
    dsimp only
    split_ifs
    · exact Preserves.pure _
    · exact hl3
  · refine Preserves.bind (Preserves.pure _) fun ret => ?_
    dsimp only
    split_ifs
    · exact Preserves.pure _
    · exact hl3

theorem interfaceMainDevCb_keeps (ev : DeviceEvent) :
    Preserves spec I (interfaceMainDevCb g ev) := by
  cases ev with
  | add => exact h.interfaceSetAvailable_keeps true
  | remove =>
    refine Preserves.bind (h.interfaceSetAvailable_keeps false) fun _ => ?_
    refine Preserves.bind Preserves.ask fun n => Preserves.after_read fun s => ?_
    split_ifs
    · exact h.interfaceSetMainDev_keeps none
    · exact Preserves.pure _
  | up => exact h.interfaceSetEnabled_keeps true
  | down => exact h.interfaceSetEnabled_keeps false
  | linkUp => exact h.interfaceSetLinkState_keeps true
  | linkDown => exact h.interfaceSetLinkState_keeps false
  | topoChange => exact Preserves.bind (h.protoEvent .renew) fun _ => Preserves.pure _
  | updateIfname | updateIfindex | setup | teardown => exact Preserves.pure _

theorem interfaceL3DevCb_keeps (ev : DeviceEvent) : Preserves spec I (interfaceL3DevCb g ev) := by
  refine Preserves.after_read fun s => ?_
  split_ifs
  · exact Preserves.pure _
  · exact Preserves.bind (h.protoEvent .teardown) fun _ => Preserves.pure _
  · exact Preserves.pure _

theorem removeExt_keeps : Preserves spec I (removeDevice .ext) :=
  (h.slot (by simp)).removeDevice

theorem interfaceExtDevCb_keeps (ev : DeviceEvent) : Preserves spec I (interfaceExtDevCb ev) := by
  unfold interfaceExtDevCb
  split_ifs
  · exact h.removeExt_keeps
  · exact Preserves.pure _

theorem interfaceAliasCb_keeps (ev : InterfaceEvent) (dev : Option ℕ) :
    Preserves spec I (interfaceAliasCb g ev dev) := by
  cases ev with
  | up =>
    simp only [interfaceAliasCb]
    split_ifs
    · exact Preserves.pure _
    · refine Preserves.bind (h.interfaceSetMainDev_keeps dev) fun _ => ?_
      exact h.interfaceSetAvailable_keeps true
  | down =>
    refine Preserves.bind (h.interfaceSetAvailable_keeps false) fun _ => ?_
    exact h.interfaceSetMainDev_keeps none
  | update | free | reload | linkUp => exact Preserves.pure _

theorem claimMainDev_keeps : Preserves spec I (claimMainDev g) := by
  refine Preserves.after_read fun s => ?_
  have hfind : Preserves spec I findMainDev := by
    refine Preserves.after_read fun s => ?_
    split_ifs
    · exact Preserves.bind Preserves.ask fun n => Preserves.pure _
    · exact Preserves.pure _
  split_ifs
  · refine Preserves.bind Preserves.ask fun n => ?_
    split_ifs
    · exact Preserves.pure _
    · exact h.interfaceAliasCb_keeps .up _
  · refine Preserves.bind hfind fun dev => ?_
    split_ifs
    · exact Preserves.pure _
    · exact h.interfaceSetMainDev_keeps dev

theorem interfaceClaimDevice_keeps : Preserves spec I (interfaceClaimDevice g) := by
  refine Preserves.bind h.claimMainDev_keeps fun _ => Preserves.after_read fun s => ?_
  split_ifs
  · exact h.interfaceSetAvailable_keeps true
  · exact Preserves.pure _

theorem interfaceAddLink_keeps (dev : ℕ) (linkExt : Bool) :
    Preserves spec I (interfaceAddLink g dev linkExt) := by
  refine Preserves.after_read fun s => ?_
  split_ifs
  · exact Preserves.pure _
  all_goals
    refine Preserves.bind ((h.slot (by simp)).removeDeviceIf _) fun _ => ?_
  · exact Preserves.pure _
  · have hext : Preserves spec I (addDeviceIf linkExt .ext (some dev)) :=
      (h.slot (by simp)).addDeviceIf linkExt _
    refine Preserves.bind hext fun _ => ?_
    refine Preserves.bind (h.interfaceSetMainDev_keeps _) fun _ => ?_
    exact Preserves.modify fun s => h.mapUser (by simp) s _

theorem interfaceRemoveLink_keeps (dev : ℕ) : Preserves spec I (interfaceRemoveLink g dev) := by
  refine Preserves.after_read fun s => Preserves.bind Preserves.ask fun n => ?_
  split_ifs
  · exact Preserves.pure _
  · refine Preserves.bind ((h.slot (by simp)).removeDeviceIf _) fun _ => ?_
    refine Preserves.after_read fun s => ?_
    split_ifs
    · exact Preserves.pure _
    · exact Preserves.pure _
    · exact h.interfaceSetMainDev_keeps none

theorem interfaceStartPending_keeps : Preserves spec I (interfaceStartPending g) := by
  refine Preserves.after_read fun s => ?_
  split_ifs
  · exact Preserves.bind h.interfaceSetUp_keeps fun _ => Preserves.pure _
  · exact Preserves.pure _

end Transitions

theorem settings_of_core {s t : LiveInterface} (h : t.core = s.core) :
    t.settings = s.settings ∧ t.proto = s.proto ∧ t.endedEarly = s.endedEarly := by
  simp only [LiveInterface.core, Prod.mk.injEq] at h
  obtain ⟨htable, hkept, hconf, -, hconfig, -, hproto, -, hwanted, hended⟩ := h
  refine ⟨?_, hproto, hended⟩
  simp [LiveInterface.settings, Interface.settled, htable, hkept, hconf, hconfig, hproto, hwanted]

section Settings

variable (hsame : ∀ s t : LiveInterface, t.settings = s.settings → t.proto = s.proto →
    t.endedEarly = s.endedEarly → I s → I t)
  (hcallbacks : Preserves spec I deviceCallbacks)

include hsame

theorem modify_keepsSettings {f : LiveInterface → LiveInterface}
    (hf : ∀ s, (f s).settings = s.settings)
    (hproto : ∀ s, (f s).proto = s.proto ∧ (f s).endedEarly = s.endedEarly) :
    Preserves spec I (modify f) :=
  Preserves.modify fun s hs => hsame s (f s) (hf s) (hproto s).1 (hproto s).2 hs

include hcallbacks

theorem DeviceSteps.of_settings : DeviceSteps g spec I :=
  DeviceSteps.of_core (fun h => by
    obtain ⟨hsettings, hproto, hended⟩ := settings_of_core h
    exact hsame _ _ hsettings hproto hended) hcallbacks

theorem markInterfaceDown_keepsSettings : Preserves spec I markInterfaceDown := by
  have hmodify : ∀ {f : LiveInterface → LiveInterface}, (∀ s, (f s).settings = s.settings) →
      (∀ s, (f s).proto = s.proto ∧ (f s).endedEarly = s.endedEarly) →
      Preserves spec I (modify f) := modify_keepsSettings hsame
  have hflush : Preserves spec I (do
      modify fun s : LiveInterface =>
        { s with configIpEnabled := false, protoIpEnabled := false, protoIp := {} }
      interfaceFlushState) :=
    Preserves.bind (hmodify (fun _ => rfl) fun _ => ⟨rfl, rfl⟩) fun _ =>
      (DeviceSteps.of_settings (g := {}) hsame hcallbacks).releaseL3
  refine Preserves.after_read fun s => ?_
  split_ifs
  · exact Preserves.pure _
  all_goals refine Preserves.bind (hmodify (fun _ => rfl) fun _ => ⟨rfl, rfl⟩) fun _ => ?_
  · exact Preserves.bind (hmodify (fun _ => rfl) fun _ => ⟨rfl, rfl⟩) fun _ => hflush
  · exact hflush

/-- The transitions keep an invariant that speaks of settings and protocol only, if commands
to the protocol do. -/
theorem Transitions.of_settings
    (hprotoEvent : ∀ cmd, Preserves spec I (interfaceProtoEvent g cmd)) :
    Transitions g spec I := by
  have hmodify : ∀ {f : LiveInterface → LiveInterface}, (∀ s, (f s).settings = s.settings) →
      (∀ s, (f s).proto = s.proto ∧ (f s).endedEarly = s.endedEarly) →
      Preserves spec I (modify f) := modify_keepsSettings hsame
  have hdevice : DeviceSteps g spec I := DeviceSteps.of_settings hsame hcallbacks
  have hmarkDown : Preserves spec I markInterfaceDown :=
    markInterfaceDown_keepsSettings hsame hcallbacks
  have hsetUp : Preserves spec I (interfaceSetUp' g) := by
    refine Preserves.bind (hmodify (fun _ => rfl) fun _ => ⟨rfl, rfl⟩) fun _ => ?_
    refine Preserves.bind (hprotoEvent .setup) fun ret => ?_
    split_ifs
    · exact Preserves.bind hmarkDown fun _ => Preserves.pure _
    · exact Preserves.pure _
  have hsetDown : ∀ force, Preserves spec I (interfaceSetDown' g force) := by
    intro force
    have hrest : Preserves spec I (do
        let _ ← interfaceProtoEvent g .teardown
        if force then interfaceFlushState else pure ()) := by
      refine Preserves.bind (hprotoEvent .teardown) fun _ => ?_
      split_ifs
      · exact hdevice.releaseL3
      · exact Preserves.pure _
    refine Preserves.after_read fun s => ?_
    cases s.state with
    | down =>
      exact (SlotSteps.of_all (fun s _ => hsame s _ rfl rfl rfl) hcallbacks).releaseAttached
    | teardown => exact Preserves.pure _
    | setup => exact Preserves.bind (hmodify (fun _ => rfl) fun _ => ⟨rfl, rfl⟩) fun _ => hrest
    | up =>
      refine Preserves.bind (hmodify (fun _ => rfl) fun _ => ⟨rfl, rfl⟩) fun _ => ?_
      exact Preserves.bind (hmodify (fun _ => rfl) fun _ => ⟨rfl, rfl⟩) fun _ => hrest
  refine ⟨hdevice, fun _ _ => hmodify (fun _ => rfl) fun _ => ⟨rfl, rfl⟩, hprotoEvent, ?_,
    fun hs _ _ => hsetUp _ hs, hsetDown false, fun {s} => hsame s _ rfl rfl rfl,
    fun {s} hs => hsetDown true _ (hsame s _ rfl rfl rfl hs)⟩
  have hdown : Preserves spec I (do
      let _ ← interfaceProtoEvent g .teardown
      markInterfaceDown) := Preserves.bind (hprotoEvent .teardown) fun _ => hmarkDown
  refine Preserves.after_read fun s => ?_
  cases s.state with
  | teardown => exact Preserves.pure _
  | down =>
    refine Preserves.ite (fun _ => ?_) fun _ => Preserves.pure _
    exact Preserves.bind hsetUp fun _ => Preserves.pure _
  | setup | up => exact Preserves.ite (fun _ => hdown) fun _ => Preserves.pure _

end Settings

theorem toDeviceUser_keeps (slot : DeviceSlot) {cb : InterfaceProg Unit}
    (hcb : Preserves spec I cb) : Preserves spec I (toDeviceUser slot cb) := by
  refine Preserves.after_read fun s => ?_
  split_ifs
  · exact Preserves.pure _
  · exact Preserves.bind hcb fun _ => Preserves.pure _

theorem startScript_keeps (hshell : ∀ f, Preserves spec I (setShell f)) :
    Preserves spec I startScript := by
  refine Preserves.bind Preserves.ask fun n => ?_
  match n with
  | 0 => exact Preserves.bind (hshell _) fun _ => Preserves.pure _
  | 1 => exact Preserves.bind (hshell _) fun _ => Preserves.pure _
  | _ + 2 => exact Preserves.pure _

theorem protoShellHandler_keeps (hshell : ∀ f, Preserves spec I (setShell f))
    (cmd : InterfaceProtoCmd) : Preserves spec I (protoShellHandler cmd) := by
  refine Preserves.after_read fun s => ?_
  cases s.shell with
  | none => exact Preserves.pure _
  | some st =>
    refine Preserves.bind (hshell _) fun _ => ?_
    cases (protoShellCommand st cmd).2 with
    | none => exact startScript_keeps hshell
    | some result => exact Preserves.pure _

theorem DeviceSteps.protoCb_keeps (h : DeviceSteps g spec I)
    (hip : ∀ f : LiveInterface → LiveInterface, (∀ s, (f s).core = s.core) →
      Preserves spec I (Prog.modify f))
    (hhandler : ∀ cmd, Preserves spec I (protoShellHandler cmd)) (proto : InterfaceProtoState)
    (cmd : InterfaceProtoCmd) : Preserves spec I (protoCb g proto cmd) := by
  have hsetup : Preserves spec I (staticProtoSetup g) := by
    refine Preserves.after_read fun s => Preserves.bind (h.setL3 _) fun _ => ?_
    refine Preserves.bind Preserves.ask fun n => Preserves.bind (hip _ fun _ => rfl) fun _ => ?_
    refine Preserves.bind Preserves.ask fun failed => ?_
    split_ifs
    · exact Preserves.pure _
    · exact Preserves.pure _
  unfold protoCb
  cases proto.cb with
  | none => exact Preserves.pure _
  | static =>
    cases cmd with
    | setup => exact hsetup
    | teardown => exact Preserves.pure _
    | renew => exact Preserves.pure _
  | shell => exact hhandler cmd
  | invalid => exact Preserves.pure _

/-- An update of the state of a shell protocol that may end tasks and start a checkup, but
neither moves the state machine nor touches the wake-up. -/
structure Harmless (f : ProtoShellState → ProtoShellState) : Prop where
  sm : ∀ st, (f st).sm = st.sm
  teardownTimeout : ∀ st, (f st).teardownTimeout = st.teardownTimeout
  protoTask : ∀ st, (f st).protoTask = true → st.protoTask = true

/-- What a shell protocol does keeps an invariant. -/
structure ShellSteps (g : RunGuards) (spec : Spec LiveInterface InterfaceCall)
    (I : LiveInterface → Prop) : Prop extends Transitions g spec I where
  harmless : ∀ {f}, Harmless f → Preserves spec I (setShell f)
  handler : ∀ cmd, Preserves spec I (protoShellHandler cmd)
  linkLost : ∀ {s : LiveInterface}, I s → s.isShell = true →
    wp spec (invoke (.protoEvent .linkLost)) (fun _ t => I t) s
  finish : ∀ task, Preserves spec I (protoShellTaskFinish task)
  teardownTimeout : Preserves spec I protoShellTeardownTimeoutCb
  claimLink : Preserves spec I (claimL3Dev g)
  linkUp : ∀ m keep, Preserves spec I (protoShellLinkUp g m keep)
  runCommand : ∀ m, Preserves spec I (protoShellRunCommand g m)

theorem finishRunning_keeps (hharmless : ∀ {f}, Harmless f → Preserves spec I (setShell f))
    (hhandler : ∀ cmd, Preserves spec I (protoShellHandler cmd)) (task : Option ShellTask) :
    Preserves spec I (finishRunning task) := by
  have hcheckup : Preserves spec I (setShell fun st =>
      if st.sm = .setup ∧ 0 < st.checkupInterval then { st with checkupTimeout := true }
      else st) := by
    refine hharmless ⟨fun st => ?_, fun st => ?_, fun st => ?_⟩
    all_goals split_ifs
    all_goals simp
  refine Preserves.after_read fun s => ?_
  cases s.shell with
  | none => exact Preserves.pure _
  | some st =>
    match task with
    | none => exact Preserves.pure _
    | some .proto => exact Preserves.bind (hhandler _) fun _ => Preserves.pure _
    | some .script =>
      intro t ht
      simp only [wp_bind, wp_ite]
      refine ⟨fun _ => ?_, fun _ => ⟨fun _ => ?_, fun _ => hcheckup t ht⟩⟩
      · exact (hhandler .renew).ends ht fun _ u hu => hcheckup u hu
      · exact (hhandler .teardown).ends ht fun _ u hu => hcheckup u hu

/-- `proto_shell_task_finish` keeps what the handler keeps, if the ends of an aborted setup and
of a teardown do, which come when no task is pending. -/
theorem protoShellTaskFinish_keeps
    (hharmless : ∀ {f}, Harmless f → Preserves spec I (setShell f))
    (hhandler : ∀ cmd, Preserves spec I (protoShellHandler cmd))
    (hlost : ∀ {s : LiveInterface}, I s → s.isShell = true →
      wp spec (invoke (.protoEvent .linkLost)) (fun _ t => I t) s)
    (haborted : ∀ {s : LiveInterface} {st : ProtoShellState}, I s → s.shell = some st →
      st.scriptTask = false → st.protoTask = false →
      wp spec (setShell ProtoShellState.settle) (fun _ t => I t) s)
    (hended : ∀ {s : LiveInterface} {st : ProtoShellState}, I s → s.shell = some st →
      st.scriptTask = false → st.protoTask = false →
      wp spec (do
        setShell ProtoShellState.settle
        noteEnd
        let _ ← invoke (.protoEvent .down)
        pure ()) (fun _ t => I t) s) (task : Option ShellTask) :
    Preserves spec I (protoShellTaskFinish task) := by
  refine Preserves.read_bind fun s hs => ?_
  cases hshell : s.shell with
  | none => exact hs
  | some st =>
    have hisShell := isShell_of_shell hshell
    cases hsm : st.sm with
    | idle =>
      simp only [hsm, wp_bind, wp_ite]
      refine ⟨fun _ => ?_, fun _ => finishRunning_keeps hharmless hhandler task s hs⟩
      exact wp_mono _ (fun _ t ht => finishRunning_keeps hharmless hhandler task t ht)
        (hlost hs hisShell)
    | setup =>
      simp only [hsm]
      exact finishRunning_keeps hharmless hhandler task s hs
    | setupAbort =>
      simp only [hsm, wp_ite, wp_bind, wp_pure, Bool.or_eq_true, not_or, Bool.not_eq_true]
      refine ⟨fun _ => hs, fun htasks => ?_⟩
      refine wp_mono _ (fun _ t ht => ?_) (haborted hs hshell htasks.1 htasks.2)
      exact (hhandler .teardown).followed ht fun _ _ hu => hu
    | teardown =>
      simp only [hsm, wp_ite, wp_pure, Bool.or_eq_true, not_or, Bool.not_eq_true]
      exact ⟨fun _ => hs, fun htasks => hended hs hshell htasks.1 htasks.2⟩

theorem ShellSteps.of_setShell (h : Transitions g spec I) (hclaim : Preserves spec I (claimL3Dev g))
    (hshell : ∀ f, Preserves spec I (setShell f))
    (hip : ∀ f : LiveInterface → LiveInterface, (∀ s, (f s).core = s.core) →
      Preserves spec I (Prog.modify f))
    (hend : Preserves spec I noteEnd) (hup : Preserves spec I (invoke (.protoEvent .up)))
    (hdown : Preserves spec I (invoke (.protoEvent .down)))
    (hlost : ∀ {s : LiveInterface}, I s → s.isShell = true →
      wp spec (invoke (.protoEvent .linkLost)) (fun _ t => I t) s) : ShellSteps g spec I := by
  have hhandler : ∀ cmd, Preserves spec I (protoShellHandler cmd) := protoShellHandler_keeps hshell
  have hfinish : ∀ task, Preserves spec I (protoShellTaskFinish task) :=
    protoShellTaskFinish_keeps (fun _ => hshell _) hhandler hlost
      (fun hs _ _ _ => hshell _ _ hs)
      (fun hs _ _ _ => Preserves.bind (hshell _) (fun _ => Preserves.bind hend fun _ =>
        Preserves.bind hdown fun _ => Preserves.pure _) _ hs)
  refine ⟨h, fun _ => hshell _, hhandler, hlost, hfinish,
    Preserves.bind (hshell _) fun _ => hfinish none, hclaim, fun m keep => ?_, fun m => ?_⟩
  · refine Preserves.after_read fun s => Preserves.bind (Preserves.require _) fun _ => ?_
    refine Preserves.bind Preserves.ask fun _ => ?_
    refine Preserves.bind (hip _ fun _ => rfl) fun _ => Preserves.after_read fun s => ?_
    cases s.shell with
    | none => exact Preserves.pure _
    | some st =>
      refine Preserves.ite (fun _ => Preserves.pure _) fun _ => Preserves.bind hup fun _ => ?_
      exact Preserves.bind (hshell _) fun _ => Preserves.pure _
  · refine Preserves.ite (fun _ => Preserves.pure _) fun _ => ?_
    refine Preserves.bind Preserves.ask fun _ => Preserves.after_read fun s => ?_
    refine Preserves.bind (Preserves.require _) fun _ => ?_
    exact Preserves.bind (hshell _) fun _ => Preserves.pure _

theorem notifiedDevice_keeps (m : NotifyMessage) : Preserves spec I (notifiedDevice m) := by
  refine Preserves.after_read fun s => ?_
  split_ifs
  · exact Preserves.bind Preserves.ask fun _ => Preserves.pure _
  · exact Preserves.pure _

namespace ShellSteps

variable (h : ShellSteps g spec I)

include h

theorem protoShellScriptCb_keeps : Preserves spec I protoShellScriptCb :=
  Preserves.bind (h.harmless ⟨fun _ => rfl, fun _ => rfl, fun _ => id⟩) fun _ => h.finish _

theorem protoShellTaskCb_keeps (status : ℤ) : Preserves spec I (protoShellTaskCb status) := by
  refine Preserves.bind (h.harmless ⟨fun st => ?_, fun st => ?_, fun st => ?_⟩) fun _ => h.finish _
  all_goals split_ifs
  all_goals simp

theorem protoShellCheckupTimeoutCb_keeps : Preserves spec I protoShellCheckupTimeoutCb := by
  refine Preserves.bind (h.harmless ⟨fun _ => rfl, fun _ => rfl, fun _ => id⟩) fun _ => ?_
  refine Preserves.after_read fun s => ?_
  split_ifs
  · exact Preserves.bind (h.handler _) fun _ => Preserves.pure _
  · exact Preserves.pure _

theorem protoShellCheckDependencies_keeps : Preserves spec I (protoShellCheckDependencies g) := by
  refine Preserves.after_read fun s => ?_
  cases s.shell with
  | none => exact Preserves.pure _
  | some st => exact h.interfaceSetAvailable_keeps _

theorem protoShellUpdateHostDep_keeps (i : ℕ) : Preserves spec I (protoShellUpdateHostDep g i) :=
  Preserves.bind Preserves.ask fun n =>
    Preserves.bind (h.harmless (by split_ifs <;> exact ⟨fun _ => rfl, fun _ => rfl, fun _ => id⟩))
      fun _ => h.protoShellCheckDependencies_keeps

theorem protoShellIfDownCb_keeps (i : ℕ) : Preserves spec I (protoShellIfDownCb i) := by
  refine Preserves.bind (h.harmless ⟨fun _ => rfl, fun _ => rfl, fun _ => id⟩) fun _ => ?_
  refine Preserves.read_bind fun s hs => ?_
  cases hshell : s.shell with
  | none => exact hs
  | some st =>
    simp only [wp_ite, wp_bind, wp_pure]
    refine ⟨fun _ => ?_, fun _ => hs⟩
    refine wp_mono _ (fun _ t ht => ?_) (h.linkLost hs (isShell_of_shell hshell))
    exact (h.handler .teardown).followed ht fun _ u hu => hu

theorem protoShellSetLink_keeps (m : NotifyMessage) : Preserves spec I (protoShellSetLink g m) := by
  refine Preserves.bind (notifiedDevice_keeps m) fun dev => ?_
  split_ifs
  · exact Preserves.pure _
  · refine Preserves.bind (h.setL3 dev) fun _ => ?_
    refine Preserves.bind h.claimLink fun ret => ?_
    split_ifs
    · exact Preserves.pure _
    · exact Preserves.bind h.callbacks fun _ => h.linkUp m false

theorem protoShellUpdateLink_keeps (m : NotifyMessage) :
    Preserves spec I (protoShellUpdateLink g m) := by
  refine Preserves.read_bind fun s hs => ?_
  cases hshell : s.shell with
  | none => exact hs
  | some st =>
    match m.linkUp with
    | none => exact hs
    | some false =>
      rw [wp_bind]
      exact wp_mono _ (fun _ t ht => ht) (h.linkLost hs (isShell_of_shell hshell))
    | some true =>
      exact Preserves.ite (fun _ => h.linkUp m true)
        (fun _ => h.protoShellSetLink_keeps m) s hs

theorem protoShellKillCommand_keeps (m : NotifyMessage) :
    Preserves spec I (protoShellKillCommand m) := by
  refine Preserves.bind (h.harmless ⟨fun st => ?_, fun st => ?_, fun st => ?_⟩) fun _ =>
    Preserves.pure _
  all_goals split_ifs
  all_goals simp

theorem protoShellBlockRestart_keeps : Preserves spec I protoShellBlockRestart :=
  Preserves.bind (h.modify fun _ => rfl) fun _ => Preserves.pure _

omit h in
theorem protoShellNotifyError_keeps (m : NotifyMessage) :
    Preserves spec I (protoShellNotifyError m) := by
  unfold protoShellNotifyError
  cases m.error with
  | none => exact Preserves.pure _
  | some data => exact Preserves.ite (fun _ => Preserves.pure _) fun _ => Preserves.pure _

theorem protoShellSetAvailable_keeps (m : NotifyMessage) :
    Preserves spec I (protoShellSetAvailable g m) := by
  unfold protoShellSetAvailable
  cases m.available with
  | none => exact Preserves.pure _
  | some available =>
    exact Preserves.bind (h.interfaceSetAvailable_keeps available) fun _ => Preserves.pure _

theorem protoShellAddHostDependency_keeps (m : NotifyMessage) :
    Preserves spec I (protoShellAddHostDependency g m) := by
  refine Preserves.ite (fun _ => Preserves.pure _) fun _ => ?_
  refine Preserves.bind (h.harmless ⟨fun _ => rfl, fun _ => rfl, fun _ => id⟩) fun _ => ?_
  refine Preserves.bind (h.protoShellUpdateHostDep_keeps 0) fun _ => ?_
  refine Preserves.after_read fun s => ?_
  split_ifs
  · exact Preserves.pure _
  · exact Preserves.pure _

theorem protoShellSetupFailed_wp (st : ProtoShellState) (hs : I s)
    (hshell : s.isShell = true) : wp spec (protoShellSetupFailed st)
      (fun _ t => I t) s := by
  simp only [protoShellSetupFailed, wp_ite, wp_bind, wp_pure]
  refine ⟨fun _ => hs, fun _ => ⟨fun _ => ?_, fun _ => ?_⟩⟩
  · refine wp_mono _ (fun _ t ht => ?_) (h.linkLost hs hshell)
    exact (h.handler .teardown).followed ht fun _ u hu => hu
  · exact (h.handler .teardown).ends hs fun _ u hu => hu

theorem protoShellNotify_keeps (m : NotifyMessage) : Preserves spec I (protoShellNotify g m) := by
  refine Preserves.read_bind fun s hs => ?_
  cases hshell : s.shell with
  | none => exact hs
  | some st =>
    have hguarded : ∀ {x : InterfaceProg ℤ}, Preserves spec I x →
        wp spec (if st.closing then pure ubusStatusPermissionDenied else x)
          (fun _ t => I t) s := fun hx =>
      Preserves.ite (fun _ => Preserves.pure _) (fun _ => hx) s hs
    dsimp only
    split
    · exact hguarded (h.protoShellUpdateLink_keeps m)
    · exact hguarded (h.runCommand m)
    · exact h.protoShellKillCommand_keeps m s hs
    · exact protoShellNotifyError_keeps m s hs
    · exact h.protoShellBlockRestart_keeps s hs
    · exact h.protoShellSetAvailable_keeps m s hs
    · exact hguarded (h.protoShellAddHostDependency_keeps m)
    · exact h.protoShellSetupFailed_wp st hs (isShell_of_shell hshell)
    · exact hs

end ShellSteps

end Netifd
