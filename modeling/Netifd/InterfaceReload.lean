import Netifd.InterfaceLifecycle

/-!
# Reloads of the configuration

What remains of an interface after any number of reloads, when no teardown is pending: it is
in the table if the last reload contained it, and runs with the configuration of that. The
change that a reload asks for waits in one field until a teardown ends, and a reload that
contains the interface without a change has to find no removal there.
-/

namespace Netifd
open ReentrantProgram ReentrantProgram.Prog

/-- Two configurations agree in what the handler reads of them. -/
def ProtoHandler.sameConfig (handler : ProtoHandler) (c1 c2 : Blob) : Bool :=
  match handler.configParams with
  | none => true
  | some params => c1.checkEqual c2 params

theorem ProtoHandler.sameConfig_refl (handler : ProtoHandler) (c : Blob) :
    handler.sameConfig c c = true := by
  unfold ProtoHandler.sameConfig
  cases handler.configParams with
  | none => rfl
  | some params => simp [Blob.checkEqual]

theorem ProtoHandler.sameConfig_trans {handler : ProtoHandler} {c1 c2 c3 : Blob}
    (h : handler.sameConfig c1 c2 = true) (h' : handler.sameConfig c2 c3 = true) :
    handler.sameConfig c1 c3 = true := by
  unfold ProtoHandler.sameConfig at *
  cases hparams : handler.configParams with
  | none => rfl
  | some params =>
    simp only [hparams, Blob.checkEqual, List.all_eq_true, beq_iff_eq] at *
    exact fun name hname => (h name hname).trans (h' name hname)

/-- The record is that of a reload, but for the option that a reload does not copy: that is as
in the reload if no reload has changed it. -/
structure Configured (g : RunGuards) (conf new : Interface) : Prop where
  same : SameConfiguration (conf.withDelegation new.protoIp.noDelegation) new
  delegation : g.redelegating = true → conf.protoIp.noDelegation = new.protoIp.noDelegation

/-- The protocol that runs is the one of a reload, with its configuration. -/
def Attached (s : LiveInterface) (new : Interface) : Prop :=
  ∃ proto, s.proto = some proto ∧ proto.handler = new.protoHandler ∧
    new.protoHandler.sameConfig proto.config new.config = true

/-- The interface runs with the configuration of a reload. -/
structure RunsWith (g : RunGuards) (s : LiveInterface) (new : Interface) : Prop where
  configured : Configured g s.conf new
  attached : Attached s new

/-- What is pending agrees with the last reload. -/
structure Consistent (g : RunGuards) (s : LiveInterface) : Prop where
  dynamic : s.conf.dynamic = false
  dns : DnsSettled s.conf
  keptOnReload : s.keptOnReload = false
  without : s.wanted = none → s.inTable = true → s.configState = .remove
  with' : ∀ new, s.wanted = some new → s.inTable = true ∧ s.configState ≠ .remove ∧
    Configured g s.conf new ∧ (s.configState = .normal → Attached s new)

variable {g : RunGuards} {s t : LiveInterface}

theorem Attached.congr {new : Interface} (h : Attached s new)
    (hproto : t.proto.map (fun proto => (proto.handler, proto.config)) =
      s.proto.map fun proto => (proto.handler, proto.config)) : Attached t new := by
  obtain ⟨proto, hs, hhandler, hconfig⟩ := h
  rw [hs, Option.map_some, Option.map_eq_some_iff] at hproto
  obtain ⟨proto', ht, heq⟩ := hproto
  obtain ⟨hhandler', hconfig'⟩ := Prod.mk.inj heq
  exact ⟨proto', ht, hhandler'.trans hhandler, hconfig' ▸ hconfig⟩

theorem Configured.congr {conf conf' new : Interface} (h : Configured g conf new)
    (heq : conf'.settled = conf.settled) : Configured g conf' new := by
  have hsame : SameConfiguration (conf.settled.withDelegation new.protoIp.noDelegation) new := by
    cases h.same
    constructor <;> assumption
  have hip := congrArg Interface.protoIp heq
  refine ⟨?_, fun hg => (congrArg InterfaceIpSettings.noDelegation hip).trans (h.delegation hg)⟩
  rw [← heq] at hsame
  cases hsame
  constructor <;> assumption

theorem settings_conf (h : t.settings = s.settings) : t.conf.settled = s.conf.settled := by
  simp only [LiveInterface.settings, Prod.mk.injEq] at h
  exact h.2.2.2.1

theorem Consistent.congr (hs : Consistent g s) (h : t.settings = s.settings) :
    Consistent g t := by
  have hconf := settings_conf h
  have hdynamic := congrArg Interface.dynamic hconf
  have hip : t.conf.configIp = s.conf.configIp := by
    have hip := congrArg Interface.configIp hconf
    exact hip
  simp only [LiveInterface.settings, Prod.mk.injEq] at h
  obtain ⟨htable, hkept, hwanted, -, hstate, hproto⟩ := h
  constructor
  · exact hdynamic.trans hs.dynamic
  · rw [DnsSettled, hip]
    exact hs.dns
  · exact hkept.trans hs.keptOnReload
  · rw [hwanted, htable, hstate]
    exact hs.without
  · intro new hnew
    obtain ⟨hin, hremove, hconfigured, hattached⟩ := hs.with' new (hwanted ▸ hnew)
    rw [htable, hstate]
    exact ⟨hin, hremove, hconfigured.congr hconf, fun hnormal => (hattached hnormal).congr hproto⟩

/-- Either what is pending agrees with the last reload, or, while a change is carried out,
nothing is pending and nothing but that writes the settings. -/
def ReloadKept (g : RunGuards) : Option LiveInterface → LiveInterface → Prop
  | none, s => Consistent g s
  | some v, s => s.settings = v.settings ∧ v.configState = .normal ∧ v.conf.dynamic = false

variable {k : Option LiveInterface}

theorem ReloadKept.congr (hs : ReloadKept g k s) (h : t.settings = s.settings) :
    ReloadKept g k t := by
  cases k with
  | none => exact Consistent.congr hs h
  | some v => exact ⟨h.trans hs.1, hs.2⟩

theorem ReloadKept.dynamic (hs : ReloadKept g k s) : s.conf.dynamic = false := by
  cases k with
  | none => exact Consistent.dynamic hs
  | some v =>
    have hdynamic := congrArg Interface.dynamic (settings_conf hs.1)
    exact hdynamic.trans hs.2.2

/-- Configuration changes are calls of their own, all others keep both. -/
def reloadAdmits : InterfaceCall → Option LiveInterface → Prop
  | .setConfigState _, _ | .addDynamic _, _ | .remove, _ => False
  | .reload new, k => k = none ∧ new.dynamic = false ∧ DnsSettled new
  | .reloadWithout, k => k = none
  | _, _ => True

def reloadSpec (g : RunGuards) : Spec LiveInterface InterfaceCall := fun p s _ t =>
  ∀ k, reloadAdmits p k → ReloadKept g k s → ReloadKept g k t

abbrev KeepsReload (g : RunGuards) (k : Option LiveInterface) {α : Type} (x : InterfaceProg α) :
    Prop := Preserves (reloadSpec g) (ReloadKept g k) x

theorem deviceCallbacks_keepsReload : KeepsReload g k deviceCallbacks := by
  apply Preserves.callbacks
  intro p s r t hp hspec
  cases p <;> first | exact hspec k trivial | cases hp

theorem modify_keepsReload {f : LiveInterface → LiveInterface}
    (hf : ∀ s, (f s).settings = s.settings) : KeepsReload g k (modify f) :=
  Preserves.modify fun s hs => hs.congr (hf s)

theorem setShell_keepsReload (f : ProtoShellState → ProtoShellState) :
    KeepsReload g k (setShell f) := by
  refine modify_keepsReload fun s => ?_
  cases h : s.proto <;> simp [LiveInterface.settings, h]

theorem reload_slotSteps (slot : DeviceSlot) : SlotSteps (reloadSpec g) (ReloadKept g k) slot :=
  SlotSteps.of_all (fun _ _ hs => hs.congr rfl) deviceCallbacks_keepsReload

theorem emit_keepsReload (ev : InterfaceEvent) : KeepsReload g k (interfaceEvent ev) :=
  modify_keepsReload fun _ => rfl

theorem markInterfaceDown_keepsReload : KeepsReload g k markInterfaceDown :=
  markInterfaceDown_keepsSettings (fun _ _ h _ _ hs => hs.congr h) deviceCallbacks_keepsReload

theorem reload_deviceSteps : DeviceSteps g (reloadSpec g) (ReloadKept g k) :=
  DeviceSteps.of_settings (fun _ _ h _ _ hs => hs.congr h) deviceCallbacks_keepsReload

theorem interfaceProtoEvent_keepsReload (cmd : InterfaceProtoCmd) :
    KeepsReload g k (interfaceProtoEvent g cmd) := by
  refine Preserves.after_read fun s => ?_
  cases s.proto with
  | none => exact fun _ _ => trivial
  | some proto =>
    have hcb : KeepsReload g k (protoCb g proto cmd) :=
      reload_deviceSteps.protoCb_keeps
        (fun _ hf => modify_keepsReload fun s => (settings_of_core (hf s)).1)
        (protoShellHandler_keeps setShell_keepsReload) proto cmd
    refine Preserves.bind hcb fun ret => ?_
    split_ifs
    · exact Preserves.pure _
    · exact Preserves.bind (fun _ hs _ _ hspec => hspec k trivial hs) fun _ => Preserves.pure _

theorem reload_transitions : Transitions g (reloadSpec g) (ReloadKept g k) :=
  Transitions.of_settings (fun _ _ h _ _ hs => hs.congr h) deviceCallbacks_keepsReload
    interfaceProtoEvent_keepsReload

theorem frame (s : LiveInterface) (hnormal : s.configState = .normal)
    (hdynamic : s.conf.dynamic = false) : ReloadKept g (some s) s := ⟨rfl, hnormal, hdynamic⟩

theorem interfaceCleanupState_reload {v : LiveInterface} (hs : ReloadKept g (some v) s) :
    wp (reloadSpec g) (interfaceCleanupState g)
      (fun _ t => ReloadKept g (some { v with proto := none }) t) s := by
  refine (reload_transitions.interfaceSetAvailable_keeps false).followed hs fun _ t ht => ?_
  refine reload_deviceSteps.releaseL3.followed ht fun _ u hu => ?_
  simp only [interfaceSetProtoState, wp_bind, wp_read, wp_require, wp_modify]
  intro _
  refine (reload_transitions.interfaceSetMainDev_keeps none).ends
    (I := ReloadKept g (some { v with proto := none })) ⟨?_, hu.2⟩ fun _ w hw =>
    reload_deviceSteps.setL3 none w hw
  obtain ⟨hsettings, -⟩ := hu
  simp only [LiveInterface.settings, Prod.mk.injEq] at hsettings ⊢
  obtain ⟨htable, hkept, hwanted, hconf, hstate, -⟩ := hsettings
  exact ⟨htable, hkept, hwanted, hconf, hstate, trivial⟩

theorem protoInitInterface_reload {v : LiveInterface} (hs : ReloadKept g (some v) s)
    (hv : Consistent g { v with configState := .reload }) :
    wp (reloadSpec g) (protoInitInterface g) (fun _ t => Consistent g t) s := by
  obtain ⟨hsettings, hnormal, -⟩ := hs
  have hs' : Consistent g { s with configState := .reload } := by
    refine hv.congr ?_
    simp only [LiveInterface.settings, Prod.mk.injEq] at hsettings ⊢
    obtain ⟨htable, hkept, hwanted, hconf, -, hproto⟩ := hsettings
    exact ⟨htable, hkept, hwanted, hconf, trivial, hproto⟩
  simp only [protoInitInterface, interfaceSetProtoState, wp_bind, wp_read, wp_ask, wp_require,
    wp_modify]
  intro n _
  have hstate : s.configState = .normal := by
    simp only [LiveInterface.settings, Prod.mk.injEq] at hsettings
    exact hsettings.2.2.2.2.1.trans hnormal
  refine ⟨hs'.dynamic, hs'.dns, hs'.keptOnReload, fun hwanted htable => ?_, fun new hnew => ?_⟩
  · exact absurd (hs'.without hwanted htable) (by simp)
  · obtain ⟨htable, -, hconfigured, -⟩ := hs'.with' new hnew
    refine ⟨htable, by simp [hstate], hconfigured, fun _ => ⟨_, rfl, ?_, ?_⟩⟩
    · exact hconfigured.same.protoHandler
    · have hconfig : s.conf.config = new.config := hconfigured.same.config
      change new.protoHandler.sameConfig s.conf.config new.config = true
      rw [hconfig]
      exact new.protoHandler.sameConfig_refl new.config

theorem interfaceDoReload_reload (hs : Consistent g { s with configState := .reload })
    (hnormal : s.configState = .normal) :
    wp (reloadSpec g) (interfaceDoReload g) (fun _ t => Consistent g t) s := by
  have hframe : ReloadKept g (some s) s := frame s hnormal hs.dynamic
  refine (emit_keepsReload .reload).followed hframe fun _ t ht => ?_
  rw [wp_bind]
  refine wp_mono _ (fun _ u hu => ?_) (interfaceCleanupState_reload ht)
  rw [wp_bind]
  refine wp_mono _ (fun _ w hw => ?_) (protoInitInterface_reload hu ?_)
  · exact reload_transitions.interfaceClaimDevice_keeps (I := ReloadKept g none) w hw
  · exact ⟨hs.dynamic, hs.dns, hs.keptOnReload, hs.without, fun new hnew =>
      ⟨(hs.with' new hnew).1, by simp, (hs.with' new hnew).2.2.1, by simp⟩⟩

theorem interfaceDoFree_reload (hs : Consistent g { s with configState := .remove })
    (hnormal : s.configState = .normal) :
    wp (reloadSpec g) (interfaceDoFree g) (fun _ t => Consistent g t) s := by
  have hwanted : s.wanted = none := by
    cases hnew : s.wanted with
    | none => rfl
    | some new => exact absurd rfl (hs.with' new hnew).2.1
  have hframe : ReloadKept g (some s) s := frame s hnormal hs.dynamic
  refine (emit_keepsReload .free).followed hframe fun _ t ht => ?_
  simp only [interfaceCleanup, wp_bind]
  refine reload_transitions.removeExt_keeps.ends ht fun _ u hu => ?_
  refine wp_mono _ (fun _ w hw => ?_) (interfaceCleanupState_reload hu)
  have hlast : Consistent g { s with proto := none, inTable := false } :=
    ⟨hs.dynamic, hs.dns, hs.keptOnReload, by simp, fun new hnew => by simp [hwanted] at hnew⟩
  obtain ⟨hsettings, -⟩ := hw
  simp only [LiveInterface.settings, Prod.mk.injEq] at hsettings
  refine hlast.congr ?_
  simp only [LiveInterface.settings, Prod.mk.injEq, true_and]
  exact hsettings.2

theorem restartInterface_keepsReload : KeepsReload g k (restartInterface g) := by
  refine Preserves.read_bind fun s hs => ?_
  have hdynamic := hs.dynamic
  simp only [wp_ite, wp_bind, wp_pure, hdynamic, Bool.false_eq_true, false_implies, true_and]
  exact ⟨fun _ => reload_transitions.interfaceSetUp_keeps s hs, fun _ _ => hs⟩

theorem interfaceHandleConfigChange_keepsReload :
    KeepsReload g k (interfaceHandleConfigChange g) := by
  intro s hs
  simp only [interfaceHandleConfigChange, wp_bind, wp_read, wp_modify]
  cases k with
  | some v =>
    have hnormal : s.configState = .normal := by
      obtain ⟨hsettings, hnormal, -⟩ := hs
      simp only [LiveInterface.settings, Prod.mk.injEq] at hsettings
      exact hsettings.2.2.2.2.1.trans hnormal
    rw [hnormal]
    refine restartInterface_keepsReload _ (hs.congr ?_)
    simp [LiveInterface.settings, hnormal]
  | none =>
    have hs : Consistent g s := hs
    have hthen : ∀ t, Consistent g t →
        wp (reloadSpec g) (restartInterface g) (fun _ t => Consistent g t) t := fun t ht =>
      restartInterface_keepsReload (k := none) t ht
    cases hstate : s.configState with
    | normal =>
      refine hthen _ (hs.congr ?_)
      simp [LiveInterface.settings, hstate]
    | reload =>
      rw [wp_bind]
      refine wp_mono _ (fun _ t ht => hthen t ht) (interfaceDoReload_reload (hs.congr ?_) rfl)
      simp [LiveInterface.settings, hstate]
    | remove =>
      refine interfaceDoFree_reload (hs.congr ?_) rfl
      simp [LiveInterface.settings, hstate]

theorem setConfigState_reload {state : InterfaceConfigState}
    (hs : Consistent g { s with configState := state }) :
    wp (reloadSpec g) (setConfigState g state) (fun _ t => Consistent g t) s := by
  simp only [setConfigState, wp_bind, wp_modify, wp_read, wp_ite]
  have hkept : ReloadKept g none { s with configState := state } := hs
  exact ⟨fun _ => interfaceHandleConfigChange_keepsReload _ hkept,
    fun _ => reload_transitions.setDown' _ hkept⟩

theorem interfaceProtoEventCb_keepsReload (ev : InterfaceProtoEvent) :
    KeepsReload g k (interfaceProtoEventCb g ev) := by
  cases ev with
  | up =>
    have hup : KeepsReload g k (do
        modify fun s => { s with configIpEnabled := true, protoIpEnabled := true, state := .up }
        interfaceEvent .up) :=
      Preserves.bind (modify_keepsReload fun _ => rfl) fun _ => emit_keepsReload .up
    refine Preserves.after_read fun s => ?_
    split_ifs
    · exact emit_keepsReload .update
    · exact Preserves.pure _
    · exact Preserves.bind (reload_deviceSteps.setL3 _) fun _ => hup
    · exact hup
  | down =>
    refine Preserves.after_read fun s => ?_
    split_ifs
    · exact Preserves.pure _
    refine Preserves.bind markInterfaceDown_keepsReload fun _ => ?_
    refine Preserves.bind ?_ fun _ => Preserves.bind ?_ fun _ =>
      interfaceHandleConfigChange_keepsReload
    · exact (reload_slotSteps .main).releaseAttached
    · exact (reload_slotSteps .l3).removeDevice
  | linkLost =>
    refine Preserves.after_read fun s => ?_
    split_ifs
    · exact Preserves.pure _
    refine Preserves.bind markInterfaceDown_keepsReload fun _ => Preserves.after_read fun s => ?_
    exact Preserves.bind (Preserves.require _) fun _ => modify_keepsReload fun _ => rfl
  | renew => exact Preserves.pure _

theorem reload_shellSteps : ShellSteps g (reloadSpec g) (ReloadKept g k) :=
  ShellSteps.of_setShell reload_transitions
    (reload_slotSteps .l3).claimL3Dev setShell_keepsReload
    (fun _ hf => modify_keepsReload fun s => (settings_of_core (hf s)).1)
    (modify_keepsReload fun _ => rfl) (fun _ hs _ _ hspec => hspec k trivial hs)
    (fun _ hs _ _ hspec => hspec k trivial hs)
    (fun hs _ _ _ hspec => hspec k trivial hs)

theorem interfaceFlush_reload (hs : Consistent g s) :
    wp (reloadSpec g) (interfaceFlush g) (fun _ t => Consistent g t) { s with wanted := none } := by
  simp only [interfaceFlush, wp_bind, wp_read, wp_ite, wp_pure]
  refine ⟨fun _ => setConfigState_reload ?_, fun h => ?_⟩
  · exact ⟨hs.dynamic, hs.dns, hs.keptOnReload, fun _ _ => rfl, fun new hnew => by cases hnew⟩
  · have hout : s.inTable = false := by simpa [hs.keptOnReload] using h
    refine ⟨hs.dynamic, hs.dns, hs.keptOnReload, fun _ hin => ?_, fun new hnew => by cases hnew⟩
    exact absurd hin (by simp [hout])

theorem interfaceChangeConfig_configured (dev : Bool) {conf new : Interface}
    (hdns : DnsSettled conf)
    (hguard : g.redelegating = true → conf.protoIp.noDelegation = new.protoIp.noDelegation) :
    Configured g (interfaceChangeConfig dev conf new).iface new := by
  refine ⟨interfaceChangeConfig_withDelegation dev hdns new, fun hg => ?_⟩
  exact (interfaceChangeConfig_noDelegation dev conf new).trans (hguard hg)

theorem Attached.unchanged {dev : Bool} {conf old new : Interface} (h : Attached s old)
    (hconf : Configured g conf old)
    (hsame : (interfaceChangeConfig dev conf new).reload = false) : Attached s new := by
  obtain ⟨proto, hproto, hhandler, hconfig⟩ := h
  simp only [interfaceChangeConfig, Bool.or_eq_false_iff] at hsame
  obtain ⟨⟨⟨-, -, hhandlers⟩, hparams⟩, -⟩ := hsame
  have hold : conf.protoHandler = old.protoHandler := hconf.same.protoHandler
  have hnew : conf.protoHandler = new.protoHandler := by simpa using hhandlers
  refine ⟨proto, hproto, hhandler.trans (hold.symm.trans hnew), ?_⟩
  rw [← hold, hnew] at hconfig
  refine ProtoHandler.sameConfig_trans hconfig ?_
  have hblob : old.config = conf.config := hconf.same.config.symm
  rw [hblob, ProtoHandler.sameConfig, ← hnew]
  cases h : conf.protoHandler.configParams with
  | none => rfl
  | some params => simpa [h] using hparams

/-- The interface is in the table and contained in the reload. -/
theorem interfaceReload_reload (hg : g.readding = true) (hs : Consistent g s) (new : Interface)
    (htable : s.inTable = true) :
    wp (reloadSpec g) (interfaceReload g new) (fun _ t => Consistent g t)
      { s with wanted := some new } := by
  simp only [interfaceReload, wp_bind, wp_read, wp_require, wp_modify]
  intro hpending hdelegation
  have hconfigured : Configured g
      (interfaceChangeConfig (s.users .main).dev.isSome s.conf new).iface new :=
    interfaceChangeConfig_configured _ hs.dns fun hg => by simpa [hg] using hdelegation
  obtain ⟨fixedId, -, hiface⟩ := interfaceChangeConfig_iface (s.users .main).dev.isSome s.conf new
  have hdynamic : (interfaceChangeConfig (s.users .main).dev.isSome s.conf new).iface.dynamic =
      false := by
    rw [hiface]
    exact hs.dynamic
  have hdns : DnsSettled (interfaceChangeConfig (s.users .main).dev.isSome s.conf new).iface := by
    rw [hiface]
    exact ⟨hs.dns.1.replace _, hs.dns.2.replace _⟩
  cases hreload : (interfaceChangeConfig (s.users .main).dev.isSome s.conf new).reload with
  | true =>
    refine setConfigState_reload ⟨hdynamic, hdns, hs.keptOnReload, by simp, fun new' hnew => ?_⟩
    cases hnew
    exact ⟨htable, by simp, hconfigured, by simp⟩
  | false =>
    have hremove : s.configState ≠ .remove := by simpa [hg, hreload] using hpending
    have hlast : Consistent g { s with
        wanted := some new
        conf := (interfaceChangeConfig (s.users .main).dev.isSome s.conf new).iface } := by
      refine ⟨hdynamic, hdns, hs.keptOnReload, by simp, fun new' hnew => ?_⟩
      cases hnew
      refine ⟨htable, hremove, hconfigured, fun hnormal => ?_⟩
      cases hwanted : s.wanted with
      | none => exact absurd (hs.without hwanted htable) hremove
      | some old =>
        obtain ⟨-, -, hconfold, hattached⟩ := hs.with' old hwanted
        have hattached' := (hattached hnormal).unchanged hconfold hreload
        exact hattached'
    simp only [Bool.false_eq_true, if_false, wp_ite, wp_pure]
    exact ⟨fun _ => hlast, fun _ => reload_transitions.checkState (I := ReloadKept g none) _ hlast⟩

theorem interfaceCreate_reload (new : Interface) (hdynamic : new.dynamic = false)
    (hdns : DnsSettled new) (hwanted : s.wanted = some new) :
    wp (reloadSpec g) (interfaceCreate g new) (fun _ t => Consistent g t) s := by
  simp only [interfaceCreate, wp_bind, wp_modify]
  refine wp_mono _ (fun _ t ht => ?_) (protoInitInterface_reload (frame _ rfl hdynamic) ?_)
  · exact reload_transitions.interfaceClaimDevice_keeps (I := ReloadKept g none) t ht
  · refine ⟨hdynamic, hdns, rfl, by simp [hwanted], fun new' hnew => ?_⟩
    obtain rfl : new = new' := by simpa [hwanted] using hnew
    have hsame : SameConfiguration new new := by constructor <;> rfl
    exact ⟨rfl, by simp, ⟨hsame, fun _ => rfl⟩, by simp⟩

theorem interfaceAdd_reload (hg : g.readding = true) (hs : Consistent g s) (new : Interface)
    (hdynamic : new.dynamic = false) (hdns : DnsSettled new) :
    wp (reloadSpec g) (interfaceAdd g new) (fun _ t => Consistent g t)
      { s with wanted := some new } := by
  simp only [interfaceAdd, wp_bind, wp_modify, wp_read, wp_ite]
  have hs' : Consistent g { s with keptOnReload := false } := hs.congr (by
    simp [LiveInterface.settings, hs.keptOnReload])
  exact ⟨fun htable => interfaceReload_reload hg hs' new htable,
    fun _ => interfaceCreate_reload new hdynamic hdns rfl⟩

/-- A call keeps what it admits. -/
theorem interfaceBody_keepsReload (hg : g.readding = true) (p : InterfaceCall)
    (hadmits : reloadAdmits p k) (hs : ReloadKept g k s) :
    wp (reloadSpec g) (interfaceBody g p) (fun _ t => ReloadKept g k t) s := by
  have hthen : ∀ {x : InterfaceProg Unit} {u : LiveInterface},
      wp (reloadSpec g) x (fun _ t => ReloadKept g k t) u →
      wp (reloadSpec g) (do x; pure (0 : ℤ)) (fun _ t => ReloadKept g k t) u := by
    intro x u hx
    rw [wp_bind]
    exact wp_mono _ (fun _ t ht => ht) hx
  cases p with
  | mainDevEvent ev =>
    exact toDeviceUser_keeps .main (reload_transitions.interfaceMainDevCb_keeps ev) s hs
  | l3DevEvent ev =>
    exact toDeviceUser_keeps .l3 (reload_transitions.interfaceL3DevCb_keeps ev) s hs
  | extDevEvent ev =>
    exact toDeviceUser_keeps .ext (reload_transitions.interfaceExtDevCb_keeps ev) s hs
  | parentEvent ev dev => exact hthen (reload_transitions.interfaceAliasCb_keeps ev dev s hs)
  | addLink dev linkExt =>
    exact hthen (deviceCallbacks_keepsReload.followed hs fun _ t ht =>
      reload_transitions.interfaceAddLink_keeps dev linkExt t ht)
  | removeLink dev => exact hthen (reload_transitions.interfaceRemoveLink_keeps dev s hs)
  | protoEvent ev => exact hthen (interfaceProtoEventCb_keepsReload ev s hs)
  | setConfigState state => exact hadmits.elim
  | setUp => exact reload_transitions.interfaceSetUp_keeps s hs
  | setDown => exact hthen (reload_transitions.interfaceSetDown_keeps s hs)
  | startPending => exact hthen (reload_transitions.interfaceStartPending_keeps s hs)
  | setConfigInit configInit => exact hthen (hs.congr rfl)
  | reload new =>
    obtain ⟨rfl, hdynamic, hdns⟩ := hadmits
    rw [interfaceBody, wp_bind, wp_modify]
    exact hthen (interfaceAdd_reload hg hs new hdynamic hdns)
  | reloadWithout =>
    obtain rfl : k = none := hadmits
    rw [interfaceBody, wp_bind, wp_modify]
    exact hthen (interfaceFlush_reload hs)
  | addDynamic new => exact hadmits.elim
  | remove => exact hadmits.elim
  | notify m => exact reload_shellSteps.protoShellNotify_keeps m s hs
  | scriptExit => exact hthen (reload_shellSteps.protoShellScriptCb_keeps s hs)
  | taskExit status => exact hthen (reload_shellSteps.protoShellTaskCb_keeps status s hs)
  | teardownTimeout => exact hthen (reload_shellSteps.teardownTimeout s hs)
  | checkupTimeout => exact hthen (reload_shellSteps.protoShellCheckupTimeoutCb_keeps s hs)
  | dependencyUp i => exact hthen (reload_shellSteps.protoShellUpdateHostDep_keeps i s hs)
  | dependencyDown i => exact hthen (reload_shellSteps.protoShellIfDownCb_keeps i s hs)

theorem interfaceBody_reload (hg : g.readding = true) :
    Verified (interfaceBody g) (reloadSpec g) := by
  intro p s
  refine wp_forall _ fun k => wp_imp _ fun hadmits => wp_imp _ fun hs => ?_
  exact interfaceBody_keepsReload hg p hadmits hs

theorem noInterface_consistent : Consistent g noInterface :=
  ⟨rfl, ⟨VlistSimple.settled_empty, VlistSimple.settled_empty⟩, rfl, by simp [noInterface],
    by simp [noInterface]⟩

/-- The calls, with the configuration file as the only source of interfaces; a record that it
is parsed to has its DNS data settled. -/
def reloadCallable (call : InterfaceCall) (s : LiveInterface) : Bool :=
  match call with
  | .addDynamic _ | .remove => false
  | .reload new => !new.dynamic && decide (DnsSettled new)
  | _ => interfaceCallable call s

theorem callable_of_reloadCallable (p : InterfaceCall) (s : LiveInterface)
    (h : reloadCallable p s = true) : interfaceCallable p s = true := by
  cases p <;> first | exact h | rfl | cases h

theorem admits_of_reloadCallable {p : InterfaceCall} (h : reloadCallable p s = true) :
    reloadAdmits p none := by
  cases p with
  | reload new => exact ⟨rfl, by simpa [reloadCallable] using h⟩
  | reloadWithout => rfl
  | setConfigState state => cases h
  | addDynamic new => cases h
  | remove => cases h
  | _ => trivial

theorem consistent_of_reachable (hg : g.readding = true)
    (h : Reachable (interfaceBody g) reloadCallable noInterface t) : Consistent g t :=
  Reachable.invariant (I := Consistent g) (interfaceBody_reload hg)
    (fun _ _ _ _ hcall hspec hs => hspec none (admits_of_reloadCallable hcall) hs)
    h noInterface_consistent

/-- When no teardown is pending, the last reload has won: the interface is in the table if it
was contained in it, and runs with its configuration. -/
theorem last_reload_wins (hg : g.readding = true)
    (h : Reachable (interfaceBody g) reloadCallable noInterface t) (hstate : t.state ≠ .teardown) :
    (t.inTable = true ↔ t.wanted.isSome = true) ∧
      ∀ new, t.wanted = some new → RunsWith g t new := by
  have hconsistent := consistent_of_reachable hg h
  have hnormal : t.configState = .normal := by
    by_contra hpending
    have hlife := lifecycle_of_reachable (h.mono callable_of_reloadCallable)
    exact hstate (hlife.pending rfl hpending)
  refine ⟨⟨fun htable => ?_, fun hwanted => ?_⟩, fun new hnew => ?_⟩
  · cases hwanted : t.wanted with
    | none => simp [hconsistent.without hwanted htable] at hnormal
    | some new => rfl
  · obtain ⟨new, hnew⟩ := Option.isSome_iff_exists.mp hwanted
    exact (hconsistent.with' new hnew).1
  · obtain ⟨-, -, hconfigured, hattached⟩ := hconsistent.with' new hnew
    exact ⟨hconfigured, hattached hnormal⟩

/-- The interface is contained in a reload, and then left out of one. -/
theorem last_reload_wins_dhcp : ∃ t,
    Reachable (interfaceBody { readding := true, redelegating := true }) reloadCallable
      noInterface t ∧ t.state ≠ .teardown ∧ t.wanted.isSome = true ∧ t.inTable = true := by
  obtain ⟨t, ht, hstate, hwanted⟩ := exists_reachable
    (interfaceBody { readding := true, redelegating := true }) reloadCallable noInterface
    (fun t => t.state ≠ .teardown ∧ t.wanted.isSome = true) 200
    [(.reload dhcpInterface, dhcpChoices), (.protoEvent .up, []), (.reload dhcpInterface, [])]
    (by decide)
  exact ⟨t, ht, hstate, hwanted, (last_reload_wins rfl ht hstate).1.mpr hwanted⟩

/-- The interface is up, left out of a reload, and contained again in the next one before its
teardown has ended: at the end of that it is freed. -/
theorem last_reload_lost : ¬∀ t, Reachable (interfaceBody {}) reloadCallable noInterface t →
    t.state ≠ .teardown → (t.inTable = true ↔ t.wanted.isSome = true) := by
  intro h
  obtain ⟨t, ht, hstate, hwanted, htable⟩ := exists_reachable (interfaceBody {}) reloadCallable
    noInterface (fun t => t.state ≠ .teardown ∧ t.wanted.isSome = true ∧ t.inTable = false) 200
    [(.reload dhcpInterface, dhcpChoices), (.protoEvent .up, []), (.reloadWithout, []),
      (.reload dhcpInterface, []), (.protoEvent .down, [.resume, .resume, .resume])]
    (by decide)
  simp [(h t ht hstate).mpr hwanted] at htable

end Netifd
