import Netifd.InterfaceLifecycle

/-!
# The wake-up of a shell protocol

While a shell protocol is on its way down it waits for its tasks, and for no longer than a
timeout that is always set; it reports its end when it is at rest and not before. Both hold
whatever the order of commands, messages, exits and timeouts, with any failure to start a
process.
-/

namespace Netifd
open ReentrantProgram ReentrantProgram.Prog

/-- A handler that waits for its tasks has its timeout set. -/
def ProtoShellState.armed (st : ProtoShellState) : Bool := !st.closing || st.teardownTimeout

/-- The state of the shell protocol will be left, and its end was never reported early. -/
structure Wakeful (s : LiveInterface) : Prop where
  armed : ∀ st, s.shell = some st → st.armed = true
  ended : s.endedEarly = false

variable {g : RunGuards} {s t : LiveInterface}

theorem Wakeful.congr (hs : Wakeful s) (hproto : t.proto = s.proto)
    (hended : t.endedEarly = s.endedEarly) : Wakeful t := by
  have hshell : t.shell = s.shell := by rw [LiveInterface.shell, hproto]; rfl
  exact ⟨hshell ▸ hs.armed, hended ▸ hs.ended⟩

theorem wakeful_of_no_shell (hshell : s.shell = none) (hended : s.endedEarly = false) :
    Wakeful s := by
  refine ⟨fun st hst => ?_, hended⟩
  rw [hshell] at hst
  cases hst

/-- Every call keeps the wake-up. -/
def wakefulSpec : Spec LiveInterface InterfaceCall := fun _ s _ t => Wakeful s → Wakeful t

abbrev KeepsWakeful {α : Type} (x : InterfaceProg α) : Prop := Preserves wakefulSpec Wakeful x

theorem invoke_keepsWakeful (p : InterfaceCall) : KeepsWakeful (invoke p) :=
  fun _ hs _ _ hspec => hspec hs

theorem deviceCallbacks_keepsWakeful : KeepsWakeful deviceCallbacks :=
  Preserves.callbacks fun _ _ _ _ _ hspec => hspec

theorem modify_keepsWakeful {f : LiveInterface → LiveInterface}
    (hproto : ∀ s, (f s).proto = s.proto)
    (hended : ∀ s, (f s).endedEarly = s.endedEarly) : KeepsWakeful (modify f) :=
  Preserves.modify fun s hs => hs.congr (hproto s) (hended s)

theorem shell_setShell (s : LiveInterface) (f : ProtoShellState → ProtoShellState) :
    LiveInterface.shell
      { s with proto := s.proto.map fun proto => { proto with shell := f proto.shell } } =
      s.shell.map f := by
  unfold LiveInterface.shell
  cases s.proto with
  | none => rfl
  | some proto =>
    simp only [Option.map_some]
    split_ifs <;> rfl

theorem setShell_wakeful {f : ProtoShellState → ProtoShellState} (hended : s.endedEarly = false)
    (hf : ∀ st, s.shell = some st → (f st).armed = true) :
    wp wakefulSpec (setShell f) (fun _ t => Wakeful t ∧ t.shell = s.shell.map f) s := by
  rw [setShell, wp_modify]
  refine ⟨⟨fun st hst => ?_, hended⟩, shell_setShell s f⟩
  rw [shell_setShell] at hst
  obtain ⟨old, hold, rfl⟩ := Option.map_eq_some_iff.mp hst
  exact hf old hold

theorem setShell_keepsWakeful {f : ProtoShellState → ProtoShellState}
    (hf : ∀ st, st.armed = true → (f st).armed = true) : KeepsWakeful (setShell f) :=
  fun _ hs => wp_mono _ (fun _ _ ht => ht.1)
    (setShell_wakeful hs.ended fun st hst => hf st (hs.armed st hst))

theorem harmless_keepsWakeful {f : ProtoShellState → ProtoShellState} (hf : Harmless f) :
    KeepsWakeful (setShell f) :=
  setShell_keepsWakeful fun st hst => by
    simpa [ProtoShellState.armed, ProtoShellState.closing, hf.sm, hf.teardownTimeout] using hst

theorem protoShellCommand_armed (st : ProtoShellState) (cmd : InterfaceProtoCmd)
    (hst : st.armed = true) : (protoShellCommand st cmd).1.armed = true := by
  cases cmd with
  | setup =>
    simp only [protoShellCommand]
    cases hsm : st.sm <;> simp_all [ProtoShellState.armed, ProtoShellState.closing]
  | renew =>
    simp only [protoShellCommand]
    split_ifs <;> exact hst
  | teardown =>
    simp only [protoShellCommand]
    cases hsm : st.sm with
    | idle => simp [ProtoShellState.armed]
    | setup =>
      dsimp only
      split_ifs
      all_goals simp [ProtoShellState.armed]
    | setupAbort => exact hst
    | teardown => exact hst

theorem startScript_keepsWakeful : KeepsWakeful startScript := by
  have hscript : ∀ b, KeepsWakeful (setShell fun st => { st with scriptTask := b }) := fun _ =>
    harmless_keepsWakeful ⟨fun _ => rfl, fun _ => rfl, fun _ => id⟩
  refine Preserves.bind Preserves.ask fun n => ?_
  match n with
  | 0 => exact Preserves.bind (hscript true) fun _ => Preserves.pure _
  | 1 => exact Preserves.bind (hscript false) fun _ => Preserves.pure _
  | _ + 2 => exact Preserves.pure _

theorem protoShellHandler_keepsWakeful (cmd : InterfaceProtoCmd) :
    KeepsWakeful (protoShellHandler cmd) := by
  refine Preserves.read_bind fun s hs => ?_
  cases hshell : s.shell with
  | none => exact hs
  | some st =>
    have harmed := protoShellCommand_armed st cmd (hs.armed st hshell)
    dsimp only
    rw [wp_bind]
    refine wp_mono _ (fun _ t ht => ?_) (setShell_wakeful hs.ended fun _ _ => harmed)
    cases (protoShellCommand st cmd).2 with
    | none => exact startScript_keepsWakeful t ht.1
    | some result => exact ht.1

theorem settle_atRest {st : ProtoShellState} (hscript : st.scriptTask = false)
    (hproto : st.protoTask = false) : st.settle.atRest = true := by
  simp [ProtoShellState.settle, ProtoShellState.atRest, hscript, hproto]

theorem settle_wakeful (hended : s.endedEarly = false) :
    wp wakefulSpec (setShell ProtoShellState.settle)
      (fun _ t => Wakeful t ∧ t.shell = s.shell.map ProtoShellState.settle) s :=
  setShell_wakeful hended fun _ _ => by
    simp [ProtoShellState.settle, ProtoShellState.armed, ProtoShellState.closing]

theorem end_wakeful {st : ProtoShellState} (hended : s.endedEarly = false)
    (hshell : s.shell = some st) (hscript : st.scriptTask = false) (hproto : st.protoTask = false) :
    wp wakefulSpec (do
      setShell ProtoShellState.settle
      noteEnd
      let _ ← invoke (.protoEvent .down)
      pure ()) (fun _ t => Wakeful t) s := by
  rw [wp_bind]
  refine wp_mono _ (fun _ t ht => ?_) (settle_wakeful hended)
  obtain ⟨ht, hsettled⟩ := ht
  have hrest : t.shell.all (·.atRest) = true := by
    simp [hsettled, hshell, settle_atRest hscript hproto]
  have hdown : KeepsWakeful (do
      let _ ← invoke (.protoEvent .down)
      pure ()) := Preserves.bind (invoke_keepsWakeful _) fun _ => Preserves.pure _
  rw [wp_bind, noteEnd, wp_modify]
  exact hdown _ ⟨ht.armed, by simp [hrest, ht.ended]⟩

theorem protoShellTaskFinish_keepsWakeful (task : Option ShellTask) :
    KeepsWakeful (protoShellTaskFinish task) := by
  apply protoShellTaskFinish_keeps harmless_keepsWakeful protoShellHandler_keepsWakeful
  · exact fun hs _ => invoke_keepsWakeful _ _ hs
  · exact fun hs _ _ _ => wp_mono _ (fun _ _ ht => ht.1) (settle_wakeful hs.ended)
  · exact fun hs hshell hscript hproto => end_wakeful hs.ended hshell hscript hproto

theorem protoShellTaskFinish_wakeful {st : ProtoShellState} (hended : s.endedEarly = false)
    (hshell : s.shell = some st) (hscript : st.scriptTask = false) (hproto : st.protoTask = false) :
    wp wakefulSpec (protoShellTaskFinish none) (fun _ t => Wakeful t) s := by
  have hwakeful : st.closing = false → Wakeful s := fun hopen =>
    ⟨fun st' hst' => by simp_all [ProtoShellState.armed], hended⟩
  cases hsm : st.sm with
  | idle =>
    have hopen : st.closing = false := by simp [ProtoShellState.closing, hsm]
    exact protoShellTaskFinish_keepsWakeful none s (hwakeful hopen)
  | setup =>
    have hopen : st.closing = false := by simp [ProtoShellState.closing, hsm]
    exact protoShellTaskFinish_keepsWakeful none s (hwakeful hopen)
  | setupAbort =>
    simp only [protoShellTaskFinish, wp_bind, wp_read, hshell, hsm, hscript, hproto, Bool.or_self,
      Bool.false_eq_true, if_false]
    refine wp_mono _ (fun _ t ht => ?_) (settle_wakeful hended)
    exact (protoShellHandler_keepsWakeful .teardown).followed ht.1 fun _ _ hu => hu
  | teardown =>
    simp only [protoShellTaskFinish, wp_bind, wp_read, hshell, hsm, hscript, hproto, Bool.or_self,
      Bool.false_eq_true, if_false]
    have hend := end_wakeful hended hshell hscript hproto
    rwa [wp_bind] at hend

theorem teardownTimeout_keepsWakeful : KeepsWakeful protoShellTeardownTimeoutCb := by
  intro s hs
  rw [protoShellTeardownTimeoutCb, wp_bind, setShell, wp_modify]
  have hset := shell_setShell s fun st =>
    { st with teardownTimeout := false, scriptTask := false, protoTask := false }
  cases hshell : s.shell with
  | none =>
    rw [hshell] at hset
    refine protoShellTaskFinish_keepsWakeful none _ ⟨fun st hst => ?_, hs.ended⟩
    cases hset.symm.trans hst
  | some st =>
    rw [hshell] at hset
    exact protoShellTaskFinish_wakeful hs.ended hset rfl rfl

theorem wakeful_slotSteps (slot : DeviceSlot) : SlotSteps wakefulSpec Wakeful slot :=
  SlotSteps.of_all (fun _ _ hs => hs.congr rfl rfl) deviceCallbacks_keepsWakeful

theorem wakeful_deviceSteps : DeviceSteps g wakefulSpec Wakeful :=
  DeviceSteps.of_settings (fun _ _ _ hproto hended hs => hs.congr hproto hended)
    deviceCallbacks_keepsWakeful

theorem interfaceProtoEvent_keepsWakeful (cmd : InterfaceProtoCmd) :
    KeepsWakeful (interfaceProtoEvent g cmd) := by
  refine Preserves.after_read fun s => ?_
  cases s.proto with
  | none => exact fun _ _ => trivial
  | some proto =>
    have hcb : KeepsWakeful (protoCb g proto cmd) :=
      wakeful_deviceSteps.protoCb_keeps
        (fun f hf => Preserves.modify fun s hs => by
          obtain ⟨-, hproto, hended⟩ := settings_of_core (hf s)
          exact hs.congr hproto hended)
        protoShellHandler_keepsWakeful proto cmd
    refine Preserves.bind hcb fun ret => ?_
    split_ifs
    · exact Preserves.pure _
    · exact Preserves.bind (invoke_keepsWakeful _) fun _ => Preserves.pure _

theorem wakeful_transitions : Transitions g wakefulSpec Wakeful :=
  Transitions.of_settings (fun _ _ _ hproto hended hs => hs.congr hproto hended)
    deviceCallbacks_keepsWakeful interfaceProtoEvent_keepsWakeful

theorem protoShellLinkUp_keepsWakeful (m : NotifyMessage) (keep : Bool) :
    KeepsWakeful (protoShellLinkUp g m keep) := by
  refine Preserves.after_read fun s => Preserves.bind (Preserves.require _) fun _ => ?_
  refine Preserves.bind Preserves.ask fun _ => ?_
  refine Preserves.bind (modify_keepsWakeful (fun _ => rfl) fun _ => rfl) fun _ => ?_
  refine Preserves.after_read fun s => ?_
  cases s.shell with
  | none => exact Preserves.pure _
  | some st =>
    refine Preserves.ite (fun _ => Preserves.pure _) fun _ => ?_
    refine Preserves.bind (invoke_keepsWakeful _) fun _ => ?_
    refine Preserves.bind ?_ fun _ => Preserves.pure _
    exact setShell_keepsWakeful fun _ _ => rfl

theorem protoShellRunCommand_keepsWakeful (m : NotifyMessage) :
    KeepsWakeful (protoShellRunCommand g m) := by
  refine Preserves.ite (fun _ => Preserves.pure _) fun _ => ?_
  refine Preserves.bind Preserves.ask fun _ => Preserves.after_read fun s => ?_
  refine Preserves.bind (Preserves.require _) fun _ => Preserves.bind ?_ fun _ => Preserves.pure _
  exact setShell_keepsWakeful fun _ hst => hst

theorem wakeful_shellSteps : ShellSteps g wakefulSpec Wakeful where
  toTransitions := wakeful_transitions
  harmless := harmless_keepsWakeful
  handler := protoShellHandler_keepsWakeful
  linkLost hs _ := invoke_keepsWakeful _ _ hs
  finish := protoShellTaskFinish_keepsWakeful
  teardownTimeout := teardownTimeout_keepsWakeful
  claimLink := (wakeful_slotSteps .l3).claimL3Dev
  linkUp := protoShellLinkUp_keepsWakeful
  runCommand := protoShellRunCommand_keepsWakeful

theorem interfaceSetProtoState_keepsWakeful {proto : Option InterfaceProtoState}
    (hproto : ∀ p, proto = some p → p.shell.armed = true) :
    KeepsWakeful (interfaceSetProtoState g proto) := by
  refine Preserves.after_read fun s => Preserves.bind (Preserves.require _) fun _ => ?_
  refine Preserves.modify fun s hs => ⟨fun st hst => ?_, hs.ended⟩
  cases proto with
  | none => cases hst
  | some p =>
    have harmed := hproto p rfl
    simp only [LiveInterface.shell] at hst
    split_ifs at hst
    obtain rfl := Option.some.inj hst
    exact harmed

theorem interfaceCleanupState_keepsWakeful : KeepsWakeful (interfaceCleanupState g) := by
  refine Preserves.bind (wakeful_transitions.interfaceSetAvailable_keeps false) fun _ => ?_
  refine Preserves.bind (wakeful_deviceSteps (g := g)).releaseL3 fun _ => ?_
  refine Preserves.bind (interfaceSetProtoState_keepsWakeful (by simp)) fun _ => ?_
  refine Preserves.bind (wakeful_transitions.interfaceSetMainDev_keeps none) fun _ => ?_
  exact wakeful_deviceSteps.setL3 none

theorem protoInitInterface_keepsWakeful : KeepsWakeful (protoInitInterface g) := by
  refine Preserves.after_read fun s => Preserves.bind Preserves.ask fun n => ?_
  refine interfaceSetProtoState_keepsWakeful fun p hp => ?_
  obtain rfl := Option.some.inj hp
  rfl

theorem restartInterface_keepsWakeful : KeepsWakeful (restartInterface g) := by
  refine Preserves.after_read fun s => ?_
  split_ifs
  · exact Preserves.bind wakeful_transitions.interfaceSetUp_keeps fun _ => Preserves.pure _
  · exact Preserves.bind (invoke_keepsWakeful _) fun _ => Preserves.pure _
  · exact Preserves.pure _

theorem interfaceHandleConfigChange_keepsWakeful :
    KeepsWakeful (interfaceHandleConfigChange g) := by
  refine Preserves.after_read fun s => ?_
  refine Preserves.bind (modify_keepsWakeful (fun _ => rfl) fun _ => rfl) fun _ => ?_
  have hevent : ∀ ev, KeepsWakeful (interfaceEvent ev) := fun _ =>
    modify_keepsWakeful (fun _ => rfl) fun _ => rfl
  cases s.configState with
  | normal => exact restartInterface_keepsWakeful
  | reload =>
    refine Preserves.bind ?_ fun _ => restartInterface_keepsWakeful
    refine Preserves.bind (hevent .reload) fun _ => ?_
    refine Preserves.bind interfaceCleanupState_keepsWakeful fun _ => ?_
    refine Preserves.bind protoInitInterface_keepsWakeful fun _ => ?_
    exact wakeful_transitions.interfaceClaimDevice_keeps
  | remove =>
    refine Preserves.bind (hevent .free) fun _ => ?_
    refine Preserves.bind ?_ fun _ => modify_keepsWakeful (fun _ => rfl) fun _ => rfl
    exact Preserves.bind (wakeful_transitions (g := g)).removeExt_keeps fun _ =>
      interfaceCleanupState_keepsWakeful

theorem setConfigState_keepsWakeful (state : InterfaceConfigState) :
    KeepsWakeful (setConfigState g state) := by
  refine Preserves.bind (modify_keepsWakeful (fun _ => rfl) fun _ => rfl) fun _ => ?_
  refine Preserves.after_read fun s => ?_
  split_ifs
  · exact interfaceHandleConfigChange_keepsWakeful
  · exact wakeful_transitions.setDown'

theorem interfaceProtoEventCb_keepsWakeful (ev : InterfaceProtoEvent) :
    KeepsWakeful (interfaceProtoEventCb g ev) := by
  have hevent : ∀ ev, KeepsWakeful (interfaceEvent ev) := fun _ =>
    modify_keepsWakeful (fun _ => rfl) fun _ => rfl
  have hmark : KeepsWakeful markInterfaceDown :=
    markInterfaceDown_keepsSettings (fun _ _ _ hproto hended hs => hs.congr hproto hended)
      deviceCallbacks_keepsWakeful
  cases ev with
  | up =>
    have hup : KeepsWakeful (do
        modify fun s => { s with configIpEnabled := true, protoIpEnabled := true, state := .up }
        interfaceEvent .up) :=
      Preserves.bind (modify_keepsWakeful (fun _ => rfl) fun _ => rfl) fun _ => hevent .up
    refine Preserves.after_read fun s => ?_
    split_ifs
    · exact hevent .update
    · exact Preserves.pure _
    · exact Preserves.bind (wakeful_deviceSteps.setL3 _) fun _ => hup
    · exact hup
  | down =>
    refine Preserves.after_read fun s => ?_
    split_ifs
    · exact Preserves.pure _
    refine Preserves.bind hmark fun _ => Preserves.bind ?_ fun _ => Preserves.bind ?_ fun _ =>
      interfaceHandleConfigChange_keepsWakeful
    · exact (wakeful_slotSteps .main).releaseAttached
    · exact (wakeful_slotSteps .l3).removeDevice
  | linkLost =>
    refine Preserves.after_read fun s => ?_
    split_ifs
    · exact Preserves.pure _
    refine Preserves.bind hmark fun _ => Preserves.after_read fun s => ?_
    refine Preserves.bind (Preserves.require _) fun _ => ?_
    exact modify_keepsWakeful (fun _ => rfl) fun _ => rfl
  | renew => exact Preserves.pure _

theorem interfaceAdd_keepsWakeful (new : Interface) : KeepsWakeful (interfaceAdd g new) := by
  refine Preserves.bind (modify_keepsWakeful (fun _ => rfl) fun _ => rfl) fun _ => ?_
  refine Preserves.after_read fun s => ?_
  split_ifs
  · refine Preserves.after_read fun s => Preserves.bind (Preserves.require _) fun _ => ?_
    refine Preserves.bind (Preserves.require _) fun _ => ?_
    refine Preserves.bind (modify_keepsWakeful (fun _ => rfl) fun _ => rfl) fun _ => ?_
    split_ifs
    · exact setConfigState_keepsWakeful .reload
    · exact Preserves.pure _
    · exact wakeful_transitions.checkState
  · refine Preserves.bind (Preserves.modify fun s _ => wakeful_of_no_shell rfl rfl) fun _ => ?_
    refine Preserves.bind protoInitInterface_keepsWakeful fun _ => ?_
    exact wakeful_transitions.interfaceClaimDevice_keeps

theorem interfaceFlush_keepsWakeful : KeepsWakeful (interfaceFlush g) := by
  refine Preserves.after_read fun s => ?_
  split_ifs
  · exact setConfigState_keepsWakeful .remove
  · exact Preserves.pure _

theorem netifdAddDynamic_keepsWakeful (new : Interface) :
    KeepsWakeful (netifdAddDynamic g new) := by
  refine Preserves.bind (interfaceAdd_keepsWakeful new) fun _ => Preserves.after_read fun s => ?_
  split_ifs
  · exact modify_keepsWakeful (fun _ => rfl) fun _ => rfl
  · exact Preserves.pure _

theorem interfaceBody_keepsWakeful (p : InterfaceCall) : KeepsWakeful (interfaceBody g p) := by
  have hsteps : ShellSteps g wakefulSpec Wakeful := wakeful_shellSteps
  have hthen : ∀ {x : InterfaceProg Unit}, KeepsWakeful x →
      KeepsWakeful (do x; pure (0 : ℤ)) := fun hx => Preserves.bind hx fun _ => Preserves.pure _
  cases p with
  | mainDevEvent ev =>
    exact toDeviceUser_keeps .main (hsteps.interfaceMainDevCb_keeps ev)
  | l3DevEvent ev => exact toDeviceUser_keeps .l3 (hsteps.interfaceL3DevCb_keeps ev)
  | extDevEvent ev => exact toDeviceUser_keeps .ext (hsteps.interfaceExtDevCb_keeps ev)
  | parentEvent ev dev => exact hthen (hsteps.interfaceAliasCb_keeps ev dev)
  | addLink dev linkExt =>
    exact hthen (Preserves.bind deviceCallbacks_keepsWakeful fun _ =>
      hsteps.interfaceAddLink_keeps dev linkExt)
  | removeLink dev => exact hthen (hsteps.interfaceRemoveLink_keeps dev)
  | protoEvent ev => exact hthen (interfaceProtoEventCb_keepsWakeful ev)
  | setConfigState state => exact hthen (setConfigState_keepsWakeful state)
  | setUp => exact hsteps.interfaceSetUp_keeps
  | setDown => exact hthen hsteps.interfaceSetDown_keeps
  | startPending => exact hthen hsteps.interfaceStartPending_keeps
  | setConfigInit configInit => exact hthen (modify_keepsWakeful (fun _ => rfl) fun _ => rfl)
  | reload new =>
    refine Preserves.bind (modify_keepsWakeful (fun _ => rfl) fun _ => rfl) fun _ => ?_
    exact hthen (interfaceAdd_keepsWakeful new)
  | reloadWithout =>
    refine Preserves.bind (modify_keepsWakeful (fun _ => rfl) fun _ => rfl) fun _ => ?_
    exact hthen interfaceFlush_keepsWakeful
  | addDynamic new => exact hthen (netifdAddDynamic_keepsWakeful new)
  | remove => exact hthen (setConfigState_keepsWakeful .remove)
  | notify m => exact hsteps.protoShellNotify_keeps m
  | scriptExit => exact hthen hsteps.protoShellScriptCb_keeps
  | taskExit status => exact hthen (hsteps.protoShellTaskCb_keeps status)
  | teardownTimeout => exact hthen hsteps.teardownTimeout
  | checkupTimeout => exact hthen hsteps.protoShellCheckupTimeoutCb_keeps
  | dependencyUp i => exact hthen (hsteps.protoShellUpdateHostDep_keeps i)
  | dependencyDown i => exact hthen (hsteps.protoShellIfDownCb_keeps i)

theorem interfaceBody_wakeful : Verified (interfaceBody g) wakefulSpec :=
  fun p s => wp_imp _ fun hs => interfaceBody_keepsWakeful p s hs

/-- In every run, whenever no call is in progress, a shell protocol that is aborting its setup
or tearing down has its timeout set, and none has reported its end but at rest. -/
theorem shell_never_stuck (h : Reachable (interfaceBody {}) interfaceCallable noInterface t) :
    (∀ st, t.shell = some st → st.sm = .setupAbort ∨ st.sm = .teardown →
      st.teardownTimeout = true) ∧ t.endedEarly = false := by
  have hstart : Wakeful noInterface := wakeful_of_no_shell rfl rfl
  have hwakeful : Wakeful t :=
    Reachable.invariant interfaceBody_wakeful (fun _ _ _ _ _ hspec hs => hspec hs) h hstart
  refine ⟨fun st hst hsm => ?_, hwakeful.ended⟩
  have harmed := hwakeful.armed st hst
  rcases hsm with hsm | hsm
  all_goals simpa [ProtoShellState.armed, ProtoShellState.closing, hsm] using harmed

/-- An interface is left out of a reload while its setup script runs. -/
theorem shell_never_stuck_dhcp : ∃ t,
    Reachable (interfaceBody {}) interfaceCallable noInterface t ∧
      ∃ st, t.shell = some st ∧ st.sm = .setupAbort ∧ st.teardownTimeout = true := by
  obtain ⟨t, ht, habort⟩ := exists_reachable (interfaceBody {}) interfaceCallable
    noInterface (fun t => t.shell.map (·.sm) = some .setupAbort) 200
    [(.reload dhcpInterface, dhcpChoices), (.reloadWithout, [])] (by decide)
  obtain ⟨st, hst, hsm⟩ := Option.map_eq_some_iff.mp habort
  exact ⟨t, ht, st, hst, hsm, (shell_never_stuck ht).1 st hst (.inl hsm)⟩

end Netifd
