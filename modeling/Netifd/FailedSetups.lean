import Netifd.ShellScripts
import Netifd.InterfaceLifecycle

/-!
# Setups that fail

`proto_shell_handler` goes to `S_SETUP` before it starts the script. If the start fails it stays
there, and the commands to set up that follow are ignored.
-/

namespace Netifd.ShellScripts
open ReentrantProgram ReentrantProgram.Prog

/-- The interface has a shell protocol whose handler is not idle. -/
def Busy (s : LiveInterface) : Prop :=
  ∃ proto, s.proto = some proto ∧ proto.cb = .shell ∧ proto.handler.immediate = false ∧
    proto.shell.sm ≠ .idle

/-- No event of a device makes the handler idle. -/
def busySpec : Spec LiveInterface InterfaceCall := fun p s _ t =>
  isDeviceEvent p = true → Busy s → Busy t

section Interface

variable {g : RunGuards} {s : LiveInterface}

theorem deviceCallbacks_busy : Preserves busySpec Busy deviceCallbacks :=
  Preserves.callbacks fun _ _ _ _ hp hspec hs => hspec hp hs

theorem setShell_busy {f : ProtoShellState → ProtoShellState}
    (hf : ∀ st, st.sm ≠ .idle → (f st).sm ≠ .idle) : Preserves busySpec Busy (setShell f) := by
  refine Preserves.modify ?_
  rintro s ⟨proto, hproto, hcb, himmediate, hsm⟩
  refine ⟨{ proto with shell := f proto.shell }, ?_, hcb, himmediate, hf _ hsm⟩
  rw [hproto]
  rfl

theorem startScript_busy : Preserves busySpec Busy Netifd.startScript := by
  refine Preserves.bind Preserves.ask fun n => ?_
  match n with
  | 0 => exact Preserves.bind (setShell_busy fun _ h => h) fun _ => Preserves.pure _
  | 1 => exact Preserves.bind (setShell_busy fun _ h => h) fun _ => Preserves.pure _
  | _ + 2 => exact Preserves.pure _

theorem protoShellCommand_busy {st : ProtoShellState} (hst : st.sm ≠ .idle)
    (cmd : InterfaceProtoCmd) : (protoShellCommand st cmd).1.sm ≠ .idle := by
  cases cmd with
  | setup =>
    cases hsm : st.sm with
    | idle => exact absurd hsm hst
    | setup | setupAbort | teardown => simp [protoShellCommand, hsm]
  | renew =>
    unfold protoShellCommand
    dsimp only
    split_ifs
    all_goals exact hst
  | teardown =>
    cases hsm : st.sm with
    | idle => exact absurd hsm hst
    | setup =>
      unfold protoShellCommand
      simp only [hsm]
      split_ifs
      · simp
      · simp
    | setupAbort | teardown => simp [protoShellCommand, hsm]

theorem shell_of_proto {proto : InterfaceProtoState} (hproto : s.proto = some proto)
    (hcb : proto.cb = .shell) : s.shell = some proto.shell := by
  rw [LiveInterface.shell, hproto]
  exact if_pos hcb

theorem protoShellHandler_busy (cmd : InterfaceProtoCmd) :
    Preserves busySpec Busy (Netifd.protoShellHandler cmd) := by
  refine Preserves.read_bind ?_
  rintro s ⟨proto, hproto, hcb, himmediate, hsm⟩
  have hset : Preserves busySpec Busy (setShell fun _ => (protoShellCommand proto.shell cmd).1) :=
    setShell_busy fun _ _ => protoShellCommand_busy hsm cmd
  rw [shell_of_proto hproto hcb]
  refine hset.followed ⟨proto, hproto, hcb, himmediate, hsm⟩ fun _ t ht => ?_
  cases (protoShellCommand proto.shell cmd).2 with
  | some result => exact ht
  | none => exact startScript_busy t ht

theorem interfaceProtoEvent_ends {cmd : InterfaceProtoCmd} {proto : InterfaceProtoState}
    (hproto : s.proto = some proto) (hcb : proto.cb = .shell)
    (himmediate : proto.handler.immediate = false)
    (h : wp busySpec (Netifd.protoShellHandler cmd) (fun _ t => Busy t) s) :
    wp busySpec (interfaceProtoEvent g cmd) (fun _ t => Busy t) s := by
  simp only [interfaceProtoEvent, wp_bind, wp_read, hproto, protoCb, hcb]
  refine wp_mono _ (fun ret t ht => ?_) h
  rw [if_pos (Or.inr himmediate)]
  exact ht

theorem interfaceProtoEvent_busy (cmd : InterfaceProtoCmd) :
    Preserves busySpec Busy (interfaceProtoEvent g cmd) := by
  rintro s ⟨proto, hproto, hcb, himmediate, hsm⟩
  exact interfaceProtoEvent_ends hproto hcb himmediate
    (protoShellHandler_busy cmd s ⟨proto, hproto, hcb, himmediate, hsm⟩)

theorem Busy.congr {t : LiveInterface} (hs : Busy s) (hproto : t.proto = s.proto) : Busy t := by
  unfold Busy
  rw [hproto]
  exact hs

theorem transitions_busy : Transitions g busySpec Busy :=
  Transitions.of_settings (fun _ _ _ hproto _ hs => hs.congr hproto) deviceCallbacks_busy
    interfaceProtoEvent_busy

theorem interfaceBody_busy : Verified (interfaceBody g) busySpec := by
  intro call s
  refine wp_imp _ fun hevent => wp_imp _ fun hs => ?_
  cases call with
  | mainDevEvent ev =>
    exact toDeviceUser_keeps .main (transitions_busy.interfaceMainDevCb_keeps ev) s hs
  | l3DevEvent ev =>
    exact toDeviceUser_keeps .l3 (transitions_busy.interfaceL3DevCb_keeps ev) s hs
  | extDevEvent ev =>
    exact toDeviceUser_keeps .ext ((transitions_busy (g := g)).interfaceExtDevCb_keeps ev) s hs
  | _ => cases hevent

theorem setup_busy {proto : InterfaceProtoState} (hproto : s.proto = some proto)
    (hcb : proto.cb = .shell) (himmediate : proto.handler.immediate = false)
    (hidle : proto.shell.sm = .idle) :
    wp busySpec (Netifd.protoShellHandler .setup) (fun _ t => Busy t) s := by
  have hcommand : protoShellCommand proto.shell .setup =
      ({ proto.shell with lastError := -1, deps := [], sm := .setup }, none) := by
    simp only [protoShellCommand, hidle]
  simp only [Netifd.protoShellHandler, wp_bind, wp_read, shell_of_proto hproto hcb, hcommand,
    setShell, wp_modify]
  let shell : ProtoShellState := { proto.shell with lastError := -1, deps := [], sm := .setup }
  refine startScript_busy _ ⟨{ proto with shell }, ?_, hcb, himmediate, by simp [shell]⟩
  rw [hproto]
  rfl

end Interface

/-- `__interface_set_up` has failed, for an interface whose handler was idle. -/
structure FailedSetup where
  g : RunGuards := {}
  before : LiveInterface
  proto : InterfaceProtoState
  attached : before.proto = some proto
  shell : proto.cb = .shell
  delayed : proto.handler.immediate = false
  idle : proto.shell.sm = .idle
  ret : ℤ
  after : LiveInterface
  run : Exec (interfaceBody g) (interfaceSetUp' g) before ret after
  failed : ret ≠ 0

/-- The handler is idle again, so that the next command to set up starts the script. -/
def Recovered (s : LiveInterface) : Prop :=
  ∃ st, s.shell = some st ∧ st.sm = .idle ∧ (protoShellCommand st .setup).2 = none

theorem Busy.not_recovered {s : LiveInterface} (hs : Busy s) : ¬Recovered s := by
  rintro ⟨st, hst, hidle, -⟩
  obtain ⟨proto, hproto, hcb, -, hsm⟩ := hs
  obtain rfl := Option.some.inj ((shell_of_proto hproto hcb).symm.trans hst)
  exact hsm hidle

theorem FailedSetup.busy (f : FailedSetup) : Busy f.after := by
  have hmark : Preserves busySpec Busy markInterfaceDown :=
    markInterfaceDown_keepsSettings (fun _ _ _ hproto _ hs => hs.congr hproto) deviceCallbacks_busy
  have hends : wp busySpec (interfaceSetUp' f.g) (fun _ t => Busy t) f.before := by
    simp only [interfaceSetUp', wp_bind, wp_modify]
    refine wp_mono _ (fun ret t ht => ?_) (interfaceProtoEvent_ends f.attached f.shell f.delayed
      (setup_busy f.attached f.shell f.delayed f.idle))
    split_ifs
    · exact hmark.followed ht fun _ _ hu => hu
    · exact ht
  exact f.run.sound interfaceBody_busy hends

/-- The script or the command of the protocol is running, or the protocol needs none, while the
handler is being set up. -/
def Attended (st : ProtoShellState) : Prop :=
  st.sm = .setup → st.scriptTask = true ∨ st.protoTask = true ∨ st.handler.noTask = true

/-- The setup is waited for, and a renewal waits only if the protocol has one. -/
structure Watched (s : ScriptState) : Prop where
  attended : Attended s.shell
  renewable : s.shell.renewPending = true → s.shell.handler.renewAvailable = true

section Handler

variable {g : ScriptGuards} {s t : ScriptState}

theorem attended_of_ne {st : ProtoShellState} (h : st.sm ≠ .setup) : Attended st :=
  fun hsm => absurd hsm h

theorem after_teardown_sm (s : ScriptState) : (s.after .teardown).shell.sm ≠ .setup := by
  unfold ScriptState.after protoShellCommand
  cases hsm : s.shell.sm with
  | setup =>
    dsimp only
    split_ifs
    · simp
    · simp
  | idle => simp
  | setupAbort | teardown => simp [hsm]

theorem after_teardown_watched
    (hrenew : s.shell.renewPending = true → s.shell.handler.renewAvailable = true) :
    Watched (s.after .teardown) := by
  refine ⟨attended_of_ne (after_teardown_sm s), ?_⟩
  rcases after_teardown s with hsame | hcleared
  · rwa [hsame]
  · rw [hcleared]
    simp

section Stranding

variable (hg : g.stranding = true)

include hg

theorem startScript_watched (action : InterfaceProtoCmd)
    (hrenew : s.shell.renewPending = true → s.shell.handler.renewAvailable = true) :
    wp (keeping Watched) (startScript g action) (fun _ t => Watched t) s := by
  simp only [startScript, wp_bind, wp_ask, wp_read]
  rintro (_ | n)
  · exact ⟨fun _ => .inl rfl, hrenew⟩
  · simp only [wp_bind, wp_require, hg, Bool.not_true, Bool.false_or, bne_iff_ne]
    exact fun hsm => ⟨attended_of_ne hsm, hrenew⟩

theorem teardown_watched
    (hrenew : s.shell.renewPending = true → s.shell.handler.renewAvailable = true) :
    wp (keeping Watched) (protoShellHandler g .teardown) (fun _ t => Watched t) s := by
  have hafter := after_teardown_watched hrenew
  rw [wp_protoShellHandler]
  intro _
  cases (protoShellCommand s.shell .teardown).2 with
  | some result => exact hafter
  | none => exact startScript_watched hg .teardown hafter.renewable

theorem renew_watched (hscript : s.shell.scriptTask = false)
    (havailable : s.shell.handler.renewAvailable = true) :
    wp (keeping Watched) (protoShellHandler g .renew) (fun _ t => Watched t) s := by
  have hcommand : protoShellCommand s.shell .renew =
      ({ s.shell with renewPending := false }, none) := by
    simp [protoShellCommand, havailable, hscript]
  rw [wp_protoShellHandler, hcommand]
  refine fun _ => startScript_watched hg .renew ?_
  rw [ScriptState.after, hcommand]
  simp

theorem protoShellHandler_watched (cmd : InterfaceProtoCmd) :
    Preserves (keeping Watched) Watched (protoShellHandler g cmd) := by
  intro s hs
  cases cmd with
  | teardown => exact teardown_watched hg hs.renewable
  | setup =>
    rw [wp_protoShellHandler]
    intro _
    unfold ScriptState.after protoShellCommand
    cases hsm : s.shell.sm with
    | idle => exact startScript_watched hg .setup hs.renewable
    | setup | setupAbort | teardown => exact hs
  | renew =>
    cases havailable : s.shell.handler.renewAvailable with
    | false =>
      rw [wp_protoShellHandler]
      simp only [protoShellCommand, havailable, ScriptState.after]
      exact fun _ => hs
    | true =>
      cases hscript : s.shell.scriptTask with
      | false => exact renew_watched hg hscript havailable
      | true =>
        have hcommand : protoShellCommand s.shell .renew =
            ({ s.shell with renewPending := true }, some 0) := by
          simp [protoShellCommand, havailable, hscript]
        rw [wp_protoShellHandler, ScriptState.after, hcommand]
        exact fun _ => ⟨hs.attended, fun _ => havailable⟩

theorem finishScript_watched (hscript : s.shell.scriptTask = false)
    (hrenew : s.shell.renewPending = true → s.shell.handler.renewAvailable = true) :
    wp (keeping Watched) (finishScript g) (fun _ t => Watched t) s := by
  simp only [finishScript, wp_bind, wp_read, wp_ite, wp_pure]
  refine ⟨fun hpending => ?_, fun _ => ⟨fun _ => ?_, fun hgoes => ⟨fun hsm => ?_, hrenew⟩⟩⟩
  · exact renew_watched hg hscript (hrenew hpending)
  · exact teardown_watched hg hrenew
  · simp only [hsm, Bool.and_eq_true, Bool.not_eq_true', beq_self_eq_true, and_true, not_and,
      Bool.not_eq_false] at hgoes
    cases hnoTask : s.shell.handler.noTask with
    | true => exact .inr (.inr rfl)
    | false => exact .inr (.inl (hgoes hnoTask))

theorem finishRunning_watched (task : Option ShellTask)
    (hrenew : s.shell.renewPending = true → s.shell.handler.renewAvailable = true)
    (htask : task = some .script ∧ s.shell.scriptTask = false ∨ task = some .proto ∨
      task = none ∧ Attended s.shell) :
    wp (keeping Watched) (finishRunning g task) (fun _ t => Watched t) s := by
  obtain ⟨rfl, hscript⟩ | rfl | ⟨rfl, hattended⟩ := htask
  · simp only [finishRunning, wp_bind]
    refine wp_mono _ (fun _ t ht => ?_) (finishScript_watched hg hscript hrenew)
    rw [updateShell, wp_modify]
    split_ifs
    · exact ⟨ht.attended, ht.renewable⟩
    · exact ht
  · simp only [finishRunning, wp_bind]
    exact teardown_watched hg hrenew
  · exact ⟨hattended, hrenew⟩

theorem protoShellTaskFinish_watched (task : Option ShellTask)
    (hrenew : s.shell.renewPending = true → s.shell.handler.renewAvailable = true)
    (htask : task = some .script ∧ s.shell.scriptTask = false ∨ task = some .proto ∨
      task = none ∧ Attended s.shell) :
    wp (keeping Watched) (protoShellTaskFinish g task) (fun _ t => Watched t) s := by
  rw [protoShellTaskFinish, wp_bind, wp_read]
  cases hsm : s.shell.sm with
  | idle =>
    have hwatched : Watched s := ⟨attended_of_ne (by simp [hsm]), hrenew⟩
    simp only [wp_bind, wp_whenever]
    refine ⟨fun hproto => ?_, fun _ => finishRunning_watched hg task hrenew htask⟩
    exact interfaceCallbacks_keeps.ends hwatched fun _ t ht =>
      finishRunning_watched hg task ht.renewable (.inr (.inl hproto))
  | setup => exact finishRunning_watched hg task hrenew htask
  | setupAbort =>
    simp only [wp_ite, wp_pure, settle, wp_bind, wp_modify]
    refine ⟨fun _ => ⟨attended_of_ne (by simp [hsm]), hrenew⟩, fun _ => ?_⟩
    exact teardown_watched hg hrenew
  | teardown =>
    simp only [wp_ite, wp_pure, settle, wp_bind, wp_modify]
    refine ⟨fun _ => ⟨attended_of_ne (by simp [hsm]), hrenew⟩, fun _ => ?_⟩
    exact interfaceCallbacks_keeps _ ⟨attended_of_ne (by simp [ProtoShellState.settle]), hrenew⟩

/-- Every call leaves a setup that is waited for, unless a start fails in it or the timeout of a
teardown runs out in it. -/
theorem scriptSteps_watched : ScriptSteps g Watched where
  quiet h hs := by
    simp only [ScriptState.control, Prod.mk.injEq] at h
    obtain ⟨hhandler, hsm, hscript, hproto, hpending, -, -⟩ := h
    constructor
    · rw [Attended, hsm, hscript, hproto, hhandler]
      exact hs.attended
    · rw [hpending, hhandler]
      exact hs.renewable
  handler := protoShellHandler_watched hg
  report s hs := ⟨attended_of_ne (by simp), hs.renewable⟩
  runCommand := by
    refine Preserves.read_bind fun s hs => ?_
    simp only [wp_ite, wp_pure, wp_bind, wp_ask, wp_require, hg, Bool.not_true, Bool.false_or,
      Bool.or_eq_true, beq_iff_eq, bne_iff_ne, updateShell, wp_modify]
    refine ⟨fun _ => hs, fun _ n hstart => ⟨fun hsm => ?_, hs.renewable⟩⟩
    have hn : n = 0 := hstart.resolve_right fun hne => hne hsm
    exact .inr (.inl (by simp [hn]))
  scriptExit s hs := by
    rw [protoShellScriptCb, wp_bind, updateShell, wp_modify]
    exact protoShellTaskFinish_watched hg (some .script) hs.renewable (.inl ⟨rfl, rfl⟩)
  taskExit status s hs := by
    rw [protoShellTaskCb, wp_bind, updateShell, wp_modify]
    refine protoShellTaskFinish_watched hg (some .proto) ?_ (.inr (.inl rfl))
    split_ifs
    · exact hs.renewable
    · exact hs.renewable
  teardownTimeout := by
    refine Preserves.read_bind fun s hs => ?_
    simp only [wp_bind, wp_require, hg, Bool.not_true, Bool.false_or, bne_iff_ne, updateShell,
      wp_modify]
    intro hsm
    exact protoShellTaskFinish_watched hg none hs.renewable (.inr (.inr ⟨rfl, attended_of_ne hsm⟩))

end Stranding
end Handler

/-- A failed setup never leaves the handler ready. In runs in which no start fails in a setup and
no timeout of a teardown runs out in one, every setup is waited for. -/
theorem setup_waited_for_of_run (handler : ProtoHandler) (checkupInterval : ℤ) :
    (∀ f : FailedSetup, ¬Recovered f.after) ∧
      ∀ t, Reachable (scriptBody { stranding := true }) scriptCallable
        (attached handler checkupInterval) t → Attended t.shell := by
  refine ⟨fun f => f.busy.not_recovered, ?_⟩
  intro t h
  have hstart : Watched (attached handler checkupInterval) :=
    ⟨attended_of_ne (by simp [attached]), by simp [attached]⟩
  exact ((scriptSteps_watched rfl).reachable h hstart).attended

/-- A setup script ends while the command of the protocol runs. -/
theorem setup_waited_for_of_run_command : ∃ t,
    Reachable (scriptBody { stranding := true }) scriptCallable (attached renewable (-1)) t ∧
      t.shell.sm = .setup ∧ Attended t.shell := by
  obtain ⟨t, ht, hsm⟩ := exists_reachable (scriptBody { stranding := true }) scriptCallable
    (attached renewable (-1)) (fun t => t.shell.sm = .setup) 100
    [(.command .setup, [.pick 0]), (.runCommand, [.pick 0]), (.scriptExit, [])] (by decide)
  exact ⟨t, ht, hsm, (setup_waited_for_of_run _ _).2 t ht⟩

/-- An interface of a shell protocol that is down. -/
def dhcpDown : LiveInterface :=
  { inTable := true, conf := dhcpInterface, state := .down
    proto := some (protoAttach dhcpInterface.protoHandler dhcpInterface.config false) }

theorem exists_failedSetup : Nonempty FailedSetup := by
  cases hrun : run (interfaceBody {}) 100 (interfaceSetUp' {}) dhcpDown [.pick 1] with
  | none => exact absurd (congrArg Option.isSome hrun) (by decide)
  | some result =>
    obtain ⟨ret, after, rest⟩ := result
    have hret : ret = -1 := by
      have hfirst := congrArg (Option.map Prod.fst) hrun
      exact (Option.some.inj hfirst).symm
    exact ⟨{ before := dhcpDown, proto := _, attached := rfl, shell := rfl, delayed := rfl
             idle := rfl, ret, after, run := run_sound _ _ _ _ _ hrun
             failed := by rw [hret]; decide }⟩

/-- The setup script cannot be started when the link comes up: the handler stays in the setup, and
no task will end it. -/
theorem failed_setup_strands : (¬∀ f : FailedSetup, Recovered f.after) ∧
    ¬∀ t, Reachable (interfaceBody {}) interfaceCallable noInterface t →
      ∀ st, t.shell = some st → Attended st := by
  constructor
  · intro h
    obtain ⟨f⟩ := exists_failedSetup
    exact f.busy.not_recovered (h f)
  · intro h
    obtain ⟨t, ht, halone⟩ := exists_reachable (interfaceBody {}) interfaceCallable noInterface
      (fun t => t.shell.map (fun st => (st.sm, st.scriptTask, st.protoTask, st.handler.noTask)) =
        some (.setup, false, false, false)) 200
      [(.reload dhcpInterface, [.pick 0, .pick 1, .enter (.mainDevEvent .add),
        .enter (.mainDevEvent .up), .enter (.mainDevEvent .linkUp), .pick 1, .resume, .pick 0,
        .resume])] (by decide)
    obtain ⟨st, hst, htasks⟩ := Option.map_eq_some_iff.mp halone
    simp only [Prod.mk.injEq] at htasks
    obtain ⟨hsm, hscript, hproto, hnoTask⟩ := htasks
    have hattended := h t ht st hst hsm
    rw [hscript, hproto, hnoTask] at hattended
    simp at hattended

end Netifd.ShellScripts
