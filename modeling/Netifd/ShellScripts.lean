import Netifd.ShellProtocol

/-!
# The scripts of a shell protocol

`proto-shell.c` with a log of the starts of the script. The interface is not modelled here: it
may give any command at any time, and whenever the handler calls into it it may give some before
that call returns. A topology change of the main device is the command to renew.
-/

namespace Netifd.ShellScripts
open ReentrantProgram ReentrantProgram.Prog

/-- A start of the script, and what the handler was in at that moment. -/
structure ScriptStart where
  action : InterfaceProtoCmd
  sm : ProtoShellSm
  renewPending : Bool
  deriving DecidableEq

/-- The handler, with two histories: whether it has reported its link since it was last at rest,
and the starts of its script, latest first. -/
structure ScriptState where
  shell : ProtoShellState
  up : Bool := false
  starts : List ScriptStart := []

/-- What may call into the handler. -/
inductive ScriptCall
  | command (cmd : InterfaceProtoCmd)
  | scriptExit
  | taskExit (status : ℤ)
  | teardownTimeout
  | checkupTimeout
  | linkUp
  | linkDown
  | runCommand
  | killCommand (signal : ℕ)
  | setAvailable
  | addHostDependency
  | setupFailed
  | dependencyUp (i : ℕ)
  | dependencyDown (i : ℕ)

/-- Which runs are considered: all of them, or those that keep off one kind of defect. -/
structure ScriptGuards where
  misplaced : Bool := false
  stranding : Bool := false

abbrev ScriptProg := Prog ScriptState ScriptCall

def isCommand : ScriptCall → Bool
  | .command _ => true
  | _ => false

/-- The handler calls into the interface. -/
def interfaceCallbacks : ScriptProg Unit := callbacks isCommand

def updateShell (f : ProtoShellState → ProtoShellState) : ScriptProg Unit :=
  modify fun s => { s with shell := f s.shell }

/-- The command is in its place: a setup for a handler that is not up, and, if the protocol has a
renewal, a renewal for a handler that is being set up or is up, or else one that does not come to
wait for a script which is not of its own setup. -/
def ScriptState.expects (s : ScriptState) : InterfaceProtoCmd → Bool
  | .setup => !(s.shell.sm == .idle && s.up)
  | .teardown => true
  | .renew => !s.shell.handler.renewAvailable ||
    match s.shell.sm with
    | .setup => true
    | .idle => s.up || !s.shell.scriptTask
    | .setupAbort => s.shell.scriptTask
    | .teardown => false

section Handler

variable (g : ScriptGuards)

/-- The end of `proto_shell_handler`. Without the text of the configuration nothing is started;
else the last script is killed, and the new one runs unless the start fails. -/
def startScript (action : InterfaceProtoCmd) : ScriptProg ℤ := do
  let n ← ask
  let s ← read
  match n with
  | 0 => do
    modify fun s =>
      { s with
        shell := { s.shell with scriptTask := true }
        starts := { action, sm := s.shell.sm, renewPending := s.shell.renewPending } :: s.starts }
    pure 0
  | n + 1 => do
    require (!g.stranding || s.shell.sm != .setup)
    updateShell fun st => { st with scriptTask := st.scriptTask && n != 0 }
    pure (-1)

def protoShellHandler (cmd : InterfaceProtoCmd) : ScriptProg ℤ := do
  let s ← read
  require (!g.misplaced || s.expects cmd)
  updateShell fun st => (protoShellCommand st cmd).1
  match (protoShellCommand s.shell cmd).2 with
  | some result => pure result
  | none => startScript g cmd

/-- The script has ended: the renewal that waits for it is made, or a setup that has left nothing
running is given up. -/
def finishScript : ScriptProg Unit := do
  let s ← read
  if s.shell.renewPending then
    let _ ← protoShellHandler g .renew
    pure ()
  else if !s.shell.handler.noTask && !s.shell.protoTask && s.shell.sm == .setup then
    let _ ← protoShellHandler g .teardown
    pure ()
  else pure ()

/-- `proto_shell_task_finish` while the protocol is being set up or is up. -/
def finishRunning : Option ShellTask → ScriptProg Unit
  | none => pure ()
  | some .proto => do
    let _ ← protoShellHandler g .teardown
    pure ()
  | some .script => do
    finishScript g
    updateShell fun st =>
      if st.sm = .setup ∧ 0 < st.checkupInterval then { st with checkupTimeout := true } else st

/-- All tasks are done. -/
def settle : ScriptProg Unit :=
  modify fun s => { s with shell := s.shell.settle, up := false }

/-- `proto_shell_task_finish`; no task is named when the tasks were killed. -/
def protoShellTaskFinish (task : Option ShellTask) : ScriptProg Unit := do
  let s ← read
  match s.shell.sm with
  | .idle => do
    whenever (task = some .proto) interfaceCallbacks
    finishRunning g task
  | .setup => finishRunning g task
  | .setupAbort =>
    if s.shell.scriptTask || s.shell.protoTask then pure ()
    else
      settle
      let _ ← protoShellHandler g .teardown
      pure ()
  | .teardown =>
    if s.shell.scriptTask || s.shell.protoTask then pure ()
    else
      settle
      interfaceCallbacks

def protoShellScriptCb : ScriptProg Unit := do
  updateShell fun st => { st with scriptTask := false }
  protoShellTaskFinish g (some .script)

def protoShellTaskCb (status : ℤ) : ScriptProg Unit := do
  updateShell fun st =>
    if st.sm = .idle ∨ st.sm = .setup then { st with protoTask := false, lastError := status }
    else { st with protoTask := false }
  protoShellTaskFinish g (some .proto)

def protoShellTeardownTimeoutCb : ScriptProg Unit := do
  let s ← read
  require (!g.stranding || s.shell.sm != .setup)
  updateShell fun st =>
    { st with teardownTimeout := false, scriptTask := false, protoTask := false }
  protoShellTaskFinish g none

/-- `proto_shell_checkup_timeout_cb`; whether the interface is to be up, and is not. -/
def protoShellCheckupTimeoutCb : ScriptProg Unit := do
  updateShell fun st => { st with checkupTimeout := false }
  let n ← ask
  if n = 0 then pure ()
  else
    let _ ← protoShellHandler g .teardown
    pure ()

/-- The end of `proto_shell_update_link`. -/
def reportLink : ScriptProg ℤ := do
  let s ← read
  if s.shell.closing then pure 0
  else
    interfaceCallbacks
    modify fun s => { s with shell := { s.shell with sm := .idle }, up := true }
    pure 0

/-- `proto_shell_update_link` with `link-up`: there may be no device, or no claim on it. -/
def protoShellLinkUp : ScriptProg ℤ := do
  let s ← read
  if s.shell.closing then pure ubusStatusPermissionDenied
  else
    let n ← ask
    if n = 1 then pure ubusStatusInvalidArgument
    else
      interfaceCallbacks
      if n = 2 then pure ubusStatusUnknownError else reportLink

/-- `proto_shell_update_link` without `link-up`. -/
def protoShellLinkDown : ScriptProg ℤ := do
  let s ← read
  if s.shell.closing then pure ubusStatusPermissionDenied
  else
    interfaceCallbacks
    pure 0

/-- `proto_shell_run_command`: the last command is killed, and the new one may fail to start. -/
def protoShellRunCommand : ScriptProg ℤ := do
  let s ← read
  if s.shell.closing then pure ubusStatusPermissionDenied
  else
    let n ← ask
    require (!g.stranding || n == 0 || s.shell.sm != .setup)
    updateShell fun st => { st with protoTask := n == 0 }
    pure 0

def protoShellKillCommand (signal : ℕ) : ScriptProg ℤ := do
  let signal := if 31 < signal then 15 else signal
  updateShell fun st =>
    if st.protoTask ∧ (signal = 15 ∨ signal = 9) then { st with protoTaskKilled := true } else st
  pure 0

/-- `proto_shell_update_host_dep`, which ends in `interface_set_available`. -/
def protoShellUpdateHostDep (i : ℕ) : ScriptProg ℤ := do
  let n ← ask
  updateShell fun st => if n = 0 then st else { st with deps := st.deps.set i true }
  interfaceCallbacks
  pure 0

def protoShellAddHostDependency : ScriptProg ℤ := do
  let s ← read
  if s.shell.closing then pure ubusStatusPermissionDenied
  else
    updateShell fun st => { st with deps := false :: st.deps }
    let _ ← protoShellUpdateHostDep 0
    let s ← read
    if s.shell.deps.head? = some true then pure 0 else pure ubusStatusNotFound

def protoShellSetupFailed : ScriptProg ℤ := do
  let s ← read
  if s.shell.closing then pure ubusStatusPermissionDenied
  else
    whenever (s.shell.sm = .idle) interfaceCallbacks
    let _ ← protoShellHandler g .teardown
    pure 0

def protoShellIfDownCb (i : ℕ) : ScriptProg ℤ := do
  updateShell fun st => { st with deps := st.deps.set i false }
  let s ← read
  if s.shell.sm = .idle then
    interfaceCallbacks
    let _ ← protoShellHandler g .teardown
    pure 0
  else pure 0

/-- What every call runs. -/
def scriptBody : ScriptCall → ScriptProg ℤ
  | .command cmd => protoShellHandler g cmd
  | .scriptExit => do
    protoShellScriptCb g
    pure 0
  | .taskExit status => do
    protoShellTaskCb g status
    pure 0
  | .teardownTimeout => do
    protoShellTeardownTimeoutCb g
    pure 0
  | .checkupTimeout => do
    protoShellCheckupTimeoutCb g
    pure 0
  | .linkUp => protoShellLinkUp
  | .linkDown => protoShellLinkDown
  | .runCommand => protoShellRunCommand g
  | .killCommand signal => protoShellKillCommand signal
  | .setAvailable => do
    interfaceCallbacks
    pure 0
  | .addHostDependency => protoShellAddHostDependency
  | .setupFailed => protoShellSetupFailed g
  | .dependencyUp i => protoShellUpdateHostDep i
  | .dependencyDown i => protoShellIfDownCb g i

end Handler

/-- A task or a timeout ends only if it is there. -/
def scriptCallable (call : ScriptCall) (s : ScriptState) : Bool :=
  match call with
  | .scriptExit => s.shell.scriptTask
  | .taskExit _ => s.shell.protoTask
  | .teardownTimeout => s.shell.teardownTimeout
  | .checkupTimeout => s.shell.checkupTimeout
  | _ => true

/-- `proto_shell_attach`. -/
def attached (handler : ProtoHandler) (checkupInterval : ℤ) : ScriptState where
  shell := { handler, checkupInterval }

variable {g : ScriptGuards} {I : ScriptState → Prop} {s t : ScriptState}

/-- Every call keeps `I`. -/
def keeping (I : ScriptState → Prop) : Spec ScriptState ScriptCall := fun _ s _ t => I s → I t

theorem interfaceCallbacks_keeps : Preserves (keeping I) I interfaceCallbacks :=
  Preserves.callbacks fun _ _ _ _ _ hspec hs => hspec hs

/-- What commands, exits and timeouts read and write of the handler. -/
def ScriptState.control (s : ScriptState) :=
  (s.shell.handler, s.shell.sm, s.shell.scriptTask, s.shell.protoTask, s.shell.renewPending,
    s.up, s.starts)

/-- The steps in which an invariant has to be shown; all else is put together from them. -/
structure ScriptSteps (g : ScriptGuards) (I : ScriptState → Prop) : Prop where
  quiet : ∀ {s t : ScriptState}, t.control = s.control → I s → I t
  handler : ∀ cmd, Preserves (keeping I) I (protoShellHandler g cmd)
  report : ∀ s, I s → I { s with shell := { s.shell with sm := .idle }, up := true }
  runCommand : Preserves (keeping I) I (protoShellRunCommand g)
  scriptExit : Preserves (keeping I) I (protoShellScriptCb g)
  taskExit : ∀ status, Preserves (keeping I) I (protoShellTaskCb g status)
  teardownTimeout : Preserves (keeping I) I (protoShellTeardownTimeoutCb g)

theorem protoShellLinkDown_keeps : Preserves (keeping I) I protoShellLinkDown := by
  refine Preserves.after_read fun s => Preserves.ite (fun _ => Preserves.pure _) fun _ => ?_
  exact Preserves.bind interfaceCallbacks_keeps fun _ => Preserves.pure _

namespace ScriptSteps

variable (h : ScriptSteps g I)

include h

theorem update {f : ProtoShellState → ProtoShellState}
    (hf : ∀ s : ScriptState, ScriptState.control { s with shell := f s.shell } = s.control) :
    Preserves (keeping I) I (updateShell f) :=
  Preserves.modify fun s hs => h.quiet (hf s) hs

theorem teardown {α : Type} (a : α) : Preserves (keeping I) I (do
    let _ ← protoShellHandler g .teardown
    pure a) := Preserves.bind (h.handler .teardown) fun _ => Preserves.pure _

theorem checkupTimeout : Preserves (keeping I) I (protoShellCheckupTimeoutCb g) := by
  refine Preserves.bind (h.update fun _ => rfl) fun _ => Preserves.bind Preserves.ask fun n => ?_
  exact Preserves.ite (fun _ => Preserves.pure _) fun _ => h.teardown ()

theorem linkUp : Preserves (keeping I) I protoShellLinkUp := by
  have hreport : Preserves (keeping I) I reportLink := by
    refine Preserves.after_read fun s => Preserves.ite (fun _ => Preserves.pure _) fun _ => ?_
    refine Preserves.bind interfaceCallbacks_keeps fun _ => ?_
    exact Preserves.bind (Preserves.modify h.report) fun _ => Preserves.pure _
  refine Preserves.after_read fun s => Preserves.ite (fun _ => Preserves.pure _) fun _ => ?_
  refine Preserves.bind Preserves.ask fun n => ?_
  refine Preserves.ite (fun _ => Preserves.pure _) fun _ => ?_
  refine Preserves.bind interfaceCallbacks_keeps fun _ => ?_
  exact Preserves.ite (fun _ => Preserves.pure _) fun _ => hreport

theorem killCommand (signal : ℕ) : Preserves (keeping I) I (protoShellKillCommand signal) := by
  refine Preserves.bind (h.update fun s => ?_) fun _ => Preserves.pure _
  split_ifs
  all_goals rfl

theorem updateHostDep (i : ℕ) : Preserves (keeping I) I (protoShellUpdateHostDep i) := by
  refine Preserves.bind Preserves.ask fun n => ?_
  refine Preserves.bind (h.update fun s => ?_) fun _ => ?_
  · split_ifs
    all_goals rfl
  · exact Preserves.bind interfaceCallbacks_keeps fun _ => Preserves.pure _

theorem addHostDependency : Preserves (keeping I) I protoShellAddHostDependency := by
  refine Preserves.after_read fun s => Preserves.ite (fun _ => Preserves.pure _) fun _ => ?_
  refine Preserves.bind (h.update fun _ => rfl) fun _ => ?_
  refine Preserves.bind (h.updateHostDep 0) fun _ => Preserves.after_read fun t => ?_
  exact Preserves.ite (fun _ => Preserves.pure _) fun _ => Preserves.pure _

theorem setupFailed : Preserves (keeping I) I (protoShellSetupFailed g) := by
  refine Preserves.after_read fun s => Preserves.ite (fun _ => Preserves.pure _) fun _ => ?_
  refine Preserves.bind ?_ fun _ => h.teardown _
  exact Preserves.whenever fun _ => interfaceCallbacks_keeps

theorem ifDown (i : ℕ) : Preserves (keeping I) I (protoShellIfDownCb g i) := by
  refine Preserves.bind (h.update fun _ => rfl) fun _ => Preserves.after_read fun s => ?_
  refine Preserves.ite (fun _ => ?_) fun _ => Preserves.pure _
  exact Preserves.bind interfaceCallbacks_keeps fun _ => h.teardown _

theorem verified : Verified (scriptBody g) (keeping I) := by
  have hthen : ∀ {x : ScriptProg Unit}, Preserves (keeping I) I x →
      Preserves (keeping I) I (do x; pure (0 : ℤ)) := fun hx =>
    Preserves.bind hx fun _ => Preserves.pure _
  intro call s
  refine wp_imp _ fun hs => ?_
  cases call with
  | command cmd => exact h.handler cmd s hs
  | scriptExit => exact hthen h.scriptExit s hs
  | taskExit status => exact hthen (h.taskExit status) s hs
  | teardownTimeout => exact hthen h.teardownTimeout s hs
  | checkupTimeout => exact hthen h.checkupTimeout s hs
  | linkUp => exact h.linkUp s hs
  | linkDown => exact protoShellLinkDown_keeps s hs
  | runCommand => exact h.runCommand s hs
  | killCommand signal => exact h.killCommand signal s hs
  | setAvailable => exact hthen interfaceCallbacks_keeps s hs
  | addHostDependency => exact h.addHostDependency s hs
  | setupFailed => exact h.setupFailed s hs
  | dependencyUp i => exact h.updateHostDep i s hs
  | dependencyDown i => exact h.ifDown i s hs

theorem reachable (hrun : Reachable (scriptBody g) scriptCallable s t) (hs : I s) : I t :=
  Reachable.invariant h.verified (fun _ _ _ _ _ hspec hs => hspec hs) hrun hs

end ScriptSteps

/-- A renewal is not started on the way down, and no renewal waits when a setup is started. -/
def ScriptStart.Proper (e : ScriptStart) : Prop :=
  (e.action = .renew → e.sm ≠ .teardown ∧ e.sm ≠ .setupAbort) ∧
    (e.action = .setup → e.renewPending = false)

/-- A renewal waits only while the handler is being set up or is up, or has stopped a setup, and
all starts were proper. -/
structure Orderly (s : ScriptState) : Prop where
  waits : s.shell.renewPending = true →
    s.shell.sm = .setup ∨ s.shell.sm = .setupAbort ∨ s.shell.sm = .idle ∧ s.up = true
  starts : ∀ e ∈ s.starts, e.Proper

/-- What is asked of the handler to be orderly. -/
def ScriptState.renewal (s : ScriptState) :=
  (s.shell.sm, s.shell.renewPending, s.up, s.starts)

theorem Orderly.congr (hs : Orderly s) (h : t.renewal = s.renewal) : Orderly t := by
  simp only [ScriptState.renewal, Prod.mk.injEq] at h
  obtain ⟨hsm, hpending, hup, hstarts⟩ := h
  constructor
  · rw [hpending, hsm, hup]
    exact hs.waits
  · rw [hstarts]
    exact hs.starts

theorem updateShell_orderly {f : ProtoShellState → ProtoShellState}
    (hf : ∀ s : ScriptState, ScriptState.renewal { s with shell := f s.shell } = s.renewal) :
    Preserves (keeping Orderly) Orderly (updateShell f) :=
  Preserves.modify fun s hs => hs.congr (hf s)

theorem startScript_orderly {action : InterfaceProtoCmd} (hs : Orderly s)
    (hproper : ScriptStart.Proper
      { action, sm := s.shell.sm, renewPending := s.shell.renewPending }) :
    wp (keeping Orderly) (startScript g action) (fun _ t => Orderly t) s := by
  simp only [startScript, wp_bind, wp_ask, wp_read]
  rintro (_ | n)
  · refine ⟨hs.waits, ?_⟩
    intro e he
    rcases List.mem_cons.mp he with rfl | he
    · exact hproper
    · exact hs.starts e he
  · simp only [wp_bind, wp_require]
    exact fun _ => ⟨hs.waits, hs.starts⟩

/-- The state that a command leads to. -/
def ScriptState.after (s : ScriptState) (cmd : InterfaceProtoCmd) : ScriptState :=
  { s with shell := (protoShellCommand s.shell cmd).1 }

theorem setup_orderly (hs : Orderly s) (hplace : s.expects .setup = true) :
    Orderly (s.after .setup) ∧ ((protoShellCommand s.shell .setup).2 = none →
      (s.after .setup).shell.renewPending = false) := by
  unfold ScriptState.after protoShellCommand
  cases hsm : s.shell.sm with
  | idle =>
    have hdown : s.up = false := by simpa [ScriptState.expects, hsm] using hplace
    refine ⟨⟨fun _ => .inl rfl, hs.starts⟩, fun _ => ?_⟩
    have hwaits := hs.waits
    rw [hsm, hdown] at hwaits
    simpa using hwaits
  | setup => exact ⟨⟨hs.waits, hs.starts⟩, nofun⟩
  | setupAbort => exact ⟨⟨hs.waits, hs.starts⟩, nofun⟩
  | teardown => exact ⟨⟨hs.waits, hs.starts⟩, nofun⟩

theorem renew_orderly (hs : Orderly s) (hplace : s.expects .renew = true) :
    Orderly (s.after .renew) ∧ ((protoShellCommand s.shell .renew).2 = none →
      (s.after .renew).shell.sm ≠ .teardown ∧ (s.after .renew).shell.sm ≠ .setupAbort) := by
  unfold ScriptState.after protoShellCommand
  unfold ScriptState.expects at hplace
  cases havailable : s.shell.handler.renewAvailable with
  | false => exact ⟨⟨hs.waits, hs.starts⟩, nofun⟩
  | true =>
    rw [havailable] at hplace
    cases hscript : s.shell.scriptTask with
    | true =>
      refine ⟨⟨fun _ => ?_, hs.starts⟩, nofun⟩
      cases hsm : s.shell.sm with
      | setup => exact .inl rfl
      | setupAbort => exact .inr (.inl rfl)
      | idle =>
        rw [hsm, hscript] at hplace
        exact .inr (.inr ⟨rfl, by simpa using hplace⟩)
      | teardown =>
        rw [hsm] at hplace
        cases hplace
    | false =>
      refine ⟨⟨nofun, hs.starts⟩, fun _ => ?_⟩
      change s.shell.sm ≠ .teardown ∧ s.shell.sm ≠ .setupAbort
      rw [hscript] at hplace
      constructor
      · intro hsm
        rw [hsm] at hplace
        cases hplace
      · intro hsm
        rw [hsm] at hplace
        cases hplace

theorem after_teardown (s : ScriptState) :
    s.after .teardown = s ∨ (s.after .teardown).shell.renewPending = false := by
  unfold ScriptState.after protoShellCommand
  cases s.shell.sm with
  | idle => exact .inr rfl
  | teardown => exact .inl rfl
  | setupAbort => exact .inl rfl
  | setup =>
    dsimp only
    split_ifs
    · exact .inr rfl
    · exact .inr rfl

theorem teardown_orderly (hs : Orderly s) : Orderly (s.after .teardown) := by
  rcases after_teardown s with hsame | hcleared
  · rwa [hsame]
  · refine ⟨fun hpending => ?_, hs.starts⟩
    rw [hcleared] at hpending
    cases hpending

theorem command_orderly {cmd : InterfaceProtoCmd} (hs : Orderly s) (hplace : s.expects cmd = true) :
    Orderly (s.after cmd) ∧ ((protoShellCommand s.shell cmd).2 = none →
      ScriptStart.Proper { action := cmd, sm := (s.after cmd).shell.sm
                           renewPending := (s.after cmd).shell.renewPending }) := by
  cases cmd with
  | setup =>
    obtain ⟨hafter, hclear⟩ := setup_orderly hs hplace
    exact ⟨hafter, fun hstart => ⟨nofun, fun _ => hclear hstart⟩⟩
  | renew =>
    obtain ⟨hafter, hopen⟩ := renew_orderly hs hplace
    exact ⟨hafter, fun hstart => ⟨fun _ => hopen hstart, nofun⟩⟩
  | teardown => exact ⟨teardown_orderly hs, fun _ => ⟨nofun, nofun⟩⟩

theorem wp_protoShellHandler (spec : Spec ScriptState ScriptCall) (cmd : InterfaceProtoCmd)
    (Q : ℤ → ScriptState → Prop) (s : ScriptState) :
    wp spec (protoShellHandler g cmd) Q s = ((!g.misplaced || s.expects cmd) = true →
      match (protoShellCommand s.shell cmd).2 with
      | some result => Q result (s.after cmd)
      | none => wp spec (startScript g cmd) Q (s.after cmd)) := by
  simp only [protoShellHandler, wp_bind, wp_read, wp_require, updateShell, wp_modify]
  cases (protoShellCommand s.shell cmd).2 <;> rfl

theorem teardown_of_idle (hsm : s.shell.sm = .idle) (hstarts : ∀ e ∈ s.starts, e.Proper) :
    wp (keeping Orderly) (protoShellHandler g .teardown) (fun _ t => Orderly t) s := by
  rw [wp_protoShellHandler]
  intro _
  have hcommand : protoShellCommand s.shell .teardown =
      ({ s.shell with renewPending := false, sm := .teardown, teardownTimeout := true }, none) := by
    simp only [protoShellCommand, hsm]
  have hafter : Orderly (s.after .teardown) := by
    refine ⟨fun hpending => ?_, hstarts⟩
    rw [ScriptState.after, hcommand] at hpending
    cases hpending
  rw [hcommand]
  exact startScript_orderly hafter ⟨nofun, nofun⟩

section Placed

variable (hg : g.misplaced = true)

include hg

theorem protoShellHandler_orderly (cmd : InterfaceProtoCmd) :
    Preserves (keeping Orderly) Orderly (protoShellHandler g cmd) := by
  intro s hs
  rw [wp_protoShellHandler]
  intro hplace
  have hexpected : s.expects cmd = true := by simpa [hg] using hplace
  obtain ⟨hafter, hproper⟩ := command_orderly hs hexpected
  cases hstart : (protoShellCommand s.shell cmd).2 with
  | some result => exact hafter
  | none => exact startScript_orderly hafter (hproper hstart)

theorem finishRunning_orderly (task : Option ShellTask) :
    Preserves (keeping Orderly) Orderly (finishRunning g task) := by
  have hhandler := protoShellHandler_orderly hg
  have hscript : Preserves (keeping Orderly) Orderly (finishScript g) := by
    refine Preserves.after_read fun s => ?_
    split_ifs
    · exact Preserves.bind (hhandler .renew) fun _ => Preserves.pure _
    · exact Preserves.bind (hhandler .teardown) fun _ => Preserves.pure _
    · exact Preserves.pure _
  match task with
  | none => exact Preserves.pure _
  | some .proto => exact Preserves.bind (hhandler .teardown) fun _ => Preserves.pure _
  | some .script =>
    refine Preserves.bind hscript fun _ => updateShell_orderly fun s => ?_
    split_ifs
    all_goals rfl

theorem protoShellTaskFinish_orderly (task : Option ShellTask) :
    Preserves (keeping Orderly) Orderly (protoShellTaskFinish g task) := by
  refine Preserves.read_bind fun s hs => ?_
  cases hsm : s.shell.sm with
  | idle =>
    exact Preserves.bind (Preserves.whenever fun _ => interfaceCallbacks_keeps)
      (fun _ => finishRunning_orderly hg task) s hs
  | setup => exact finishRunning_orderly hg task s hs
  | setupAbort =>
    simp only [wp_ite, wp_pure, settle, wp_bind, wp_modify]
    exact ⟨fun _ => hs, fun _ => teardown_of_idle rfl hs.starts⟩
  | teardown =>
    have hidle : s.shell.renewPending = false := by
      have hwaits := hs.waits
      rw [hsm] at hwaits
      simpa using hwaits
    simp only [wp_ite, wp_pure, settle, wp_bind, wp_modify]
    refine ⟨fun _ => hs, fun _ => interfaceCallbacks_keeps _ ⟨fun hpending => ?_, hs.starts⟩⟩
    exact absurd (hidle.symm.trans hpending) Bool.false_ne_true

theorem scriptSteps_orderly : ScriptSteps g Orderly where
  quiet h hs := by
    refine hs.congr ?_
    simp only [ScriptState.control, Prod.mk.injEq] at h
    obtain ⟨-, hsm, -, -, hpending, hup, hstarts⟩ := h
    rw [ScriptState.renewal, hsm, hpending, hup, hstarts]
    rfl
  handler := protoShellHandler_orderly hg
  report s hs := ⟨fun _ => .inr (.inr ⟨rfl, rfl⟩), hs.starts⟩
  runCommand := by
    refine Preserves.after_read fun s => Preserves.ite (fun _ => Preserves.pure _) fun _ => ?_
    refine Preserves.bind Preserves.ask fun n => Preserves.bind (Preserves.require _) fun _ => ?_
    exact Preserves.bind (updateShell_orderly fun _ => rfl) fun _ => Preserves.pure _
  scriptExit :=
    Preserves.bind (updateShell_orderly fun _ => rfl) fun _ =>
      protoShellTaskFinish_orderly hg (some .script)
  taskExit status := by
    refine Preserves.bind (updateShell_orderly fun s => ?_) fun _ =>
      protoShellTaskFinish_orderly hg (some .proto)
    split_ifs
    all_goals rfl
  teardownTimeout := by
    refine Preserves.after_read fun s => Preserves.bind (Preserves.require _) fun _ => ?_
    exact Preserves.bind (updateShell_orderly fun _ => rfl) fun _ =>
      protoShellTaskFinish_orderly hg none

end Placed

/-- In every run in which each command is in its place no renewal is started on the way down, and
none waits when a setup is started. -/
theorem renew_in_place_of_run {handler : ProtoHandler} {checkupInterval : ℤ}
    (h : Reachable (scriptBody { misplaced := true }) scriptCallable
      (attached handler checkupInterval) t) : ∀ e ∈ t.starts, e.Proper := by
  have hstart : Orderly (attached handler checkupInterval) :=
    ⟨nofun, fun e he => absurd he List.not_mem_nil⟩
  exact ((scriptSteps_orderly rfl).reachable h hstart).starts

/-- A protocol with a renewal. -/
def renewable : ProtoHandler := { name := "dhcp", renewAvailable := true }

/-- A link that comes up, a change of the topology, and the end of all scripts. -/
theorem renew_in_place_of_run_dhcp : ∃ t,
    Reachable (scriptBody { misplaced := true }) scriptCallable (attached renewable (-1)) t ∧
      t.starts.length = 3 ∧ ∀ e ∈ t.starts, e.Proper := by
  obtain ⟨t, ht, hlength⟩ := exists_reachable (scriptBody { misplaced := true }) scriptCallable
    (attached renewable (-1)) (fun t => t.starts.length = 3) 100
    [(.command .setup, [.pick 0]), (.runCommand, [.pick 0]),
      (.linkUp, [.pick 0, .resume, .resume]), (.scriptExit, []), (.command .renew, [.pick 0]),
      (.command .teardown, [.pick 0])] (by decide)
  exact ⟨t, ht, hlength, renew_in_place_of_run ht⟩

/-- The teardown script has ended, but the command of the protocol has not: the topology changes
then, and the script is started to renew. -/
theorem renew_on_the_way_down : ¬∀ (handler : ProtoHandler) (checkupInterval : ℤ) (t : ScriptState),
    Reachable (scriptBody {}) scriptCallable (attached handler checkupInterval) t →
      ∀ e ∈ t.starts, e.Proper := by
  intro h
  obtain ⟨t, ht, hrenew⟩ := exists_reachable (scriptBody {}) scriptCallable
    (attached renewable (-1))
    (fun t => { action := .renew, sm := .teardown, renewPending := false } ∈ t.starts) 100
    [(.command .setup, [.pick 0]), (.runCommand, [.pick 0]),
      (.linkUp, [.pick 0, .resume, .resume]), (.scriptExit, []),
      (.command .teardown, [.pick 0]), (.scriptExit, []), (.command .renew, [.pick 0])] (by decide)
  exact ((h _ _ t ht _ hrenew).1 rfl).1 rfl

end Netifd.ShellScripts
