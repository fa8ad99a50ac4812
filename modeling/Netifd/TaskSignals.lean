import Netifd.MonitoredProgram
import Netifd.ShellScripts

/-!
# The signals to the task of a protocol

When the script of a teardown has ended, a task of the protocol that is still running is told to
end, unless the handler remembers that it was. The handler remembers this in `proto_task_killed`,
which it keeps when it starts the next task.
-/

namespace Netifd.ShellScripts
open ReentrantProgram ReentrantProgram.Prog

def sigkill : ℕ := 9
def sigterm : ℕ := 15

/-- The signals that were sent to the task since it was started, latest first, and whether
`proto_shell_task_finish` has ever left one running that was not told to end. -/
structure TaskNotes where
  signals : List ℕ := []
  spared : Bool := false

abbrev Signalled := ScriptState × TaskNotes
abbrev SignalProg := Prog Signalled ScriptCall

def TaskNotes.send (n : TaskNotes) (signal : ℕ) : TaskNotes :=
  { n with signals := signal :: n.signals }

/-- The task was told to end. -/
def TaskNotes.told (n : TaskNotes) : Bool :=
  n.signals.contains sigterm || n.signals.contains sigkill

/-- A setup is stopped while its script is running: both tasks are sent SIGTERM. -/
def abortNotes (s u : ScriptState) (n : TaskNotes) : TaskNotes :=
  if s.shell.sm = .setup ∧ u.shell.sm = .setupAbort ∧ s.shell.protoTask = true then
    n.send sigterm
  else n

def signalMonitor : Monitor ScriptState TaskNotes where
  onRead _ n := n
  onWrite := abortNotes
  mayWrite _ _ _ := true

/-- A program that sends no other signals. -/
abbrev signalling {α : Type} (x : ScriptProg α) : SignalProg α := monitor signalMonitor x

/-- `proto_shell_task_finish` finds the task running after the script of a teardown. -/
def lingers (st : ProtoShellState) : Bool :=
  st.sm == .teardown && !st.scriptTask && st.protoTask

def finishNotes (s : ScriptState) (n : TaskNotes) : TaskNotes :=
  if lingers s.shell then
    let sent := if s.shell.protoTaskKilled then n else n.send sigterm
    { sent with spared := n.spared || !sent.told }
  else n

/-- `proto_shell_task_finish`. -/
def taskFinish (task : Option ShellTask) : SignalProg Unit := do
  modify fun w => (w.1, finishNotes w.1 w.2)
  signalling (protoShellTaskFinish {} task)

/-- `proto_shell_script_cb`. -/
def scriptCb : SignalProg Unit := do
  signalling (updateShell fun st => { st with scriptTask := false })
  taskFinish (some .script)

/-- `proto_shell_task_cb`. -/
def taskCb (status : ℤ) : SignalProg Unit := do
  signalling (updateShell fun st =>
    if st.sm = .idle ∨ st.sm = .setup then { st with protoTask := false, lastError := status }
    else { st with protoTask := false })
  taskFinish (some .proto)

/-- `proto_shell_teardown_timeout_cb` up to its call. -/
def killTasks : ScriptProg Unit := do
  let _ ← read
  updateShell fun st =>
    { st with teardownTimeout := false, scriptTask := false, protoTask := false }

def teardownTimeoutCb : SignalProg Unit := do
  signalling killTasks
  taskFinish none

/-- `proto_shell_run_command`. In a guarded run no task is started while the handler remembers
that one was told to end. -/
def runCommand (guarded : Bool) : SignalProg ℤ := do
  let w ← read
  if w.1.shell.closing then pure ubusStatusPermissionDenied
  else
    let n ← ask
    require (!guarded || n != 0 || !w.1.shell.protoTaskKilled)
    modify fun w =>
      ({ w.1 with shell := { w.1.shell with protoTask := n == 0 } }, { w.2 with signals := [] })
    pure 0

/-- `proto_shell_kill_command`. -/
def killCommand (signal : ℕ) : SignalProg ℤ := do
  let signal := if 31 < signal then sigterm else signal
  modify fun w =>
    ({ w.1 with
        shell :=
          if w.1.shell.protoTask ∧ (signal = sigterm ∨ signal = sigkill) then
            { w.1.shell with protoTaskKilled := true }
          else w.1.shell },
      if w.1.shell.protoTask then w.2.send signal else w.2)
  pure 0

/-- What every call runs. -/
def signalBody (guarded : Bool) : ScriptCall → SignalProg ℤ
  | .scriptExit => do
    scriptCb
    pure 0
  | .taskExit status => do
    taskCb status
    pure 0
  | .teardownTimeout => do
    teardownTimeoutCb
    pure 0
  | .runCommand => runCommand guarded
  | .killCommand signal => killCommand signal
  | p => signalling (scriptBody {} p)

/-- The runs from a handler that has just been attached. -/
def SignalRun (guarded : Bool) (handler : ProtoHandler) (checkupInterval : ℤ)
    (w : Signalled) : Prop :=
  Reachable (signalBody guarded) (fun p w => scriptCallable p w.1)
    (attached handler checkupInterval, {}) w

section Runs

variable {guarded : Bool}

theorem taskFinish_shadows (task : Option ShellTask) (s : ScriptState) :
    Shadows s (taskFinish task) (protoShellTaskFinish {} task) :=
  .look fun _ => .note (monitor_shadows _ _ s)

theorem runCommand_shadows (s : ScriptState) :
    Shadows s (runCommand guarded) (protoShellRunCommand {}) := by
  refine .get fun n => ?_
  change Shadows s (if s.shell.closing = true then _ else _)
    (if s.shell.closing = true then _ else _)
  split_ifs
  · exact .ret _
  · refine .choose fun k => ?_
    change Shadows s (require _ >>= _) _
    cases (!guarded || k != 0 || !s.shell.protoTaskKilled) with
    | false => exact .stuck _
    | true => exact .get fun _ => .set (.ret _)

theorem signalBody_shadows (p : ScriptCall) (s : ScriptState) :
    Shadows s (signalBody guarded p) (scriptBody {} p) := by
  cases p with
  | scriptExit =>
    refine Shadows.bind ?_ fun _ _ => .ret _
    exact (monitor_shadows _ _ s).bind fun _ t => taskFinish_shadows _ t
  | taskExit status =>
    refine Shadows.bind ?_ fun _ _ => .ret _
    exact (monitor_shadows _ _ s).bind fun _ t => taskFinish_shadows _ t
  | teardownTimeout =>
    refine Shadows.bind ?_ fun _ _ => .ret _
    exact (monitor_shadows _ killTasks s).bind fun _ t => taskFinish_shadows _ t
  | runCommand => exact runCommand_shadows s
  | killCommand signal => exact .get fun _ => .set (.ret _)
  | _ => exact monitor_shadows _ _ s

theorem SignalRun.reachable {handler : ProtoHandler} {checkupInterval : ℤ} {w : Signalled}
    (h : SignalRun guarded handler checkupInterval w) :
    Reachable (scriptBody {}) scriptCallable (attached handler checkupInterval) w.1 :=
  Reachable.of_shadows signalBody_shadows h

end Runs

/-- No task is started, and what the handler remembers is not changed. -/
structure StartsNone (s u : ScriptState) : Prop where
  task : u.shell.protoTask = true → s.shell.protoTask = true
  killed : u.shell.protoTaskKilled = s.shell.protoTaskKilled

section Writes

variable {α : Type}

abbrev NoStart (x : ScriptProg α) : Prop := Writes StartsNone x

theorem updateShell_noStart {f : ProtoShellState → ProtoShellState}
    (htask : ∀ st, (f st).protoTask = true → st.protoTask = true)
    (hkilled : ∀ st, (f st).protoTaskKilled = st.protoTaskKilled) : NoStart (updateShell f) :=
  Writes.modify fun s => ⟨htask s.shell, hkilled s.shell⟩

theorem interfaceCallbacks_noStart : NoStart interfaceCallbacks := Writes.callbacks isCommand

theorem protoShellCommand_task (st : ProtoShellState) (cmd : InterfaceProtoCmd) :
    (protoShellCommand st cmd).1.protoTask = st.protoTask ∧
      (protoShellCommand st cmd).1.protoTaskKilled = st.protoTaskKilled := by
  cases cmd with
  | setup =>
    simp only [protoShellCommand]
    cases st.sm with
    | idle | setup | setupAbort | teardown => exact ⟨rfl, rfl⟩
  | renew =>
    simp only [protoShellCommand]
    split_ifs
    all_goals exact ⟨rfl, rfl⟩
  | teardown =>
    simp only [protoShellCommand]
    cases st.sm with
    | idle | setupAbort | teardown => exact ⟨rfl, rfl⟩
    | setup =>
      dsimp only
      split_ifs
      all_goals exact ⟨rfl, rfl⟩

theorem startScript_noStart (action : InterfaceProtoCmd) : NoStart (startScript {} action) := by
  refine Writes.ask.bind fun n => Writes.read_bind fun s => ?_
  cases n with
  | zero => exact (Writes.modify fun _ => ⟨id, rfl⟩).bind fun _ => Writes.pure _
  | succ n =>
    refine Writes.bind (Writes.require _) fun _ => ?_
    exact Writes.bind (updateShell_noStart (fun _ => id) fun _ => rfl) fun _ => Writes.pure _

theorem protoShellHandler_noStart (cmd : InterfaceProtoCmd) :
    NoStart (protoShellHandler {} cmd) := by
  refine Writes.read_bind fun s => Writes.bind (Writes.require _) fun _ => ?_
  refine Writes.bind (updateShell_noStart ?_ ?_) fun _ => ?_
  · exact fun st => (protoShellCommand_task st cmd).1 ▸ id
  · exact fun st => (protoShellCommand_task st cmd).2
  · cases (protoShellCommand s.shell cmd).2 with
    | some result => exact Writes.pure _
    | none => exact startScript_noStart cmd

theorem ownCommand_noStart (cmd : InterfaceProtoCmd) (a : α) : NoStart (do
    let _ ← protoShellHandler {} cmd
    pure a) := (protoShellHandler_noStart cmd).bind fun _ => Writes.pure _

theorem finishRunning_noStart (task : Option ShellTask) : NoStart (finishRunning {} task) := by
  match task with
  | none => exact Writes.pure _
  | some .proto => exact ownCommand_noStart .teardown ()
  | some .script =>
    have hscript : NoStart (finishScript {}) := by
      refine Writes.read_bind fun s => Writes.ite (ownCommand_noStart .renew ()) ?_
      exact Writes.ite (ownCommand_noStart .teardown ()) (Writes.pure _)
    refine hscript.bind fun _ => updateShell_noStart (fun st => ?_) fun st => ?_
    all_goals split_ifs
    · exact id
    · exact id
    · rfl
    · rfl

theorem settle_noStart : NoStart settle := Writes.modify fun _ => ⟨id, rfl⟩

theorem protoShellTaskFinish_noStart (task : Option ShellTask) :
    NoStart (protoShellTaskFinish {} task) := by
  refine Writes.read_bind fun s => ?_
  cases s.shell.sm with
  | idle =>
    refine (Writes.whenever interfaceCallbacks_noStart).bind fun _ => ?_
    exact finishRunning_noStart task
  | setup => exact finishRunning_noStart task
  | setupAbort =>
    refine Writes.ite (Writes.pure _) ?_
    exact settle_noStart.bind fun _ => ownCommand_noStart .teardown ()
  | teardown =>
    exact Writes.ite (Writes.pure _) (settle_noStart.bind fun _ => interfaceCallbacks_noStart)

theorem killTasks_noStart : NoStart killTasks := by
  refine Writes.read_bind fun _ => ?_
  exact updateShell_noStart (fun _ h => absurd h Bool.false_ne_true) fun _ => rfl

theorem protoShellUpdateHostDep_noStart (i : ℕ) : NoStart (protoShellUpdateHostDep i) := by
  refine Writes.ask.bind fun n => Writes.bind ?_ fun _ => ?_
  · refine updateShell_noStart (fun st => ?_) fun st => ?_
    all_goals split_ifs
    · exact id
    · exact id
    · rfl
    · rfl
  · exact interfaceCallbacks_noStart.bind fun _ => Writes.pure _

theorem protoShellAddHostDependency_noStart : NoStart protoShellAddHostDependency := by
  refine Writes.read_bind fun s => Writes.ite (Writes.pure _) ?_
  refine Writes.bind (updateShell_noStart (fun _ => id) fun _ => rfl) fun _ => ?_
  refine (protoShellUpdateHostDep_noStart 0).bind fun _ => Writes.read_bind fun t => ?_
  exact Writes.ite (Writes.pure _) (Writes.pure _)

theorem protoShellSetupFailed_noStart : NoStart (protoShellSetupFailed {}) := by
  refine Writes.read_bind fun s => Writes.ite (Writes.pure _) ?_
  refine (Writes.whenever interfaceCallbacks_noStart).bind fun _ => ?_
  exact ownCommand_noStart .teardown 0

theorem protoShellIfDownCb_noStart (i : ℕ) : NoStart (protoShellIfDownCb {} i) := by
  refine Writes.bind (updateShell_noStart (fun _ => id) fun _ => rfl) fun _ => ?_
  refine Writes.read_bind fun s => Writes.ite ?_ (Writes.pure _)
  exact interfaceCallbacks_noStart.bind fun _ => ownCommand_noStart .teardown 0

theorem protoShellCheckupTimeoutCb_noStart : NoStart (protoShellCheckupTimeoutCb {}) := by
  refine Writes.bind (updateShell_noStart (fun _ => id) fun _ => rfl) fun _ => ?_
  refine Writes.ask.bind fun n => ?_
  exact Writes.ite (Writes.pure _) (ownCommand_noStart .teardown ())

theorem protoShellLinkUp_noStart : NoStart protoShellLinkUp := by
  have hreport : NoStart reportLink := by
    refine Writes.read_bind fun s => Writes.ite (Writes.pure _) ?_
    refine interfaceCallbacks_noStart.bind fun _ => ?_
    exact (Writes.modify fun _ => ⟨id, rfl⟩).bind fun _ => Writes.pure _
  refine Writes.read_bind fun s => Writes.ite (Writes.pure _) (Writes.ask.bind fun n => ?_)
  refine Writes.ite (Writes.pure _) (interfaceCallbacks_noStart.bind fun _ => ?_)
  exact Writes.ite (Writes.pure _) hreport

theorem protoShellLinkDown_noStart : NoStart protoShellLinkDown :=
  Writes.read_bind fun _ => Writes.ite (Writes.pure _) <|
    interfaceCallbacks_noStart.bind fun _ => Writes.pure _

end Writes

/-- A task of which the handler remembers that it was told to end was told, and no other was ever
spared. -/
structure Mindful (w : Signalled) : Prop where
  told : w.1.shell.protoTask = true → w.1.shell.protoTaskKilled = true → w.2.told = true
  spared : w.2.spared = false

/-- Every call keeps the handler mindful. -/
def mindfulSpec : Spec Signalled ScriptCall := fun _ w _ t => Mindful w → Mindful t

theorem TaskNotes.told_send {n : TaskNotes} (signal : ℕ) (h : n.told = true) :
    (n.send signal).told = true := by
  simp only [told, send, List.contains_cons, Bool.or_eq_true] at h ⊢
  rcases h with h | h
  · exact .inl (.inr h)
  · exact .inr (.inr h)

theorem TaskNotes.told_sigterm (n : TaskNotes) : (n.send sigterm).told = true := by
  simp [told, send]

theorem TaskNotes.told_of_signal {signal : ℕ} (n : TaskNotes)
    (h : signal = sigterm ∨ signal = sigkill) : (n.send signal).told = true := by
  rcases h with rfl | rfl
  · exact n.told_sigterm
  · simp [told, send]

theorem Mindful.write {s u : ScriptState} {n : TaskNotes} (hs : Mindful (s, n))
    (hwrite : StartsNone s u) : Mindful (u, abortNotes s u n) := by
  have htold : u.shell.protoTask = true → u.shell.protoTaskKilled = true → n.told = true :=
    fun htask hkilled => hs.told (hwrite.task htask) (hwrite.killed ▸ hkilled)
  unfold abortNotes
  split_ifs
  · exact ⟨fun htask hkilled => TaskNotes.told_send _ (htold htask hkilled), hs.spared⟩
  · exact ⟨htold, hs.spared⟩

section Mindful

variable {α : Type}

theorem signalling_mindful {x : ScriptProg α} (hx : NoStart x) :
    Preserves mindfulSpec Mindful (signalling x) :=
  hx.preserves (fun _ _ => id) (fun _ _ _ hwrite hs => hs.write hwrite) fun _ _ _ _ => id

theorem finishNotes_mindful {s : ScriptState} {n : TaskNotes} (hs : Mindful (s, n)) :
    Mindful (s, finishNotes s n) := by
  unfold finishNotes
  split_ifs with hlingers hkilled
  · have htask : s.shell.protoTask = true := by
      simp only [lingers, Bool.and_eq_true] at hlingers
      exact hlingers.2
    have htold : n.told = true := hs.told htask hkilled
    exact ⟨fun _ _ => htold, by simp [htold, show n.spared = false from hs.spared]⟩
  · have htold : (n.send sigterm).told = true := n.told_sigterm
    exact ⟨fun _ _ => htold, by simp [htold, show n.spared = false from hs.spared]⟩
  · exact hs

theorem taskFinish_mindful (task : Option ShellTask) :
    Preserves mindfulSpec Mindful (taskFinish task) :=
  (Preserves.modify fun _ hs => finishNotes_mindful hs).bind fun _ =>
    signalling_mindful (protoShellTaskFinish_noStart task)

theorem taskCb_mindful (status : ℤ) : Preserves mindfulSpec Mindful (taskCb status) := by
  refine (signalling_mindful (updateShell_noStart (fun st => ?_) fun st => ?_)).bind fun _ =>
    taskFinish_mindful _
  all_goals split_ifs
  · exact nofun
  · exact nofun
  · rfl
  · rfl

theorem runCommand_mindful : Preserves mindfulSpec Mindful (runCommand true) := by
  refine Preserves.read_bind fun w hw => ?_
  rw [wp_ite]
  refine ⟨fun _ => hw, fun _ => ?_⟩
  rw [wp_bind, wp_ask]
  intro n
  rw [wp_bind, wp_require]
  intro hstart
  refine ⟨fun htask hkilled => ?_, hw.spared⟩
  have hn : n = 0 := by simpa using htask
  simp [hn, show w.1.shell.protoTaskKilled = true from hkilled] at hstart

theorem killCommand_mindful (signal : ℕ) : Preserves mindfulSpec Mindful (killCommand signal) := by
  refine Preserves.bind (Preserves.modify ?_) fun _ => Preserves.pure _
  rintro ⟨s, n⟩ hw
  generalize (if 31 < signal then sigterm else signal) = sent
  dsimp only
  constructor
  · intro htask hkilled
    have hrunning : s.shell.protoTask = true := by
      dsimp only at htask
      split_ifs at htask
      all_goals exact htask
    rw [if_pos hrunning]
    dsimp only at hkilled
    split_ifs at hkilled with hsignal
    · exact TaskNotes.told_of_signal n hsignal.2
    · exact TaskNotes.told_send _ (hw.told hrunning hkilled)
  · split_ifs
    all_goals exact hw.spared

end Mindful

theorem signalBody_mindful : Verified (signalBody true) mindfulSpec := by
  have hthen : ∀ {x : SignalProg Unit}, Preserves mindfulSpec Mindful x →
      Preserves mindfulSpec Mindful (do x; pure (0 : ℤ)) := fun hx =>
    hx.bind fun _ => Preserves.pure _
  have hscript : NoStart (updateShell fun st => { st with scriptTask := false }) :=
    updateShell_noStart (fun _ => id) fun _ => rfl
  have hset : NoStart (do interfaceCallbacks; pure (0 : ℤ)) :=
    interfaceCallbacks_noStart.bind fun _ => Writes.pure _
  have hcheckup : NoStart (do protoShellCheckupTimeoutCb {}; pure (0 : ℤ)) :=
    protoShellCheckupTimeoutCb_noStart.bind fun _ => Writes.pure _
  intro p w
  refine wp_imp _ fun hw => ?_
  cases p with
  | command cmd => exact signalling_mindful (protoShellHandler_noStart cmd) w hw
  | scriptExit =>
    exact hthen ((signalling_mindful hscript).bind fun _ => taskFinish_mindful _) w hw
  | taskExit status => exact hthen (taskCb_mindful status) w hw
  | teardownTimeout =>
    exact hthen ((signalling_mindful killTasks_noStart).bind fun _ => taskFinish_mindful _) w hw
  | checkupTimeout => exact signalling_mindful hcheckup w hw
  | linkUp => exact signalling_mindful protoShellLinkUp_noStart w hw
  | linkDown => exact signalling_mindful protoShellLinkDown_noStart w hw
  | runCommand => exact runCommand_mindful w hw
  | killCommand signal => exact killCommand_mindful signal w hw
  | setAvailable => exact signalling_mindful hset w hw
  | addHostDependency => exact signalling_mindful protoShellAddHostDependency_noStart w hw
  | setupFailed => exact signalling_mindful protoShellSetupFailed_noStart w hw
  | dependencyUp i => exact signalling_mindful (protoShellUpdateHostDep_noStart i) w hw
  | dependencyDown i => exact signalling_mindful (protoShellIfDownCb_noStart i) w hw

/-- In every run in which no task is started while the handler remembers that one was told to end,
`proto_shell_task_finish` never leaves a task running that was not told. -/
theorem task_told_of_run {handler : ProtoHandler} {checkupInterval : ℤ} {w : Signalled}
    (h : SignalRun true handler checkupInterval w) : w.2.spared = false := by
  have hstart : Mindful (attached handler checkupInterval, {}) := ⟨nofun, rfl⟩
  have hspec : ∀ p w r t, scriptCallable p w.1 = true → mindfulSpec p w r t → Mindful w →
      Mindful t := fun _ _ _ _ _ hkeeps hw => hkeeps hw
  exact (Reachable.invariant signalBody_mindful hspec h hstart).spared

/-- A task that ends on its own, and one that runs on after the script of the teardown. -/
theorem task_told_of_two_tasks : ∃ w, SignalRun true renewable (-1) w ∧
    w.2.signals = [sigterm] ∧ w.2.spared = false := by
  obtain ⟨w, hw, hsignals⟩ := exists_reachable (signalBody true)
    (fun p w => scriptCallable p w.1) (attached renewable (-1), {})
    (fun w => w.2.signals = [sigterm]) 100
    [(.command .setup, [.pick 0]), (.runCommand, [.pick 0]),
      (.linkUp, [.pick 0, .resume, .resume]), (.scriptExit, []), (.killCommand 1, []),
      (.taskExit 0, [.resume, .pick 0]), (.scriptExit, [.resume]), (.command .setup, [.pick 0]),
      (.runCommand, [.pick 0]), (.linkUp, [.pick 0, .resume, .resume]), (.scriptExit, []),
      (.command .teardown, [.pick 0]), (.scriptExit, [])] (by decide)
  exact ⟨w, hw, hsignals, task_told_of_run hw⟩

/-- The first task is told to end and does. The second one runs on after the script of its
teardown, and is told nothing. -/
theorem second_task_spared : ¬∀ (handler : ProtoHandler) (checkupInterval : ℤ) (w : Signalled),
    SignalRun false handler checkupInterval w → w.2.spared = false := by
  intro h
  obtain ⟨w, hw, hspared⟩ := exists_reachable (signalBody false)
    (fun p w => scriptCallable p w.1) (attached renewable (-1), {})
    (fun w => w.2.spared = true) 100
    [(.command .setup, [.pick 0]), (.runCommand, [.pick 0]),
      (.linkUp, [.pick 0, .resume, .resume]), (.scriptExit, []), (.killCommand 15, []),
      (.taskExit 0, [.resume, .pick 0]), (.scriptExit, [.resume]), (.command .setup, [.pick 0]),
      (.runCommand, [.pick 0]), (.linkUp, [.pick 0, .resume, .resume]), (.scriptExit, []),
      (.command .teardown, [.pick 0]), (.scriptExit, [])] (by decide)
  exact absurd (hspared.symm.trans (h _ _ w hw)) (by decide)

end Netifd.ShellScripts
