import Netifd.InterfaceMachine

/-!
# Shell protocols and the calls into an interface

The messages of helper scripts, the exits of the tasks and the timeouts of `proto-shell.c`,
and all the calls into an interface together.
-/

namespace Netifd
open ReentrantProgram ReentrantProgram.Prog

def ubusStatusInvalidArgument : ℤ := 2
def ubusStatusNotFound : ℤ := 4
def ubusStatusPermissionDenied : ℤ := 6
def ubusStatusUnknownError : ℤ := 9

/-- The handler is on its way down and takes no more messages. -/
def ProtoShellState.closing (st : ProtoShellState) : Bool :=
  st.sm == .teardown || st.sm == .setupAbort

/-- The two processes of a shell protocol. -/
inductive ShellTask
  | script | proto
  deriving DecidableEq

/-- `proto_shell_task_finish` while the protocol is being set up or is up. -/
def finishRunning (task : Option ShellTask) : InterfaceProg Unit := do
  let s ← read
  match s.shell, task with
  | some _, some .proto => do
    let _ ← protoShellHandler .teardown
    pure ()
  | some st, some .script => do
    if st.renewPending then
      let _ ← protoShellHandler .renew
      pure ()
    else if !st.handler.noTask && !st.protoTask && st.sm == .setup then
      let _ ← protoShellHandler .teardown
      pure ()
    else pure ()
    setShell fun st =>
      if st.sm = .setup ∧ 0 < st.checkupInterval then { st with checkupTimeout := true } else st
  | _, _ => pure ()

/-- All tasks are done, and no timeout is needed any more. -/
def ProtoShellState.settle (st : ProtoShellState) : ProtoShellState :=
  { st with teardownTimeout := false, checkupTimeout := false, sm := .idle }

/-- Nothing is left to be waited for: no task is pending, no timeout is set, and the handler is
idle. -/
def ProtoShellState.atRest (st : ProtoShellState) : Bool :=
  !st.scriptTask && !st.protoTask && !st.teardownTimeout && st.sm == .idle

/-- The note that the handler reports its end now. -/
def noteEnd : InterfaceProg Unit :=
  modify fun s => { s with endedEarly := s.endedEarly || !s.shell.all (·.atRest) }

/-- `proto_shell_task_finish`; no task is named when the tasks were killed. -/
def protoShellTaskFinish (task : Option ShellTask) : InterfaceProg Unit := do
  let s ← read
  match s.shell with
  | none => pure ()
  | some st =>
    match st.sm with
    | .idle => do
      if task = some .proto then
        let _ ← invoke (.protoEvent .linkLost)
        pure ()
      else pure ()
      finishRunning task
    | .setup => finishRunning task
    | .setupAbort =>
      if st.scriptTask || st.protoTask then pure ()
      else
        setShell ProtoShellState.settle
        let _ ← protoShellHandler .teardown
        pure ()
    | .teardown =>
      -- a task that is still there is told to end
      if st.scriptTask || st.protoTask then pure ()
      else
        setShell ProtoShellState.settle
        noteEnd
        let _ ← invoke (.protoEvent .down)
        pure ()

def protoShellTeardownTimeoutCb : InterfaceProg Unit := do
  setShell fun st => { st with teardownTimeout := false, scriptTask := false, protoTask := false }
  protoShellTaskFinish none

def protoShellScriptCb : InterfaceProg Unit := do
  setShell fun st => { st with scriptTask := false }
  protoShellTaskFinish (some .script)

def protoShellTaskCb (status : ℤ) : InterfaceProg Unit := do
  setShell fun st =>
    if st.sm = .idle ∨ st.sm = .setup then { st with protoTask := false, lastError := status }
    else { st with protoTask := false }
  protoShellTaskFinish (some .proto)

def protoShellCheckupTimeoutCb : InterfaceProg Unit := do
  setShell fun st => { st with checkupTimeout := false }
  let s ← read
  if s.conf.autostart && s.state != .up then
    let _ ← protoShellHandler .teardown
    pure ()
  else pure ()

section Messages

variable (g : RunGuards)

def protoShellCheckDependencies : InterfaceProg Unit := do
  let s ← read
  match s.shell with
  | none => pure ()
  | some st => interfaceSetAvailable g (st.deps.all id)

/-- `proto_shell_update_host_dep`; whether the interface is found depends on the others. -/
def protoShellUpdateHostDep (i : ℕ) : InterfaceProg Unit := do
  let n ← ask
  setShell fun st => if n = 0 then st else { st with deps := st.deps.set i true }
  protoShellCheckDependencies g

def protoShellIfDownCb (i : ℕ) : InterfaceProg Unit := do
  setShell fun st => { st with deps := st.deps.set i false }
  let s ← read
  match s.shell with
  | none => pure ()
  | some st =>
    if st.sm = .idle then
      let _ ← invoke (.protoEvent .linkLost)
      let _ ← protoShellHandler .teardown
      pure ()
    else pure ()

/-- The end of `proto_shell_update_link`: the addresses, routes and prefixes of the message,
and the event. -/
def protoShellLinkUp (m : NotifyMessage) (keep : Bool) : InterfaceProg ℤ := do
  let s ← read
  require (!g.acquiring || s.state != .down)
  let updated ← ask
  modify fun s =>
    { s with updated := updated != 0, protoIp := s.protoIp.update keep m.ip }
  let s ← read
  match s.shell with
  | none => pure 0
  | some st =>
    if st.closing then pure 0
    else
      let _ ← invoke (.protoEvent .up)
      setShell fun st => { st with sm := .idle }
      pure 0

/-- The device of a message: a tunnel or another device that it names, which may fail, or the
main device. -/
def notifiedDevice (m : NotifyMessage) : InterfaceProg (Option ℕ) := do
  let s ← read
  if m.ifname then
    let n ← ask
    pure (if n = 0 then none else some (n - 1))
  else pure (s.users .main).dev

/-- The part of `proto_shell_update_link` that sets the device. -/
def protoShellSetLink (m : NotifyMessage) : InterfaceProg ℤ := do
  let dev ← notifiedDevice m
  if dev = none then pure ubusStatusInvalidArgument
  else
    interfaceSetL3Dev g dev
    let ret ← claimL3Dev g
    if ret < 0 then pure ubusStatusUnknownError
    else
      -- `device_set_present`
      deviceCallbacks
      protoShellLinkUp g m false

def protoShellUpdateLink (m : NotifyMessage) : InterfaceProg ℤ := do
  let s ← read
  match s.shell, m.linkUp with
  | none, _ => pure 0
  | some _, none => pure ubusStatusInvalidArgument
  | some _, some false => do
    let _ ← invoke (.protoEvent .linkLost)
    pure 0
  | some _, some true =>
    if m.keep && s.state == .up && (s.users .l3).dev != none then protoShellLinkUp g m true
    else protoShellSetLink g m

def protoShellRunCommand (m : NotifyMessage) : InterfaceProg ℤ := do
  if m.command ≠ some true then pure ubusStatusInvalidArgument
  else
    -- the process of the last command is killed before the next one is started
    let n ← ask
    let s ← read
    require (!g.acquiring || n != 0 || s.state != .down)
    setShell fun st => { st with protoTask := n == 0 }
    pure 0

def protoShellKillCommand (m : NotifyMessage) : InterfaceProg ℤ := do
  let signal := m.signal.getD 32
  let signal := if 31 < signal then 15 else signal
  setShell fun st =>
    if st.protoTask ∧ (signal = 15 ∨ signal = 9) then { st with protoTaskKilled := true } else st
  pure 0

/-- `proto_shell_notify_error`, which takes at most 15 strings, but for the list of errors that
they are added to. -/
def protoShellNotifyError (m : NotifyMessage) : InterfaceProg ℤ :=
  match m.error with
  | none => pure ubusStatusInvalidArgument
  | some data =>
    if data.length < 16 ∧ data.all id ∧ data ≠ [] then pure 0 else pure ubusStatusInvalidArgument

def protoShellBlockRestart : InterfaceProg ℤ := do
  modify fun s => { s with conf := { s.conf with autostart := false } }
  pure 0

def protoShellSetAvailable (m : NotifyMessage) : InterfaceProg ℤ :=
  match m.available with
  | none => pure ubusStatusInvalidArgument
  | some available => do
    interfaceSetAvailable g available
    pure 0

def protoShellAddHostDependency (m : NotifyMessage) : InterfaceProg ℤ := do
  if m.host = false then pure ubusStatusInvalidArgument
  else
    setShell fun st => { st with deps := false :: st.deps }
    protoShellUpdateHostDep g 0
    let s ← read
    if (s.shell.bind (·.deps.head?)) = some true then pure 0 else pure ubusStatusNotFound

def protoShellSetupFailed (st : ProtoShellState) : InterfaceProg ℤ := do
  if st.closing then pure ubusStatusPermissionDenied
  else
    if st.sm = .idle then
      let _ ← invoke (.protoEvent .linkLost)
      pure ()
    else pure ()
    let _ ← protoShellHandler .teardown
    pure 0

/-- `proto_shell_notify`; the messages 0, 1 and 6 look at `sm` first. -/
def protoShellNotify (m : NotifyMessage) : InterfaceProg ℤ := do
  let s ← read
  match s.shell with
  | none => pure ubusStatusInvalidArgument
  | some st =>
    match m.action with
    | some 0 => if st.closing then pure ubusStatusPermissionDenied else protoShellUpdateLink g m
    | some 1 => if st.closing then pure ubusStatusPermissionDenied else protoShellRunCommand g m
    | some 2 => protoShellKillCommand m
    | some 3 => protoShellNotifyError m
    | some 4 => protoShellBlockRestart
    | some 5 => protoShellSetAvailable g m
    | some 6 =>
      if st.closing then pure ubusStatusPermissionDenied else protoShellAddHostDependency g m
    | some 7 => protoShellSetupFailed st
    | _ => pure ubusStatusInvalidArgument

/-- What every call runs. -/
def interfaceBody : InterfaceCall → InterfaceProg ℤ
  | .mainDevEvent ev => toDeviceUser .main (interfaceMainDevCb g ev)
  | .l3DevEvent ev => toDeviceUser .l3 (interfaceL3DevCb g ev)
  | .extDevEvent ev => toDeviceUser .ext (interfaceExtDevCb ev)
  | .parentEvent ev dev => do
    interfaceAliasCb g ev dev
    pure 0
  | .addLink dev linkExt => do
    handleAddLink g dev linkExt
    pure 0
  | .removeLink dev => do
    interfaceRemoveLink g dev
    pure 0
  | .protoEvent ev => do
    interfaceProtoEventCb g ev
    pure 0
  | .setConfigState state => do
    setConfigState g state
    pure 0
  | .setUp => interfaceSetUp g
  | .setDown => do
    interfaceSetDown g
    pure 0
  | .startPending => do
    interfaceStartPending g
    pure 0
  | .setConfigInit configInit => do
    modify fun s => { s with configInit }
    pure 0
  | .reload new => do
    modify fun s => { s with wanted := some new }
    interfaceAdd g new
    pure 0
  | .reloadWithout => do
    modify fun s => { s with wanted := none }
    interfaceFlush g
    pure 0
  | .addDynamic new => do
    netifdAddDynamic g new
    pure 0
  | .remove => do
    setConfigState g .remove
    pure 0
  | .notify m => protoShellNotify g m
  | .scriptExit => do
    protoShellScriptCb
    pure 0
  | .taskExit status => do
    protoShellTaskCb status
    pure 0
  | .teardownTimeout => do
    protoShellTeardownTimeoutCb
    pure 0
  | .checkupTimeout => do
    protoShellCheckupTimeoutCb
    pure 0
  | .dependencyUp i => do
    protoShellUpdateHostDep g i
    pure 0
  | .dependencyDown i => do
    protoShellIfDownCb i
    pure 0

end Messages

/-- No interface of the name is in the table. -/
def noInterface : LiveInterface := { state := .down }

/-- Which calls may come when no other is under way. Events of the protocol come from a shell
protocol only, from which no more is assumed; a task or a timeout ends only if it is there. -/
def interfaceCallable (call : InterfaceCall) (s : LiveInterface) : Bool :=
  match call with
  | .reload _ | .reloadWithout | .addDynamic _ | .setConfigInit _ => true
  | .setConfigState _ => false
  | .protoEvent ev => s.inTable && s.shell.isSome && ev != .renew
  | .notify _ | .dependencyUp _ | .dependencyDown _ => s.inTable && s.shell.isSome
  | .scriptExit => s.inTable && s.shell.any (·.scriptTask)
  | .taskExit _ => s.inTable && s.shell.any (·.protoTask)
  | .teardownTimeout => s.inTable && s.shell.any (·.teardownTimeout)
  | .checkupTimeout => s.inTable && s.shell.any (·.checkupTimeout)
  | _ => s.inTable

end Netifd
