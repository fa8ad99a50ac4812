import Netifd.InterfaceState

/-!
# The interface state machine

`interface.c` with the protocol handlers of `proto.c`, `proto-static.c` and `proto-shell.c`.
An immediate protocol answers a command out of the command itself, so that the state machine
is entered again from within; shell protocols answer later, by messages and by the exits of
their tasks.
-/

namespace Netifd
open ReentrantProgram ReentrantProgram.Prog

/-- `interface_event`; listeners do not act on the interface that they listen to. -/
def interfaceEvent (ev : InterfaceEvent) : InterfaceProg Unit :=
  modify fun s => { s with emitted := ev :: s.emitted }

def interfaceFlushState : InterfaceProg Unit := releaseAttached .l3

def markInterfaceDown : InterfaceProg Unit := do
  let s ← read
  if s.state = .down then pure ()
  else
    modify fun s => { s with linkUpEvent := false, state := .down }
    if s.state = .up then interfaceEvent .down else pure ()
    modify fun s =>
      { s with configIpEnabled := false, protoIpEnabled := false, protoIp := {} }
    interfaceFlushState

section Machine

variable (g : RunGuards)

def interfaceSetProtoState (proto : Option InterfaceProtoState) : InterfaceProg Unit := do
  let s ← read
  require (!g.overwriting || s.state != .up)
  modify fun s => { s with state := .down, proto := proto }

/-- A claim on the layer 3 device. -/
def claimL3Dev : InterfaceProg ℤ := do
  let ret ← claimDevice .l3
  let s ← read
  require (!g.acquiring || decide (ret < 0) || s.state != .down)
  pure ret

/-- The end of `interface_set_l3_dev`. -/
def enableIp (config proto : Bool) : InterfaceProg Unit :=
  modify fun s => { s with configIpEnabled := config, protoIpEnabled := proto }

def interfaceSetL3Dev (dev : Option ℕ) : InterfaceProg Unit := do
  let s ← read
  if (s.users .l3).dev = dev then pure ()
  else
    modify fun s =>
      { s with configIpEnabled := false, protoIpEnabled := false, protoIp := {} }
    addDevice .l3 dev
    if dev = none then pure ()
    else if (s.users .l3).claimed then
      let ret ← claimL3Dev g
      -- `enabled` is that of `config_ip` for both
      if ret < 0 then pure () else enableIp s.configIpEnabled s.configIpEnabled
    else enableIp s.configIpEnabled s.configIpEnabled

def setShell (f : ProtoShellState → ProtoShellState) : InterfaceProg Unit :=
  modify fun s =>
    { s with proto := s.proto.map fun proto => { proto with shell := f proto.shell } }

/-- What a command does to a shell protocol: the new state, and a result or the script that
is to be run. -/
def protoShellCommand (st : ProtoShellState) :
    InterfaceProtoCmd → ProtoShellState × Option ℤ
  | .setup =>
    match st.sm with
    | .idle => ({ st with lastError := -1, deps := [], sm := .setup }, none)
    | _ => (st, some 0)
  | .renew =>
    if !st.handler.renewAvailable then (st, some 0)
    else if st.scriptTask then ({ st with renewPending := true }, some 0)
    else ({ st with renewPending := false }, none)
  | .teardown =>
    match st.sm with
    | .setup =>
      if st.scriptTask then
        ({ st with teardownTimeout := true, renewPending := false, sm := .setupAbort }, some 0)
      else ({ st with renewPending := false, sm := .teardown, teardownTimeout := true }, none)
    | .idle => ({ st with renewPending := false, sm := .teardown, teardownTimeout := true }, none)
    | .teardown => (st, some 0)
    | .setupAbort => (st, some (-1))

/-- The start of the script: it runs, or it does not while the last one is killed, or there is
no text of the configuration to give to it. -/
def startScript : InterfaceProg ℤ := do
  let n ← ask
  match n with
  | 0 => do
    setShell fun st => { st with scriptTask := true }
    pure 0
  | 1 => do
    setShell fun st => { st with scriptTask := false }
    pure (-1)
  | _ => pure (-1)

def protoShellHandler (cmd : InterfaceProtoCmd) : InterfaceProg ℤ := do
  let s ← read
  match s.shell with
  | none => pure (-1)
  | some st => do
    setShell fun _ => (protoShellCommand st cmd).1
    match (protoShellCommand st cmd).2 with
    | some result => pure result
    | none => startScript

/-- `static_proto_setup`, whose settings may turn out wrong half-way. -/
def staticProtoSetup : InterfaceProg ℤ := do
  let s ← read
  interfaceSetL3Dev g (s.users .main).dev
  let n ← ask
  modify fun s => { s with protoIp := s.protoIp.update true { addr := List.range n } }
  let failed ← ask
  if failed = 0 then pure 0 else pure (-1)

def staticHandler : InterfaceProtoCmd → InterfaceProg ℤ
  | .setup => staticProtoSetup g
  | .teardown => pure 0
  | .renew => pure 0

/-- The `cb` of a protocol state. -/
def protoCb (proto : InterfaceProtoState) (cmd : InterfaceProtoCmd) : InterfaceProg ℤ :=
  match proto.cb with
  | .none => pure 0
  | .static => staticHandler g cmd
  | .shell => protoShellHandler cmd
  | .invalid => pure (-1)

/-- What an immediate protocol answers. -/
def immediateEvent : InterfaceProtoCmd → InterfaceProtoEvent
  | .setup => .up
  | .teardown => .down
  | .renew => .renew

/-- `interface_proto_event`; without a protocol the process is gone. -/
def interfaceProtoEvent (cmd : InterfaceProtoCmd) : InterfaceProg ℤ := do
  let s ← read
  match s.proto with
  | none => .stuck
  | some proto => do
    let ret ← protoCb g proto cmd
    if ret ≠ 0 ∨ proto.handler.immediate = false then pure ret
    else
      let _ ← invoke (.protoEvent (immediateEvent cmd))
      pure ret

def interfaceSetDown' (force : Bool) : InterfaceProg Unit := do
  let s ← read
  match s.state with
  | .down => releaseAttached .main
  | .teardown => pure ()
  | _ => do
    modify fun s => { s with state := .teardown }
    if s.state = .up then interfaceEvent .down else pure ()
    let _ ← interfaceProtoEvent g .teardown
    if force then interfaceFlushState else pure ()

def interfaceSetUp' : InterfaceProg ℤ := do
  modify fun s => { s with state := .setup }
  let ret ← interfaceProtoEvent g .setup
  if ret ≠ 0 then
    markInterfaceDown
    pure ret
  else pure ret

def interfaceCheckState : InterfaceProg Unit := do
  let s ← read
  let linkState := s.linkState || s.conf.forceLink
  match s.state with
  | .teardown => pure ()
  | .down =>
    if s.available && (s.conf.autostart && s.enabled && linkState && !s.configInit) then
      let _ ← interfaceSetUp' g
      pure ()
    else pure ()
  | _ =>
    if !s.enabled || !linkState then
      let _ ← interfaceProtoEvent g .teardown
      markInterfaceDown
    else pure ()

def interfaceSetEnabled (enabled : Bool) : InterfaceProg Unit := do
  let s ← read
  if s.enabled = enabled then pure ()
  else
    modify fun s => { s with enabled := enabled }
    interfaceCheckState g

def interfaceSetLinkState (linkState : Bool) : InterfaceProg Unit := do
  let s ← read
  if s.linkState = linkState then pure ()
  else
    modify fun s => { s with linkState := linkState }
    interfaceCheckState g
    let s ← read
    if linkState && s.conf.forceLink && s.state == .up && !s.linkUpEvent then
      interfaceEvent .linkUp
      modify fun s => { s with linkUpEvent := true }
    else pure ()

def interfaceSetUp : InterfaceProg ℤ := do
  modify fun s => { s with conf := { s.conf with autostart := true } }
  let s ← read
  if s.state ≠ .down then pure 0
  else if !s.available then pure (-1)
  else if (s.users .main).dev = none then interfaceSetUp' g
  else
    let ret ← claimDevice .main
    if ret = 0 then
      interfaceCheckState g
      pure ret
    else pure ret

/-- `interface_set_down` of one interface. -/
def interfaceSetDown : InterfaceProg Unit := do
  modify fun s => { s with conf := { s.conf with autostart := false } }
  interfaceSetDown' g false

def interfaceSetAvailable (available : Bool) : InterfaceProg Unit := do
  let s ← read
  if s.available = available then pure ()
  else
    modify fun s => { s with available := available }
    if available then
      let s ← read
      if s.conf.autostart && !s.configInit then
        let _ ← interfaceSetUp g
        pure ()
      else pure ()
    else interfaceSetDown' g true

def interfaceSetMainDev (dev : Option ℕ) : InterfaceProg Unit := do
  let s ← read
  if (s.users .main).dev = dev then pure ()
  else
    interfaceSetAvailable g false
    addDevice .main dev
    if dev = none then interfaceSetLinkState g false
    else
      let ret ← if (s.users .l3).claimed then claimL3Dev g else pure 0
      if ret < 0 then pure ()
      else
        let s ← read
        if (s.users .l3).dev = none then interfaceSetL3Dev g dev else pure ()

def interfaceMainDevCb (ev : DeviceEvent) : InterfaceProg Unit :=
  match ev with
  | .add => interfaceSetAvailable g true
  | .remove => do
    interfaceSetAvailable g false
    -- whether the device, if there is still one, is external
    let n ← ask
    let s ← read
    if (s.users .main).dev ≠ none ∧ n ≠ 0 then interfaceSetMainDev g none else pure ()
  | .up => interfaceSetEnabled g true
  | .down => interfaceSetEnabled g false
  | .linkUp => interfaceSetLinkState g true
  | .linkDown => interfaceSetLinkState g false
  | .topoChange => do
    let _ ← interfaceProtoEvent g .renew
    pure ()
  | _ => pure ()

def interfaceL3DevCb (ev : DeviceEvent) : InterfaceProg Unit := do
  let s ← read
  if (s.users .l3).dev = (s.users .main).dev then pure ()
  else if ev = .linkDown ∧ s.conf.protoHandler.teardownOnL3LinkDown then
    let _ ← interfaceProtoEvent g .teardown
    pure ()
  else pure ()

def interfaceExtDevCb (ev : DeviceEvent) : InterfaceProg Unit :=
  if ev = .remove then removeDevice .ext else pure ()

/-- `interface_alias_cb`, with the layer 3 device of the parent. -/
def interfaceAliasCb (ev : InterfaceEvent) (dev : Option ℕ) : InterfaceProg Unit :=
  match ev with
  | .up =>
    if dev = none then pure ()
    else do
      interfaceSetMainDev g dev
      interfaceSetAvailable g true
  | .down => do
    interfaceSetAvailable g false
    interfaceSetMainDev g none
  | _ => pure ()

/-- `device_broadcast_cb`: a user that is off its device is not told. -/
def toDeviceUser (slot : DeviceSlot) (cb : InterfaceProg Unit) : InterfaceProg ℤ := do
  let s ← read
  if (s.users slot).dev = none then pure 0
  else
    cb
    pure 0

/-- The device that `interface_claim_device` finds, if there is no parent. -/
def findMainDev : InterfaceProg (Option ℕ) := do
  let s ← read
  if s.conf.ifname ≠ none ∧ s.conf.protoHandler.nodev = false then
    let n ← ask
    pure (if n = 0 then none else some (n - 1))
  else pure (s.users .ext).dev

/-- The search for a device, or for the parent, which calls back at once if it is up. -/
def claimMainDev : InterfaceProg Unit := do
  let s ← read
  if s.conf.parentIfname ≠ none then
    let n ← ask
    if n = 0 then pure () else interfaceAliasCb g .up (some (n - 1))
  else
    let dev ← findMainDev
    if dev = none then pure () else interfaceSetMainDev g dev

def interfaceClaimDevice : InterfaceProg Unit := do
  claimMainDev g
  let s ← read
  if s.conf.protoHandler.initAvailable then interfaceSetAvailable g true else pure ()

def interfaceCleanupState : InterfaceProg Unit := do
  interfaceSetAvailable g false
  interfaceFlushState
  interfaceSetProtoState g none
  interfaceSetMainDev g none
  interfaceSetL3Dev g none

def interfaceCleanup : InterfaceProg Unit := do
  removeDevice .ext
  interfaceCleanupState g

def interfaceDoFree : InterfaceProg Unit := do
  interfaceEvent .free
  interfaceCleanup g
  modify fun s => { s with inTable := false }

/-- The `cb` of the state that a handler attaches. -/
def attachedCb (handler : ProtoHandler) : ProtoCb :=
  if !handler.immediate then .shell
  else if handler.name = "none" then .none
  else .static

/-- `proto->attach`, or what stands in for it if that fails. -/
def protoAttach (handler : ProtoHandler) (config : Blob) (failed : Bool) : InterfaceProtoState where
  handler
  config
  cb := if failed then .invalid else attachedCb handler
  shell :=
    { handler
      checkupInterval := ((config.getU32 "checkup_interval").map fun n => toInt32 n).getD (-1) }

def protoInitInterface : InterfaceProg Unit := do
  let s ← read
  let n ← ask
  interfaceSetProtoState g (some (protoAttach s.conf.protoHandler s.conf.config (n != 0)))

def interfaceDoReload : InterfaceProg Unit := do
  interfaceEvent .reload
  interfaceCleanupState g
  protoInitInterface g
  interfaceClaimDevice g

/-- The end of `interface_handle_config_change`. -/
def restartInterface : InterfaceProg Unit := do
  let s ← read
  if s.conf.autostart && s.available then
    let _ ← interfaceSetUp g
    pure ()
  else if s.conf.dynamic then
    let _ ← invoke (.setConfigState .remove)
    pure ()
  else pure ()

def interfaceHandleConfigChange : InterfaceProg Unit := do
  let s ← read
  modify fun s => { s with configState := .normal }
  match s.configState with
  | .normal => restartInterface g
  | .reload => do
    interfaceDoReload g
    restartInterface g
  | .remove => interfaceDoFree g

def setConfigState (state : InterfaceConfigState) : InterfaceProg Unit := do
  modify fun s => { s with configState := state }
  let s ← read
  if s.state = .down then interfaceHandleConfigChange g else interfaceSetDown' g false

def interfaceProtoUp : InterfaceProg Unit := do
  let s ← read
  if s.state ≠ .setup then
    if s.state = .up ∧ s.updated then interfaceEvent .update else pure ()
  else
    if (s.users .l3).dev = none then interfaceSetL3Dev g (s.users .main).dev else pure ()
    modify fun s => { s with configIpEnabled := true, protoIpEnabled := true, state := .up }
    interfaceEvent .up

def interfaceProtoDown : InterfaceProg Unit := do
  let s ← read
  if s.state = .down then pure ()
  else
    markInterfaceDown
    releaseAttached .main
    -- nothing to be done if it is on none
    removeDevice .l3
    interfaceHandleConfigChange g

def interfaceProtoLinkLost : InterfaceProg Unit := do
  let s ← read
  if s.state ≠ .up then pure ()
  else
    markInterfaceDown
    let s ← read
    require (!g.overwriting || (s.available && s.state != .up))
    modify fun s => { s with state := .setup }

def interfaceProtoEventCb : InterfaceProtoEvent → InterfaceProg Unit
  | .up => interfaceProtoUp g
  | .down => interfaceProtoDown g
  | .linkLost => interfaceProtoLinkLost g
  | .renew => pure ()

def interfaceAddLink (dev : ℕ) (linkExt : Bool) : InterfaceProg Unit := do
  let s ← read
  if (s.users .main).dev = some dev then pure ()
  else
    removeDeviceIf (s.users .main).hotplug .main
    -- the hotplug operations of the old device leave the interface alone
    if (s.users .main).dev ≠ none then pure ()
    else
      addDeviceIf linkExt .ext (some dev)
      interfaceSetMainDev g (some dev)
      modify fun s => s.mapUser .main fun u => { u with hotplug := true }

def interfaceRemoveLink (dev : ℕ) : InterfaceProg Unit := do
  let s ← read
  -- whether the main device has hotplug operations
  let n ← ask
  if (s.users .main).dev ≠ none ∧ n ≠ 0 then pure ()
  else
    removeDeviceIf ((s.users .ext).dev == some dev) .ext
    let s ← read
    if (s.users .main).hotplug = false then pure ()
    else if (s.users .main).dev ≠ some dev then pure ()
    else interfaceSetMainDev g none

/-- `interface_handle_link` with `add`; the device is made present first. -/
def handleAddLink (dev : ℕ) (linkExt : Bool) : InterfaceProg Unit := do
  deviceCallbacks
  interfaceAddLink g dev linkExt

/-- `interface_change_config` with its actions. -/
def interfaceReload (new : Interface) : InterfaceProg Unit := do
  let s ← read
  let change := interfaceChangeConfig (s.users .main).dev.isSome s.conf new
  require (!g.readding || s.configState != .remove || change.reload)
  require (!g.redelegating || s.conf.protoIp.noDelegation == new.protoIp.noDelegation)
  modify fun s => { s with conf := change.iface }
  if change.reload then setConfigState g .reload
  else if (s.users .main).dev = none then pure ()
  else interfaceCheckState g

/-- `interface_update` for an interface that is not in the table. -/
def interfaceCreate (new : Interface) : InterfaceProg Unit := do
  modify fun s => { inTable := true, conf := new, configInit := s.configInit, wanted := s.wanted }
  protoInitInterface g
  interfaceClaimDevice g

/-- `vlist_add` to the table of interfaces. -/
def interfaceAdd (new : Interface) : InterfaceProg Unit := do
  modify fun s => { s with keptOnReload := false }
  let s ← read
  if s.inTable then interfaceReload g new else interfaceCreate g new

/-- `vlist_flush`, for an interface that a reload leaves out. -/
def interfaceFlush : InterfaceProg Unit := do
  let s ← read
  if s.inTable && !s.keptOnReload then setConfigState g .remove else pure ()

def netifdAddDynamic (new : Interface) : InterfaceProg Unit := do
  interfaceAdd g new
  let s ← read
  if s.inTable then
    modify fun s => { s with conf := interfaceSetDynamic s.conf, keptOnReload := true }
  else pure ()

def interfaceStartPending : InterfaceProg Unit := do
  let s ← read
  if s.available && s.conf.autostart then
    let _ ← interfaceSetUp g
    pure ()
  else pure ()

end Machine

end Netifd
