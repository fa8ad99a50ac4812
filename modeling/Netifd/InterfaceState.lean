import Netifd.Device
import Netifd.InterfaceConfiguration

/-!
# The state of a running interface

An interface with its place in the table, its devices, its protocol and what it has told its
listeners, and the operations on devices as one interface sees them: while a claim or a
release is under way, any event of its devices may come in.
-/

namespace Netifd
open ReentrantProgram ReentrantProgram.Prog

inductive InterfaceEvent
  | down | up | update | free | reload | linkUp
  deriving DecidableEq

inductive InterfaceState
  | setup | up | teardown | down
  deriving DecidableEq

inductive InterfaceConfigState
  | normal | reload | remove
  deriving DecidableEq

inductive InterfaceProtoEvent
  | up | down | linkLost | renew
  deriving DecidableEq

inductive InterfaceProtoCmd
  | setup | teardown | renew
  deriving DecidableEq

inductive ProtoShellSm
  | idle | setup | setupAbort | teardown
  deriving DecidableEq

/-- The `cb` of a protocol state: that of `no_proto`, of the static protocol, of a shell
protocol, or `invalid_proto_handler`. -/
inductive ProtoCb
  | none | static | shell | invalid
  deriving DecidableEq

/-- `struct proto_shell_state`; a task is there while its process is pending, a timeout while it
is set, a dependency is true while it has found its interface. -/
structure ProtoShellState where
  handler : ProtoHandler
  sm : ProtoShellSm := .idle
  scriptTask : Bool := false
  protoTask : Bool := false
  protoTaskKilled : Bool := false
  renewPending : Bool := false
  teardownTimeout : Bool := false
  checkupTimeout : Bool := false
  checkupInterval : ℤ := -1
  lastError : ℤ := 0
  deps : List Bool := []

/-- `struct interface_proto_state`; only a shell protocol uses its own part. -/
structure InterfaceProtoState where
  handler : ProtoHandler
  config : Blob
  cb : ProtoCb
  shell : ProtoShellState

/-- What the protocol has put into `proto_ip`: addresses, routes and prefixes by number. -/
structure IpContents where
  addr : List ℕ := []
  route : List ℕ := []
  prefixes : List ℕ := []
  deriving DecidableEq

/-- An update cycle: what was there is flushed at its end unless it is kept or sent again. -/
def IpContents.update (old : IpContents) (keep : Bool) (new : IpContents) : IpContents :=
  if keep then
    { addr := old.addr ∪ new.addr
      route := old.route ∪ new.route
      prefixes := old.prefixes ∪ new.prefixes }
  else new

/-- The three devices of an interface. -/
inductive DeviceSlot
  | main | l3 | ext
  deriving DecidableEq

/-- `struct interface` at run time, its place in the table, with `keptOnReload` if its version
there is `-1`, and `config_init`. The last three fields are histories: what listeners were told,
latest first, the record of the last reload if that contained the interface, and whether a
shell protocol has reported its end before it was at rest. -/
structure LiveInterface where
  inTable : Bool := false
  keptOnReload : Bool := false
  conf : Interface := { name := "" }
  state : InterfaceState := .setup
  configState : InterfaceConfigState := .normal
  available : Bool := false
  enabled : Bool := false
  linkState : Bool := false
  linkUpEvent : Bool := false
  updated : Bool := false
  users : DeviceSlot → DeviceUser := fun _ => {}
  proto : Option InterfaceProtoState := none
  configIpEnabled : Bool := false
  protoIpEnabled : Bool := true
  protoIp : IpContents := {}
  configInit : Bool := false
  emitted : List InterfaceEvent := []
  wanted : Option Interface := none
  endedEarly : Bool := false

namespace LiveInterface

/-- Change one device user. -/
def mapUser (s : LiveInterface) (slot : DeviceSlot) (f : DeviceUser → DeviceUser) :
    LiveInterface :=
  { s with users := fun t => if t = slot then f (s.users t) else s.users t }

/-- The state of the protocol, if it is a shell protocol. -/
def shell (s : LiveInterface) : Option ProtoShellState :=
  match s.proto with
  | some proto => if proto.cb = .shell then some proto.shell else none
  | none => none

end LiveInterface

/-- `struct blob_attr` of `notify_proto`, with what its parts come to: the addresses, routes
and prefixes that can be parsed, and whether the command, the host and each entry of the error are
well formed. -/
structure NotifyMessage where
  action : Option ℕ := none
  linkUp : Option Bool := none
  keep : Bool := false
  ifname : Bool := false
  ip : IpContents := {}
  command : Option Bool := none
  available : Option Bool := none
  signal : Option ℕ := none
  host : Bool := true
  error : Option (List Bool) := none

/-- What may call into an interface, and the two functions that call each other. -/
inductive InterfaceCall
  | mainDevEvent (ev : DeviceEvent)
  | l3DevEvent (ev : DeviceEvent)
  | extDevEvent (ev : DeviceEvent)
  | parentEvent (ev : InterfaceEvent) (dev : Option ℕ)
  | addLink (dev : ℕ) (linkExt : Bool)
  | removeLink (dev : ℕ)
  | protoEvent (ev : InterfaceProtoEvent)
  | setConfigState (state : InterfaceConfigState)
  | setUp
  | setDown
  | startPending
  | setConfigInit (configInit : Bool)
  | reload (new : Interface)
  | reloadWithout
  | addDynamic (new : Interface)
  | remove
  | notify (m : NotifyMessage)
  | scriptExit
  | taskExit (status : ℤ)
  | teardownTimeout
  | checkupTimeout
  | dependencyUp (i : ℕ)
  | dependencyDown (i : ℕ)

abbrev InterfaceProg := Prog LiveInterface InterfaceCall

/-- Which runs are considered: all of them, or those that keep off one kind of defect. -/
structure RunGuards where
  overwriting : Bool := false
  acquiring : Bool := false
  readding : Bool := false
  redelegating : Bool := false

/-- The events of the interface's own devices. -/
def isDeviceEvent : InterfaceCall → Bool
  | .mainDevEvent _ => true
  | .l3DevEvent _ => true
  | .extDevEvent _ => true
  | _ => false

/-- Events of the devices come in, out of whatever is done to a device. -/
def deviceCallbacks : InterfaceProg Unit := callbacks isDeviceEvent

/-- `device_claim`: the events come while the claim stands, a failed one is given back. -/
def claimDevice (slot : DeviceSlot) : InterfaceProg ℤ := do
  let s ← read
  if (s.users slot).claimed then pure 0
  else if (s.users slot).dev = none then pure (-1)
  else
    modify fun s => s.mapUser slot fun u => { u with claimed := true }
    deviceCallbacks
    let n ← ask
    if n = 0 then pure 0
    else
      modify fun s => s.mapUser slot fun u => { u with claimed := false }
      pure (-(n : ℤ))

/-- `device_release`. -/
def releaseDevice (slot : DeviceSlot) : InterfaceProg Unit := do
  let s ← read
  if (s.users slot).claimed then
    modify fun s => s.mapUser slot fun u => { u with claimed := false }
    deviceCallbacks
  else pure ()

/-- `device_release`, of a user that is on a device. -/
def releaseAttached (slot : DeviceSlot) : InterfaceProg Unit := do
  let s ← read
  if (s.users slot).dev = none then pure () else releaseDevice slot

/-- `device_remove_user`; the device may be freed then, and others with it. -/
def removeDevice (slot : DeviceSlot) : InterfaceProg Unit := do
  let s ← read
  if (s.users slot).dev = none then pure ()
  else
    modify fun s => s.mapUser slot fun u => { u with hotplug := false }
    releaseDevice slot
    modify fun s => s.mapUser slot fun u => { u with dev := none }
    deviceCallbacks

/-- `device_remove_user`, under a condition. -/
def removeDeviceIf (b : Bool) (slot : DeviceSlot) : InterfaceProg Unit :=
  if b then removeDevice slot else pure ()

/-- The events a new user of a device is told at once: the main device's reach the interface,
the others' have no effect on it. -/
def greetings : DeviceSlot → InterfaceProg Unit
  | .main => deviceCallbacks
  | .l3 => pure ()
  | .ext => pure ()

/-- `device_add_user`. -/
def addDevice (slot : DeviceSlot) (dev : Option ℕ) : InterfaceProg Unit := do
  let s ← read
  if (s.users slot).dev = dev then pure ()
  else
    removeDevice slot
    match dev with
    | none => pure ()
    | some d => do
      modify fun s => s.mapUser slot fun u => { u with dev := some d }
      greetings slot

/-- `device_add_user`, under a condition. -/
def addDeviceIf (b : Bool) (slot : DeviceSlot) (dev : Option ℕ) : InterfaceProg Unit :=
  if b then addDevice slot dev else pure ()

end Netifd
