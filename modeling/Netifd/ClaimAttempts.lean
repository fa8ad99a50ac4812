import Mathlib.Data.List.Count
import Mathlib.Data.Set.Insert
import Mathlib.Logic.Function.Basic
import Mathlib.Tactic.Common

/-!
# Attempts to claim a stack of devices

`device_claim` and `device_release` on devices of every type, with bridges whose members are on
other devices and devices that hear of it when the bridge below is gone. Whoever else listens to
the events of a device claims and releases nothing.
-/

namespace Netifd.ClaimAttempts

inductive Kind
  | simple | vlan | macvlan | vlandev | veth | tunnel | bridge
  deriving DecidableEq

/-- The device hears whether the one below is there, and is there just when that is. -/
def Kind.follows : Kind → Bool
  | .vlan | .macvlan | .vlandev => true
  | _ => false

/-- The user that `d` has of `e`, or one like an interface. -/
inductive User
  | dep (d e : ℕ)
  | other (i : ℕ)
  deriving DecidableEq

/-- What does not change. The devices that a bridge may have as members are below it, and at most
one device is below any other; `withheld` stands for `disabled` or `deferred`. -/
structure Stack where
  kind : ℕ → Kind
  external : ℕ → Bool
  withheld : ℕ → Bool
  bridgeEmpty : ℕ → Bool
  hotplug : ℕ → ℕ → Bool
  below : ℕ → List ℕ
  target : ℕ → Option ℕ
  users : ℕ → List User
  size : ℕ
  below_lt : ∀ d, ∀ e ∈ below d, e < d
  lt_size : ∀ d, ∀ e ∈ below d, d < size
  users_nodup : ∀ e, (users e).Nodup
  dep_mem : ∀ d e x, User.dep d x ∈ users e ↔ x = e ∧ e ∈ below d
  other_mem : ∀ i e, User.other i ∈ users e ↔ target i = some e

/-- The device of a user. -/
def Stack.dev (s : Stack) : User → Option ℕ
  | .dep d e => if e ∈ s.below d then some e else none
  | .other i => s.target i

/-- The device that one which is no bridge is on. -/
def Stack.base (s : Stack) (d : ℕ) : Option ℕ := (s.below d).head?

/-- What netifd knows of a device: `link` is the one that it has made in the kernel (`active` of a
bridge), `attached` that a simple device has found its parent, and the rest is of a bridge. -/
structure Dev where
  active : ℤ := 0
  link : Bool := false
  attached : Bool := false
  members : List ℕ := []
  memPresent : ℕ → Bool := fun _ => false
  nPresent : ℤ := 0
  forceActive : Bool := false

/-- The devices, which of them are there, the users, and how often the kernel was asked. -/
structure World where
  dev : ℕ → Dev
  sysPresent : ℕ → Bool
  present : ℕ → Bool
  claimed : User → Bool
  asked : ℕ := 0

/-- What the kernel answers at some moment. -/
structure Kernel where
  errno : ℕ → ℕ
  ifindex : ℕ → ℕ
  parent : ℕ → Bool
  addif : ℕ → ℕ → Bool

namespace World

/-- Change one device. -/
def map (w : World) (d : ℕ) (f : Dev → Dev) : World :=
  { w with dev := Function.update w.dev d (f (w.dev d)) }

/-- `dep->claimed = claimed`. -/
def mark (w : World) (u : User) (claimed : Bool) : World :=
  { w with claimed := Function.update w.claimed u claimed }

/-- `dep->claimed = claimed`, with the count of the device changed. -/
def recount (w : World) (u : User) (d : ℕ) (claimed : Bool) (active : ℤ) : World :=
  (w.map d fun x => { x with active }).mark u claimed

def setLink (w : World) (d : ℕ) (b : Bool) : World := w.map d fun x => { x with link := b }

def attach (w : World) (d : ℕ) : World := w.map d fun x => { x with attached := true }

/-- `bm->present = true; bst->n_present++`. -/
def addPresent (w : World) (b m : ℕ) : World :=
  w.map b fun x =>
    { x with memPresent := Function.update x.memPresent m true, nPresent := x.nPresent + 1 }

/-- `bm->present = false; bst->n_present--`. -/
def removePresent (w : World) (b m : ℕ) : World :=
  w.map b fun x =>
    { x with memPresent := Function.update x.memPresent m false, nPresent := x.nPresent - 1 }

/-- The kernel is asked. -/
def ask (w : World) : World := { w with asked := w.asked + 1 }

end World

/-- The calls that other calls are made of. -/
inductive Call
  | claim (u : User)
  | release (u : User)
  | setState (d : ℕ) (state : Bool)
  | setPresent (d : ℕ) (state : Bool)

abbrev Answer := Option (ℤ × World)

/-- A call that says nothing. -/
def silent (w : World) : Answer := some (0, w)

def whenever (c : Prop) [Decidable c] (code : World → Answer) (w : World) : Answer :=
  if c then code w else silent w

section Code

variable (s : Stack) (k : ℕ → Kernel)

/-- `set_device_state`; a device whose index is not resolved cannot be brought up. -/
def setDeviceState (d : ℕ) (state : Bool) (w : World) : ℤ × World :=
  if state then (if (k w.asked).ifindex d = 0 then -1 else 0, w.ask) else (0, w)

/-- `system_vlan_add` and the like. -/
def systemLinkAdd (d : ℕ) (w : World) : ℤ × World :=
  (-((k w.asked).errno d), if (k w.asked).errno d = 0 then w.ask.setLink d true else w.ask)

-- a guarded call stops where a defect would be reached
variable (guarded : Bool) (call : Call → World → Answer)

/-- The device is brought up, or the index of an external one is looked for. -/
def bringUp (d : ℕ) (w : World) : Answer :=
  if s.external d then some (setDeviceState k d true w) else call (.setState d true) w

def deviceClaim (u : User) (w : World) : Answer :=
  if w.claimed u then some (0, w)
  else
    match s.dev u with
    | none => some (-1, w)
    | some d =>
      let w := w.recount u d true ((w.dev d).active + 1)
      if (w.dev d).active ≠ 1 then some (0, w)
      else do
        let (ret, w) ← bringUp s k call d w
        if ret = 0 then some (0, w)
        else some (ret, w.recount u d false 0)

def deviceRelease (u : User) (w : World) : Answer :=
  if w.claimed u then
    match s.dev u with
    | none => none
    | some d =>
      let w := w.recount u d false ((w.dev d).active - 1)
      -- the assertion
      if (w.dev d).active < 0 then none
      else if (w.dev d).active ≠ 0 ∨ s.external d then silent w
      else do
        let (_, w) ← call (.setState d false) w
        silent w
  else silent w

/-- `dev->parent.dev` of a simple device. -/
def pdev (d : ℕ) (w : World) : Option ℕ := if (w.dev d).attached then s.base d else none

/-- The parent of a simple device is looked for. -/
def systemIfGetParent (d : ℕ) (w : World) : World :=
  if (k w.asked).parent d ∧ (s.base d).isSome then w.ask.attach d else w.ask

def findParent (d : ℕ) (state : Bool) (w : World) : World :=
  if state ∧ (pdev s d w).isNone then systemIfGetParent s k d w else w

/-- `simple_device_set_state`. A claim on the parent is not given back when the device cannot be
brought up itself. -/
def simpleDeviceSetState (d : ℕ) (state : Bool) (w : World) : Answer :=
  let w := findParent s k d state w
  match pdev s d w with
  | none => some (setDeviceState k d state w)
  | some p =>
    if state then do
      let (ret, w) ← call (.claim (.dep d p)) w
      if ret < 0 then some (ret, w)
      else
        let up := setDeviceState k d true w
        if guarded ∧ up.1 ≠ 0 then none else some up
    else do
      let (_, w) ← call (.release (.dep d p)) w
      some (setDeviceState k d false w)

/-- The steps that `macvlan_set_up` and `vlandev_set_up` share. -/
def stackedSetUp (d p : ℕ) (w : World) : Answer := do
  let (ret, w) ← call (.claim (.dep d p)) w
  if ret < 0 then some (ret, w)
  else
    let add := systemLinkAdd k d w
    if add.1 < 0 then do
      let (_, w) ← call (.release (.dep d p)) add.2
      some (add.1, w)
    else
      let up := setDeviceState k d true add.2
      if up.1 ≠ 0 then do
        let (_, w) ← call (.release (.dep d p)) (up.2.setLink d false)
        some (up.1, w)
      else some up

/-- The steps of `macvlan_set_down`, `vlandev_set_down` and `vlan_set_device_state`. -/
def stackedSetDown (d p : ℕ) (w : World) : Answer := do
  let (_, w) ← call (.release (.dep d p)) ((setDeviceState k d false w).2.setLink d false)
  silent w

/-- `vlan_set_device_state` with `up`: a link that was made is not deleted when the device cannot
be brought up. -/
def vlanSetUp (d p : ℕ) (w : World) : Answer := do
  let (ret, w) ← call (.claim (.dep d p)) w
  if ret < 0 then some (ret, w)
  else
    let add := systemLinkAdd k d w
    let up := setDeviceState k d true add.2
    if up.1 ≠ 0 then
      if guarded ∧ add.1 = 0 then none
      else do
        let (_, w) ← call (.release (.dep d p)) up.2
        some (up.1, w)
    else some up

/-- The callback of a device on another one. -/
def stackedSetState (d : ℕ) (up : Bool) (w : World) : Answer :=
  match s.base d with
  | none => some (if up then (-1, w) else (0, w.setLink d false))
  | some p =>
    if up then
      if s.kind d = .vlan then vlanSetUp k guarded call d p w else stackedSetUp k call d p w
    else stackedSetDown k call d p w

def vethSetState (d : ℕ) (up : Bool) (w : World) : Answer :=
  if up then
    let add := systemLinkAdd k d w
    if add.1 < 0 then some add
    else
      let up := setDeviceState k d true add.2
      if up.1 ≠ 0 then some (up.1, up.2.setLink d false) else some up
  else silent ((setDeviceState k d false w).2.setLink d false)

def tunnelSetState (d : ℕ) (up : Bool) (w : World) : Answer :=
  let add := if up then systemLinkAdd k d w else (0, w)
  if add.1 ≠ 0 then some add
  else
    let ret := setDeviceState k d up add.2
    some (if ret.1 ≠ 0 ∨ !up then (ret.1, ret.2.setLink d false) else ret)

end Code

section Bridge

variable (s : Stack) (k : ℕ → Kernel) (guarded : Bool) (call : Call → World → Answer)

/-- `bridge_enable_interface`. -/
def bridgeEnableInterface (b : ℕ) (w : World) : ℤ × World :=
  if (w.dev b).link then (0, w) else systemLinkAdd k b w

def bridgeDisableInterface (b : ℕ) (w : World) : World := w.setLink b false

/-- The error path of `bridge_enable_member`. -/
def enableFailed (b m : ℕ) (ret : ℤ) (w : World) : Answer := do
  let (_, w) ← call (.release (.dep b m)) (w.removePresent b m)
  some (ret, w)

def bridgeEnableMember (b m : ℕ) (w : World) : Answer :=
  if (w.dev b).memPresent m = false then silent w
  else
    let enable := bridgeEnableInterface k b w
    if enable.1 ≠ 0 then enableFailed call b m enable.1 enable.2
    else do
      let (ret, w) ← call (.claim (.dep b m)) enable.2
      if ret < 0 then enableFailed call b m ret w
      else if (k w.asked).addif b m then do
        let (_, w) ← call (.setPresent b true) w.ask
        silent w
      else enableFailed call b m (-1) w.ask

def bridgeDisableMember (b m : ℕ) (w : World) : Answer :=
  whenever ((w.dev b).memPresent m) (call (.release (.dep b m))) w

/-- The end of `bridge_remove_member`. -/
def memberRemoved (b : ℕ) (w : World) : Answer :=
  if s.bridgeEmpty b then silent w
  else
    let w := w.map b fun x => { x with forceActive := false }
    whenever ((w.dev b).nPresent = 0) (call (.setPresent b false)) w

def bridgeRemoveMember (b m : ℕ) (w : World) : Answer :=
  if (w.dev b).memPresent m = false then silent w
  else do
    let (_, w) ← whenever ((w.dev b).active ≠ 0) (bridgeDisableMember call b m) w
    memberRemoved s call b (w.removePresent b m)

/-- `vlist_delete` for a member, and `bridge_free_member`. -/
def deleteMember (b m : ℕ) (w : World) : Answer := do
  let w := w.map b fun x => { x with members := x.members.erase m }
  let (_, w) ← bridgeRemoveMember s call b m w
  let (_, w) ← call (.release (.dep b m)) w
  if w.present m then do
    let (_, w) ← call (.setPresent m false) w
    call (.setPresent m true) w
  else silent w

/-- `bridge_member_cb`. The assertion is that a member that appears was not present. -/
def bridgeMemberCb (b m : ℕ) (add : Bool) (w : World) : Answer :=
  if add then
    if (w.dev b).memPresent m then none
    else do
      let w := w.addPresent b m
      let (_, w) ← whenever ((w.dev b).nPresent = 1) (call (.setPresent b true)) w
      whenever ((w.dev b).active ≠ 0) (bridgeEnableMember k call b m) w
  else if guarded ∧ (w.dev b).active ≠ 0 ∧ (w.dev b).memPresent m then none
  else if s.hotplug b m then deleteMember s call b m w
  else bridgeRemoveMember s call b m w

/-- The callback of a user, for a device that appears or is gone. -/
def deviceBroadcastCb (add : Bool) (w : World) : User → Answer
  | .other _ => silent w
  | .dep d e =>
    if s.kind d = .bridge then
      whenever (e ∈ (w.dev d).members) (bridgeMemberCb s k guarded call d e add) w
    else whenever ((s.kind d).follows) (call (.setPresent d add)) w

/-- Some calls one after another, whatever they return. -/
def forEach {α : Type} (code : World → α → Answer) : List α → World → Answer
  | [], w => silent w
  | x :: xs, w => do
    let (_, w) ← code w x
    forEach code xs w

/-- `device_set_present`. -/
def deviceSetPresent (d : ℕ) (state : Bool) (w : World) : Answer :=
  if w.sysPresent d = state then silent w
  else
    let w := { w with sysPresent := Function.update w.sysPresent d state }
    let shown := state && !s.withheld d
    if w.present d = shown then silent w
    else
      let w := { w with present := Function.update w.present d shown }
      forEach (deviceBroadcastCb s k guarded call shown) (s.users d) w

/-- `vlist_for_each_element`; a member may have been deleted in between. -/
def forEachMember (b : ℕ) (code : ℕ → World → Answer) (w : World) : Answer :=
  forEach (fun w m => whenever (m ∈ (w.dev b).members) (code m) w) (w.dev b).members w

def bridgeSetDown (b : ℕ) (w : World) : Answer := do
  let (_, w) ← forEachMember b (bridgeDisableMember call b) (setDeviceState k b false w).2
  silent (bridgeDisableInterface b w)

/-- `bridge_set_up`, from the loop over the members on. -/
def bridgeSetUpMembers (b : ℕ) (w : World) : Answer := do
  let (_, w) ← forEachMember b (bridgeEnableMember k call b) w
  if (w.dev b).forceActive = false ∧ (w.dev b).nPresent = 0 then do
    let (_, w) ← call (.setPresent b false) (bridgeDisableInterface b w)
    some (-2, w)
  else
    let up := setDeviceState k b true w
    if up.1 < 0 then do
      let (_, w) ← bridgeSetDown k call b up.2
      some (up.1, w)
    else some up

def bridgeSetUp (b : ℕ) (w : World) : Answer :=
  if (w.dev b).nPresent = 0 then
    if (w.dev b).forceActive = false then some (-2, w)
    else
      let enable := bridgeEnableInterface k b w
      if enable.1 ≠ 0 then some enable else bridgeSetUpMembers k call b enable.2
  else bridgeSetUpMembers k call b w

def bridgeSetState (b : ℕ) (up : Bool) (w : World) : Answer :=
  if up then bridgeSetUp k call b w else bridgeSetDown k call b w

/-- `dev->set_state`. -/
def setState (d : ℕ) (up : Bool) (w : World) : Answer :=
  match s.kind d with
  | .simple => simpleDeviceSetState s k guarded call d up w
  | .vlan | .macvlan | .vlandev => stackedSetState s k guarded call d up w
  | .veth => vethSetState k d up w
  | .tunnel => tunnelSetState k d up w
  | .bridge => bridgeSetState k call d up w

/-- What each call does, with the calls that it makes. -/
def body : Call → World → Answer
  | .claim u, w => deviceClaim s k call u w
  | .release u, w => deviceRelease s call u w
  | .setState d state, w => setState s k guarded call d state w
  | .setPresent d state, w => deviceSetPresent s k guarded call d state w

end Bridge

/-- Calls that are nested no deeper than `n`. -/
def exec (s : Stack) (k : ℕ → Kernel) (guarded : Bool) : ℕ → Call → World → Answer
  | 0, _, _ => none
  | n + 1, c, w => body s k guarded (exec s k guarded n) c w

end Netifd.ClaimAttempts
