import Netifd.ShellProtocol

/-!
# Host dependencies

A shell protocol may depend on hosts, each of which has to be reached through an interface that is
up. A dependency that has found its interface listens to that one, by `proto_shell_if_down_cb`;
until then it listens to all interfaces, by `proto_shell_if_up_cb`. While listeners are told of an
event anything may happen to any interface.
-/

namespace Netifd.HostDependencies
open ReentrantProgram ReentrantProgram.Prog

/-- `struct proto_shell_dependency` with its `dep`, which has one of two callbacks. -/
structure Dependency (ι : Type) where
  proto : ℕ := 0
  interface : Option ι := none
  any : Bool := false
  iface : Option ℕ := none
  downCb : Bool := false
  live : Bool := false

/-- The part of `struct interface` that dependencies rest on, with the `deps` of its protocol,
which takes messages if it is a shell protocol. -/
structure Interface (ι : Type) where
  name : Option ι := none
  state : InterfaceState := .down
  available : Bool := false
  users : List ℕ := []
  shell : Bool := false
  deps : List ℕ := []
  live : Bool := false

/-- All interfaces and dependencies that there ever were, by the order of their allocation, and
`iface_all_users`. The last field tells whether a list of listeners was gone through over an entry
that had left it, or an interface was freed that somebody still listened to or whose protocol had
got dependencies again meanwhile. -/
structure System (ι : Type) where
  iface : ℕ → Interface ι := fun _ => {}
  next : ℕ := 0
  dep : ℕ → Dependency ι := fun _ => {}
  nextDep : ℕ := 0
  allUsers : List ℕ := []
  astray : Bool := false

/-- The calls from outside, and the loops of `interface_event` from a listener on. -/
inductive Call (ι : Type)
  | add (name : ι)
  | free (a : ℕ)
  | reload (a : ℕ)
  | setUp (a : ℕ)
  | setDown (a : ℕ)
  | markDown (a : ℕ)
  | available (a : ℕ) (state : Bool)
  | protoEvent (a : ℕ) (ev : InterfaceProtoEvent)
  | linkUp (a : ℕ)
  | addDependency (a : ℕ) (name : Option ι) (noHost : Bool)
  | tell (inUsers : Bool) (a : ℕ) (ev : InterfaceEvent) (d : ℕ)

/-- What may happen at any time. -/
def Call.isOutside {ι : Type} : Call ι → Bool
  | .tell _ _ _ _ => false
  | _ => true

/-- Calls from outside come at any time. -/
def anyCall {ι : Type} : Call ι → System ι → Bool := fun p _ => p.isOutside

/-- The runs of the code that are considered: all of them, or only those in which the routes to a
host lead through interfaces that are up, and no interface is up when its state is set to another
one without an event. -/
inductive Discipline
  | any
  | guarded
  deriving DecidableEq

section Code

variable {ι : Type}

/-- Change one interface. -/
def System.mapIface (w : System ι) (a : ℕ) (f : Interface ι → Interface ι) : System ι :=
  { w with iface := fun b => if b = a then f (w.iface b) else w.iface b }

/-- Change one dependency. -/
def System.mapDep (w : System ι) (d : ℕ) (f : Dependency ι → Dependency ι) : System ι :=
  { w with dep := fun e => if e = d then f (w.dep e) else w.dep e }

/-- The interface is in the state `IFS_UP`. -/
def System.up (w : System ι) (a : ℕ) : Bool := (w.iface a).state == .up

/-- `interface_remove_user`, which takes the entry off the list that it is on. -/
def removeUser (w : System ι) (d : ℕ) : System ι :=
  { w with
    iface := fun b => { w.iface b with users := (w.iface b).users.erase d }
    dep := fun e => if e = d then { w.dep e with iface := none } else w.dep e
    allUsers := w.allUsers.erase d }

/-- `interface_add_user` for all interfaces, with `proto_shell_if_up_cb`. -/
def listenToAll (w : System ι) (d : ℕ) : System ι :=
  { w.mapDep d fun x => { x with downCb := false } with allUsers := d :: w.allUsers }

/-- `interface_add_user` for one interface, with `proto_shell_if_down_cb`, which does nothing if
it is told that the interface is up. -/
def listenTo (w : System ι) (d i : ℕ) : System ι :=
  (w.mapDep d fun x => { x with iface := some i, downCb := true }).mapIface i fun x =>
    { x with users := d :: x.users }

/-- One turn of `proto_shell_clear_host_dep`. -/
def clearOne (w : System ι) (d : ℕ) : System ι :=
  let w := removeUser w d
  let w := w.mapIface (w.dep d).proto fun x => { x with deps := x.deps.erase d }
  w.mapDep d fun x => { x with live := false }

/-- `proto_shell_clear_host_dep`. -/
def clearHostDep (w : System ι) (a : ℕ) : System ι := (w.iface a).deps.foldl clearOne w

/-- A new dependency, which listens to all interfaces at first. -/
def newDependency (w : System ι) (a : ℕ) (name : Option ι) (any : Bool) : System ι :=
  { w.mapIface a fun x => { x with deps := w.nextDep :: x.deps } with
    dep := fun e =>
      if e = w.nextDep then { proto := a, interface := name, any, live := true } else w.dep e
    nextDep := w.nextDep + 1
    allUsers := w.nextDep :: w.allUsers }

/-- The list that is gone through. -/
def System.listeners (w : System ι) (inUsers : Bool) (a : ℕ) : List ℕ :=
  if inUsers then (w.iface a).users else w.allUsers

/-- The entry after another one. -/
def nextEntry (l : List ℕ) (d : ℕ) : Option ℕ := (l.dropWhile (· ≠ d)).tail.head?

def setState (a : ℕ) (state : InterfaceState) : Prog (System ι) (Call ι) Unit :=
  modify fun w => w.mapIface a fun x => { x with state }

/-- What happens elsewhere. -/
def elsewhere : Prog (System ι) (Call ι) Unit := callbacks Call.isOutside

/-- One of the loops of `interface_event`. -/
def tellListeners (inUsers : Bool) (a : ℕ) (ev : InterfaceEvent) :
    Prog (System ι) (Call ι) Unit := do
  let w ← read
  match w.listeners inUsers a with
  | [] => pure ()
  | d :: _ => do
    let _ ← invoke (.tell inUsers a ev d)
    pure ()

/-- `interface_event`; at its end `alias_notify_device` may change devices. -/
def interfaceEvent (a : ℕ) (ev : InterfaceEvent) : Prog (System ι) (Call ι) Unit := do
  tellListeners true a ev
  tellListeners false a ev
  elsewhere

def markInterfaceDown (a : ℕ) : Prog (System ι) (Call ι) Unit := do
  let w ← read
  if (w.iface a).state = .down then pure ()
  else
    setState a .down
    if (w.iface a).state = .up then interfaceEvent a .down
    elsewhere

def interfaceSetDown (a : ℕ) : Prog (System ι) (Call ι) Unit := do
  let w ← read
  match (w.iface a).state with
  | .up => do
    setState a .teardown
    interfaceEvent a .down
    elsewhere
  | .setup => do
    setState a .teardown
    elsewhere
  | _ => elsewhere

/-- `interface_set_available`. -/
def setAvailable (a : ℕ) (state : Bool) : Prog (System ι) (Call ι) Unit := do
  let w ← read
  if (w.iface a).available = state then pure ()
  else
    modify fun w => w.mapIface a fun x => { x with available := state }
    if state then elsewhere else interfaceSetDown a

/-- `__interface_set_up`. Only a handler that is idle clears its dependencies. -/
def interfaceSetUp (a : ℕ) : Prog (System ι) (Call ι) Unit := do
  setState a .setup
  let idle ← ask
  if idle ≠ 0 then modify fun w => clearHostDep w a
  elsewhere
  let ret ← ask
  if ret ≠ 0 then markInterfaceDown a

/-- `proto_shell_check_dependencies`. -/
def checkDependencies (a : ℕ) : Prog (System ι) (Call ι) Unit := do
  let w ← read
  setAvailable a ((w.iface a).deps.all fun d => (w.dep d).iface.isSome)

variable [DecidableEq ι]

/-- `vlist_find` in `interfaces`. -/
def System.find (w : System ι) (name : ι) : Option ℕ :=
  (List.range w.next).find? fun i => (w.iface i).live && (w.iface i).name == some name

/-- The interface that a dependency names, which has to be up; there is none to be looked for if it
names none. -/
def System.candidate (w : System ι) (d : ℕ) : Option (Option ℕ) :=
  match (w.dep d).interface with
  | none => some none
  | some name =>
    match w.find name with
    | none => none
    | some i => if w.up i then some (some i) else none

/-- `interface_ip_add_target_route`: a route through the given interface, or through any one. -/
def targetRoute (iface : Option ℕ) : Prog (System ι) (Call ι) (Option ℕ) := do
  let w ← read
  let n ← ask
  match n, iface with
  | 0, _ => pure none
  | _ + 1, some i => pure (some i)
  | n + 1, none => do
    require (w.iface n).live
    pure (some n)

/-- The interface of a dependency that `proto_shell_update_host_dep` finds. -/
def findHost (d : ℕ) : Prog (System ι) (Call ι) (Option ℕ) := do
  let w ← read
  match w.candidate d with
  | none => pure none
  | some iface => if (w.dep d).any then pure iface else targetRoute iface

/-- `proto_shell_update_host_dep`. -/
def updateHostDep (m : Discipline) (d : ℕ) : Prog (System ι) (Call ι) Unit := do
  let w ← read
  if (w.dep d).iface = none then
    match ← findHost d with
    | none => pure ()
    | some i => do
      let w ← read
      require (m = .any || w.up i)
      modify fun w => listenTo (removeUser w d) d i
  let w ← read
  checkDependencies (w.dep d).proto

/-- `proto_shell_if_up_cb`. -/
def ifUpCb (m : Discipline) (d : ℕ) (ev : InterfaceEvent) : Prog (System ι) (Call ι) Unit :=
  if ev = .up ∨ ev = .update then updateHostDep m d else pure ()

/-- `proto_shell_if_down_cb`. If the handler is idle the interface of the protocol loses its
connection and is torn down. -/
def ifDownCb (d : ℕ) (ev : InterfaceEvent) : Prog (System ι) (Call ι) Unit := do
  if ev = .up ∨ ev = .update then pure ()
  else
    modify fun w => listenToAll (removeUser w d) d
    let idle ← ask
    if idle ≠ 0 then
      let w ← read
      let _ ← invoke (.protoEvent (w.dep d).proto .linkLost)
      elsewhere

/-- The callback of a listener. -/
def callback (m : Discipline) (d : ℕ) (ev : InterfaceEvent) : Prog (System ι) (Call ι) Unit := do
  let w ← read
  if (w.dep d).downCb then ifDownCb d ev else ifUpCb m d ev

/-- `interface_event` from a listener on: the entry after it is looked up before it is told. -/
def tellFrom (m : Discipline) (inUsers : Bool) (a : ℕ) (ev : InterfaceEvent) (d : ℕ) :
    Prog (System ι) (Call ι) Unit := do
  let w ← read
  callback m d ev
  elsewhere
  match nextEntry (w.listeners inUsers a) d with
  | none => pure ()
  | some n => do
    let w ← read
    if n ∈ w.listeners inUsers a then
      let _ ← invoke (.tell inUsers a ev n)
      pure ()
    else modify fun w => { w with astray := true }

/-- `proto_shell_add_host_dependency`; the host may be no address. -/
def addHostDependency (m : Discipline) (a : ℕ) (name : Option ι) (noHost : Bool) :
    Prog (System ι) (Call ι) ℤ := do
  let closing ← ask
  if closing ≠ 0 then pure ubusStatusPermissionDenied
  else
    let any := noHost && name.isSome
    let badHost ← ask
    if !any && badHost ≠ 0 then pure ubusStatusInvalidArgument
    else
      let w ← read
      let d := w.nextDep
      modify fun w => newDependency w a name any
      updateHostDep m d
      let w ← read
      if (w.dep d).iface = none then pure ubusStatusNotFound else pure 0

/-- `interface_proto_event_cb`. What an interface does when it goes down happens elsewhere. -/
def interfaceProtoEventCb (m : Discipline) (a : ℕ) :
    InterfaceProtoEvent → Prog (System ι) (Call ι) Unit
  | .up => do
    let w ← read
    if (w.iface a).state ≠ .setup then
      let updated ← ask
      if w.up a ∧ updated ≠ 0 then interfaceEvent a .update
    else
      elsewhere
      setState a .up
      interfaceEvent a .up
  | .down => do
    markInterfaceDown a
    elsewhere
  | .linkLost => do
    let w ← read
    if w.up a then
      markInterfaceDown a
      let w ← read
      require (m = .any || !w.up a)
      setState a .setup
  | .renew => pure ()

/-- `interface_cleanup_state`, in which the protocol is freed. -/
def interfaceCleanupState (m : Discipline) (a : ℕ) : Prog (System ι) (Call ι) Unit := do
  setAvailable a false
  elsewhere
  let w ← read
  require (m = .any || !w.up a)
  modify fun w => (clearHostDep w a).mapIface a fun x => { x with shell := false }
  setState a .down
  elsewhere

def interfaceDoReload (m : Discipline) (a : ℕ) : Prog (System ι) (Call ι) Unit := do
  interfaceEvent a .reload
  interfaceCleanupState m a
  let shell ← ask
  modify fun w => w.mapIface a fun x => { x with shell := shell ≠ 0 }
  elsewhere

def interfaceDoFree (m : Discipline) (a : ℕ) : Prog (System ι) (Call ι) Unit := do
  interfaceEvent a .free
  modify fun w =>
    { (w.iface a).users.foldl removeUser w with
      astray := w.astray || !(w.iface a).users.isEmpty }
  interfaceCleanupState m a
  modify fun w =>
    { w.mapIface a fun x => { x with live := false } with
      astray := w.astray || !(w.iface a).users.isEmpty || !(w.iface a).deps.isEmpty }

/-- `interface_update` for a new interface. -/
def interfaceAdd (name : ι) : Prog (System ι) (Call ι) Unit := do
  let w ← read
  if w.find name = none then
    let shell ← ask
    modify fun w =>
      { w.mapIface w.next fun _ =>
          { name := some name, shell := shell ≠ 0, live := true } with
        next := w.next + 1 }
    elsewhere

/-- Only an interface that is there can be called. -/
def whenLive (a : ℕ) (code : Prog (System ι) (Call ι) Unit) : Prog (System ι) (Call ι) Unit := do
  let w ← read
  if (w.iface a).live then code

/-- The body of each call. -/
def body (m : Discipline) : Call ι → Prog (System ι) (Call ι) ℤ
  | .add name => do interfaceAdd name; pure 0
  | .free a => do whenLive a (interfaceDoFree m a); pure 0
  | .reload a => do whenLive a (interfaceDoReload m a); pure 0
  | .setUp a => do
    let w ← read
    if (w.iface a).live ∧ (w.iface a).state = .down ∧ (w.iface a).available then interfaceSetUp a
    pure 0
  | .setDown a => do whenLive a (interfaceSetDown a); pure 0
  | .markDown a => do whenLive a (markInterfaceDown a); pure 0
  | .available a state => do whenLive a (setAvailable a state); pure 0
  | .protoEvent a ev => do whenLive a (interfaceProtoEventCb m a ev); pure 0
  | .linkUp a => do whenLive a (interfaceEvent a .linkUp); pure 0
  | .addDependency a name noHost => do
    let w ← read
    if (w.iface a).live && (w.iface a).shell then addHostDependency m a name noHost else pure 0
  | .tell inUsers a ev d => do tellFrom m inUsers a ev d; pure 0

end Code

section Facts

variable {ι : Type}

/-- A dependency with an interface is on the list of that one and of no other, and listens to it
going down; one on the list for all interfaces has none, and listens to any coming up. Freed
dependencies are on no list, and freed interfaces have no listeners. -/
structure Listed (w : System ι) : Prop where
  users : ∀ i d, d ∈ (w.iface i).users ↔ (w.dep d).iface = some i
  found : ∀ d i, (w.dep d).iface = some i →
    (w.dep d).downCb = true ∧ (w.dep d).live = true ∧ (w.iface i).live = true
  waiting : ∀ d ∈ w.allUsers,
    (w.dep d).live = true ∧ (w.dep d).iface = none ∧ (w.dep d).downCb = false
  deps : ∀ a d, d ∈ (w.iface a).deps ↔ (w.dep d).live = true ∧ (w.dep d).proto = a
  owner : ∀ a d, d ∈ (w.iface a).deps → (w.iface a).live = true
  nodupUsers : ∀ i, (w.iface i).users.Nodup
  nodupAll : w.allUsers.Nodup
  nodupDeps : ∀ a, (w.iface a).deps.Nodup
  nextDep : ∀ d, (w.dep d).live = true → d < w.nextDep
  next : ∀ i, (w.iface i).live = true → i < w.next

/-- Besides, every dependency that has found no interface waits for one. -/
structure Sound (w : System ι) : Prop extends Listed w where
  awaited : ∀ d, (w.dep d).live = true → (w.dep d).iface = none → d ∈ w.allUsers

/-- An interface that is not up has no listeners but those that it had before, if it was not up
then either. -/
def Settling (s t : System ι) : Prop :=
  ∀ i, t.up i = false → (t.iface i).users.Sublist (if s.up i then [] else (s.iface i).users)

/-- What all code does to the lists, unless it has gone astray. -/
def Follows (m : Discipline) (s t : System ι) : Prop :=
  t.astray = true ∨
    s.astray = false ∧ (Sound s → Sound t ∧ (m = .guarded → Settling s t))

variable {m : Discipline} {s t u w : System ι}

theorem Settling.refl (s : System ι) : Settling s s := by
  intro i hi
  rw [hi]
  exact .refl _

theorem Settling.trans (h : Settling s t) (h' : Settling t u) : Settling s u := by
  intro i hi
  have hu := h' i hi
  cases ht : t.up i with
  | true =>
    rw [ht, if_pos rfl, List.sublist_nil] at hu
    rw [hu]
    exact List.nil_sublist _
  | false =>
    rw [ht, if_neg (by simp)] at hu
    exact hu.trans (h i ht)

theorem Follows.refl (s : System ι) : Follows m s s := by
  cases hs : s.astray with
  | true => exact .inl hs
  | false => exact .inr ⟨hs, fun h => ⟨h, fun _ => .refl s⟩⟩

theorem Follows.trans (h : Follows m s t) (h' : Follows m t u) : Follows m s u := by
  rcases h' with hu | ⟨ht, hu⟩
  · exact .inl hu
  · rcases h with hs | ⟨hs, hst⟩
    · rw [ht] at hs
      cases hs
    · refine .inr ⟨hs, fun hlisted => ?_⟩
      obtain ⟨hmid, hsettling⟩ := hst hlisted
      obtain ⟨hlast, hsettling'⟩ := hu hmid
      exact ⟨hlast, fun hm => (hsettling hm).trans (hsettling' hm)⟩

theorem Follows.of_step (hastray : t.astray = s.astray)
    (h : Sound s → Sound t ∧ (m = .guarded → Settling s t)) : Follows m s t := by
  cases hs : s.astray with
  | true => exact .inl (hastray.trans hs)
  | false => exact .inr ⟨hs, h⟩

theorem Settling.of_sublist (hstate : ∀ i, t.up i = s.up i)
    (husers : ∀ i, s.up i = false → (t.iface i).users.Sublist (s.iface i).users) :
    Settling s t := by
  intro i hi
  rw [hstate] at hi
  rw [hi]
  exact husers i hi

/-- A change of an interface that leaves its lists alone and does not free it. -/
theorem Listed.mapIface (h : Listed w) (a : ℕ) {f : Interface ι → Interface ι}
    (hf : ∀ x, (f x).users = x.users ∧ (f x).deps = x.deps ∧ (f x).live = x.live) :
    Listed (w.mapIface a f) := by
  have hone (i : ℕ) : ((w.mapIface a f).iface i).users = (w.iface i).users ∧
      ((w.mapIface a f).iface i).deps = (w.iface i).deps ∧
      ((w.mapIface a f).iface i).live = (w.iface i).live := by
    by_cases hi : i = a <;> simp [System.mapIface, hi, hf]
  constructor
  · intro i d
    rw [(hone i).1]
    exact h.users i d
  · intro d i
    rw [(hone i).2.2]
    exact h.found d i
  · exact h.waiting
  · intro b d
    rw [(hone b).2.1]
    exact h.deps b d
  · intro b d
    rw [(hone b).2.1, (hone b).2.2]
    exact h.owner b d
  · intro i
    rw [(hone i).1]
    exact h.nodupUsers i
  · exact h.nodupAll
  · intro b
    rw [(hone b).2.1]
    exact h.nodupDeps b
  · exact h.nextDep
  · intro i
    rw [(hone i).2.2]
    exact h.next i

theorem Sound.mapIface (h : Sound w) (a : ℕ) {f : Interface ι → Interface ι}
    (hf : ∀ x, (f x).users = x.users ∧ (f x).deps = x.deps ∧ (f x).live = x.live) :
    Sound (w.mapIface a f) :=
  ⟨h.toListed.mapIface a hf, h.awaited⟩

@[simp] theorem mapIface_astray (w : System ι) (a : ℕ) (f : Interface ι → Interface ι) :
    (w.mapIface a f).astray = w.astray := rfl

theorem follows_mapIface (w : System ι) (a : ℕ) {f : Interface ι → Interface ι}
    (hf : ∀ x, (f x).users = x.users ∧ (f x).deps = x.deps ∧ (f x).live = x.live)
    (hstate : ∀ x, (f x).state = x.state) : Follows m w (w.mapIface a f) := by
  refine .of_step rfl fun h => ⟨h.mapIface a hf, fun _ => .of_sublist (fun i => ?_) fun i _ => ?_⟩
  · by_cases hi : i = a <;> simp [System.up, System.mapIface, hi, hstate]
  · by_cases hi : i = a <;> simp [System.mapIface, hi, hf]

theorem removeUser_iface (w : System ι) (d b : ℕ) : (removeUser w d).iface b =
    { w.iface b with users := (w.iface b).users.erase d } := rfl

theorem removeUser_dep (w : System ι) (d e : ℕ) : (removeUser w d).dep e =
    if e = d then { w.dep e with iface := none } else w.dep e := rfl

theorem mem_removeUser (h : Listed w) (d e i : ℕ) :
    e ∈ ((removeUser w d).iface i).users ↔ e ∈ (w.iface i).users ∧ e ≠ d := by
  rw [removeUser_iface, (h.nodupUsers i).mem_erase_iff, and_comm]

theorem Listed.removeUser (h : Listed w) (d : ℕ) : Listed (removeUser w d) := by
  have hdep (e : ℕ) : ((HostDependencies.removeUser w d).dep e).live = (w.dep e).live ∧
      ((HostDependencies.removeUser w d).dep e).proto = (w.dep e).proto ∧
      ((HostDependencies.removeUser w d).dep e).downCb = (w.dep e).downCb := by
    rw [removeUser_dep]
    split_ifs <;> exact ⟨rfl, rfl, rfl⟩
  constructor
  · intro i e
    rw [mem_removeUser h, removeUser_dep, h.users i e]
    by_cases he : e = d <;> simp [he]
  · intro e i
    rw [removeUser_dep]
    split_ifs with he
    · intro hnone
      cases hnone
    · exact h.found e i
  · intro e he
    obtain ⟨hne, hmem⟩ := (h.nodupAll.mem_erase_iff).mp he
    rw [removeUser_dep, if_neg hne]
    exact h.waiting e hmem
  · intro a e
    rw [(hdep e).1, (hdep e).2.1]
    exact h.deps a e
  · exact h.owner
  · exact fun i => (h.nodupUsers i).erase d
  · exact h.nodupAll.erase d
  · exact h.nodupDeps
  · intro e
    rw [(hdep e).1]
    exact h.nextDep e
  · exact h.next

/-- A dependency that is on no list may listen to all interfaces. -/
theorem Listed.listenToAll (h : Listed w) {d : ℕ} (hlive : (w.dep d).live = true)
    (hiface : (w.dep d).iface = none) (hall : d ∉ w.allUsers) : Listed (listenToAll w d) := by
  have hdep (e : ℕ) : (HostDependencies.listenToAll w d).dep e =
      if e = d then { w.dep e with downCb := false } else w.dep e := rfl
  have hsame (e : ℕ) : ((HostDependencies.listenToAll w d).dep e).live = (w.dep e).live ∧
      ((HostDependencies.listenToAll w d).dep e).proto = (w.dep e).proto ∧
      ((HostDependencies.listenToAll w d).dep e).iface = (w.dep e).iface := by
    rw [hdep]
    split_ifs <;> exact ⟨rfl, rfl, rfl⟩
  constructor
  · intro i e
    rw [(hsame e).2.2]
    exact h.users i e
  · intro e i hi
    rw [(hsame e).2.2] at hi
    have hne : e ≠ d := by
      rintro rfl
      rw [hiface] at hi
      cases hi
    rw [hdep, if_neg hne]
    exact h.found e i hi
  · intro e he
    rcases List.mem_cons.mp he with rfl | hmem
    · rw [hdep, if_pos rfl]
      exact ⟨hlive, hiface, rfl⟩
    · have hne : e ≠ d := fun heq => hall (heq ▸ hmem)
      rw [hdep, if_neg hne]
      exact h.waiting e hmem
  · intro a e
    rw [(hsame e).1, (hsame e).2.1]
    exact h.deps a e
  · exact h.owner
  · exact h.nodupUsers
  · exact List.nodup_cons.mpr ⟨hall, h.nodupAll⟩
  · exact h.nodupDeps
  · intro e
    rw [(hsame e).1]
    exact h.nextDep e
  · exact h.next

/-- A dependency that is on no list may listen to an interface that is there. -/
theorem Listed.listenTo (h : Listed w) {d i : ℕ} (hlive : (w.dep d).live = true)
    (hiface : (w.dep d).iface = none) (hall : d ∉ w.allUsers) (hi : (w.iface i).live = true) :
    Listed (listenTo w d i) := by
  have hdep (e : ℕ) : (HostDependencies.listenTo w d i).dep e =
      if e = d then { w.dep e with iface := some i, downCb := true } else w.dep e := rfl
  have hone (b : ℕ) : (HostDependencies.listenTo w d i).iface b =
      { w.iface b with users := if b = i then d :: (w.iface b).users else (w.iface b).users } := by
    by_cases hb : b = i <;> simp [HostDependencies.listenTo, System.mapIface, System.mapDep, hb]
  have hsame (e : ℕ) : ((HostDependencies.listenTo w d i).dep e).live = (w.dep e).live ∧
      ((HostDependencies.listenTo w d i).dep e).proto = (w.dep e).proto := by
    rw [hdep]
    split_ifs <;> exact ⟨rfl, rfl⟩
  have hnot (b : ℕ) : d ∉ (w.iface b).users := by
    rw [h.users, hiface]
    simp
  constructor
  · intro b e
    rw [hone, hdep]
    by_cases he : e = d
    · subst he
      by_cases hb : b = i
      · simp [hb]
      · simp [hb, hnot, Ne.symm hb]
    · by_cases hb : b = i <;> simp [he, hb, h.users]
  · intro e b
    rw [hdep, hone]
    by_cases he : e = d
    · rw [if_pos he]
      intro hib
      obtain rfl := Option.some.inj hib
      subst he
      exact ⟨rfl, hlive, hi⟩
    · rw [if_neg he]
      exact h.found e b
  · intro e he
    have hne : e ≠ d := fun heq => hall (heq ▸ he)
    rw [hdep, if_neg hne]
    exact h.waiting e he
  · intro a e
    rw [(hsame e).1, (hsame e).2, hone]
    exact h.deps a e
  · intro a e
    rw [hone]
    exact h.owner a e
  · intro b
    rw [hone]
    dsimp only
    split_ifs
    · exact List.nodup_cons.mpr ⟨hnot b, h.nodupUsers b⟩
    · exact h.nodupUsers b
  · exact h.nodupAll
  · intro b
    rw [hone]
    exact h.nodupDeps b
  · intro e
    rw [(hsame e).1]
    exact h.nextDep e
  · intro b
    rw [hone]
    exact h.next b

theorem removed_unlisted (h : Listed w) (d : ℕ) :
    ((removeUser w d).dep d).iface = none ∧ d ∉ (removeUser w d).allUsers := by
  refine ⟨by rw [removeUser_dep, if_pos rfl], fun hmem => ?_⟩
  exact ((h.nodupAll.mem_erase_iff).mp hmem).1 rfl

theorem mem_allUsers_removeUser (h : Listed w) {d e : ℕ} (hne : e ≠ d) :
    e ∈ (removeUser w d).allUsers ↔ e ∈ w.allUsers := by
  have herase : (removeUser w d).allUsers = w.allUsers.erase d := rfl
  rw [herase, h.nodupAll.mem_erase_iff]
  simp [hne]

theorem Sound.listenToAll (h : Sound w) {d : ℕ} (hlive : (w.dep d).live = true) :
    Sound (listenToAll (removeUser w d) d) := by
  obtain ⟨hiface, hall⟩ := removed_unlisted h.toListed d
  have hlive' : ((HostDependencies.removeUser w d).dep d).live = true := by
    rw [removeUser_dep, if_pos rfl]
    exact hlive
  refine ⟨(h.toListed.removeUser d).listenToAll hlive' hiface hall, fun e hlive hnone => ?_⟩
  by_cases he : e = d
  · exact he ▸ List.mem_cons_self
  · have hdep : (HostDependencies.listenToAll (HostDependencies.removeUser w d) d).dep e =
        w.dep e := by
      simp [HostDependencies.listenToAll, System.mapDep, removeUser_dep, he]
    rw [hdep] at hlive hnone
    exact List.mem_cons_of_mem d
      ((mem_allUsers_removeUser h.toListed he).mpr (h.awaited e hlive hnone))

theorem follows_listenToAll {d : ℕ} (hlive : Sound w → (w.dep d).live = true) :
    Follows m w (listenToAll (removeUser w d) d) :=
  .of_step rfl fun h => ⟨h.listenToAll (hlive h),
    fun _ => .of_sublist (fun _ => rfl) fun _ _ => List.erase_sublist⟩

theorem follows_listenTo {d i : ℕ} (hlive : Sound w → (w.dep d).live = true)
    (hi : Sound w → (w.iface i).live = true) (hup : m = .guarded → w.up i = true) :
    Follows m w (listenTo (removeUser w d) d i) := by
  refine .of_step rfl fun h => ?_
  obtain ⟨hiface, hall⟩ := removed_unlisted h.toListed d
  have hlive' : ((removeUser w d).dep d).live = true := by
    rw [removeUser_dep, if_pos rfl]
    exact hlive h
  have hlisted := (h.toListed.removeUser d).listenTo hlive' hiface hall (hi h)
  refine ⟨⟨hlisted, fun e he hnone => ?_⟩, fun hm => .of_sublist ?_ ?_⟩
  · have hne : e ≠ d := by
      rintro rfl
      simp [listenTo, System.mapIface, System.mapDep] at hnone
    have hdep : (listenTo (removeUser w d) d i).dep e = w.dep e := by
      simp [listenTo, System.mapIface, System.mapDep, removeUser_dep, hne]
    rw [hdep] at he hnone
    exact (mem_allUsers_removeUser h.toListed hne).mpr (h.awaited e he hnone)
  · intro b
    by_cases hb : b = i <;>
      simp [listenTo, System.mapIface, System.mapDep, System.up, removeUser, hb]
  · intro b hb
    have hne : b ≠ i := by
      rintro rfl
      rw [hup hm] at hb
      cases hb
    simp [listenTo, System.mapIface, System.mapDep, removeUser, hne, List.erase_sublist]

theorem clearOne_iface (w : System ι) (d b : ℕ) : (clearOne w d).iface b =
    { w.iface b with
      users := (w.iface b).users.erase d
      deps := if b = (w.dep d).proto then (w.iface b).deps.erase d else (w.iface b).deps } := by
  have hproto : ((removeUser w d).dep d).proto = (w.dep d).proto := by
    rw [removeUser_dep, if_pos rfl]
  unfold clearOne
  simp only [hproto]
  by_cases hb : b = (w.dep d).proto <;>
    simp [System.mapIface, System.mapDep, removeUser_iface, hb]

theorem clearOne_dep (w : System ι) (d e : ℕ) : (clearOne w d).dep e =
    if e = d then { w.dep e with iface := none, live := false } else w.dep e := by
  by_cases he : e = d <;>
    simp [clearOne, System.mapIface, System.mapDep, removeUser_dep, he]

theorem Listed.clearOne (h : Listed w) (d : ℕ) : Listed (clearOne w d) := by
  constructor
  · intro i e
    rw [clearOne_iface, clearOne_dep, (h.nodupUsers i).mem_erase_iff, h.users i e]
    by_cases he : e = d <;> simp [he]
  · intro e i
    rw [clearOne_iface, clearOne_dep]
    by_cases he : e = d
    · simp [he]
    · rw [if_neg he]
      exact h.found e i
  · intro e he
    obtain ⟨hne, hmem⟩ := (h.nodupAll.mem_erase_iff).mp he
    rw [clearOne_dep, if_neg hne]
    exact h.waiting e hmem
  · intro a e
    rw [clearOne_iface, clearOne_dep]
    by_cases he : e = d
    · subst he
      by_cases ha : a = (w.dep e).proto
      · simp [ha, (h.nodupDeps _).mem_erase_iff]
      · simp [ha, h.deps, Ne.symm ha]
    · by_cases ha : a = (w.dep d).proto
      · simp [he, ha, (h.nodupDeps _).mem_erase_iff, h.deps]
      · simp [he, ha, h.deps]
  · intro a e he
    rw [clearOne_iface] at he ⊢
    refine h.owner a e ?_
    dsimp only at he
    split_ifs at he
    · exact List.mem_of_mem_erase he
    · exact he
  · intro i
    rw [clearOne_iface]
    exact (h.nodupUsers i).erase d
  · exact h.nodupAll.erase d
  · intro a
    rw [clearOne_iface]
    dsimp only
    split_ifs
    · exact (h.nodupDeps a).erase d
    · exact h.nodupDeps a
  · intro e
    rw [clearOne_dep]
    by_cases he : e = d
    · simp [he]
    · rw [if_neg he]
      exact h.nextDep e
  · intro i
    rw [clearOne_iface]
    exact h.next i

theorem follows_clearOne (w : System ι) (d : ℕ) : Follows m w (clearOne w d) := by
  refine .of_step rfl fun h => ⟨⟨h.toListed.clearOne d, fun e he hnone => ?_⟩,
    fun _ => .of_sublist (fun i => ?_) fun i _ => ?_⟩
  · have hne : e ≠ d := by
      rintro rfl
      simp [clearOne_dep] at he
    rw [clearOne_dep, if_neg hne] at he hnone
    exact (mem_allUsers_removeUser h.toListed hne).mpr (h.awaited e he hnone)
  · rw [System.up, clearOne_iface]
    rfl
  · rw [clearOne_iface]
    exact List.erase_sublist

theorem follows_clearHostDep (w : System ι) (a : ℕ) : Follows m w (clearHostDep w a) := by
  have hfold : ∀ (l : List ℕ) (v : System ι), Follows m v (l.foldl clearOne v) := by
    intro l
    induction l with
    | nil => exact .refl
    | cons d l ih => exact fun v => (follows_clearOne v d).trans (ih _)
  exact hfold _ w

theorem follows_newDependency {a : ℕ} (name : Option ι) (any : Bool)
    (ha : (w.iface a).live = true) : Follows m w (newDependency w a name any) := by
  have hone (b : ℕ) : (newDependency w a name any).iface b = { w.iface b with
      deps := if b = a then w.nextDep :: (w.iface b).deps else (w.iface b).deps } := by
    by_cases hb : b = a <;> simp [newDependency, System.mapIface, hb]
  have hdep (e : ℕ) : (newDependency w a name any).dep e = if e = w.nextDep then
      { proto := a, interface := name, any, live := true } else w.dep e := rfl
  refine .of_step rfl fun h =>
    ⟨⟨?_, fun e he hnone => ?_⟩, fun _ => .of_sublist (fun i => ?_) fun i _ => ?_⟩
  · have hdead : (w.dep w.nextDep).live ≠ true := fun hlive =>
      Nat.lt_irrefl _ (h.nextDep w.nextDep hlive)
    have hunlisted (b : ℕ) : w.nextDep ∉ (w.iface b).users := fun hmem =>
      hdead (h.found _ b ((h.users b _).mp hmem)).2.1
    have hnotdep (b : ℕ) : w.nextDep ∉ (w.iface b).deps := fun hmem =>
      hdead ((h.deps b _).mp hmem).1
    have hnotall : w.nextDep ∉ w.allUsers := fun hmem => hdead (h.waiting _ hmem).1
    constructor
    · intro b e
      rw [hone, hdep]
      by_cases he : e = w.nextDep
      · simp [he, hunlisted]
      · rw [if_neg he]
        exact h.users b e
    · intro e b
      rw [hone, hdep]
      by_cases he : e = w.nextDep
      · simp [he]
      · rw [if_neg he]
        exact h.found e b
    · intro e he
      rcases List.mem_cons.mp he with rfl | hmem
      · simp [hdep]
      · have hne : e ≠ w.nextDep := fun heq => hnotall (heq ▸ hmem)
        rw [hdep, if_neg hne]
        exact h.waiting e hmem
    · intro b e
      rw [hone, hdep]
      by_cases he : e = w.nextDep
      · subst he
        by_cases hb : b = a
        · simp [hb]
        · simp [hb, hnotdep, Ne.symm hb]
      · by_cases hb : b = a <;> simp [he, hb, h.deps]
    · intro b e he
      rw [hone] at he ⊢
      by_cases hb : b = a
      · rw [hb]
        exact ha
      · rw [if_neg hb] at he
        exact h.owner b e he
    · intro b
      rw [hone]
      exact h.nodupUsers b
    · exact List.nodup_cons.mpr ⟨hnotall, h.nodupAll⟩
    · intro b
      rw [hone]
      by_cases hb : b = a
      · rw [if_pos hb]
        exact List.nodup_cons.mpr ⟨hnotdep b, h.nodupDeps b⟩
      · rw [if_neg hb]
        exact h.nodupDeps b
    · intro e
      rw [hdep]
      by_cases he : e = w.nextDep
      · intro _
        rw [he]
        exact Nat.lt_succ_self _
      · rw [if_neg he]
        exact fun hlive => Nat.lt_succ_of_lt (h.nextDep e hlive)
    · intro b
      rw [hone]
      exact h.next b
  · by_cases hnew : e = w.nextDep
    · exact hnew ▸ List.mem_cons_self
    · rw [hdep, if_neg hnew] at he hnone
      exact List.mem_cons_of_mem _ (h.awaited e he hnone)
  · rw [System.up, hone]
    rfl
  · rw [hone]

end Facts

end Netifd.HostDependencies
