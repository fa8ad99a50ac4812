import Netifd.InterfaceState
import Netifd.ReentrantProgram

/-!
# Alias interfaces

An alias interface listens to the interface that its `parent_ifname` names and takes over the
layer 3 device of that interface. A listener without an interface hears of all of them, which is
what an alias becomes if there is no such interface when it is claimed. While a listener is told
of an event, or a device changes hands, other interfaces may come up and go down; interfaces are
added, reloaded and freed by calls of their own.
-/

namespace Netifd.AliasInterfaces
open ReentrantProgram ReentrantProgram.Prog

/-- The part of `struct interface` that its listeners depend on. Names are of any type, and
devices are numbers other than zero. -/
structure Interface (ι : Type) where
  name : Option ι := none
  parentIfname : Option ι := none
  parentIface : Option ℕ := none
  users : List ℕ := []
  up : Bool := false
  available : Bool := false
  mainDev : Option ℕ := none
  l3Dev : Option ℕ := none
  live : Bool := false

/-- All interfaces that there ever were, by the order of their allocation, and
`iface_all_users`. The last field tells whether an event has given an alias any other device
than the layer 3 device of its parent. -/
structure Interfaces (ι : Type) where
  iface : ℕ → Interface ι := fun _ => {}
  next : ℕ := 0
  allUsers : List ℕ := []
  astray : Bool := false

/-- The calls: what comes from the configuration, and what happens to an interface. -/
inductive Call (ι : Type)
  | add (name : ι) (parent : Option ι)
  | reload (a : ℕ)
  | free (a : ℕ)
  | up (a : ℕ)
  | down (a : ℕ)
  | setL3 (a : ℕ) (dev : Option ℕ)
  | mainDev (a : ℕ) (present external : Bool)

/-- What may happen to other interfaces in the meantime. -/
def Call.isEvent {ι : Type} : Call ι → Bool
  | .up _ | .down _ | .setL3 _ _ | .mainDev _ _ _ => true
  | _ => false

/-- The runs of the code that are considered: all of them, or only those in which an alias is
claimed while there is an interface of the name of its parent. -/
inductive Discipline
  | any
  | guarded
  deriving DecidableEq

section Code

variable {ι : Type}

/-- Change one interface. -/
def Interfaces.map (w : Interfaces ι) (a : ℕ) (f : Interface ι → Interface ι) : Interfaces ι :=
  { w with iface := fun b => if b = a then f (w.iface b) else w.iface b }

/-- `interface_remove_user` for the listener of an alias. -/
def removeUser (w : Interfaces ι) (a : ℕ) : Interfaces ι :=
  let w' := match (w.iface a).parentIface with
    | some i => w.map i fun x => { x with users := x.users.erase a }
    | none => { w with allUsers := w.allUsers.erase a }
  w'.map a fun x => { x with parentIface := none }

/-- `interface_set_available`. -/
def setAvailable (a : ℕ) (state : Bool) : Prog (Interfaces ι) (Call ι) Unit := do
  let w ← read
  if (w.iface a).available = state then pure ()
  else
    modify fun w => w.map a fun x => { x with available := state }
    callbacks Call.isEvent

/-- `interface_set_l3_dev`. -/
def setL3Dev (a : ℕ) (dev : Option ℕ) : Prog (Interfaces ι) (Call ι) Unit := do
  let w ← read
  if (w.iface a).l3Dev = dev then pure ()
  else
    modify fun w => w.map a fun x => { x with l3Dev := dev }
    callbacks Call.isEvent

/-- `interface_set_main_dev`. -/
def setMainDev (a : ℕ) (dev : Option ℕ) : Prog (Interfaces ι) (Call ι) Unit := do
  let w ← read
  if (w.iface a).mainDev = dev then pure ()
  else
    setAvailable a false
    modify fun w => w.map a fun x => { x with mainDev := dev }
    callbacks Call.isEvent
    let w ← read
    if dev ≠ none ∧ (w.iface a).l3Dev = none then setL3Dev a dev

variable [DecidableEq ι]

/-- `vlist_find` in `interfaces`. -/
def Interfaces.find (w : Interfaces ι) (name : ι) : Option ℕ :=
  (List.range w.next).find? fun i => (w.iface i).live && (w.iface i).name == some name

/-- The device is the layer 3 device of the interface that the alias has as its parent. -/
def Interfaces.isParentDev (w : Interfaces ι) (a dev : ℕ) : Bool :=
  match (w.iface a).parentIfname.bind w.find with
  | none => false
  | some i => (w.iface i).l3Dev == some dev

def interfaceAliasCb (a i : ℕ) (ev : InterfaceEvent) : Prog (Interfaces ι) (Call ι) Unit := do
  let w ← read
  match ev with
  | .up =>
    match (w.iface i).l3Dev with
    | none => pure ()
    | some dev =>
      modify fun w => { w with astray := w.astray || !w.isParentDev a dev }
      setMainDev a (some dev)
      setAvailable a true
  | .down =>
    setAvailable a false
    setMainDev a none
  | .free => modify fun w => removeUser w a
  | _ => pure ()

/-- `interface_add_user` for the listener of an alias. -/
def addUser (a : ℕ) (parent : Option ℕ) : Prog (Interfaces ι) (Call ι) Unit := do
  match parent with
  | none => modify fun w => { w with allUsers := a :: w.allUsers }
  | some i =>
    modify fun w => (w.map a fun x => { x with parentIface := some i }).map i fun x =>
      { x with users := a :: x.users }
    let w ← read
    if (w.iface i).up then interfaceAliasCb a i .up

/-- One of the loops of `interface_event`. -/
def interfaceEventTo (i : ℕ) (ev : InterfaceEvent) : List ℕ → Prog (Interfaces ι) (Call ι) Unit
  | [] => pure ()
  | a :: as => do
    interfaceAliasCb a i ev
    interfaceEventTo i ev as

/-- `interface_event`; at its end `alias_notify_device` may change other devices. -/
def interfaceEvent (i : ℕ) (ev : InterfaceEvent) : Prog (Interfaces ι) (Call ι) Unit := do
  let w ← read
  interfaceEventTo i ev (w.iface i).users
  let w ← read
  interfaceEventTo i ev w.allUsers
  callbacks Call.isEvent

/-- The part of `interface_claim_device` under `device_lock`. The device of an interface that is no
alias is not known here. -/
def interfaceClaimLocked (m : Discipline) (a : ℕ) : Prog (Interfaces ι) (Call ι) Unit := do
  let w ← read
  match (w.iface a).parentIfname with
  | some p =>
    require (m = .any || (w.find p).isSome)
    addUser a (w.find p)
  | none =>
    let dev ← ask
    if dev ≠ 0 then setMainDev a (some dev)

/-- `interface_claim_device`; the protocol may make the interface available at once. -/
def interfaceClaimDevice (m : Discipline) (a : ℕ) : Prog (Interfaces ι) (Call ι) Unit := do
  let w ← read
  if (w.iface a).parentIface ≠ none then modify fun w => removeUser w a
  interfaceClaimLocked m a
  let initAvailable ← ask
  if initAvailable ≠ 0 then setAvailable a true

def interfaceCleanupState (a : ℕ) : Prog (Interfaces ι) (Call ι) Unit := do
  setAvailable a false
  modify fun w => w.map a fun x => { x with up := false }
  setMainDev a none
  setL3Dev a none

def interfaceCleanup (a : ℕ) : Prog (Interfaces ι) (Call ι) Unit := do
  let w ← read
  if (w.iface a).parentIface ≠ none then modify fun w => removeUser w a
  modify fun w => (w.iface a).users.foldl removeUser w
  interfaceCleanupState a

def interfaceDoFree (a : ℕ) : Prog (Interfaces ι) (Call ι) Unit := do
  interfaceEvent a .free
  interfaceCleanup a
  modify fun w => w.map a fun x => { x with live := false }

def interfaceDoReload (m : Discipline) (a : ℕ) : Prog (Interfaces ι) (Call ι) Unit := do
  interfaceEvent a .reload
  interfaceCleanupState a
  interfaceClaimDevice m a

/-- `interface_change_config`, up to the reload. -/
def interfaceChangeConfig (a : ℕ) (parent : Option ι) : Prog (Interfaces ι) (Call ι) Unit := do
  let w ← read
  if (w.iface a).parentIfname ≠ parent ∧ (w.iface a).parentIface ≠ none then
    modify fun w => removeUser w a
  modify fun w => w.map a fun x => { x with parentIfname := parent }
  callbacks Call.isEvent

/-- `interface_update` for an interface of the configuration. -/
def interfaceUpdate (m : Discipline) (name : ι) (parent : Option ι) :
    Prog (Interfaces ι) (Call ι) Unit := do
  let w ← read
  match w.find name with
  | some a => interfaceChangeConfig a parent
  | none =>
    modify fun w =>
      { w.map w.next fun _ => { name := some name, parentIfname := parent, live := true } with
        next := w.next + 1 }
    interfaceClaimDevice m w.next

/-- The interface comes up, as in `interface_proto_event_cb`. -/
def interfaceUp (a : ℕ) : Prog (Interfaces ι) (Call ι) Unit := do
  let w ← read
  if (w.iface a).l3Dev = none then setL3Dev a (w.iface a).mainDev
  modify fun w => w.map a fun x => { x with up := true }
  interfaceEvent a .up

/-- The interface goes down, as in `__interface_set_down` and `mark_interface_down`. -/
def interfaceDown (a : ℕ) : Prog (Interfaces ι) (Call ι) Unit := do
  let w ← read
  if (w.iface a).up then
    modify fun w => w.map a fun x => { x with up := false }
    interfaceEvent a .down

/-- `interface_main_dev_cb` for a device that appears or vanishes. -/
def interfaceMainDevCb (a : ℕ) (present external : Bool) : Prog (Interfaces ι) (Call ι) Unit := do
  setAvailable a present
  if !present && external then setMainDev a none

/-- Only an interface that is there can be called. -/
def whenLive (a : ℕ) (code : Prog (Interfaces ι) (Call ι) Unit) :
    Prog (Interfaces ι) (Call ι) Unit := do
  let w ← read
  if (w.iface a).live then code

/-- The body of each call. -/
def body (m : Discipline) : Call ι → Prog (Interfaces ι) (Call ι) ℤ
  | .add name parent => do interfaceUpdate m name parent; pure 0
  | .reload a => do whenLive a (interfaceDoReload m a); pure 0
  | .free a => do whenLive a (interfaceDoFree a); pure 0
  | .up a => do whenLive a (interfaceUp a); pure 0
  | .down a => do whenLive a (interfaceDown a); pure 0
  | .setL3 a dev => do whenLive a (setL3Dev a dev); pure 0
  | .mainDev a present external => do whenLive a (interfaceMainDevCb a present external); pure 0

end Code

section Facts

variable {ι : Type}

@[simp] theorem map_iface (w : Interfaces ι) (a b : ℕ) (f : Interface ι → Interface ι) :
    (w.map a f).iface b = if b = a then f (w.iface b) else w.iface b := rfl

@[simp] theorem map_next (w : Interfaces ι) (a : ℕ) (f : Interface ι → Interface ι) :
    (w.map a f).next = w.next := rfl

@[simp] theorem map_allUsers (w : Interfaces ι) (a : ℕ) (f : Interface ι → Interface ι) :
    (w.map a f).allUsers = w.allUsers := rfl

@[simp] theorem map_astray (w : Interfaces ι) (a : ℕ) (f : Interface ι → Interface ι) :
    (w.map a f).astray = w.astray := rfl

/-- Every listener of an alias is on the list of the interface of the name of its parent, and
none is on the list for all interfaces. -/
structure Following (w : Interfaces ι) : Prop where
  unique : ∀ i j, (w.iface i).live → (w.iface j).live → (w.iface i).name = (w.iface j).name → i = j
  allocated : ∀ i, (w.iface i).live → i < w.next
  named : ∀ i, (w.iface i).live → (w.iface i).name ≠ none
  registered : ∀ a i, a ∈ (w.iface i).users ↔ (w.iface a).parentIface = some i
  nodup : ∀ i, (w.iface i).users.Nodup
  parent : ∀ a i, (w.iface a).parentIface = some i → (w.iface a).live ∧ (w.iface i).live ∧
    (w.iface a).parentIfname = (w.iface i).name
  noneForAll : w.allUsers = []
  followed : w.astray = false

/-- The interfaces and their listeners are the same. -/
structure SameLinks (w w' : Interfaces ι) : Prop where
  name : ∀ i, (w'.iface i).name = (w.iface i).name
  parentIfname : ∀ i, (w'.iface i).parentIfname = (w.iface i).parentIfname
  parentIface : ∀ i, (w'.iface i).parentIface = (w.iface i).parentIface
  users : ∀ i, (w'.iface i).users = (w.iface i).users
  live : ∀ i, (w'.iface i).live = (w.iface i).live
  next : w'.next = w.next
  allUsers : w'.allUsers = w.allUsers

theorem SameLinks.refl (w : Interfaces ι) : SameLinks w w :=
  ⟨fun _ => rfl, fun _ => rfl, fun _ => rfl, fun _ => rfl, fun _ => rfl, rfl, rfl⟩

theorem SameLinks.trans {w w' w'' : Interfaces ι} (h : SameLinks w w') (h' : SameLinks w' w'') :
    SameLinks w w'' :=
  ⟨fun i => (h'.name i).trans (h.name i), fun i => (h'.parentIfname i).trans (h.parentIfname i),
    fun i => (h'.parentIface i).trans (h.parentIface i), fun i => (h'.users i).trans (h.users i),
    fun i => (h'.live i).trans (h.live i), h'.next.trans h.next, h'.allUsers.trans h.allUsers⟩

theorem Following.congr {w w' : Interfaces ι} (h : Following w) (hsame : SameLinks w w')
    (hastray : w'.astray = false) : Following w' := by
  constructor
  · intro i j
    rw [hsame.live, hsame.live, hsame.name, hsame.name]
    exact h.unique i j
  · intro i
    rw [hsame.live, hsame.next]
    exact h.allocated i
  · intro i
    rw [hsame.live, hsame.name]
    exact h.named i
  · intro a i
    rw [hsame.users, hsame.parentIface]
    exact h.registered a i
  · intro i
    rw [hsame.users]
    exact h.nodup i
  · intro a i
    rw [hsame.parentIface, hsame.live, hsame.live, hsame.parentIfname, hsame.name]
    exact h.parent a i
  · rw [hsame.allUsers, h.noneForAll]
  · exact hastray

theorem sameLinks_map (w : Interfaces ι) (a : ℕ) {f : Interface ι → Interface ι}
    (hf : ∀ x, (f x).name = x.name ∧ (f x).parentIfname = x.parentIfname ∧
      (f x).parentIface = x.parentIface ∧ (f x).users = x.users ∧ (f x).live = x.live) :
    SameLinks w (w.map a f) := by
  have hone (i : ℕ) : ((w.map a f).iface i).name = (w.iface i).name ∧
      ((w.map a f).iface i).parentIfname = (w.iface i).parentIfname ∧
      ((w.map a f).iface i).parentIface = (w.iface i).parentIface ∧
      ((w.map a f).iface i).users = (w.iface i).users ∧
      ((w.map a f).iface i).live = (w.iface i).live := by
    rw [map_iface]
    split_ifs
    · exact hf _
    · exact ⟨rfl, rfl, rfl, rfl, rfl⟩
  exact ⟨fun i => (hone i).1, fun i => (hone i).2.1, fun i => (hone i).2.2.1,
    fun i => (hone i).2.2.2.1, fun i => (hone i).2.2.2.2, rfl, rfl⟩

theorem removeUser_other {w : Interfaces ι} {a i : ℕ} (ha : (w.iface a).parentIface = some i) :
    removeUser w a = (w.map i fun x => { x with users := x.users.erase a }).map a fun x =>
      { x with parentIface := none } := by
  rw [removeUser, ha]

theorem removeUser_iface {w : Interfaces ι} {a i : ℕ} (ha : (w.iface a).parentIface = some i)
    (j : ℕ) : (removeUser w a).iface j =
      { w.iface j with
        users := if j = i then (w.iface j).users.erase a else (w.iface j).users
        parentIface := if j = a then none else (w.iface j).parentIface } := by
  rw [removeUser_other ha]
  simp only [map_iface]
  split_ifs <;> rfl

theorem mem_users_removeUser {w : Interfaces ι} (h : Following w) {a i : ℕ}
    (ha : (w.iface a).parentIface = some i) (b j : ℕ) :
    b ∈ ((removeUser w a).iface j).users ↔ b ∈ (w.iface j).users ∧ b ≠ a := by
  have husers : ((removeUser w a).iface j).users =
      if j = i then (w.iface j).users.erase a else (w.iface j).users := by
    rw [removeUser_iface ha]
  rw [husers]
  split_ifs with hj
  · rw [(h.nodup j).mem_erase_iff, and_comm]
  · refine ⟨fun hb => ⟨hb, ?_⟩, fun hb => hb.1⟩
    rintro rfl
    have hparent := (h.registered b j).mp hb
    rw [ha] at hparent
    exact hj (Option.some.inj hparent).symm

theorem removeUser_parentIface {w : Interfaces ι} {a i : ℕ}
    (ha : (w.iface a).parentIface = some i) (b : ℕ) :
    ((removeUser w a).iface b).parentIface = if b = a then none else (w.iface b).parentIface := by
  rw [removeUser_iface ha]

theorem removeUser_rest {w : Interfaces ι} {a i : ℕ} (ha : (w.iface a).parentIface = some i)
    (b : ℕ) : ((removeUser w a).iface b).name = (w.iface b).name ∧
      ((removeUser w a).iface b).parentIfname = (w.iface b).parentIfname ∧
      ((removeUser w a).iface b).live = (w.iface b).live := by
  rw [removeUser_iface ha]
  exact ⟨rfl, rfl, rfl⟩

theorem Following.removeUser {w : Interfaces ι} (h : Following w) {a i : ℕ}
    (ha : (w.iface a).parentIface = some i) : Following (removeUser w a) := by
  have hrest := removeUser_rest ha
  have hnext : (AliasInterfaces.removeUser w a).next = w.next := by rw [removeUser_other ha]; rfl
  constructor
  · intro j k
    rw [(hrest j).2.2, (hrest k).2.2, (hrest j).1, (hrest k).1]
    exact h.unique j k
  · intro j
    rw [(hrest j).2.2, hnext]
    exact h.allocated j
  · intro j
    rw [(hrest j).2.2, (hrest j).1]
    exact h.named j
  · intro b j
    rw [mem_users_removeUser h ha, removeUser_parentIface ha, h.registered b j]
    by_cases hb : b = a <;> simp [hb]
  · intro j
    rw [removeUser_iface ha]
    dsimp only
    split_ifs
    · exact (h.nodup j).erase a
    · exact h.nodup j
  · intro b j
    rw [removeUser_parentIface ha, (hrest b).2.2, (hrest j).2.2, (hrest b).2.1, (hrest j).1]
    split_ifs
    · intro hnone
      cases hnone
    · exact h.parent b j
  · rw [removeUser_other ha]
    exact h.noneForAll
  · rw [removeUser_other ha]
    exact h.followed

theorem Following.removeUsers {w : Interfaces ι} (h : Following w) {i : ℕ} {l : List ℕ}
    (hl : l.Nodup) (hsub : ∀ a ∈ l, a ∈ (w.iface i).users) :
    Following (l.foldl AliasInterfaces.removeUser w) ∧
      ∀ b, b ∈ ((l.foldl AliasInterfaces.removeUser w).iface i).users ↔
        b ∈ (w.iface i).users ∧ b ∉ l := by
  induction l generalizing w with
  | nil => exact ⟨h, fun b => by simp⟩
  | cons a l ih =>
    obtain ⟨hal, hl⟩ := List.nodup_cons.mp hl
    have ha := (h.registered a i).mp (hsub a List.mem_cons_self)
    have hsub' : ∀ b ∈ l, b ∈ ((AliasInterfaces.removeUser w a).iface i).users := by
      intro b hb
      rw [mem_users_removeUser h ha]
      refine ⟨hsub b (List.mem_cons_of_mem a hb), ?_⟩
      rintro rfl
      exact hal hb
    obtain ⟨hfollowing, hmem⟩ := ih (h.removeUser ha) hl hsub'
    refine ⟨hfollowing, fun b => ?_⟩
    rw [List.foldl_cons, hmem b, mem_users_removeUser h ha, List.mem_cons, not_or, and_assoc]

/-- What a call does: listeners stay where they belong, and none is moved by an event. -/
def keepsFollowing : Spec (Interfaces ι) (Call ι) := fun p w _ t =>
  Following w → Following t ∧ (p.isEvent = true → SameLinks w t)

/-- The listeners are where they belong, and where they were in `s`. -/
def Unmoved (s w : Interfaces ι) : Prop := Following w ∧ SameLinks s w

theorem callbacks_keeps (s : Interfaces ι) :
    Preserves keepsFollowing (Unmoved s) (callbacks Call.isEvent) := by
  apply Preserves.callbacks
  intro p w _ t hp hspec hw
  obtain ⟨hfollowing, hlinks⟩ := hspec hw.1
  exact ⟨hfollowing, hw.2.trans (hlinks hp)⟩

theorem Unmoved.map {s w : Interfaces ι} (h : Unmoved s w) (a : ℕ)
    {f : Interface ι → Interface ι}
    (hf : ∀ x, (f x).name = x.name ∧ (f x).parentIfname = x.parentIfname ∧
      (f x).parentIface = x.parentIface ∧ (f x).users = x.users ∧ (f x).live = x.live) :
    Unmoved s (w.map a f) := by
  have hsame := sameLinks_map w a hf
  exact ⟨h.1.congr hsame h.1.followed, h.2.trans hsame⟩

theorem setAvailable_keeps (s : Interfaces ι) (a : ℕ) (state : Bool) :
    Preserves keepsFollowing (Unmoved s) (setAvailable a state) := by
  apply Preserves.after_read
  intro _
  refine Preserves.ite (fun _ => Preserves.pure ()) fun _ => ?_
  exact (Preserves.modify fun _ hw => hw.map a fun _ => ⟨rfl, rfl, rfl, rfl, rfl⟩).bind fun _ =>
    callbacks_keeps s

theorem setL3Dev_keeps (s : Interfaces ι) (a : ℕ) (dev : Option ℕ) :
    Preserves keepsFollowing (Unmoved s) (setL3Dev a dev) := by
  apply Preserves.after_read
  intro _
  refine Preserves.ite (fun _ => Preserves.pure ()) fun _ => ?_
  exact (Preserves.modify fun _ hw => hw.map a fun _ => ⟨rfl, rfl, rfl, rfl, rfl⟩).bind fun _ =>
    callbacks_keeps s

theorem setMainDev_keeps (s : Interfaces ι) (a : ℕ) (dev : Option ℕ) :
    Preserves keepsFollowing (Unmoved s) (setMainDev a dev) := by
  apply Preserves.after_read
  intro _
  refine Preserves.ite (fun _ => Preserves.pure ()) fun _ => ?_
  refine (setAvailable_keeps s a false).bind fun _ => ?_
  refine (Preserves.modify fun _ hw => hw.map a fun _ => ⟨rfl, rfl, rfl, rfl, rfl⟩).bind fun _ => ?_
  refine (callbacks_keeps s).bind fun _ => Preserves.after_read fun _ => ?_
  exact Preserves.ite (fun _ => setL3Dev_keeps s a dev) fun _ => Preserves.pure ()

theorem cleanupState_keeps (s : Interfaces ι) (a : ℕ) :
    Preserves keepsFollowing (Unmoved s) (interfaceCleanupState a) := by
  refine (setAvailable_keeps s a false).bind fun _ => ?_
  refine (Preserves.modify fun _ hw => hw.map a fun _ => ⟨rfl, rfl, rfl, rfl, rfl⟩).bind fun _ => ?_
  exact (setMainDev_keeps s a none).bind fun _ => setL3Dev_keeps s a none

theorem mainDevCb_keeps (s : Interfaces ι) (a : ℕ) (present external : Bool) :
    Preserves keepsFollowing (Unmoved s) (interfaceMainDevCb a present external) := by
  refine (setAvailable_keeps s a present).bind fun _ => ?_
  exact Preserves.ite (fun _ => setMainDev_keeps s a none) fun _ => Preserves.pure ()

/-- A listener without an interface is put on the list of its parent. -/
theorem Following.addUser {w : Interfaces ι} (h : Following w) {a i : ℕ}
    (ha : (w.iface a).parentIface = none) (hlive : (w.iface a).live) (hparent : (w.iface i).live)
    (hname : (w.iface a).parentIfname = (w.iface i).name) :
    Following ((w.map a fun x => { x with parentIface := some i }).map i fun x =>
      { x with users := a :: x.users }) := by
  set w' := (w.map a fun x => { x with parentIface := some i }).map i fun x =>
    { x with users := a :: x.users } with hw'
  have hiface : ∀ j, w'.iface j =
      { w.iface j with
        users := if j = i then a :: (w.iface j).users else (w.iface j).users
        parentIface := if j = a then some i else (w.iface j).parentIface } := by
    intro j
    simp only [hw', map_iface]
    split_ifs <;> rfl
  constructor
  · intro j k
    rw [hiface, hiface]
    exact h.unique j k
  · intro j
    rw [hiface]
    exact h.allocated j
  · intro j
    rw [hiface]
    exact h.named j
  · intro b j
    rw [hiface, hiface]
    by_cases hb : b = a
    · subst hb
      have hnot : b ∉ (w.iface j).users := by
        rw [h.registered, ha]
        simp
      by_cases hj : j = i
      · simp [hj]
      · simp [hj, hnot, Ne.symm hj]
    · by_cases hj : j = i <;> simp [hb, hj, h.registered]
  · intro j
    rw [hiface]
    dsimp only
    split_ifs with hj
    · refine List.nodup_cons.mpr ⟨fun hmem => ?_, h.nodup j⟩
      have hbefore := (h.registered a j).mp hmem
      rw [ha] at hbefore
      cases hbefore
    · exact h.nodup j
  · intro b j
    rw [hiface, hiface]
    dsimp only
    split_ifs with hb
    · intro hij
      obtain rfl := Option.some.inj hij
      subst hb
      exact ⟨hlive, hparent, hname⟩
    · exact h.parent b j
  · exact h.noneForAll
  · exact h.followed

/-- An interface that nobody listens to, and that listens to nobody, can be freed. -/
theorem Following.freed {w : Interfaces ι} (h : Following w) {a : ℕ}
    (husers : (w.iface a).users = [])
    (hparent : (w.iface a).parentIface = none) :
    Following (w.map a fun x => { x with live := false }) := by
  have hiface : ∀ j, (w.map a fun x => { x with live := false }).iface j =
      { w.iface j with live := (w.iface j).live && j != a } := by
    intro j
    rw [map_iface]
    split_ifs with hj
    · simp [hj]
    · have hne : (j != a) = true := by simpa using hj
      rw [hne, Bool.and_true]
  constructor
  · intro i j
    rw [hiface, hiface]
    simp only [Bool.and_eq_true]
    exact fun hi hj => h.unique i j hi.1 hj.1
  · intro i
    rw [hiface]
    simp only [Bool.and_eq_true]
    exact fun hi => h.allocated i hi.1
  · intro i
    rw [hiface]
    simp only [Bool.and_eq_true]
    exact fun hi => h.named i hi.1
  · intro b i
    rw [hiface, hiface]
    exact h.registered b i
  · intro i
    rw [hiface]
    exact h.nodup i
  · intro b i
    rw [hiface, hiface]
    intro hb
    obtain ⟨hlive, hilive, hname⟩ := h.parent b i hb
    have hba : b ≠ a := by
      rintro rfl
      rw [hparent] at hb
      cases hb
    have hia : i ≠ a := by
      rintro rfl
      have hmem := (h.registered b i).mpr hb
      rw [husers] at hmem
      cases hmem
    exact ⟨by simp [hlive, hba], by simp [hilive, hia], hname⟩
  · exact h.noneForAll
  · exact h.followed

/-- The configuration may give an interface that listens to nobody another parent. -/
theorem Following.setParent {w : Interfaces ι} (h : Following w) {a : ℕ} {parent : Option ι}
    (ha : (w.iface a).parentIface = none ∨ (w.iface a).parentIfname = parent) :
    Following (w.map a fun x => { x with parentIfname := parent }) := by
  have hiface : ∀ j, (w.map a fun x => { x with parentIfname := parent }).iface j =
      { w.iface j with parentIfname := if j = a then parent else (w.iface j).parentIfname } := by
    intro j
    rw [map_iface]
    split_ifs <;> rfl
  constructor
  · intro i j
    rw [hiface, hiface]
    exact h.unique i j
  · intro i
    rw [hiface]
    exact h.allocated i
  · intro i
    rw [hiface]
    exact h.named i
  · intro b i
    rw [hiface, hiface]
    exact h.registered b i
  · intro i
    rw [hiface]
    exact h.nodup i
  · intro b i
    rw [hiface, hiface]
    intro hb
    obtain ⟨hlive, hilive, hname⟩ := h.parent b i hb
    refine ⟨hlive, hilive, ?_⟩
    dsimp only at hb ⊢
    split_ifs with hba
    · subst hba
      rcases ha with hnone | hsame
      · rw [hnone] at hb
        cases hb
      · rw [← hsame, hname]
    · exact hname
  · exact h.noneForAll
  · exact h.followed

theorem whenLive_wp {w : Interfaces ι} (h : Following w) (a : ℕ)
    {code : Prog (Interfaces ι) (Call ι) Unit}
    (hcode : (w.iface a).live → wp keepsFollowing code (fun _ t => Following t) w) :
    wp keepsFollowing (whenLive a code) (fun _ t => Following t) w := by
  unfold whenLive
  rw [wp_bind, wp_read]
  split_ifs with hlive
  · exact hcode hlive
  · exact h

theorem event_wp {w : Interfaces ι} (h : Following w) (a : ℕ)
    {code : Prog (Interfaces ι) (Call ι) Unit}
    (hcode : ∀ s, Preserves keepsFollowing (Unmoved s) code) :
    wp keepsFollowing (do whenLive a code; pure (0 : ℤ))
      (fun _ t => Following t ∧ (true = true → SameLinks w t)) w := by
  have hlive : Preserves keepsFollowing (Unmoved w) (whenLive a code) := by
    apply Preserves.after_read
    intro v
    exact Preserves.ite (fun _ => hcode w) fun _ => Preserves.pure ()
  exact (hlive.bind fun _ => Preserves.pure 0).ends ⟨h, .refl w⟩ fun _ t ht => ⟨ht.1, fun _ => ht.2⟩

/-- Any call may come next. -/
def anyCall : Call ι → Interfaces ι → Bool := fun _ _ => true

theorem following_start : Following ({} : Interfaces ι) := by
  constructor <;> simp

variable [DecidableEq ι]

theorem live_of_find {w : Interfaces ι} {p : ι} {i : ℕ} (h : w.find p = some i) :
    (w.iface i).live ∧ (w.iface i).name = some p := by
  have hfound := List.find?_some h
  simpa using hfound

theorem Following.find_eq {w : Interfaces ι} (h : Following w) {p : ι} {i : ℕ}
    (hlive : (w.iface i).live) (hname : (w.iface i).name = some p) : w.find p = some i := by
  have hsome : (w.find p).isSome := by
    rw [Interfaces.find, List.find?_isSome]
    exact ⟨i, List.mem_range.mpr (h.allocated i hlive), by simp [hlive, hname]⟩
  obtain ⟨j, hj⟩ := Option.isSome_iff_exists.mp hsome
  obtain ⟨hlive', hname'⟩ := live_of_find hj
  rw [hj, h.unique j i hlive' hlive (hname'.trans hname.symm)]

theorem Following.isParentDev {w : Interfaces ι} (h : Following w) {a i dev : ℕ}
    (ha : a ∈ (w.iface i).users) (hdev : (w.iface i).l3Dev = some dev) :
    w.isParentDev a dev = true := by
  obtain ⟨_, hlive, hparent⟩ := h.parent a i ((h.registered a i).mp ha)
  obtain ⟨p, hp⟩ := Option.ne_none_iff_exists'.mp (h.named i hlive)
  have hfind : (w.iface a).parentIfname.bind w.find = some i := by
    rw [hparent, hp]
    exact h.find_eq hlive hp
  simp [Interfaces.isParentDev, hfind, hdev]

theorem aliasCb_keeps {s : Interfaces ι} {a i : ℕ} (ha : a ∈ (s.iface i).users)
    {ev : InterfaceEvent} (hev : ev ≠ .free) :
    Preserves keepsFollowing (Unmoved s) (interfaceAliasCb a i ev) := by
  apply Preserves.read_bind
  intro w hw
  cases ev with
  | free => exact absurd rfl hev
  | up =>
    cases hdev : (w.iface i).l3Dev with
    | none => exact hw
    | some dev =>
      have hparent : w.isParentDev a dev = true := by
        refine hw.1.isParentDev ?_ hdev
        rw [hw.2.users]
        exact ha
      have hnote : Unmoved s { w with astray := w.astray || !w.isParentDev a dev } := by
        have hsame : SameLinks w { w with astray := w.astray || !w.isParentDev a dev } :=
          ⟨fun _ => rfl, fun _ => rfl, fun _ => rfl, fun _ => rfl, fun _ => rfl, rfl, rfl⟩
        exact ⟨hw.1.congr hsame (by simp [hw.1.followed, hparent]), hw.2.trans hsame⟩
      simp only [wp_bind, wp_modify]
      exact (setMainDev_keeps s a _).ends hnote fun _ t ht => setAvailable_keeps s a true t ht
  | down => exact (setAvailable_keeps s a false).bind (fun _ => setMainDev_keeps s a none) w hw
  | update => exact hw
  | reload => exact hw
  | linkUp => exact hw

theorem eventTo_keeps {s : Interfaces ι} {i : ℕ} {l : List ℕ}
    (hl : ∀ a ∈ l, a ∈ (s.iface i).users) {ev : InterfaceEvent} (hev : ev ≠ .free) :
    Preserves keepsFollowing (Unmoved s) (interfaceEventTo i ev l) := by
  induction l with
  | nil => exact Preserves.pure ()
  | cons a l ih =>
    have hrest := ih fun b hb => hl b (List.mem_cons_of_mem a hb)
    exact (aliasCb_keeps (hl a List.mem_cons_self) hev).bind fun _ => hrest

theorem event_keeps (s : Interfaces ι) (i : ℕ) {ev : InterfaceEvent} (hev : ev ≠ .free) :
    Preserves keepsFollowing (Unmoved s) (interfaceEvent i ev) := by
  have hall : Preserves keepsFollowing (Unmoved s) (do
      let w ← read
      interfaceEventTo i ev w.allUsers
      callbacks Call.isEvent) := by
    apply Preserves.read_bind
    intro w hw
    rw [hw.1.noneForAll]
    exact callbacks_keeps s w hw
  apply Preserves.read_bind
  intro w hw
  have husers : ∀ a ∈ (w.iface i).users, a ∈ (s.iface i).users := fun a ha => hw.2.users i ▸ ha
  exact (eventTo_keeps husers hev).bind (fun _ => hall) w hw

theorem interfaceUp_keeps (s : Interfaces ι) (a : ℕ) :
    Preserves keepsFollowing (Unmoved s) (interfaceUp a) := by
  have htail : Preserves keepsFollowing (Unmoved s) (do
      modify fun w => w.map a fun x => { x with up := true }
      interfaceEvent a .up) :=
    (Preserves.modify fun _ hw => hw.map a fun _ => ⟨rfl, rfl, rfl, rfl, rfl⟩).bind fun _ =>
      event_keeps s a (by simp)
  apply Preserves.after_read
  intro w
  by_cases hdev : (w.iface a).l3Dev = none
  · simp only [hdev, if_true]
    exact (setL3Dev_keeps s a _).bind fun _ => htail
  · simp only [hdev, if_false]
    exact htail

theorem interfaceDown_keeps (s : Interfaces ι) (a : ℕ) :
    Preserves keepsFollowing (Unmoved s) (interfaceDown a) := by
  apply Preserves.after_read
  intro w
  refine Preserves.ite (fun _ => ?_) fun _ => Preserves.pure ()
  exact (Preserves.modify fun _ hw => hw.map a fun _ => ⟨rfl, rfl, rfl, rfl, rfl⟩).bind fun _ =>
    event_keeps s a (by simp)

theorem addUser_wp {w : Interfaces ι} (h : Following w) {a i : ℕ}
    (ha : (w.iface a).parentIface = none) (hlive : (w.iface a).live) (hparent : (w.iface i).live)
    (hname : (w.iface a).parentIfname = (w.iface i).name) :
    wp keepsFollowing (addUser a (some i)) (fun _ t => Following t) w := by
  unfold AliasInterfaces.addUser
  simp only [wp_bind, wp_modify, wp_read]
  set w' := (w.map a fun x => { x with parentIface := some i }).map i fun x =>
    { x with users := a :: x.users } with hw'
  have hfollowing : Following w' := h.addUser ha hlive hparent hname
  split_ifs
  · have hmem : a ∈ (w'.iface i).users := by simp [hw']
    exact (aliasCb_keeps hmem (by simp)).ends ⟨hfollowing, .refl w'⟩ fun _ t ht => ht.1
  · exact hfollowing

theorem claimLocked_wp {w : Interfaces ι} (h : Following w) {a : ℕ} (hlive : (w.iface a).live)
    (hnone : (w.iface a).parentIface = none) :
    wp keepsFollowing (interfaceClaimLocked .guarded a) (fun _ t => Following t) w := by
  unfold interfaceClaimLocked
  simp only [wp_bind, wp_read]
  cases hparent : (w.iface a).parentIfname with
  | none =>
    simp only [wp_bind, wp_ask]
    intro dev
    split_ifs
    · exact (setMainDev_keeps w a (some dev)).ends ⟨h, .refl w⟩ fun _ t ht => ht.1
    · exact h
  | some p =>
    simp only [wp_bind, wp_require]
    intro hguard
    obtain ⟨i, hi⟩ : ∃ i, w.find p = some i := Option.isSome_iff_exists.mp (by simpa using hguard)
    obtain ⟨hparentLive, hname⟩ := live_of_find hi
    rw [hi]
    exact addUser_wp h hnone hlive hparentLive (hparent.trans hname.symm)

theorem claimDevice_wp {w : Interfaces ι} (h : Following w) {a : ℕ} (hlive : (w.iface a).live) :
    wp keepsFollowing (interfaceClaimDevice .guarded a) (fun _ t => Following t) w := by
  have hinit : Preserves keepsFollowing Following (do
      let initAvailable ← ask
      if initAvailable ≠ 0 then setAvailable a true : Prog (Interfaces ι) (Call ι) Unit) := by
    refine Preserves.ask.bind fun _ => ?_
    refine Preserves.ite (fun _ => ?_) fun _ => Preserves.pure ()
    intro v hv
    exact (setAvailable_keeps v a true).ends ⟨hv, .refl v⟩ fun _ t ht => ht.1
  have hrest : ∀ v, Following v → (v.iface a).live → (v.iface a).parentIface = none →
      wp keepsFollowing (do
        interfaceClaimLocked .guarded a
        let initAvailable ← ask
        if initAvailable ≠ 0 then setAvailable a true : Prog (Interfaces ι) (Call ι) Unit)
      (fun _ t => Following t) v := by
    intro v hv hvlive hnone
    rw [wp_bind]
    exact wp_mono _ (fun _ t ht => hinit t ht) (claimLocked_wp hv hvlive hnone)
  unfold interfaceClaimDevice
  rw [wp_bind, wp_read]
  cases hparent : (w.iface a).parentIface with
  | none =>
    rw [if_neg (by simp)]
    exact hrest w h hlive hparent
  | some i =>
    rw [if_pos (by simp)]
    have hlive' : ((removeUser w a).iface a).live = true := by
      rw [(removeUser_rest hparent a).2.2]
      exact hlive
    have hnone : ((removeUser w a).iface a).parentIface = none := by
      rw [removeUser_parentIface hparent, if_pos rfl]
    exact hrest _ (h.removeUser hparent) hlive' hnone

theorem reload_wp {w : Interfaces ι} (h : Following w) {a : ℕ} (hlive : (w.iface a).live) :
    wp keepsFollowing (interfaceDoReload .guarded a) (fun _ t => Following t) w := by
  refine (event_keeps w a (by simp)).followed ⟨h, .refl w⟩ fun _ v hv => ?_
  refine (cleanupState_keeps w a).followed hv fun _ t ht => ?_
  exact claimDevice_wp ht.1 (by rw [ht.2.live, hlive])

theorem eventTo_free_wp (i : ℕ) (l : List ℕ) (Q : Unit → Interfaces ι → Prop) (w : Interfaces ι) :
    wp keepsFollowing (interfaceEventTo i .free l) Q w = Q () (l.foldl removeUser w) := by
  induction l generalizing w with
  | nil => rfl
  | cons a l ih => exact ih (removeUser w a)

theorem event_free_wp {w : Interfaces ι} (h : Following w) (a : ℕ) :
    wp keepsFollowing (interfaceEvent a .free)
      (fun _ t => Following t ∧ (t.iface a).users = []) w := by
  obtain ⟨hfollowing, hmem⟩ := h.removeUsers (h.nodup a) fun _ hb => hb
  set left := (w.iface a).users.foldl removeUser w with hleft
  have husers : (left.iface a).users = [] := by
    rw [List.eq_nil_iff_forall_not_mem]
    intro b hb
    exact ((hmem b).mp hb).2 ((hmem b).mp hb).1
  unfold interfaceEvent
  simp only [wp_bind, wp_read, eventTo_free_wp, ← hleft, hfollowing.noneForAll]
  refine (callbacks_keeps left).ends ⟨hfollowing, .refl left⟩ fun _ t ht => ⟨ht.1, ?_⟩
  rw [ht.2.users, husers]

theorem free_wp {w : Interfaces ι} (h : Following w) (a : ℕ) :
    wp keepsFollowing (interfaceDoFree a) (fun _ t => Following t) w := by
  -- what is left after the alias has left its parent
  have hrest : ∀ v, Following v → (v.iface a).users = [] → (v.iface a).parentIface = none →
      wp keepsFollowing (do
        modify fun w => (w.iface a).users.foldl removeUser w
        interfaceCleanupState a : Prog (Interfaces ι) (Call ι) Unit)
      (fun _ t => Following (t.map a fun x => { x with live := false })) v := by
    intro v hv husers hparent
    simp only [wp_bind, wp_modify, husers, List.foldl_nil]
    refine (cleanupState_keeps v a).ends ⟨hv, .refl v⟩ fun _ t ht => ?_
    exact ht.1.freed (by rw [ht.2.users, husers]) (by rw [ht.2.parentIface, hparent])
  unfold interfaceDoFree
  rw [wp_bind]
  refine wp_mono _ (fun _ v hv => ?_) (event_free_wp h a)
  obtain ⟨hfollowing, husers⟩ := hv
  rw [wp_bind]
  unfold interfaceCleanup
  rw [wp_bind, wp_read]
  cases hparent : (v.iface a).parentIface with
  | none =>
    rw [if_neg (by simp)]
    exact hrest v hfollowing husers hparent
  | some i =>
    rw [if_pos (by simp)]
    have hempty : ((removeUser v a).iface a).users = [] := by
      rw [List.eq_nil_iff_forall_not_mem]
      intro b hb
      have hbefore := ((mem_users_removeUser hfollowing hparent b a).mp hb).1
      rw [husers] at hbefore
      cases hbefore
    have hnone : ((removeUser v a).iface a).parentIface = none := by
      rw [removeUser_parentIface hparent, if_pos rfl]
    exact hrest _ (hfollowing.removeUser hparent) hempty hnone

theorem changeConfig_wp {w : Interfaces ι} (h : Following w) (a : ℕ) (parent : Option ι) :
    wp keepsFollowing (interfaceChangeConfig a parent) (fun _ t => Following t) w := by
  have hrest : ∀ v, Following v →
      ((v.iface a).parentIface = none ∨ (v.iface a).parentIfname = parent) →
      wp keepsFollowing (do
        modify fun w => w.map a fun x => { x with parentIfname := parent }
        callbacks Call.isEvent : Prog (Interfaces ι) (Call ι) Unit)
      (fun _ t => Following t) v := by
    intro v hv hparent
    rw [wp_bind, wp_modify]
    exact (callbacks_keeps _).ends ⟨hv.setParent hparent, .refl _⟩ fun _ t ht => ht.1
  unfold interfaceChangeConfig
  rw [wp_bind, wp_read]
  cases hparent : (w.iface a).parentIface with
  | none =>
    rw [if_neg (by simp)]
    exact hrest w h (.inl hparent)
  | some i =>
    split_ifs with hchanged
    · have hnone : ((removeUser w a).iface a).parentIface = none := by
        rw [removeUser_parentIface hparent, if_pos rfl]
      exact hrest _ (h.removeUser hparent) (.inl hnone)
    · have hsame : (w.iface a).parentIfname = parent := by simpa using hchanged
      exact hrest w h (.inr hsame)

/-- A new interface has a name of its own, and nobody listens to it yet. -/
theorem Following.allocate {w : Interfaces ι} (h : Following w) {name : ι} (parent : Option ι)
    (hname : w.find name = none) :
    Following { w.map w.next fun _ =>
        { name := some name, parentIfname := parent, live := true : Interface ι } with
      next := w.next + 1 } := by
  have hdead : (w.iface w.next).live = false := by
    by_contra hlive
    exact Nat.lt_irrefl _ (h.allocated w.next (by simpa using hlive))
  have hunlinked : (w.iface w.next).parentIface = none := by
    by_contra hsome
    obtain ⟨i, hi⟩ := Option.ne_none_iff_exists'.mp hsome
    have hlive := (h.parent w.next i hi).1
    rw [hdead] at hlive
    cases hlive
  have hunused : (w.iface w.next).users = [] := by
    rw [List.eq_nil_iff_forall_not_mem]
    intro b hb
    have hlive := (h.parent b w.next ((h.registered b w.next).mp hb)).2.1
    rw [hdead] at hlive
    cases hlive
  have hfresh : ∀ i, (w.iface i).live → (w.iface i).name ≠ some name := by
    intro i hlive hi
    rw [h.find_eq hlive hi] at hname
    cases hname
  set w' : Interfaces ι := { w.map w.next fun _ =>
      { name := some name, parentIfname := parent, live := true : Interface ι } with
    next := w.next + 1 } with hw'
  have hnew : w'.iface w.next = { name := some name, parentIfname := parent, live := true } := by
    simp [hw']
  have hold : ∀ i, i ≠ w.next → w'.iface i = w.iface i := by
    intro i hi
    simp [hw', hi]
  have husers : ∀ i, (w'.iface i).users = (w.iface i).users := by
    intro i
    by_cases hi : i = w.next
    · rw [hi, hnew, hunused]
    · rw [hold i hi]
  have hparents : ∀ i, (w'.iface i).parentIface = (w.iface i).parentIface := by
    intro i
    by_cases hi : i = w.next
    · rw [hi, hnew, hunlinked]
    · rw [hold i hi]
  constructor
  · intro i j
    by_cases hi : i = w.next <;> by_cases hj : j = w.next
    · intro _ _ _
      rw [hi, hj]
    · rw [hi, hnew, hold j hj]
      exact fun _ hlive heq => absurd heq.symm (hfresh j hlive)
    · rw [hj, hnew, hold i hi]
      exact fun hlive _ heq => absurd heq (hfresh i hlive)
    · rw [hold i hi, hold j hj]
      exact h.unique i j
  · intro i
    by_cases hi : i = w.next
    · intro _
      rw [hi]
      exact Nat.lt_succ_self _
    · rw [hold i hi]
      exact fun hlive => Nat.lt_succ_of_lt (h.allocated i hlive)
  · intro i
    by_cases hi : i = w.next
    · rw [hi, hnew]
      simp
    · rw [hold i hi]
      exact h.named i
  · intro b i
    rw [husers, hparents]
    exact h.registered b i
  · intro i
    rw [husers]
    exact h.nodup i
  · intro b i
    rw [hparents]
    intro hb
    have hlinked := h.parent b i hb
    have hbne : b ≠ w.next := by
      rintro rfl
      rw [hunlinked] at hb
      cases hb
    have hine : i ≠ w.next := by
      rintro rfl
      have hlive := hlinked.2.1
      rw [hdead] at hlive
      cases hlive
    rw [hold b hbne, hold i hine]
    exact hlinked
  · exact h.noneForAll
  · exact h.followed

theorem update_wp {w : Interfaces ι} (h : Following w) (name : ι) (parent : Option ι) :
    wp keepsFollowing (interfaceUpdate .guarded name parent) (fun _ t => Following t) w := by
  unfold interfaceUpdate
  rw [wp_bind, wp_read]
  cases hname : w.find name with
  | some a => exact changeConfig_wp h a parent
  | none =>
    simp only [wp_bind, wp_modify]
    exact claimDevice_wp (h.allocate parent hname) (by simp)

theorem body_verified : Verified (@body ι _ .guarded) keepsFollowing := by
  intro p w
  apply wp_imp
  intro h
  have hconfig : ∀ {code : Prog (Interfaces ι) (Call ι) Unit},
      wp keepsFollowing code (fun _ t => Following t) w →
      wp keepsFollowing (do code; pure (0 : ℤ))
        (fun _ t => Following t ∧ (false = true → SameLinks w t)) w := by
    intro code hcode
    rw [wp_bind]
    exact wp_mono _ (fun _ t ht => ⟨ht, fun hfalse => by cases hfalse⟩) hcode
  cases p with
  | add name parent => exact hconfig (update_wp h name parent)
  | reload a => exact hconfig (whenLive_wp h a fun hlive => reload_wp h hlive)
  | free a => exact hconfig (whenLive_wp h a fun _ => free_wp h a)
  | up a => exact event_wp h a fun s => interfaceUp_keeps s a
  | down a => exact event_wp h a fun s => interfaceDown_keeps s a
  | setL3 a dev => exact event_wp h a fun s => setL3Dev_keeps s a dev
  | mainDev a present external =>
    exact event_wp h a fun s => mainDevCb_keeps s a present external

/-- If an interface of the name of its parent is there whenever an alias is claimed, then an
event has only ever given an alias the layer 3 device of its parent, and a freed interface is
on no list of listeners. -/
theorem alias_follows_parent {w : Interfaces ι}
    (run : Reachable (body .guarded) anyCall ({} : Interfaces ι) w) :
    w.astray = false ∧ ∀ a, (w.iface a).live = false →
      a ∉ w.allUsers ∧ ∀ i, a ∉ (w.iface i).users := by
  have hfollowing : Following w :=
    run.invariant body_verified (fun _ _ _ _ _ hspec hI => (hspec hI).1) following_start
  refine ⟨hfollowing.followed, fun a hdead => ⟨?_, fun i hmem => ?_⟩⟩
  · rw [hfollowing.noneForAll]
    exact List.not_mem_nil
  · have hlive := (hfollowing.parent a i ((hfollowing.registered a i).mp hmem)).1
    rw [hdead] at hlive
    cases hlive

end Facts

/-- An alias `guest` of `lan`, which comes up. -/
theorem alias_follows_parent_guest : ∃ w : Interfaces String,
    Reachable (body .guarded) anyCall {} w ∧ (w.iface 1).mainDev = some 7 ∧ w.astray = false := by
  obtain ⟨w, hw, hdev⟩ := exists_reachable (body .guarded) anyCall ({} : Interfaces String)
    (fun w => (w.iface 1).mainDev = some 7) 60
    [(.add "lan" none, [.pick 7, .resume, .resume, .pick 0]), (.add "guest" (some "lan"), [.pick 0]),
      (.up 0, [.resume, .resume, .resume, .resume])] (by decide)
  exact ⟨w, hw, hdev, (alias_follows_parent hw).1⟩

/-- An alias `guest` of `lan` is claimed while there is no `lan`. When `wan` comes up, the alias
takes over its device. -/
theorem alias_without_parent : ∃ w : Interfaces String,
    Reachable (body .any) anyCall {} w ∧ w.astray = true ∧
      (w.iface 0).parentIfname = some "lan" ∧ w.find "lan" = none ∧ (w.iface 0).mainDev = some 7 :=
  exists_reachable (body .any) anyCall ({} : Interfaces String)
    (fun w => w.astray = true ∧ (w.iface 0).parentIfname = some "lan" ∧ w.find "lan" = none ∧
      (w.iface 0).mainDev = some 7) 60
    [(.add "guest" (some "lan"), [.pick 0]), (.add "wan" none, [.pick 7, .resume, .resume, .pick 0]),
      (.up 1, [.resume, .resume, .resume, .resume])] (by decide)

end Netifd.AliasInterfaces
