import Netifd.GuardedRuns
import Netifd.InterfaceState

/-!
# The queue of hotplug handlers

`interface-event.c`: the events of all interfaces are handed to one task, one event at a time.
An interface waits in the queue at most once, with one event, and what comes in while it waits
is merged into that.
-/

namespace Netifd
open GuardedRuns

/-- What the queue keeps in `struct interface`: whether `hotplug_list` is in a list, and
`hotplug_ev`. The last two fields are histories: the last UP or DOWN that was queued for the
interface, and the last that a handler was run for. -/
structure HotplugInterface where
  listed : Bool := false
  hotplugEv : InterfaceEvent := .down
  lastQueued : Option InterfaceEvent := none
  lastRun : Option InterfaceEvent := none

/-- The static variables of the queue, and the interfaces that exist. A freed interface may
come back at the same place. -/
structure HotplugQueue where
  iface : ℕ → Option HotplugInterface := fun _ => none
  pending : List ℕ := []
  current : Option ℕ := none
  currentEv : InterfaceEvent := .down
  taskPending : Bool := false

/-- UP and DOWN are the events that the state of an interface is known by. -/
def InterfaceEvent.isFinal (ev : InterfaceEvent) : Bool := ev == .up || ev == .down

namespace HotplugQueue

/-- Change one interface, if it exists. -/
def mapIface (q : HotplugQueue) (i : ℕ) (f : HotplugInterface → HotplugInterface) :
    HotplugQueue :=
  { q with iface := fun j => if j = i then (q.iface j).map f else q.iface j }

end HotplugQueue

/-- `run_cmd`, with a fork that succeeds. -/
def runCmd (q : HotplugQueue) (i : ℕ) (event : InterfaceEvent) : HotplugQueue :=
  { q.mapIface i fun x => { x with lastRun := if event.isFinal then some event else x.lastRun } with
    taskPending := true }

def callHotplug (q : HotplugQueue) : HotplugQueue :=
  match q.pending with
  | [] => q
  | i :: pending =>
    let ev := ((q.iface i).map (·.hotplugEv)).getD .down
    let q := { q with current := some i, currentEv := ev, pending }
    runCmd (q.mapIface i fun x => { x with listed := false }) i ev

/-- `task_complete`, called when the task is no longer pending. -/
def taskComplete (q : HotplugQueue) : HotplugQueue :=
  callHotplug { q with current := none, taskPending := false }

/-- `list_add_tail(&iface->hotplug_list, &pending)`, with the event to wait for. -/
def listAddTail (q : HotplugQueue) (i : ℕ) (ev : InterfaceEvent) : HotplugQueue :=
  { q.mapIface i fun x => { x with listed := true, hotplugEv := ev } with
    pending := q.pending ++ [i] }

/-- The event is put into the queue, or merged into what waits there. -/
def mergeEvent (q : HotplugQueue) (i : ℕ) (x : HotplugInterface) (ev : InterfaceEvent) :
    HotplugQueue :=
  if q.current = some i then
    if x.listed then
      if ev ≠ .update then q.mapIface i fun x => { x with hotplugEv := ev } else q
    else if ev ≠ q.currentEv ∨ ev = .update then listAddTail q i ev
    else q
  else if x.listed then
    if ¬(x.hotplugEv = .up ∧ ev = .update) then q.mapIface i fun x => { x with hotplugEv := ev }
    else q
  else listAddTail q i ev

/-- The note that an event was queued. -/
def noteEvent (ev : InterfaceEvent) (x : HotplugInterface) : HotplugInterface :=
  { x with lastQueued := if ev.isFinal then some ev else x.lastQueued }

/-- `interface_queue_event`; the notifications of ubus leave the queue alone. -/
def interfaceQueueEvent (q : HotplugQueue) (i : ℕ) (ev : InterfaceEvent) : HotplugQueue :=
  match q.iface i with
  | none => q
  | some x =>
    if ev = .linkUp then q
    else
      let q := mergeEvent q i x ev
      let q := q.mapIface i (noteEvent ev)
      if q.taskPending = false ∧ q.current = none then callHotplug q else q

/-- `interface_dequeue_event`; `list_del_init` unlinks the interface wherever it is. -/
def interfaceDequeueEvent (q : HotplugQueue) (i : ℕ) : HotplugQueue :=
  let q := if q.current = some i then { q with current := none } else q
  if (q.iface i).any (·.listed) then
    { q.mapIface i fun x => { x with listed := false } with pending := q.pending.erase i }
  else q

def interfaceEventCb (q : HotplugQueue) (i : ℕ) : InterfaceEvent → HotplugQueue
  | .linkUp => interfaceQueueEvent q i .linkUp
  | .up => interfaceQueueEvent q i .up
  | .update => interfaceQueueEvent q i .update
  | .down => interfaceQueueEvent q i .down
  | .free => interfaceDequeueEvent q i
  | .reload => q

/-- What can happen to the queue. -/
inductive HotplugInput
  | create (i : ℕ)
  | event (i : ℕ) (ev : InterfaceEvent)
  | free (i : ℕ)
  | complete

/-- An interface that exists tells UP when it is down, and UPDATE and DOWN when it is up. -/
def emits (q : HotplugQueue) (i : ℕ) (ev : InterfaceEvent) : Bool :=
  match q.iface i with
  | none => false
  | some x =>
    match ev with
    | .up => x.lastQueued != some .up
    | .update | .down => x.lastQueued == some .up
    | .linkUp | .reload => true
    | .free => false

/-- One step; inputs that cannot come leave the queue as it is. -/
def hotplugStep (q : HotplugQueue) : HotplugInput → HotplugQueue
  | .create i =>
    if (q.iface i).isNone then
      { q with iface := fun j => if j = i then some {} else q.iface j }
    else q
  | .event i ev => if emits q i ev then interfaceEventCb q i ev else q
  | .free i =>
    let q := interfaceEventCb q i .free
    { q with iface := fun j => if j = i then none else q.iface j }
  | .complete => if q.taskPending then taskComplete q else q

/-- What waits for an interface brings its handler up to date: the last final event is the one
that waits, or there is only an update to be told. -/
structure UpToDate (x : HotplugInterface) : Prop where
  waits : x.listed = true → x.hotplugEv.isFinal = true → x.lastQueued = some x.hotplugEv
  updates : x.listed = true → x.hotplugEv.isFinal = false →
    x.lastQueued = some .up ∧ x.lastRun = some .up
  done : x.listed = false → x.lastRun = x.lastQueued

/-- The queue holds the interfaces that are marked as listed, each once, and something is true of
every interface. -/
structure QueueHolds (P : HotplugInterface → Prop) (q : HotplugQueue) : Prop where
  nodup : q.pending.Nodup
  mem : ∀ i, i ∈ q.pending ↔ ∃ x, q.iface i = some x ∧ x.listed = true
  current : ∀ i, q.current = some i →
    ∃ x, q.iface i = some x ∧ (q.currentEv.isFinal = true → x.lastRun = some q.currentEv)
  holds : ∀ i x, q.iface i = some x → P x

/-- The queue holds the interfaces that are marked as listed, each once, and brings every interface
up to date. -/
abbrev QueueSound : HotplugQueue → Prop := QueueHolds UpToDate

/-- Whatever waits or is handled, the task is running. -/
structure QueueBusy (q : HotplugQueue) : Prop where
  current : q.current.isSome = true → q.taskPending = true
  pending : q.pending ≠ [] → q.taskPending = true

variable {q : HotplugQueue} {i : ℕ} {x : HotplugInterface} {P : HotplugInterface → Prop}

theorem QueueHolds.lastRun (h : QueueHolds P q) (hcurrent : q.current = some i)
    (hx : q.iface i = some x) (hfinal : q.currentEv.isFinal = true) :
    x.lastRun = some q.currentEv := by
  obtain ⟨y, hy, hrun⟩ := h.current i hcurrent
  obtain rfl : x = y := Option.some.inj (hx.symm.trans hy)
  exact hrun hfinal

theorem mapIface_self {f : HotplugInterface → HotplugInterface} (h : q.iface i = some x) :
    (q.mapIface i f).iface i = some (f x) := by simp [HotplugQueue.mapIface, h]

theorem mapIface_other {f : HotplugInterface → HotplugInterface} {j : ℕ} (h : j ≠ i) :
    (q.mapIface i f).iface j = q.iface j := by simp [HotplugQueue.mapIface, h]

theorem mapIface_mapIface (f f' : HotplugInterface → HotplugInterface) :
    (q.mapIface i f).mapIface i f' = q.mapIface i fun x => f' (f x) := by
  have hiface : ((q.mapIface i f).mapIface i f').iface =
      (q.mapIface i fun x => f' (f x)).iface := by
    funext j
    rcases eq_or_ne j i with rfl | hne
    · simp [HotplugQueue.mapIface, Function.comp_def]
    · simp [HotplugQueue.mapIface, hne]
  exact congrArg (fun iface => { q with iface }) hiface

theorem QueueHolds.update {q' : HotplugQueue} {x' : HotplugInterface} (h : QueueHolds P q)
    (hself : q'.iface i = some x') (hother : ∀ j, j ≠ i → q'.iface j = q.iface j)
    (hnodup : q'.pending.Nodup) (hmem : i ∈ q'.pending ↔ x'.listed = true)
    (hmemOther : ∀ j, j ≠ i → (j ∈ q'.pending ↔ j ∈ q.pending))
    (hcurrent : q'.current = some i → q'.currentEv.isFinal = true → x'.lastRun = some q'.currentEv)
    (hcurrentOther : ∀ j, j ≠ i → q'.current = some j →
      q.current = some j ∧ q'.currentEv = q.currentEv)
    (hholds : P x') : QueueHolds P q' := by
  refine ⟨hnodup, fun j => ?_, fun j hj => ?_, fun j y hy => ?_⟩
  · rcases eq_or_ne j i with rfl | hne
    · simp [hmem, hself]
    · rw [hmemOther j hne, h.mem j, hother j hne]
  · rcases eq_or_ne j i with rfl | hne
    · exact ⟨x', hself, hcurrent hj⟩
    · obtain ⟨hcur, hev⟩ := hcurrentOther j hne hj
      rw [hother j hne, hev]
      exact h.current j hcur
  · rcases eq_or_ne j i with rfl | hne
    · obtain rfl : x' = y := Option.some.inj (hself.symm.trans hy)
      exact hholds
    · exact h.holds j y ((hother j hne).symm.trans hy)

/-- An interface after its handler was started. -/
def handled (x : HotplugInterface) : HotplugInterface :=
  { x with
    listed := false
    lastRun := if x.hotplugEv.isFinal then some x.hotplugEv else x.lastRun }

theorem callHotplug_holds (h : QueueHolds P q)
    (hhandled : ∀ x, x.listed = true → P x → P (handled x)) : QueueHolds P (callHotplug q) := by
  unfold callHotplug
  cases hpending : q.pending with
  | nil => exact h
  | cons i pending =>
    have hnodup := List.nodup_cons.mp (hpending ▸ h.nodup)
    obtain ⟨x, hx, hlisted⟩ := (h.mem i).mp (by simp [hpending])
    have hself : (callHotplug q).iface i = some (handled x) := by
      simp [callHotplug, hpending, runCmd, HotplugQueue.mapIface, hx, handled]
    rw [callHotplug, hpending] at hself
    refine h.update hself ?_ hnodup.2 ?_ ?_ ?_ ?_ (hhandled x hlisted (h.holds i x hx))
    · intro j hj
      simp [runCmd, HotplugQueue.mapIface, hj]
    · simpa [runCmd, HotplugQueue.mapIface, handled] using hnodup.1
    · intro j hj
      simp [runCmd, HotplugQueue.mapIface, hpending, hj]
    · intro _ hfinal
      simp_all [runCmd, HotplugQueue.mapIface, handled]
    · intro j hj hcur
      exact absurd (Option.some.inj hcur).symm hj

theorem callHotplug_sound (h : QueueSound q) : QueueSound (callHotplug q) := by
  refine callHotplug_holds h fun x hlisted hup => ?_
  refine ⟨by simp [handled], by simp [handled], fun _ => ?_⟩
  cases hfinal : x.hotplugEv.isFinal with
  | true => simp [handled, hup.waits hlisted hfinal, hfinal]
  | false =>
    obtain ⟨hqueued, hrun⟩ := hup.updates hlisted hfinal
    simp [handled, hqueued, hrun, hfinal]

theorem callHotplug_busy (hcurrent : q.current = none) : QueueBusy (callHotplug q) := by
  unfold callHotplug
  cases hpending : q.pending with
  | nil => exact ⟨by simp [hcurrent], by simp [hpending]⟩
  | cons i pending => exact ⟨fun _ => rfl, fun _ => rfl⟩

theorem QueueHolds.mapIface {f : HotplugInterface → HotplugInterface} (h : QueueHolds P q)
    (hx : q.iface i = some x) (hlisted : (f x).listed = x.listed)
    (hrun : (f x).lastRun = x.lastRun) (hup : P (f x)) :
    QueueHolds P (q.mapIface i f) := by
  refine h.update (mapIface_self hx) (fun j => mapIface_other) h.nodup ?_ (fun _ _ => Iff.rfl) ?_
    (fun _ _ hcur => ⟨hcur, rfl⟩) hup
  · have hmem := h.mem i
    simpa [HotplugQueue.mapIface, hx, hlisted] using hmem
  · intro hcur hfinal
    rw [hrun]
    exact h.lastRun hcur hx hfinal

theorem QueueHolds.append {ev : InterfaceEvent} (h : QueueHolds P q) (hx : q.iface i = some x)
    (hlisted : x.listed = false)
    (hup : P (noteEvent ev { x with listed := true, hotplugEv := ev })) :
    QueueHolds P ((listAddTail q i ev).mapIface i (noteEvent ev)) := by
  have hnotMem : i ∉ q.pending := fun hmem => by
    obtain ⟨y, hy, hlisted'⟩ := (h.mem i).mp hmem
    obtain rfl : x = y := Option.some.inj (hx.symm.trans hy)
    simp [hlisted] at hlisted'
  have hself : (listAddTail q i ev).iface i = some { x with listed := true, hotplugEv := ev } :=
    mapIface_self hx
  refine h.update (mapIface_self hself) ?_ ?_ ?_ ?_ ?_ (fun _ _ hcur => ⟨hcur, rfl⟩) hup
  · intro j hj
    rw [mapIface_other hj]
    exact mapIface_other hj
  · change (q.pending ++ [i]).Nodup
    rw [List.nodup_append]
    exact ⟨h.nodup, List.nodup_singleton i, fun a ha b hb heq => hnotMem (by simp_all)⟩
  · simp [HotplugQueue.mapIface, listAddTail, noteEvent]
  · intro j hj
    simp [HotplugQueue.mapIface, listAddTail, hj]
  · intro hcur hfinal
    have hrun := h.lastRun hcur hx hfinal
    exact hrun

/-- An event that is merged into what waits, or put into the queue, brings the interface up to
date with itself. -/
theorem mergeEvent_sound {ev : InterfaceEvent} (h : QueueSound q) (hx : q.iface i = some x)
    (hev : ev = .update ∨ ev.isFinal = true) (hupdate : ev = .update → x.lastQueued = some .up) :
    QueueSound ((mergeEvent q i x ev).mapIface i (noteEvent ev)) := by
  have hup := h.holds i x hx
  have hadd : x.listed = false →
      QueueHolds UpToDate ((listAddTail q i ev).mapIface i (noteEvent ev)) := by
    intro hlisted
    refine h.append hx hlisted ⟨fun _ hfinal => ?_, fun _ hfinal => ?_, by simp [noteEvent]⟩
    · exact if_pos hfinal
    · have hfinal' : ev.isFinal = false := hfinal
      obtain rfl : ev = .update := by simpa [hfinal'] using hev
      have hdone := hup.done hlisted
      exact ⟨hupdate rfl, hdone.trans (hupdate rfl)⟩
  have hnote : (x.listed = true → ev = .update) → (x.listed = false → x.lastRun = some ev) →
      QueueHolds UpToDate (q.mapIface i (noteEvent ev)) := by
    intro hwaits hdone
    refine h.mapIface hx rfl rfl
      ⟨fun hlisted hfinal => ?_, fun hlisted hfinal => ?_, fun hlisted => ?_⟩
    · obtain rfl := hwaits hlisted
      exact hup.waits hlisted hfinal
    · obtain rfl := hwaits hlisted
      exact hup.updates hlisted hfinal
    · have hrun := hdone hlisted
      have hqueued := hup.done hlisted
      cases hfinal : ev.isFinal <;> simp [noteEvent, hfinal, hrun, ← hqueued]
  have hoverwrite : x.listed = true → (ev = .update → x.hotplugEv ≠ .up) →
      QueueHolds UpToDate
        ((q.mapIface i fun x => { x with hotplugEv := ev }).mapIface i (noteEvent ev)) := by
    intro hlisted hover
    rw [mapIface_mapIface]
    refine h.mapIface hx rfl rfl ⟨fun _ hfinal => ?_, fun _ hfinal => ?_, ?_⟩
    · exact if_pos hfinal
    · have hfinal' : ev.isFinal = false := hfinal
      obtain rfl : ev = .update := by simpa [hfinal'] using hev
      -- no final event waits, as the interface was told to be up by the last one
      have hold : x.hotplugEv.isFinal = false := by
        by_contra hold
        rw [Bool.not_eq_false] at hold
        have heq := (hup.waits hlisted hold).symm.trans (hupdate rfl)
        exact hover rfl (Option.some.inj heq)
      exact hup.updates hlisted hold
    · simp [noteEvent, hlisted]
  unfold mergeEvent
  split_ifs with hcurrent hlisted hev' hnew hlisted hkept
  · exact hoverwrite hlisted fun hup' => absurd hup' hev'
  · exact hnote (fun _ => not_not.mp hev') (by simp [hlisted])
  · exact hadd (by simpa using hlisted)
  · obtain ⟨heq, hne⟩ := not_or.mp hnew
    rw [not_not] at heq
    have hfinal : ev.isFinal = true := hev.resolve_left hne
    refine hnote (fun hlisted' => absurd hlisted' hlisted) fun _ => ?_
    rw [heq] at hfinal ⊢
    exact h.lastRun hcurrent hx hfinal
  · exact hnote (fun _ => hkept.2) (by simp [hlisted])
  · exact hoverwrite hlisted fun hev' hup' => hkept ⟨hup', hev'⟩
  · exact hadd (by simpa using hlisted)

theorem mergeEvent_task (q : HotplugQueue) (i : ℕ) (x : HotplugInterface) (ev : InterfaceEvent) :
    (mergeEvent q i x ev).taskPending = q.taskPending ∧
      (mergeEvent q i x ev).current = q.current := by
  unfold mergeEvent
  split_ifs <;> exact ⟨rfl, rfl⟩

theorem interfaceQueueEvent_keeps {ev : InterfaceEvent} (h : QueueSound q) (hbusy : QueueBusy q)
    (hx : q.iface i = some x) (hev : ev = .linkUp ∨ ev = .update ∨ ev.isFinal = true)
    (hupdate : ev = .update → x.lastQueued = some .up) :
    QueueSound (interfaceQueueEvent q i ev) ∧ QueueBusy (interfaceQueueEvent q i ev) := by
  simp only [interfaceQueueEvent, hx]
  split_ifs with hlink hidle
  · exact ⟨h, hbusy⟩
  · have hsound := mergeEvent_sound h hx (hev.resolve_left hlink) hupdate
    exact ⟨callHotplug_sound hsound, callHotplug_busy hidle.2⟩
  · refine ⟨mergeEvent_sound h hx (hev.resolve_left hlink) hupdate, ?_⟩
    obtain ⟨htask, hcurrent⟩ := mergeEvent_task q i x ev
    have hrunning : q.taskPending = true := by
      by_contra hidle'
      have hnone : q.current = none := by
        by_contra hsome
        exact hidle' (hbusy.current (Option.isSome_iff_ne_none.mpr hsome))
      refine hidle ⟨?_, hcurrent.trans hnone⟩
      simpa [HotplugQueue.mapIface, htask] using hidle'
    have hstill : ((mergeEvent q i x ev).mapIface i (noteEvent ev)).taskPending = true :=
      htask.trans hrunning
    exact ⟨fun _ => hstill, fun _ => hstill⟩

theorem interfaceDequeueEvent_eq (h : QueueHolds P q) (i : ℕ) :
    hotplugStep q (.free i) =
      { q with
        iface := fun j => if j = i then none else q.iface j
        pending := q.pending.erase i
        current := if q.current = some i then none else q.current } := by
  have hmem := h.mem i
  cases hlisted : (q.iface i).any (·.listed) with
  | true =>
    have hiface : (fun j => if j = i then none
        else (if j = i then (q.iface j).map fun x => { x with listed := false } else q.iface j)) =
        fun j => if j = i then none else q.iface j := by
      funext j
      split_ifs <;> rfl
    simp only [hotplugStep, interfaceEventCb, interfaceDequeueEvent]
    split_ifs with hcurrent <;> simp_all [HotplugQueue.mapIface]
  | false =>
    have hnotMem : i ∉ q.pending := fun hi => by
      obtain ⟨x, hx, hlisted'⟩ := hmem.mp hi
      simp [hx, hlisted'] at hlisted
    simp only [hotplugStep, interfaceEventCb, interfaceDequeueEvent, List.erase_of_not_mem hnotMem]
    split_ifs with hcurrent <;> simp_all

theorem freeInterface_holds (h : QueueHolds P q) (i : ℕ) :
    QueueHolds P (hotplugStep q (.free i)) := by
  rw [interfaceDequeueEvent_eq h]
  refine ⟨h.nodup.erase i, fun j => ?_, fun j hj => ?_, fun j y hy => ?_⟩
  · rcases eq_or_ne j i with rfl | hne
    · simp [h.nodup.not_mem_erase]
    · simp only [List.mem_erase_of_ne hne, hne, if_false]
      exact h.mem j
  · dsimp only at hj ⊢
    split_ifs at hj with hcurrent
    have hne : j ≠ i := by
      rintro rfl
      exact hcurrent hj
    rw [if_neg hne]
    exact h.current j hj
  · dsimp only at hy
    split_ifs at hy
    exact h.holds j y hy

theorem freeInterface_keeps (h : QueueSound q) (hbusy : QueueBusy q) (i : ℕ) :
    QueueSound (hotplugStep q (.free i)) ∧ QueueBusy (hotplugStep q (.free i)) := by
  refine ⟨freeInterface_holds h i, ?_⟩
  rw [interfaceDequeueEvent_eq h]
  constructor
  · dsimp only
    split_ifs
    · simp
    · exact hbusy.current
  · intro hpending
    exact hbusy.pending fun hnil => hpending (by simp [hnil])

theorem createInterface_holds (h : QueueHolds P q) (hnew : P {}) (i : ℕ) :
    QueueHolds P (hotplugStep q (.create i)) := by
  simp only [hotplugStep]
  split_ifs with hnone
  · rw [Option.isNone_iff_eq_none] at hnone
    refine h.update (i := i) (if_pos rfl) (fun j hj => if_neg hj) h.nodup ?_ (fun _ _ => Iff.rfl)
      ?_ (fun _ _ hcur => ⟨hcur, rfl⟩) hnew
    · have hmem := h.mem i
      simpa [hnone] using hmem
    · intro hcur
      obtain ⟨x, hx, -⟩ := h.current i hcur
      simp [hnone] at hx
  · exact h

/-- A step keeps what holds of the queue. -/
theorem hotplugStep_keeps (input : HotplugInput) (h : QueueSound q ∧ QueueBusy q) :
    QueueSound (hotplugStep q input) ∧ QueueBusy (hotplugStep q input) := by
  obtain ⟨h, hbusy⟩ := h
  cases input with
  | create i =>
    refine ⟨?_, ?_⟩
    · exact createInterface_holds h ⟨by simp, by simp, fun _ => rfl⟩ i
    · simp only [hotplugStep]
      split_ifs
      · exact ⟨hbusy.current, hbusy.pending⟩
      · exact hbusy
  | event i ev =>
    simp only [hotplugStep]
    split_ifs with hemits
    · simp only [emits] at hemits
      cases hx : q.iface i with
      | none => simp [hx] at hemits
      | some x =>
        rw [hx] at hemits
        have hqueue := @interfaceQueueEvent_keeps q i x ev h hbusy hx
        cases ev with
        | down => exact hqueue (by simp [InterfaceEvent.isFinal]) (by simp)
        | up => exact hqueue (by simp [InterfaceEvent.isFinal]) (by simp)
        | update => exact hqueue (by simp) fun _ => by simpa using hemits
        | linkUp => exact hqueue (by simp) (by simp)
        | reload => exact ⟨h, hbusy⟩
        | free => cases hemits
    · exact ⟨h, hbusy⟩
  | free i => exact freeInterface_keeps h hbusy i
  | complete =>
    simp only [hotplugStep, taskComplete]
    split_ifs with htask
    · refine ⟨callHotplug_sound ⟨h.nodup, h.mem, by simp, h.holds⟩, callHotplug_busy rfl⟩
    · exact ⟨h, hbusy⟩

/-- In every state of every run, an interface waits in the queue at most once, the task is
running while anything waits, and when nothing waits any more the last final event that a
handler was run for is the last that was queued, for every interface that exists. -/
theorem hotplug_delivers_final_state (inputs : List HotplugInput) :
    let q := run hotplugStep {} inputs
    q.pending.Nodup ∧ (q.pending ≠ [] → q.taskPending = true) ∧
      (q.pending = [] → ∀ i x, q.iface i = some x → x.lastRun = x.lastQueued) := by
  have hstart : QueueSound {} ∧ QueueBusy {} :=
    ⟨⟨by simp, by simp, by simp, by simp⟩, by simp, by simp⟩
  obtain ⟨hsound, hbusy⟩ := run_invariant (I := fun q => QueueSound q ∧ QueueBusy q)
    (fun _ input h => hotplugStep_keeps input h) hstart inputs
  refine ⟨hsound.nodup, hbusy.pending, fun hdrained i x hx => ?_⟩
  apply (hsound.holds i x hx).done
  by_contra hlisted
  have hmem := (hsound.mem i).mpr ⟨x, hx, by simpa using hlisted⟩
  simp [hdrained] at hmem

end Netifd
