import Netifd.HotplugQueue
import Mathlib.Data.List.Chain

/-!
# Handlers that are run twice

The comment in `interface-event.c` says that an interface is removed from the queue when the event
that comes in is the one that its handler is run for. Here the events come in any order.
-/

namespace Netifd.HotplugRepeats
open GuardedRuns

/-- A handler was run for an interface, or the interface was freed. -/
structure HandlerNote where
  iface : ℕ
  event : Option InterfaceEvent

/-- The queue, and what was noted. -/
structure NotedQueue where
  queue : HotplugQueue := {}
  notes : List HandlerNote := []

/-- The queue before `interface_queue_event` looks whether the task is running. -/
def enqueued (q : HotplugQueue) (i : ℕ) (ev : InterfaceEvent) : HotplugQueue :=
  match q.iface i with
  | none => q
  | some x => (mergeEvent q i x ev).mapIface i (noteEvent ev)

/-- The event goes into the queue, and no handler is being run. -/
def callsHandler (q : HotplugQueue) (i : ℕ) (ev : InterfaceEvent) : Bool :=
  (q.iface i).isSome && (ev.isFinal || ev == .update) &&
    (!(enqueued q i ev).taskPending && (enqueued q i ev).current.isNone)

/-- One step; events of an interface come in any order. -/
def queueStep (q : HotplugQueue) : HotplugInput → HotplugQueue
  | .event i ev => if ev = .free then q else interfaceEventCb q i ev
  | .create i => hotplugStep q (.create i)
  | .free i => hotplugStep q (.free i)
  | .complete => hotplugStep q .complete

/-- The handler that `call_hotplug` runs. -/
def calledHandler (q : HotplugQueue) : List HandlerNote :=
  match q.pending with
  | [] => []
  | i :: _ => [⟨i, some (((q.iface i).map (·.hotplugEv)).getD .down)⟩]

def stepNotes (q : HotplugQueue) : HotplugInput → List HandlerNote
  | .event i ev => if callsHandler q i ev then calledHandler (enqueued q i ev) else []
  | .create _ => []
  | .free i => [⟨i, none⟩]
  | .complete =>
    if q.taskPending then calledHandler { q with current := none, taskPending := false } else []

def notedStep (s : NotedQueue) (input : HotplugInput) : NotedQueue :=
  { queue := queueStep s.queue input, notes := s.notes ++ stepNotes s.queue input }

/-- The handlers that were run for an interface, with `none` where it was freed. -/
def notesOf (i : ℕ) (notes : List HandlerNote) : List (Option InterfaceEvent) :=
  (notes.filter (·.iface == i)).map (·.event)

/-- Both are UP, or both are DOWN. -/
def Repeats (e e' : Option InterfaceEvent) : Prop := e = e' ∧ e.any (·.isFinal) = true

/-- No two handlers that are run one after the other for an interface are for the same. -/
def NeverRepeated (notes : List HandlerNote) : Prop :=
  ∀ i, (notesOf i notes).IsChain fun e e' => ¬Repeats e e'

/-- After an UP or DOWN that is the one being handled, the interface does not wait. -/
def EqualRemoved (s : NotedQueue) (input : HotplugInput) : Prop :=
  ∀ i ev, input = .event i ev → ev.isFinal = true → s.queue.current = some i →
    s.queue.currentEv = ev → i ∉ (notedStep s input).queue.pending

/-- An UP or DOWN that is the last that a handler was run for comes only while that handler is
running and nothing waits for the interface. -/
def Fresh (s : NotedQueue) (input : HotplugInput) : Prop :=
  ∀ i ev x, input = .event i ev → ev.isFinal = true → s.queue.iface i = some x →
    x.lastRun = some ev →
    s.queue.current = some i ∧ s.queue.currentEv = ev ∧ x.listed = false

/-- What waits for an interface is not what a handler was last run for. -/
def WaitsForOther (x : HotplugInterface) : Prop :=
  x.listed = true → x.hotplugEv.isFinal = true → x.lastRun ≠ some x.hotplugEv

/-- The last UP or DOWN that was handled is known. -/
def LastKnown (q : HotplugQueue) (notes : List HandlerNote) : Prop :=
  ∀ i ev, ev.isFinal = true → (notesOf i notes).getLast? = some (some ev) →
    ∃ x, q.iface i = some x ∧ x.lastRun = some ev

structure Distinct (s : NotedQueue) : Prop where
  queue : QueueHolds WaitsForOther s.queue
  known : LastKnown s.queue s.notes
  chain : NeverRepeated s.notes

variable {q : HotplugQueue} {notes : List HandlerNote} {i : ℕ} {x : HotplugInterface}
  {ev : InterfaceEvent}

theorem notesOf_append (i : ℕ) (notes notes' : List HandlerNote) :
    notesOf i (notes ++ notes') = notesOf i notes ++ notesOf i notes' := by
  simp [notesOf]

theorem notesOf_self (i : ℕ) (event : Option InterfaceEvent) :
    notesOf i [⟨i, event⟩] = [event] := by
  simp [notesOf]

theorem notesOf_other {j : ℕ} (hne : j ≠ i) (event : Option InterfaceEvent) :
    notesOf j [⟨i, event⟩] = [] := by
  simp [notesOf, hne.symm]

theorem NeverRepeated.append {event : Option InterfaceEvent} (h : NeverRepeated notes)
    (hlast : ∀ e ∈ (notesOf i notes).getLast?, ¬Repeats e event) :
    NeverRepeated (notes ++ [⟨i, event⟩]) := by
  intro j
  rw [notesOf_append]
  rcases eq_or_ne j i with rfl | hne
  · rw [notesOf_self]
    refine (h j).append (List.isChain_singleton _) fun e he e' he' => ?_
    obtain rfl : event = e' := by simpa using he'
    exact hlast e he
  · rw [notesOf_other hne, List.append_nil]
    exact h j

/-- The next handler is not for what the last was for. -/
theorem callHotplug_distinct (h : QueueHolds WaitsForOther q) (hknown : LastKnown q notes)
    (hchain : NeverRepeated notes) :
    QueueHolds WaitsForOther (callHotplug q) ∧
      LastKnown (callHotplug q) (notes ++ calledHandler q) ∧
      NeverRepeated (notes ++ calledHandler q) := by
  refine ⟨callHotplug_holds h (fun x _ _ hlisted => by cases hlisted), ?_⟩
  unfold callHotplug calledHandler
  cases hpending : q.pending with
  | nil => simpa using ⟨hknown, hchain⟩
  | cons i pending =>
    obtain ⟨x, hx, hlisted⟩ := (h.mem i).mp (by simp [hpending])
    have hself : (callHotplug q).iface i = some (handled x) := by
      simp [callHotplug, hpending, runCmd, HotplugQueue.mapIface, hx, handled]
    have hother (j : ℕ) (hne : j ≠ i) : (callHotplug q).iface j = q.iface j := by
      simp [callHotplug, hpending, runCmd, HotplugQueue.mapIface, hne]
    rw [callHotplug, hpending] at hself hother
    have hevent : ((q.iface i).map (·.hotplugEv)).getD .down = x.hotplugEv := by simp [hx]
    dsimp only at hself hother ⊢
    refine ⟨?_, hchain.append ?_⟩
    · intro j ev hfinal hlast
      rw [notesOf_append] at hlast
      rcases eq_or_ne j i with rfl | hne
      · rw [notesOf_self, List.getLast?_concat, hevent] at hlast
        obtain rfl : x.hotplugEv = ev := by simpa using hlast
        exact ⟨handled x, hself, by simp [handled, hfinal]⟩
      · rw [notesOf_other hne, List.append_nil] at hlast
        rw [hother j hne]
        exact hknown j ev hfinal hlast
    · rintro e he ⟨rfl, hfinal⟩
      rw [hevent] at he hfinal
      obtain ⟨y, hy, hrun⟩ := hknown i x.hotplugEv (by simpa using hfinal) he
      obtain rfl : x = y := Option.some.inj (hx.symm.trans hy)
      exact h.holds i x hx hlisted (by simpa using hfinal) hrun

theorem LastKnown.congr {q' : HotplugQueue} (h : LastKnown q notes)
    (hiface : ∀ j x, q.iface j = some x → ∃ x', q'.iface j = some x' ∧ x'.lastRun = x.lastRun) :
    LastKnown q' notes := by
  intro j ev hfinal hlast
  obtain ⟨x, hx, hrun⟩ := h j ev hfinal hlast
  obtain ⟨x', hx', hrun'⟩ := hiface j x hx
  exact ⟨x', hx', hrun'.trans hrun⟩

theorem mapIface_lastRun {f : HotplugInterface → HotplugInterface}
    (hf : ∀ x, (f x).lastRun = x.lastRun) (q : HotplugQueue) (i j : ℕ) (x : HotplugInterface)
    (hx : q.iface j = some x) :
    ∃ x', (q.mapIface i f).iface j = some x' ∧ x'.lastRun = x.lastRun := by
  rcases eq_or_ne j i with rfl | hne
  · exact ⟨f x, mapIface_self hx, hf x⟩
  · exact ⟨x, (mapIface_other hne).trans hx, rfl⟩

theorem enqueued_lastRun (q : HotplugQueue) (i : ℕ) (ev : InterfaceEvent) (j : ℕ)
    (y : HotplugInterface) (hy : q.iface j = some y) :
    ∃ y', (enqueued q i ev).iface j = some y' ∧ y'.lastRun = y.lastRun := by
  have hnote : ∃ y', (q.mapIface i (noteEvent ev)).iface j = some y' ∧ y'.lastRun = y.lastRun :=
    mapIface_lastRun (f := noteEvent ev) (fun _ => rfl) q i j y hy
  have hset (f : HotplugInterface → HotplugInterface) (hf : ∀ x, (f x).lastRun = x.lastRun) :
      ∃ y', ((q.mapIface i f).mapIface i (noteEvent ev)).iface j = some y' ∧
        y'.lastRun = y.lastRun := by
    rw [mapIface_mapIface]
    apply mapIface_lastRun (fun x => ?_) q i j y hy
    exact hf x
  unfold enqueued
  cases hx : q.iface i with
  | none => exact ⟨y, hy, rfl⟩
  | some x =>
    dsimp only
    unfold mergeEvent
    split_ifs
    · exact hset _ fun _ => rfl
    · exact hnote
    · exact hset _ fun _ => rfl
    · exact hnote
    · exact hnote
    · exact hset _ fun _ => rfl
    · exact hset _ fun _ => rfl

/-- An event that is not the last that was handled may wait. -/
theorem enqueued_holds (h : QueueHolds WaitsForOther q)
    (hfresh : ∀ x, ev.isFinal = true → q.iface i = some x → x.lastRun = some ev →
      q.current = some i ∧ q.currentEv = ev ∧ x.listed = false) :
    QueueHolds WaitsForOther (enqueued q i ev) := by
  unfold enqueued
  cases hx : q.iface i with
  | none => exact h
  | some x =>
    have hnote : QueueHolds WaitsForOther (q.mapIface i (noteEvent ev)) :=
      h.mapIface hx rfl rfl (h.holds i x hx)
    have hoverwrite (hlisted : x.listed = true) : QueueHolds WaitsForOther
        ((q.mapIface i fun x => { x with hotplugEv := ev }).mapIface i (noteEvent ev)) := by
      rw [mapIface_mapIface]
      refine h.mapIface hx rfl rfl fun _ hfinal hrun => ?_
      have hunlisted := (hfresh x hfinal hx hrun).2.2
      rw [hlisted] at hunlisted
      cases hunlisted
    have hadd (hlisted : x.listed = false) (hnew : ev.isFinal = true → x.lastRun ≠ some ev) :
        QueueHolds WaitsForOther ((listAddTail q i ev).mapIface i (noteEvent ev)) :=
      h.append hx hlisted fun _ hfinal => hnew hfinal
    dsimp only
    unfold mergeEvent
    split_ifs with hcurrent hlisted hev hnew hlisted hkept
    · exact hoverwrite hlisted
    · exact hnote
    · refine hadd (by simpa using hlisted) fun hfinal hrun => ?_
      rcases hnew with hne | rfl
      · exact hne (hfresh x hfinal hx hrun).2.1.symm
      · cases hfinal
    · exact hnote
    · exact hnote
    · exact hoverwrite hlisted
    · refine hadd (by simpa using hlisted) fun hfinal hrun => ?_
      exact hcurrent (hfresh x hfinal hx hrun).1

theorem interfaceQueueEvent_eq (hev : ev.isFinal = true ∨ ev = .update) :
    interfaceQueueEvent q i ev =
      if callsHandler q i ev then callHotplug (enqueued q i ev) else enqueued q i ev := by
  have hlink : ev ≠ .linkUp := by
    rintro rfl
    rcases hev with hev | hev <;> cases hev
  have hqueued : (ev.isFinal || ev == .update) = true := by simpa using hev
  cases hx : q.iface i with
  | none => simp [interfaceQueueEvent, callsHandler, enqueued, hx]
  | some x =>
    have hcalls : callsHandler q i ev = true ↔
        ((mergeEvent q i x ev).mapIface i (noteEvent ev)).taskPending = false ∧
          ((mergeEvent q i x ev).mapIface i (noteEvent ev)).current = none := by
      simp [callsHandler, enqueued, hx, hqueued]
    simp only [interfaceQueueEvent, hx, if_neg hlink, hcalls]
    rw [enqueued, hx]

variable {s : NotedQueue}

theorem event_distinct (h : Distinct s) (hev : ev.isFinal = true ∨ ev = .update)
    (hfresh : Fresh s (.event i ev)) :
    Distinct
      { queue := interfaceQueueEvent s.queue i ev
        notes := s.notes ++ stepNotes s.queue (.event i ev) } := by
  have hholds : QueueHolds WaitsForOther (enqueued s.queue i ev) :=
    enqueued_holds h.queue fun x hfinal hx hrun => hfresh i ev x rfl hfinal hx hrun
  have hknown := h.known.congr (enqueued_lastRun s.queue i ev)
  rw [interfaceQueueEvent_eq hev, stepNotes]
  split_ifs
  · obtain ⟨hqueue, hlast, hchain⟩ := callHotplug_distinct hholds hknown h.chain
    exact ⟨hqueue, hlast, hchain⟩
  · rw [List.append_nil]
    exact ⟨hholds, hknown, h.chain⟩

/-- A step that meets the condition does not repeat a handler. -/
theorem notedStep_distinct (input : HotplugInput) (h : Distinct s) (hfresh : Fresh s input) :
    Distinct (notedStep s input) := by
  cases input with
  | create i =>
    refine ⟨createInterface_holds h.queue (fun hlisted => by cases hlisted) i, ?_, ?_⟩
    · simp only [notedStep, queueStep, stepNotes, List.append_nil]
      refine h.known.congr fun j x hx => ?_
      simp only [hotplugStep]
      split_ifs with hnone
      · have hne : j ≠ i := by
          rintro rfl
          simp [hx] at hnone
        exact ⟨x, (if_neg hne).trans hx, rfl⟩
      · exact ⟨x, hx, rfl⟩
    · simpa [notedStep, stepNotes] using h.chain
  | event i ev =>
    have hidle : stepNotes s.queue (.event i ev) = [] → queueStep s.queue (.event i ev) = s.queue →
        Distinct (notedStep s (.event i ev)) := by
      intro hnotes hqueue
      rw [notedStep, hnotes, hqueue, List.append_nil]
      exact h
    cases ev with
    | down => exact event_distinct h (.inl rfl) hfresh
    | up => exact event_distinct h (.inl rfl) hfresh
    | update => exact event_distinct h (.inr rfl) hfresh
    | free => exact hidle (by simp [stepNotes, callsHandler, InterfaceEvent.isFinal]) rfl
    | reload => exact hidle (by simp [stepNotes, callsHandler, InterfaceEvent.isFinal]) rfl
    | linkUp =>
      refine hidle (by simp [stepNotes, callsHandler, InterfaceEvent.isFinal]) ?_
      simp only [queueStep, interfaceEventCb, interfaceQueueEvent]
      cases s.queue.iface i <;> rfl
  | free i =>
    refine ⟨freeInterface_holds h.queue i, ?_, h.chain.append ?_⟩
    · intro j ev hfinal hlast
      simp only [notedStep, stepNotes, notesOf_append] at hlast
      rcases eq_or_ne j i with rfl | hne
      · rw [notesOf_self, List.getLast?_concat] at hlast
        cases hlast
      · rw [notesOf_other hne, List.append_nil] at hlast
        obtain ⟨x, hx, hrun⟩ := h.known j ev hfinal hlast
        refine ⟨x, ?_, hrun⟩
        simp only [notedStep, queueStep]
        rw [interfaceDequeueEvent_eq h.queue]
        exact (if_neg hne).trans hx
    · rintro _ _ ⟨rfl, hfinal⟩
      cases hfinal
  | complete =>
    simp only [notedStep, queueStep, stepNotes, hotplugStep, taskComplete]
    split_ifs with htask
    · have hidle : QueueHolds WaitsForOther
          { s.queue with current := none, taskPending := false } :=
        ⟨h.queue.nodup, h.queue.mem, (fun _ hcur => by cases hcur), h.queue.holds⟩
      obtain ⟨hqueue, hlast, hchain⟩ := callHotplug_distinct hidle h.known h.chain
      exact ⟨hqueue, hlast, hchain⟩
    · rw [List.append_nil]
      exact h

theorem equalRemoved_of_fresh {input : HotplugInput} (h : Distinct s) (hfresh : Fresh s input) :
    EqualRemoved s input := by
  rintro i ev rfl hfinal hcurrent hcurrentEv hmem
  obtain ⟨x, hx, hrun⟩ := h.queue.current i hcurrent
  have hrun : x.lastRun = some ev := by
    rw [hcurrentEv] at hrun
    exact hrun hfinal
  have hunlisted := (hfresh i ev x rfl hfinal hx hrun).2.2
  have hupdate : ev ≠ .update := by
    rintro rfl
    cases hfinal
  have hmerge : mergeEvent s.queue i x ev = s.queue := by
    simp [mergeEvent, hcurrent, hunlisted, hcurrentEv, hupdate]
  have hstep : queueStep s.queue (.event i ev) = interfaceQueueEvent s.queue i ev := by
    cases ev <;> first | rfl | cases hfinal
  have hcalls : callsHandler s.queue i ev = false := by
    simp [callsHandler, enqueued, hx, hmerge, HotplugQueue.mapIface, hcurrent]
  rw [notedStep, hstep, interfaceQueueEvent_eq (.inl hfinal), hcalls, enqueued, hx] at hmem
  dsimp only at hmem
  rw [hmerge] at hmem
  obtain ⟨y, hy, hlisted⟩ := (h.queue.mem i).mp hmem
  obtain rfl : x = y := Option.some.inj (hx.symm.trans hy)
  rw [hunlisted] at hlisted
  cases hlisted

theorem waits_of_emitted (h : QueueSound q) (hx : q.iface i = some x) (hemits : emits q i ev = true)
    (hfinal : ev.isFinal = true) (hrun : x.lastRun = some ev) : x.listed = true := by
  by_contra hidle
  have hqueued : x.lastQueued = some ev :=
    ((h.holds i x hx).done (by simpa using hidle)).symm.trans hrun
  cases ev with
  | up => simp [emits, hx, hqueued] at hemits
  | down => simp [emits, hx, hqueued] at hemits
  | update => cases hfinal
  | free => cases hfinal
  | reload => cases hfinal
  | linkUp => cases hfinal

/-- In every state of a run, no handler is repeated, and the next step removes an interface from
the queue whose event comes again. -/
def NeverSeenTwice (inputs : List HotplugInput) : Prop :=
  ∀ n, NeverRepeated (run notedStep {} (inputs.take n)).notes ∧
    ∀ input, inputs[n]? = some input → EqualRemoved (run notedStep {} (inputs.take n)) input

theorem handlers_not_repeated_of_run {inputs : List HotplugInput}
    (hok : AllOk notedStep Fresh {} inputs) : NeverSeenTwice inputs := by
  have hstart : Distinct {} := by
    refine ⟨⟨by simp, by simp, by simp, by simp⟩, ?_, ?_⟩
    · intro i ev _ hlast
      cases hlast
    · exact fun i => List.isChain_nil
  intro n
  have hdistinct : Distinct (run notedStep {} (inputs.take n)) :=
    run_property_of_allOk (fun s input h hfresh => notedStep_distinct input h hfresh) hstart hok n
  exact ⟨hdistinct.chain, fun input hinput => equalRemoved_of_fresh hdistinct (hok.at hinput)⟩

/-- An interface goes up and down. -/
def upAndDown : List HotplugInput :=
  [.create 0, .event 0 .up, .event 0 .down, .complete, .complete]

/-- An interface goes down and up again while the handler for UP is run. -/
def upAgain : List HotplugInput :=
  [.create 0, .event 0 .up, .event 0 .down, .event 0 .up, .complete]

theorem handlers_not_repeated_of_up_and_down : NeverSeenTwice upAndDown := by
  refine handlers_not_repeated_of_run ⟨?_, ?_, ?_, ?_, ?_, trivial⟩
  · rintro i ev x h
    cases h
  · rintro i ev x h _ hx hrun
    cases h
    cases hx
    cases hrun
  · rintro i ev x h _ hx hrun
    cases h
    cases hx
    cases hrun
  · rintro i ev x h
    cases h
  · rintro i ev x h
    cases h

/-- The handler for UP is run twice. -/
theorem up_handled_twice : ¬∀ inputs, NeverSeenTwice inputs := by
  intro h
  have hchain := (h upAgain 5).1 0
  have hnotes : notesOf 0 (run notedStep {} (upAgain.take 5)).notes = [some .up, some .up] := by
    decide
  rw [hnotes, List.isChain_pair] at hchain
  exact hchain ⟨rfl, rfl⟩

end Netifd.HotplugRepeats
