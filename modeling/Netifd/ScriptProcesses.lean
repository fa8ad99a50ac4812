import Netifd.WirelessRelations

/-!
# Processes of wireless scripts

The processes that a script leaves behind are looked after by the timer `script_check` or through
the pipe `script_proc_fd`, whose other end they hold.
-/

namespace Netifd.ScriptProcesses
open GuardedRuns

variable {β : Type}

/-- A step, and whether there is a pipe for the script that it starts. -/
structure ProcessStep (β : Type) where
  step : WirelessStep β
  pipe : Bool := true

/-- The note of the last setup is for one step here. -/
def forgetSetup (wdev : WirelessDevice β) : WirelessDevice β := { wdev with lastSetup := none }

/-- A setup that was started without a pipe has no descriptor. -/
def closeUnpiped (pipe : Bool) (wdev : WirelessDevice β) : WirelessDevice β :=
  { wdev with scriptProcFd := wdev.scriptProcFd && (pipe || wdev.lastSetup.isNone) }

def processStep [DecidableEq β] (m : Wireless β) (op : ProcessStep β) : Wireless β :=
  (wirelessStep (m.modify forgetSetup) op.step).modify (closeUnpiped op.pipe)

/-- The pipe is closed if it still is there, and the timer expires, after all processes have
ended. -/
def wakeUps : List (ProcessStep β) :=
  [{ step := { input := .pollFd } }, { step := { input := .scriptCheck fun _ => false } }]

/-- Processes that are left are looked after. -/
def Monitored (wdev : WirelessDevice β) : Prop :=
  wdev.scriptProc ≠ [] → wdev.scriptCheck = true ∨ wdev.scriptProcFd = true

/-- The processes of the device are looked after, so that a request to kill them is complete when
they have ended. -/
structure Watched [DecidableEq β] (m : Wireless β) : Prop where
  monitored : ∀ wdev, m.wdev = some wdev → Monitored wdev
  woken : ∀ wdev, m.wdev = some wdev → wdev.killRequest = true →
    ∀ wdev', (run processStep m wakeUps).wdev = some wdev' → wdev'.killRequest = false

/-- A step completes a request just if it leaves no process. -/
def AnsweredOnce (m m' : Wireless β) : Prop :=
  ∀ wdev, m.wdev = some wdev → wdev.killRequest = true →
    ∀ wdev', m'.wdev = some wdev' → wdev'.killRequest = !wdev'.scriptProc.isEmpty

/-- When the timer finds that a required process has ended, no other is left or the pipe is
open. -/
def Rearmed (m : Wireless β) (op : ProcessStep β) : Prop :=
  ∀ alive, op.step.input = .scriptCheck alive → ∀ wdev, m.wdev = some wdev →
    wdev.scriptCheck = true →
    (∃ proc ∈ wdev.scriptProc, alive proc.pid = false ∧ proc.required = true) →
    (∀ proc ∈ wdev.scriptProc, alive proc.pid = false) ∨ wdev.scriptProcFd = true

/-- The processes are left alone. A setup may be started when the device is down. -/
structure Untouched (wdev wdev' : WirelessDevice β) : Prop where
  procs : wdev'.scriptProc = wdev.scriptProc
  check : wdev'.scriptCheck = wdev.scriptCheck
  request : wdev'.killRequest = wdev.killRequest
  stays : wdev.scriptProcFd = true → wdev'.scriptProcFd = true
  teardown : wdev.state = .teardown → wdev'.state = .teardown
  down : wdev'.state = .down → wdev.state = .down ∧ wdev'.scriptProcFd = wdev.scriptProcFd
  started : wdev'.lastSetup.isSome = true → wdev.lastSetup.isSome = true ∨ wdev.state = .down

/-- All processes are gone. -/
structure Cleared (wdev : WirelessDevice β) : Prop where
  procs : wdev.scriptProc = []
  request : wdev.killRequest = false
  closed : wdev.state = .down → wdev.scriptProcFd = false

/-- A request is pending while processes are left of a teardown, and a device that is down has no
pipe. -/
structure ProcessSound (wdev : WirelessDevice β) : Prop where
  request : wdev.killRequest = true → wdev.state = .teardown ∧ wdev.scriptProc ≠ []
  closed : wdev.state = .down → wdev.scriptProcFd = false

section Untouched

variable {wdev wdev' wdev'' : WirelessDevice β} (forks : Bool)

theorem Untouched.refl (wdev : WirelessDevice β) : Untouched wdev wdev :=
  ⟨rfl, rfl, rfl, id, id, fun h => ⟨h, rfl⟩, Or.inl⟩

theorem Untouched.trans (h : Untouched wdev wdev') (h' : Untouched wdev' wdev'') :
    Untouched wdev wdev'' where
  procs := h'.procs.trans h.procs
  check := h'.check.trans h.check
  request := h'.request.trans h.request
  stays := fun hopen => h'.stays (h.stays hopen)
  teardown := fun hstate => h'.teardown (h.teardown hstate)
  down := fun hstate =>
    let hmiddle := h'.down hstate
    ⟨(h.down hmiddle.1).1, hmiddle.2.trans (h.down hmiddle.1).2⟩
  started := fun hsetup => (h'.started hsetup).elim h.started fun hstate => .inr (h.down hstate).1

theorem Cleared.untouched (h : Cleared wdev) (h' : Untouched wdev wdev') : Cleared wdev' where
  procs := h'.procs.trans h.procs
  request := h'.request.trans h.request
  closed := fun hstate => (h'.down hstate).2.trans (h.closed (h'.down hstate).1)

theorem ProcessSound.untouched (h : ProcessSound wdev) (h' : Untouched wdev wdev') :
    ProcessSound wdev' where
  request := by
    rw [h'.request, h'.procs]
    exact fun hpending => ⟨h'.teardown (h.request hpending).1, (h.request hpending).2⟩
  closed := fun hstate => (h'.down hstate).2.trans (h.closed (h'.down hstate).1)

theorem Cleared.sound (h : Cleared wdev) : ProcessSound wdev :=
  ⟨(fun hpending => by
    rw [h.request] at hpending
    cases hpending), h.closed⟩

theorem Monitored.untouched (h : Monitored wdev) (h' : Untouched wdev wdev') :
    Monitored wdev' := by
  unfold Monitored
  rw [h'.procs, h'.check]
  exact fun hprocs => (h hprocs).imp_right h'.stays

theorem setUp'_untouched (configInit : Bool) (wdev : WirelessDevice β) :
    Untouched wdev (wirelessDeviceSetUp' forks configInit wdev) := by
  unfold wirelessDeviceSetUp'
  split_ifs with hguard
  · exact .refl wdev
  · have hdown : wdev.state = .down := by
      simp only [Bool.or_eq_true, not_or, bne_iff_ne, ne_eq, not_not] at hguard
      exact hguard.1.2
    refine ⟨rfl, rfl, rfl, ?_, ?_, (fun h => by cases h), fun _ => .inr hdown⟩
    · intro hopen
      simp [wirelessDeviceRunHandler, hopen]
    · intro hstate
      rw [hdown] at hstate
      cases hstate

theorem setDown'_untouched (wdev : WirelessDevice β) :
    Untouched wdev (wirelessDeviceSetDown' forks wdev) := by
  unfold wirelessDeviceSetDown' wirelessDeviceSetupCancel
  split_ifs with hdown htask hcancel
  · exact .refl wdev
  · exact .refl wdev
  · exact ⟨rfl, rfl, rfl, id, id, fun h => ⟨h, rfl⟩, Or.inl⟩
  · refine ⟨rfl, rfl, rfl, ?_, fun _ => rfl, (fun h => by cases h), Or.inl⟩
    intro hopen
    simp [wirelessDeviceRunHandler, hopen]

theorem retrySetup_untouched (wdev : WirelessDevice β) :
    Untouched wdev (wirelessDeviceRetrySetup forks wdev) := by
  unfold wirelessDeviceRetrySetup
  split_ifs
  · exact .refl wdev
  · refine Untouched.trans ?_ (setDown'_untouched forks _)
    exact ⟨rfl, rfl, rfl, id, id, fun h => ⟨h, rfl⟩, Or.inl⟩

theorem markUp_untouched (hstate : wdev.state = .setup) :
    Untouched wdev (wirelessDeviceMarkUp forks wdev) := by
  unfold wirelessDeviceMarkUp
  split_ifs
  · refine Untouched.trans ?_ (setDown'_untouched forks _)
    exact ⟨rfl, rfl, rfl, id, id, fun h => ⟨h, rfl⟩, Or.inl⟩
  · refine ⟨rfl, rfl, rfl, id, ?_, (fun h => by cases h), Or.inl⟩
    intro hteardown
    rw [hstate] at hteardown
    cases hteardown

theorem markedDown_cleared (wdev : WirelessDevice β) : Cleared (markedDown wdev) := by
  refine ⟨rfl, rfl, fun _ => ?_⟩
  simp [markedDown, wirelessDeviceFreeState, wirelessProcessKillAll]

end Untouched

section Quiet

variable {m : Wireless β} {wdev : WirelessDevice β} (forks : Bool)

/-- The processes of the device are left alone or all ended. -/
def Quiet (m m' : Wireless β) : Prop := Follows Cleared Untouched m m'

theorem untouched_carried : @CarriedAlong β Cleared Untouched where
  refl := .refl
  trans := .trans
  keepsNew := .untouched
  setUp' := setUp'_untouched
  setDown' := setDown'_untouched
  markedDown wdev := .inl (markedDown_cleared wdev)
  configState _ _ := ⟨rfl, rfl, rfl, id, id, fun h => ⟨h, rfl⟩, Or.inl⟩
  interfaces _ _ := ⟨rfl, rfl, rfl, id, id, fun h => ⟨h, rfl⟩, Or.inl⟩

theorem scriptTaskCb_quiet (hwdev : m.wdev = some wdev) :
    Quiet m (wirelessDeviceScriptTaskCb forks m) :=
  untouched_carried.scriptTaskCb forks hwdev (retrySetup_untouched forks wdev)

theorem setupTimeout_quiet (again : Bool) (hwdev : m.wdev = some wdev) :
    Quiet m (wirelessDeviceSetupTimeout forks again m) := by
  rw [wirelessDeviceSetupTimeout, onDevice_some hwdev]
  have hkilled : Quiet m (m.set { wdev with scriptTask := false }) :=
    CarriedAlong.set hwdev ⟨rfl, rfl, rfl, id, id, fun h => ⟨h, rfl⟩, Or.inl⟩
  have hended := untouched_carried.comp hkilled (scriptTaskCb_quiet forks rfl)
  exact untouched_carried.markDownNext again hended

variable [DecidableEq β]

theorem configInitDevice_quiet (dev : Option (β × Bool)) (m : Wireless β) :
    Quiet m (configInitDevice forks dev m) := by
  unfold configInitDevice
  cases hwdev : m.wdev with
  | none =>
    cases dev with
    | none => exact untouched_carried.same m
    | some section_ =>
      dsimp only
      rw [wirelessDeviceCreate, hwdev]
      exact CarriedAlong.setNew ⟨rfl, rfl, fun _ => rfl⟩
  | some wdev =>
    cases dev with
    | none => exact untouched_carried.setConfigState forks .remove hwdev
    | some section_ =>
      dsimp only
      rw [wirelessDeviceCreate, hwdev]
      dsimp only
      rw [wdevChangeConfig, onDevice_some hwdev]
      split_ifs
      · exact untouched_carried.same m
      · refine untouched_carried.comp ?_ (untouched_carried.setConfigState forks .reload rfl)
        exact CarriedAlong.set hwdev ⟨rfl, rfl, rfl, id, id, fun h => ⟨h, rfl⟩, Or.inl⟩

theorem scriptExit_quiet (again : Bool) (m : Wireless β) :
    Quiet m (wirelessStep m { input := .scriptExit, forks, again }) := by
  simp only [wirelessStep]
  cases hwdev : m.wdev with
  | none => exact untouched_carried.same m
  | some wdev =>
    have hended : Quiet m (m.set { wdev with scriptTask := false }) :=
      CarriedAlong.set hwdev ⟨rfl, rfl, rfl, id, id, fun h => ⟨h, rfl⟩, Or.inl⟩
    dsimp only
    split_ifs
    · exact untouched_carried.comp hended (scriptTaskCb_quiet forks rfl)
    · exact untouched_carried.same m

theorem timeout_quiet (again : Bool) (m : Wireless β) :
    Quiet m (wirelessStep m { input := .timeout, forks, again }) := by
  simp only [wirelessStep]
  cases hwdev : m.wdev with
  | none => exact untouched_carried.same m
  | some wdev =>
    have hexpired : Quiet m (m.set { wdev with timeout := false }) :=
      CarriedAlong.set hwdev ⟨rfl, rfl, rfl, id, id, fun h => ⟨h, rfl⟩, Or.inl⟩
    dsimp only
    split_ifs
    · exact untouched_carried.comp hexpired (setupTimeout_quiet forks again rfl)
    · exact untouched_carried.same m

end Quiet

section Runs

variable {m : Wireless β} {wdev wdev' : WirelessDevice β}

/-- What an input does to the processes of a device. -/
def processInput (input : WirelessInput β) (wdev : WirelessDevice β) : WirelessDevice β :=
  match input with
  | .processAdd proc => { wdev with scriptProc := proc :: wdev.scriptProc, scriptCheck := true }
  | .processKillAll alive immediate => wirelessDeviceProcessKillAll alive immediate wdev
  | .pollFd =>
    if wdev.scriptProcFd then { wdev with scriptCheck := true, scriptProcFd := false } else wdev
  | .scriptCheck alive =>
    if wdev.scriptCheck then
      { wirelessProcessFree wdev (wdev.scriptProc.filter fun proc => alive proc.pid) with
        scriptCheck := !wdev.scriptProc.any fun proc => !alive proc.pid && proc.required }
    else wdev
  | _ => wdev

theorem ProcessSound.processInput (h : ProcessSound wdev) (input : WirelessInput β) :
    ProcessSound (processInput input wdev) := by
  cases input with
  | processAdd proc =>
    exact ⟨fun hpending => ⟨(h.request hpending).1, List.cons_ne_nil _ _⟩, h.closed⟩
  | processKillAll alive immediate =>
    simp only [ScriptProcesses.processInput, wirelessDeviceProcessKillAll]
    split_ifs with hrefused hnone
    · exact h
    · rw [not_or, Bool.not_eq_true, not_not] at hrefused
      constructor
      · intro hpending
        simp [wirelessProcessKillAll, wirelessProcessFree, hrefused.2] at hpending
      · intro hdown
        exact absurd (hrefused.1.symm.trans hdown) (by decide)
    · rw [not_or, Bool.not_eq_true, not_not] at hrefused
      constructor
      · exact fun _ => ⟨hrefused.1, by simpa using hnone⟩
      · intro hdown
        exact absurd (hrefused.1.symm.trans hdown) (by decide)
  | pollFd =>
    simp only [ScriptProcesses.processInput]
    split_ifs
    · exact ⟨h.request, fun _ => rfl⟩
    · exact h
  | scriptCheck alive =>
    simp only [ScriptProcesses.processInput]
    split_ifs
    · refine ⟨?_, h.closed⟩
      intro hpending
      simp only [wirelessProcessFree, Bool.and_eq_true, Bool.not_eq_true'] at hpending
      obtain ⟨hteardown, hprocs⟩ := h.request hpending.1
      refine ⟨hteardown, ?_⟩
      intro hnone
      have hleft := hpending.2
      simp only [wirelessProcessFree] at hnone
      rw [hnone] at hleft
      simp [hprocs] at hleft
    · exact h
  | _ => exact h

/-- The processes stay looked after, unless the timer is not set again. -/
theorem monitored_processInput (h : Monitored wdev) (input : WirelessInput β) :
    Monitored (processInput input wdev) ↔
      ∀ alive, input = .scriptCheck alive → wdev.scriptCheck = true →
        (∃ proc ∈ wdev.scriptProc, alive proc.pid = false ∧ proc.required = true) →
        (∀ proc ∈ wdev.scriptProc, alive proc.pid = false) ∨ wdev.scriptProcFd = true := by
  cases input with
  | scriptCheck alive =>
    have hany : (wdev.scriptProc.any fun proc => !alive proc.pid && proc.required) = true ↔
        ∃ proc ∈ wdev.scriptProc, alive proc.pid = false ∧ proc.required = true := by
      simp
    simp only [ScriptProcesses.processInput]
    constructor
    · rintro hmonitored _ ⟨rfl⟩ harmed hdead
      rw [if_pos harmed] at hmonitored
      by_cases hleft : wdev.scriptProc.filter (fun proc => alive proc.pid) = []
      · left
        simpa using List.filter_eq_nil_iff.mp hleft
      · right
        have hwatched := hmonitored hleft
        rw [hany.mpr hdead] at hwatched
        simpa [wirelessProcessFree] using hwatched
    · intro hcondition
      split_ifs with harmed
      · intro hleft
        by_cases hdead : (wdev.scriptProc.any fun proc => !alive proc.pid && proc.required) = true
        · rcases hcondition alive rfl harmed (hany.mp hdead) with hall | hopen
          · refine absurd (List.filter_eq_nil_iff.mpr ?_) hleft
            simpa using hall
          · exact .inr hopen
        · left
          simpa using hdead
      · exact h
  | processAdd proc => exact iff_of_true (fun _ => .inl rfl) (fun _ heq => by cases heq)
  | processKillAll alive immediate =>
    refine iff_of_true ?_ (fun _ heq => by cases heq)
    simp only [ScriptProcesses.processInput, wirelessDeviceProcessKillAll]
    split_ifs with _ hnone
    · exact h
    · exact fun hleft => absurd (List.isEmpty_iff.mp hnone) hleft
    · cases immediate with
      | true => exact fun hleft => absurd rfl hleft
      | false =>
        intro hleft
        have hprocs : wdev.scriptProc ≠ [] := by
          rintro hnil
          simp [wirelessProcessKillAll, wirelessProcessFree, hnil] at hleft
        simpa [wirelessProcessKillAll, wirelessProcessFree] using h hprocs
  | pollFd =>
    refine iff_of_true ?_ (fun _ heq => by cases heq)
    simp only [ScriptProcesses.processInput]
    split_ifs
    · exact fun _ => .inl rfl
    · exact h
  | _ => exact iff_of_true h (fun _ heq => by cases heq)

theorem processInput_forget (input : WirelessInput β) (wdev : WirelessDevice β) :
    processInput input (forgetSetup wdev) = forgetSetup (processInput input wdev) := by
  cases input with
  | processKillAll alive immediate =>
    simp only [processInput, wirelessDeviceProcessKillAll]
    split_ifs <;> first | rfl | contradiction
  | pollFd =>
    simp only [processInput]
    split_ifs <;> first | rfl | contradiction
  | scriptCheck alive =>
    simp only [processInput]
    split_ifs <;> first | rfl | contradiction
  | _ => rfl

theorem checkScriptTasks_eq (alive : ℕ → Bool) (forks : Bool) (harmed : wdev.scriptCheck = true) :
    wirelessDeviceCheckScriptTasks alive forks { wdev with scriptCheck := false } =
      if (processInput (.scriptCheck alive) wdev).scriptCheck then
        processInput (.scriptCheck alive) wdev
      else wirelessDeviceRetrySetup forks (processInput (.scriptCheck alive) wdev) := by
  simp only [wirelessDeviceCheckScriptTasks, processInput, if_pos harmed]
  cases wdev.scriptProc.any fun proc => !alive proc.pid && proc.required <;> rfl

theorem checkScriptTasks_untouched (alive : ℕ → Bool) (forks : Bool)
    (harmed : wdev.scriptCheck = true) :
    Untouched (processInput (.scriptCheck alive) wdev)
      (wirelessDeviceCheckScriptTasks alive forks { wdev with scriptCheck := false }) := by
  rw [checkScriptTasks_eq alive forks harmed]
  split_ifs
  · exact .refl _
  · exact retrySetup_untouched forks _

theorem retrySetup_unpiped (forks : Bool) (wdev : WirelessDevice β) :
    (wirelessDeviceRetrySetup forks wdev).lastSetup = wdev.lastSetup ∧
      (wirelessDeviceRetrySetup forks wdev).scriptProcFd = wdev.scriptProcFd := by
  simp only [wirelessDeviceRetrySetup, wirelessDeviceSetDown', wirelessDeviceSetupCancel]
  split_ifs <;> simp [wirelessDeviceRunHandler]

theorem Untouched.close (h : Untouched (forgetSetup wdev) wdev')
    (hclosed : wdev.state = .down → wdev.scriptProcFd = false) (pipe : Bool) :
    Untouched wdev (closeUnpiped pipe wdev') where
  procs := h.procs
  check := h.check
  request := h.request
  stays := by
    intro hopen
    have hstate : wdev.state ≠ .down := fun hdown => by simp [hclosed hdown] at hopen
    have hsetup : wdev'.lastSetup = none := by
      by_contra hsome
      rcases h.started (Option.isSome_iff_ne_none.mpr hsome) with hbefore | hdown
      · cases hbefore
      · exact hstate hdown
    simp [closeUnpiped, h.stays hopen, hsetup]
  teardown := h.teardown
  down := by
    intro hdown
    obtain ⟨hbefore, hfd⟩ := h.down hdown
    have hclosed' : wdev'.scriptProcFd = false := hfd.trans (hclosed hbefore)
    refine ⟨hbefore, ?_⟩
    simp [closeUnpiped, hclosed', hclosed hbefore]
  started := fun hsetup => (h.started hsetup).imp_left fun hbefore => by cases hbefore

theorem Cleared.close (h : Cleared wdev) (pipe : Bool) : Cleared (closeUnpiped pipe wdev) :=
  ⟨h.procs, h.request, fun hdown => by simp [closeUnpiped, h.closed hdown]⟩

variable [DecidableEq β]

/-- The processes end as the input says, and then they are left alone, or all of them end. -/
theorem wirelessStep_cases (m : Wireless β) (op : WirelessStep β) (wdev' : WirelessDevice β)
    (h : (wirelessStep m op).wdev = some wdev') :
    Cleared wdev' ∨ ∃ wdev, m.wdev = some wdev ∧ Untouched (processInput op.input wdev) wdev' := by
  obtain ⟨input, forks, again⟩ := op
  have hmodify {f : WirelessDevice β → WirelessDevice β}
      (hf : ∀ wdev, Untouched (processInput input wdev) (f wdev))
      (h : (m.modify f).wdev = some wdev') :
      Cleared wdev' ∨ ∃ wdev, m.wdev = some wdev ∧ Untouched (processInput input wdev) wdev' := by
    obtain ⟨wdev, hwdev, rfl⟩ := Option.map_eq_some_iff.mp h
    exact .inr ⟨wdev, hwdev, hf wdev⟩
  cases input with
  | up =>
    refine hmodify (fun wdev => ?_) h
    refine Untouched.trans ?_ (setUp'_untouched forks false _)
    exact ⟨rfl, rfl, rfl, id, id, fun h => ⟨h, rfl⟩, Or.inl⟩
  | down =>
    refine hmodify (fun wdev => ?_) h
    refine Untouched.trans ?_ (setDown'_untouched forks _)
    exact ⟨rfl, rfl, rfl, id, id, fun h => ⟨h, rfl⟩, Or.inl⟩
  | reload dev vifs =>
    have hreload : Quiet m (configInitWireless forks dev vifs m) :=
      untouched_carried.configInit forks (configInitDevice_quiet forks dev m) vifs
    have hstart := untouched_carried.comp hreload (CarriedAlong.modify (setUp'_untouched forks false))
    exact hstart wdev' h
  | startPending => exact hmodify (setUp'_untouched forks false) h
  | notifyUp =>
    refine hmodify (fun wdev => ?_) h
    dsimp only
    split_ifs with hstate
    · exact markUp_untouched forks hstate
    · exact .refl wdev
  | processAdd proc => exact hmodify (fun wdev => .refl _) h
  | processKillAll alive immediate => exact hmodify (fun wdev => .refl _) h
  | setRetry retry =>
    refine hmodify (f := fun wdev => { wdev with retry }) (fun wdev => ?_) h
    exact ⟨rfl, rfl, rfl, id, id, fun h => ⟨h, rfl⟩, Or.inl⟩
  | scriptExit => exact scriptExit_quiet forks again m wdev' h
  | timeout => exact timeout_quiet forks again m wdev' h
  | pollFd => exact hmodify (fun wdev => .refl _) h
  | scriptCheck alive =>
    refine hmodify (fun wdev => ?_) h
    dsimp only
    split_ifs with harmed
    · exact checkScriptTasks_untouched alive forks harmed
    · simp only [processInput, if_neg harmed]
      exact .refl wdev

/-- The devices that there are know about their processes. -/
def AllSound (m : Wireless β) : Prop := ∀ wdev, m.wdev = some wdev → ProcessSound wdev

theorem processStep_cases (hsound : AllSound m) (op : ProcessStep β)
    (h : (processStep m op).wdev = some wdev') :
    Cleared wdev' ∨
      ∃ wdev, m.wdev = some wdev ∧ Untouched (processInput op.step.input wdev) wdev' := by
  obtain ⟨wdev₁, hwdev₁, rfl⟩ := Option.map_eq_some_iff.mp h
  rcases wirelessStep_cases _ _ wdev₁ hwdev₁ with hcleared | ⟨wdev₀, hwdev₀, huntouched⟩
  · exact .inl (hcleared.close op.pipe)
  · obtain ⟨wdev, hwdev, rfl⟩ := Option.map_eq_some_iff.mp hwdev₀
    rw [processInput_forget] at huntouched
    have hclosed := ((hsound wdev hwdev).processInput op.step.input).closed
    exact .inr ⟨wdev, hwdev, huntouched.close hclosed op.pipe⟩

theorem AllSound.step (h : AllSound m) (op : ProcessStep β) : AllSound (processStep m op) := by
  intro wdev' hwdev'
  rcases processStep_cases h op hwdev' with hcleared | ⟨wdev, hwdev, huntouched⟩
  · exact hcleared.sound
  · exact ((h wdev hwdev).processInput _).untouched huntouched

/-- A look at the processes leaves the pipe as it is. -/
theorem processStep_check {alive : ℕ → Bool} {op : ProcessStep β}
    (hinput : op.step.input = .scriptCheck alive) (hsound : AllSound m)
    (hwdev : m.wdev = some wdev) :
    ∃ wdev', (processStep m op).wdev = some wdev' ∧
      Untouched (processInput (.scriptCheck alive) wdev) wdev' ∧
      wdev'.scriptProcFd = (processInput (.scriptCheck alive) wdev).scriptProcFd := by
  obtain ⟨⟨_, forks, again⟩, pipe⟩ := op
  obtain rfl : _ = _ := hinput
  have hclosed := ((hsound wdev hwdev).processInput (.scriptCheck alive)).closed
  have hbefore : (m.modify forgetSetup).wdev = some (forgetSetup wdev) :=
    congrArg (Option.map forgetSetup) hwdev
  let checked (wdev : WirelessDevice β) := if wdev.scriptCheck then
    wirelessDeviceCheckScriptTasks alive forks { wdev with scriptCheck := false } else wdev
  have hstep : (processStep m ⟨⟨.scriptCheck alive, forks, again⟩, pipe⟩).wdev =
      some (closeUnpiped pipe (checked (forgetSetup wdev))) := by
    change (((m.modify forgetSetup).wdev.map checked).map (closeUnpiped pipe)) = _
    rw [hbefore]
    rfl
  have hchecked : Untouched (forgetSetup (processInput (.scriptCheck alive) wdev))
        (checked (forgetSetup wdev)) ∧ (checked (forgetSetup wdev)).lastSetup = none ∧
      (checked (forgetSetup wdev)).scriptProcFd =
        (processInput (.scriptCheck alive) wdev).scriptProcFd := by
    rw [← processInput_forget]
    simp only [checked]
    split_ifs with harmed
    · refine ⟨checkScriptTasks_untouched alive forks harmed, ?_⟩
      rw [checkScriptTasks_eq alive forks harmed, processInput_forget]
      split_ifs
      · exact ⟨rfl, rfl⟩
      · exact retrySetup_unpiped forks _
    · have hidle : processInput (.scriptCheck alive) wdev = wdev := if_neg harmed
      rw [processInput_forget, hidle]
      exact ⟨.refl _, rfl, rfl⟩
  refine ⟨_, hstep, hchecked.1.close hclosed pipe, ?_⟩
  simp [closeUnpiped, hchecked.2.1, hchecked.2.2]

theorem woken_of_monitored (hsound : AllSound m) (hwdev : m.wdev = some wdev)
    (hmonitored : Monitored wdev) (hpending : wdev.killRequest = true)
    (h : (run processStep m wakeUps).wdev = some wdev') : wdev'.killRequest = false := by
  have hprocs : wdev.scriptProc ≠ [] := ((hsound wdev hwdev).request hpending).2
  let poll : ProcessStep β := { step := { input := .pollFd } }
  let check : ProcessStep β := { step := { input := .scriptCheck fun _ => false } }
  change (processStep (processStep m poll) check).wdev = some wdev' at h
  rcases processStep_cases (hsound.step poll) check h with hcleared | ⟨middle, hmiddle, hlast⟩
  · exact hcleared.request
  rw [hlast.request]
  rcases processStep_cases hsound poll hmiddle with hcleared | ⟨wdev₀, hwdev₀, hfirst⟩
  · simp only [check, processInput]
    split_ifs <;> simp [wirelessProcessFree, hcleared.request]
  · obtain rfl := Option.some.inj (hwdev.symm.trans hwdev₀)
    have hleft : middle.scriptProc = wdev.scriptProc := by
      rw [hfirst.procs]
      simp only [poll, processInput]
      split_ifs <;> rfl
    have harmed : middle.scriptCheck = true := by
      rw [hfirst.check]
      simp only [poll, processInput]
      split_ifs with hopen
      · rfl
      · exact (hmonitored hprocs).resolve_right hopen
    simp [check, processInput, harmed, wirelessProcessFree, hleft, hprocs]

omit [DecidableEq β] in
theorem answered_processInput (h : ProcessSound wdev) (hpending : wdev.killRequest = true)
    (input : WirelessInput β) : (processInput input wdev).killRequest =
      !(processInput input wdev).scriptProc.isEmpty := by
  have hprocs : wdev.scriptProc ≠ [] := (h.request hpending).2
  cases input with
  | processAdd proc => simp [processInput, hpending]
  | processKillAll alive immediate =>
    simp [processInput, wirelessDeviceProcessKillAll, hpending, hprocs]
  | pollFd =>
    simp only [processInput]
    split_ifs <;> simp [hpending, hprocs]
  | scriptCheck alive =>
    simp only [processInput]
    split_ifs <;> simp [wirelessProcessFree, hpending, hprocs]
  | _ => simp [processInput, hpending, hprocs]

theorem AllSound.answeredOnce (h : AllSound m) (op : ProcessStep β) :
    AnsweredOnce m (processStep m op) := by
  intro wdev hwdev hpending wdev' hwdev'
  rcases processStep_cases h op hwdev' with hcleared | ⟨wdev₀, hwdev₀, huntouched⟩
  · simp [hcleared.request, hcleared.procs]
  · obtain rfl := Option.some.inj (hwdev.symm.trans hwdev₀)
    rw [huntouched.request, huntouched.procs]
    exact answered_processInput (h wdev hwdev) hpending op.step.input

theorem watched_step (hsound : AllSound m) (hwatched : Watched m) (op : ProcessStep β) :
    Watched (processStep m op) ↔ Rearmed m op := by
  constructor
  · intro h alive hinput wdev hwdev harmed hdead
    obtain ⟨wdev', hwdev', huntouched, hfd⟩ := processStep_check hinput hsound hwdev
    have hmonitored : Monitored (processInput (.scriptCheck alive) wdev) := by
      unfold Monitored
      rw [← huntouched.procs, ← huntouched.check, ← hfd]
      exact h.monitored wdev' hwdev'
    exact (monitored_processInput (hwatched.monitored wdev hwdev) _).mp hmonitored alive rfl harmed
      hdead
  · intro hrearmed
    have hmonitored : ∀ wdev', (processStep m op).wdev = some wdev' → Monitored wdev' := by
      intro wdev' hwdev'
      rcases processStep_cases hsound op hwdev' with hcleared | ⟨wdev, hwdev, huntouched⟩
      · exact fun hleft => absurd hcleared.procs hleft
      · refine Monitored.untouched ?_ huntouched
        rw [monitored_processInput (hwatched.monitored wdev hwdev)]
        exact fun alive hinput => hrearmed alive hinput wdev hwdev
    exact ⟨hmonitored, fun wdev' hwdev' hpending _ h =>
      woken_of_monitored (hsound.step op) hwdev' (hmonitored wdev' hwdev') hpending h⟩

/-- In the states of a run, processes that are left are looked after, and each step completes a
request just if it leaves none. -/
def ProcessesWatched (ops : List (ProcessStep β)) : Prop :=
  ∀ n, Watched (run processStep ({} : Wireless β) (ops.take n)) ∧
    AnsweredOnce (run processStep ({} : Wireless β) (ops.take n))
      (run processStep {} (ops.take (n + 1)))

omit [DecidableEq β] in
theorem AllSound.unchanged (h : AllSound m) : AnsweredOnce m m := by
  intro wdev hwdev hpending wdev' hwdev'
  obtain rfl := Option.some.inj (hwdev.symm.trans hwdev')
  simp [hpending, ((h wdev hwdev).request hpending).2]

theorem processes_watched_iff (ops : List (ProcessStep β)) :
    ProcessesWatched ops ↔ AllOk processStep Rearmed ({} : Wireless β) ops := by
  have hstart : AllSound ({} : Wireless β) := fun _ h => by cases h
  have hwatched : Watched ({} : Wireless β) :=
    ⟨(fun _ h => by cases h), (fun _ h => by cases h)⟩
  have hanswered (n : ℕ) : AnsweredOnce (run processStep ({} : Wireless β) (ops.take n))
      (run processStep {} (ops.take (n + 1))) := by
    have hsound : AllSound (run processStep ({} : Wireless β) (ops.take n)) :=
      run_invariant (fun m op h => h.step op) hstart _
    have hnext : run processStep ({} : Wireless β) (ops.take (n + 1)) =
        run processStep (run processStep {} (ops.take n)) ops[n]?.toList := by
      rw [List.take_add_one, run, List.foldl_append]
      rfl
    rw [hnext]
    cases ops[n]? with
    | none => exact hsound.unchanged
    | some op => exact hsound.answeredOnce op
  have hiff := run_property_iff (I := AllSound) (fun m op h => h.step op)
    (fun m op hsound h => watched_step hsound h op) hstart hwatched ops
  rw [← hiff]
  exact ⟨fun h n => (h n).1, fun h n => ⟨h n, hanswered n⟩⟩

end Runs

/-- A radio whose script adds two processes, of which the required one ends first. -/
def requiredEnds : List (ProcessStep String) :=
  [{ step := radioReload },
    { step := { input := .processAdd ⟨100, true⟩ } },
    { step := { input := .processAdd ⟨101, false⟩ } },
    { step := { input := .notifyUp } },
    { step := { input := .scriptExit } },
    { step := { input := .pollFd } },
    { step := { input := .scriptCheck (· == 101) } }]

/-- The setup is ended, and nobody looks after the other process, which may be asked to end. -/
theorem left_process_unwatched : ¬∀ ops : List (ProcessStep String), ProcessesWatched ops := by
  intro h
  have hlast := ((h requiredEnds 7).1.monitored _ rfl)
  exact absurd hlast (by unfold Monitored; decide)

end Netifd.ScriptProcesses
