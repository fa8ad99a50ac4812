import Netifd.GuardedRuns
import Netifd.InterfaceState

/-!
# Wireless devices

The life of one wireless device of `wireless.c`: its setup and teardown scripts, the timer that
ends a cancelled setup, and what reloads of the configuration ask for. Blobs of configuration
are of any type. Left out are the links of the interfaces, the data and the previous
configuration, which only go into the arguments of scripts.
-/

namespace Netifd
open GuardedRuns

structure WirelessProcess where
  pid : ℕ
  required : Bool

/-- `struct wireless_device`, with the configurations of its interfaces by their index; a task,
a timer and a descriptor are true while they are pending. The last field is a history: what
the setup script was last run with. -/
structure WirelessDevice (β : Type) where
  config : β
  disabled : Bool
  interfaces : List β := []
  autostart : Bool := true
  retrySetupFailed : Bool := false
  state : InterfaceState := .down
  configState : InterfaceConfigState := .normal
  cancel : Bool := false
  retry : ℤ := 3
  scriptTask : Bool := false
  timeout : Bool := false
  scriptProc : List WirelessProcess := []
  scriptProcFd : Bool := false
  scriptCheck : Bool := false
  killRequest : Bool := false
  lastSetup : Option (β × List β) := none

/-- The place of a device in the table. The other fields are histories: the states in which the
device was marked down, whether a freed device was used or can still be called back, and what
the last reload had for it. -/
structure Wireless (β : Type) where
  wdev : Option (WirelessDevice β) := none
  marked : List InterfaceState := []
  lost : Bool := false
  reloaded : Option (β × Bool × List β) := none

section Code

variable {β : Type} [DecidableEq β]

def WIRELESS_SETUP_RETRY : ℤ := 3

/-- `wireless_device_run_handler`; `forks` tells whether the process can be started. -/
def wirelessDeviceRunHandler (forks up : Bool) (wdev : WirelessDevice β) : WirelessDevice β :=
  { wdev with
    scriptTask := forks
    scriptProcFd := wdev.scriptProcFd || up
    lastSetup := if up then some (wdev.config, wdev.interfaces) else wdev.lastSetup }

def wirelessDeviceSetUp' (forks configInit : Bool) (wdev : WirelessDevice β) : WirelessDevice β :=
  if wdev.disabled || wdev.retrySetupFailed || !wdev.autostart || wdev.state != .down ||
      configInit then wdev
  else wirelessDeviceRunHandler forks true { wdev with state := .setup }

def wirelessDeviceSetupCancel (wdev : WirelessDevice β) : WirelessDevice β :=
  if wdev.cancel then wdev else { wdev with cancel := true, timeout := true }

def wirelessDeviceSetDown' (forks : Bool) (wdev : WirelessDevice β) : WirelessDevice β :=
  if wdev.state = .teardown ∨ wdev.state = .down then wdev
  else if wdev.scriptTask then wirelessDeviceSetupCancel wdev
  else wirelessDeviceRunHandler forks false { wdev with state := .teardown }

/-- `wireless_device_mark_up`, without the links. -/
def wirelessDeviceMarkUp (forks : Bool) (wdev : WirelessDevice β) : WirelessDevice β :=
  if wdev.cancel then wirelessDeviceSetDown' forks { wdev with cancel := false }
  else { wdev with state := .up }

def wirelessDeviceRetrySetup (forks : Bool) (wdev : WirelessDevice β) : WirelessDevice β :=
  if wdev.state = .teardown ∨ wdev.state = .down ∨ wdev.cancel = true then wdev
  else
    wirelessDeviceSetDown' forks
      { wdev with
        retry := wdev.retry - 1
        retrySetupFailed := wdev.retrySetupFailed || decide (wdev.retry - 1 < 0) }

def wirelessDeviceSetUp (forks : Bool) (wdev : WirelessDevice β) : WirelessDevice β :=
  wirelessDeviceSetUp' forks false { wdev with retry := WIRELESS_SETUP_RETRY, autostart := true }

def wirelessDeviceSetDown (forks : Bool) (wdev : WirelessDevice β) : WirelessDevice β :=
  wirelessDeviceSetDown' forks { wdev with retrySetupFailed := false, autostart := false }

/-- The list of processes after some were freed; with the last of them a request to kill them
is complete. -/
def wirelessProcessFree (wdev : WirelessDevice β) (left : List WirelessProcess) :
    WirelessDevice β :=
  { wdev with
    scriptProc := left
    killRequest := wdev.killRequest && !(left.isEmpty && !wdev.scriptProc.isEmpty) }

/-- `wireless_process_kill_all`; `alive` is what `wireless_process_check` finds. -/
def wirelessProcessKillAll (alive : ℕ → Bool) (free : Bool) (wdev : WirelessDevice β) :
    WirelessDevice β :=
  let left := if free then [] else wdev.scriptProc.filter fun proc => alive proc.pid
  { wirelessProcessFree wdev left with scriptProcFd := wdev.scriptProcFd && !free }

def wirelessDeviceProcessKillAll (alive : ℕ → Bool) (immediate : Bool) (wdev : WirelessDevice β) :
    WirelessDevice β :=
  if wdev.state ≠ .teardown ∨ wdev.killRequest = true then wdev
  else
    let wdev := wirelessProcessKillAll alive immediate wdev
    if wdev.scriptProc.isEmpty then wdev else { wdev with killRequest := true }

def wirelessDeviceCheckScriptTasks (alive : ℕ → Bool) (forks : Bool) (wdev : WirelessDevice β) :
    WirelessDevice β :=
  let restart := wdev.scriptProc.any fun proc => !alive proc.pid && proc.required
  let wdev := wirelessProcessFree wdev (wdev.scriptProc.filter fun proc => alive proc.pid)
  if restart then wirelessDeviceRetrySetup forks wdev else { wdev with scriptCheck := true }

def wirelessDeviceFreeState (wdev : WirelessDevice β) : WirelessDevice β :=
  { wdev with scriptCheck := false, timeout := false, killRequest := false }

/-- An access to the device; one that was freed is lost. -/
def Wireless.onDevice (m : Wireless β) (f : WirelessDevice β → Wireless β) : Wireless β :=
  match m.wdev with
  | none => { m with lost := true }
  | some wdev => f wdev

/-- The device has changed. -/
def Wireless.set (m : Wireless β) (wdev : WirelessDevice β) : Wireless β :=
  { m with wdev := some wdev }

/-- `wireless_device_free`. The timer and the task are not cancelled, so that they call a freed
device back if they are pending. -/
def wirelessDeviceFree (m : Wireless β) : Wireless β :=
  m.onDevice fun wdev =>
    { m with wdev := none, lost := m.lost || wdev.timeout || wdev.scriptTask }

def wdevHandleConfigChange (forks configInit : Bool) (m : Wireless β) : Wireless β :=
  m.onDevice fun wdev =>
    match wdev.configState with
    | .normal | .reload =>
      m.set { wirelessDeviceSetUp' forks configInit wdev with configState := .normal }
    | .remove => wirelessDeviceFree m

/-- What `wireless_device_mark_down` makes of the device before it looks at `config_state`. -/
def markedDown (wdev : WirelessDevice β) : WirelessDevice β :=
  wirelessDeviceFreeState
    { wirelessProcessKillAll (fun _ => true) true wdev with cancel := false, state := .down }

def wirelessDeviceMarkDown (forks : Bool) (m : Wireless β) : Wireless β :=
  m.onDevice fun wdev =>
    wdevHandleConfigChange forks false
      { m.set (markedDown wdev) with marked := m.marked ++ [wdev.state] }

def wirelessDeviceScriptTaskCb (forks : Bool) (m : Wireless β) : Wireless β :=
  m.onDevice fun wdev =>
    match wdev.state with
    | .setup => m.set (wirelessDeviceRetrySetup forks wdev)
    | .teardown => wirelessDeviceMarkDown forks m
    | _ => m

def wirelessDeviceSetupTimeout (forks again : Bool) (m : Wireless β) : Wireless β :=
  m.onDevice fun wdev =>
    -- netifd_kill_process
    let m := m.set { wdev with scriptTask := false }
    wirelessDeviceMarkDown again (wirelessDeviceScriptTaskCb forks m)

/-- `wdev_set_config_state`, which is called during reloads only. -/
def wdevSetConfigState (forks : Bool) (s : InterfaceConfigState) (m : Wireless β) : Wireless β :=
  m.onDevice fun wdev =>
    if wdev.configState ≠ .normal then m
    else
      let wdev := { wdev with configState := s }
      if wdev.state = .down then wdevHandleConfigChange forks true (m.set wdev)
      else m.set (wirelessDeviceSetDown' forks wdev)

def wdevChangeConfig (forks : Bool) (newConfig : β) (disabled : Bool) (m : Wireless β) :
    Wireless β :=
  m.onDevice fun wdev =>
    if wdev.config = newConfig ∧ wdev.disabled = disabled then m
    else
      wdevSetConfigState forks .reload
        (m.set { wdev with config := newConfig, disabled, retrySetupFailed := false })

/-- `wireless_device_create`, with `wdev_update` for the new node. -/
def wirelessDeviceCreate (forks : Bool) (config : β) (disabled : Bool) (m : Wireless β) :
    Wireless β :=
  match m.wdev with
  | none => m.set { config, disabled, retry := WIRELESS_SETUP_RETRY }
  | some _ => wdevChangeConfig forks config disabled m

/-- `wireless_interface_create`, with `vif_update` for the new node. -/
def wirelessInterfaceCreate (forks : Bool) (m : Wireless β) (vif : β × ℕ) : Wireless β :=
  match m.wdev with
  | none => m
  | some wdev =>
    match wdev.interfaces[vif.2]? with
    | some old =>
      if old = vif.1 then m
      else
        wdevSetConfigState forks .reload
          (m.set { wdev with interfaces := wdev.interfaces.set vif.2 vif.1 })
    | none =>
      wdevSetConfigState forks .reload
        (m.set { wdev with interfaces := wdev.interfaces ++ [vif.1] })

/-- `vif_update` for an interface that is deleted. -/
def vifDelete (forks : Bool) (m : Wireless β) : Wireless β :=
  match m.wdev with
  | none => m
  | some wdev =>
    wdevSetConfigState forks .reload (m.set { wdev with interfaces := wdev.interfaces.dropLast })

/-- The first half of `config_init_wireless` for one device: its section, if there is one. -/
def configInitDevice (forks : Bool) (dev : Option (β × Bool)) (m : Wireless β) : Wireless β :=
  match dev with
  | some (config, disabled) => wirelessDeviceCreate forks config disabled m
  | none => if m.wdev.isSome then wdevSetConfigState forks .remove m else m

/-- How many interfaces the device has left over from earlier configurations. -/
def surplus (vifs : List β) (m : Wireless β) : ℕ :=
  ((m.wdev.map (·.interfaces.length)).getD 0) - vifs.length

/-- `config_init_wireless` for one device: its section and its interfaces, which are sections
of their own. -/
def configInitWireless (forks : Bool) (dev : Option (β × Bool)) (vifs : List β)
    (m : Wireless β) : Wireless β :=
  let m := vifs.zipIdx.foldl (wirelessInterfaceCreate forks) (configInitDevice forks dev m)
  (vifDelete forks)^[surplus vifs m] m

/-- `wireless_start_pending`, and any change of a device that is there. -/
def Wireless.modify (m : Wireless β) (f : WirelessDevice β → WirelessDevice β) : Wireless β :=
  { m with wdev := m.wdev.map f }

/-- What can happen to a device. A reload without a wireless configuration only starts what is
pending. -/
inductive WirelessInput (β : Type)
  | up
  | down
  | reload (dev : Option (β × Bool)) (vifs : List β)
  | startPending
  | notifyUp
  | processAdd (proc : WirelessProcess)
  | processKillAll (alive : ℕ → Bool) (immediate : Bool)
  | setRetry (retry : ℤ)
  | scriptExit
  | timeout
  | pollFd
  | scriptCheck (alive : ℕ → Bool)

/-- An input, and whether the scripts that it runs can be started. -/
structure WirelessStep (β : Type) where
  input : WirelessInput β
  forks : Bool := true
  again : Bool := true

/-- One step; inputs that cannot come leave the device as it is. -/
def wirelessStep (m : Wireless β) (op : WirelessStep β) : Wireless β :=
  match op.input with
  | .up => m.modify (wirelessDeviceSetUp op.forks)
  | .down => m.modify (wirelessDeviceSetDown op.forks)
  | .reload dev vifs =>
    let m := (configInitWireless op.forks dev vifs m).modify
      (wirelessDeviceSetUp' op.forks false)
    { m with reloaded := dev.map fun s => (s.1, s.2, vifs) }
  | .startPending => m.modify (wirelessDeviceSetUp' op.forks false)
  | .notifyUp =>
    m.modify fun wdev => if wdev.state = .setup then wirelessDeviceMarkUp op.forks wdev else wdev
  | .processAdd proc =>
    m.modify fun wdev =>
      { wdev with scriptProc := proc :: wdev.scriptProc, scriptCheck := true }
  | .processKillAll alive immediate => m.modify (wirelessDeviceProcessKillAll alive immediate)
  | .setRetry retry => m.modify fun wdev => { wdev with retry }
  | .scriptExit =>
    match m.wdev with
    | none => m
    | some wdev =>
      if wdev.scriptTask then
        wirelessDeviceScriptTaskCb op.forks (m.set { wdev with scriptTask := false })
      else m
  | .timeout =>
    match m.wdev with
    | none => m
    | some wdev =>
      if wdev.timeout then
        wirelessDeviceSetupTimeout op.forks op.again (m.set { wdev with timeout := false })
      else m
  | .pollFd =>
    m.modify fun wdev =>
      if wdev.scriptProcFd then { wdev with scriptCheck := true, scriptProcFd := false } else wdev
  | .scriptCheck alive =>
    m.modify fun wdev =>
      if wdev.scriptCheck then
        wirelessDeviceCheckScriptTasks alive op.forks { wdev with scriptCheck := false }
      else wdev

end Code

section Facts

variable {β : Type}

@[simp] theorem set_wdev (m : Wireless β) (wdev : WirelessDevice β) :
    (m.set wdev).wdev = some wdev := rfl

@[simp] theorem set_lost (m : Wireless β) (wdev : WirelessDevice β) :
    (m.set wdev).lost = m.lost := rfl

@[simp] theorem set_marked (m : Wireless β) (wdev : WirelessDevice β) :
    (m.set wdev).marked = m.marked := rfl

@[simp] theorem set_reloaded (m : Wireless β) (wdev : WirelessDevice β) :
    (m.set wdev).reloaded = m.reloaded := rfl

theorem onDevice_some {m : Wireless β} {wdev : WirelessDevice β} (h : m.wdev = some wdev)
    (f : WirelessDevice β → Wireless β) : m.onDevice f = f wdev := by
  rw [Wireless.onDevice, h]

@[simp] theorem setDown'_configState (forks : Bool) (wdev : WirelessDevice β) :
    (wirelessDeviceSetDown' forks wdev).configState = wdev.configState := by
  unfold wirelessDeviceSetDown' wirelessDeviceSetupCancel
  split_ifs <;> rfl

/-- The timer runs for a cancelled setup only, and a device that is down has no script. -/
structure TimerSound (wdev : WirelessDevice β) : Prop where
  armed : wdev.timeout = true →
    wdev.cancel = true ∧ (wdev.state = .setup ∨ wdev.state = .up)
  idle : wdev.state = .down → wdev.scriptTask = false

/-- A setup was cancelled, its script has ended, and only the timer is left. -/
def Waiting (wdev : WirelessDevice β) : Prop := wdev.timeout = true ∧ wdev.scriptTask = false

theorem TimerSound.timeout_of_down {wdev : WirelessDevice β} (h : TimerSound wdev)
    (hstate : wdev.state = .down) : wdev.timeout = false := by
  by_contra harmed
  have hup := (h.armed (by simpa using harmed)).2
  simp [hstate] at hup

theorem TimerSound.setUp' {wdev : WirelessDevice β} (h : TimerSound wdev)
    (forks configInit : Bool) :
    TimerSound (wirelessDeviceSetUp' forks configInit wdev) := by
  unfold wirelessDeviceSetUp'
  split_ifs with hguard
  · exact h
  · have hdown : wdev.state = .down := by
      simp only [Bool.or_eq_true, not_or, bne_iff_ne, ne_eq, not_not] at hguard
      exact hguard.1.2
    have htimeout := h.timeout_of_down hdown
    constructor
    · intro harmed
      simp [wirelessDeviceRunHandler, htimeout] at harmed
    · intro hstate
      cases hstate

theorem timerSound_teardown {wdev : WirelessDevice β} (hwaiting : ¬Waiting wdev)
    (htask : ¬wdev.scriptTask = true) (forks : Bool) :
    TimerSound (wirelessDeviceRunHandler forks false { wdev with state := .teardown }) := by
  have htimeout : wdev.timeout = false := by
    by_contra harmed
    exact hwaiting ⟨by simpa using harmed, by simpa using htask⟩
  constructor
  · intro harmed
    simp [wirelessDeviceRunHandler, htimeout] at harmed
  · intro hstate
    cases hstate

theorem TimerSound.setDown' {wdev : WirelessDevice β} (h : TimerSound wdev)
    (hwaiting : ¬Waiting wdev) (forks : Bool) : TimerSound (wirelessDeviceSetDown' forks wdev) := by
  unfold wirelessDeviceSetDown'
  split_ifs with hdown htask
  · exact h
  · have hrunning : wdev.state = .setup ∨ wdev.state = .up := by
      cases hstate : wdev.state <;> simp [hstate] at hdown ⊢
    unfold wirelessDeviceSetupCancel
    split_ifs with hcancel
    · exact h
    · exact ⟨fun _ => ⟨rfl, hrunning⟩, h.idle⟩
  · exact timerSound_teardown hwaiting htask forks

theorem TimerSound.markUp {wdev : WirelessDevice β} (h : TimerSound wdev)
    (hstate : wdev.state = .setup) (hwaiting : ¬Waiting wdev) (forks : Bool) :
    TimerSound (wirelessDeviceMarkUp forks wdev) := by
  unfold wirelessDeviceMarkUp
  split_ifs with hcancel
  · unfold wirelessDeviceSetDown'
    rw [if_neg (by simp [hstate])]
    split_ifs with htask
    · refine ⟨fun _ => ⟨rfl, .inl hstate⟩, fun hdown => ?_⟩
      simp [wirelessDeviceSetupCancel, hstate] at hdown
    · have hwaiting' : ¬Waiting { wdev with cancel := false } := hwaiting
      exact timerSound_teardown hwaiting' htask forks
  · constructor
    · intro harmed
      exact absurd (h.armed harmed).1 hcancel
    · intro hdown
      cases hdown

theorem TimerSound.retrySetup {wdev : WirelessDevice β} (h : TimerSound wdev) (forks : Bool) :
    TimerSound (wirelessDeviceRetrySetup forks wdev) := by
  unfold wirelessDeviceRetrySetup
  split_ifs with hguard
  · exact h
  · have hwaiting : ¬Waiting wdev := fun hw => hguard (.inr (.inr (h.armed hw.1).1))
    have hsound : TimerSound
        { wdev with
          retry := wdev.retry - 1
          retrySetupFailed := wdev.retrySetupFailed || decide (wdev.retry - 1 < 0) } :=
      ⟨h.armed, h.idle⟩
    exact hsound.setDown' hwaiting forks

theorem TimerSound.processKillAll {wdev : WirelessDevice β} (h : TimerSound wdev)
    (alive : ℕ → Bool) (immediate : Bool) :
    TimerSound (wirelessDeviceProcessKillAll alive immediate wdev) := by
  unfold wirelessDeviceProcessKillAll
  dsimp only
  split_ifs
  · exact h
  · exact ⟨h.armed, h.idle⟩
  · exact ⟨h.armed, h.idle⟩

theorem TimerSound.checkScriptTasks {wdev : WirelessDevice β} (h : TimerSound wdev)
    (alive : ℕ → Bool) (forks : Bool) :
    TimerSound (wirelessDeviceCheckScriptTasks alive forks wdev) := by
  unfold wirelessDeviceCheckScriptTasks
  dsimp only
  split_ifs
  · apply TimerSound.retrySetup
    exact ⟨h.armed, h.idle⟩
  · exact ⟨h.armed, h.idle⟩

/-- The timer of the device is sound, and no freed device is in use. -/
structure TimersSound (m : Wireless β) : Prop where
  dev : ∀ wdev, m.wdev = some wdev → TimerSound wdev
  lost : m.lost = false

theorem timersSound_start : TimersSound ({} : Wireless β) :=
  ⟨(fun _ h => by cases h), rfl⟩

theorem TimersSound.set {m : Wireless β} (hlost : m.lost = false) {wdev : WirelessDevice β}
    (h : TimerSound wdev) : TimersSound (m.set wdev) := by
  refine ⟨?_, hlost⟩
  intro w hw
  cases hw
  exact h

theorem TimersSound.modify {m : Wireless β} (h : TimersSound m)
    {f : WirelessDevice β → WirelessDevice β}
    (hf : ∀ wdev, m.wdev = some wdev → TimerSound wdev → TimerSound (f wdev)) :
    TimersSound (m.modify f) := by
  refine ⟨?_, h.lost⟩
  intro w hw
  obtain ⟨wdev, hwdev, rfl⟩ := Option.map_eq_some_iff.mp hw
  exact hf wdev hwdev (h.dev wdev hwdev)

theorem TimersSound.handleConfigChange {m : Wireless β} (h : TimersSound m)
    {wdev : WirelessDevice β} (hwdev : m.wdev = some wdev) (hdown : wdev.state = .down)
    (forks configInit : Bool) : TimersSound (wdevHandleConfigChange forks configInit m) := by
  have hsound := h.dev wdev hwdev
  rw [wdevHandleConfigChange, onDevice_some hwdev]
  have hset : TimersSound
      (m.set { wirelessDeviceSetUp' forks configInit wdev with configState := .normal }) := by
    have hup := hsound.setUp' forks configInit
    exact .set h.lost ⟨hup.armed, hup.idle⟩
  cases hstate : wdev.configState with
  | normal => exact hset
  | reload => exact hset
  | remove =>
    dsimp only
    rw [wirelessDeviceFree, onDevice_some hwdev]
    refine ⟨?_, ?_⟩
    · intro w hw
      cases hw
    · simp [h.lost, hsound.timeout_of_down hdown, hsound.idle hdown]

theorem handleConfigChange_marked {m : Wireless β} (forks configInit : Bool) :
    (wdevHandleConfigChange forks configInit m).marked = m.marked := by
  unfold wdevHandleConfigChange Wireless.onDevice
  cases hwdev : m.wdev with
  | none => rfl
  | some wdev =>
    dsimp only
    cases wdev.configState with
    | normal => rfl
    | reload => rfl
    | remove => simp [wirelessDeviceFree, Wireless.onDevice, hwdev]

theorem TimersSound.markDown {m : Wireless β} (hlost : m.lost = false) {wdev : WirelessDevice β}
    (hwdev : m.wdev = some wdev) (htask : wdev.scriptTask = false) (forks : Bool) :
    TimersSound (wirelessDeviceMarkDown forks m) ∧
      (wirelessDeviceMarkDown forks m).marked = m.marked ++ [wdev.state] := by
  rw [wirelessDeviceMarkDown, onDevice_some hwdev]
  refine ⟨?_, handleConfigChange_marked _ _⟩
  have hdown : TimerSound (markedDown wdev) := ⟨(fun h => by cases h), fun _ => htask⟩
  have hset : TimersSound { m.set (markedDown wdev) with marked := m.marked ++ [wdev.state] } :=
    ⟨(TimersSound.set hlost hdown).dev, hlost⟩
  exact hset.handleConfigChange rfl rfl forks false

/-- The device is marked down at most once, and it was not down before. -/
def MarkedOnce (m m' : Wireless β) : Prop :=
  m'.marked = m.marked ∨ ∃ state, state ≠ .down ∧ m'.marked = m.marked ++ [state]

theorem TimersSound.scriptTaskCb {m : Wireless β} (h : TimersSound m) {wdev : WirelessDevice β}
    (hwdev : m.wdev = some wdev) (htask : wdev.scriptTask = false) (forks : Bool) :
    TimersSound (wirelessDeviceScriptTaskCb forks m) ∧
      MarkedOnce m (wirelessDeviceScriptTaskCb forks m) := by
  rw [wirelessDeviceScriptTaskCb, onDevice_some hwdev]
  cases hstate : wdev.state with
  | setup => exact ⟨.set h.lost ((h.dev wdev hwdev).retrySetup forks), .inl rfl⟩
  | teardown =>
    obtain ⟨hsound, hmarked⟩ := TimersSound.markDown h.lost hwdev htask forks
    exact ⟨hsound, .inr ⟨wdev.state, by simp [hstate], hmarked⟩⟩
  | up => exact ⟨h, .inl rfl⟩
  | down => exact ⟨h, .inl rfl⟩

theorem scriptTaskCb_cancelled {m : Wireless β} {wdev : WirelessDevice β}
    (hwdev : m.wdev = some wdev) (hcancel : wdev.cancel = true)
    (hstate : wdev.state = .setup ∨ wdev.state = .up) (forks : Bool) :
    wirelessDeviceScriptTaskCb forks m = m := by
  rw [wirelessDeviceScriptTaskCb, onDevice_some hwdev]
  rcases hstate with hstate | hstate
  · have hsame : wirelessDeviceRetrySetup forks wdev = wdev := if_pos (.inr (.inr hcancel))
    simp only [hstate, hsame, Wireless.set, ← hwdev]
  · simp only [hstate]

theorem TimersSound.setupTimeout {m : Wireless β} (h : TimersSound m) {wdev : WirelessDevice β}
    (hwdev : m.wdev = some wdev) (harmed : wdev.timeout = true) (forks again : Bool) :
    TimersSound (wirelessDeviceSetupTimeout forks again (m.set { wdev with timeout := false })) ∧
      MarkedOnce m
        (wirelessDeviceSetupTimeout forks again (m.set { wdev with timeout := false })) := by
  obtain ⟨hcancel, hstate⟩ := (h.dev wdev hwdev).armed harmed
  -- the process is killed
  let killed := { wdev with timeout := false, scriptTask := false }
  have hcb : wirelessDeviceScriptTaskCb forks (m.set killed) = m.set killed :=
    @scriptTaskCb_cancelled β _ killed rfl hcancel hstate forks
  obtain ⟨hsound, hmarked⟩ := TimersSound.markDown (m := m.set killed) h.lost rfl rfl again
  rw [wirelessDeviceSetupTimeout, onDevice_some rfl]
  change TimersSound (wirelessDeviceMarkDown again (wirelessDeviceScriptTaskCb forks (m.set killed))) ∧
    MarkedOnce m (wirelessDeviceMarkDown again (wirelessDeviceScriptTaskCb forks (m.set killed)))
  rw [hcb]
  refine ⟨hsound, .inr ⟨wdev.state, ?_, hmarked⟩⟩
  rcases hstate with hstate | hstate <;> simp [hstate]

/-- During a reload a device that waits for its timer is not told to go down again. -/
structure ReloadSound (m : Wireless β) : Prop extends TimersSound m where
  pending : ∀ wdev, m.wdev = some wdev → Waiting wdev → wdev.configState ≠ .normal

theorem ReloadSound.setSame {m : Wireless β} (h : ReloadSound m) {wdev wdev' : WirelessDevice β}
    (hwdev : m.wdev = some wdev) (htimer : wdev'.timeout = wdev.timeout)
    (hcancel : wdev'.cancel = wdev.cancel) (hstate : wdev'.state = wdev.state)
    (htask : wdev'.scriptTask = wdev.scriptTask) (hconfig : wdev'.configState = wdev.configState) :
    ReloadSound (m.set wdev') := by
  have hsound := h.dev wdev hwdev
  refine ⟨.set h.lost ⟨?_, ?_⟩, ?_⟩
  · rw [htimer, hcancel, hstate]
    exact hsound.armed
  · rw [hstate, htask]
    exact hsound.idle
  · intro w hw hwaiting
    cases hw
    rw [hconfig]
    refine h.pending wdev hwdev ?_
    rwa [Waiting, htimer, htask] at hwaiting

theorem ReloadSound.setConfigState {m : Wireless β} (h : ReloadSound m) (forks : Bool)
    {s : InterfaceConfigState} (hs : s ≠ .normal) (hwdev : m.wdev ≠ none) :
    ReloadSound (wdevSetConfigState forks s m) ∧
      (wdevSetConfigState forks s m).marked = m.marked := by
  obtain ⟨wdev, hwdev⟩ := Option.ne_none_iff_exists'.mp hwdev
  rw [wdevSetConfigState, onDevice_some hwdev]
  dsimp only
  split_ifs with hpending hdown
  · exact ⟨h, rfl⟩
  · have hsound := h.dev wdev hwdev
    have hset : TimersSound (m.set { wdev with configState := s }) :=
      .set h.lost ⟨hsound.armed, hsound.idle⟩
    refine ⟨⟨hset.handleConfigChange rfl hdown forks true, ?_⟩, handleConfigChange_marked _ _⟩
    intro w hw hwaiting
    have htimeout := hsound.timeout_of_down hdown
    unfold wdevHandleConfigChange at hw
    rw [onDevice_some (set_wdev m _)] at hw
    cases s with
    | normal => exact absurd rfl hs
    | reload =>
      cases hw
      simp [Waiting, wirelessDeviceSetUp', htimeout] at hwaiting
    | remove => cases hw
  · have hsound := h.dev wdev hwdev
    have hwaiting : ¬Waiting { wdev with configState := s } := fun hw =>
      h.pending wdev hwdev hw (by simpa using hpending)
    have hset : TimerSound { wdev with configState := s } := ⟨hsound.armed, hsound.idle⟩
    refine ⟨⟨.set h.lost (hset.setDown' hwaiting forks), ?_⟩, rfl⟩
    intro w hw _
    cases hw
    rw [setDown'_configState]
    exact hs

theorem ReloadSound.setInterfaces {m : Wireless β} (h : ReloadSound m) {wdev : WirelessDevice β}
    (hwdev : m.wdev = some wdev) (forks : Bool) (interfaces : List β) :
    ReloadSound (wdevSetConfigState forks .reload (m.set { wdev with interfaces })) ∧
      (wdevSetConfigState forks .reload (m.set { wdev with interfaces })).marked = m.marked := by
  have hset : ReloadSound (m.set { wdev with interfaces }) :=
    h.setSame hwdev rfl rfl rfl rfl rfl
  exact hset.setConfigState forks (s := .reload) (by decide) (by simp)

theorem ReloadSound.vifDelete {m : Wireless β} (h : ReloadSound m) (forks : Bool) :
    ReloadSound (vifDelete forks m) ∧ (Netifd.vifDelete forks m).marked = m.marked := by
  unfold Netifd.vifDelete
  cases hwdev : m.wdev with
  | none => exact ⟨h, rfl⟩
  | some wdev => exact h.setInterfaces hwdev forks _

theorem ReloadSound.iterate {m : Wireless β} (h : ReloadSound m) (forks : Bool) (n : ℕ) :
    ReloadSound ((Netifd.vifDelete forks)^[n] m) ∧
      ((Netifd.vifDelete forks)^[n] m).marked = m.marked := by
  induction n generalizing m with
  | zero => exact ⟨h, rfl⟩
  | succ n ih =>
    obtain ⟨hfirst, hmarked⟩ := h.vifDelete forks
    obtain ⟨hrest, hmarked'⟩ := ih hfirst
    exact ⟨hrest, hmarked'.trans hmarked⟩

variable [DecidableEq β]

theorem ReloadSound.create {m : Wireless β} (h : ReloadSound m) (forks : Bool) (config : β)
    (disabled : Bool) : ReloadSound (wirelessDeviceCreate forks config disabled m) ∧
      (wirelessDeviceCreate forks config disabled m).marked = m.marked := by
  unfold wirelessDeviceCreate
  cases hwdev : m.wdev with
  | none =>
    refine ⟨⟨.set h.lost ⟨(fun harmed => by cases harmed), fun _ => rfl⟩, ?_⟩, rfl⟩
    intro w hw hwaiting
    cases hw
    cases hwaiting.1
  | some wdev =>
    dsimp only
    rw [wdevChangeConfig, onDevice_some hwdev]
    split_ifs
    · exact ⟨h, rfl⟩
    · have hset : ReloadSound (m.set { wdev with config, disabled, retrySetupFailed := false }) :=
        h.setSame hwdev rfl rfl rfl rfl rfl
      exact hset.setConfigState forks (s := .reload) (by decide) (by simp)

theorem ReloadSound.interfaceCreate {m : Wireless β} (h : ReloadSound m) (forks : Bool)
    (vif : β × ℕ) : ReloadSound (wirelessInterfaceCreate forks m vif) ∧
      (wirelessInterfaceCreate forks m vif).marked = m.marked := by
  unfold wirelessInterfaceCreate
  cases hwdev : m.wdev with
  | none => exact ⟨h, rfl⟩
  | some wdev =>
    dsimp only
    split
    · split_ifs
      · exact ⟨h, rfl⟩
      · exact h.setInterfaces hwdev forks _
    · exact h.setInterfaces hwdev forks _

theorem ReloadSound.foldl {m : Wireless β} (h : ReloadSound m) (forks : Bool)
    (vifs : List (β × ℕ)) : ReloadSound (vifs.foldl (wirelessInterfaceCreate forks) m) ∧
      (vifs.foldl (wirelessInterfaceCreate forks) m).marked = m.marked := by
  induction vifs generalizing m with
  | nil => exact ⟨h, rfl⟩
  | cons vif vifs ih =>
    obtain ⟨hfirst, hmarked⟩ := h.interfaceCreate forks vif
    obtain ⟨hrest, hmarked'⟩ := ih hfirst
    exact ⟨hrest, hmarked'.trans hmarked⟩

theorem ReloadSound.configInit {m : Wireless β} (h : ReloadSound m) (forks : Bool)
    (dev : Option (β × Bool)) (vifs : List β) :
    ReloadSound (configInitWireless forks dev vifs m) ∧
      (configInitWireless forks dev vifs m).marked = m.marked := by
  have hdev : ReloadSound (configInitDevice forks dev m) ∧
      (configInitDevice forks dev m).marked = m.marked := by
    unfold configInitDevice
    cases dev with
    | some section_ => exact h.create forks section_.1 section_.2
    | none =>
      dsimp only
      split_ifs with hsome
      · exact h.setConfigState forks (by decide) (by simpa [Option.isSome_iff_ne_none] using hsome)
      · exact ⟨h, rfl⟩
  obtain ⟨hvifs, hmarked⟩ := hdev.1.foldl forks vifs.zipIdx
  obtain ⟨hflush, hmarked'⟩ := hvifs.iterate forks (surplus vifs _)
  exact ⟨hflush, hmarked'.trans (hmarked.trans hdev.2)⟩

theorem configInitWireless_same {m : Wireless β} {wdev : WirelessDevice β}
    (hwdev : m.wdev = some wdev) (forks : Bool) :
    configInitWireless forks (some (wdev.config, wdev.disabled)) wdev.interfaces m = m := by
  have hdev : configInitDevice forks (some (wdev.config, wdev.disabled)) m = m := by
    simp [configInitDevice, wirelessDeviceCreate, hwdev, wdevChangeConfig, Wireless.onDevice]
  have hvifs (l : List (β × ℕ)) (hl : ∀ vif ∈ l, wdev.interfaces[vif.2]? = some vif.1) :
      l.foldl (wirelessInterfaceCreate forks) m = m := by
    induction l with
    | nil => rfl
    | cons vif l ih =>
      have hfirst : wirelessInterfaceCreate forks m vif = m := by
        simp [wirelessInterfaceCreate, hwdev, hl vif List.mem_cons_self]
      rw [List.foldl_cons, hfirst]
      exact ih fun v hv => hl v (List.mem_cons_of_mem vif hv)
  have hmem : ∀ vif ∈ wdev.interfaces.zipIdx, wdev.interfaces[vif.2]? = some vif.1 := by
    intro vif hvif
    simpa using List.mem_zipIdx_iff_getElem?.mp hvif
  rw [configInitWireless, hdev, hvifs _ hmem]
  simp [surplus, hwdev]

/-- The input lets `__wireless_device_set_down` be called on a device that is being set up. -/
def AsksForTeardown (wdev : WirelessDevice β) : WirelessInput β → Prop
  | .down => True
  | .notifyUp => wdev.state = .setup
  | .reload dev vifs =>
    wdev.configState = .normal ∧ (dev ≠ some (wdev.config, wdev.disabled) ∨ vifs ≠ wdev.interfaces)
  | _ => False

/-- A device that waits for its timer is not asked to go down. -/
def TimerLeftAlone (m : Wireless β) (op : WirelessStep β) : Prop :=
  ∀ wdev, m.wdev = some wdev → Waiting wdev → ¬AsksForTeardown wdev op.input

theorem TimersSound.reload {m : Wireless β} (h : TimersSound m) (forks : Bool)
    {dev : Option (β × Bool)} {vifs : List β}
    (hok : ∀ wdev, m.wdev = some wdev → Waiting wdev → wdev.configState = .normal →
      dev = some (wdev.config, wdev.disabled) ∧ vifs = wdev.interfaces) :
    TimersSound (configInitWireless forks dev vifs m) ∧
      (configInitWireless forks dev vifs m).marked = m.marked := by
  by_cases hwaits : ∃ wdev, m.wdev = some wdev ∧ Waiting wdev ∧ wdev.configState = .normal
  · obtain ⟨wdev, hwdev, hwaiting, hnormal⟩ := hwaits
    obtain ⟨rfl, rfl⟩ := hok wdev hwdev hwaiting hnormal
    rw [configInitWireless_same hwdev]
    exact ⟨h, rfl⟩
  · have hreload : ReloadSound m :=
      ⟨h, fun wdev hwdev hwaiting hnormal => hwaits ⟨wdev, hwdev, hwaiting, hnormal⟩⟩
    obtain ⟨hsound, hmarked⟩ := hreload.configInit forks dev vifs
    exact ⟨hsound.toTimersSound, hmarked⟩

theorem TimersSound.step {m : Wireless β} (h : TimersSound m) {op : WirelessStep β}
    (hok : TimerLeftAlone m op) :
    TimersSound (wirelessStep m op) ∧ MarkedOnce m (wirelessStep m op) := by
  obtain ⟨input, forks, again⟩ := op
  have hmodify {f : WirelessDevice β → WirelessDevice β}
      (hf : ∀ wdev, m.wdev = some wdev → TimerSound wdev → TimerSound (f wdev)) :
      TimersSound (m.modify f) ∧ MarkedOnce m (m.modify f) := ⟨h.modify hf, .inl rfl⟩
  cases input with
  | up =>
    apply hmodify
    intro wdev _ hsound
    apply TimerSound.setUp'
    exact ⟨hsound.armed, hsound.idle⟩
  | down =>
    apply hmodify
    intro wdev hwdev hsound
    apply TimerSound.setDown'
    · exact ⟨hsound.armed, hsound.idle⟩
    · exact fun hw => hok wdev hwdev hw trivial
  | reload dev vifs =>
    have hunchanged : ∀ wdev, m.wdev = some wdev → Waiting wdev → wdev.configState = .normal →
        dev = some (wdev.config, wdev.disabled) ∧ vifs = wdev.interfaces := by
      intro wdev hwdev hwaiting hnormal
      have hasks := hok wdev hwdev hwaiting
      simp only [AsksForTeardown, hnormal, true_and, not_or, not_not] at hasks
      exact hasks
    have hreload := h.reload forks hunchanged
    have hstart := hreload.1.modify fun wdev _ hsound => hsound.setUp' forks false
    exact ⟨⟨hstart.dev, hstart.lost⟩, .inl hreload.2⟩
  | startPending =>
    apply hmodify
    intro wdev _ hsound
    exact hsound.setUp' forks false
  | notifyUp =>
    apply hmodify
    intro wdev hwdev hsound
    dsimp only
    split_ifs with hstate
    · exact hsound.markUp hstate (fun hw => hok wdev hwdev hw hstate) forks
    · exact hsound
  | processAdd proc =>
    apply hmodify
    intro wdev _ hsound
    exact ⟨hsound.armed, hsound.idle⟩
  | processKillAll alive immediate =>
    apply hmodify
    intro wdev _ hsound
    exact hsound.processKillAll alive immediate
  | setRetry retry =>
    apply hmodify
    intro wdev _ hsound
    exact ⟨hsound.armed, hsound.idle⟩
  | scriptExit =>
    simp only [wirelessStep]
    cases hwdev : m.wdev with
    | none => exact ⟨h, .inl rfl⟩
    | some wdev =>
      dsimp only
      split_ifs with htask
      · have hsound := h.dev wdev hwdev
        have hset : TimersSound (m.set { wdev with scriptTask := false }) :=
          .set h.lost ⟨hsound.armed, fun _ => rfl⟩
        exact hset.scriptTaskCb rfl rfl forks
      · exact ⟨h, .inl rfl⟩
  | timeout =>
    simp only [wirelessStep]
    cases hwdev : m.wdev with
    | none => exact ⟨h, .inl rfl⟩
    | some wdev =>
      dsimp only
      split_ifs with harmed
      · exact h.setupTimeout hwdev harmed forks again
      · exact ⟨h, .inl rfl⟩
  | pollFd =>
    apply hmodify
    intro wdev _ hsound
    split_ifs
    · exact ⟨hsound.armed, hsound.idle⟩
    · exact hsound
  | scriptCheck alive =>
    apply hmodify
    intro wdev _ hsound
    split_ifs
    · apply TimerSound.checkScriptTasks
      exact ⟨hsound.armed, hsound.idle⟩
    · exact hsound

/-- In a run in which a device that waits for its timer is not asked to go down again, the timer
runs for a cancelled setup only, each step marks the device down at most once and never when it
is down already, and no freed device is used or called back. -/
theorem cancel_timer_of_run {ops : List (WirelessStep β)}
    (hok : AllOk wirelessStep TimerLeftAlone {} ops) (n : ℕ) :
    (∀ wdev, (run wirelessStep {} (ops.take n)).wdev = some wdev → wdev.timeout = true →
      wdev.cancel = true ∧ (wdev.state = .setup ∨ wdev.state = .up)) ∧
    MarkedOnce (run wirelessStep {} (ops.take n)) (run wirelessStep {} (ops.take (n + 1))) ∧
    (run wirelessStep {} (ops.take n)).lost = false := by
  have hsound : TimersSound (run wirelessStep ({} : Wireless β) (ops.take n)) :=
    run_property_of_allOk (fun m op h hop => (h.step hop).1) timersSound_start hok n
  have honce : MarkedOnce (run wirelessStep ({} : Wireless β) (ops.take n))
      (run wirelessStep {} (ops.take (n + 1))) :=
    run_step_of_allOk (fun m op (h : TimersSound m) hop => h.step hop) (fun _ => .inl rfl)
      timersSound_start hok n
  exact ⟨fun wdev hwdev => (hsound.dev wdev hwdev).armed, honce, hsound.lost⟩

end Facts

/-- A radio with one network. -/
def radioReload : WirelessStep String where
  input := .reload (some ("radio0", false)) ["lan"]

/-- A setup that is cancelled while its script runs. -/
def cancelledSetup : List (WirelessStep String) :=
  [radioReload, { input := .down }, { input := .timeout }]

theorem cancelledSetup_leftAlone : AllOk wirelessStep TimerLeftAlone {} cancelledSetup := by
  refine ⟨?_, ?_, ?_, trivial⟩
  · intro wdev h
    cases h
  · intro wdev h hwaiting
    cases h
    cases hwaiting.1
  · intro wdev _ _ h
    exact h

theorem cancel_timer_of_run_cancelled :
    (run wirelessStep ({} : Wireless String) (cancelledSetup.take 3)).lost = false :=
  (cancel_timer_of_run cancelledSetup_leftAlone 3).2.2

/-- A setup that is cancelled, and told again to go down after its script has ended. -/
def cancelledTwice : List (WirelessStep String) :=
  [radioReload, { input := .down }, { input := .scriptExit }, { input := .down }]

/-- The timer is left running during the teardown, and when it expires before the teardown of a
device that was removed is over, the device is marked down a second time, after it was freed. -/
theorem timer_armed_in_teardown :
    (run wirelessStep ({} : Wireless String) cancelledTwice).wdev.map
        (fun wdev => (wdev.timeout, wdev.state)) = some (true, .teardown) ∧
      (run wirelessStep ({} : Wireless String) (cancelledTwice ++
        [{ input := .reload none [] }, { input := .timeout }])).lost = true := by
  decide

end Netifd
