import Netifd.WirelessDevice

/-!
# Reloads of a wireless device

What a reload asks for is kept in `config_state` until the scripts of the device have ended.
While no reload is in the way of the one before, the device ends up with the configuration of
the last one, or is gone if that had none for it.
-/

namespace Netifd
open GuardedRuns

variable {β : Type}

/-- The device is being set up, or it is up. -/
def WirelessDevice.running (wdev : WirelessDevice β) : Prop :=
  wdev.state = .setup ∨ wdev.state = .up

/-- Whatever the device is about to do, a script or the timer goes on with it. -/
structure Driven (wdev : WirelessDevice β) : Prop where
  teardown : wdev.state = .teardown → wdev.scriptTask = true
  setup : wdev.state = .setup → wdev.scriptTask = true ∨ wdev.timeout = true
  timer : wdev.running → wdev.timeout = wdev.cancel
  down : wdev.state = .down →
    wdev.timeout = false ∧ wdev.cancel = false ∧ wdev.scriptTask = false

/-- The device is on its way down. -/
def GoingDown (wdev : WirelessDevice β) : Prop :=
  wdev.state = .teardown ∨ wdev.running ∧ wdev.timeout = true

/-- What a reload has asked for is about to be done, and what runs was set up with the present
configuration. -/
structure Settles (wdev : WirelessDevice β) : Prop extends Driven wdev where
  pending : wdev.configState ≠ .normal → GoingDown wdev
  applied : wdev.running → wdev.configState = .normal →
    wdev.lastSetup = some (wdev.config, wdev.interfaces)

/-- The configuration is the same, and a removal is pending if it was before. -/
structure SameConfig (wdev wdev' : WirelessDevice β) : Prop where
  config : wdev'.config = wdev.config
  disabled : wdev'.disabled = wdev.disabled
  interfaces : wdev'.interfaces = wdev.interfaces
  removal : wdev'.configState = .remove ↔ wdev.configState = .remove

theorem SameConfig.refl (wdev : WirelessDevice β) : SameConfig wdev wdev :=
  ⟨rfl, rfl, rfl, Iff.rfl⟩

theorem running_of_guard {wdev : WirelessDevice β}
    (h : ¬(wdev.state = .teardown ∨ wdev.state = .down)) : wdev.running := by
  unfold WirelessDevice.running
  cases hstate : wdev.state <;> simp [hstate] at h ⊢

theorem Driven.setDown' {wdev : WirelessDevice β} (h : Driven wdev) :
    Driven (wirelessDeviceSetDown' true wdev) := by
  unfold wirelessDeviceSetDown'
  split_ifs with hguard htask
  · exact h
  · unfold wirelessDeviceSetupCancel
    split_ifs with hcancel
    · exact h
    · refine ⟨h.teardown, fun _ => .inl htask, fun _ => rfl, ?_⟩
      intro hdown
      exact absurd (.inr hdown) hguard
  · refine ⟨fun _ => rfl, ?_, ?_, ?_⟩
    · intro hsetup
      cases hsetup
    · rintro (hstate | hstate) <;> cases hstate
    · intro hdown
      cases hdown

theorem Driven.goingDown {wdev : WirelessDevice β} (h : Driven wdev) (hup : wdev.state ≠ .down) :
    GoingDown (wirelessDeviceSetDown' true wdev) := by
  unfold wirelessDeviceSetDown'
  split_ifs with hguard htask
  · exact .inl (hguard.resolve_right hup)
  · have hrunning := running_of_guard hguard
    unfold wirelessDeviceSetupCancel
    split_ifs with hcancel
    · exact .inr ⟨hrunning, (h.timer hrunning).trans hcancel⟩
    · exact .inr ⟨hrunning, rfl⟩
  · exact .inl rfl

theorem setDown'_sameConfig (forks : Bool) (wdev : WirelessDevice β) :
    SameConfig wdev (wirelessDeviceSetDown' forks wdev) := by
  unfold wirelessDeviceSetDown' wirelessDeviceSetupCancel
  split_ifs <;> exact ⟨rfl, rfl, rfl, Iff.rfl⟩

theorem setDown'_running {forks : Bool} {wdev : WirelessDevice β}
    (h : (wirelessDeviceSetDown' forks wdev).running) :
    wdev.running ∧ (wirelessDeviceSetDown' forks wdev).lastSetup = wdev.lastSetup := by
  unfold wirelessDeviceSetDown' wirelessDeviceSetupCancel at h ⊢
  split_ifs at h ⊢ with hguard htask hcancel
  · exact ⟨h, rfl⟩
  · exact ⟨h, rfl⟩
  · exact ⟨h, rfl⟩
  · rcases h with h | h <;> cases h

theorem Settles.setDown' {wdev : WirelessDevice β} (h : Settles wdev) :
    Settles (wirelessDeviceSetDown' true wdev) := by
  have hsame := setDown'_sameConfig true wdev
  refine ⟨h.toDriven.setDown', ?_, ?_⟩
  · intro hconfig
    rw [setDown'_configState] at hconfig
    apply h.toDriven.goingDown
    intro hdown
    rcases h.pending hconfig with hstate | ⟨hstate | hstate, _⟩ <;> simp [hdown] at hstate
  · intro hrunning hconfig
    rw [setDown'_configState] at hconfig
    obtain ⟨hbefore, hlast⟩ := setDown'_running hrunning
    rw [hlast, hsame.config, hsame.interfaces]
    exact h.applied hbefore hconfig

theorem settles_started {wdev : WirelessDevice β} (htimeout : wdev.timeout = false)
    (hcancel : wdev.cancel = false) :
    Settles { wirelessDeviceRunHandler true true { wdev with state := .setup } with
      configState := .normal } := by
  refine ⟨⟨?_, fun _ => .inl rfl, ?_, ?_⟩, fun hc => absurd rfl hc, fun _ _ => rfl⟩
  · intro hstate
    cases hstate
  · intro _
    simp [wirelessDeviceRunHandler, htimeout, hcancel]
  · intro hstate
    cases hstate

theorem settles_setUp' {wdev : WirelessDevice β} (h : Driven wdev) (hdown : wdev.state = .down)
    (configInit : Bool) :
    Settles { wirelessDeviceSetUp' true configInit wdev with configState := .normal } := by
  obtain ⟨htimeout, hcancel, _⟩ := h.down hdown
  unfold wirelessDeviceSetUp'
  split_ifs
  · refine ⟨⟨h.teardown, h.setup, h.timer, h.down⟩, fun hc => absurd rfl hc, ?_⟩
    rintro (hstate | hstate) <;> simp [hdown] at hstate
  · exact settles_started htimeout hcancel

theorem setUp'_sameConfig (forks configInit : Bool) (wdev : WirelessDevice β) :
    SameConfig wdev (wirelessDeviceSetUp' forks configInit wdev) := by
  unfold wirelessDeviceSetUp'
  split_ifs
  · exact .refl wdev
  · exact ⟨rfl, rfl, rfl, Iff.rfl⟩

theorem driven_markedDown {wdev : WirelessDevice β} (htask : wdev.scriptTask = false) :
    Driven (markedDown wdev) := by
  refine ⟨?_, ?_, ?_, fun _ => ⟨rfl, rfl, htask⟩⟩
  · intro hstate
    cases hstate
  · intro hstate
    cases hstate
  · rintro (hstate | hstate) <;> cases hstate

theorem Settles.normal_of_idle {wdev : WirelessDevice β} (h : Settles wdev)
    (hidle : wdev.state ≠ .teardown) (htimeout : wdev.timeout = false) :
    wdev.configState = .normal := by
  by_contra hconfig
  rcases h.pending hconfig with hstate | ⟨_, harmed⟩
  · exact hidle hstate
  · rw [htimeout] at harmed
    cases harmed

theorem Settles.markUp {wdev : WirelessDevice β} (h : Settles wdev) (hstate : wdev.state = .setup) :
    Settles (wirelessDeviceMarkUp true wdev) := by
  have htimer := h.timer (.inl hstate)
  unfold wirelessDeviceMarkUp
  split_ifs with hcancel
  · unfold wirelessDeviceSetDown'
    rw [if_neg (by simp [hstate])]
    split_ifs with htask
    · -- the cancellation is only renewed
      refine ⟨⟨h.teardown, fun _ => .inl htask, fun _ => rfl, ?_⟩, fun _ => .inr ⟨.inl hstate, rfl⟩,
        h.applied⟩
      intro hdown
      simp [wirelessDeviceSetupCancel, hstate] at hdown
    · refine ⟨⟨fun _ => rfl, ?_, ?_, ?_⟩, fun _ => .inl rfl, ?_⟩
      · intro hsetup
        cases hsetup
      · rintro (hup | hup) <;> cases hup
      · intro hdown
        cases hdown
      · rintro (hup | hup) <;> cases hup
  · have htimeout : wdev.timeout = false := htimer.trans (by simpa using hcancel)
    have hnormal := h.normal_of_idle (by simp [hstate]) htimeout
    refine ⟨⟨?_, ?_, fun _ => htimer, ?_⟩, fun hc => absurd hnormal hc,
      fun _ hc => h.applied (.inl hstate) hc⟩
    · intro hup
      cases hup
    · intro hup
      cases hup
    · intro hup
      cases hup

theorem Settles.retrySetup {wdev : WirelessDevice β} (h : Settles wdev) :
    Settles (wirelessDeviceRetrySetup true wdev) := by
  unfold wirelessDeviceRetrySetup
  split_ifs
  · exact h
  · apply Settles.setDown'
    exact ⟨⟨h.teardown, h.setup, h.timer, h.down⟩, h.pending, h.applied⟩

theorem Settles.setupEnded {wdev : WirelessDevice β} (h : Settles wdev)
    (hstate : wdev.state = .setup) :
    Settles (wirelessDeviceRetrySetup true { wdev with scriptTask := false }) := by
  have htimer := h.timer (.inl hstate)
  unfold wirelessDeviceRetrySetup
  split_ifs with hguard
  · have hcancel : wdev.cancel = true := by simpa [hstate] using hguard
    refine ⟨⟨?_, fun _ => .inr (htimer.trans hcancel), h.timer, ?_⟩, h.pending, h.applied⟩
    · intro hteardown
      simp [hstate] at hteardown
    · intro hdown
      simp [hstate] at hdown
  · unfold wirelessDeviceSetDown'
    rw [if_neg (by simp [hstate]), if_neg (by simp)]
    refine ⟨⟨fun _ => rfl, ?_, ?_, ?_⟩, fun _ => .inl rfl, ?_⟩
    · intro hsetup
      cases hsetup
    · rintro (hup | hup) <;> cases hup
    · intro hdown
      cases hdown
    · rintro (hup | hup) <;> cases hup

theorem retrySetup_sameConfig (forks : Bool) (wdev : WirelessDevice β) :
    SameConfig wdev (wirelessDeviceRetrySetup forks wdev) := by
  unfold wirelessDeviceRetrySetup
  split_ifs
  · exact .refl wdev
  · have hsame := setDown'_sameConfig forks
      { wdev with
        retry := wdev.retry - 1
        retrySetupFailed := wdev.retrySetupFailed || decide (wdev.retry - 1 < 0) }
    exact ⟨hsame.config, hsame.disabled, hsame.interfaces, hsame.removal⟩

theorem setUp'_configState (forks configInit : Bool) (wdev : WirelessDevice β) :
    (wirelessDeviceSetUp' forks configInit wdev).configState = wdev.configState := by
  unfold wirelessDeviceSetUp'
  split_ifs <;> rfl

theorem configState_set_normal {wdev : WirelessDevice β} (h : wdev.configState = .normal) :
    { wdev with configState := .normal } = wdev := by
  rw [← h]

theorem setUp'_of_not_down {wdev : WirelessDevice β} (h : wdev.state ≠ .down)
    (forks configInit : Bool) : wirelessDeviceSetUp' forks configInit wdev = wdev := by
  unfold wirelessDeviceSetUp'
  rw [if_pos (by simp [h])]

theorem Settles.setUp' {wdev : WirelessDevice β} (h : Settles wdev) (configInit : Bool) :
    Settles (wirelessDeviceSetUp' true configInit wdev) := by
  by_cases hdown : wdev.state = .down
  · have hnormal : wdev.configState = .normal :=
      h.normal_of_idle (by simp [hdown]) (h.down hdown).1
    have hset := settles_setUp' h.toDriven hdown configInit
    rwa [configState_set_normal ((setUp'_configState _ _ _).trans hnormal)] at hset
  · rwa [setUp'_of_not_down hdown]

theorem markUp_sameConfig (forks : Bool) (wdev : WirelessDevice β) :
    SameConfig wdev (wirelessDeviceMarkUp forks wdev) := by
  unfold wirelessDeviceMarkUp
  split_ifs
  · have hsame := setDown'_sameConfig forks { wdev with cancel := false }
    exact ⟨hsame.config, hsame.disabled, hsame.interfaces, hsame.removal⟩
  · exact ⟨rfl, rfl, rfl, Iff.rfl⟩

theorem Settles.processKillAll {wdev : WirelessDevice β} (h : Settles wdev) (alive : ℕ → Bool)
    (immediate : Bool) : Settles (wirelessDeviceProcessKillAll alive immediate wdev) := by
  unfold wirelessDeviceProcessKillAll
  dsimp only
  split_ifs
  · exact h
  · exact ⟨⟨h.teardown, h.setup, h.timer, h.down⟩, h.pending, h.applied⟩
  · exact ⟨⟨h.teardown, h.setup, h.timer, h.down⟩, h.pending, h.applied⟩

theorem processKillAll_sameConfig (alive : ℕ → Bool) (immediate : Bool) (wdev : WirelessDevice β) :
    SameConfig wdev (wirelessDeviceProcessKillAll alive immediate wdev) := by
  unfold wirelessDeviceProcessKillAll
  dsimp only
  split_ifs <;> exact ⟨rfl, rfl, rfl, Iff.rfl⟩

theorem Settles.checkScriptTasks {wdev : WirelessDevice β} (h : Settles wdev) (alive : ℕ → Bool) :
    Settles (wirelessDeviceCheckScriptTasks alive true wdev) := by
  unfold wirelessDeviceCheckScriptTasks
  dsimp only
  split_ifs
  · apply Settles.retrySetup
    exact ⟨⟨h.teardown, h.setup, h.timer, h.down⟩, h.pending, h.applied⟩
  · exact ⟨⟨h.teardown, h.setup, h.timer, h.down⟩, h.pending, h.applied⟩

theorem checkScriptTasks_sameConfig (alive : ℕ → Bool) (forks : Bool) (wdev : WirelessDevice β) :
    SameConfig wdev (wirelessDeviceCheckScriptTasks alive forks wdev) := by
  unfold wirelessDeviceCheckScriptTasks
  dsimp only
  split_ifs
  · have hsame := retrySetup_sameConfig forks
      (wirelessProcessFree wdev (wdev.scriptProc.filter fun proc => alive proc.pid))
    exact ⟨hsame.config, hsame.disabled, hsame.interfaces, hsame.removal⟩
  · exact ⟨rfl, rfl, rfl, Iff.rfl⟩

/-- The device has the configuration of the last reload, or is about to be removed if that had
none for it. -/
structure AsReloaded (reloaded : Option (β × Bool × List β)) (wdev : WirelessDevice β) : Prop where
  removed : wdev.configState = .remove → reloaded = none
  kept : wdev.configState ≠ .remove →
    reloaded = some (wdev.config, wdev.disabled, wdev.interfaces)

theorem AsReloaded.same {reloaded : Option (β × Bool × List β)} {wdev wdev' : WirelessDevice β}
    (h : AsReloaded reloaded wdev) (hsame : SameConfig wdev wdev') : AsReloaded reloaded wdev' := by
  refine ⟨fun hremove => h.removed (hsame.removal.mp hremove), fun hkeep => ?_⟩
  rw [hsame.config, hsame.disabled, hsame.interfaces]
  exact h.kept fun hremove => hkeep (hsame.removal.mpr hremove)

/-- There is a device unless the last reload had none. -/
structure Known (m : Wireless β) : Prop where
  settles : ∀ wdev, m.wdev = some wdev → Settles wdev
  reloaded : ∀ wdev, m.wdev = some wdev → AsReloaded m.reloaded wdev
  absent : m.wdev = none → m.reloaded = none
  lost : m.lost = false

theorem Known.set {m : Wireless β} (hlost : m.lost = false) {wdev : WirelessDevice β}
    (h : Settles wdev) (hreloaded : AsReloaded m.reloaded wdev) : Known (m.set wdev) := by
  refine ⟨?_, ?_, ?_, hlost⟩
  · intro w hw
    cases hw
    exact h
  · intro w hw
    cases hw
    exact hreloaded
  · intro hnone
    cases hnone

theorem Known.modify {m : Wireless β} (h : Known m) {f : WirelessDevice β → WirelessDevice β}
    (hf : ∀ wdev, Settles wdev → Settles (f wdev)) (hsame : ∀ wdev, SameConfig wdev (f wdev)) :
    Known (m.modify f) := by
  refine ⟨?_, ?_, ?_, h.lost⟩
  · intro w hw
    obtain ⟨wdev, hwdev, rfl⟩ := Option.map_eq_some_iff.mp hw
    exact hf wdev (h.settles wdev hwdev)
  · intro w hw
    obtain ⟨wdev, hwdev, rfl⟩ := Option.map_eq_some_iff.mp hw
    exact (h.reloaded wdev hwdev).same (hsame wdev)
  · intro hnone
    exact h.absent (Option.map_eq_none_iff.mp hnone)

theorem markDown_kept {m : Wireless β} {wdev : WirelessDevice β}
    (hkeep : wdev.configState ≠ .remove) (forks : Bool) :
    wirelessDeviceMarkDown forks (m.set wdev) =
      { m.set { wirelessDeviceSetUp' forks false (markedDown wdev) with configState := .normal } with
        marked := m.marked ++ [wdev.state] } := by
  unfold wirelessDeviceMarkDown
  rw [onDevice_some (set_wdev m wdev)]
  unfold wdevHandleConfigChange
  rw [onDevice_some rfl]
  have hsame : (markedDown wdev).configState = wdev.configState := rfl
  cases hconfig : wdev.configState with
  | normal => simp only [hsame, hconfig]; rfl
  | reload => simp only [hsame, hconfig]; rfl
  | remove => exact absurd hconfig hkeep

/-- Nothing but its state keeps the device from being set up. -/
def WirelessDevice.startable (wdev : WirelessDevice β) : Bool :=
  !wdev.disabled && !wdev.retrySetupFailed && wdev.autostart

theorem setUp'_eq {wdev : WirelessDevice β} (hdown : wdev.state = .down) (forks : Bool) :
    wirelessDeviceSetUp' forks false wdev =
      if wdev.startable then wirelessDeviceRunHandler forks true { wdev with state := .setup }
      else wdev := by
  unfold wirelessDeviceSetUp' WirelessDevice.startable
  cases wdev.disabled <;> cases wdev.retrySetupFailed <;> cases wdev.autostart <;> simp [hdown]

/-- The device after it was marked down and kept. -/
def downAndUp (wdev : WirelessDevice β) : WirelessDevice β :=
  { wirelessDeviceSetUp' true false (markedDown wdev) with configState := .normal }

theorem downAndUp_eq (wdev : WirelessDevice β) :
    downAndUp wdev =
      if wdev.startable then
        { wirelessDeviceRunHandler true true { markedDown wdev with state := .setup } with
          configState := .normal }
      else { markedDown wdev with configState := .normal } := by
  have hsame : (markedDown wdev).startable = wdev.startable := rfl
  unfold downAndUp
  rw [setUp'_eq rfl, hsame]
  split_ifs <;> rfl

theorem downAndUp_startable (wdev : WirelessDevice β) :
    (downAndUp wdev).startable = wdev.startable := by
  rw [downAndUp_eq]
  split_ifs <;> rfl

theorem settles_downAndUp {wdev : WirelessDevice β}
    (h : wdev.startable = true ∨ wdev.scriptTask = false) : Settles (downAndUp wdev) := by
  by_cases hstart : wdev.startable = true
  · rw [downAndUp_eq, if_pos hstart]
    exact settles_started rfl rfl
  · exact settles_setUp' (driven_markedDown (h.resolve_left hstart)) rfl false

theorem AsReloaded.downAndUp {reloaded : Option (β × Bool × List β)} {wdev : WirelessDevice β}
    (h : AsReloaded reloaded wdev) (hkeep : wdev.configState ≠ .remove) :
    AsReloaded reloaded (downAndUp wdev) := by
  have hsame := setUp'_sameConfig true false (markedDown wdev)
  refine ⟨(fun h => by cases h), fun _ => ?_⟩
  change reloaded = some ((wirelessDeviceSetUp' true false (markedDown wdev)).config,
    (wirelessDeviceSetUp' true false (markedDown wdev)).disabled,
    (wirelessDeviceSetUp' true false (markedDown wdev)).interfaces)
  rw [hsame.config, hsame.disabled, hsame.interfaces]
  exact h.kept hkeep

theorem Known.markDown {m : Wireless β} (hlost : m.lost = false) {wdev : WirelessDevice β}
    (hreloaded : AsReloaded m.reloaded wdev) (htask : wdev.scriptTask = false) :
    Known (wirelessDeviceMarkDown true (m.set wdev)) := by
  have hdriven := driven_markedDown htask
  by_cases hremove : wdev.configState = .remove
  · have hnone : (wirelessDeviceMarkDown true (m.set wdev)).wdev = none ∧
        (wirelessDeviceMarkDown true (m.set wdev)).reloaded = m.reloaded ∧
        (wirelessDeviceMarkDown true (m.set wdev)).lost = false := by
      have hsame : (markedDown wdev).configState = .remove := hremove
      unfold wirelessDeviceMarkDown
      rw [onDevice_some (set_wdev m wdev)]
      unfold wdevHandleConfigChange
      rw [onDevice_some rfl]
      simp only [hsame]
      unfold wirelessDeviceFree
      rw [onDevice_some rfl]
      refine ⟨rfl, rfl, ?_⟩
      have hidle := hdriven.down rfl
      simp [hlost, hidle.1, hidle.2.2]
    obtain ⟨hwdev, hreloaded', hlost'⟩ := hnone
    refine ⟨?_, ?_, fun _ => hreloaded'.trans (hreloaded.removed hremove), hlost'⟩
    · intro w hw
      rw [hwdev] at hw
      cases hw
    · intro w hw
      rw [hwdev] at hw
      cases hw
  · rw [markDown_kept hremove]
    have hset := Known.set hlost (settles_downAndUp (.inr htask)) (hreloaded.downAndUp hremove)
    exact ⟨hset.settles, hset.reloaded, hset.absent, hset.lost⟩

theorem Known.markDownAgain {m : Wireless β} (h : Known m) {wdev : WirelessDevice β}
    (hreloaded : AsReloaded m.reloaded wdev) (hkeep : wdev.configState ≠ .remove)
    (htask : wdev.scriptTask = false) :
    Known (wirelessDeviceMarkDown true (wirelessDeviceMarkDown true (m.set wdev))) := by
  have hfirst := hreloaded.downAndUp hkeep
  have hnormal : (downAndUp wdev).configState ≠ .remove := by
    intro hremove
    cases hremove
  have hsettles : Settles (downAndUp (downAndUp wdev)) := by
    apply settles_downAndUp
    rw [downAndUp_startable]
    by_cases hstart : wdev.startable = true
    · exact .inl hstart
    · rw [downAndUp_eq, if_neg hstart]
      exact .inr htask
  rw [markDown_kept hkeep true]
  change Known (wirelessDeviceMarkDown true
    ({ m with marked := m.marked ++ [wdev.state] }.set (downAndUp wdev)))
  rw [markDown_kept hnormal true]
  have hset := Known.set h.lost hsettles (hfirst.downAndUp hnormal)
  exact ⟨hset.settles, hset.reloaded, hset.absent, hset.lost⟩

theorem scriptTaskCb_setup {m : Wireless β} {wdev : WirelessDevice β} (h : wdev.state = .setup)
    (forks : Bool) : wirelessDeviceScriptTaskCb forks (m.set wdev) =
      m.set (wirelessDeviceRetrySetup forks wdev) := by
  unfold wirelessDeviceScriptTaskCb
  rw [onDevice_some (set_wdev m wdev)]
  simp only [h]
  rfl

theorem scriptTaskCb_teardown {m : Wireless β} {wdev : WirelessDevice β}
    (h : wdev.state = .teardown) (forks : Bool) : wirelessDeviceScriptTaskCb forks (m.set wdev) =
      wirelessDeviceMarkDown forks (m.set wdev) := by
  unfold wirelessDeviceScriptTaskCb
  rw [onDevice_some (set_wdev m wdev)]
  simp only [h]

theorem scriptTaskCb_other {m : Wireless β} {wdev : WirelessDevice β}
    (h : wdev.state = .up ∨ wdev.state = .down) (forks : Bool) :
    wirelessDeviceScriptTaskCb forks (m.set wdev) = m.set wdev := by
  unfold wirelessDeviceScriptTaskCb
  rw [onDevice_some (set_wdev m wdev)]
  rcases h with h | h <;> simp only [h]

theorem Settles.scriptEnded {wdev : WirelessDevice β} (h : Settles wdev)
    (hstate : wdev.state = .up ∨ wdev.state = .down) :
    Settles { wdev with scriptTask := false } := by
  refine ⟨⟨?_, ?_, h.timer, ?_⟩, h.pending, h.applied⟩
  · intro hteardown
    rcases hstate with hstate | hstate <;> simp [hstate] at hteardown
  · intro hsetup
    rcases hstate with hstate | hstate <;> simp [hstate] at hsetup
  · intro hdown
    exact ⟨(h.down hdown).1, (h.down hdown).2.1, rfl⟩

theorem Known.scriptTaskCb {m : Wireless β} (h : Known m) {wdev : WirelessDevice β}
    (hwdev : m.wdev = some wdev) :
    Known (wirelessDeviceScriptTaskCb true (m.set { wdev with scriptTask := false })) := by
  have hsettles := h.settles wdev hwdev
  have hreloaded := h.reloaded wdev hwdev
  have hended : AsReloaded m.reloaded { wdev with scriptTask := false } :=
    ⟨hreloaded.removed, hreloaded.kept⟩
  by_cases hsetup : wdev.state = .setup
  · rw [@scriptTaskCb_setup β m { wdev with scriptTask := false } hsetup]
    exact .set h.lost (hsettles.setupEnded hsetup) (hended.same (retrySetup_sameConfig true _))
  by_cases hteardown : wdev.state = .teardown
  · rw [@scriptTaskCb_teardown β m { wdev with scriptTask := false } hteardown]
    exact .markDown h.lost hended rfl
  have hother : wdev.state = .up ∨ wdev.state = .down := by
    cases hstate : wdev.state <;> simp [hstate] at hsetup hteardown ⊢
  rw [@scriptTaskCb_other β m { wdev with scriptTask := false } hother]
  exact .set h.lost (hsettles.scriptEnded hother) hended

/-- The end of a cancelled setup; a removed device must not have got as far as its teardown. -/
theorem Known.setupTimeout {m : Wireless β} (h : Known m) {wdev : WirelessDevice β}
    (hwdev : m.wdev = some wdev) (harmed : wdev.timeout = true)
    (hok : ¬(wdev.state = .teardown ∧ wdev.configState = .remove)) :
    Known (wirelessDeviceSetupTimeout true true (m.set { wdev with timeout := false })) := by
  have hsettles := h.settles wdev hwdev
  have hreloaded := h.reloaded wdev hwdev
  -- the process is killed
  let killed := { wdev with timeout := false, scriptTask := false }
  have hkilled : AsReloaded m.reloaded killed := ⟨hreloaded.removed, hreloaded.kept⟩
  unfold wirelessDeviceSetupTimeout
  rw [onDevice_some (set_wdev m _)]
  change Known (wirelessDeviceMarkDown true (wirelessDeviceScriptTaskCb true (m.set killed)))
  have hrunning (hstate : wdev.running) :
      Known (wirelessDeviceMarkDown true (wirelessDeviceScriptTaskCb true (m.set killed))) := by
    have hcancel : wdev.cancel = true := (hsettles.timer hstate).symm.trans harmed
    have hcb : wirelessDeviceScriptTaskCb true (m.set killed) = m.set killed :=
      @scriptTaskCb_cancelled β _ killed rfl hcancel hstate true
    rw [hcb]
    exact .markDown h.lost hkilled rfl
  cases hstate : wdev.state with
  | setup => exact hrunning (.inl hstate)
  | up => exact hrunning (.inr hstate)
  | down =>
    have hidle := (hsettles.down hstate).1
    rw [harmed] at hidle
    cases hidle
  | teardown =>
    have hkeep : killed.configState ≠ .remove := fun hremove => hok ⟨hstate, hremove⟩
    -- marked down for the second time, the device is set up again if it was after the first
    rw [@scriptTaskCb_teardown β m killed hstate]
    exact h.markDownAgain hkilled hkeep rfl

theorem known_start : Known ({} : Wireless β) :=
  ⟨(fun _ h => by cases h), (fun _ h => by cases h), fun _ => rfl, rfl⟩

/-- No script runs for the device, and its timer is not armed. -/
def Settled (m : Wireless β) : Prop :=
  ∀ wdev, m.wdev = some wdev → wdev.scriptTask = false ∧ wdev.timeout = false

/-- What the last reload asked for has been done: there is a device if there was one in the
configuration, nothing is pending for it, and it was set up with its configuration. -/
structure LastReloadDone (m : Wireless β) : Prop where
  exists_iff : m.wdev = none ↔ m.reloaded = none
  config : ∀ wdev, m.wdev = some wdev →
    m.reloaded = some (wdev.config, wdev.disabled, wdev.interfaces) ∧ wdev.configState = .normal
  applied : ∀ wdev, m.wdev = some wdev → wdev.state = .setup ∨ wdev.state = .up →
    wdev.lastSetup = some (wdev.config, wdev.interfaces)

theorem Settles.normal_of_settled {wdev : WirelessDevice β} (h : Settles wdev)
    (htask : wdev.scriptTask = false) (htimeout : wdev.timeout = false) :
    wdev.configState = .normal := by
  refine h.normal_of_idle (fun hteardown => ?_) htimeout
  have hscript := h.teardown hteardown
  rw [htask] at hscript
  cases hscript

theorem Known.lastReloadDone {m : Wireless β} (h : Known m) (hsettled : Settled m) :
    LastReloadDone m := by
  have hconfig : ∀ wdev, m.wdev = some wdev →
      m.reloaded = some (wdev.config, wdev.disabled, wdev.interfaces) ∧
        wdev.configState = .normal := by
    intro wdev hwdev
    obtain ⟨htask, htimeout⟩ := hsettled wdev hwdev
    have hnormal := (h.settles wdev hwdev).normal_of_settled htask htimeout
    exact ⟨(h.reloaded wdev hwdev).kept (by simp [hnormal]), hnormal⟩
  refine ⟨⟨h.absent, ?_⟩, hconfig, ?_⟩
  · intro hnone
    by_contra hsome
    obtain ⟨wdev, hwdev⟩ := Option.ne_none_iff_exists'.mp hsome
    simp [hnone] at hconfig
    exact hconfig wdev hwdev
  · intro wdev hwdev hrunning
    exact (h.settles wdev hwdev).applied hrunning (hconfig wdev hwdev).2

/-- The device in the table settles with these interfaces, and otherwise has the configuration
that it had. -/
def LeadsTo (m : Wireless β) (wdev : WirelessDevice β) (interfaces : List β) (m' : Wireless β) :
    Prop :=
  ∃ wdev', m' = m.set wdev' ∧ Settles wdev' ∧ SameConfig { wdev with interfaces } wdev'

theorem LeadsTo.refl (m : Wireless β) {wdev : WirelessDevice β} (h : Settles wdev) :
    LeadsTo m wdev wdev.interfaces (m.set wdev) :=
  ⟨wdev, rfl, h, .refl wdev⟩

theorem LeadsTo.next {m m' : Wireless β} {wdev : WirelessDevice β} {l l' : List β}
    (h : LeadsTo m wdev l m') {f : Wireless β → Wireless β}
    (hf : ∀ w, Settles w → w.interfaces = l → LeadsTo m w l' (f (m.set w))) :
    LeadsTo m wdev l' (f m') := by
  obtain ⟨w, rfl, hsettles, hsame⟩ := h
  obtain ⟨w', hw', hsettles', hsame'⟩ := hf w hsettles hsame.interfaces
  refine ⟨w', hw', hsettles', hsame'.config.trans hsame.config,
    hsame'.disabled.trans hsame.disabled,
    hsame'.interfaces, ?_⟩
  exact hsame'.removal.trans hsame.removal

theorem wdevSetConfigState_reload {m : Wireless β} {wdev : WirelessDevice β} (h : Driven wdev)
    (hpending : wdev.configState ≠ .normal → GoingDown wdev) :
    LeadsTo m wdev wdev.interfaces (wdevSetConfigState true .reload (m.set wdev)) := by
  unfold wdevSetConfigState
  rw [onDevice_some (set_wdev m wdev)]
  dsimp only
  split_ifs with hconfig hdown
  · exact ⟨wdev, rfl, ⟨h, hpending, fun _ hnormal => absurd hnormal hconfig⟩, .refl wdev⟩
  · have hdriven : Driven { wdev with configState := .reload } :=
      ⟨h.teardown, h.setup, h.timer, h.down⟩
    refine ⟨_, ?_, settles_setUp' hdriven hdown true, ?_⟩
    · unfold wdevHandleConfigChange
      rw [onDevice_some (set_wdev _ _)]
      rfl
    · have hsame := setUp'_sameConfig true true { wdev with configState := .reload }
      refine ⟨hsame.config, hsame.disabled, hsame.interfaces, ?_⟩
      simp only [ne_eq, not_not] at hconfig
      simp [hconfig]
  · have hdriven : Driven { wdev with configState := .reload } :=
      ⟨h.teardown, h.setup, h.timer, h.down⟩
    have hsame := setDown'_sameConfig true { wdev with configState := .reload }
    refine ⟨_, rfl, ⟨hdriven.setDown', fun _ => hdriven.goingDown hdown, ?_⟩,
      hsame.config, hsame.disabled, hsame.interfaces, ?_⟩
    · intro _ hnormal
      rw [setDown'_configState] at hnormal
      cases hnormal
    · simp only [ne_eq, not_not] at hconfig
      simp [hconfig]

theorem setInterfaces_leadsTo {m : Wireless β} {wdev : WirelessDevice β} (h : Settles wdev)
    (interfaces : List β) : LeadsTo m wdev interfaces
      (wdevSetConfigState true .reload (m.set { wdev with interfaces })) := by
  have hdriven : Driven { wdev with interfaces } := ⟨h.teardown, h.setup, h.timer, h.down⟩
  exact wdevSetConfigState_reload hdriven h.pending

theorem vifDelete_leadsTo {m : Wireless β} {wdev : WirelessDevice β} (h : Settles wdev) :
    LeadsTo m wdev wdev.interfaces.dropLast (vifDelete true (m.set wdev)) :=
  setInterfaces_leadsTo h _

theorem vifDelete_iterate_leadsTo {m : Wireless β} {wdev : WirelessDevice β} (h : Settles wdev)
    (n : ℕ) : LeadsTo m wdev (wdev.interfaces.take (wdev.interfaces.length - n))
      ((vifDelete true)^[n] (m.set wdev)) := by
  induction n with
  | zero => simpa using LeadsTo.refl m h
  | succ n ih =>
    rw [Function.iterate_succ_apply']
    apply ih.next
    intro w hw hinterfaces
    have hdrop : w.interfaces.dropLast =
        wdev.interfaces.take (wdev.interfaces.length - (n + 1)) := by
      rw [hinterfaces, List.dropLast_eq_take, List.take_take, List.length_take]
      congr 1
      omega
    exact hdrop ▸ vifDelete_leadsTo hw

theorem remove_settles {m : Wireless β} (hlost : m.lost = false) {wdev : WirelessDevice β}
    (h : Settles wdev) (hconfig : wdev.configState ≠ .reload) :
    ((wdevSetConfigState true .remove (m.set wdev)).wdev = none ∧
      (wdevSetConfigState true .remove (m.set wdev)).lost = false) ∨
    ∃ wdev', wdevSetConfigState true .remove (m.set wdev) = m.set wdev' ∧ Settles wdev' ∧
      wdev'.configState = .remove := by
  unfold wdevSetConfigState
  rw [onDevice_some (set_wdev m wdev)]
  dsimp only
  have hdriven : Driven { wdev with configState := .remove } :=
    ⟨h.teardown, h.setup, h.timer, h.down⟩
  split_ifs with hpending hdown
  · refine .inr ⟨wdev, rfl, h, ?_⟩
    cases hstate : wdev.configState <;> simp [hstate] at hpending hconfig ⊢
  · left
    unfold wdevHandleConfigChange
    rw [onDevice_some (set_wdev _ _)]
    dsimp only
    unfold wirelessDeviceFree
    rw [onDevice_some (set_wdev _ _)]
    have hidle := h.down hdown
    exact ⟨rfl, by simp [hlost, hidle.1, hidle.2.2]⟩
  · right
    refine ⟨_, rfl, ⟨hdriven.setDown', fun _ => hdriven.goingDown hdown, ?_⟩, ?_⟩
    · intro _ hnormal
      rw [setDown'_configState] at hnormal
      cases hnormal
    · rw [setDown'_configState]

section Reload

variable [DecidableEq β]

theorem interfaceCreate_leadsTo {m : Wireless β} {wdev : WirelessDevice β} (h : Settles wdev)
    {done rest : List β} (hdone : wdev.interfaces = done ++ rest) (vif : β) :
    LeadsTo m wdev (done ++ vif :: rest.tail)
      (wirelessInterfaceCreate true (m.set wdev) (vif, done.length)) := by
  cases rest with
  | nil =>
    have hnone : wdev.interfaces[done.length]? = none := by simp [hdone]
    have hlist : done ++ [vif] = wdev.interfaces ++ [vif] := by simp [hdone]
    simp only [wirelessInterfaceCreate, set_wdev, hnone, List.tail_nil]
    exact hlist ▸ setInterfaces_leadsTo h _
  | cons old rest =>
    have hold : wdev.interfaces[done.length]? = some old := by simp [hdone]
    simp only [wirelessInterfaceCreate, set_wdev, hold, List.tail_cons]
    split_ifs with heq
    · have hlist : done ++ vif :: rest = wdev.interfaces := by rw [hdone, heq]
      exact hlist ▸ LeadsTo.refl m h
    · have hlist : done ++ vif :: rest = wdev.interfaces.set done.length vif := by simp [hdone]
      exact hlist ▸ setInterfaces_leadsTo h _

theorem interfaces_leadsTo {m : Wireless β} {wdev : WirelessDevice β} (h : Settles wdev)
    (vifs : List β) {done rest : List β} (hdone : wdev.interfaces = done ++ rest) :
    LeadsTo m wdev (done ++ vifs ++ rest.drop vifs.length)
      ((vifs.zipIdx done.length).foldl (wirelessInterfaceCreate true) (m.set wdev)) := by
  induction vifs generalizing wdev done rest with
  | nil =>
    have hlist : done ++ [] ++ rest.drop 0 = wdev.interfaces := by simp [hdone]
    exact hlist ▸ LeadsTo.refl m h
  | cons vif vifs ih =>
    have hfirst : LeadsTo m wdev (done ++ vif :: rest.tail)
        (wirelessInterfaceCreate true (m.set wdev) (vif, done.length)) :=
      interfaceCreate_leadsTo h hdone vif
    have hlist : done ++ vif :: vifs ++ rest.drop (vif :: vifs).length =
        done ++ [vif] ++ vifs ++ rest.tail.drop vifs.length := by
      cases rest <;> simp
    rw [List.zipIdx_cons, List.foldl_cons, hlist]
    refine hfirst.next (f := fun m => (vifs.zipIdx (done.length + 1)).foldl
      (wirelessInterfaceCreate true) m) ?_
    intro w hw hinterfaces
    have hrest : LeadsTo m w (done ++ [vif] ++ vifs ++ rest.tail.drop vifs.length)
        ((vifs.zipIdx (done ++ [vif]).length).foldl (wirelessInterfaceCreate true) (m.set w)) :=
      ih hw (by simp [hinterfaces])
    rwa [List.length_append, List.length_singleton] at hrest

theorem configInterfaces_leadsTo {m : Wireless β} {wdev : WirelessDevice β} (h : Settles wdev)
    (vifs : List β) :
    LeadsTo m wdev vifs
      ((vifDelete true)^[surplus vifs (vifs.zipIdx.foldl (wirelessInterfaceCreate true) (m.set wdev))]
        (vifs.zipIdx.foldl (wirelessInterfaceCreate true) (m.set wdev))) := by
  have hvifs : LeadsTo m wdev (vifs ++ wdev.interfaces.drop vifs.length)
      (vifs.zipIdx.foldl (wirelessInterfaceCreate true) (m.set wdev)) :=
    interfaces_leadsTo h vifs (List.nil_append _).symm
  refine hvifs.next (f := fun m => (vifDelete true)^[surplus vifs m] m) ?_
  intro w hw hinterfaces
  have hflush : LeadsTo m w _ ((vifDelete true)^[surplus vifs (m.set w)] (m.set w)) :=
    vifDelete_iterate_leadsTo hw _
  have hleft : w.interfaces.take (w.interfaces.length - surplus vifs (m.set w)) = vifs := by
    have hsurplus : w.interfaces.length - surplus vifs (m.set w) = vifs.length := by
      simp [surplus, hinterfaces]
    rw [hsurplus, hinterfaces, List.take_left]
  rwa [hleft] at hflush

theorem create_settles {m : Wireless β}
    (h : ∀ wdev, m.wdev = some wdev → Settles wdev ∧ wdev.configState ≠ .remove) (config : β)
    (disabled : Bool) : ∃ wdev, wirelessDeviceCreate true config disabled m = m.set wdev ∧
      Settles wdev ∧ wdev.config = config ∧ wdev.disabled = disabled ∧
      wdev.configState ≠ .remove := by
  obtain ⟨wdev, marked, lost, reloaded⟩ := m
  cases wdev with
  | none =>
    refine ⟨_, rfl, ⟨⟨?_, ?_, ?_, fun _ => ⟨rfl, rfl, rfl⟩⟩, fun hc => absurd rfl hc, ?_⟩, rfl, rfl, ?_⟩
    · intro hstate
      cases hstate
    · intro hstate
      cases hstate
    · rintro (hstate | hstate) <;> cases hstate
    · rintro (hstate | hstate) <;> cases hstate
    · simp
  | some wdev =>
    obtain ⟨hsettles, hkeep⟩ := h wdev rfl
    change ∃ w, wdevChangeConfig true config disabled _ = _ ∧ _
    unfold wdevChangeConfig
    rw [onDevice_some rfl]
    split_ifs with hsame
    · exact ⟨wdev, rfl, hsettles, hsame.1, hsame.2, hkeep⟩
    · have hdriven : Driven { wdev with config, disabled, retrySetupFailed := false } :=
        ⟨hsettles.teardown, hsettles.setup, hsettles.timer, hsettles.down⟩
      obtain ⟨w, hw, hsettles', hconfig⟩ := wdevSetConfigState_reload
        (m := { wdev := some wdev, marked, lost, reloaded }) hdriven hsettles.pending
      exact ⟨w, hw, hsettles', hconfig.config, hconfig.disabled,
        fun hremove => hkeep (hconfig.removal.mp hremove)⟩

theorem Known.configInit_some {m : Wireless β} (h : Known m)
    (hok : ∀ wdev, m.wdev = some wdev → wdev.configState ≠ .remove) (config : β) (disabled : Bool)
    (vifs : List β) : ∃ wdev, configInitWireless true (some (config, disabled)) vifs m = m.set wdev ∧
      Settles wdev ∧ AsReloaded (some (config, disabled, vifs)) wdev := by
  obtain ⟨wdev, hwdev, hsettles, hconfig, hdisabled, hkeep⟩ :=
    create_settles (fun wdev hwdev => ⟨h.settles wdev hwdev, hok wdev hwdev⟩) config disabled
  obtain ⟨wdev', hwdev', hsettles', hsame⟩ := configInterfaces_leadsTo (m := m) hsettles vifs
  refine ⟨wdev', ?_, hsettles', ?_, ?_⟩
  · have hdev : configInitDevice true (some (config, disabled)) m = m.set wdev := hwdev
    rw [configInitWireless, hdev]
    exact hwdev'
  · intro hremove
    exact absurd (hsame.removal.mp hremove) hkeep
  · intro _
    rw [hsame.config, hsame.disabled, hsame.interfaces, hconfig, hdisabled]

theorem configInterfaces_none {m : Wireless β} (hnone : m.wdev = none) (vifs : List β) (n : ℕ) :
    (vifDelete true)^[n] (vifs.zipIdx.foldl (wirelessInterfaceCreate true) m) = m := by
  have hcreate (l : List (β × ℕ)) : l.foldl (wirelessInterfaceCreate true) m = m := by
    induction l with
    | nil => rfl
    | cons vif l ih =>
      have hfirst : wirelessInterfaceCreate true m vif = m := by
        simp [wirelessInterfaceCreate, hnone]
      rw [List.foldl_cons, hfirst, ih]
  have hdelete : vifDelete true m = m := by simp [vifDelete, hnone]
  rw [hcreate, Function.iterate_fixed hdelete]

theorem Known.configInit_none {m : Wireless β} (h : Known m)
    (hok : ∀ wdev, m.wdev = some wdev → wdev.configState ≠ .reload) (vifs : List β) :
    ((configInitWireless true none vifs m).wdev = none ∧
      (configInitWireless true none vifs m).lost = false) ∨
    ∃ wdev, configInitWireless true none vifs m = m.set wdev ∧ Settles wdev ∧
      wdev.configState = .remove := by
  unfold configInitWireless configInitDevice
  dsimp only
  split_ifs with hsome
  · obtain ⟨wdev, hwdev⟩ := Option.isSome_iff_exists.mp hsome
    have hset : m = m.set wdev := by simp [Wireless.set, ← hwdev]
    have hsettles := h.settles wdev hwdev
    rw [hset]
    rcases remove_settles h.lost hsettles (hok wdev hwdev) with
      ⟨hnone, hlost⟩ | ⟨w, hw, hw', hremove⟩
    · rw [configInterfaces_none hnone]
      exact .inl ⟨hnone, hlost⟩
    · obtain ⟨wdev', hwdev', hsettles', hsame⟩ := configInterfaces_leadsTo (m := m) hw' vifs
      rw [hw]
      exact .inr ⟨wdev', hwdev', hsettles', hsame.removal.mpr hremove⟩
  · have hnone : m.wdev = none := by simpa using hsome
    rw [configInterfaces_none hnone]
    exact .inl ⟨hnone, h.lost⟩

/-- A reload is not in the way of the one before: none leaves the device out while it waits to be
reloaded, and none has it again while it waits to be removed. Scripts can be started, and the
timer does not expire in the teardown of a device that is to be removed. -/
structure ReloadsApart (m : Wireless β) (op : WirelessStep β) : Prop where
  forks : op.forks = true ∧ op.again = true
  leftOut : ∀ wdev vifs, m.wdev = some wdev → op.input = .reload none vifs →
    wdev.configState ≠ .reload
  again : ∀ wdev dev vifs, m.wdev = some wdev → op.input = .reload (some dev) vifs →
    wdev.configState ≠ .remove
  timer : ∀ wdev, m.wdev = some wdev → op.input = .timeout →
    ¬(wdev.state = .teardown ∧ wdev.configState = .remove)

theorem Known.reload {m : Wireless β} (h : Known m) {dev : Option (β × Bool)} {vifs : List β}
    (hok : ReloadsApart m ⟨.reload dev vifs, true, true⟩) :
    Known (wirelessStep m ⟨.reload dev vifs, true, true⟩) := by
  simp only [wirelessStep]
  cases dev with
  | none =>
    obtain ⟨hnone, hlost⟩ | ⟨wdev, hwdev, hsettles, hremove⟩ :=
      h.configInit_none (fun wdev hwdev => hok.leftOut wdev vifs hwdev rfl) vifs
    · refine ⟨?_, ?_, fun _ => rfl, hlost⟩
      · intro w hw
        simp [Wireless.modify, hnone] at hw
      · intro w hw
        simp [Wireless.modify, hnone] at hw
    · have hreloaded : AsReloaded none wdev := ⟨fun _ => rfl, fun hkeep => absurd hremove hkeep⟩
      have hknown : Known ({ m with reloaded := none }.set wdev) :=
        @Known.set β { m with reloaded := none } h.lost wdev hsettles hreloaded
      rw [hwdev]
      exact hknown.modify (fun _ hw => hw.setUp' false) fun w => setUp'_sameConfig true false w
  | some dev =>
    obtain ⟨wdev, hwdev, hsettles, hreloaded⟩ :=
      h.configInit_some (fun wdev hwdev => hok.again wdev dev vifs hwdev rfl) dev.1 dev.2 vifs
    have hknown : Known ({ m with reloaded := some (dev.1, dev.2, vifs) }.set wdev) :=
      @Known.set β { m with reloaded := some (dev.1, dev.2, vifs) } h.lost wdev hsettles hreloaded
    have hdev : configInitWireless true (some dev) vifs m = m.set wdev := hwdev
    rw [hdev]
    exact hknown.modify (fun _ hw => hw.setUp' false) fun w => setUp'_sameConfig true false w

theorem Known.step {m : Wireless β} (h : Known m) {op : WirelessStep β} (hok : ReloadsApart m op) :
    Known (wirelessStep m op) := by
  obtain ⟨input, forks, again⟩ := op
  obtain ⟨rfl, rfl⟩ : forks = true ∧ again = true := hok.forks
  cases input with
  | up =>
    apply h.modify
    · intro wdev hsettles
      apply Settles.setUp'
      exact ⟨⟨hsettles.teardown, hsettles.setup, hsettles.timer, hsettles.down⟩,
        hsettles.pending, hsettles.applied⟩
    · intro wdev
      have hsame := setUp'_sameConfig true false
        { wdev with retry := WIRELESS_SETUP_RETRY, autostart := true }
      exact ⟨hsame.config, hsame.disabled, hsame.interfaces, hsame.removal⟩
  | down =>
    apply h.modify
    · intro wdev hsettles
      apply Settles.setDown'
      exact ⟨⟨hsettles.teardown, hsettles.setup, hsettles.timer, hsettles.down⟩,
        hsettles.pending, hsettles.applied⟩
    · intro wdev
      have hsame := setDown'_sameConfig true
        { wdev with retrySetupFailed := false, autostart := false }
      exact ⟨hsame.config, hsame.disabled, hsame.interfaces, hsame.removal⟩
  | reload dev vifs => exact h.reload hok
  | startPending =>
    exact h.modify (fun _ hw => hw.setUp' false) fun w => setUp'_sameConfig true false w
  | notifyUp =>
    apply h.modify
    · intro wdev hsettles
      dsimp only
      split_ifs with hstate
      · exact hsettles.markUp hstate
      · exact hsettles
    · intro wdev
      dsimp only
      split_ifs
      · exact markUp_sameConfig true wdev
      · exact .refl wdev
  | processAdd proc =>
    refine h.modify (fun wdev hw => ?_) fun wdev => ⟨rfl, rfl, rfl, Iff.rfl⟩
    exact ⟨⟨hw.teardown, hw.setup, hw.timer, hw.down⟩, hw.pending, hw.applied⟩
  | processKillAll alive immediate =>
    exact h.modify (fun _ hw => hw.processKillAll alive immediate)
      fun w => processKillAll_sameConfig alive immediate w
  | setRetry retry =>
    refine h.modify (fun wdev hw => ?_) fun wdev => ⟨rfl, rfl, rfl, Iff.rfl⟩
    exact ⟨⟨hw.teardown, hw.setup, hw.timer, hw.down⟩, hw.pending, hw.applied⟩
  | scriptExit =>
    simp only [wirelessStep]
    cases hwdev : m.wdev with
    | none => exact h
    | some wdev =>
      dsimp only
      split_ifs
      · exact h.scriptTaskCb hwdev
      · exact h
  | timeout =>
    simp only [wirelessStep]
    cases hwdev : m.wdev with
    | none => exact h
    | some wdev =>
      dsimp only
      split_ifs with harmed
      · exact h.setupTimeout hwdev harmed (hok.timer wdev hwdev rfl)
      · exact h
  | pollFd =>
    apply h.modify
    · intro wdev hw
      split_ifs
      · exact ⟨⟨hw.teardown, hw.setup, hw.timer, hw.down⟩, hw.pending, hw.applied⟩
      · exact hw
    · intro wdev
      split_ifs <;> exact ⟨rfl, rfl, rfl, Iff.rfl⟩
  | scriptCheck alive =>
    apply h.modify
    · intro wdev hw
      dsimp only
      split_ifs
      · apply Settles.checkScriptTasks
        exact ⟨⟨hw.teardown, hw.setup, hw.timer, hw.down⟩, hw.pending, hw.applied⟩
      · exact hw
    · intro wdev
      dsimp only
      split_ifs
      · have hsame := checkScriptTasks_sameConfig alive true { wdev with scriptCheck := false }
        exact ⟨hsame.config, hsame.disabled, hsame.interfaces, hsame.removal⟩
      · exact .refl wdev

/-- In a run in which reloads are not in the way of one another, a device that has settled is as
the last reload has asked for. -/
theorem last_reload_done {ops : List (WirelessStep β)}
    (hok : AllOk wirelessStep ReloadsApart {} ops) (n : ℕ)
    (hsettled : Settled (run wirelessStep {} (ops.take n))) :
    LastReloadDone (run wirelessStep {} (ops.take n)) := by
  have hknown : Known (run wirelessStep ({} : Wireless β) (ops.take n)) :=
    run_property_of_allOk (fun m op h hop => h.step hop) known_start hok n
  exact hknown.lastReloadDone hsettled

end Reload

/-- A radio is reloaded with another network while it is up, and set up again. -/
def reloadedRadio : List (WirelessStep String) :=
  [radioReload, { input := .notifyUp }, { input := .scriptExit },
    { input := .reload (some ("radio0", false)) ["lan", "guest"] }, { input := .scriptExit },
    { input := .notifyUp }, { input := .scriptExit }]

theorem reloadedRadio_apart : AllOk wirelessStep ReloadsApart {} reloadedRadio := by
  refine ⟨?_, ?_, ?_, ?_, ?_, ?_, ?_, trivial⟩
  all_goals
    refine ⟨⟨rfl, rfl⟩, ?_, ?_, ?_⟩
    · intro wdev vifs _ hinput
      cases hinput
    · intro wdev dev vifs hwdev hinput
      cases hinput <;> cases hwdev <;> decide
    · intro wdev _ hinput
      cases hinput

theorem reloadedRadio_settled :
    Settled (run wirelessStep ({} : Wireless String) (reloadedRadio.take 7)) := by
  intro wdev hwdev
  cases hwdev
  decide

theorem last_reload_done_radio :
    LastReloadDone (run wirelessStep ({} : Wireless String) (reloadedRadio.take 7)) :=
  last_reload_done reloadedRadio_apart 7 reloadedRadio_settled

/-- A radio is left out of the configuration, and is there again before its teardown is over. -/
def readdedRadio : List (WirelessStep String) :=
  [radioReload, { input := .notifyUp }, { input := .scriptExit }, { input := .reload none [] },
    radioReload, { input := .scriptExit }]

/-- The device is removed although the last reload had it. -/
theorem readdedRadio_removed :
    let m := run wirelessStep ({} : Wireless String) readdedRadio
    Settled m ∧ m.wdev.isNone ∧ m.reloaded = some ("radio0", false, ["lan"]) := by
  refine ⟨?_, by decide⟩
  intro wdev hwdev
  cases hwdev

end Netifd
