import Netifd.WirelessRelations

/-!
# Retries of a wireless setup

`retry` is counted down by failed setups, and when it is used up the device is not set up any more.
A new configuration lifts that, but leaves the counter as it is.
-/

namespace Netifd.SetupRetries
open GuardedRuns

variable {β : Type}

/-- The setup fails while the device is being set up or up, and it is not cancelled. -/
def countsFailure (wdev : WirelessDevice β) : Bool :=
  wdev.state != .teardown && wdev.state != .down && !wdev.cancel

/-- The device notices that its setup has failed. -/
def noticesFailure (wdev : WirelessDevice β) : WirelessInput β → Bool
  | .scriptExit => wdev.scriptTask && wdev.state == .setup && countsFailure wdev
  | .timeout => wdev.timeout && wdev.state == .setup && countsFailure wdev
  | .scriptCheck alive =>
    wdev.scriptCheck && (wdev.scriptProc.any fun proc => !alive proc.pid && proc.required) &&
      countsFailure wdev
  | _ => false

/-- How often the setup fails in a run. -/
def failures [DecidableEq β] (m : Wireless β) : List (WirelessStep β) → ℕ
  | [] => 0
  | op :: ops =>
    (if m.wdev.any (noticesFailure · op.input) then 1 else 0) + failures (wirelessStep m op) ops

/-- The device stays. It is not told to go up or down, the counter is not set, and the
configuration of the device is not changed. -/
structure QuietStep [DecidableEq β] (m : Wireless β) (op : WirelessStep β) : Prop where
  stays : (wirelessStep m op).wdev ≠ none
  input : match op.input with
    | .up | .down | .setRetry _ => False
    | .reload dev _ => ∃ wdev, m.wdev = some wdev ∧ dev = some (wdev.config, wdev.disabled)
    | _ => True

/-- During a run the device is given up just after more than `WIRELESS_SETUP_RETRY` setups have
failed. -/
def FullBudget [DecidableEq β] (m : Wireless β) (ops : List (WirelessStep β)) : Prop :=
  ∀ n wdev, (run wirelessStep m (ops.take n)).wdev = some wdev →
    (wdev.retrySetupFailed = true ↔ WIRELESS_SETUP_RETRY < failures m (ops.take n))

/-- The counter, and whether it was used up, after some failures. -/
structure CountedDown (k : ℕ) (wdev wdev' : WirelessDevice β) : Prop where
  retry : wdev'.retry = wdev.retry - k
  failed : wdev'.retrySetupFailed =
    (wdev.retrySetupFailed || decide (1 ≤ k ∧ wdev.retry - k < 0))

/-- The device that there is afterwards was there before, and has counted some failures. -/
def Counted (k : ℕ) (m m' : Wireless β) : Prop := Follows (fun _ => False) (CountedDown k) m m'

variable {m m' m'' : Wireless β} {wdev wdev' wdev'' : WirelessDevice β} {j k : ℕ}

theorem CountedDown.add (h : CountedDown j wdev wdev') (h' : CountedDown k wdev' wdev'') :
    CountedDown (j + k) wdev wdev'' := by
  constructor
  · rw [h'.retry, h.retry]
    push_cast
    ring
  · rw [h'.failed, h.failed, h.retry, Bool.or_assoc]
    congr 1
    rw [← Bool.decide_or]
    refine decide_eq_decide.mpr ?_
    push_cast
    omega

theorem Counted.add (h : Counted j m m') (h' : Counted k m' m'') : Counted (j + k) m m'' := by
  intro wdev'' hwdev''
  obtain ⟨wdev', hwdev', hcount'⟩ := (h' wdev'' hwdev'').resolve_left id
  obtain ⟨wdev, hwdev, hcount⟩ := (h wdev' hwdev').resolve_left id
  exact .inr ⟨wdev, hwdev, hcount.add hcount'⟩

theorem CountedDown.after (h : CountedDown 0 wdev wdev') (h' : CountedDown k wdev' wdev'') :
    CountedDown k wdev wdev'' := by
  have hboth := h.add h'
  rwa [Nat.zero_add] at hboth

theorem Counted.after (h : Counted 0 m m') (h' : Counted k m' m'') : Counted k m m'' := by
  have hboth := h.add h'
  rwa [Nat.zero_add] at hboth

theorem CountedDown.same (hretry : wdev'.retry = wdev.retry)
    (hfailed : wdev'.retrySetupFailed = wdev.retrySetupFailed) : CountedDown 0 wdev wdev' :=
  ⟨by simp [hretry], by simp [hfailed]⟩

section Functions

variable (forks : Bool)

theorem setUp'_counted (configInit : Bool) (wdev : WirelessDevice β) :
    CountedDown 0 wdev (wirelessDeviceSetUp' forks configInit wdev) := by
  unfold wirelessDeviceSetUp'
  split_ifs <;> exact .same rfl rfl

theorem setDown'_counted (wdev : WirelessDevice β) :
    CountedDown 0 wdev (wirelessDeviceSetDown' forks wdev) := by
  unfold wirelessDeviceSetDown' wirelessDeviceSetupCancel
  split_ifs <;> exact .same rfl rfl

theorem markUp_counted (wdev : WirelessDevice β) :
    CountedDown 0 wdev (wirelessDeviceMarkUp forks wdev) := by
  unfold wirelessDeviceMarkUp
  split_ifs
  · have hdown := setDown'_counted forks { wdev with cancel := false }
    exact ⟨hdown.retry, hdown.failed⟩
  · exact .same rfl rfl

theorem retrySetup_counted (wdev : WirelessDevice β) :
    CountedDown (if countsFailure wdev then 1 else 0) wdev
      (wirelessDeviceRetrySetup forks wdev) := by
  have hguard : countsFailure wdev = true ↔
      ¬(wdev.state = .teardown ∨ wdev.state = .down ∨ wdev.cancel = true) := by
    simp [countsFailure, and_assoc]
  unfold wirelessDeviceRetrySetup
  split_ifs with hcount hstop hstop
  · exact absurd hstop (hguard.mp hcount)
  · have hcounted : CountedDown 1 wdev { wdev with
        retry := wdev.retry - 1
        retrySetupFailed := wdev.retrySetupFailed || decide (wdev.retry - 1 < 0) } :=
      ⟨rfl, by simp⟩
    exact hcounted.add (setDown'_counted forks _)
  · exact .same rfl rfl
  · exact absurd (hguard.mpr hstop) hcount

theorem counted_carried : @CarriedAlong β (fun _ => False) (CountedDown 0) where
  refl _ := .same rfl rfl
  trans h h' := h.add h'
  keepsNew hnew _ := hnew.elim
  setUp' := setUp'_counted
  setDown' := setDown'_counted
  markedDown _ := .inr (.same rfl rfl)
  configState _ _ := .same rfl rfl
  interfaces _ _ := .same rfl rfl

theorem scriptTaskCb_counted (hwdev : m.wdev = some wdev) :
    Counted (if wdev.state == .setup && countsFailure wdev then 1 else 0) m
      (wirelessDeviceScriptTaskCb forks m) := by
  rw [wirelessDeviceScriptTaskCb, onDevice_some hwdev]
  cases hstate : wdev.state with
  | setup => exact CarriedAlong.set hwdev (retrySetup_counted forks wdev)
  | teardown => exact counted_carried.markDown forks hwdev
  | up => exact counted_carried.same m
  | down => exact counted_carried.same m

theorem setupTimeout_counted (again : Bool) (hwdev : m.wdev = some wdev) :
    Counted (if wdev.state == .setup && countsFailure wdev then 1 else 0) m
      (wirelessDeviceSetupTimeout forks again m) := by
  rw [wirelessDeviceSetupTimeout, onDevice_some hwdev]
  have hkilled : Counted 0 m (m.set { wdev with scriptTask := false }) :=
    CarriedAlong.set hwdev (.same rfl rfl)
  have hended := hkilled.after (scriptTaskCb_counted forks rfl)
  exact hended.add (counted_carried.markDownNext again (counted_carried.same _))

theorem checkScriptTasks_counted (alive : ℕ → Bool) (wdev : WirelessDevice β) :
    CountedDown
      (if (wdev.scriptProc.any fun proc => !alive proc.pid && proc.required) &&
        countsFailure wdev then 1 else 0) wdev
      (wirelessDeviceCheckScriptTasks alive forks wdev) := by
  unfold wirelessDeviceCheckScriptTasks
  dsimp only
  cases wdev.scriptProc.any fun proc => !alive proc.pid && proc.required with
  | true =>
    have hfreed : CountedDown 0 wdev
        (wirelessProcessFree wdev (wdev.scriptProc.filter fun proc => alive proc.pid)) :=
      .same rfl rfl
    have hretry := hfreed.after (retrySetup_counted forks _)
    exact hretry
  | false => exact .same rfl rfl

end Functions

section Steps

variable [DecidableEq β] {op : WirelessStep β} {ops : List (WirelessStep β)}

/-- A step that leaves the device and its configuration alone counts at most one failure. -/
theorem step_counted (hwdev : m.wdev = some wdev) (hquiet : QuietStep m op) :
    Counted (if noticesFailure wdev op.input then 1 else 0) m (wirelessStep m op) := by
  obtain ⟨input, forks, again⟩ := op
  have hinput := hquiet.input
  cases input with
  | up => exact hinput.elim
  | down => exact hinput.elim
  | setRetry retry => exact hinput.elim
  | reload dev vifs =>
    obtain ⟨wdev₀, hwdev₀, rfl⟩ := hinput
    have hdev : configInitDevice forks (some (wdev₀.config, wdev₀.disabled)) m = m := by
      simp [configInitDevice, wirelessDeviceCreate, hwdev₀, wdevChangeConfig, Wireless.onDevice]
    have hsame : Counted 0 m (configInitDevice forks (some (wdev₀.config, wdev₀.disabled)) m) := by
      rw [hdev]
      exact counted_carried.same m
    have hreload := counted_carried.configInit forks hsame vifs
    exact counted_carried.comp hreload (CarriedAlong.modify (setUp'_counted forks false))
  | startPending => exact CarriedAlong.modify (setUp'_counted forks false)
  | notifyUp =>
    change Counted 0 m _
    refine CarriedAlong.modify fun wdev => ?_
    dsimp only
    split_ifs
    · exact markUp_counted forks wdev
    · exact .same rfl rfl
  | processAdd proc => exact CarriedAlong.modify fun _ => .same rfl rfl
  | processKillAll alive immediate =>
    change Counted 0 m _
    refine CarriedAlong.modify fun wdev => ?_
    unfold wirelessDeviceProcessKillAll
    dsimp only
    split_ifs <;> exact .same rfl rfl
  | pollFd =>
    change Counted 0 m _
    refine CarriedAlong.modify fun wdev => ?_
    split_ifs <;> exact .same rfl rfl
  | scriptExit =>
    dsimp only
    by_cases htask : wdev.scriptTask = true
    · have hstep : wirelessStep m { input := .scriptExit, forks, again } =
          wirelessDeviceScriptTaskCb forks (m.set { wdev with scriptTask := false }) := by
        simp [wirelessStep, hwdev, htask]
      have hnotices : noticesFailure wdev .scriptExit =
          (wdev.state == .setup && countsFailure wdev) := by
        simp [noticesFailure, htask]
      have hended : Counted 0 m (m.set { wdev with scriptTask := false }) :=
        CarriedAlong.set hwdev (.same rfl rfl)
      have hcounted := hended.after (scriptTaskCb_counted forks rfl)
      rw [hstep, hnotices]
      exact hcounted
    · have hstep : wirelessStep m { input := .scriptExit, forks, again } = m := by
        simp [wirelessStep, hwdev, htask]
      have hnotices : noticesFailure wdev .scriptExit = false := by
        simp [noticesFailure, htask]
      rw [hstep, hnotices]
      exact counted_carried.same m
  | timeout =>
    dsimp only
    by_cases harmed : wdev.timeout = true
    · have hstep : wirelessStep m { input := .timeout, forks, again } =
          wirelessDeviceSetupTimeout forks again (m.set { wdev with timeout := false }) := by
        simp [wirelessStep, hwdev, harmed]
      have hnotices : noticesFailure wdev .timeout =
          (wdev.state == .setup && countsFailure wdev) := by
        simp [noticesFailure, harmed]
      have hexpired : Counted 0 m (m.set { wdev with timeout := false }) :=
        CarriedAlong.set hwdev (.same rfl rfl)
      have hcounted := hexpired.after (setupTimeout_counted forks again rfl)
      rw [hstep, hnotices]
      exact hcounted
    · have hstep : wirelessStep m { input := .timeout, forks, again } = m := by
        simp [wirelessStep, hwdev, harmed]
      have hnotices : noticesFailure wdev .timeout = false := by
        simp [noticesFailure, harmed]
      rw [hstep, hnotices]
      exact counted_carried.same m
  | scriptCheck alive =>
    intro wdev' hwdev'
    obtain ⟨wdev₀, hwdev₀, rfl⟩ := Option.map_eq_some_iff.mp hwdev'
    obtain rfl := Option.some.inj (hwdev.symm.trans hwdev₀)
    refine .inr ⟨wdev, hwdev, ?_⟩
    dsimp only
    by_cases harmed : wdev.scriptCheck = true
    · have hnotices : noticesFailure wdev (.scriptCheck alive) =
          ((wdev.scriptProc.any fun proc => !alive proc.pid && proc.required) &&
            countsFailure wdev) := by
        simp [noticesFailure, harmed]
      have hdisarmed : CountedDown 0 wdev { wdev with scriptCheck := false } := .same rfl rfl
      have hcounted := hdisarmed.after (checkScriptTasks_counted forks alive _)
      rw [hnotices, if_pos harmed]
      exact hcounted
    · have hnotices : noticesFailure wdev (.scriptCheck alive) = false := by
        simp [noticesFailure, harmed]
      rw [hnotices, if_neg harmed]
      exact .same rfl rfl

theorem QuietStep.exists_wdev (h : QuietStep m op) : ∃ wdev, m.wdev = some wdev := by
  rw [← Option.ne_none_iff_exists']
  intro hnone
  refine h.stays ?_
  have hinput := h.input
  obtain ⟨input, forks, again⟩ := op
  cases input with
  | reload dev vifs =>
    obtain ⟨wdev, hwdev, -⟩ := hinput
    rw [hnone] at hwdev
    cases hwdev
  | _ => simp [wirelessStep, Wireless.modify, hnone]

theorem failures_cons (hwdev : m.wdev = some wdev) :
    failures m (op :: ops) =
      (if noticesFailure wdev op.input then 1 else 0) + failures (wirelessStep m op) ops := by
  rw [failures, hwdev, Option.any_some]

theorem run_counted (hquiet : AllOk wirelessStep QuietStep m ops) :
    Counted (failures m ops) m (run wirelessStep m ops) := by
  induction ops generalizing m with
  | nil => exact counted_carried.same m
  | cons op ops ih =>
    obtain ⟨wdev, hwdev⟩ := hquiet.1.exists_wdev
    rw [failures_cons hwdev]
    exact (step_counted hwdev hquiet.1).add (ih hquiet.2)

theorem exists_failures (hquiet : AllOk wirelessStep QuietStep m ops) (hj : j ≠ 0)
    (hle : j ≤ failures m ops) :
    ∃ n wdev, (run wirelessStep m (ops.take n)).wdev = some wdev ∧
      failures m (ops.take n) = j := by
  induction ops generalizing m j with
  | nil => exact absurd (Nat.le_zero.mp hle) hj
  | cons op ops ih =>
    obtain ⟨wdev, hwdev⟩ := hquiet.1.exists_wdev
    rw [failures_cons hwdev] at hle
    by_cases hone : noticesFailure wdev op.input = true ∧ j = 1
    · obtain ⟨wdev', hwdev'⟩ := Option.ne_none_iff_exists'.mp hquiet.1.stays
      refine ⟨1, wdev', hwdev', ?_⟩
      rw [List.take_succ_cons, List.take_zero, failures_cons hwdev, if_pos hone.1, hone.2]
      rfl
    · obtain ⟨i, hi, hsum⟩ : ∃ i, i ≠ 0 ∧
          j = (if noticesFailure wdev op.input then 1 else 0) + i := by
        split_ifs with hnotices
        · have hmore : j ≠ 1 := fun heq => hone ⟨hnotices, heq⟩
          exact ⟨j - 1, by omega, by omega⟩
        · exact ⟨j, hj, (Nat.zero_add j).symm⟩
      obtain ⟨n, wdev', hwdev', hcount⟩ := ih hquiet.2 hi (by omega)
      refine ⟨n + 1, wdev', hwdev', ?_⟩
      rw [List.take_succ_cons, failures_cons hwdev, hcount, hsum]

/-- A new configuration of a device. -/
def changeStep (forks : Bool) (config : β) (disabled : Bool) (vifs : List β) : WirelessStep β :=
  { input := .reload (some (config, disabled)) vifs, forks }

theorem change_counted (hwdev : m.wdev = some wdev) (forks : Bool) {config : β} {disabled : Bool}
    (hchange : ¬(wdev.config = config ∧ wdev.disabled = disabled)) (vifs : List β) :
    Counted 0 (m.set { wdev with config, disabled, retrySetupFailed := false })
      (wirelessStep m (changeStep forks config disabled vifs)) := by
  let changed := m.set { wdev with config, disabled, retrySetupFailed := false }
  have hdev : configInitDevice forks (some (config, disabled)) m =
      wdevSetConfigState forks .reload changed := by
    simp only [configInitDevice, wirelessDeviceCreate, hwdev, wdevChangeConfig]
    rw [onDevice_some hwdev, if_neg hchange]
  have hdev' : Counted 0 changed (wdevSetConfigState forks .reload changed) :=
    counted_carried.setConfigState forks .reload rfl
  have hvifs : Counted 0 changed (configInitWireless forks (some (config, disabled)) vifs m) := by
    rw [configInitWireless, hdev]
    exact counted_carried.comp hdev'
      (counted_carried.comp (counted_carried.foldl forks _ _) (counted_carried.iterate forks _ _))
  exact counted_carried.comp hvifs (CarriedAlong.modify (setUp'_counted forks false))

end Steps

section Runs

variable [DecidableEq β] {ops : List (WirelessStep β)}

theorem givenUp_iff (hwdev : m.wdev = some wdev) (forks : Bool) {config : β} {disabled : Bool}
    (hchange : ¬(wdev.config = config ∧ wdev.disabled = disabled)) (vifs : List β)
    (hquiet : AllOk wirelessStep QuietStep
      (wirelessStep m (changeStep forks config disabled vifs)) ops)
    (hwdev' : (run wirelessStep (wirelessStep m (changeStep forks config disabled vifs)) ops).wdev =
      some wdev') :
    wdev'.retrySetupFailed = true ↔
      failures (wirelessStep m (changeStep forks config disabled vifs)) ops ≠ 0 ∧
        wdev.retry < failures (wirelessStep m (changeStep forks config disabled vifs)) ops := by
  have hcounted := (change_counted hwdev forks hchange vifs).after (run_counted hquiet)
  obtain ⟨changed, hchanged, hcount⟩ := (hcounted wdev' hwdev').resolve_left id
  obtain rfl := Option.some.inj hchanged
  rw [hcount.failed]
  simp only [Bool.false_or, decide_eq_true_eq]
  omega

theorem failures_take (ops : List (WirelessStep β)) (n : ℕ) :
    failures m (ops.take n) ≤ failures m ops := by
  induction ops generalizing m n with
  | nil => simp
  | cons op ops ih =>
    cases n with
    | zero => exact Nat.zero_le _
    | succ n =>
      rw [List.take_succ_cons, failures, failures]
      exact Nat.add_le_add_left (ih n) _

/-- A new configuration of a device gets the full budget if and only if the counter had its
initial value before, or so few setups fail that it does not matter. -/
theorem retry_budget_iff (hwdev : m.wdev = some wdev) (forks : Bool) {config : β} {disabled : Bool}
    (hchange : ¬(wdev.config = config ∧ wdev.disabled = disabled)) (vifs : List β)
    (hquiet : AllOk wirelessStep QuietStep
      (wirelessStep m (changeStep forks config disabled vifs)) ops) :
    FullBudget (wirelessStep m (changeStep forks config disabled vifs)) ops ↔
      wdev.retry = WIRELESS_SETUP_RETRY ∨
        failures (wirelessStep m (changeStep forks config disabled vifs)) ops = 0 ∨
        failures (wirelessStep m (changeStep forks config disabled vifs)) ops ≤
          min wdev.retry WIRELESS_SETUP_RETRY := by
  have hthree : WIRELESS_SETUP_RETRY = 3 := rfl
  set changed := wirelessStep m (changeStep forks config disabled vifs)
  have hgiven (n : ℕ) (wdev' : WirelessDevice β)
      (hwdev' : (run wirelessStep changed (ops.take n)).wdev = some wdev') :
      wdev'.retrySetupFailed = true ↔
        failures changed (ops.take n) ≠ 0 ∧ wdev.retry < failures changed (ops.take n) :=
    givenUp_iff hwdev forks hchange vifs (hquiet.take n) hwdev'
  constructor
  · intro hbudget
    -- the counter and the budget agree about every number of failures there is
    have hagree (j : ℕ) (hj : j ≠ 0) (hle : j ≤ failures changed ops) :
        wdev.retry < j ↔ WIRELESS_SETUP_RETRY < j := by
      obtain ⟨n, wdev', hwdev', hcount⟩ := exists_failures hquiet hj hle
      have hiff := (hgiven n wdev' hwdev').symm.trans (hbudget n wdev' hwdev')
      rw [hcount] at hiff
      simpa [hj] using hiff
    by_cases hmany : 3 < failures changed ops
    · have hthird := hagree 3 (by omega) (by omega)
      have hfourth := hagree 4 (by omega) (by omega)
      exact .inl (by omega)
    · by_cases hnone : failures changed ops = 0
      · exact .inr (.inl hnone)
      · have hlast := hagree (failures changed ops) hnone le_rfl
        exact .inr (.inr (le_min (by omega) (by omega)))
  · intro hcond n wdev' hwdev'
    have hle : failures changed (ops.take n) ≤ failures changed ops := failures_take ops n
    rw [hgiven n wdev' hwdev']
    rcases hcond with hfull | hnone | hfew
    · omega
    · omega
    · obtain ⟨hretry, hthird⟩ := le_min_iff.mp hfew
      omega

end Runs

/-- The setup of a new radio fails four times, with a teardown after each of the first three. -/
def fourFailures : List (WirelessStep String) := List.replicate 7 { input := .scriptExit }

/-- A radio that is not set up yet. -/
def newRadio : Wireless String := { wdev := some { config := "radio0", disabled := true } }

theorem fourFailures_quiet : AllOk wirelessStep QuietStep
    (wirelessStep newRadio (changeStep true "radio1" false [])) fourFailures := by
  refine ⟨⟨?_, trivial⟩, ⟨?_, trivial⟩, ⟨?_, trivial⟩, ⟨?_, trivial⟩, ⟨?_, trivial⟩, ⟨?_, trivial⟩,
    ⟨?_, trivial⟩, trivial⟩ <;> decide

theorem retry_budget_iff_given_up :
    let changed := wirelessStep newRadio (changeStep true "radio1" false [])
    failures changed (fourFailures.take 6) = 3 ∧ failures changed fourFailures = 4 ∧
      FullBudget changed fourFailures :=
  ⟨by decide, by decide,
    (retry_budget_iff rfl true (by decide) [] fourFailures_quiet).mpr (.inl rfl)⟩

/-- The scripts of a radio fail until it is given up. -/
def failedRadio : List (WirelessStep String) :=
  radioReload :: List.replicate 8 { input := .scriptExit }

/-- With its next configuration the radio is given up after one failure. -/
theorem failed_radio_budget :
    ¬∀ (ops rest : List (WirelessStep String)) (wdev : WirelessDevice String),
      (run wirelessStep {} ops).wdev = some wdev →
      ¬(wdev.config = "radio1" ∧ wdev.disabled = false) →
      AllOk wirelessStep QuietStep
        (wirelessStep (run wirelessStep {} ops) (changeStep true "radio1" false [])) rest →
      FullBudget
        (wirelessStep (run wirelessStep {} ops) (changeStep true "radio1" false [])) rest := by
  intro h
  have hbudget := h failedRadio [{ input := .scriptExit }] _ rfl (by decide)
    ⟨⟨by decide, trivial⟩, trivial⟩
  have hfailed := (hbudget 1 _ rfl).mp (by decide)
  exact absurd hfailed (by decide)

end Netifd.SetupRetries
