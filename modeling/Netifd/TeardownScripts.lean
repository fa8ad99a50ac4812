import Netifd.WirelessRadio

/-!
# What teardown scripts are run with

A teardown script is run with the configuration of the setup that it undoes: a reload notes it
before anything changes, and the note is used up by the teardown or thrown away by the next
setup.
-/

namespace Netifd.TeardownScripts
open GuardedRuns WirelessRadio

variable {β δ : Type}

/-- The configurations of the device and of its interfaces. -/
def ScriptConfig.setup (c : ScriptConfig β δ) : β × List β := (c.config, c.interfaces.map (·.1))

/-- The device is set up or is being set up. -/
def Running (r : RadioDevice β δ) : Prop := r.base.state = .setup ∨ r.base.state = .up

/-- What the teardown script would be run with. -/
def nextTeardown (r : RadioDevice β δ) : β × List β :=
  r.prevConfig.elim (r.base.config, r.base.interfaces) ScriptConfig.setup

/-- A teardown script was run with what the last setup script was run with. -/
def Undone (t : ScriptConfig β δ × Option (β × List β)) : Prop := t.2 = some (ScriptConfig.setup t.1)

/-- The next teardown will undo the last setup, as those before have. -/
structure ConfigSound (r : RadioDevice β δ) : Prop where
  synced : Synced r
  running : Running r → r.base.lastSetup = some (nextTeardown r)
  undone : ∀ t ∈ r.teardowns, Undone t

/-- While a reload goes on the configuration of the setup has been noted. -/
structure Noted (r : RadioDevice β δ) : Prop extends ConfigSound r where
  prev : Running r → r.prevConfig.isSome

variable {r : RadioDevice β δ} {env : RadioEnv}

theorem setup_prepareConfig (env : RadioEnv) (h : Synced r) :
    ScriptConfig.setup (prepareConfig env r) = (r.base.config, r.base.interfaces) := by
  simp [ScriptConfig.setup, prepareConfig, h.symm, Function.comp_def]

theorem setup_teardown (env : RadioEnv) (h : Synced r) :
    ScriptConfig.setup (r.prevConfig.getD (prepareConfig env r)) = nextTeardown r := by
  rw [nextTeardown]
  cases r.prevConfig with
  | none => exact setup_prepareConfig env h
  | some c => rfl

theorem running_of_guard (hup : ¬(r.base.state = .teardown ∨ r.base.state = .down)) :
    Running r := by
  rw [Running]
  cases hstate : r.base.state <;> simp [hstate] at hup ⊢

theorem configSound_idle (hsynced : Synced r) (hidle : ¬Running r)
    (hteardowns : ∀ t ∈ r.teardowns, Undone t) : ConfigSound r where
  synced := hsynced
  running hrunning := absurd hrunning hidle
  undone := hteardowns

theorem noted_idle (hsynced : Synced r) (hidle : ¬Running r)
    (hteardowns : ∀ t ∈ r.teardowns, Undone t) : Noted r :=
  ⟨configSound_idle hsynced hidle hteardowns, fun hrunning => absurd hrunning hidle⟩

theorem ConfigSound.same (h : ConfigSound r) {r' : RadioDevice β δ} (hsynced : Synced r')
    (hrunning : Running r' → Running r) (hsetup : r'.base.lastSetup = r.base.lastSetup)
    (hnext : nextTeardown r' = nextTeardown r) (hteardowns : r'.teardowns = r.teardowns) :
    ConfigSound r' where
  synced := hsynced
  running hrun := by rw [hsetup, hnext, h.running (hrunning hrun)]
  undone := hteardowns ▸ h.undone

theorem ConfigSound.base (h : ConfigSound r) {base : WirelessDevice β}
    (hsame : SameSetup r.base base) : ConfigSound { r with base } := by
  apply h.same
  case hsynced => exact h.synced.same hsame
  case hrunning => rw [Running, Running, hsame.state]; exact id
  case hsetup => exact hsame.lastSetup
  case hnext => rw [nextTeardown, nextTeardown, hsame.config, hsame.interfaces]
  case hteardowns => rfl

theorem ConfigSound.teardown (h : ConfigSound r) (hrunning : Running r) :
    ConfigSound (radioRunHandler env false { r with base.state := .teardown }) := by
  apply configSound_idle
  case hsynced => exact h.synced
  case hidle => simp [Running, radioRunHandler, wirelessDeviceRunHandler]
  case hteardowns =>
    intro t ht
    rcases List.mem_append.mp ht with ht | ht
    · exact h.undone t ht
    · obtain rfl := List.mem_singleton.mp ht
      rw [Undone]
      dsimp only
      rw [h.running hrunning]
      exact congrArg some (setup_teardown env h.synced).symm

theorem sameSetup_cancel (wdev : WirelessDevice β) :
    SameSetup wdev (wirelessDeviceSetupCancel wdev) := by
  rw [wirelessDeviceSetupCancel]
  split_ifs <;> exact ⟨rfl, rfl, rfl, rfl, .inl rfl⟩

theorem ConfigSound.setDown' (h : ConfigSound r) : ConfigSound (radioSetDown' env r) := by
  rw [radioSetDown']
  split_ifs with hup
  · exact h
  · exact h.base (sameSetup_cancel r.base)
  · exact h.teardown (running_of_guard hup)

theorem ConfigSound.setUp' (h : ConfigSound r) : ConfigSound (radioSetUp' env false r) := by
  rw [radioSetUp']
  split_ifs
  · exact h
  · exact ⟨h.synced, fun _ => rfl, h.undone⟩

theorem ConfigSound.markedDown (h : ConfigSound r) : ConfigSound (radioMarkedDown env r) := by
  apply configSound_idle
  case hsynced =>
    simp only [Synced, radioMarkedDown, List.map_map]
    exact h.synced
  case hidle => simp [Running, radioMarkedDown, Netifd.markedDown, wirelessDeviceFreeState]
  case hteardowns => exact h.undone

theorem ConfigSound.markUp (h : ConfigSound r) (hstate : r.base.state = .setup) :
    ConfigSound (radioMarkUp env r) := by
  rw [radioMarkUp]
  split_ifs
  · have hcleared : ConfigSound { r with base.cancel := false } :=
      h.base ⟨rfl, rfl, rfl, rfl, .inl rfl⟩
    exact hcleared.setDown'
  · exact ⟨h.synced, fun _ => h.running (.inl hstate), h.undone⟩

theorem ConfigSound.setData (h : ConfigSound r) (blobs : RadioBlobs β δ) (vif : Option ℕ)
    (data : δ) : ConfigSound (radioSetData blobs vif data r) := by
  have hsynced := (synced_everywhere blobs fun _ => true).setData vif data r h.synced
  cases vif with
  | none =>
    rw [radioSetData] at hsynced ⊢
    split_ifs at hsynced ⊢
    · exact h
    · exact ⟨hsynced, h.running, h.undone⟩
  | some i =>
    rw [radioSetData] at hsynced ⊢
    cases hvif : r.vifs[i]? with
    | none => exact h
    | some vif =>
      simp only [hvif] at hsynced ⊢
      split_ifs at hsynced ⊢
      · exact h
      · exact ⟨hsynced, h.running, h.undone⟩

theorem ConfigSound.noted_setDown' (h : ConfigSound r)
    (hprev : Running r → r.base.scriptTask = true → r.prevConfig.isSome) :
    Noted (radioSetDown' env r) := by
  refine ⟨h.setDown', ?_⟩
  rw [radioSetDown']
  split_ifs with hup hscript
  · intro hrunning
    rcases hup with hup | hup <;> simp [Running, hup] at hrunning
  · exact fun _ => hprev (running_of_guard hup) hscript
  · intro hrunning
    simp [Running, radioRunHandler, wirelessDeviceRunHandler] at hrunning

theorem Noted.change (h : Noted r) {r' : RadioDevice β δ} (hsynced : Synced r')
    (hstate : r'.base.state = r.base.state) (hsetup : r'.base.lastSetup = r.base.lastSetup)
    (hprev : r'.prevConfig = r.prevConfig) (hteardowns : r'.teardowns = r.teardowns) :
    Noted r' := by
  have hrunning : Running r' → Running r := by
    rw [Running, Running, hstate]
    exact id
  refine ⟨⟨hsynced, ?_, hteardowns ▸ h.undone⟩, fun hrun => hprev ▸ h.prev (hrunning hrun)⟩
  intro hrun
  obtain ⟨c, hc⟩ := Option.isSome_iff_exists.mp (h.prev (hrunning hrun))
  rw [hsetup, h.running (hrunning hrun), nextTeardown, nextTeardown, hprev, hc]
  rfl

theorem ConfigSound.prepare (h : ConfigSound r) : Noted (wdevPreparePrevConfig env r) := by
  refine ⟨⟨h.synced, fun hrun => ?_, h.undone⟩, fun _ => rfl⟩
  have hlast : r.base.lastSetup = some (nextTeardown r) := h.running hrun
  rw [← setup_teardown env h.synced] at hlast
  exact hlast

theorem noted_reloadable (blobs : RadioBlobs β δ) (present : String → Bool) :
    Reloadable blobs present (Noted (β := β) (δ := δ)) fun r => ∀ t ∈ r.teardowns, Undone t where
  base _ _ hsame hr := hr.change (hr.synced.same hsame) hsame.state hsame.lastSetup rfl rfl
  setDown' _ _ _ hr := hr.noted_setDown' fun hrunning _ => hr.prev hrunning
  freed _ _ _ hr _ := hr.undone
  mark _ _ hr := hr.change hr.synced rfl rfl rfl rfl
  change env i old config r henv hold hr :=
    hr.change ((synced_everywhere blobs present).change env i old config r henv hold hr.synced)
      rfl rfl rfl rfl
  append config r hr :=
    hr.change ((synced_everywhere blobs present).append config r hr.synced) rfl rfl rfl rfl
  drop env r henv hr :=
    hr.change ((synced_everywhere blobs present).drop env r henv hr.synced) rfl rfl rfl rfl

theorem config_stepwise (blobs : RadioBlobs β δ) (present : String → Bool) :
    Stepwise blobs present (ConfigSound (β := β) (δ := δ)) fun r =>
      ∀ t ∈ r.teardowns, Undone t where
  base _ _ hsame hr := hr.base hsame
  setDown' _ _ _ hr := hr.setDown'
  freed _ _ _ hr _ := hr.undone
  setUp' _ _ _ hr := hr.setUp'
  markedDown _ _ _ hr := hr.markedDown
  markUp _ _ _ hstate hr := hr.markUp hstate
  setData vif data _ hr := hr.setData blobs vif data

/-- A reload drops the device while its setup is under way, or waits to be cancelled, and no
reload before has noted the configuration. -/
def DroppedInSetup (x : Radio β δ) (op : RadioStep β δ) : Prop :=
  ∃ vifs, op.input = .device (.reload none vifs) ∧ ∃ r, x.dev = some r ∧ Running r ∧
    r.prevConfig = none ∧ (r.base.scriptTask = true ∨ r.base.configState ≠ .normal)

/-- The first half of a reload notes the configuration. -/
theorem initDevice_noted [DecidableEq β] (blobs : RadioBlobs β δ) {x : Radio β δ}
    {op : RadioStep β δ} {dev : Option (β × Bool)} {vifs : List β}
    (hop : op.input = .device (.reload dev vifs)) (hkept : ¬DroppedInSetup x op)
    (hx : Holds env.present ConfigSound (fun r => ∀ t ∈ r.teardowns, Undone t) x) :
    Holds env.present Noted (fun r => ∀ t ∈ r.teardowns, Undone t)
      (radioInitDevice env dev x) := by
  have hreload := noted_reloadable blobs env.present
  have hset : ∀ r, Noted r →
      Holds env.present Noted (fun r => ∀ t ∈ r.teardowns, Undone t) (x.set r) := fun r hr =>
    ⟨hx.present, by rintro r' ⟨⟩; exact hr, hx.freed⟩
  cases dev with
  | some s =>
    simp only [radioInitDevice, radioCreate]
    split
    · exact hset _ (noted_idle rfl (by simp [Running]) (by simp))
    · rename_i r hdev
      have hprepared : Noted (wdevPreparePrevConfig env r) := (hx.dev r hdev).prepare
      rw [radioChangeConfig, Radio.onDevice, hdev]
      dsimp only
      split_ifs
      · exact hset _ hprepared
      · have hconfigured : Noted { wdevPreparePrevConfig env r with
            base.config := s.1, base.disabled := s.2, base.retrySetupFailed := false } :=
          hprepared.change hprepared.synced rfl rfl rfl rfl
        exact hreload.setConfigState rfl (hset _ hconfigured) .reload
  | none =>
    rw [radioInitDevice]
    split_ifs with hsome
    · obtain ⟨r, hdev⟩ := Option.isSome_iff_exists.mp hsome
      have hr := hx.dev r hdev
      rw [radioSetConfigState, Radio.onDevice, hdev]
      dsimp only
      split_ifs with hstate hdown
      · -- nothing is done, since a reload before waits
        have hnoted : Noted r := by
          refine ⟨hr, fun hrun => ?_⟩
          rw [Option.isSome_iff_ne_none]
          exact fun hprev => hkept ⟨vifs, hop, r, hdev, hrun, hprev, .inr hstate⟩
        have hsame : x = x.set r := by rw [Radio.set, ← hdev]
        exact hsame ▸ hset r hnoted
      · have hremoved : Noted { r with base.configState := .remove } :=
          noted_idle hr.synced (by simp [Running, hdown]) hr.undone
        apply hreload.handleConfigChange rfl (hset _ hremoved)
        · rintro r' ⟨⟩
          exact hdown
        · intro r' hr'
          rwa [radioSetUp', if_pos (by simp)]
      · have hremoved : ConfigSound { r with base.configState := .remove } :=
          ⟨hr.synced, hr.running, hr.undone⟩
        apply hset
        apply hremoved.noted_setDown'
        intro hrunning hscript
        rw [Option.isSome_iff_ne_none]
        exact fun hprev => hkept ⟨vifs, hop, r, hdev, hrunning, hprev, .inl hscript⟩
    · have hnone : x.dev = none := by simpa using hsome
      exact ⟨hx.present, fun r hdev => absurd (hnone.symm.trans hdev) (by simp), hx.freed⟩

variable [DecidableEq β] (blobs : RadioBlobs β δ)

theorem config_step {x : Radio β δ}
    (hx : Holds x.present ConfigSound (fun r => ∀ t ∈ r.teardowns, Undone t) x)
    {op : RadioStep β δ} (hop : ¬DroppedInSetup x op) :
    Holds (radioStep blobs x op).present ConfigSound (fun r => ∀ t ∈ r.teardowns, Undone t)
      (radioStep blobs x op) := by
  obtain ⟨input, forks, again, bridge⟩ := op
  cases input with
  | device input =>
    have hstep : Holds x.present ConfigSound (fun r => ∀ t ∈ r.teardowns, Undone t)
        (radioStep blobs x { input := .device input, forks, again, bridge }) := by
      apply (config_stepwise blobs x.present).deviceStep rfl hx
      rintro dev vifs rfl
      have hx' : Holds ({ forks, present := x.present, bridge } : RadioEnv).present ConfigSound
          (fun r => ∀ t ∈ r.teardowns, Undone t) x := hx
      have hnoted := initDevice_noted blobs rfl hop hx'
      have hreloaded := (noted_reloadable blobs x.present).init rfl hnoted vifs
      exact ⟨hreloaded.present, fun r hr => (hreloaded.dev r hr).toConfigSound, hreloaded.freed⟩
    rw [hstep.present]
    exact hstep
  | setData vif data => exact hx.modify ((config_stepwise blobs x.present).setData vif data)
  | interfaces present =>
    refine ⟨rfl, ?_, ?_⟩
    · intro r' hr'
      obtain ⟨r, hdev, rfl⟩ := Option.map_eq_some_iff.mp hr'
      have hr := hx.dev r hdev
      exact ⟨hr.synced, hr.running, hr.undone⟩
    · intro r' hr'
      obtain ⟨r, hr, rfl⟩ := List.mem_map.mp hr'
      exact hx.freed r hr

/-- As long as no reload drops a device whose setup is under way, every teardown script is run
with the configuration of the device and of its interfaces that the last setup script was run
with, whatever was reloaded in between. -/
theorem teardowns_undo_setups (present : String → Bool) {ops : List (RadioStep β δ)}
    (hops : AllOk (radioStep blobs) (fun x op => ¬DroppedInSetup x op) { present } ops) (n : ℕ) :
    let x := run (radioStep blobs) { present } (ops.take n)
    (∀ r, x.dev = some r → (∀ t ∈ r.teardowns, Undone t) ∧
      (Running r → r.base.lastSetup = some (nextTeardown r))) ∧
    ∀ r ∈ x.freed, ∀ t ∈ r.teardowns, Undone t := by
  have hrun := run_property_of_allOk (P := fun x : Radio β δ =>
    Holds x.present ConfigSound (fun r => ∀ t ∈ r.teardowns, Undone t) x)
    (fun x op hx hop => config_step blobs hx hop)
    ⟨rfl, fun _ hnone => absurd hnone (by simp), fun _ hnil => absurd hnil List.not_mem_nil⟩ hops n
  exact ⟨fun r hr => ⟨(hrun.dev r hr).undone, (hrun.dev r hr).running⟩, hrun.freed⟩

/-- Configurations are numbers, and there are no networks. -/
def plainBlobs : RadioBlobs ℕ ℕ where
  network _ := none
  ifname _ := none

/-- The configuration changes twice while the setup script runs, and the teardown script is run
once the setup is reported complete. -/
def reloadedTwice : List (RadioStep ℕ ℕ) :=
  [{ input := .device (.reload (some (1, false)) [5]) },
    { input := .device (.reload (some (2, false)) [6]) },
    { input := .device (.reload (some (3, false)) [6, 7]) }, { input := .device .scriptExit },
    { input := .device .notifyUp }]

theorem teardowns_undo_setups_reloaded :
    let x := run (radioStep plainBlobs) { present := fun _ => true } (reloadedTwice.take 5)
    (x.dev.map fun r => r.teardowns.map fun t => ScriptConfig.setup t.1) = some [(1, [5])] ∧
      (∀ r, x.dev = some r → (∀ t ∈ r.teardowns, Undone t) ∧
        (Running r → r.base.lastSetup = some (nextTeardown r))) ∧
      ∀ r ∈ x.freed, ∀ t ∈ r.teardowns, Undone t :=
  ⟨by decide, teardowns_undo_setups plainBlobs (fun _ => true)
    (by simp [reloadedTwice, AllOk, DroppedInSetup]) 5⟩

/-- A device that is dropped while its setup script runs loses its interfaces before its
teardown, which comes when the setup is reported complete after all. -/
def droppedInSetup : List (RadioStep ℕ ℕ) :=
  [{ input := .device (.reload (some (1, false)) [5]) }, { input := .device (.reload none []) },
    { input := .device .scriptExit }, { input := .device .notifyUp }]

example : ((run (radioStep plainBlobs) { present := fun _ => true } droppedInSetup).dev.map
    (·.teardowns.map fun t => (t.1.config, t.1.interfaces.length, t.2))) =
      some [(1, 0, some (1, [5]))] := by decide

end Netifd.TeardownScripts
