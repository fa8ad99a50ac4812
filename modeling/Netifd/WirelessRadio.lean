import Netifd.WirelessDevice

/-!
# Wireless devices with their interfaces

The same functions of `wireless.c` with what they do besides: the links of the wireless
interfaces, what the scripts report about them, and the configuration that a script is run with.
Without these it is the device as it was modelled before.
-/

namespace Netifd.WirelessRadio
open GuardedRuns

/-- What is read of blobs: the networks of a configuration, and the name in reported data. -/
structure RadioBlobs (β δ : Type) where
  network : β → Option (List String)
  ifname : δ → Option String

/-- `struct wireless_interface`. -/
structure RadioVif (β δ : Type) where
  config : β
  network : Option (List String)
  ifname : Option String := none
  data : Option δ := none

/-- What `prepare_config` makes: for each interface its configuration, its data and its
bridge. -/
structure ScriptConfig (β δ : Type) where
  config : β
  data : Option δ
  interfaces : List (β × Option δ × Option String)

/-- `struct wireless_device`. The last fields are histories: the links that were reported up and
not down since, and what the teardown script was run with, beside the last setup script. -/
structure RadioDevice (β δ : Type) where
  base : WirelessDevice β
  vifs : List (RadioVif β δ) := []
  data : Option δ := none
  prevConfig : Option (ScriptConfig β δ) := none
  links : List (String × String) := []
  teardowns : List (ScriptConfig β δ × Option (β × List β)) := []

/-- The place of a device in the table, with the interfaces that there are. The other fields are
those of `Wireless` and the devices that were freed, as they were then. -/
structure Radio (β δ : Type) where
  dev : Option (RadioDevice β δ) := none
  present : String → Bool := fun _ => false
  marked : List InterfaceState := []
  lost : Bool := false
  reloaded : Option (β × Bool × List β) := none
  freed : List (RadioDevice β δ) := []

/-- What a step finds: whether a script can be started, the interfaces that there are, and what
`vif_config_add_bridge` makes of networks. -/
structure RadioEnv where
  forks : Bool
  present : String → Bool
  bridge : List String → Option String

/-- The device without what was added. -/
def Radio.wireless {β δ : Type} (x : Radio β δ) : Wireless β where
  wdev := x.dev.map (·.base)
  marked := x.marked
  lost := x.lost
  reloaded := x.reloaded

section Code

variable {β δ : Type} [DecidableEq β] (blobs : RadioBlobs β δ) (env : RadioEnv)

def prepareConfig (r : RadioDevice β δ) : ScriptConfig β δ where
  config := r.base.config
  data := r.data
  interfaces := r.vifs.map fun vif => (vif.config, vif.data, vif.network.bind env.bridge)

def wdevPreparePrevConfig (r : RadioDevice β δ) : RadioDevice β δ :=
  { r with prevConfig := some (r.prevConfig.getD (prepareConfig env r)) }

/-- `wireless_device_run_handler`. -/
def radioRunHandler (up : Bool) (r : RadioDevice β δ) : RadioDevice β δ :=
  { r with
    base := wirelessDeviceRunHandler env.forks up r.base
    prevConfig := if up then r.prevConfig else none
    teardowns :=
      if up then r.teardowns
      else r.teardowns ++ [(r.prevConfig.getD (prepareConfig env r), r.base.lastSetup)] }

/-- `wireless_interface_handle_link`, without the flags of the device. -/
def wirelessInterfaceHandleLink (up : Bool) (links : List (String × String))
    (vif : RadioVif β δ) : List (String × String) :=
  match vif.network, vif.ifname with
  | some network, some ifname =>
    let there := network.filter env.present
    if up then there.map (·, ifname) ++ links
    else links.filter fun link => ¬(link.2 = ifname ∧ link.1 ∈ there)
  | _, _ => links

/-- `__wireless_device_set_up`. -/
def radioSetUp' (configInit : Bool) (r : RadioDevice β δ) : RadioDevice β δ :=
  if r.base.disabled || r.base.retrySetupFailed || !r.base.autostart || r.base.state != .down ||
      configInit then r
  else radioRunHandler env true { r with base.state := .setup, prevConfig := none }

/-- `__wireless_device_set_down`. -/
def radioSetDown' (r : RadioDevice β δ) : RadioDevice β δ :=
  if r.base.state = .teardown ∨ r.base.state = .down then r
  else if r.base.scriptTask then { r with base := wirelessDeviceSetupCancel r.base }
  else radioRunHandler env false { r with base.state := .teardown }

/-- `wireless_device_mark_up`. -/
def radioMarkUp (r : RadioDevice β δ) : RadioDevice β δ :=
  if r.base.cancel then radioSetDown' env { r with base.cancel := false }
  else
    { r with
      base.state := .up
      links := r.vifs.foldl (wirelessInterfaceHandleLink env true) r.links }

/-- `wireless_device_retry_setup`. -/
def radioRetrySetup (r : RadioDevice β δ) : RadioDevice β δ :=
  if r.base.state = .teardown ∨ r.base.state = .down ∨ r.base.cancel = true then r
  else
    radioSetDown' env
      { r with
        base.retry := r.base.retry - 1
        base.retrySetupFailed := r.base.retrySetupFailed || decide (r.base.retry - 1 < 0) }

/-- `wireless_device_set_up`. -/
def radioSetUp (r : RadioDevice β δ) : RadioDevice β δ :=
  radioSetUp' env false { r with base.retry := WIRELESS_SETUP_RETRY, base.autostart := true }

/-- `wireless_device_set_down`. -/
def radioSetDown (r : RadioDevice β δ) : RadioDevice β δ :=
  radioSetDown' env { r with base.retrySetupFailed := false, base.autostart := false }

/-- `wireless_device_check_script_tasks`. -/
def radioCheckScriptTasks (alive : ℕ → Bool) (r : RadioDevice β δ) : RadioDevice β δ :=
  let restart := r.base.scriptProc.any fun proc => !alive proc.pid && proc.required
  let left := r.base.scriptProc.filter fun proc => alive proc.pid
  let r := { r with base := wirelessProcessFree r.base left }
  if restart then radioRetrySetup env r else { r with base.scriptCheck := true }

/-- An access to the device; one that was freed is lost. -/
def Radio.onDevice (x : Radio β δ) (f : RadioDevice β δ → Radio β δ) : Radio β δ :=
  match x.dev with
  | none => { x with lost := true }
  | some r => f r

/-- The device has changed. -/
def Radio.set (x : Radio β δ) (r : RadioDevice β δ) : Radio β δ := { x with dev := some r }

/-- Any change of a device that is there. -/
def Radio.modify (x : Radio β δ) (f : RadioDevice β δ → RadioDevice β δ) : Radio β δ :=
  { x with dev := x.dev.map f }

/-- `vif_update` for all interfaces. The device is to be removed, so that it does not care. -/
def radioFlushAll (r : RadioDevice β δ) : RadioDevice β δ :=
  { r with vifs := [], links := r.vifs.foldl (wirelessInterfaceHandleLink env false) r.links }

/-- `wireless_device_free`. -/
def radioFree (x : Radio β δ) : Radio β δ :=
  x.onDevice fun r =>
    { x with
      dev := none
      lost := x.lost || r.base.timeout || r.base.scriptTask
      freed := x.freed ++ [radioFlushAll env r] }

/-- `wdev_handle_config_change`. -/
def radioHandleConfigChange (configInit : Bool) (x : Radio β δ) : Radio β δ :=
  x.onDevice fun r =>
    match r.base.configState with
    | .normal | .reload =>
      let r := radioSetUp' env configInit r
      x.set { r with base.configState := .normal }
    | .remove => radioFree env x

/-- What `wireless_device_mark_down` makes of the device before it looks at `config_state`; the
data and the names are freed by `wireless_device_free_state`. -/
def radioMarkedDown (r : RadioDevice β δ) : RadioDevice β δ :=
  { r with
    base := markedDown r.base
    vifs := r.vifs.map ({ · with ifname := none, data := none })
    data := none
    links := r.vifs.foldl (wirelessInterfaceHandleLink env false) r.links }

/-- `wireless_device_mark_down`. -/
def radioMarkDown (x : Radio β δ) : Radio β δ :=
  x.onDevice fun r =>
    radioHandleConfigChange env false
      { x.set (radioMarkedDown env r) with marked := x.marked ++ [r.base.state] }

/-- `wireless_device_script_task_cb`. -/
def radioScriptTaskCb (x : Radio β δ) : Radio β δ :=
  x.onDevice fun r =>
    match r.base.state with
    | .setup => x.set (radioRetrySetup env r)
    | .teardown => radioMarkDown env x
    | _ => x

/-- `wireless_device_setup_timeout`. -/
def radioSetupTimeout (again : Bool) (x : Radio β δ) : Radio β δ :=
  x.onDevice fun r =>
    -- netifd_kill_process
    let x := x.set { r with base.scriptTask := false }
    radioMarkDown { env with forks := again } (radioScriptTaskCb env x)

/-- `wdev_set_config_state`. -/
def radioSetConfigState (s : InterfaceConfigState) (x : Radio β δ) : Radio β δ :=
  x.onDevice fun r =>
    if r.base.configState ≠ .normal then x
    else
      let r := { r with base.configState := s }
      if r.base.state = .down then radioHandleConfigChange env true (x.set r)
      else x.set (radioSetDown' env r)

/-- `wdev_change_config`. -/
def radioChangeConfig (newConfig : β) (disabled : Bool) (x : Radio β δ) : Radio β δ :=
  x.onDevice fun r =>
    let x := x.set (wdevPreparePrevConfig env r)
    if r.base.config = newConfig ∧ r.base.disabled = disabled then x
    else
      let r := wdevPreparePrevConfig env r
      radioSetConfigState env .reload
        (x.set { r with
          base.config := newConfig, base.disabled := disabled, base.retrySetupFailed := false })

/-- `wireless_device_create`, with `wdev_update` for the new node. -/
def radioCreate (config : β) (disabled : Bool) (x : Radio β δ) : Radio β δ :=
  match x.dev with
  | none => x.set { base := { config, disabled, retry := WIRELESS_SETUP_RETRY } }
  | some _ => radioChangeConfig env config disabled x

/-- `vif_update` for an interface that has changed. -/
def vifChange (i : ℕ) (old : RadioVif β δ) (config : β) (r : RadioDevice β δ) :
    RadioDevice β δ :=
  { r with
    base.interfaces := r.base.interfaces.set i config
    links := wirelessInterfaceHandleLink env false r.links old
    vifs := r.vifs.set i { old with config, network := blobs.network config } }

/-- `vif_update` for an interface that is new. -/
def vifAppend (config : β) (r : RadioDevice β δ) : RadioDevice β δ :=
  { r with
    base.interfaces := r.base.interfaces ++ [config]
    vifs := r.vifs ++ [{ config, network := blobs.network config }] }

/-- `vif_update` for the last interface, which is deleted. -/
def vifDrop (r : RadioDevice β δ) : RadioDevice β δ :=
  { r with
    base.interfaces := r.base.interfaces.dropLast
    links := r.vifs.getLast?.elim r.links (wirelessInterfaceHandleLink env false r.links)
    vifs := r.vifs.dropLast }

/-- `wireless_interface_create`. -/
def radioInterfaceCreate (x : Radio β δ) (vif : β × ℕ) : Radio β δ :=
  match x.dev with
  | none => x
  | some r =>
    match r.vifs[vif.2]? with
    | some old =>
      if old.config = vif.1 then x
      else radioSetConfigState env .reload (x.set (vifChange blobs env vif.2 old vif.1 r))
    | none => radioSetConfigState env .reload (x.set (vifAppend blobs vif.1 r))

/-- `vlist_flush` for one interface that is left over. -/
def radioVifDelete (x : Radio β δ) : Radio β δ :=
  match x.dev with
  | none => x
  | some r => radioSetConfigState env .reload (x.set (vifDrop env r))

/-- The first half of `config_init_wireless` for one device: its section, if there is one. -/
def radioInitDevice (dev : Option (β × Bool)) (x : Radio β δ) : Radio β δ :=
  match dev with
  | some (config, disabled) => radioCreate env config disabled x
  | none => if x.dev.isSome then radioSetConfigState env .remove x else x

/-- `config_init_wireless` for one device. -/
def radioInit (dev : Option (β × Bool)) (vifs : List β) (x : Radio β δ) : Radio β δ :=
  let x := vifs.zipIdx.foldl (radioInterfaceCreate blobs env) (radioInitDevice env dev x)
  (radioVifDelete env)^[((x.dev.map (·.vifs.length)).getD 0) - vifs.length] x

/-- What can happen: an input of the device, data that a script reports for the device or for one
of its interfaces, and a change of which interfaces there are. -/
inductive RadioInput (β δ : Type)
  | device (input : WirelessInput β)
  | setData (vif : Option ℕ) (data : δ)
  | interfaces (present : String → Bool)

/-- An input, whether scripts can be started, and the bridges. -/
structure RadioStep (β δ : Type) where
  input : RadioInput β δ
  forks : Bool := true
  again : Bool := true
  bridge : List String → Option String := fun _ => none

/-- `NOTIFY_CMD_SET_DATA` of `wireless_device_notify`. -/
def radioSetData (vif : Option ℕ) (data : δ) (r : RadioDevice β δ) : RadioDevice β δ :=
  match vif with
  | none => if r.data.isSome then r else { r with data := some data }
  | some i =>
    match r.vifs[i]? with
    | none => r
    | some vif =>
      if vif.data.isSome then r
      else
        let vif := { vif with data := some data, ifname := (blobs.ifname data).or vif.ifname }
        { r with vifs := r.vifs.set i vif }

/-- The inputs of the device. -/
def radioDeviceStep (again : Bool) (x : Radio β δ) : WirelessInput β → Radio β δ
  | .up => x.modify (radioSetUp env)
  | .down => x.modify (radioSetDown env)
  | .reload dev vifs =>
    let x := (radioInit blobs env dev vifs x).modify (radioSetUp' env false)
    { x with reloaded := dev.map fun s => (s.1, s.2, vifs) }
  | .startPending => x.modify (radioSetUp' env false)
  | .notifyUp => x.modify fun r => if r.base.state = .setup then radioMarkUp env r else r
  | .processAdd proc =>
    x.modify fun r =>
      { r with base.scriptProc := proc :: r.base.scriptProc, base.scriptCheck := true }
  | .processKillAll alive immediate =>
    x.modify fun r => { r with base := wirelessDeviceProcessKillAll alive immediate r.base }
  | .setRetry retry => x.modify ({ · with base.retry := retry })
  | .scriptExit =>
    match x.dev with
    | none => x
    | some r =>
      if r.base.scriptTask then radioScriptTaskCb env (x.set { r with base.scriptTask := false })
      else x
  | .timeout =>
    match x.dev with
    | none => x
    | some r =>
      if r.base.timeout then radioSetupTimeout env again (x.set { r with base.timeout := false })
      else x
  | .pollFd =>
    x.modify fun r =>
      if r.base.scriptProcFd then
        { r with base.scriptCheck := true, base.scriptProcFd := false }
      else r
  | .scriptCheck alive =>
    x.modify fun r =>
      if r.base.scriptCheck then
        radioCheckScriptTasks env alive { r with base.scriptCheck := false }
      else r

/-- With an interface its links are gone. -/
def RadioDevice.keepLinks (present : String → Bool) (r : RadioDevice β δ) : RadioDevice β δ :=
  { r with links := r.links.filter fun link => present link.1 }

/-- One step. -/
def radioStep (x : Radio β δ) (op : RadioStep β δ) : Radio β δ :=
  match op.input with
  | .device input =>
    radioDeviceStep blobs { forks := op.forks, present := x.present, bridge := op.bridge } op.again
      x input
  | .setData vif data => x.modify (radioSetData blobs vif data)
  | .interfaces present =>
    { x.modify (·.keepLinks present) with
      present
      freed := x.freed.map (·.keepLinks present) }

end Code

section Refinement

variable {β δ : Type}

/-- The configurations of the interfaces are those of the device. -/
def Synced (r : RadioDevice β δ) : Prop := r.base.interfaces = r.vifs.map (·.config)

theorem wireless_onDevice {x : Radio β δ} {f : RadioDevice β δ → Radio β δ}
    {g : WirelessDevice β → Wireless β}
    (hfg : ∀ r, x.dev = some r → (f r).wireless = g r.base) :
    (x.onDevice f).wireless = x.wireless.onDevice g := by
  cases hdev : x.dev with
  | none => simp [Radio.onDevice, Wireless.onDevice, Radio.wireless, hdev]
  | some r =>
    simp only [Radio.onDevice, Wireless.onDevice, Radio.wireless, hdev, Option.map_some]
    exact hfg r hdev

theorem wireless_modify (x : Radio β δ) {f : RadioDevice β δ → RadioDevice β δ}
    {g : WirelessDevice β → WirelessDevice β} (hfg : ∀ r, (f r).base = g r.base) :
    (x.modify f).wireless = x.wireless.modify g := by
  simp only [Radio.modify, Wireless.modify, Radio.wireless, Option.map_map]
  congr 1
  cases x.dev with
  | none => rfl
  | some r => exact congrArg some (hfg r)

theorem wireless_modify_same (x : Radio β δ) {f : RadioDevice β δ → RadioDevice β δ}
    (hf : ∀ r, (f r).base = r.base) : (x.modify f).wireless = x.wireless := by
  rw [wireless_modify x (g := id) hf, Wireless.modify, Option.map_id]
  rfl

@[simp] theorem wireless_set (x : Radio β δ) (r : RadioDevice β δ) :
    (x.set r).wireless = x.wireless.set r.base := rfl

variable (env : RadioEnv)

@[simp] theorem radioSetUp'_base (configInit : Bool) (r : RadioDevice β δ) :
    (radioSetUp' env configInit r).base = wirelessDeviceSetUp' env.forks configInit r.base := by
  rw [radioSetUp', wirelessDeviceSetUp']
  split_ifs <;> rfl

@[simp] theorem radioSetDown'_base (r : RadioDevice β δ) :
    (radioSetDown' env r).base = wirelessDeviceSetDown' env.forks r.base := by
  rw [radioSetDown', wirelessDeviceSetDown']
  split_ifs <;> rfl

theorem radioMarkUp_base (r : RadioDevice β δ) :
    (radioMarkUp env r).base = wirelessDeviceMarkUp env.forks r.base := by
  rw [radioMarkUp, wirelessDeviceMarkUp]
  split_ifs
  · exact radioSetDown'_base env _
  · rfl

@[simp] theorem radioRetrySetup_base (r : RadioDevice β δ) :
    (radioRetrySetup env r).base = wirelessDeviceRetrySetup env.forks r.base := by
  rw [radioRetrySetup, wirelessDeviceRetrySetup]
  split_ifs
  · rfl
  · exact radioSetDown'_base env _

theorem radioCheckScriptTasks_base (alive : ℕ → Bool) (r : RadioDevice β δ) :
    (radioCheckScriptTasks env alive r).base =
      wirelessDeviceCheckScriptTasks alive env.forks r.base := by
  rw [radioCheckScriptTasks, wirelessDeviceCheckScriptTasks]
  split_ifs
  · exact radioRetrySetup_base env _
  · rfl

theorem wireless_radioHandleConfigChange (configInit : Bool) (x : Radio β δ) :
    (radioHandleConfigChange env configInit x).wireless =
      wdevHandleConfigChange env.forks configInit x.wireless := by
  apply wireless_onDevice
  intro r hdev
  cases hconfig : r.base.configState with
  | normal => simp
  | reload => simp
  | remove =>
    dsimp only
    apply wireless_onDevice
    intro r' hdev'
    rfl

theorem wireless_radioMarkDown (x : Radio β δ) :
    (radioMarkDown env x).wireless = wirelessDeviceMarkDown env.forks x.wireless := by
  apply wireless_onDevice
  intro r _
  exact wireless_radioHandleConfigChange env false _

theorem wireless_radioScriptTaskCb (x : Radio β δ) :
    (radioScriptTaskCb env x).wireless = wirelessDeviceScriptTaskCb env.forks x.wireless := by
  apply wireless_onDevice
  intro r _
  cases hstate : r.base.state with
  | setup => simp
  | teardown => exact wireless_radioMarkDown env x
  | up => rfl
  | down => rfl

theorem wireless_radioSetupTimeout (again : Bool) (x : Radio β δ) :
    (radioSetupTimeout env again x).wireless =
      wirelessDeviceSetupTimeout env.forks again x.wireless := by
  apply wireless_onDevice
  intro r _
  dsimp only
  rw [wireless_radioMarkDown, wireless_radioScriptTaskCb, wireless_set]

theorem wireless_radioSetConfigState (s : InterfaceConfigState) (x : Radio β δ) :
    (radioSetConfigState env s x).wireless = wdevSetConfigState env.forks s x.wireless := by
  apply wireless_onDevice
  intro r _
  dsimp only
  split_ifs
  · rfl
  · exact wireless_radioHandleConfigChange env true _
  · rw [wireless_set, radioSetDown'_base]

variable [DecidableEq β]

theorem wireless_radioChangeConfig (newConfig : β) (disabled : Bool) (x : Radio β δ) :
    (radioChangeConfig env newConfig disabled x).wireless =
      wdevChangeConfig env.forks newConfig disabled x.wireless := by
  apply wireless_onDevice
  intro r hdev
  dsimp only
  split_ifs
  · simp [Radio.wireless, Radio.set, wdevPreparePrevConfig, hdev]
  · rw [wireless_radioSetConfigState]
    rfl

theorem wireless_radioInitDevice (dev : Option (β × Bool)) (x : Radio β δ) :
    (radioInitDevice env dev x).wireless = configInitDevice env.forks dev x.wireless := by
  cases dev with
  | none =>
    simp only [radioInitDevice, configInitDevice]
    cases hdev : x.dev with
    | none => simp [Radio.wireless, hdev]
    | some r =>
      have hsome : x.wireless.wdev.isSome := by simp [Radio.wireless, hdev]
      rw [if_pos hsome]
      exact wireless_radioSetConfigState env .remove x
  | some s =>
    simp only [radioInitDevice, configInitDevice, radioCreate, wirelessDeviceCreate]
    cases hdev : x.dev with
    | none => simp [Radio.wireless, hdev, Radio.set, Wireless.set]
    | some r =>
      have hwdev : x.wireless.wdev = some r.base := by simp [Radio.wireless, hdev]
      rw [hwdev]
      exact wireless_radioChangeConfig env s.1 s.2 x

variable (blobs : RadioBlobs β δ)

theorem wireless_radioInterfaceCreate {x : Radio β δ} (hsync : ∀ r, x.dev = some r → Synced r)
    (vif : β × ℕ) :
    (radioInterfaceCreate blobs env x vif).wireless =
      wirelessInterfaceCreate env.forks x.wireless vif := by
  rw [radioInterfaceCreate, wirelessInterfaceCreate]
  cases hdev : x.dev with
  | none => simp [Radio.wireless, hdev]
  | some r =>
    have hwdev : x.wireless.wdev = some r.base := by simp [Radio.wireless, hdev]
    have hget : r.base.interfaces[vif.2]? = (r.vifs[vif.2]?).map (·.config) := by
      rw [hsync r hdev, List.getElem?_map]
    simp only [hwdev, hget]
    cases hvif : r.vifs[vif.2]? with
    | none =>
      simp only [Option.map_none]
      rw [wireless_radioSetConfigState]
      rfl
    | some old =>
      simp only [Option.map_some]
      split_ifs
      · rfl
      · rw [wireless_radioSetConfigState]
        rfl

omit [DecidableEq β] in
theorem wireless_radioVifDelete (x : Radio β δ) :
    (radioVifDelete env x).wireless = vifDelete env.forks x.wireless := by
  rw [radioVifDelete, vifDelete]
  cases hdev : x.dev with
  | none => simp [Radio.wireless, hdev]
  | some r =>
    have hwdev : x.wireless.wdev = some r.base := by simp [Radio.wireless, hdev]
    rw [hwdev]
    dsimp only
    rw [wireless_radioSetConfigState]
    rfl

end Refinement

section Keeping

variable {β δ : Type}

/-- The fields that neither links nor scripts depend on may differ, and what a reload has asked
for may be done. -/
structure SameSetup (base base' : WirelessDevice β) : Prop where
  config : base'.config = base.config
  interfaces : base'.interfaces = base.interfaces
  state : base'.state = base.state
  lastSetup : base'.lastSetup = base.lastSetup
  configState : base'.configState = base.configState ∨ base'.configState = .normal

/-- A property of devices that the parts of every step keep, and what it gives for those that
are freed. -/
structure Kept (present : String → Bool) (P F : RadioDevice β δ → Prop) : Prop where
  base : ∀ r base, SameSetup r.base base → P r → P { r with base }
  setDown' : ∀ env r, env.present = present → P r → P (radioSetDown' env r)
  freed : ∀ env r, env.present = present → P r → r.base.state = .down → F (radioFlushAll env r)

/-- The property holds of the device that is there, and of those that were freed the other
does. -/
structure Holds (present : String → Bool) (P F : RadioDevice β δ → Prop) (x : Radio β δ) :
    Prop where
  present : x.present = present
  dev : ∀ r, x.dev = some r → P r
  freed : ∀ r ∈ x.freed, F r

variable {present : String → Bool} {P F : RadioDevice β δ → Prop} {x : Radio β δ}
  {r : RadioDevice β δ} {env : RadioEnv}

theorem Holds.set (hx : Holds present P F x) (hr : P r) : Holds present P F (x.set r) :=
  ⟨hx.present, by rintro r' ⟨⟩; exact hr, hx.freed⟩

theorem Holds.modify (hx : Holds present P F x) {f : RadioDevice β δ → RadioDevice β δ}
    (hf : ∀ r, P r → P (f r)) : Holds present P F (x.modify f) := by
  refine ⟨hx.present, ?_, hx.freed⟩
  intro r' hr'
  obtain ⟨r, hdev, rfl⟩ := Option.map_eq_some_iff.mp hr'
  exact hf r (hx.dev r hdev)

theorem Holds.onDevice (hx : Holds present P F x) {f : RadioDevice β δ → Radio β δ}
    (hf : ∀ r, x.dev = some r → Holds present P F (f r)) : Holds present P F (x.onDevice f) := by
  rw [Radio.onDevice]
  split
  · exact ⟨hx.present, hx.dev, hx.freed⟩
  · exact hf _ ‹_›

namespace Kept

variable (hk : Kept present P F) (henv : env.present = present)

include hk henv

theorem handleConfigChange (hx : Holds present P F x)
    (hdown : ∀ r, x.dev = some r → r.base.state = .down) {configInit : Bool}
    (hsetUp' : ∀ r, P r → P (radioSetUp' env configInit r)) :
    Holds present P F (radioHandleConfigChange env configInit x) := by
  apply hx.onDevice
  intro r hdev
  have hset : Holds present P F (x.set { radioSetUp' env configInit r with
      base := { (radioSetUp' env configInit r).base with configState := .normal } }) :=
    hx.set (hk.base (radioSetUp' env configInit r) _ ⟨rfl, rfl, rfl, rfl, .inr rfl⟩
      (hsetUp' r (hx.dev r hdev)))
  cases hconfig : r.base.configState with
  | normal => exact hset
  | reload => exact hset
  | remove =>
    dsimp only
    apply hx.onDevice
    intro r' hdev'
    refine ⟨hx.present, fun _ hnone => absurd hnone (by simp), ?_⟩
    intro r'' hr''
    rcases List.mem_append.mp hr'' with hr'' | hr''
    · exact hx.freed r'' hr''
    · obtain rfl := List.mem_singleton.mp hr''
      exact hk.freed env r' henv (hx.dev r' hdev') (hdown r' hdev')

theorem retrySetup (hr : P r) : P (radioRetrySetup env r) := by
  rw [radioRetrySetup]
  split_ifs
  · exact hr
  · exact hk.setDown' env _ henv (hk.base r _ ⟨rfl, rfl, rfl, rfl, .inl rfl⟩ hr)

end Kept

/-- A property that holds while the interfaces are gone through. -/
structure Reloadable (blobs : RadioBlobs β δ) (present : String → Bool)
    (Q F : RadioDevice β δ → Prop) : Prop extends Kept present Q F where
  mark : ∀ s r, Q r → Q { r with base.configState := s }
  change : ∀ env i old config r, env.present = present → r.vifs[i]? = some old → Q r →
    Q (vifChange blobs env i old config r)
  append : ∀ config r, Q r → Q (vifAppend blobs config r)
  drop : ∀ env r, env.present = present → Q r → Q (vifDrop env r)

namespace Reloadable

variable {blobs : RadioBlobs β δ} {Q : RadioDevice β δ → Prop}
  (hq : Reloadable blobs present Q F) (henv : env.present = present)

include hq henv

theorem setConfigState (hx : Holds present Q F x) (s : InterfaceConfigState) :
    Holds present Q F (radioSetConfigState env s x) := by
  apply hx.onDevice
  intro r hdev
  have hr := hq.mark s r (hx.dev r hdev)
  dsimp only
  split_ifs with hstate hdown
  · exact hx
  · apply hq.handleConfigChange henv (hx.set hr)
    · rintro r' ⟨⟩
      exact hdown
    · intro r' hr'
      rwa [radioSetUp', if_pos (by simp)]
  · exact hx.set (hq.setDown' env _ henv hr)

theorem interfaceCreate [DecidableEq β] (hx : Holds present Q F x) (vif : β × ℕ) :
    Holds present Q F (radioInterfaceCreate blobs env x vif) := by
  rw [radioInterfaceCreate]
  split
  · exact hx
  · rename_i r hdev
    split
    · rename_i old hold
      split_ifs
      · exact hx
      · exact hq.setConfigState henv (hx.set (hq.change env _ old _ r henv hold (hx.dev r hdev))) _
    · exact hq.setConfigState henv (hx.set (hq.append _ r (hx.dev r hdev))) _

theorem vifDelete (hx : Holds present Q F x) : Holds present Q F (radioVifDelete env x) := by
  rw [radioVifDelete]
  split
  · exact hx
  · rename_i r hdev
    exact hq.setConfigState henv (hx.set (hq.drop env r henv (hx.dev r hdev))) _

theorem interfacesCreate [DecidableEq β] (hx : Holds present Q F x) (vifs : List (β × ℕ)) :
    Holds present Q F (vifs.foldl (radioInterfaceCreate blobs env) x) := by
  induction vifs generalizing x with
  | nil => exact hx
  | cons vif vifs ih => exact ih (hq.interfaceCreate henv hx vif)

theorem vifsDelete (hx : Holds present Q F x) (n : ℕ) : Holds present Q F ((radioVifDelete env)^[n] x) := by
  induction n generalizing x with
  | zero => exact hx
  | succ n ih => exact ih (hq.vifDelete henv hx)

theorem init [DecidableEq β] {dev : Option (β × Bool)}
    (hdev : Holds present Q F (radioInitDevice env dev x)) (vifs : List β) :
    Holds present Q F (radioInit blobs env dev vifs x) :=
  hq.vifsDelete henv (hq.interfacesCreate henv hdev vifs.zipIdx) _

end Reloadable

/-- What a script reports and what follows keeps the property too. -/
structure Stepwise (blobs : RadioBlobs β δ) (present : String → Bool)
    (P F : RadioDevice β δ → Prop) : Prop extends Kept present P F where
  setUp' : ∀ env r, env.present = present → P r → P (radioSetUp' env false r)
  markedDown : ∀ env r, env.present = present → P r → P (radioMarkedDown env r)
  markUp : ∀ env r, env.present = present → r.base.state = .setup → P r → P (radioMarkUp env r)
  setData : ∀ vif data r, P r → P (radioSetData blobs vif data r)

namespace Stepwise

variable {blobs : RadioBlobs β δ} (hp : Stepwise blobs present P F)
  (henv : env.present = present)

include hp henv

theorem markDown (hx : Holds present P F x) : Holds present P F (radioMarkDown env x) := by
  apply hx.onDevice
  intro r hdev
  apply hp.toKept.handleConfigChange henv
  · have hmarked := hx.set (hp.markedDown env r henv (hx.dev r hdev))
    exact ⟨hmarked.present, hmarked.dev, hmarked.freed⟩
  · rintro r' ⟨⟩
    rfl
  · exact fun r hr => hp.setUp' env r henv hr

theorem scriptTaskCb (hx : Holds present P F x) : Holds present P F (radioScriptTaskCb env x) := by
  apply hx.onDevice
  intro r hdev
  cases r.base.state with
  | setup => exact hx.set (hp.retrySetup henv (hx.dev r hdev))
  | teardown => exact hp.markDown henv hx
  | up => exact hx
  | down => exact hx

theorem setupTimeout (hx : Holds present P F x) (again : Bool) :
    Holds present P F (radioSetupTimeout env again x) := by
  apply hx.onDevice
  intro r hdev
  have hkilled := hx.set (hp.base r { r.base with scriptTask := false }
    ⟨rfl, rfl, rfl, rfl, .inl rfl⟩ (hx.dev r hdev))
  have hagain : ({ env with forks := again } : RadioEnv).present = present := henv
  exact hp.markDown hagain (hp.scriptTaskCb henv hkilled)

/-- All inputs of the device but a reload. -/
theorem deviceStep [DecidableEq β] (hx : Holds present P F x) {input : WirelessInput β}
    (hreload : ∀ dev vifs, input = .reload dev vifs → Holds present P F (radioInit blobs env dev vifs x))
    (again : Bool) : Holds present P F (radioDeviceStep blobs env again x input) := by
  have hsetUp' : ∀ r, P r → P (radioSetUp' env false r) := fun r => hp.setUp' env r henv
  have hsame : ∀ r base, SameSetup r.base base → P r → P { r with base } := hp.base
  cases input with
  | up => exact hx.modify fun r hr => hsetUp' _ (hsame r _ ⟨rfl, rfl, rfl, rfl, .inl rfl⟩ hr)
  | down => exact hx.modify fun r hr => hp.setDown' env _ henv (hsame r _ ⟨rfl, rfl, rfl, rfl, .inl rfl⟩ hr)
  | reload dev vifs =>
    have hstarted := (hreload dev vifs rfl).modify hsetUp'
    exact ⟨hstarted.present, hstarted.dev, hstarted.freed⟩
  | startPending => exact hx.modify hsetUp'
  | notifyUp =>
    apply hx.modify
    intro r hr
    split_ifs with hstate
    · exact hp.markUp env r henv hstate hr
    · exact hr
  | processAdd proc => exact hx.modify fun r hr => hsame r _ ⟨rfl, rfl, rfl, rfl, .inl rfl⟩ hr
  | processKillAll alive immediate =>
    apply hx.modify
    intro r hr
    apply hsame r _ _ hr
    rw [wirelessDeviceProcessKillAll]
    split_ifs
    · exact ⟨rfl, rfl, rfl, rfl, .inl rfl⟩
    · dsimp only
      split_ifs <;> exact ⟨rfl, rfl, rfl, rfl, .inl rfl⟩
  | setRetry retry => exact hx.modify fun r hr => hsame r _ ⟨rfl, rfl, rfl, rfl, .inl rfl⟩ hr
  | scriptExit =>
    rw [radioDeviceStep]
    split
    · exact hx
    · rename_i r hdev
      split_ifs
      · exact hp.scriptTaskCb henv
          (hx.set (hsame r _ ⟨rfl, rfl, rfl, rfl, .inl rfl⟩ (hx.dev r hdev)))
      · exact hx
  | timeout =>
    rw [radioDeviceStep]
    split
    · exact hx
    · rename_i r hdev
      split_ifs
      · exact hp.setupTimeout henv
          (hx.set (hsame r { r.base with timeout := false } ⟨rfl, rfl, rfl, rfl, .inl rfl⟩
            (hx.dev r hdev))) again
      · exact hx
  | pollFd =>
    apply hx.modify
    intro r hr
    split_ifs
    · exact hsame r _ ⟨rfl, rfl, rfl, rfl, .inl rfl⟩ hr
    · exact hr
  | scriptCheck alive =>
    apply hx.modify
    intro r hr
    split_ifs
    · rw [radioCheckScriptTasks]
      dsimp only
      split_ifs
      · exact hp.retrySetup henv (hsame r _ ⟨rfl, rfl, rfl, rfl, .inl rfl⟩ hr)
      · exact hsame r _ ⟨rfl, rfl, rfl, rfl, .inl rfl⟩ hr
    · exact hr

end Stepwise

/-- A property that every change of the configuration keeps. -/
structure Everywhere (blobs : RadioBlobs β δ) (present : String → Bool)
    (P F : RadioDevice β δ → Prop) : Prop
    extends Stepwise blobs present P F, Reloadable blobs present P F where
  fresh : ∀ config disabled, P { base := { config, disabled, retry := WIRELESS_SETUP_RETRY } }
  prepare : ∀ env r, P r → P (wdevPreparePrevConfig env r)
  configure : ∀ config disabled r, P r → P { r with
    base.config := config, base.disabled := disabled, base.retrySetupFailed := false }

theorem Everywhere.initDevice [DecidableEq β] {blobs : RadioBlobs β δ}
    (he : Everywhere blobs present P F) (henv : env.present = present) (hx : Holds present P F x)
    (dev : Option (β × Bool)) : Holds present P F (radioInitDevice env dev x) := by
  cases dev with
  | none =>
    rw [radioInitDevice]
    split_ifs
    · exact he.toReloadable.setConfigState henv hx .remove
    · exact hx
  | some s =>
    simp only [radioInitDevice, radioCreate]
    split
    · exact hx.set (he.fresh s.1 s.2)
    · apply hx.onDevice
      intro r hdev
      have hprepared := he.prepare env r (hx.dev r hdev)
      dsimp only
      split_ifs
      · exact hx.set hprepared
      · apply he.toReloadable.setConfigState henv
        rw [Radio.set]
        exact hx.set (he.configure s.1 s.2 _ hprepared)

theorem holds_step [DecidableEq β] {blobs : RadioBlobs β δ}
    {P F : (String → Bool) → RadioDevice β δ → Prop}
    (he : ∀ present, Everywhere blobs present (P present) (F present))
    (hkeep : ∀ present present' r, P present r → P present' (r.keepLinks present'))
    (hkeep' : ∀ present present' r, F present r → F present' (r.keepLinks present'))
    (hx : Holds x.present (P x.present) (F x.present) x) (op : RadioStep β δ) :
    Holds (radioStep blobs x op).present (P (radioStep blobs x op).present)
      (F (radioStep blobs x op).present) (radioStep blobs x op) := by
  obtain ⟨input, forks, again, bridge⟩ := op
  cases input with
  | device input =>
    have hstep : Holds x.present (P x.present) (F x.present)
        (radioStep blobs x { input := .device input, forks, again, bridge }) := by
      apply (he x.present).toStepwise.deviceStep rfl hx
      rintro dev vifs rfl
      exact (he x.present).toReloadable.init rfl ((he x.present).initDevice rfl hx dev) vifs
    rw [hstep.present]
    exact hstep
  | setData vif data => exact hx.modify ((he x.present).setData vif data)
  | interfaces present =>
    refine ⟨rfl, ?_, ?_⟩
    · intro r' hr'
      obtain ⟨r, hdev, rfl⟩ := Option.map_eq_some_iff.mp hr'
      exact hkeep x.present present r (hx.dev r hdev)
    · intro r' hr'
      obtain ⟨r, hr, rfl⟩ := List.mem_map.mp hr'
      exact hkeep' x.present present r (hx.freed r hr)

theorem Synced.same {r : RadioDevice β δ} {base : WirelessDevice β}
    (hsame : SameSetup r.base base) (hr : Synced r) : Synced { r with base } :=
  hsame.interfaces.trans hr

theorem setUp'_interfaces (forks configInit : Bool) (wdev : WirelessDevice β) :
    (wirelessDeviceSetUp' forks configInit wdev).interfaces = wdev.interfaces := by
  rw [wirelessDeviceSetUp']
  split_ifs <;> rfl

theorem setDown'_interfaces (forks : Bool) (wdev : WirelessDevice β) :
    (wirelessDeviceSetDown' forks wdev).interfaces = wdev.interfaces := by
  rw [wirelessDeviceSetDown', wirelessDeviceSetupCancel]
  split_ifs <;> rfl

theorem radioSetUp'_vifs (env : RadioEnv) (configInit : Bool) (r : RadioDevice β δ) :
    (radioSetUp' env configInit r).vifs = r.vifs := by
  rw [radioSetUp']
  split_ifs <;> rfl

theorem radioSetDown'_vifs (env : RadioEnv) (r : RadioDevice β δ) :
    (radioSetDown' env r).vifs = r.vifs := by
  rw [radioSetDown']
  split_ifs <;> rfl

theorem synced_everywhere (blobs : RadioBlobs β δ) (present : String → Bool) :
    Everywhere blobs present (Synced (β := β)) fun _ : RadioDevice β δ => True where
  base r base hsame hr := hr.same hsame
  setUp' env r _ hr := by
    rw [Synced, radioSetUp'_base, setUp'_interfaces, radioSetUp'_vifs, hr]
  setDown' env r _ hr := by
    rw [Synced, radioSetDown'_base, setDown'_interfaces, radioSetDown'_vifs, hr]
  markedDown env r _ hr := by
    simp only [Synced, radioMarkedDown, List.map_map]
    exact hr
  freed env r _ _ _ := trivial
  markUp env r _ _ hr := by
    rw [radioMarkUp]
    split_ifs
    · rw [Synced, radioSetDown'_base, setDown'_interfaces, radioSetDown'_vifs]
      exact hr
    · exact hr
  setData vif data r hr := by
    cases vif with
    | none =>
      rw [radioSetData]
      split_ifs <;> exact hr
    | some i =>
      rw [radioSetData]
      cases hvif : r.vifs[i]? with
      | none => exact hr
      | some vif =>
        dsimp only
        split_ifs
        · exact hr
        · have hsame : (r.vifs.map (·.config)).set i vif.config = r.vifs.map (·.config) := by
            obtain ⟨hlt, rfl⟩ := List.getElem?_eq_some_iff.mp hvif
            rw [← List.map_set, List.set_getElem_self]
          rw [Synced, List.map_set]
          exact hr.trans hsame.symm
  mark s r hr := hr
  change env i old config r _ _ hr := by
    simp only [Synced, vifChange, List.map_set]
    rw [hr]
  append config r hr := by
    simp only [Synced, vifAppend, List.map_append, List.map_cons, List.map_nil]
    rw [hr]
  drop env r _ hr := by
    simp only [Synced, vifDrop, List.map_dropLast]
    rw [hr]
  fresh config disabled := rfl
  prepare env r hr := hr
  configure config disabled r hr := hr

/-- An input as the device without its interfaces has it. -/
def RadioStep.wireless (op : RadioStep β δ) : Option (WirelessStep β) :=
  match op.input with
  | .device input => some { input, forks := op.forks, again := op.again }
  | _ => none

variable [DecidableEq β] (blobs : RadioBlobs β δ)

theorem wireless_interfacesCreate (env : RadioEnv) {x : Radio β δ}
    (hx : Holds env.present Synced (fun _ => True) x) (vifs : List (β × ℕ)) :
    (vifs.foldl (radioInterfaceCreate blobs env) x).wireless =
      vifs.foldl (wirelessInterfaceCreate env.forks) x.wireless := by
  induction vifs generalizing x with
  | nil => rfl
  | cons vif vifs ih =>
    have hnext := (synced_everywhere blobs env.present).toReloadable.interfaceCreate rfl hx vif
    rw [List.foldl_cons, ih hnext, wireless_radioInterfaceCreate env blobs hx.dev, List.foldl_cons]

omit [DecidableEq β] in
theorem wireless_vifsDelete (env : RadioEnv) (n : ℕ) (x : Radio β δ) :
    ((radioVifDelete env)^[n] x).wireless = (vifDelete env.forks)^[n] x.wireless := by
  induction n generalizing x with
  | zero => rfl
  | succ n ih =>
    rw [Function.iterate_succ_apply, ih, wireless_radioVifDelete, Function.iterate_succ_apply]

theorem wireless_radioInit (env : RadioEnv) {x : Radio β δ}
    (hx : Holds env.present Synced (fun _ => True) x) (dev : Option (β × Bool)) (vifs : List β) :
    (radioInit blobs env dev vifs x).wireless =
      configInitWireless env.forks dev vifs x.wireless := by
  have he := synced_everywhere (δ := δ) blobs env.present
  have hdev := he.initDevice rfl hx dev
  have hcreated := he.toReloadable.interfacesCreate rfl hdev vifs.zipIdx
  have hcount : ∀ y : Radio β δ, Holds env.present Synced (fun _ => True) y →
      (y.dev.map (·.vifs.length)).getD 0 - vifs.length = surplus vifs y.wireless := by
    intro y hy
    rw [surplus, Radio.wireless]
    cases hyd : y.dev with
    | none => rfl
    | some r =>
      have hlength : r.base.interfaces.length = r.vifs.length := by
        rw [hy.dev r hyd, List.length_map]
      simp [hlength]
  rw [radioInit, configInitWireless, wireless_vifsDelete, hcount _ hcreated,
    wireless_interfacesCreate blobs env hdev, wireless_radioInitDevice]

/-- A step does to the device without its interfaces what the step of that device does. -/
theorem wireless_radioStep {x : Radio β δ} (hx : Holds x.present Synced (fun _ => True) x)
    (op : RadioStep β δ) :
    (radioStep blobs x op).wireless = op.wireless.elim x.wireless (wirelessStep x.wireless) := by
  obtain ⟨input, forks, again, bridge⟩ := op
  cases input with
  | setData vif data =>
    apply wireless_modify_same
    intro r
    cases vif with
    | none =>
      rw [radioSetData]
      split_ifs <;> rfl
    | some i =>
      rw [radioSetData]
      cases r.vifs[i]? with
      | none => rfl
      | some vif =>
        dsimp only
        split_ifs <;> rfl
  | interfaces present => exact wireless_modify_same x fun r => rfl
  | device input =>
    cases input with
    | up => exact wireless_modify x fun r => radioSetUp'_base ..
    | down => exact wireless_modify x fun r => radioSetDown'_base ..
    | reload dev vifs =>
      have hinit := wireless_radioInit blobs
        { forks, present := x.present, bridge } hx dev vifs
      have hstarted := wireless_modify
        (radioInit blobs { forks, present := x.present, bridge } dev vifs x)
        fun r => radioSetUp'_base { forks, present := x.present, bridge } false r
      rw [hinit] at hstarted
      exact congrArg (fun m : Wireless β =>
        { m with reloaded := dev.map fun s : β × Bool => (s.1, s.2, vifs) }) hstarted
    | startPending => exact wireless_modify x fun r => radioSetUp'_base ..
    | notifyUp =>
      apply wireless_modify
      intro r
      split_ifs
      · exact radioMarkUp_base ..
      · rfl
    | processAdd proc => exact wireless_modify x fun r => rfl
    | processKillAll alive immediate => exact wireless_modify x fun r => rfl
    | setRetry retry => exact wireless_modify x fun r => rfl
    | scriptExit =>
      simp only [radioStep, radioDeviceStep, RadioStep.wireless, Option.elim_some, wirelessStep]
      cases hdev : x.dev with
      | none => simp [Radio.wireless, hdev]
      | some r =>
        have hwdev : x.wireless.wdev = some r.base := by simp [Radio.wireless, hdev]
        simp only [hwdev]
        split_ifs
        · exact wireless_radioScriptTaskCb _ _
        · rfl
    | timeout =>
      simp only [radioStep, radioDeviceStep, RadioStep.wireless, Option.elim_some, wirelessStep]
      cases hdev : x.dev with
      | none => simp [Radio.wireless, hdev]
      | some r =>
        have hwdev : x.wireless.wdev = some r.base := by simp [Radio.wireless, hdev]
        simp only [hwdev]
        split_ifs
        · exact wireless_radioSetupTimeout _ again _
        · rfl
    | pollFd =>
      apply wireless_modify
      intro r
      split_ifs <;> rfl
    | scriptCheck alive =>
      apply wireless_modify
      intro r
      split_ifs
      · exact radioCheckScriptTasks_base _ alive _
      · rfl

omit [DecidableEq β] in
theorem synced_start (present : String → Bool) :
    Holds present Synced (fun _ => True) ({ present } : Radio β δ) :=
  ⟨rfl, fun _ hnone => absurd hnone (by simp), fun _ hnil => absurd hnil List.not_mem_nil⟩

theorem wireless_run {x : Radio β δ} (hx : Holds x.present Synced (fun _ => True) x)
    (ops : List (RadioStep β δ)) :
    (run (radioStep blobs) x ops).wireless =
      run wirelessStep x.wireless (ops.filterMap (·.wireless)) := by
  induction ops generalizing x with
  | nil => rfl
  | cons op ops ih =>
    have hnext := holds_step (synced_everywhere blobs) (fun _ _ _ hr => hr) (fun _ _ _ hr => hr)
      hx op
    have hstep := wireless_radioStep blobs hx op
    refine (ih hnext).trans ?_
    rw [hstep]
    cases hop : op.wireless with
    | none => rw [List.filterMap_cons_none hop, Option.elim_none]
    | some step =>
      rw [List.filterMap_cons_some hop, Option.elim_some]
      rfl

/-- Whatever scripts report and whichever interfaces come and go, links, data and the
configurations of scripts leave the life of the device as it is without them. -/
theorem radio_refines_device (present : String → Bool) (ops : List (RadioStep β δ)) :
    (run (radioStep blobs) { present } ops).wireless =
      run wirelessStep {} (ops.filterMap (·.wireless)) :=
  wireless_run blobs (synced_start present) ops

end Keeping

end Netifd.WirelessRadio
