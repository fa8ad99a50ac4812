import Netifd.ShellWakeup

/-!
# An interface that is down

When the interface of a shell protocol goes down its layer 3 device is released and the settings
of the protocol are flushed, and the protocol is told to end its task. A helper may still send
messages after that, which the handler takes once it is idle. Unless one of them acquires
something while the interface is down, nothing is held then.
-/

namespace Netifd.DownInterface
open ReentrantProgram ReentrantProgram.Prog

/-- Nothing is held: the layer 3 device is not claimed, and the protocol has set nothing. -/
abbrev Bare (s : LiveInterface) : Prop := (s.users .l3).claimed = false ∧ s.protoIp = {}

theorem Bare.released {s : LiveInterface} (h : Bare s) : (s.users .l3).claimed = false := h.1

theorem Bare.empty {s : LiveInterface} (h : Bare s) : s.protoIp = {} := h.2

/-- No task of the protocol runs while its handler is idle. -/
def Taskless (s : LiveInterface) : Prop :=
  ∀ st, s.shell = some st → st.sm = .idle → st.protoTask = false

/-- The handler is busy with a setup or a teardown. -/
def Busy (s : LiveInterface) : Prop := ∀ st, s.shell = some st → st.sm ≠ .idle

theorem Busy.taskless {s : LiveInterface} (h : Busy s) : Taskless s :=
  fun st hst hidle => absurd hidle (h st hst)

/-- Which parts of the invariant hold at some place. That on tasks does not while a lost link is
handled. From the time the settings are flushed nothing is held in any state; during a reload the
record names a shell protocol. While the device is being claimed the claim stands, even if it fails
in the end. -/
structure Mode where
  tasks : Bool
  bare : Bool
  shell : Bool
  claiming : Bool := false

/-- An interface of a shell protocol holds nothing while it is down. -/
structure Holds (k : Mode) (s : LiveInterface) : Prop where
  later : ∀ proto, s.proto = some proto →
    proto.handler.immediate = false ∧ (proto.cb = .shell ∨ proto.cb = .invalid)
  conf : k.shell = true ∨ s.configState = .reload → s.conf.protoHandler.immediate = false
  attached : (s.users .l3).claimed = true → (s.users .l3).dev ≠ none
  released : k.claiming = false → s.state = .down → (s.users .l3).claimed = false
  empty : s.state = .down → s.protoIp = {}
  tasks : k.tasks = true → s.state = .down → Taskless s
  bare : k.bare = true → Bare s

/-- Between calls. -/
abbrev between : Mode := { tasks := true, bare := false, shell := false }

/-- The same at a place where nothing is held. -/
abbrev Mode.emptied (k : Mode) : Mode := { k with bare := true }

/-- What a call finds when it is made. Those of devices may come at any place. -/
def admits : InterfaceCall → Mode → LiveInterface → Prop
  | .mainDevEvent _, _, _ | .l3DevEvent _, _, _ | .extDevEvent _, _, _ => True
  | .protoEvent .up, k, s => k = between ∧ s.state ≠ .down
  | .protoEvent .down, k, s => k = between ∧ Taskless s
  | .setConfigState state, k, _ => k.tasks = true ∧ k.claiming = false ∧ state = .remove
  | .reload new, k, _ | .addDynamic new, k, _ => k = between ∧ new.protoHandler.immediate = false
  | _, k, _ => k = between

/-- The invariant is kept, and an interface that is not down is not when UP has come. -/
def downSpec : Spec LiveInterface InterfaceCall := fun p s _ t =>
  ∀ k, admits p k s → Holds k s → Holds k t ∧ (p = .protoEvent .up → t.state ≠ .down)

variable {g : RunGuards} {k : Mode} {s t : LiveInterface}

theorem Holds.congr (h : Holds k s) (hproto : t.proto = s.proto)
    (hconf : t.conf.protoHandler = s.conf.protoHandler) (hconfig : t.configState = s.configState)
    (hl3 : t.users .l3 = s.users .l3) (hstate : t.state = s.state)
    (hip : t.protoIp = s.protoIp) : Holds k t := by
  have hshell : t.shell = s.shell := by rw [LiveInterface.shell, hproto]; rfl
  have hbare : Bare s → Bare t := fun hs => ⟨hl3 ▸ hs.released, hip ▸ hs.empty⟩
  exact ⟨hproto ▸ h.later, hconf ▸ hconfig ▸ h.conf, hl3 ▸ h.attached,
    fun hk hdown => hl3 ▸ h.released hk (hstate ▸ hdown),
    fun hdown => hip ▸ h.empty (hstate ▸ hdown),
    fun hk hdown st hst => h.tasks hk (hstate ▸ hdown) st (hshell.symm.trans hst),
    fun hk => hbare (h.bare hk)⟩

theorem Holds.emptied (h : Holds k s) (hs : Bare s) : Holds k.emptied s :=
  ⟨h.later, h.conf, h.attached, h.released, h.empty, h.tasks, fun _ => hs⟩

theorem Holds.unempty (h : Holds k.emptied s) : Holds k s :=
  ⟨h.later, h.conf, h.attached, h.released, h.empty, h.tasks, fun _ => h.bare rfl⟩

theorem Holds.down (h : Holds k s) (hk : k.claiming = false) (hdown : s.state = .down) : Bare s :=
  ⟨h.released hk hdown, h.empty hdown⟩

theorem Holds.move (h : Holds k s) {state : InterfaceState} (hstate : state ≠ .down) :
    Holds k { s with state } :=
  ⟨h.later, h.conf, h.attached, fun _ hdown => absurd hdown hstate,
    fun hdown => absurd hdown hstate, fun _ hdown => absurd hdown hstate, h.bare⟩

theorem holds_of_coreIp (heq : t.coreIp = s.coreIp) (h : Holds k s) : Holds k t := by
  simp only [LiveInterface.coreIp, LiveInterface.core, Prod.mk.injEq] at heq
  obtain ⟨⟨-, -, hconf, hstate, hconfig, -, hproto, -⟩, hl3, hip⟩ := heq
  have hhandler := congrArg Interface.protoHandler hconf
  exact h.congr hproto hhandler hconfig hl3 hstate hip

abbrev KeepsDown (k : Mode) {α : Type} (x : InterfaceProg α) : Prop :=
  Preserves downSpec (Holds k) x

theorem deviceCallbacks_keepsDown : KeepsDown k deviceCallbacks := by
  apply Preserves.callbacks
  intro p s r t hp hspec hs
  cases p <;> first | exact (hspec k trivial hs).1 | cases hp

theorem modify_keepsDown {f : LiveInterface → LiveInterface} (hf : ∀ s, (f s).coreIp = s.coreIp) :
    KeepsDown k (modify f) := Preserves.modify fun s hs => holds_of_coreIp (hf s) hs

theorem mapUser_holds {slot : DeviceSlot} (hslot : slot ≠ .l3) (s : LiveInterface)
    (f : DeviceUser → DeviceUser) (hs : Holds k s) : Holds k (s.mapUser slot f) :=
  hs.congr rfl rfl rfl (if_neg (Ne.symm hslot)) rfl rfl

theorem Holds.release (h : Holds k s) (hip : s.protoIp = {}) {f : DeviceUser → DeviceUser}
    (hf : ∀ u, (f u).claimed = false) : Holds k.emptied (s.mapUser .l3 f) := by
  have hbare : Bare (s.mapUser .l3 f) := ⟨by simp [LiveInterface.mapUser, hf], hip⟩
  refine ⟨h.later, h.conf, fun hclaimed => ?_, fun _ _ => hbare.released, fun _ => hbare.empty,
    h.tasks, fun _ => hbare⟩
  simp [hbare.released] at hclaimed

theorem releaseL3_keepsDown : KeepsDown k (releaseAttached .l3) := by
  refine Preserves.after_read fun s => Preserves.ite (fun _ => Preserves.pure _) fun _ => ?_
  refine Preserves.after_read fun s => Preserves.ite (fun _ => ?_) fun _ => Preserves.pure _
  refine Preserves.bind (Preserves.modify fun s hs => ?_) fun _ => deviceCallbacks_keepsDown
  have hreleased : ((s.mapUser .l3 fun u => { u with claimed := false }).users .l3).claimed =
      false := by simp [LiveInterface.mapUser]
  refine ⟨hs.later, hs.conf, fun hclaimed => ?_, fun _ _ => hreleased, hs.empty, hs.tasks,
    fun hk => ⟨hreleased, (hs.bare hk).empty⟩⟩
  simp [hreleased] at hclaimed

theorem Holds.claiming (h : Holds k s) : Holds { k with claiming := true } s :=
  ⟨h.later, h.conf, h.attached, by simp, h.empty, h.tasks, h.bare⟩

theorem claimDevice_wp (hs : Holds k s) (hk : k.bare = false) :
    wp downSpec (claimDevice .l3)
      (fun ret t => Holds { k with claiming := true } t ∧ (ret < 0 → Holds k t)) s := by
  simp only [claimDevice, wp_bind, wp_read, wp_ite, wp_pure, wp_modify]
  refine ⟨fun _ => ⟨hs.claiming, by simp⟩, fun _ => ⟨fun _ => ⟨hs.claiming, fun _ => hs⟩, ?_⟩⟩
  intro hdev
  have hclaimed : Holds { k with claiming := true }
      (s.mapUser .l3 fun u => { u with claimed := true }) := by
    refine ⟨hs.later, hs.conf, fun _ => ?_, by simp, hs.empty, hs.tasks, fun h => ?_⟩
    · simpa [LiveInterface.mapUser] using hdev
    · simp [hk] at h
  refine deviceCallbacks_keepsDown.ends hclaimed fun _ t ht => ?_
  simp only [wp_bind, wp_ask, wp_ite, wp_pure, wp_modify]
  refine fun n => ⟨fun _ => ⟨ht, by simp⟩, fun _ => ?_⟩
  have hreleased : ((t.mapUser .l3 fun u => { u with claimed := false }).users .l3).claimed =
      false := by simp [LiveInterface.mapUser]
  have hfailed : Holds k (t.mapUser .l3 fun u => { u with claimed := false }) := by
    refine ⟨ht.later, ht.conf, fun h => ?_, fun _ _ => hreleased, ht.empty, ht.tasks, fun h => ?_⟩
    · simp [hreleased] at h
    · simp [hk] at h
  exact ⟨hfailed.claiming, fun _ => hfailed⟩

theorem claimL3Dev_keepsDown (hg : g.acquiring = true) (hk : k.bare = false) :
    KeepsDown k (claimL3Dev g) := by
  intro s hs
  rw [claimL3Dev, wp_bind]
  refine wp_mono _ (fun ret t ht => ?_) (claimDevice_wp hs hk)
  obtain ⟨ht, hfailed⟩ := ht
  simp only [wp_bind, wp_read, wp_require, wp_pure, hg, Bool.not_true, Bool.false_or,
    Bool.or_eq_true, decide_eq_true_eq, bne_iff_ne, ne_eq]
  rintro (hret | hstate)
  · exact hfailed hret
  · exact ⟨ht.later, ht.conf, ht.attached, fun _ hdown => absurd hdown hstate, ht.empty, ht.tasks,
      ht.bare⟩

/-- The layer 3 device is given up. -/
theorem removeL3_wp (hs : Holds k s) (hip : s.protoIp = {}) :
    wp downSpec (removeDevice .l3) (fun _ t => Holds k.emptied t) s := by
  have hleft : ∀ t, Holds k.emptied t → wp downSpec (do
      modify fun s => s.mapUser .l3 fun u => { u with dev := none }
      deviceCallbacks) (fun _ t => Holds k.emptied t) t := by
    intro t ht
    have hbare := ht.bare rfl
    rw [wp_bind, wp_modify]
    apply deviceCallbacks_keepsDown
    have hbare' : Bare (t.mapUser .l3 fun u => { u with dev := none }) :=
      ⟨by simpa [LiveInterface.mapUser] using hbare.released, hbare.empty⟩
    refine ⟨ht.later, ht.conf, fun h => ?_, fun _ _ => hbare'.released, fun _ => hbare'.empty,
      ht.tasks, fun _ => hbare'⟩
    simp [hbare'.released] at h
  simp only [removeDevice, releaseDevice, wp_bind, wp_read, wp_ite, wp_pure, wp_modify]
  simp only [wp_bind, wp_modify] at hleft
  refine ⟨fun hdev => ?_, fun _ => ⟨fun _ => ?_, fun hclaimed => hleft _ ?_⟩⟩
  · refine hs.emptied ⟨?_, hip⟩
    by_contra h
    exact hs.attached (by simpa using h) hdev
  · refine deviceCallbacks_keepsDown.ends (I := Holds k.emptied) ?_ fun _ t ht => hleft t ht
    have hplug : Holds k (s.mapUser .l3 fun u => { u with hotplug := false }) := by
      refine ⟨hs.later, hs.conf, ?_, fun hk hdown => ?_, hs.empty, hs.tasks, fun hk => ?_⟩
      · simpa [LiveInterface.mapUser] using hs.attached
      · simpa [LiveInterface.mapUser] using hs.released hk hdown
      · exact ⟨by simpa [LiveInterface.mapUser] using (hs.bare hk).released, hip⟩
    exact hplug.release hip fun _ => rfl
  · have hreleased : (s.users .l3).claimed = false := by
      simpa [LiveInterface.mapUser] using hclaimed
    have hbare : Bare (s.mapUser .l3 fun u => { u with hotplug := false }) :=
      ⟨by simpa [LiveInterface.mapUser] using hreleased, hip⟩
    refine ⟨hs.later, hs.conf, fun h => ?_, fun _ _ => hbare.released, fun _ => hbare.empty,
      hs.tasks, fun _ => hbare⟩
    simp [hbare.released] at h

theorem Holds.flush (h : Holds k s) : Holds k
    { s with configIpEnabled := false, protoIpEnabled := false, protoIp := {} } := by
  exact ⟨h.later, h.conf, h.attached, h.released, fun _ => rfl, h.tasks,
    fun hk => ⟨(h.bare hk).released, rfl⟩⟩

theorem interfaceSetL3Dev_keepsDown (hg : g.acquiring = true) (dev : Option ℕ) :
    KeepsDown k (interfaceSetL3Dev g dev) := by
  refine Preserves.read_bind fun s hs => ?_
  have henable : ∀ config proto, KeepsDown k (enableIp config proto) := fun _ _ =>
    modify_keepsDown fun _ => rfl
  by_cases hsame : (s.users .l3).dev = dev
  · rw [if_pos hsame]
    exact hs
  rw [if_neg hsame]
  simp only [wp_bind, wp_modify, addDevice, wp_read]
  rw [if_neg hsame, wp_bind]
  refine wp_mono _ (fun _ t ht => ?_) (removeL3_wp hs.flush rfl)
  cases dev with
  | none =>
    simp only [wp_pure, if_true]
    exact ht.unempty
  | some d =>
    have hadded : Holds k (t.mapUser .l3 fun u => { u with dev := some d }) := by
      have hbare : Bare (t.mapUser .l3 fun u => { u with dev := some d }) :=
        ⟨by simpa [LiveInterface.mapUser] using (ht.bare rfl).released, (ht.bare rfl).empty⟩
      refine ⟨ht.later, ht.conf, fun _ => ?_, fun _ _ => hbare.released, fun _ => hbare.empty,
        ht.tasks, fun _ => hbare⟩
      simp [LiveInterface.mapUser]
    simp only [wp_bind, wp_modify, greetings, wp_pure, reduceCtorEq, if_false]
    split_ifs with hclaimed
    · have hk : k.bare = false := by
        by_contra h
        simp [(hs.bare (by simpa using h)).released] at hclaimed
      refine (claimL3Dev_keepsDown hg hk).followed hadded fun ret u hu => ?_
      simp only [wp_ite, wp_pure]
      exact ⟨fun _ => hu, fun _ => henable _ _ u hu⟩
    · exact henable _ _ _ hadded

theorem down_deviceSteps (hg : g.acquiring = true) : DeviceSteps g downSpec (Holds k) where
  quiet := holds_of_coreIp
  callbacks := deviceCallbacks_keepsDown
  releaseL3 := releaseL3_keepsDown
  claimL3 hs hclaimed := claimL3Dev_keepsDown hg (by
    by_contra h
    simp [(hs.bare (by simpa using h)).released] at hclaimed)
  setL3 := interfaceSetL3Dev_keepsDown hg

theorem Holds.setShell (h : Holds k s) {f : ProtoShellState → ProtoShellState}
    (hf : k.tasks = true → s.state = .down → ∀ st, s.shell = some st → (f st).sm = .idle →
      (f st).protoTask = false) :
    Holds k { s with proto := s.proto.map fun proto => { proto with shell := f proto.shell } } := by
  refine ⟨fun proto hproto => ?_, h.conf, h.attached, h.released, h.empty,
    fun hk hdown st hst => ?_, h.bare⟩
  · obtain ⟨old, hold, rfl⟩ := Option.map_eq_some_iff.mp hproto
    exact h.later old hold
  · rw [shell_setShell] at hst
    obtain ⟨old, hold, rfl⟩ := Option.map_eq_some_iff.mp hst
    exact hf hk hdown old hold

theorem setShell_keepsDown {f : ProtoShellState → ProtoShellState} (hsm : ∀ st, (f st).sm = st.sm)
    (htask : ∀ st, (f st).protoTask = true → st.protoTask = true) : KeepsDown k (setShell f) := by
  refine Preserves.modify fun s hs => hs.setShell fun hk hdown st hst hidle => ?_
  have hnone := hs.tasks hk hdown st hst (hsm st ▸ hidle)
  by_contra htrue
  simp [htask st (by simpa using htrue)] at hnone

theorem setShell_away {f : ProtoShellState → ProtoShellState} (hs : Holds k s)
    (hstate : s.state ≠ .down) : wp downSpec (setShell f) (fun _ t => Holds k t) s := by
  rw [setShell, wp_modify]
  exact hs.setShell (f := f) fun _ hdown => absurd hdown hstate

theorem protoShellCommand_protoTask (st : ProtoShellState) (cmd : InterfaceProtoCmd) :
    (protoShellCommand st cmd).1.protoTask = st.protoTask := by
  cases cmd <;> simp only [protoShellCommand] <;> split <;> (try split_ifs) <;> rfl

theorem protoShellCommand_sm (st : ProtoShellState) (cmd : InterfaceProtoCmd)
    (hidle : (protoShellCommand st cmd).1.sm = .idle) : cmd = .renew ∧ st.sm = .idle := by
  cases cmd with
  | setup => cases hsm : st.sm <;> simp [protoShellCommand, hsm] at hidle
  | renew =>
    simp only [protoShellCommand] at hidle
    split_ifs at hidle
    all_goals exact ⟨rfl, hidle⟩
  | teardown =>
    cases hsm : st.sm with
    | setup =>
      simp only [protoShellCommand, hsm] at hidle
      split_ifs at hidle
    | idle | setupAbort | teardown => simp [protoShellCommand, hsm] at hidle

/-- What a command to a shell protocol leaves. -/
theorem protoShellHandler_wp (cmd : InterfaceProtoCmd) (hs : Holds k s) :
    wp downSpec (protoShellHandler cmd) (fun _ t => Holds k t ∧ t.state = s.state ∧
      (cmd ≠ .renew → Busy t)) s := by
  simp only [protoShellHandler, wp_bind, wp_read]
  cases hshell : s.shell with
  | none => exact ⟨hs, rfl, fun _ st hst => by simp [hshell] at hst⟩
  | some st =>
    let I : LiveInterface → Prop := fun t =>
      Holds k t ∧ t.state = s.state ∧ (cmd ≠ .renew → Busy t)
    have hset : ∀ b, Preserves downSpec I (setShell fun st => { st with scriptTask := b }) := by
      refine fun b => Preserves.modify fun t ht => ⟨?_, ht.2.1, fun hcmd st' hst' => ?_⟩
      · exact ht.1.setShell (f := fun st => { st with scriptTask := b })
          fun hk hdown st hst hidle => ht.1.tasks hk hdown st hst hidle
      · rw [shell_setShell t fun st => { st with scriptTask := b }] at hst'
        obtain ⟨old, hold, rfl⟩ := Option.map_eq_some_iff.mp hst'
        exact ht.2.2 hcmd old hold
    have hstart : I { s with proto := s.proto.map fun proto =>
        { proto with shell := (protoShellCommand st cmd).1 } } := by
      refine ⟨hs.setShell (f := fun _ => (protoShellCommand st cmd).1)
        fun hk hdown st' hst' hidle => ?_, rfl, fun hcmd st' hst' hidle => ?_⟩
      · rw [protoShellCommand_protoTask]
        exact hs.tasks hk hdown st hshell (protoShellCommand_sm st cmd hidle).2
      · rw [shell_setShell s fun _ => (protoShellCommand st cmd).1, hshell] at hst'
        obtain rfl := Option.some.inj hst'
        exact hcmd (protoShellCommand_sm st cmd hidle).1
    simp only [setShell]
    cases (protoShellCommand st cmd).2 with
    | none =>
      refine Preserves.bind Preserves.ask (fun n => ?_) _ hstart
      obtain _ | _ | n := n
      · exact (hset true).bind fun _ => Preserves.pure _
      · exact (hset false).bind fun _ => Preserves.pure _
      · exact Preserves.pure _
    | some result => exact hstart

theorem interfaceProtoEvent_wp (cmd : InterfaceProtoCmd) (hs : Holds k s) :
    wp downSpec (interfaceProtoEvent g cmd) (fun _ t => Holds k t ∧ t.state = s.state ∧
      (cmd ≠ .renew → Busy t)) s := by
  simp only [interfaceProtoEvent, wp_bind, wp_read]
  cases hproto : s.proto with
  | none => trivial
  | some proto =>
    obtain ⟨himmediate, hcb⟩ := hs.later proto hproto
    simp only [himmediate, or_true, if_true]
    rcases hcb with hcb | hcb
    · simp only [protoCb, hcb]
      rw [wp_bind]
      exact protoShellHandler_wp cmd hs
    · simp only [protoCb, hcb]
      refine ⟨hs, rfl, fun _ st hst => ?_⟩
      simp [LiveInterface.shell, hproto, hcb] at hst

theorem interfaceProtoEvent_keepsDown (cmd : InterfaceProtoCmd) :
    KeepsDown k (interfaceProtoEvent g cmd) :=
  fun _ hs => wp_mono _ (fun _ _ ht => ht.1) (interfaceProtoEvent_wp cmd hs)

theorem interfaceFlushState_wp (h : Holds k { s with state := .setup }) (hip : s.protoIp = {})
    (htasks : k.tasks = true → Taskless s) :
    wp downSpec interfaceFlushState (fun _ t => Holds k.emptied t) s := by
  have hreleased : (s.users .l3).claimed = false → Holds k.emptied s := fun hl3 =>
    ⟨h.later, h.conf, h.attached, fun _ _ => hl3, fun _ => hip, fun hk _ => htasks hk,
      fun _ => ⟨hl3, hip⟩⟩
  simp only [interfaceFlushState, releaseAttached, releaseDevice, wp_bind, wp_read, wp_ite,
    wp_pure, wp_modify, Bool.not_eq_true]
  refine ⟨fun hdev => hreleased ?_, fun _ => ⟨fun _ => ?_, hreleased⟩⟩
  · by_contra hclaimed
    exact h.attached (by simpa using hclaimed) hdev
  · apply deviceCallbacks_keepsDown
    have hbare : Bare (s.mapUser .l3 fun u => { u with claimed := false }) :=
      ⟨by simp [LiveInterface.mapUser], hip⟩
    refine ⟨h.later, h.conf, fun hclaimed => ?_, fun _ _ => hbare.released, fun _ => hbare.empty,
      fun hk _ => htasks hk, fun _ => hbare⟩
    simp [hbare.released] at hclaimed

theorem markInterfaceDown_wp (hs : Holds k s) (hclaiming : s.state = .down → k.claiming = false)
    (htasks : k.tasks = true → s.state ≠ .down → Taskless s) :
    wp downSpec markInterfaceDown (fun _ t => Holds k.emptied t) s := by
  have hmoved : Holds k { s with state := .setup } := hs.move (by simp)
  simp only [markInterfaceDown, wp_bind, wp_read]
  split_ifs with hdown hup
  · exact hs.emptied (hs.down (hclaiming hdown) hdown)
  all_goals
    simp only [interfaceEvent, wp_bind, wp_modify]
    exact interfaceFlushState_wp (hmoved.flush.congr rfl rfl rfl rfl rfl rfl) rfl
      fun hk => htasks hk hdown

theorem markInterfaceDown_busy (hs : Holds k s) (hstate : s.state ≠ .down) (hbusy : Busy s) :
    wp downSpec markInterfaceDown (fun _ t => Holds k t) s :=
  wp_mono _ (fun _ _ ht => ht.unempty)
    (markInterfaceDown_wp hs (fun hdown => absurd hdown hstate) fun _ _ => hbusy.taskless)

theorem interfaceEvent_keepsDown (ev : InterfaceEvent) : KeepsDown k (interfaceEvent ev) :=
  Preserves.modify fun _ hs => hs.congr rfl rfl rfl rfl rfl rfl

theorem interfaceSetDown'_keepsDown (hg : g.acquiring = true) (force : Bool) :
    KeepsDown k (interfaceSetDown' g force) := by
  have hdevice : DeviceSteps g downSpec (Holds k) := down_deviceSteps hg
  have hrest : KeepsDown k (do
      let _ ← interfaceProtoEvent g .teardown
      if force then interfaceFlushState else pure ()) := by
    refine Preserves.bind (interfaceProtoEvent_keepsDown .teardown) fun _ => ?_
    split_ifs
    · exact hdevice.releaseL3
    · exact Preserves.pure _
  have hmove : KeepsDown k (modify fun s => { s with state := .teardown }) :=
    Preserves.modify fun _ hs => hs.move (by simp)
  refine Preserves.after_read fun s => ?_
  cases s.state with
  | down =>
    exact (SlotSteps.of_all (mapUser_holds (by simp)) deviceCallbacks_keepsDown).releaseAttached
  | teardown => exact Preserves.pure _
  | setup => exact Preserves.bind hmove fun _ => hrest
  | up =>
    refine Preserves.bind hmove fun _ => ?_
    exact Preserves.bind (interfaceEvent_keepsDown .down) fun _ => hrest

theorem interfaceSetUp'_keepsDown : KeepsDown k (interfaceSetUp' g) := by
  intro s hs
  rw [interfaceSetUp', wp_bind, wp_modify, wp_bind]
  refine wp_mono _ (fun ret t ht => ?_) (interfaceProtoEvent_wp .setup (hs.move (by simp)))
  obtain ⟨ht, hstate, hbusy⟩ := ht
  simp only [wp_ite, wp_bind, wp_pure]
  exact ⟨fun _ => markInterfaceDown_busy ht (by simp [hstate]) (hbusy (by simp)), fun _ => ht⟩

theorem interfaceCheckState_keepsDown : KeepsDown k (interfaceCheckState g) := by
  have hlost : ∀ s, Holds k s → s.state ≠ .down → wp downSpec (do
      let _ ← interfaceProtoEvent g .teardown
      markInterfaceDown) (fun _ t => Holds k t) s := by
    intro s hs hstate
    rw [wp_bind]
    refine wp_mono _ (fun _ t ht => ?_) (interfaceProtoEvent_wp .teardown hs)
    exact markInterfaceDown_busy ht.1 (ht.2.1 ▸ hstate) (ht.2.2 (by simp))
  refine Preserves.read_bind fun s hs => ?_
  cases hstate : s.state with
  | teardown => exact hs
  | down =>
    refine Preserves.ite (fun _ => ?_) (fun _ => Preserves.pure _) s hs
    exact Preserves.bind interfaceSetUp'_keepsDown fun _ => Preserves.pure _
  | setup | up =>
    simp only [wp_ite, wp_pure]
    exact ⟨fun _ => hlost s hs (by simp [hstate]), fun _ => hs⟩

theorem down_transitions (hg : g.acquiring = true) : Transitions g downSpec (Holds k) where
  toDeviceSteps := down_deviceSteps hg
  emit _ _ := interfaceEvent_keepsDown _
  protoEvent := interfaceProtoEvent_keepsDown
  checkState := interfaceCheckState_keepsDown
  setUp' hs _ _ := interfaceSetUp'_keepsDown _ hs
  setDown' := interfaceSetDown'_keepsDown hg false
  present hs := hs.congr rfl rfl rfl rfl rfl rfl
  withdraw hs := interfaceSetDown'_keepsDown hg true _ (hs.congr rfl rfl rfl rfl rfl rfl)

theorem invoke_linkLost_keepsDown : KeepsDown between (invoke (.protoEvent .linkLost)) :=
  fun _ hs _ _ hspec => (hspec _ rfl hs).1

theorem settle_wp (hs : Holds k s) {st : ProtoShellState} (hshell : s.shell = some st)
    (hproto : st.protoTask = false) :
    wp downSpec (setShell ProtoShellState.settle) (fun _ t => Holds k t ∧ Taskless t) s := by
  rw [setShell, wp_modify]
  refine ⟨hs.setShell fun _ _ st' hst' _ => ?_, fun st' hst' _ => ?_⟩
  · obtain rfl := Option.some.inj (hshell.symm.trans hst')
    exact hproto
  · rw [shell_setShell, hshell] at hst'
    obtain rfl := Option.some.inj hst'
    exact hproto

theorem protoShellHandler_keepsDown (cmd : InterfaceProtoCmd) :
    KeepsDown k (protoShellHandler cmd) :=
  fun _ hs => wp_mono _ (fun _ _ ht => ht.1) (protoShellHandler_wp cmd hs)

theorem protoShellTaskFinish_keepsDown (task : Option ShellTask) :
    KeepsDown between (protoShellTaskFinish task) := by
  apply protoShellTaskFinish_keeps
  · exact fun hf => setShell_keepsDown hf.sm hf.protoTask
  · exact protoShellHandler_keepsDown
  · exact fun hs _ => invoke_linkLost_keepsDown _ hs
  · exact fun hs hshell _ hproto => wp_mono _ (fun _ _ ht => ht.1) (settle_wp hs hshell hproto)
  · intro s st hs hshell _ hproto
    rw [wp_bind]
    refine wp_mono _ (fun _ t ht => ?_) (settle_wp hs hshell hproto)
    obtain ⟨ht, htaskless⟩ := ht
    rw [wp_bind, noteEnd, wp_modify, wp_bind]
    exact fun _ u hspec => (hspec _ ⟨rfl, htaskless⟩ (ht.congr rfl rfl rfl rfl rfl rfl)).1

theorem teardownTimeout_keepsDown : KeepsDown between protoShellTeardownTimeoutCb :=
  Preserves.bind (setShell_keepsDown (fun _ => rfl) (by simp)) fun _ =>
    protoShellTaskFinish_keepsDown none

theorem protoShellLinkUp_keepsDown (hg : g.acquiring = true) (m : NotifyMessage) (keep : Bool) :
    KeepsDown between (protoShellLinkUp g m keep) := by
  refine Preserves.read_bind fun s hs => ?_
  simp only [wp_bind, wp_require, hg, Bool.not_true, Bool.false_or, bne_iff_ne, ne_eq, wp_ask,
    wp_modify, wp_read]
  intro hstate n
  let updated : LiveInterface :=
    { s with updated := n != 0, protoIp := s.protoIp.update keep m.ip }
  have hupdated : Holds between updated :=
    ⟨hs.later, hs.conf, hs.attached, fun _ hdown => absurd hdown hstate,
      fun hdown => absurd hdown hstate, fun _ hdown => absurd hdown hstate, by simp⟩
  cases hshell : LiveInterface.shell updated with
  | none => exact hupdated
  | some st =>
    simp only [wp_ite, wp_pure, wp_bind, wp_invoke]
    refine ⟨fun _ => hupdated, fun _ _ t hspec => ?_⟩
    obtain ⟨ht, hleft⟩ := hspec between ⟨rfl, hstate⟩ hupdated
    exact setShell_away ht (hleft rfl)

theorem protoShellRunCommand_keepsDown (hg : g.acquiring = true) (m : NotifyMessage) :
    KeepsDown k (protoShellRunCommand g m) := by
  refine Preserves.ite (fun _ => Preserves.pure _) fun _ s hs => ?_
  simp only [wp_bind, wp_ask, wp_read, wp_require, hg, Bool.not_true, Bool.false_or,
    Bool.or_eq_true, bne_iff_ne, ne_eq]
  rintro n (hfailed | hstate)
  · rw [setShell, wp_modify]
    exact hs.setShell (f := fun st => { st with protoTask := n == 0 }) fun _ _ _ _ _ => by
      simpa using hfailed
  · exact setShell_away hs hstate

theorem down_shellSteps (hg : g.acquiring = true) : ShellSteps g downSpec (Holds between) where
  toTransitions := down_transitions hg
  harmless hf := setShell_keepsDown hf.sm hf.protoTask
  handler := protoShellHandler_keepsDown
  linkLost hs _ := invoke_linkLost_keepsDown _ hs
  finish := protoShellTaskFinish_keepsDown
  teardownTimeout := teardownTimeout_keepsDown
  claimLink := claimL3Dev_keepsDown hg rfl
  linkUp := protoShellLinkUp_keepsDown hg
  runCommand := protoShellRunCommand_keepsDown hg

theorem interfaceSetProtoState_keepsDown (hk : k.bare = true) {proto : Option InterfaceProtoState}
    (hlater : ∀ p, proto = some p →
      p.handler.immediate = false ∧ (p.cb = .shell ∨ p.cb = .invalid))
    (htask : ∀ p, proto = some p → p.shell.protoTask = false) :
    KeepsDown k (interfaceSetProtoState g proto) := by
  refine Preserves.after_read fun s => Preserves.bind (Preserves.require _) fun _ => ?_
  refine Preserves.modify fun s hs => ?_
  refine ⟨hlater, hs.conf, hs.attached, fun _ _ => (hs.bare hk).released,
    fun _ => (hs.bare hk).empty, fun _ _ st hst _ => ?_, hs.bare⟩
  cases proto with
  | none => cases hst
  | some p =>
    have hnone := htask p rfl
    simp only [LiveInterface.shell] at hst
    split_ifs at hst
    obtain rfl := Option.some.inj hst
    exact hnone

theorem interfaceCleanupState_keepsDown (hg : g.acquiring = true) (hk : k.bare = true) :
    KeepsDown k (interfaceCleanupState g) := by
  have hsteps : Transitions g downSpec (Holds k) := down_transitions hg
  refine Preserves.bind (hsteps.interfaceSetAvailable_keeps false) fun _ => ?_
  refine Preserves.bind hsteps.releaseL3 fun _ => ?_
  refine Preserves.bind (interfaceSetProtoState_keepsDown hk (by simp) (by simp)) fun _ => ?_
  refine Preserves.bind (hsteps.interfaceSetMainDev_keeps none) fun _ => ?_
  exact hsteps.setL3 none

theorem protoInitInterface_keepsDown (hbare : k.bare = true) (hshell : k.shell = true) :
    KeepsDown k (protoInitInterface g) := by
  refine Preserves.read_bind fun s hs => (wp_bind _ _ _ _ _).mpr fun n => ?_
  have hlater := hs.conf (.inl hshell)
  refine interfaceSetProtoState_keepsDown hbare (fun p hp => ?_) (fun p hp => ?_) s hs
  · obtain rfl := Option.some.inj hp
    refine ⟨hlater, ?_⟩
    cases h : n != 0 <;> simp [protoAttach, attachedCb, hlater]
  · obtain rfl := Option.some.inj hp
    rfl

theorem restartInterface_keepsDown (hg : g.acquiring = true) (hk : k.tasks = true)
    (hclaiming : k.claiming = false) :
    KeepsDown k (restartInterface g) := by
  refine Preserves.after_read fun s => ?_
  split_ifs
  · exact Preserves.bind (down_transitions hg).interfaceSetUp_keeps fun _ => Preserves.pure _
  · refine Preserves.bind (fun t ht _ u hspec => ?_) fun _ => Preserves.pure _
    exact (hspec k ⟨hk, hclaiming, rfl⟩ ht).1
  · exact Preserves.pure _

theorem interfaceDoReload_keepsDown (hg : g.acquiring = true) (hbare : k.bare = true)
    (hshell : k.shell = true) : KeepsDown k (interfaceDoReload g) := by
  refine Preserves.bind (interfaceEvent_keepsDown .reload) fun _ => ?_
  refine Preserves.bind (interfaceCleanupState_keepsDown hg hbare) fun _ => ?_
  refine Preserves.bind (protoInitInterface_keepsDown hbare hshell) fun _ => ?_
  exact (down_transitions hg).interfaceClaimDevice_keeps

theorem interfaceDoFree_keepsDown (hg : g.acquiring = true) (hk : k.bare = true) :
    KeepsDown k (interfaceDoFree g) := by
  refine Preserves.bind (interfaceEvent_keepsDown .free) fun _ => ?_
  have hcleanup : KeepsDown k (interfaceCleanup g) :=
    Preserves.bind (down_transitions hg).removeExt_keeps fun _ =>
      interfaceCleanupState_keepsDown hg hk
  refine Preserves.bind hcleanup fun _ => ?_
  exact Preserves.modify fun s hs => hs.congr rfl rfl rfl rfl rfl rfl

theorem interfaceHandleConfigChange_keepsDown (hg : g.acquiring = true) (htasks : k.tasks = true)
    (hclaiming : k.claiming = false) (hbare : k.bare = true) : KeepsDown k (interfaceHandleConfigChange g) := by
  refine Preserves.read_bind fun s hs => ?_
  rw [wp_bind, wp_modify]
  have hnormal : Holds k { s with configState := .normal } :=
    ⟨hs.later, fun h => hs.conf (h.imp_right (by simp)), hs.attached, hs.released, hs.empty,
      hs.tasks, hs.bare⟩
  cases hconfig : s.configState with
  | normal => exact restartInterface_keepsDown hg htasks hclaiming _ hnormal
  | reload =>
    let named : Mode := { k with shell := true }
    have hnamed : Holds named { s with configState := .normal } :=
      ⟨hs.later, fun _ => hs.conf (.inr hconfig), hs.attached, hs.released, hs.empty, hs.tasks,
        hs.bare⟩
    have hreload : KeepsDown named (interfaceDoReload g) :=
      interfaceDoReload_keepsDown hg hbare rfl
    rw [wp_bind]
    refine wp_mono _ (fun _ t ht => restartInterface_keepsDown hg htasks hclaiming t ?_)
      (hreload _ hnamed)
    exact ⟨ht.later, fun _ => ht.conf (.inl rfl), ht.attached, ht.released, ht.empty, ht.tasks,
      ht.bare⟩
  | remove => exact interfaceDoFree_keepsDown hg hbare _ hnormal

theorem setConfigState_wp (hg : g.acquiring = true) {state : InterfaceConfigState}
    (htasks : k.tasks = true) (hclaiming : k.claiming = false) (hs : Holds k s)
    (hconf : state = .reload → s.conf.protoHandler.immediate = false) :
    wp downSpec (setConfigState g state) (fun _ t => Holds k t) s := by
  have hset : Holds k { s with configState := state } :=
    ⟨hs.later, fun h => h.elim (fun hk => hs.conf (.inl hk)) hconf, hs.attached, hs.released,
      hs.empty, hs.tasks, hs.bare⟩
  simp only [setConfigState, wp_bind, wp_modify, wp_read, wp_ite]
  refine ⟨fun hdown => ?_, fun _ => interfaceSetDown'_keepsDown hg false _ hset⟩
  have hchange : KeepsDown k.emptied (interfaceHandleConfigChange g) :=
    interfaceHandleConfigChange_keepsDown hg htasks hclaiming rfl
  exact wp_mono _ (fun _ _ ht => ht.unempty)
    (hchange _ (hset.emptied (hset.down hclaiming hdown)))

theorem interfaceProtoUp_wp (hg : g.acquiring = true) (hs : Holds k s) (hstate : s.state ≠ .down) :
    wp downSpec (interfaceProtoUp g) (fun _ t => Holds k t ∧ t.state ≠ .down) s := by
  have hup : ∀ t, Holds k t → wp downSpec (do
      modify fun s => { s with configIpEnabled := true, protoIpEnabled := true, state := .up }
      interfaceEvent .up) (fun _ t => Holds k t ∧ t.state ≠ .down) t := by
    intro t ht
    have hmoved : Holds k { t with state := .up } := ht.move (by simp)
    rw [wp_bind, wp_modify, interfaceEvent, wp_modify]
    exact ⟨hmoved.congr rfl rfl rfl rfl rfl rfl, by simp⟩
  simp only [interfaceProtoUp, wp_bind, wp_read, wp_ite, wp_pure]
  refine ⟨fun _ => ⟨fun _ => ?_, fun _ => ⟨hs, hstate⟩⟩, fun _ => ⟨fun _ => ?_, fun _ => ?_⟩⟩
  · rw [interfaceEvent, wp_modify]
    exact ⟨hs.congr rfl rfl rfl rfl rfl rfl, hstate⟩
  · simp only [wp_bind] at hup
    exact wp_mono _ (fun _ t ht => hup t ht) (interfaceSetL3Dev_keepsDown hg _ s hs)
  · simp only [wp_bind] at hup
    exact hup s hs

theorem interfaceProtoDown_wp (hg : g.acquiring = true) (hs : Holds between s)
    (htasks : Taskless s) :
    wp downSpec (interfaceProtoDown g) (fun _ t => Holds between t) s := by
  have hcallbacks : KeepsDown between.emptied deviceCallbacks := deviceCallbacks_keepsDown
  have hchange : KeepsDown between.emptied (interfaceHandleConfigChange g) :=
    interfaceHandleConfigChange_keepsDown hg rfl rfl rfl
  simp only [interfaceProtoDown, wp_bind, wp_read, wp_ite, wp_pure]
  refine ⟨fun _ => hs, fun _ => ?_⟩
  refine wp_mono _ (fun _ t ht => ?_) (markInterfaceDown_wp hs (fun _ => rfl) fun _ _ => htasks)
  have hmain : SlotSteps downSpec (Holds between.emptied) .main :=
    SlotSteps.of_all (mapUser_holds (by simp)) hcallbacks
  refine hmain.releaseAttached.followed ht fun _ u hu => ?_
  rw [wp_bind]
  refine wp_mono _ (fun _ v hv => ?_) (removeL3_wp hu (hu.bare rfl).empty)
  exact wp_mono _ (fun _ w hw => Holds.unempty (k := between) hw) (hchange v hv)

theorem interfaceProtoLinkLost_keepsDown : KeepsDown between (interfaceProtoLinkLost g) := by
  intro s hs
  simp only [interfaceProtoLinkLost, wp_bind, wp_read, wp_ite, wp_pure]
  refine ⟨fun _ => hs, fun _ => ?_⟩
  let lost : Mode := { tasks := false, bare := false, shell := false }
  have hlost : Holds lost s :=
    ⟨hs.later, hs.conf, hs.attached, hs.released, hs.empty, by simp [lost], by simp [lost]⟩
  refine wp_mono _ (fun _ t ht => ?_)
    (markInterfaceDown_wp hlost (fun _ => rfl) (by simp [lost]))
  simp only [wp_bind, wp_read, wp_require, wp_modify]
  exact fun _ => ⟨ht.later, ht.conf, ht.attached, by simp, by simp, by simp, by simp⟩

theorem interfaceReload_keepsDown (hg : g.acquiring = true) {new : Interface}
    (hnew : new.protoHandler.immediate = false) :
    KeepsDown between (interfaceReload g new) := by
  refine Preserves.read_bind fun s hs => ?_
  simp only [wp_bind, wp_require, wp_modify, wp_ite, wp_pure]
  intro _ _
  have hhandler : (interfaceChangeConfig (s.users .main).dev.isSome s.conf new).iface.protoHandler =
      new.protoHandler := by
    obtain ⟨fixedId, -, hiface⟩ :=
      interfaceChangeConfig_iface (s.users .main).dev.isSome s.conf new
    rw [hiface]
    rfl
  have hchanged : Holds between
      { s with conf := (interfaceChangeConfig (s.users .main).dev.isSome s.conf new).iface } :=
    ⟨hs.later, fun _ => hhandler ▸ hnew, hs.attached, hs.released, hs.empty, hs.tasks, hs.bare⟩
  refine ⟨fun _ => ?_, fun _ => ⟨fun _ => hchanged, fun _ => ?_⟩⟩
  · exact setConfigState_wp hg rfl rfl hchanged fun _ => hhandler ▸ hnew
  · exact interfaceCheckState_keepsDown _ hchanged

theorem interfaceCreate_wp (hg : g.acquiring = true) {new : Interface}
    (hnew : new.protoHandler.immediate = false) (s : LiveInterface) :
    wp downSpec (interfaceCreate g new) (fun _ t => Holds between t) s := by
  let fresh : Mode := { tasks := true, bare := true, shell := true }
  have hsteps : Transitions g downSpec (Holds fresh) := down_transitions hg
  have hstart : KeepsDown fresh (do
      protoInitInterface g
      interfaceClaimDevice g) :=
    Preserves.bind (protoInitInterface_keepsDown rfl rfl) fun _ => hsteps.interfaceClaimDevice_keeps
  rw [interfaceCreate, wp_bind, wp_modify]
  refine hstart.ends ⟨by simp, fun _ => hnew, by simp, fun _ _ => rfl, fun _ => rfl,
    fun _ _ _ hst => ?_, fun _ => ⟨rfl, rfl⟩⟩ fun _ t ht => ?_
  · cases hst
  · exact ⟨ht.later, fun _ => ht.conf (.inl rfl), ht.attached, ht.released, ht.empty, ht.tasks,
      by simp⟩

theorem interfaceAdd_keepsDown (hg : g.acquiring = true) {new : Interface}
    (hnew : new.protoHandler.immediate = false) : KeepsDown between (interfaceAdd g new) := by
  have hkept : KeepsDown between (modify fun s => { s with keptOnReload := false }) :=
    Preserves.modify fun _ hs => hs.congr rfl rfl rfl rfl rfl rfl
  refine Preserves.bind hkept fun _ => Preserves.after_read fun s => ?_
  split_ifs
  · exact interfaceReload_keepsDown hg hnew
  · exact fun t _ => interfaceCreate_wp hg hnew t

theorem interfaceFlush_keepsDown (hg : g.acquiring = true) :
    KeepsDown between (interfaceFlush g) := by
  refine Preserves.after_read fun s => ?_
  split_ifs
  · exact fun t ht => setConfigState_wp hg rfl rfl ht (by simp)
  · exact Preserves.pure _

theorem netifdAddDynamic_keepsDown (hg : g.acquiring = true) {new : Interface}
    (hnew : new.protoHandler.immediate = false) :
    KeepsDown between (netifdAddDynamic g new) := by
  refine Preserves.bind (interfaceAdd_keepsDown hg hnew) fun _ => Preserves.after_read fun s => ?_
  split_ifs
  · exact Preserves.modify fun _ hs => hs.congr rfl rfl rfl rfl rfl rfl
  · exact Preserves.pure _

theorem interfaceProtoEventCb_wp (hg : g.acquiring = true) (ev : InterfaceProtoEvent)
    (hadmits : admits (.protoEvent ev) k s) (hs : Holds k s) :
    wp downSpec (interfaceProtoEventCb g ev)
      (fun _ t => Holds k t ∧ (ev = .up → t.state ≠ .down)) s := by
  cases ev with
  | up =>
    exact wp_mono _ (fun _ _ ht => ⟨ht.1, fun _ => ht.2⟩)
      (interfaceProtoUp_wp hg hs hadmits.2)
  | down =>
    obtain ⟨rfl, htasks⟩ := hadmits
    exact wp_mono _ (fun _ _ ht => ⟨ht, by simp⟩) (interfaceProtoDown_wp hg hs htasks)
  | linkLost =>
    obtain rfl : k = between := hadmits
    exact wp_mono _ (fun _ _ ht => ⟨ht, by simp⟩) (interfaceProtoLinkLost_keepsDown s hs)
  | renew => exact ⟨hs, by simp⟩

/-- Every call that is admitted keeps the invariant. -/
theorem interfaceBody_wp (hg : g.acquiring = true) (p : InterfaceCall) (hadmits : admits p k s)
    (hs : Holds k s) (hp : ∀ ev, p ≠ .protoEvent ev) :
    wp downSpec (interfaceBody g p) (fun _ t => Holds k t) s := by
  have htransitions : Transitions g downSpec (Holds k) := down_transitions hg
  have hsteps : ShellSteps g downSpec (Holds between) := down_shellSteps hg
  have hthen : ∀ {l : Mode} {x : InterfaceProg Unit}, KeepsDown l x →
      KeepsDown l (do x; pure (0 : ℤ)) := fun hx => Preserves.bind hx fun _ => Preserves.pure _
  have hwanted : ∀ wanted, KeepsDown between (modify fun s => { s with wanted }) := fun _ =>
    Preserves.modify fun _ hs => hs.congr rfl rfl rfl rfl rfl rfl
  cases p with
  | mainDevEvent ev =>
    exact toDeviceUser_keeps .main (htransitions.interfaceMainDevCb_keeps ev) s hs
  | l3DevEvent ev => exact toDeviceUser_keeps .l3 (htransitions.interfaceL3DevCb_keeps ev) s hs
  | extDevEvent ev => exact toDeviceUser_keeps .ext (htransitions.interfaceExtDevCb_keeps ev) s hs
  | protoEvent ev => exact absurd rfl (hp ev)
  | setConfigState state =>
    obtain ⟨htasks, hclaiming, rfl⟩ := hadmits
    rw [interfaceBody, wp_bind]
    exact setConfigState_wp hg htasks hclaiming hs (by simp)
  | reload new =>
    obtain ⟨rfl, hnew⟩ := hadmits
    exact Preserves.bind (hwanted _) (fun _ => hthen (interfaceAdd_keepsDown hg hnew)) s hs
  | addDynamic new =>
    obtain ⟨rfl, hnew⟩ := hadmits
    exact hthen (netifdAddDynamic_keepsDown hg hnew) s hs
  | reloadWithout =>
    obtain rfl : k = between := hadmits
    exact Preserves.bind (hwanted _) (fun _ => hthen (interfaceFlush_keepsDown hg)) s hs
  | remove =>
    obtain rfl : k = between := hadmits
    rw [interfaceBody, wp_bind]
    exact setConfigState_wp hg rfl rfl hs (by simp)
  | parentEvent ev dev =>
    obtain rfl : k = between := hadmits
    exact hthen (hsteps.interfaceAliasCb_keeps ev dev) s hs
  | addLink dev linkExt =>
    obtain rfl : k = between := hadmits
    exact hthen (Preserves.bind deviceCallbacks_keepsDown fun _ =>
      hsteps.interfaceAddLink_keeps dev linkExt) s hs
  | removeLink dev =>
    obtain rfl : k = between := hadmits
    exact hthen (hsteps.interfaceRemoveLink_keeps dev) s hs
  | setUp =>
    obtain rfl : k = between := hadmits
    exact hsteps.interfaceSetUp_keeps s hs
  | setDown =>
    obtain rfl : k = between := hadmits
    exact hthen hsteps.interfaceSetDown_keeps s hs
  | startPending =>
    obtain rfl : k = between := hadmits
    exact hthen hsteps.interfaceStartPending_keeps s hs
  | setConfigInit configInit => exact hs.congr rfl rfl rfl rfl rfl rfl
  | notify m =>
    obtain rfl : k = between := hadmits
    exact hsteps.protoShellNotify_keeps m s hs
  | scriptExit =>
    obtain rfl : k = between := hadmits
    exact hthen hsteps.protoShellScriptCb_keeps s hs
  | taskExit status =>
    obtain rfl : k = between := hadmits
    exact hthen (hsteps.protoShellTaskCb_keeps status) s hs
  | teardownTimeout =>
    obtain rfl : k = between := hadmits
    exact hthen hsteps.teardownTimeout s hs
  | checkupTimeout =>
    obtain rfl : k = between := hadmits
    exact hthen hsteps.protoShellCheckupTimeoutCb_keeps s hs
  | dependencyUp i =>
    obtain rfl : k = between := hadmits
    exact hthen (hsteps.protoShellUpdateHostDep_keeps i) s hs
  | dependencyDown i =>
    obtain rfl : k = between := hadmits
    exact hthen (hsteps.protoShellIfDownCb_keeps i) s hs

theorem interfaceBody_down (hg : g.acquiring = true) : Verified (interfaceBody g) downSpec := by
  intro p s
  refine wp_forall _ fun k => wp_imp _ fun hadmits => wp_imp _ fun hs => ?_
  by_cases hp : ∃ ev, p = .protoEvent ev
  · obtain ⟨ev, rfl⟩ := hp
    rw [interfaceBody, wp_bind]
    refine wp_mono _ (fun _ t ht => ⟨ht.1, fun hup => ht.2 ?_⟩)
      (interfaceProtoEventCb_wp hg ev hadmits hs)
    simpa using hup
  · refine wp_mono _ (fun _ t ht => ⟨ht, fun hup => absurd ⟨_, hup⟩ hp⟩)
      (interfaceBody_wp hg p hadmits hs fun ev hev => hp ⟨ev, hev⟩)

/-- The calls into an interface of a shell protocol: its handler alone makes events of the
protocol, and every configuration names a handler that answers later. -/
def shellCallable (call : InterfaceCall) (s : LiveInterface) : Bool :=
  interfaceCallable call s &&
    match call with
    | .protoEvent _ => false
    | .reload new | .addDynamic new => !new.protoHandler.immediate
    | _ => true

theorem admits_of_shellCallable {p : InterfaceCall} (h : shellCallable p s = true) :
    admits p between s := by
  cases p with
  | protoEvent ev => simp [shellCallable] at h
  | setConfigState state => simp [shellCallable, interfaceCallable] at h
  | reload new | addDynamic new => exact ⟨rfl, by simpa [shellCallable, interfaceCallable] using h⟩
  | mainDevEvent ev | l3DevEvent ev | extDevEvent ev => trivial
  | _ => rfl

theorem noInterface_holds : Holds between noInterface := by
  refine ⟨by simp [noInterface], by simp [noInterface], by simp [noInterface],
    fun _ _ => rfl, fun _ => rfl, fun _ _ st hst => ?_, by simp⟩
  cases hst

/-- In a run in which nothing is acquired while the interface is down, an interface of a shell
protocol that is down holds nothing, and no task of its handler runs once that is idle. -/
theorem down_bare_of_run
    (h : Reachable (interfaceBody { acquiring := true }) shellCallable noInterface t)
    (hdown : t.state = .down) :
    ((t.users .l3).claimed = false ∧ t.protoIp = {}) ∧
      ∀ st, t.shell = some st → st.sm = .idle → st.protoTask = false := by
  have hholds : Holds between t :=
    Reachable.invariant (interfaceBody_down rfl)
      (fun _ _ _ _ hcall hspec hs => (hspec _ (admits_of_shellCallable hcall) hs).1)
      h noInterface_holds
  exact ⟨hholds.down rfl hdown, hholds.tasks rfl hdown⟩

/-- A helper reports a link with an address. -/
def linkMessage : NotifyMessage := { action := some 0, linkUp := some true, ip := { addr := [1] } }

/-- A helper has a command run. -/
def commandMessage : NotifyMessage := { action := some 1, command := some true }

/-- `wan` comes up with its task, is set down, and both the script and the task end. -/
def wanLeft : List (InterfaceCall × List (Choice InterfaceCall)) :=
  [(.reload dhcpInterface, dhcpChoices), (.notify commandMessage, [.pick 0]),
    (.notify linkMessage, [.resume, .pick 0, .resume, .pick 0]), (.scriptExit, []),
    (.setDown, [.pick 0]), (.scriptExit, []), (.taskExit 0, [.resume, .resume, .resume])]

/-- It holds nothing then, and its handler is idle. -/
theorem down_bare_of_run_wan : ∃ t,
    Reachable (interfaceBody { acquiring := true }) shellCallable noInterface t ∧
      t.state = .down ∧ t.shell.map (·.sm) = some .idle ∧
        (t.users .l3).claimed = false ∧ t.protoIp = {} := by
  obtain ⟨t, ht, hdown, hidle⟩ := exists_reachable (interfaceBody { acquiring := true })
    shellCallable noInterface (fun t => t.state = .down ∧ t.shell.map (·.sm) = some .idle) 200
    wanLeft (by decide)
  obtain ⟨⟨hreleased, hempty⟩, -⟩ := down_bare_of_run ht hdown
  exact ⟨t, ht, hdown, hidle, hreleased, hempty⟩

/-- The helper of `wan` was slow. It reports its link once more when `wan` is down: the device is
claimed and the address set. It has its command run too, while the handler is idle. -/
theorem down_not_bare : ¬∀ t, Reachable (interfaceBody {}) shellCallable noInterface t →
    t.state = .down → ((t.users .l3).claimed = false ∧ t.protoIp = {}) ∧
      ∀ st, t.shell = some st → st.sm = .idle → st.protoTask = false := by
  intro h
  obtain ⟨t, ht, hdown, hclaimed, -, -⟩ := exists_reachable (interfaceBody {}) shellCallable
    noInterface (fun t => t.state = .down ∧ (t.users .l3).claimed = true ∧
      t.protoIp = { addr := [1] } ∧
        t.shell.map (fun st => (st.sm, st.protoTask)) = some (.idle, true)) 200
    (wanLeft ++ [(.notify linkMessage, [.resume, .pick 0, .resume, .pick 0]),
      (.notify commandMessage, [.pick 0])]) (by decide)
  have hreleased := (h t ht hdown).1.1
  simp [hclaimed] at hreleased

end Netifd.DownInterface
