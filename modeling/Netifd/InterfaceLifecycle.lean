import Netifd.InterfaceInvariants

/-!
# The life of an interface

What holds of an interface between calls, and at every place where events of its devices may
come in: UP and DOWN are told in turn, it is up just as it was told, it is set up or up only
while it is available, and a pending reload or removal waits for a teardown. Two functions
overwrite the state without a look at it; the first two facts rest on their not doing so in a
state that they do not expect.
-/

namespace Netifd
open ReentrantProgram ReentrantProgram.Prog

/-- The events UP and DOWN among those told. -/
def upDowns (l : List InterfaceEvent) : List InterfaceEvent :=
  l.filter fun ev => ev == .up || ev == .down

/-- UP and DOWN in turn, of which UP was first; the list has the latest in front. -/
def Alternates : List InterfaceEvent → Prop
  | [] => True
  | [ev] => ev = .up
  | ev :: ev' :: l => ev ≠ ev' ∧ Alternates (ev' :: l)

/-- The listeners know whether the interface is up. -/
structure Told (s : LiveInterface) : Prop where
  alternate : Alternates (upDowns s.emitted)
  up : s.state = .up ↔ (upDowns s.emitted).head? = some .up

/-- A protocol that works is immediate unless it is a shell protocol. -/
def InterfaceProtoState.Coherent (proto : InterfaceProtoState) : Prop :=
  proto.cb ≠ .invalid → (proto.handler.immediate = true ↔ proto.cb ≠ .shell)

/-- What is known of the protocol and of pending changes while other calls are under way. -/
inductive ProtoMode
  | any
  | immediate
  | shell

def ProtoMode.Holds : ProtoMode → LiveInterface → Prop
  | .any, _ => True
  | .immediate, s => s.configState ≠ .reload ∧ s.isShell = false
  | .shell, s => s.configState = .normal ∧ s.isShell = true

theorem ProtoMode.Holds.congr {mode : ProtoMode} {s t : LiveInterface} (h : mode.Holds s)
    (hconfig : t.configState = s.configState) (hproto : t.proto = s.proto) : mode.Holds t := by
  have hshell : t.isShell = s.isShell := by rw [LiveInterface.isShell, hproto]; rfl
  revert h
  cases mode <;> simp [ProtoMode.Holds, hconfig, hshell]

/-- Which parts of the invariant hold at some place: between `IFPEV_DOWN` and the handling of
the pending change, that change does not wait for a teardown. -/
structure Kept where
  pending : Bool
  mode : ProtoMode

/-- The part of the invariant that holds at every moment. -/
structure Sound (g : RunGuards) (s : LiveInterface) : Prop where
  told : g.overwriting = true → Told s
  coherent : ∀ proto, s.proto = some proto → proto.Coherent

/-- The part of the invariant that a loss of the device does not touch. -/
structure Steady (g : RunGuards) (k : Kept) (s : LiveInterface) : Prop extends Sound g s where
  attached : s.state ≠ .down → ∃ proto, s.proto = some proto ∧ proto.cb ≠ .invalid
  torn : s.state = .teardown → s.isShell = true
  pending : k.pending = true → s.configState ≠ .normal → s.state = .teardown
  mode : k.mode.Holds s

/-- The invariant of an interface. -/
structure Lifecycle (g : RunGuards) (k : Kept) (s : LiveInterface) : Prop extends
    Steady g k s where
  available : g.overwriting = true → s.state = .setup ∨ s.state = .up → s.available = true

/-- The parts of an interface that the invariant speaks of. -/
def LiveInterface.view (s : LiveInterface) :=
  (s.state, s.configState, s.available, s.proto, s.emitted)

variable {g : RunGuards} {k : Kept} {s t : LiveInterface}

theorem Lifecycle.congr (h : Lifecycle g k s) (heq : t.view = s.view) : Lifecycle g k t := by
  simp only [LiveInterface.view, Prod.mk.injEq] at heq
  obtain ⟨hstate, hconfig, havailable, hproto, hemitted⟩ := heq
  have hshell : t.isShell = s.isShell := by rw [LiveInterface.isShell, hproto]; rfl
  constructor
  · constructor
    · constructor
      · intro hg
        have htold := h.told hg
        exact ⟨hemitted ▸ htold.alternate, by rw [hstate, hemitted]; exact htold.up⟩
      · rw [hproto]
        exact h.coherent
    · rw [hstate, hproto]
      exact h.attached
    · rw [hstate, hshell]
      exact h.torn
    · rw [hstate, hconfig]
      exact h.pending
    · exact h.mode.congr hconfig hproto
  · rw [hstate, havailable]
    exact h.available

theorem Told.emitUp (h : Told s) (hup : s.state ≠ .up) :
    Alternates (upDowns (.up :: s.emitted)) := by
  have hhead : (upDowns s.emitted).head? ≠ some .up := fun h' => hup (h.up.mpr h')
  have halternate := h.alternate
  have hcons : upDowns (.up :: s.emitted) = .up :: upDowns s.emitted := rfl
  rw [hcons]
  cases htail : upDowns s.emitted with
  | nil => rfl
  | cons ev l =>
    rw [htail] at hhead halternate
    refine ⟨?_, halternate⟩
    rintro rfl
    exact hhead rfl

theorem Told.emitDown (h : Told s) (hup : s.state = .up) :
    Alternates (upDowns (.down :: s.emitted)) := by
  have hhead := h.up.mp hup
  have halternate := h.alternate
  have hcons : upDowns (.down :: s.emitted) = .down :: upDowns s.emitted := rfl
  rw [hcons]
  cases htail : upDowns s.emitted with
  | nil => simp [htail] at hhead
  | cons ev l =>
    rw [htail] at hhead halternate
    refine ⟨?_, halternate⟩
    rintro rfl
    simp at hhead

theorem Told.overwrite_iff (h : Told s) (state : InterfaceState) (hstate : state ≠ .up) :
    Told { s with state } ↔ s.state ≠ .up := by
  constructor
  · intro h' hup
    exact hstate (h'.up.mpr (h.up.mp hup))
  · intro hup
    refine ⟨h.alternate, ?_⟩
    have hhead : ¬(upDowns s.emitted).head? = some .up := fun h' => hup (h.up.mpr h')
    simp [hstate, hhead]

theorem Lifecycle.configState_normal (h : Lifecycle g ⟨true, .immediate⟩ s) :
    s.configState = .normal := by
  by_contra hpending
  have htorn := h.torn (h.pending rfl hpending)
  simp [h.mode.2] at htorn

theorem Lifecycle.exists_finer (h : Lifecycle g k s)
    (hnormal : k.pending = true → s.configState = .normal) :
    ∃ k', Lifecycle g k' s ∧ ∀ t, Lifecycle g k' t →
      Lifecycle g k t ∧ (k.pending = true → t.configState = .normal) := by
  obtain ⟨pending, mode⟩ := k
  cases pending with
  | false => exact ⟨_, h, fun t ht => ⟨ht, by simp⟩⟩
  | true =>
    have hconfig := hnormal rfl
    have hsame : ∀ mode', mode'.Holds s → Lifecycle g ⟨true, mode'⟩ s := fun mode' hmode' =>
      ⟨⟨h.toSound, h.attached, h.torn, h.pending, hmode'⟩, h.available⟩
    cases hshell : s.isShell with
    | true =>
      refine ⟨⟨true, .shell⟩, hsame .shell ⟨hconfig, hshell⟩, fun t ht => ⟨?_, fun _ => ht.mode.1⟩⟩
      refine ⟨⟨ht.toSound, ht.attached, ht.torn, ht.pending, ?_⟩, ht.available⟩
      cases mode with
      | any => trivial
      | immediate => exact absurd hshell (by simp [h.mode.2])
      | shell => exact ht.mode
    | false =>
      refine ⟨⟨true, .immediate⟩, hsame .immediate ⟨by simp [hconfig], hshell⟩, fun t ht =>
        ⟨?_, fun _ => ht.configState_normal⟩⟩
      refine ⟨⟨ht.toSound, ht.attached, ht.torn, ht.pending, ?_⟩, ht.available⟩
      cases mode with
      | any => trivial
      | immediate => exact ht.mode
      | shell => exact absurd hshell (by simp [h.mode.2])

theorem Steady.unpending (h : Steady g k s) : Steady g ⟨false, k.mode⟩ s :=
  ⟨h.toSound, h.attached, h.torn, by simp, h.mode⟩

theorem Lifecycle.normal (h : Lifecycle g k s) (hstate : s.state ≠ .teardown) :
    k.pending = true → s.configState = .normal := by
  intro hk
  by_contra hpending
  exact hstate (h.pending hk hpending)

/-- Which parts of the invariant a call keeps. Those that come out of others keep all of them;
the others are calls of their own or handle a pending change. -/
def admits : InterfaceCall → Kept → LiveInterface → Prop
  | .protoEvent .down, k, _ => k.mode ≠ .shell
  | .protoEvent .linkLost, k, s => k.pending = true ∧ s.isShell = true
  | .setConfigState state, k, _ => k.mode = .any ∨ k.mode = .immediate ∧ state ≠ .reload
  | .mainDevEvent _, _, _ | .l3DevEvent _, _, _ | .extDevEvent _, _, _ => True
  | .protoEvent _, _, _ => True
  | _, k, _ => k = ⟨true, .any⟩

/-- What a call does to the invariant; the end of a teardown restores it whole. -/
def lifecycleSpec (g : RunGuards) : Spec LiveInterface InterfaceCall := fun p s _ t =>
  (∀ k, admits p k s → Lifecycle g k s → Lifecycle g k t) ∧
  (p = .protoEvent .down → s.state ≠ .down → Sound g s → ∀ mode : ProtoMode, mode ≠ .shell →
    mode.Holds s → Lifecycle g ⟨true, mode⟩ t)

/-- The invariant is kept. -/
abbrev Keeps (g : RunGuards) (k : Kept) {α : Type} (x : InterfaceProg α) : Prop :=
  Preserves (lifecycleSpec g) (Lifecycle g k) x

theorem deviceCallbacks_keeps : Keeps g k deviceCallbacks := by
  apply Preserves.callbacks
  intro p s r t hp hspec
  cases p <;> first | exact hspec.1 k trivial | cases hp

theorem modify_keeps {f : LiveInterface → LiveInterface} (hf : ∀ s, (f s).view = s.view) :
    Keeps g k (modify f) := Preserves.modify fun s hs => hs.congr (hf s)

theorem view_of_core (h : t.core = s.core) : t.view = s.view := by
  simp only [LiveInterface.core, Prod.mk.injEq] at h
  obtain ⟨-, -, -, hstate, hconfig, havailable, hproto, hemitted, -⟩ := h
  simp [LiveInterface.view, hstate, hconfig, havailable, hproto, hemitted]

theorem mapUser_lifecycle (slot : DeviceSlot) (s : LiveInterface) (f : DeviceUser → DeviceUser)
    (hs : Lifecycle g k s) : Lifecycle g k (s.mapUser slot f) := hs.congr rfl

theorem lifecycle_slotSteps (slot : DeviceSlot) :
    SlotSteps (lifecycleSpec g) (Lifecycle g k) slot :=
  SlotSteps.of_all (mapUser_lifecycle slot) deviceCallbacks_keeps

theorem releaseMain_keeps : Keeps g k (releaseAttached .main) :=
  (lifecycle_slotSteps .main).releaseAttached

theorem lifecycle_deviceSteps : DeviceSteps g (lifecycleSpec g) (Lifecycle g k) :=
  DeviceSteps.of_core (fun h hs => hs.congr (view_of_core h)) deviceCallbacks_keeps

theorem setShell_keeps (f : ProtoShellState → ProtoShellState) : Keeps g k (setShell f) := by
  intro s hs
  rw [setShell, wp_modify]
  have hshell : LiveInterface.isShell
      { s with proto := s.proto.map fun proto => { proto with shell := f proto.shell } } =
      s.isShell := by cases h : s.proto <;> simp [LiveInterface.isShell, h]
  constructor
  · constructor
    · refine ⟨fun hg => ⟨(hs.told hg).alternate, (hs.told hg).up⟩, ?_⟩
      intro proto hproto
      obtain ⟨old, hold, rfl⟩ := Option.map_eq_some_iff.mp hproto
      exact hs.coherent old hold
    · intro hstate
      obtain ⟨proto, hproto, hcb⟩ := hs.attached hstate
      exact ⟨{ proto with shell := f proto.shell }, by simp [hproto], hcb⟩
    · rw [hshell]
      exact hs.torn
    · exact hs.pending
    · have hmode := hs.mode
      revert hmode
      cases k.mode <;> simp [ProtoMode.Holds, hshell]
  · exact hs.available

theorem markInterfaceDown_wp (hs : Sound g s) (hmode : k.mode.Holds s)
    (hnormal : k.pending = true → s.configState = .normal) :
    wp (lifecycleSpec g) markInterfaceDown (fun _ t => Lifecycle g k t) s := by
  simp only [markInterfaceDown, interfaceEvent, wp_bind, wp_read, wp_ite, wp_modify, wp_pure]
  have hdown : ∀ t : LiveInterface, t.state = .down → (g.overwriting = true → Told t) →
      t.configState = s.configState → t.proto = s.proto → Lifecycle g k t := by
    intro t hstate htold hconfig hproto
    refine ⟨⟨⟨htold, hproto ▸ hs.coherent⟩, by simp [hstate], by simp [hstate], ?_,
      hmode.congr hconfig hproto⟩, by simp [hstate]⟩
    intro hk hpending
    exact absurd (hconfig ▸ hnormal hk) hpending
  refine ⟨fun h => hdown s h hs.told rfl rfl, fun _ => ⟨fun hup => ?_, fun hup => ?_⟩⟩
  · refine lifecycle_deviceSteps.releaseL3.ends (hdown _ rfl (fun hg => ?_) rfl rfl)
      fun _ t ht => ht
    exact ⟨(hs.told hg).emitDown hup, by simp [upDowns]⟩
  · refine lifecycle_deviceSteps.releaseL3.ends (hdown _ rfl (fun hg => ?_) rfl rfl)
      fun _ t ht => ht
    have htold := ((hs.told hg).overwrite_iff .down (by simp)).mpr hup
    exact ⟨htold.alternate, htold.up⟩

theorem protoCb_keeps (proto : InterfaceProtoState) (cmd : InterfaceProtoCmd) :
    Keeps g k (protoCb g proto cmd) :=
  lifecycle_deviceSteps.protoCb_keeps (fun _ hf => modify_keeps fun s => view_of_core (hf s))
    (protoShellHandler_keeps setShell_keeps) proto cmd

theorem invoke_immediate_keeps (cmd : InterfaceProtoCmd) (hmode : k.mode ≠ .shell) :
    Keeps g k (invoke (.protoEvent (immediateEvent cmd))) := by
  intro s hs r t hspec
  apply hspec.1 k _ hs
  cases cmd with
  | setup => trivial
  | teardown => exact hmode
  | renew => trivial

theorem interfaceProtoEvent_keeps (cmd : InterfaceProtoCmd) :
    Keeps g k (interfaceProtoEvent g cmd) := by
  apply Preserves.read_bind
  intro s hs
  cases hproto : s.proto with
  | none => trivial
  | some proto =>
    simp only [wp_bind]
    refine (protoCb_keeps proto cmd).ends hs fun ret t ht => ?_
    split_ifs with hret
    · exact ht
    · rw [not_or, Bool.not_eq_false] at hret
      have hmode : k.mode ≠ .shell := by
        intro hk
        have hmode := hs.mode
        rw [hk] at hmode
        have hcb : proto.cb = .shell := by simpa [isShell_eq hproto] using hmode.2
        have himmediate := hs.coherent proto hproto (by simp [hcb])
        exact himmediate.mp hret.2 hcb
      exact Preserves.bind (invoke_immediate_keeps cmd hmode) (fun _ => Preserves.pure _) t ht

theorem teardown_wp (hs : Sound g s) (hmode : k.mode.Holds s) (hstate : s.state = .teardown)
    (hproto : ∃ proto, s.proto = some proto ∧ proto.cb ≠ .invalid) :
    wp (lifecycleSpec g) (interfaceProtoEvent g .teardown) (fun _ t => Lifecycle g k t) s := by
  obtain ⟨proto, hproto, hcb⟩ := hproto
  simp only [interfaceProtoEvent, wp_bind, wp_read, hproto]
  have hshell := isShell_eq hproto
  have himmediate := hs.coherent proto hproto hcb
  cases h : proto.cb with
  | invalid => exact absurd h hcb
  | shell =>
    have hlife : Lifecycle g k s :=
      ⟨⟨hs, fun _ => ⟨proto, hproto, hcb⟩, fun _ => by simp [hshell, h], fun _ _ => hstate,
        hmode⟩, by simp [hstate]⟩
    have hlater : proto.handler.immediate = false := by simpa [h] using himmediate
    simp only [hlater, or_true, if_true]
    exact (protoCb_keeps proto .teardown).ends hlife fun _ t ht => ht
  | none | static =>
    have hat_once : proto.handler.immediate = true := by simpa [h] using himmediate
    have hne : k.mode ≠ .shell := by
      intro hk
      rw [hk] at hmode
      have hcb' : s.isShell = true := hmode.2
      simp [hshell, h] at hcb'
    simp only [protoCb, h, staticHandler, wp_pure, hat_once, ne_eq, not_true_eq_false,
      Bool.true_eq_false, or_self, if_false, wp_bind, wp_invoke]
    intro r t hspec
    have hdone := hspec.2 rfl (by simp [hstate]) hs k.mode hne hmode
    exact ⟨⟨hdone.toSound, hdone.attached, hdone.torn, fun _ => hdone.pending rfl, hdone.mode⟩,
      hdone.available⟩

theorem interfaceSetDown'_wp (force : Bool) (hs : Steady g ⟨false, k.mode⟩ s)
    (hpending : s.state = .down → k.pending = true → s.configState = .normal) :
    wp (lifecycleSpec g) (interfaceSetDown' g force) (fun _ t => Lifecycle g k t) s := by
  simp only [interfaceSetDown', wp_bind, wp_read]
  have hflush : Keeps g k (if force then interfaceFlushState else pure ()) := by
    split_ifs
    · exact lifecycle_deviceSteps.releaseL3
    · exact Preserves.pure _
  cases hstate : s.state with
  | down =>
    have hlife : Lifecycle g k s :=
      ⟨⟨hs.toSound, hs.attached, hs.torn, fun hk h => absurd (hpending hstate hk) h, hs.mode⟩,
        by simp [hstate]⟩
    exact releaseMain_keeps s hlife
  | teardown =>
    exact ⟨⟨hs.toSound, hs.attached, hs.torn, fun _ _ => hstate, hs.mode⟩, by simp [hstate]⟩
  | setup =>
    simp only [interfaceEvent, wp_bind, wp_modify, reduceCtorEq, if_false]
    refine wp_mono _ (fun _ t ht => hflush t ht) (teardown_wp ⟨fun hg => ?_, hs.coherent⟩
      (hs.mode.congr rfl rfl) rfl (hs.attached (by simp [hstate])))
    exact ((hs.told hg).overwrite_iff .teardown (by simp)).mpr (by simp [hstate])
  | up =>
    simp only [interfaceEvent, wp_bind, wp_modify, if_true]
    refine wp_mono _ (fun _ t ht => hflush t ht) (teardown_wp ⟨fun hg => ?_, hs.coherent⟩
      (hs.mode.congr rfl rfl) rfl (hs.attached (by simp [hstate])))
    exact ⟨(hs.told hg).emitDown hstate, by simp [upDowns]⟩

/-- `__interface_set_up` starts from DOWN, with a device. -/
theorem interfaceSetUp'_wp (hs : Lifecycle g k s) (hstate : s.state = .down)
    (havailable : s.available = true) :
    wp (lifecycleSpec g) (interfaceSetUp' g) (fun _ t => Lifecycle g k t) s := by
  obtain ⟨k', hs', hfiner⟩ := hs.exists_finer (hs.normal (by simp [hstate]))
  have hmark : ∀ t, Lifecycle g k' t →
      wp (lifecycleSpec g) markInterfaceDown (fun _ u => Lifecycle g k u) t := fun t ht =>
    have ht' := hfiner t ht
    markInterfaceDown_wp ht'.1.toSound ht'.1.mode ht'.2
  have hsound : Sound g { s with state := .setup } :=
    ⟨fun hg => ((hs.told hg).overwrite_iff .setup (by simp)).mpr (by simp [hstate]), hs.coherent⟩
  by_cases hvalid : ∃ proto, s.proto = some proto ∧ proto.cb ≠ .invalid
  · have hsetup : Lifecycle g k' { s with state := .setup } := by
      refine ⟨⟨hsound, fun _ => hvalid, by simp, fun hk hpending => ?_, hs'.mode.congr rfl rfl⟩,
        fun _ _ => havailable⟩
      exact absurd (hs'.normal (by simp [hstate]) hk) hpending
    simp only [interfaceSetUp', wp_bind, wp_modify]
    refine (interfaceProtoEvent_keeps .setup).ends hsetup fun ret t ht => ?_
    simp only [wp_ite, wp_bind, wp_pure]
    exact ⟨fun _ => hmark t ht, fun _ => (hfiner t ht).1⟩
  · simp only [interfaceSetUp', interfaceProtoEvent, wp_bind, wp_modify, wp_read]
    split
    · trivial
    · next proto hproto =>
      -- this protocol says no, and nothing else has happened
      have hcb : proto.cb = .invalid := by
        by_contra hcb
        exact hvalid ⟨proto, hproto, hcb⟩
      simp only [protoCb, hcb, wp_bind, wp_pure, ne_eq, neg_eq_zero, one_ne_zero,
        not_false_eq_true, true_or, if_true]
      exact markInterfaceDown_wp hsound (hs.mode.congr rfl rfl) (hs.normal (by simp [hstate]))

theorem interfaceCheckState_keeps : Keeps g k (interfaceCheckState g) := by
  apply Preserves.read_bind
  intro s hs
  have hdown : s.state ≠ .teardown → wp (lifecycleSpec g) (do
      let _ ← interfaceProtoEvent g .teardown
      markInterfaceDown) (fun _ t => Lifecycle g k t) s := by
    intro hstate
    obtain ⟨k', hs', hfiner⟩ := hs.exists_finer (hs.normal hstate)
    rw [wp_bind]
    refine (interfaceProtoEvent_keeps .teardown).ends hs' fun _ t ht => ?_
    have ht' := hfiner t ht
    exact markInterfaceDown_wp ht'.1.toSound ht'.1.mode ht'.2
  cases hstate : s.state with
  | teardown => exact hs
  | down =>
    simp only [wp_ite, wp_bind, wp_pure, Bool.and_eq_true]
    exact ⟨fun h => interfaceSetUp'_wp hs hstate h.1, fun _ => hs⟩
  | setup | up =>
    simp only [wp_ite, wp_pure]
    exact ⟨fun _ => hdown (by simp [hstate]), fun _ => hs⟩

theorem emit_keeps {ev : InterfaceEvent} (hup : ev ≠ .up) (hdown : ev ≠ .down) :
    Keeps g k (interfaceEvent ev) := by
  refine Preserves.modify fun s hs => ?_
  have hsame : upDowns (ev :: s.emitted) = upDowns s.emitted := by
    cases ev <;> first | rfl | contradiction
  refine ⟨⟨⟨fun hg => ?_, hs.coherent⟩, hs.attached, hs.torn, hs.pending, hs.mode.congr rfl rfl⟩,
    hs.available⟩
  exact ⟨hsame ▸ (hs.told hg).alternate, hsame ▸ (hs.told hg).up⟩

theorem lifecycle_transitions : Transitions g (lifecycleSpec g) (Lifecycle g k) where
  toDeviceSteps := lifecycle_deviceSteps
  emit := emit_keeps
  protoEvent := interfaceProtoEvent_keeps
  checkState := interfaceCheckState_keeps
  setUp' := interfaceSetUp'_wp
  setDown' _ hs := interfaceSetDown'_wp false hs.toSteady.unpending fun h => hs.normal (by simp [h])
  present hs :=
    ⟨⟨⟨fun hg => ⟨(hs.told hg).alternate, (hs.told hg).up⟩, hs.coherent⟩, hs.attached, hs.torn,
      hs.pending, hs.mode.congr rfl rfl⟩, fun _ _ => rfl⟩
  withdraw {s} hs :=
    have hsteady : Steady g k { s with available := false } :=
      ⟨⟨fun hg => ⟨(hs.told hg).alternate, (hs.told hg).up⟩, hs.coherent⟩, hs.attached, hs.torn,
        hs.pending, hs.mode.congr rfl rfl⟩
    interfaceSetDown'_wp true hsteady.unpending fun h : s.state = .down =>
      hs.normal (by simp [h])

theorem interfaceCleanupState_wp (hs : Lifecycle g k s) (hnormal : s.configState = .normal) :
    wp (lifecycleSpec g) (interfaceCleanupState g)
      (fun _ t => Lifecycle g ⟨true, .immediate⟩ t) s := by
  have hs' : Lifecycle g ⟨true, .any⟩ s :=
    ⟨⟨hs.toSound, hs.attached, hs.torn, fun _ h => absurd hnormal h, trivial⟩, hs.available⟩
  obtain ⟨k', hs', hfiner⟩ := hs'.exists_finer fun _ => hnormal
  refine (lifecycle_transitions.interfaceSetAvailable_keeps false).followed hs' fun _ t ht => ?_
  refine lifecycle_deviceSteps.releaseL3.followed ht fun _ u hu => ?_
  simp only [interfaceSetProtoState, wp_bind, wp_read, wp_require, wp_modify]
  intro hguard
  obtain ⟨hu', hconfig⟩ := hfiner u hu
  refine (lifecycle_transitions.interfaceSetMainDev_keeps none).ends
    (I := Lifecycle g ⟨true, .immediate⟩) ?_
    fun _ v hv => lifecycle_deviceSteps.setL3 none v hv
  refine ⟨⟨⟨fun hg => ?_, by simp⟩, by simp, by simp, fun _ h => absurd (hconfig rfl) h,
    by simp [ProtoMode.Holds, hconfig rfl, LiveInterface.isShell]⟩, by simp⟩
  have hup : u.state ≠ .up := by simpa [hg] using hguard
  have htold := ((hu'.told hg).overwrite_iff .down (by simp)).mpr hup
  exact ⟨htold.alternate, htold.up⟩

theorem Lifecycle.relax (h : Lifecycle g ⟨true, .immediate⟩ s) {mode : ProtoMode}
    (hmode : mode ≠ .shell) : Lifecycle g ⟨true, mode⟩ s := by
  refine ⟨⟨h.toSound, h.attached, h.torn, h.pending, ?_⟩, h.available⟩
  cases mode with
  | any => trivial
  | immediate => exact h.mode
  | shell => exact absurd rfl hmode

theorem interfaceDoFree_wp (hs : Lifecycle g k s) (hnormal : s.configState = .normal) :
    wp (lifecycleSpec g) (interfaceDoFree g) (fun _ t => Lifecycle g ⟨true, .immediate⟩ t) s := by
  obtain ⟨k', hs', hfiner⟩ := Lifecycle.exists_finer (k := ⟨true, .any⟩)
    ⟨⟨hs.toSound, hs.attached, hs.torn, fun _ h => absurd hnormal h, trivial⟩, hs.available⟩
    fun _ => hnormal
  refine (emit_keeps (by simp) (by simp)).followed hs' fun _ t ht => ?_
  rw [wp_bind]
  refine lifecycle_transitions.removeExt_keeps.followed ht fun _ u hu => ?_
  obtain ⟨hu', hconfig⟩ := hfiner u hu
  exact wp_mono _ (fun _ v hv => hv.congr rfl) (interfaceCleanupState_wp hu' (hconfig rfl))

theorem protoAttach_coherent (handler : ProtoHandler) (config : Blob) (failed : Bool) :
    (protoAttach handler config failed).Coherent := by
  cases failed with
  | true => simp [InterfaceProtoState.Coherent, protoAttach]
  | false =>
    intro _
    simp only [protoAttach, attachedCb, Bool.false_eq_true, if_false]
    split_ifs <;> simp_all

theorem protoInitInterface_wp
    (htold : g.overwriting = true → s.state ≠ .up → Told { s with state := .down })
    (hnormal : s.configState = .normal) :
    wp (lifecycleSpec g) (protoInitInterface g) (fun _ t => Lifecycle g ⟨true, .any⟩ t) s := by
  simp only [protoInitInterface, interfaceSetProtoState, wp_bind, wp_read, wp_ask, wp_require,
    wp_modify]
  intro n hguard
  refine ⟨⟨⟨fun hg => ?_, ?_⟩, by simp, by simp, fun _ h => absurd hnormal h, trivial⟩, by simp⟩
  · have hup : s.state ≠ .up := by simpa [hg] using hguard
    exact ⟨(htold hg hup).alternate, (htold hg hup).up⟩
  · rintro proto ⟨rfl⟩
    exact protoAttach_coherent _ _ _

theorem interfaceDoReload_wp (hs : Lifecycle g ⟨true, .any⟩ s) (hnormal : s.configState = .normal) :
    wp (lifecycleSpec g) (interfaceDoReload g) (fun _ t => Lifecycle g ⟨true, .any⟩ t) s := by
  obtain ⟨k', hs', hfiner⟩ := hs.exists_finer fun _ => hnormal
  refine (emit_keeps (by simp) (by simp)).followed hs' fun _ t ht => ?_
  obtain ⟨ht', hconfig⟩ := hfiner t ht
  rw [wp_bind]
  refine wp_mono _ (fun _ u hu => ?_) (interfaceCleanupState_wp ht' (hconfig rfl))
  rw [wp_bind]
  refine wp_mono _ (fun _ v hv => lifecycle_transitions.interfaceClaimDevice_keeps v hv)
    (protoInitInterface_wp (fun hg hup => ?_) hu.configState_normal)
  exact ((hu.told hg).overwrite_iff .down (by simp)).mpr hup

theorem restartInterface_keeps (hmode : k.mode ≠ .shell) : Keeps g k (restartInterface g) := by
  refine Preserves.after_read fun s => ?_
  split_ifs
  · exact Preserves.bind lifecycle_transitions.interfaceSetUp_keeps fun _ => Preserves.pure _
  · refine Preserves.bind ?_ fun _ => Preserves.pure _
    intro t ht r u hspec
    refine hspec.1 k ?_ ht
    cases hk : k.mode with
    | any => exact .inl hk
    | immediate => exact .inr ⟨hk, by simp⟩
    | shell => exact absurd hk hmode
  · exact Preserves.pure _

theorem interfaceHandleConfigChange_wp {mode : ProtoMode} (hs : Lifecycle g ⟨false, mode⟩ s)
    (hmode : mode ≠ .shell) : wp (lifecycleSpec g) (interfaceHandleConfigChange g)
      (fun _ t => Lifecycle g ⟨true, mode⟩ t) s := by
  have hnormal : Lifecycle g ⟨true, mode⟩ { s with configState := .normal } := by
    refine ⟨⟨⟨fun hg => ⟨(hs.told hg).alternate, (hs.told hg).up⟩, hs.coherent⟩, hs.attached,
      hs.torn, by simp, ?_⟩, hs.available⟩
    have hholds := hs.mode
    cases mode with
    | any => trivial
    | immediate => exact ⟨by simp, hholds.2⟩
    | shell => exact absurd rfl hmode
  simp only [interfaceHandleConfigChange, wp_bind, wp_read, wp_modify]
  cases hconfig : s.configState with
  | normal => exact restartInterface_keeps hmode _ hnormal
  | reload =>
    have hany : mode = .any := by
      have hholds := hs.mode
      cases mode with
      | any => rfl
      | immediate => exact absurd hconfig hholds.1
      | shell => exact absurd rfl hmode
    subst hany
    rw [wp_bind]
    exact wp_mono _ (fun _ t ht => restartInterface_keeps hmode t ht)
      (interfaceDoReload_wp hnormal rfl)
  | remove => exact wp_mono _ (fun _ t ht => ht.relax hmode) (interfaceDoFree_wp hnormal rfl)

theorem setConfigState_wp {state : InterfaceConfigState} (hs : Lifecycle g k s)
    (hmode : k.mode = .any ∨ k.mode = .immediate ∧ state ≠ .reload) :
    wp (lifecycleSpec g) (setConfigState g state) (fun _ t => Lifecycle g k t) s := by
  have hne : k.mode ≠ .shell := by
    rcases hmode with h | ⟨h, -⟩ <;> simp [h]
  have hholds : k.mode.Holds { s with configState := state } := by
    rcases hmode with h | ⟨h, hstate⟩
    · rw [h]
      trivial
    · have hs := hs.mode
      rw [h] at hs ⊢
      exact ⟨hstate, hs.2⟩
  have hsteady : Steady g ⟨false, k.mode⟩ { s with configState := state } :=
    ⟨⟨fun hg => ⟨(hs.told hg).alternate, (hs.told hg).up⟩, hs.coherent⟩, hs.attached, hs.torn,
      by simp, hholds⟩
  simp only [setConfigState, wp_bind, wp_modify, wp_read, wp_ite]
  constructor
  · intro _
    have hlife : Lifecycle g ⟨false, k.mode⟩ { s with configState := state } :=
      ⟨hsteady, hs.available⟩
    refine wp_mono _ (fun _ t ht => ?_) (interfaceHandleConfigChange_wp hlife hne)
    exact ⟨⟨ht.toSound, ht.attached, ht.torn, fun _ => ht.pending rfl, ht.mode⟩, ht.available⟩
  · exact fun hstate => interfaceSetDown'_wp false hsteady fun h => absurd h hstate

theorem interfaceProtoDown_wp (mode : ProtoMode) (hs : Sound g s) (hholds : mode.Holds s)
    (hmode : mode ≠ .shell) (hstate : s.state ≠ .down) :
    wp (lifecycleSpec g) (interfaceProtoDown g) (fun _ t => Lifecycle g ⟨true, mode⟩ t) s := by
  simp only [interfaceProtoDown, wp_bind, wp_read, hstate, if_false]
  refine wp_mono _ (fun _ t ht => ?_)
    (markInterfaceDown_wp (k := ⟨false, mode⟩) hs hholds nofun)
  refine releaseMain_keeps.followed ht fun _ u hu => ?_
  refine (lifecycle_slotSteps .l3).removeDevice.followed hu fun _ v hv => ?_
  exact interfaceHandleConfigChange_wp hv hmode

theorem interfaceSetL3Dev_fresh (hdev : (s.users .l3).dev = none)
    (dev : Option ℕ) : wp (lifecycleSpec g) (interfaceSetL3Dev g dev)
      (fun _ t => t.view = s.view) s := by
  cases dev with
  | none => simp [interfaceSetL3Dev, hdev]
  | some d =>
    cases hclaimed : (s.users .l3).claimed <;>
      simp [interfaceSetL3Dev, addDevice, removeDevice, greetings, claimL3Dev, claimDevice,
        enableIp, hdev, hclaimed, LiveInterface.mapUser, LiveInterface.view]

theorem interfaceProtoUp_keeps : Keeps g k (interfaceProtoUp g) := by
  refine Preserves.read_bind fun s hs => ?_
  rw [wp_ite]
  constructor
  · intro _
    exact Preserves.ite (fun _ => emit_keeps (by simp) (by simp)) (fun _ => Preserves.pure _) s hs
  · intro hstate
    rw [not_not] at hstate
    have hup : ∀ t : LiveInterface, t.view = s.view → Lifecycle g k
        { t with
          configIpEnabled := true, protoIpEnabled := true, state := .up
          emitted := .up :: t.emitted } := by
      intro t hview
      have ht := hs.congr hview
      have hstate' : t.state = .setup := (congrArg Prod.fst hview).trans hstate
      refine ⟨⟨⟨fun hg => ?_, ht.coherent⟩, fun _ => ht.attached (by simp [hstate']), by simp,
        fun hk hpending => ?_, ht.mode.congr rfl rfl⟩, fun hg _ => ?_⟩
      · exact ⟨(ht.told hg).emitUp (by simp [hstate']), by simp [upDowns]⟩
      · exact absurd (ht.normal (by simp [hstate']) hk) hpending
      · exact ht.available hg (.inl hstate')
    simp only [interfaceEvent, wp_bind, wp_ite, wp_modify]
    refine ⟨fun hdev => ?_, fun _ => hup s rfl⟩
    exact wp_mono _ (fun _ t ht => hup t ht) (interfaceSetL3Dev_fresh hdev _)

theorem interfaceProtoLinkLost_wp (hk : k.pending = true) (hs : Lifecycle g k s)
    (hshell : s.isShell = true) :
    wp (lifecycleSpec g) (interfaceProtoLinkLost g) (fun _ t => Lifecycle g k t) s := by
  simp only [interfaceProtoLinkLost, wp_bind, wp_read, wp_ite, wp_pure, not_not]
  refine ⟨fun _ => hs, fun hstate => ?_⟩
  have hnormal := hs.normal (by simp [hstate]) hk
  have hs' : Lifecycle g ⟨true, .shell⟩ s :=
    ⟨⟨hs.toSound, hs.attached, hs.torn, fun _ h => absurd hnormal h, hnormal, hshell⟩,
      hs.available⟩
  refine wp_mono _ (fun _ t ht => ?_) (markInterfaceDown_wp hs'.toSound hs'.mode fun _ => hnormal)
  simp only [wp_bind, wp_read, wp_require, wp_modify]
  intro hguard
  obtain ⟨hconfig, hshell'⟩ := ht.mode
  have hattached : ∃ proto, t.proto = some proto ∧ proto.cb ≠ .invalid := by
    cases hproto : t.proto with
    | none => simp [LiveInterface.isShell, hproto] at hshell'
    | some proto =>
      have hcb : proto.cb = .shell := by simpa [isShell_eq hproto] using hshell'
      exact ⟨proto, rfl, by simp [hcb]⟩
  have hmode : k.mode.Holds t := by
    have hholds := hs.mode
    cases h : k.mode with
    | any => trivial
    | immediate => simp [h, ProtoMode.Holds, hshell] at hholds
    | shell => exact ⟨hconfig, hshell'⟩
  refine ⟨⟨⟨fun hg => ?_, ht.coherent⟩, fun _ => hattached, by simp,
    fun _ h => absurd hconfig h, hmode.congr rfl rfl⟩, fun hg _ => ?_⟩
  · have hup : t.state ≠ .up := by
      have hboth : t.available = true ∧ ¬t.state = .up := by simpa [hg] using hguard
      exact hboth.2
    have htold := ((ht.told hg).overwrite_iff .setup (by simp)).mpr hup
    exact ⟨htold.alternate, htold.up⟩
  · have hboth : t.available = true ∧ ¬t.state = .up := by simpa [hg] using hguard
    exact hboth.1

theorem interfaceReload_keeps (new : Interface) :
    Keeps g ⟨true, .any⟩ (interfaceReload g new) := by
  refine Preserves.after_read fun s => Preserves.bind (Preserves.require _) fun _ => ?_
  refine Preserves.bind (Preserves.require _) fun _ => ?_
  refine Preserves.bind (modify_keeps fun _ => rfl) fun _ => ?_
  split_ifs
  · exact fun t ht => setConfigState_wp ht (.inl rfl)
  · exact Preserves.pure _
  · exact interfaceCheckState_keeps

theorem interfaceCreate_wp (new : Interface) (s : LiveInterface) :
    wp (lifecycleSpec g) (interfaceCreate g new) (fun _ t => Lifecycle g ⟨true, .any⟩ t) s := by
  simp only [interfaceCreate, wp_bind, wp_modify]
  refine wp_mono _ (fun _ t ht => lifecycle_transitions.interfaceClaimDevice_keeps t ht)
    (protoInitInterface_wp ?_ rfl)
  exact fun _ _ => ⟨trivial, by simp [upDowns]⟩

theorem interfaceAdd_keeps (new : Interface) : Keeps g ⟨true, .any⟩ (interfaceAdd g new) := by
  refine Preserves.bind (modify_keeps fun _ => rfl) fun _ => Preserves.after_read fun s => ?_
  split_ifs
  · exact interfaceReload_keeps new
  · exact fun t _ => interfaceCreate_wp new t

theorem interfaceFlush_keeps : Keeps g ⟨true, .any⟩ (interfaceFlush g) := by
  refine Preserves.after_read fun s => ?_
  split_ifs
  · exact fun t ht => setConfigState_wp ht (.inl rfl)
  · exact Preserves.pure _

theorem netifdAddDynamic_keeps (new : Interface) :
    Keeps g ⟨true, .any⟩ (netifdAddDynamic g new) := by
  refine Preserves.bind (interfaceAdd_keeps new) fun _ => Preserves.after_read fun s => ?_
  split_ifs
  · exact modify_keeps fun _ => rfl
  · exact Preserves.pure _

/-- A call of its own between others, which leaves nothing pending but a teardown. -/
abbrev KeepsWhole (g : RunGuards) {α : Type} (x : InterfaceProg α) : Prop :=
  Keeps g ⟨true, .any⟩ x

theorem invoke_protoUp_keeps : KeepsWhole g (invoke (.protoEvent .up)) :=
  fun _ hs _ _ hspec => hspec.1 _ trivial hs

theorem invoke_protoDown_keeps : KeepsWhole g (invoke (.protoEvent .down)) :=
  fun _ hs _ _ hspec => hspec.1 _ (by simp [admits]) hs

theorem invoke_linkLost_wp (hs : Lifecycle g ⟨true, .any⟩ s) (hshell : s.isShell = true) :
    wp (lifecycleSpec g) (invoke (.protoEvent .linkLost))
      (fun _ t => Lifecycle g ⟨true, .any⟩ t) s :=
  fun _ _ hspec => hspec.1 _ ⟨rfl, hshell⟩ hs

theorem lifecycle_shellSteps : ShellSteps g (lifecycleSpec g) (Lifecycle g ⟨true, .any⟩) :=
  ShellSteps.of_setShell lifecycle_transitions
    (lifecycle_slotSteps .l3).claimL3Dev setShell_keeps
    (fun _ hf => modify_keeps fun s => view_of_core (hf s)) (modify_keeps fun _ => rfl)
    invoke_protoUp_keeps invoke_protoDown_keeps invoke_linkLost_wp

/-- A call keeps the parts of the invariant that it admits. -/
theorem interfaceBody_keeps (p : InterfaceCall) (hadmits : admits p k s)
    (hs : Lifecycle g k s) :
    wp (lifecycleSpec g) (interfaceBody g p) (fun _ t => Lifecycle g k t) s := by
  have hthen : ∀ {x : InterfaceProg Unit}, wp (lifecycleSpec g) x (fun _ t => Lifecycle g k t) s →
      wp (lifecycleSpec g) (do x; pure (0 : ℤ)) (fun _ t => Lifecycle g k t) s := by
    intro x hx
    rw [wp_bind]
    exact wp_mono _ (fun _ t ht => ht) hx
  cases p with
  | mainDevEvent ev =>
    exact toDeviceUser_keeps .main (lifecycle_transitions.interfaceMainDevCb_keeps ev) s hs
  | l3DevEvent ev =>
    exact toDeviceUser_keeps .l3 (lifecycle_transitions.interfaceL3DevCb_keeps ev) s hs
  | extDevEvent ev =>
    exact toDeviceUser_keeps .ext (lifecycle_transitions.interfaceExtDevCb_keeps ev) s hs
  | parentEvent ev dev => exact hthen (lifecycle_transitions.interfaceAliasCb_keeps ev dev s hs)
  | addLink dev linkExt =>
    exact hthen (deviceCallbacks_keeps.followed hs fun _ t ht =>
      lifecycle_transitions.interfaceAddLink_keeps dev linkExt t ht)
  | removeLink dev => exact hthen (lifecycle_transitions.interfaceRemoveLink_keeps dev s hs)
  | protoEvent ev =>
    apply hthen
    cases ev with
    | up => exact interfaceProtoUp_keeps s hs
    | down =>
      by_cases hstate : s.state = .down
      · simp [interfaceProtoEventCb, interfaceProtoDown, hstate, hs]
      · refine wp_mono _ (fun _ t ht => ?_)
          (interfaceProtoDown_wp k.mode hs.toSound hs.mode hadmits hstate)
        exact ⟨⟨ht.toSound, ht.attached, ht.torn, fun _ => ht.pending rfl, ht.mode⟩,
          ht.available⟩
    | linkLost => exact interfaceProtoLinkLost_wp hadmits.1 hs hadmits.2
    | renew => exact hs
  | setConfigState state => exact hthen (setConfigState_wp hs hadmits)
  | setUp => exact lifecycle_transitions.interfaceSetUp_keeps s hs
  | setDown => exact hthen (lifecycle_transitions.interfaceSetDown_keeps s hs)
  | startPending => exact hthen (lifecycle_transitions.interfaceStartPending_keeps s hs)
  | setConfigInit configInit => exact hthen (hs.congr rfl)
  | reload new =>
    subst hadmits
    exact (interfaceAdd_keeps new).followed (hs.congr rfl) fun _ _ ht => ht
  | reloadWithout =>
    subst hadmits
    exact interfaceFlush_keeps.followed (hs.congr rfl) fun _ _ ht => ht
  | addDynamic new =>
    subst hadmits
    exact hthen (netifdAddDynamic_keeps new s hs)
  | remove =>
    subst hadmits
    exact hthen (setConfigState_wp hs (.inl rfl))
  | notify m =>
    subst hadmits
    exact lifecycle_shellSteps.protoShellNotify_keeps m s hs
  | scriptExit =>
    subst hadmits
    exact hthen (lifecycle_shellSteps.protoShellScriptCb_keeps s hs)
  | taskExit status =>
    subst hadmits
    exact hthen (lifecycle_shellSteps.protoShellTaskCb_keeps status s hs)
  | teardownTimeout =>
    subst hadmits
    exact hthen (lifecycle_shellSteps.teardownTimeout s hs)
  | checkupTimeout =>
    subst hadmits
    exact hthen (lifecycle_shellSteps.protoShellCheckupTimeoutCb_keeps s hs)
  | dependencyUp i =>
    subst hadmits
    exact hthen (lifecycle_shellSteps.protoShellUpdateHostDep_keeps i s hs)
  | dependencyDown i =>
    subst hadmits
    exact hthen (lifecycle_shellSteps.protoShellIfDownCb_keeps i s hs)

theorem interfaceBody_lifecycle (g : RunGuards) :
    Verified (interfaceBody g) (lifecycleSpec g) := by
  intro p s
  refine wp_and _ (wp_forall _ fun k => ?_) ?_
  · exact wp_imp _ fun hadmits => wp_imp _ fun hs => interfaceBody_keeps p hadmits hs
  · refine wp_imp _ fun hp => wp_imp _ fun hstate => wp_imp _ fun hs => ?_
    refine wp_forall _ fun mode => wp_imp _ fun hmode => wp_imp _ fun hholds => ?_
    subst hp
    rw [interfaceBody, wp_bind]
    exact interfaceProtoDown_wp mode hs hholds hmode hstate

theorem noInterface_lifecycle (g : RunGuards) : Lifecycle g ⟨true, .any⟩ noInterface :=
  ⟨⟨⟨fun _ => ⟨trivial, by simp [noInterface, upDowns]⟩, by simp [noInterface]⟩,
    by simp [noInterface], by simp [noInterface], by simp [noInterface], trivial⟩,
    by simp [noInterface]⟩

theorem admits_of_callable {p : InterfaceCall} (h : interfaceCallable p s = true) :
    admits p ⟨true, .any⟩ s := by
  cases p with
  | protoEvent ev =>
    cases ev with
    | up => trivial
    | down => simp [admits]
    | linkLost =>
      simp only [interfaceCallable, Bool.and_eq_true, Option.isSome_iff_exists] at h
      obtain ⟨⟨-, st, hst⟩, -⟩ := h
      exact ⟨rfl, isShell_of_shell hst⟩
    | renew => trivial
  | setConfigState state => cases h
  | _ => trivial

theorem lifecycle_of_reachable
    (h : Reachable (interfaceBody g) interfaceCallable noInterface t) :
    Lifecycle g ⟨true, .any⟩ t :=
  Reachable.invariant (interfaceBody_lifecycle g)
    (fun _ _ _ _ hcall hspec hs => hspec.1 _ (admits_of_callable hcall) hs)
    h (noInterface_lifecycle g)

/-- What is promised of an interface whenever no call is in progress. -/
structure LifecycleOk (s : LiveInterface) : Prop where
  told : Told s
  available : s.state = .setup ∨ s.state = .up → s.available = true
  pending : s.configState ≠ .normal → s.state = .teardown

/-- In a run that never overwrites a state it does not expect, the promise is kept. -/
theorem lifecycle_of_guarded_run
    (h : Reachable (interfaceBody { overwriting := true }) interfaceCallable noInterface t) :
    LifecycleOk t := by
  have hlife := lifecycle_of_reachable h
  exact ⟨hlife.told rfl, hlife.available rfl, hlife.pending rfl⟩

/-- An interface of a shell protocol. -/
def dhcpInterface : Interface :=
  { name := "wan", ifname := some "eth0"
    protoHandler := { name := "dhcp", configParams := some ["hostname"] } }

/-- What happens when it is created and its device is there and has a link. -/
def dhcpChoices : List (Choice InterfaceCall) :=
  [.pick 0, .pick 1, .enter (.mainDevEvent .add), .enter (.mainDevEvent .up),
    .enter (.mainDevEvent .linkUp), .pick 0, .resume, .pick 0, .resume]

/-- A reload leaves it out while it is up: the removal waits for the teardown. -/
theorem lifecycle_of_guarded_run_dhcp : ∃ t,
    Reachable (interfaceBody { overwriting := true }) interfaceCallable noInterface t ∧
      t.configState = .remove ∧ t.state = .teardown := by
  obtain ⟨t, ht, hremove⟩ := exists_reachable (interfaceBody { overwriting := true })
    interfaceCallable noInterface (fun t => t.configState = .remove) 200
    [(.reload dhcpInterface, dhcpChoices), (.protoEvent .up, []), (.reloadWithout, [])] (by decide)
  exact ⟨t, ht, hremove, (lifecycle_of_guarded_run ht).pending (by simp [hremove])⟩

/-- An interface over an alias, of the protocol that does nothing. -/
def aliasUser : Interface := { name := "lan6", ifname := some "@lan" }

/-- `lan6` has claimed its device and waits for a link. It is removed: the release makes the
device, an alias, move to another one, which comes with a link. So the interface goes up while
it is cleaned up, and that it is gone then is not told. -/
theorem lifecycle_broken :
    ¬∀ t, Reachable (interfaceBody {}) interfaceCallable noInterface t → LifecycleOk t := by
  intro h
  obtain ⟨t, ht, hdown, hup⟩ := exists_reachable (interfaceBody {}) interfaceCallable noInterface
    (fun t => t.state = .down ∧ (upDowns t.emitted).head? = some .up) 200
    [(.reload aliasUser, [.pick 0, .pick 1, .enter (.mainDevEvent .add),
        .enter (.mainDevEvent .up), .resume, .pick 0, .resume]),
      (.reloadWithout, [.enter (.mainDevEvent .add), .resume, .pick 0,
        .enter (.mainDevEvent .linkUp), .resume, .resume, .resume, .resume])] (by decide)
  have hstate := (h t ht).told.up.mpr hup
  simp [hdown] at hstate

end Netifd
