import Netifd.MonitoredProgram
import Netifd.ShellProtocol

/-!
# The removal of an interface

`interface_do_free` runs out of the DOWN event of a protocol or out of a change of the
configuration, and an immediate protocol reports DOWN from within the command that takes it
down. Whoever gave that command may go on with an interface that is no longer there.
-/

namespace Netifd.InterfaceRemoval
open ReentrantProgram ReentrantProgram.Prog

/-- What is noted of an interface while a call into it is handled: whether it has been removed,
whether it has been read or written since, and whether the calls in progress are such that they
may remove it. -/
structure Trail where
  removed : Bool := false
  touched : Bool := false
  removable : Bool := true

abbrev Watched := LiveInterface × Trail

def Trail.access (n : Trail) : Trail := { n with touched := n.touched || n.removed }

/-- The write that frees the interface. -/
def frees (s u : LiveInterface) : Bool := s.inTable && !u.inTable

/-- Every read and every write is one of the interface. In a guarded run only calls that may
remove it do so. -/
def removalMonitor (guarded : Bool) : Monitor LiveInterface Trail where
  onRead _ n := n.access
  onWrite s u n := { n.access with removed := n.removed || frees s u }
  mayWrite s u n := !guarded || !frees s u || n.removable

/-- A shell protocol reports its end when nothing waits for it. An immediate one that is found
in `IFS_TEARDOWN` and available answers `__interface_set_down` without `force`. -/
def answersSetDown (s : LiveInterface) : Bool :=
  s.proto.all (!·.handler.immediate) || (s.state == .teardown && s.available)

/-- The calls that may remove the interface: no event of a device, and a DOWN only if it answers
such a set-down. -/
def mayRemove : InterfaceCall → LiveInterface → Bool
  | .protoEvent .down, s => answersSetDown s
  | p, _ => !isDeviceEvent p

/-- The calls that have a name, and look for the interface in the table. -/
def byName : InterfaceCall → Bool
  | .reload _ | .reloadWithout | .addDynamic _ | .setConfigInit _ => true
  | _ => false

def enter (p : InterfaceCall) (s : LiveInterface) (n : Trail) : Trail :=
  { n with removed := n.removed && !byName p, removable := n.removable && mayRemove p s }

def leave (n t : Trail) : Trail := { t with removable := n.removable }

def markDynamic : InterfaceProg Unit :=
  modify fun s => { s with conf := interfaceSetDynamic s.conf, keptOnReload := true }

section Bodies

variable (guarded : Bool)

/-- `netifd_add_dynamic`, which looks the name up again. -/
def watchedAddDynamic (new : Interface) : Prog Watched InterfaceCall Unit := do
  monitor (removalMonitor guarded) (interfaceAdd {} new)
  let w ← read
  if w.1.inTable then monitor (removalMonitor guarded) markDynamic else pure ()

def watchedCall : InterfaceCall → Prog Watched InterfaceCall ℤ
  | .addDynamic new => do
    watchedAddDynamic guarded new
    pure 0
  | p => monitor (removalMonitor guarded) (interfaceBody {} p)

/-- What every call runs under observation. -/
def watchedBody (p : InterfaceCall) : Prog Watched InterfaceCall ℤ :=
  observed (enter p) leave (watchedCall guarded p)

theorem watchedBody_shadows (p : InterfaceCall) (s : LiveInterface) :
    Shadows s (watchedBody guarded p) (interfaceBody {} p) := by
  apply observed_shadows
  intro s
  cases p with
  | addDynamic new =>
    refine Shadows.bind ?_ fun _ _ => .ret _
    refine Shadows.bind (monitor_shadows _ _ s) fun _ t => ?_
    refine Shadows.get fun n => ?_
    change Shadows t
      (if t.inTable = true then monitor (removalMonitor guarded) markDynamic else pure ())
      (if t.inTable = true then markDynamic else pure ())
    split_ifs
    · exact monitor_shadows _ _ t
    · exact .ret _
  | _ => exact monitor_shadows _ _ s

end Bodies

/-- After a call everything is noted as before, but for a removal by calls that may remove. -/
structure Ended (n : Trail) (t : Watched) : Prop where
  touched : t.2.touched = n.touched
  removable : t.2.removable = n.removable
  removed : t.2.removed = true → t.1.inTable = false ∧ n.removable = true

/-- The calls out of which the interface is removed in a guarded run. -/
def removes : InterfaceCall → LiveInterface → Bool
  | .protoEvent .down, s => answersSetDown s
  | .protoEvent _, _ => false
  | p, _ => !isDeviceEvent p

/-- The relation of a call that starts with an interface, or with its name. -/
def removalSpec : Spec Watched InterfaceCall := fun p w _ t =>
  w.2.removed = false ∨ byName p = true →
    Ended { w.2 with removed := false } t ∧ (t.2.removed = true → removes p w.1 = true)

theorem Ended.intact {n : Trail} {t : Watched} (h : Ended n t) (hn : n.removed = false)
    (ht : t.2.removed = false) : t.2 = n := by
  obtain ⟨s, removed, touched, removable⟩ := t
  cases n
  simp only [Trail.mk.injEq]
  exact ⟨ht.trans hn.symm, h.touched, h.removable⟩

theorem Ended.refl {n : Trail} {t : Watched} (hn : n.removed = false) (ht : t.2 = n) :
    Ended n t := by
  subst ht
  exact ⟨rfl, rfl, fun h => absurd h (by simp [hn])⟩

theorem Trail.access_eq {n : Trail} (hn : n.removed = false) : n.access = n := by
  cases n
  simp_all [Trail.access]

theorem Trail.reset_eq {n : Trail} (hn : n.removed = false) : { n with removed := false } = n := by
  cases n
  simp_all

/-- A program under observation in a guarded run. -/
abbrev watch {α : Type} (x : InterfaceProg α) : Prog Watched InterfaceCall α :=
  monitor (removalMonitor true) x

/-- A program neither removes the interface nor loses the property `I` of it. -/
def QuietOn {α : Type} (I : LiveInterface → Prop) (x : InterfaceProg α) : Prop :=
  ∀ n : Trail, n.removed = false → Preserves removalSpec (fun w => w.2 = n ∧ I w.1) (watch x)

/-- A program does not remove the interface. -/
abbrev Quiet {α : Type} (x : InterfaceProg α) : Prop := QuietOn (fun _ => True) x

section Rules

variable {α β : Type} {I : LiveInterface → Prop} {x : InterfaceProg α} {w : Watched} {n : Trail}

theorem wp_watch_read (hn : n.removed = false) (hw : w.2 = n)
    {Q : LiveInterface → Watched → Prop} (h : Q w.1 w) :
    wp removalSpec (watch read) Q w := by
  obtain ⟨s, n'⟩ := w
  cases hw
  change Q s (s, n'.access)
  rw [Trail.access_eq hn]
  exact h

theorem wp_watch_modify {f : LiveInterface → LiveInterface} (hn : n.removed = false)
    (hw : w.2 = n) (hf : w.1.inTable = true → (f w.1).inTable = true)
    {Q : Unit → Watched → Prop} (h : Q () (f w.1, n)) :
    wp removalSpec (watch (modify f)) Q w := by
  obtain ⟨s, n'⟩ := w
  cases hw
  have hfrees : frees s (f s) = false := by
    cases hs : s.inTable
    · simp [frees, hs]
    · simp [frees, hf hs]
  have hend : (removalMonitor true).onWrite s (f s) n' = n' := by
    simp [removalMonitor, hfrees, Trail.access_eq hn]
  rw [wp_monitor_modify]
  intro _
  change Q () (f s, (removalMonitor true).onWrite s (f s) n'.access)
  rw [Trail.access_eq hn, hend]
  exact h

namespace QuietOn

theorem pure (a : α) : QuietOn I (Pure.pure a : InterfaceProg α) := fun _ _ _ hw => hw

theorem ask : QuietOn I ask := fun _ _ _ hw _ => hw

theorem require (b : Bool) : QuietOn I (require b) := by
  intro n _
  rw [watch, monitor_require]
  exact Preserves.require b

theorem bind {f : α → InterfaceProg β} (hx : QuietOn I x) (hf : ∀ a, QuietOn I (f a)) :
    QuietOn I (x >>= f) := by
  intro n hn
  rw [watch, monitor_bind]
  exact (hx n hn).bind fun a => hf a n hn

theorem ite {c : Prop} [Decidable c] {y : InterfaceProg α} (hx : c → QuietOn I x)
    (hy : ¬c → QuietOn I y) : QuietOn I (if c then x else y) := by
  split_ifs with h
  · exact hx h
  · exact hy h

theorem read_bind {f : LiveInterface → InterfaceProg β}
    (hf : ∀ n w, n.removed = false → w.2 = n → I w.1 →
      wp removalSpec (watch (f w.1)) (fun _ t => t.2 = n ∧ I t.1) w) :
    QuietOn I (read >>= f) := by
  rintro n hn w ⟨hw, hI⟩
  rw [watch, monitor_bind, wp_bind]
  exact wp_watch_read hn hw (hf n w hn hw hI)

theorem after_read {f : LiveInterface → InterfaceProg β} (hf : ∀ s, QuietOn I (f s)) :
    QuietOn I (read >>= f) := read_bind fun n w hn hw hI => hf w.1 n hn w ⟨hw, hI⟩

theorem modify {f : LiveInterface → LiveInterface} (hf : ∀ s, I s → I (f s))
    (htable : ∀ s : LiveInterface, s.inTable = true → (f s).inTable = true) :
    QuietOn I (Prog.modify f) := by
  rintro n hn w ⟨hw, hI⟩
  exact wp_watch_modify hn hw (htable w.1) ⟨rfl, hf w.1 hI⟩

end QuietOn

theorem Quiet.modify {f : LiveInterface → LiveInterface}
    (htable : ∀ s : LiveInterface, s.inTable = true → (f s).inTable = true) :
    Quiet (modify f) := QuietOn.modify (fun _ => id) htable

theorem Quiet.invoke {p : InterfaceCall} (hp : ∀ s, removes p s = false) :
    Quiet (invoke p) := by
  rintro n hn w ⟨hw, -⟩ r t hspec
  obtain ⟨hended, hremoved⟩ := hspec (Or.inl (hw ▸ hn))
  have ht : t.2.removed = false := by
    by_contra h
    simpa [hp] using hremoved (by simpa using h)
  rw [hw, Trail.reset_eq hn] at hended
  exact ⟨hended.intact hn ht, trivial⟩

theorem Quiet.deviceCallbacks : Quiet deviceCallbacks := by
  intro n hn
  refine Preserves.callbacks fun p w r t hp hspec hw => ?_
  refine Quiet.invoke (p := p) (fun s => ?_) n hn w hw r t hspec
  cases p <;> simp_all [isDeviceEvent, removes]

theorem QuietOn.followed {f : α → InterfaceProg β} (hx : QuietOn I x) (hn : n.removed = false)
    (hw : w.2 = n) (hI : I w.1) {Q : β → Watched → Prop}
    (h : ∀ a t, t.2 = n → I t.1 → wp removalSpec (watch (f a)) Q t) :
    wp removalSpec (watch (x >>= f)) Q w := by
  rw [watch, monitor_bind, wp_bind]
  exact (hx n hn).ends ⟨hw, hI⟩ fun a t ht => h a t ht.1 ht.2

theorem Quiet.ends (hx : Quiet x) (hn : n.removed = false) (hw : w.2 = n)
    {Q : α → Watched → Prop} (h : ∀ a t, t.2 = n → Q a t) : wp removalSpec (watch x) Q w :=
  (hx n hn).ends ⟨hw, trivial⟩ fun a t ht => h a t ht.1

theorem Quiet.followed {f : α → InterfaceProg β} (hx : Quiet x) (hn : n.removed = false)
    (hw : w.2 = n) {Q : β → Watched → Prop}
    (h : ∀ a t, t.2 = n → wp removalSpec (watch (f a)) Q t) :
    wp removalSpec (watch (x >>= f)) Q w :=
  QuietOn.followed hx hn hw trivial fun a t ht _ => h a t ht

end Rules

section Devices

variable (slot : DeviceSlot)

theorem mapUser_quiet (f : DeviceUser → DeviceUser) :
    Quiet (modify fun s => s.mapUser slot f) := Quiet.modify fun _ => id

theorem claimDevice_quiet : Quiet (claimDevice slot) := by
  refine QuietOn.after_read fun s => QuietOn.ite (fun _ => QuietOn.pure _) fun _ => ?_
  refine QuietOn.ite (fun _ => QuietOn.pure _) fun _ => (mapUser_quiet slot _).bind fun _ => ?_
  refine Quiet.deviceCallbacks.bind fun _ => QuietOn.ask.bind fun n => ?_
  exact QuietOn.ite (fun _ => QuietOn.pure _) fun _ =>
    (mapUser_quiet slot _).bind fun _ => QuietOn.pure _

theorem releaseDevice_quiet : Quiet (releaseDevice slot) :=
  QuietOn.after_read fun _ => QuietOn.ite
    (fun _ => (mapUser_quiet slot _).bind fun _ => Quiet.deviceCallbacks) fun _ => QuietOn.pure _

theorem releaseAttached_quiet : Quiet (releaseAttached slot) :=
  QuietOn.after_read fun _ => QuietOn.ite (fun _ => QuietOn.pure _) fun _ =>
    releaseDevice_quiet slot

theorem removeDevice_quiet : Quiet (removeDevice slot) := by
  refine QuietOn.after_read fun s => QuietOn.ite (fun _ => QuietOn.pure _) fun _ => ?_
  refine (mapUser_quiet slot _).bind fun _ => (releaseDevice_quiet slot).bind fun _ => ?_
  exact (mapUser_quiet slot _).bind fun _ => Quiet.deviceCallbacks

theorem greetings_quiet : Quiet (greetings slot) := by
  cases slot with
  | main => exact Quiet.deviceCallbacks
  | l3 => exact QuietOn.pure ()
  | ext => exact QuietOn.pure ()

theorem addDevice_quiet (dev : Option ℕ) : Quiet (addDevice slot dev) := by
  refine QuietOn.after_read fun s => QuietOn.ite (fun _ => QuietOn.pure _) fun _ => ?_
  refine (removeDevice_quiet slot).bind fun _ => ?_
  cases dev with
  | none => exact QuietOn.pure ()
  | some d => exact (mapUser_quiet slot _).bind fun _ => greetings_quiet slot

theorem removeDeviceIf_quiet (b : Bool) : Quiet (removeDeviceIf b slot) :=
  QuietOn.ite (fun _ => removeDevice_quiet slot) fun _ => QuietOn.pure ()

theorem addDeviceIf_quiet (b : Bool) (dev : Option ℕ) : Quiet (addDeviceIf b slot dev) :=
  QuietOn.ite (fun _ => addDevice_quiet slot dev) fun _ => QuietOn.pure ()

end Devices

section Machine

variable {g : RunGuards} {w : Watched} {n : Trail}

theorem interfaceEvent_quiet (ev : InterfaceEvent) : Quiet (interfaceEvent ev) :=
  Quiet.modify fun _ => id

theorem markInterfaceDown_quiet : Quiet markInterfaceDown := by
  have hflush : Quiet (do
      modify fun s : LiveInterface =>
        { s with configIpEnabled := false, protoIpEnabled := false, protoIp := {} }
      interfaceFlushState) :=
    QuietOn.bind (Quiet.modify fun _ => id) fun _ => releaseAttached_quiet .l3
  refine QuietOn.after_read fun s => QuietOn.ite (fun _ => QuietOn.pure _) fun _ => ?_
  refine QuietOn.bind (Quiet.modify fun _ => id) fun _ => QuietOn.ite (fun _ => ?_) fun _ => hflush
  exact (interfaceEvent_quiet .down).bind fun _ => hflush

theorem interfaceSetProtoState_quiet (proto : Option InterfaceProtoState) :
    Quiet (interfaceSetProtoState g proto) :=
  QuietOn.after_read fun _ => (QuietOn.require _).bind fun _ => Quiet.modify fun _ => id

theorem claimL3Dev_quiet : Quiet (claimL3Dev g) :=
  (claimDevice_quiet .l3).bind fun _ => QuietOn.after_read fun _ =>
    (QuietOn.require _).bind fun _ => QuietOn.pure _

theorem interfaceSetL3Dev_quiet (dev : Option ℕ) : Quiet (interfaceSetL3Dev g dev) := by
  have henable : ∀ config proto, Quiet (enableIp config proto) := fun _ _ =>
    Quiet.modify fun _ => id
  refine QuietOn.after_read fun s => QuietOn.ite (fun _ => QuietOn.pure _) fun _ => ?_
  refine QuietOn.bind (Quiet.modify fun _ => id) fun _ => (addDevice_quiet .l3 dev).bind fun _ => ?_
  refine QuietOn.ite (fun _ => QuietOn.pure _) fun _ => QuietOn.ite (fun _ => ?_) fun _ =>
    henable _ _
  refine claimL3Dev_quiet.bind fun ret => ?_
  exact QuietOn.ite (fun _ => QuietOn.pure _) fun _ => henable _ _

/-- What a command to a shell protocol leaves as it is. -/
def sameMode (c : InterfaceState × Bool × Option ProtoHandler) (s : LiveInterface) : Prop :=
  (s.state, s.available, s.proto.map (·.handler)) = c

theorem sameMode_setShell {c : InterfaceState × Bool × Option ProtoHandler} {s : LiveInterface}
    (f : ProtoShellState → ProtoShellState) (h : sameMode c s) :
    sameMode c { s with proto := s.proto.map fun proto =>
      { proto with shell := f proto.shell } } := by
  unfold sameMode at h ⊢
  rw [← h, Option.map_map]
  rfl

theorem protoShellHandler_sameMode (c : InterfaceState × Bool × Option ProtoHandler)
    (cmd : InterfaceProtoCmd) : QuietOn (sameMode c) (protoShellHandler cmd) := by
  have hset : ∀ f, QuietOn (sameMode c) (setShell f) := fun f =>
    QuietOn.modify (fun _ => sameMode_setShell f) fun _ => id
  have hstart : QuietOn (sameMode c) startScript := by
    refine QuietOn.ask.bind fun n => ?_
    match n with
    | 0 => exact (hset _).bind fun _ => QuietOn.pure _
    | 1 => exact (hset _).bind fun _ => QuietOn.pure _
    | n + 2 => exact QuietOn.pure _
  refine QuietOn.after_read fun s => ?_
  cases s.shell with
  | none => exact QuietOn.pure _
  | some st =>
    refine (hset _).bind fun _ => ?_
    cases (protoShellCommand st cmd).2 with
    | none => exact hstart
    | some result => exact QuietOn.pure _

theorem protoShellHandler_quiet (cmd : InterfaceProtoCmd) : Quiet (protoShellHandler cmd) := by
  rintro n hn w ⟨hw, -⟩
  exact (protoShellHandler_sameMode _ cmd n hn).ends ⟨hw, rfl⟩ fun _ t ht => ⟨ht.1, trivial⟩

theorem found_of_answersSetDown {s : LiveInterface} {state : InterfaceState} {available : Bool}
    {handler : ProtoHandler} (h : sameMode (state, available, some handler) s)
    (himmediate : handler.immediate = true) (hanswers : answersSetDown s = true) :
    state = .teardown ∧ available = true := by
  simp only [sameMode, Prod.mk.injEq, Option.map_eq_some_iff] at h
  obtain ⟨hstate, havailable, proto, hproto, hhandler⟩ := h
  simpa [answersSetDown, hproto, hhandler, himmediate, hstate, havailable] using hanswers

theorem protoTeardown_wp (hn : n.removed = false) (hw : w.2 = n) :
    wp removalSpec (watch (interfaceProtoEvent g .teardown)) (fun _ t => Ended n t ∧
      (t.2.removed = true → w.1.state = .teardown ∧ w.1.available = true)) w := by
  have hquiet : ∀ {t : Watched}, t.2 = n → Ended n t ∧
      (t.2.removed = true → w.1.state = .teardown ∧ w.1.available = true) := fun ht =>
    ⟨Ended.refl hn ht, fun h => absurd h (by simp [ht, hn])⟩
  rw [interfaceProtoEvent, watch, monitor_bind, wp_bind]
  apply wp_watch_read hn hw
  cases hproto : w.1.proto with
  | none => trivial
  | some proto =>
    have hcb : QuietOn (sameMode (w.1.state, w.1.available, some proto.handler))
        (protoCb g proto .teardown) := by
      unfold protoCb
      cases proto.cb with
      | none => exact QuietOn.pure _
      | static => exact QuietOn.pure _
      | shell => exact protoShellHandler_sameMode _ _
      | invalid => exact QuietOn.pure _
    refine hcb.followed hn hw (by simp [sameMode, hproto]) fun ret t ht hsame => ?_
    rw [watch, monitor_ite]
    split_ifs with hend
    · exact hquiet ht
    · rw [monitor_bind, wp_bind]
      intro r u hspec
      obtain ⟨hended, hanswers⟩ := hspec (Or.inl (ht ▸ hn))
      rw [ht, Trail.reset_eq hn] at hended
      have himmediate : proto.handler.immediate = true := by simpa using (not_or.mp hend).2
      exact ⟨hended, fun h => found_of_answersSetDown hsame himmediate (hanswers h)⟩

theorem protoTeardown_quiet_wp (hn : n.removed = false) (hw : w.2 = n)
    (hfound : ¬(w.1.state = .teardown ∧ w.1.available = true)) :
    wp removalSpec (watch (interfaceProtoEvent g .teardown)) (fun _ t => t.2 = n) w := by
  refine wp_mono _ (fun _ t ht => ht.1.intact hn ?_) (protoTeardown_wp hn hw)
  by_contra h
  exact hfound (ht.2 (by simpa using h))

theorem staticProtoSetup_quiet : Quiet (staticProtoSetup g) := by
  refine QuietOn.after_read fun s => (interfaceSetL3Dev_quiet _).bind fun _ => ?_
  refine QuietOn.ask.bind fun _ => QuietOn.bind (Quiet.modify fun _ => id) fun _ => ?_
  exact QuietOn.ask.bind fun _ => QuietOn.ite (fun _ => QuietOn.pure _) fun _ => QuietOn.pure _

theorem protoCb_quiet (proto : InterfaceProtoState) (cmd : InterfaceProtoCmd) :
    Quiet (protoCb g proto cmd) := by
  unfold protoCb
  cases proto.cb with
  | none => exact QuietOn.pure _
  | static =>
    cases cmd with
    | setup => exact staticProtoSetup_quiet
    | teardown => exact QuietOn.pure _
    | renew => exact QuietOn.pure _
  | shell => exact protoShellHandler_quiet cmd
  | invalid => exact QuietOn.pure _

theorem interfaceProtoEvent_quiet {cmd : InterfaceProtoCmd} (hcmd : cmd ≠ .teardown) :
    Quiet (interfaceProtoEvent g cmd) := by
  have hinvoke : Quiet (invoke (.protoEvent (immediateEvent cmd))) := by
    apply Quiet.invoke
    cases cmd with
    | setup => exact fun _ => rfl
    | teardown => exact absurd rfl hcmd
    | renew => exact fun _ => rfl
  refine QuietOn.after_read fun s => ?_
  cases s.proto with
  | none => exact fun _ _ _ _ => trivial
  | some proto =>
    refine (protoCb_quiet proto cmd).bind fun _ => QuietOn.ite (fun _ => QuietOn.pure _) fun _ => ?_
    exact hinvoke.bind fun _ => QuietOn.pure _

/-- A set-down may end the interface, but not if it is forced, as it is when the interface is no
longer available. -/
theorem interfaceSetDown'_wp (force : Bool) (hn : n.removed = false) (hw : w.2 = n)
    (hforce : force = true → w.1.available = false) :
    wp removalSpec (watch (interfaceSetDown' g force))
      (fun _ t => Ended n t ∧ (t.2.removed = true → force = false)) w := by
  have hquiet : ∀ {t : Watched}, t.2 = n →
      Ended n t ∧ (t.2.removed = true → force = false) := fun ht =>
    ⟨Ended.refl hn ht, fun h => absurd h (by simp [ht, hn])⟩
  have hrest : ∀ v : Watched, v.2 = n → v.1.available = w.1.available →
      wp removalSpec (watch (do
        let _ ← interfaceProtoEvent g .teardown
        if force then interfaceFlushState else pure ()))
        (fun _ t => Ended n t ∧ (t.2.removed = true → force = false)) v := by
    intro v hv havailable
    rw [watch, monitor_bind, wp_bind]
    cases force with
    | false => exact wp_mono _ (fun _ t ht => ⟨ht.1, fun _ => rfl⟩) (protoTeardown_wp hn hv)
    | true =>
      have hfound : ¬(v.1.state = .teardown ∧ v.1.available = true) := by
        simp [havailable, hforce rfl]
      refine wp_mono _ (fun _ t ht => ?_) (protoTeardown_quiet_wp hn hv hfound)
      exact (releaseAttached_quiet .l3).ends hn ht fun _ u hu => hquiet hu
  rw [interfaceSetDown', watch, monitor_bind, wp_bind]
  apply wp_watch_read hn hw
  cases hstate : w.1.state with
  | down => exact (releaseAttached_quiet .main).ends hn hw fun _ t ht => hquiet ht
  | teardown => exact hquiet hw
  | setup =>
    dsimp only
    rw [monitor_bind, wp_bind]
    exact wp_watch_modify hn hw id (hrest _ rfl rfl)
  | up =>
    dsimp only
    rw [monitor_bind, wp_bind]
    apply wp_watch_modify hn hw id
    change wp removalSpec (watch (interfaceEvent .down >>= fun _ => _)) _ _
    rw [watch, monitor_bind, wp_bind]
    exact wp_watch_modify hn rfl id (hrest _ rfl rfl)

theorem interfaceSetUp'_quiet : Quiet (interfaceSetUp' g) := by
  refine QuietOn.bind (Quiet.modify fun _ => id) fun _ => ?_
  refine (interfaceProtoEvent_quiet (by simp)).bind fun ret => QuietOn.ite (fun _ => ?_) fun _ => ?_
  · exact markInterfaceDown_quiet.bind fun _ => QuietOn.pure _
  · exact QuietOn.pure _

theorem interfaceCheckState_quiet : Quiet (interfaceCheckState g) := by
  refine QuietOn.read_bind fun n w hn hw _ => ?_
  have hdown : w.1.state ≠ .teardown → wp removalSpec (watch (do
      let _ ← interfaceProtoEvent g .teardown
      markInterfaceDown)) (fun _ t => t.2 = n ∧ True) w := by
    intro hstate
    rw [watch, monitor_bind, wp_bind]
    refine wp_mono _ (fun _ t ht => ?_) (protoTeardown_quiet_wp hn hw fun h => hstate h.1)
    exact markInterfaceDown_quiet.ends hn ht fun _ u hu => ⟨hu, trivial⟩
  cases hstate : w.1.state with
  | teardown => exact ⟨hw, trivial⟩
  | down =>
    refine QuietOn.ite (I := fun _ => True) (fun _ => ?_) (fun _ => QuietOn.pure _) n hn w
      ⟨hw, trivial⟩
    exact interfaceSetUp'_quiet.bind fun _ => QuietOn.pure _
  | setup | up =>
    dsimp only
    rw [watch, monitor_ite]
    split_ifs
    · exact hdown (by simp [hstate])
    · exact ⟨hw, trivial⟩

theorem interfaceSetLinkState_quiet (linkState : Bool) :
    Quiet (interfaceSetLinkState g linkState) := by
  refine QuietOn.after_read fun s => QuietOn.ite (fun _ => QuietOn.pure _) fun _ => ?_
  refine QuietOn.bind (Quiet.modify fun _ => id) fun _ => interfaceCheckState_quiet.bind fun _ => ?_
  refine QuietOn.after_read fun s => QuietOn.ite (fun _ => ?_) fun _ => QuietOn.pure _
  exact (interfaceEvent_quiet .linkUp).bind fun _ => Quiet.modify fun _ => id

theorem interfaceSetUp_quiet : Quiet (interfaceSetUp g) := by
  refine QuietOn.bind (Quiet.modify fun _ => id) fun _ => QuietOn.after_read fun s => ?_
  refine QuietOn.ite (fun _ => QuietOn.pure _) fun _ => ?_
  refine QuietOn.ite (fun _ => QuietOn.pure _) fun _ => ?_
  refine QuietOn.ite (fun _ => interfaceSetUp'_quiet) fun _ => ?_
  refine (claimDevice_quiet .main).bind fun ret => QuietOn.ite (fun _ => ?_) fun _ => QuietOn.pure _
  exact interfaceCheckState_quiet.bind fun _ => QuietOn.pure _

theorem interfaceSetAvailable_quiet (available : Bool) :
    Quiet (interfaceSetAvailable g available) := by
  refine QuietOn.after_read fun s => QuietOn.ite (fun _ => QuietOn.pure _) fun _ => ?_
  cases available with
  | true =>
    refine QuietOn.bind (Quiet.modify fun _ => id) fun _ => QuietOn.after_read fun s => ?_
    refine QuietOn.ite (fun _ => ?_) fun _ => QuietOn.pure _
    exact interfaceSetUp_quiet.bind fun _ => QuietOn.pure _
  | false =>
    rintro n hn w ⟨hw, -⟩
    rw [watch, monitor_bind, wp_bind]
    apply wp_watch_modify hn hw id
    refine wp_mono _ (fun _ t ht => ⟨ht.1.intact hn ?_, trivial⟩)
      (interfaceSetDown'_wp true hn rfl fun _ => rfl)
    by_contra h
    exact absurd (ht.2 (by simpa using h)) (by simp)

theorem interfaceSetMainDev_quiet (dev : Option ℕ) : Quiet (interfaceSetMainDev g dev) := by
  have hend : Quiet (do
      let s ← read
      if (s.users .l3).dev = none then interfaceSetL3Dev g dev else pure ()) :=
    QuietOn.after_read fun _ => QuietOn.ite (fun _ => interfaceSetL3Dev_quiet dev) fun _ =>
      QuietOn.pure _
  refine QuietOn.after_read fun s => ?_
  split_ifs
  · exact QuietOn.pure _
  all_goals
    refine (interfaceSetAvailable_quiet false).bind fun _ => ?_
    refine (addDevice_quiet .main dev).bind fun _ => ?_
  · exact interfaceSetLinkState_quiet false
  · refine claimL3Dev_quiet.bind fun ret => ?_
    exact QuietOn.ite (fun _ => QuietOn.pure _) fun _ => hend
  · refine (QuietOn.pure _).bind fun ret => ?_
    exact QuietOn.ite (fun _ => QuietOn.pure _) fun _ => hend

end Machine

/-- A program may remove the interface, and does nothing to it after that. -/
def Ends {α : Type} (x : InterfaceProg α) : Prop := ∀ (n : Trail) (w : Watched),
  n.removed = false → w.2 = n → wp removalSpec (watch x) (fun _ t => Ended n t) w

section Ends

variable {α β : Type} {x : InterfaceProg α}

namespace Ends

theorem of_quiet (hx : Quiet x) : Ends x := fun _ _ hn hw =>
  hx.ends hn hw fun _ _ ht => Ended.refl hn ht

theorem after {f : α → InterfaceProg β} (hx : Quiet x) (hf : ∀ a, Ends (f a)) :
    Ends (x >>= f) := fun n _ hn hw => hx.followed hn hw fun a t ht => hf a n t hn ht

theorem after_read {f : LiveInterface → InterfaceProg β} (hf : ∀ s, Ends (f s)) :
    Ends (read >>= f) := by
  intro n w hn hw
  rw [watch, monitor_bind, wp_bind]
  exact wp_watch_read hn hw (hf w.1 n w hn hw)

theorem pure (a : α) : Ends (Pure.pure a : InterfaceProg α) := of_quiet (QuietOn.pure a)

theorem ite {c : Prop} [Decidable c] {y : InterfaceProg α} (hx : c → Ends x)
    (hy : ¬c → Ends y) : Ends (if c then x else y) := by
  split_ifs with h
  · exact hx h
  · exact hy h

theorem then_pure (hx : Ends x) (f : α → β) : Ends (x >>= fun a => Pure.pure (f a)) := by
  intro n w hn hw
  rw [watch, monitor_bind, wp_bind]
  exact hx n w hn hw

theorem invoke (p : InterfaceCall) : Ends (Prog.invoke p) := by
  intro n w hn hw r t hspec
  obtain ⟨hended, -⟩ := hspec (Or.inl (hw ▸ hn))
  rwa [hw, Trail.reset_eq hn] at hended

end Ends

end Ends

section Configuration

variable {g : RunGuards}

theorem interfaceAliasCb_quiet (ev : InterfaceEvent) (dev : Option ℕ) :
    Quiet (interfaceAliasCb g ev dev) := by
  cases ev with
  | up =>
    refine QuietOn.ite (fun _ => QuietOn.pure _) fun _ => ?_
    exact (interfaceSetMainDev_quiet dev).bind fun _ => interfaceSetAvailable_quiet true
  | down =>
    exact (interfaceSetAvailable_quiet false).bind fun _ => interfaceSetMainDev_quiet none
  | update | free | reload | linkUp => exact QuietOn.pure _

theorem claimMainDev_quiet : Quiet (claimMainDev g) := by
  have hfind : Quiet findMainDev := QuietOn.after_read fun s =>
    QuietOn.ite (fun _ => QuietOn.ask.bind fun _ => QuietOn.pure _) fun _ => QuietOn.pure _
  refine QuietOn.after_read fun s => QuietOn.ite (fun _ => ?_) fun _ => ?_
  · refine QuietOn.ask.bind fun n => QuietOn.ite (fun _ => QuietOn.pure _) fun _ => ?_
    exact interfaceAliasCb_quiet .up _
  · refine hfind.bind fun dev => QuietOn.ite (fun _ => QuietOn.pure _) fun _ => ?_
    exact interfaceSetMainDev_quiet dev

theorem interfaceClaimDevice_quiet : Quiet (interfaceClaimDevice g) :=
  claimMainDev_quiet.bind fun _ => QuietOn.after_read fun _ =>
    QuietOn.ite (fun _ => interfaceSetAvailable_quiet true) fun _ => QuietOn.pure _

theorem interfaceCleanupState_quiet : Quiet (interfaceCleanupState g) := by
  refine (interfaceSetAvailable_quiet false).bind fun _ => ?_
  refine (releaseAttached_quiet .l3).bind fun _ => ?_
  refine (interfaceSetProtoState_quiet none).bind fun _ => ?_
  exact (interfaceSetMainDev_quiet none).bind fun _ => interfaceSetL3Dev_quiet none

theorem protoInitInterface_quiet : Quiet (protoInitInterface g) :=
  QuietOn.after_read fun _ => QuietOn.ask.bind fun _ => interfaceSetProtoState_quiet _

theorem interfaceDoFree_ends : Ends (interfaceDoFree g) := by
  refine Ends.after (interfaceEvent_quiet .free) fun _ => ?_
  have hcleanup : Quiet (interfaceCleanup g) :=
    (removeDevice_quiet .ext).bind fun _ => interfaceCleanupState_quiet
  refine Ends.after hcleanup fun _ => ?_
  rintro n ⟨s, n'⟩ hn rfl
  change n'.removed = false at hn
  have haccess : n'.access = n' := Trail.access_eq hn
  rw [wp_monitor_modify]
  intro hmay
  change (removalMonitor true).mayWrite s { s with inTable := false } n'.access = true at hmay
  change Ended n' (_, (removalMonitor true).onWrite s { s with inTable := false } n'.access)
  rw [haccess] at hmay ⊢
  have htouched : n'.access.touched = n'.touched := by rw [haccess]
  refine ⟨htouched, rfl, fun hremoved => ⟨rfl, ?_⟩⟩
  have hfrees : frees s { s with inTable := false } = true := by
    simpa [removalMonitor, hn] using hremoved
  simpa [removalMonitor, hfrees] using hmay

theorem interfaceDoReload_quiet : Quiet (interfaceDoReload g) := by
  refine (interfaceEvent_quiet .reload).bind fun _ => interfaceCleanupState_quiet.bind fun _ => ?_
  exact protoInitInterface_quiet.bind fun _ => interfaceClaimDevice_quiet

theorem restartInterface_ends : Ends (restartInterface g) := by
  refine Ends.after_read fun s => Ends.ite (fun _ => ?_) fun _ => Ends.ite (fun _ => ?_) fun _ => ?_
  · exact Ends.of_quiet (interfaceSetUp_quiet.bind fun _ => QuietOn.pure _)
  · exact (Ends.invoke _).then_pure _
  · exact Ends.pure _

theorem interfaceHandleConfigChange_ends : Ends (interfaceHandleConfigChange g) := by
  refine Ends.after_read fun s => Ends.after (Quiet.modify fun _ => id) fun _ => ?_
  cases s.configState with
  | normal => exact restartInterface_ends
  | reload => exact Ends.after interfaceDoReload_quiet fun _ => restartInterface_ends
  | remove => exact interfaceDoFree_ends

theorem interfaceSetDown'_ends : Ends (interfaceSetDown' g false) := fun _ _ hn hw =>
  wp_mono _ (fun _ _ ht => ht.1) (interfaceSetDown'_wp false hn hw nofun)

theorem setConfigState_ends (state : InterfaceConfigState) : Ends (setConfigState g state) := by
  refine Ends.after (Quiet.modify fun _ => id) fun _ => Ends.after_read fun s => ?_
  exact Ends.ite (fun _ => interfaceHandleConfigChange_ends) fun _ => interfaceSetDown'_ends

theorem interfaceProtoUp_quiet : Quiet (interfaceProtoUp g) := by
  have hup : Quiet (do
      modify fun s : LiveInterface =>
        { s with configIpEnabled := true, protoIpEnabled := true, state := .up }
      interfaceEvent .up) :=
    QuietOn.bind (Quiet.modify fun _ => id) fun _ => interfaceEvent_quiet .up
  refine QuietOn.after_read fun s => ?_
  split_ifs
  · exact interfaceEvent_quiet .update
  · exact QuietOn.pure _
  · exact (interfaceSetL3Dev_quiet _).bind fun _ => hup
  · exact hup

theorem interfaceProtoLinkLost_quiet : Quiet (interfaceProtoLinkLost g) := by
  refine QuietOn.after_read fun s => QuietOn.ite (fun _ => QuietOn.pure _) fun _ => ?_
  refine markInterfaceDown_quiet.bind fun _ => QuietOn.after_read fun s => ?_
  exact (QuietOn.require _).bind fun _ => Quiet.modify fun _ => id

theorem interfaceProtoDown_ends : Ends (interfaceProtoDown g) := by
  refine Ends.after_read fun s => Ends.ite (fun _ => Ends.pure _) fun _ => ?_
  refine Ends.after markInterfaceDown_quiet fun _ => ?_
  refine Ends.after (releaseAttached_quiet .main) fun _ => ?_
  exact Ends.after (removeDevice_quiet .l3) fun _ => interfaceHandleConfigChange_ends

theorem interfaceAddLink_quiet (dev : ℕ) (linkExt : Bool) :
    Quiet (interfaceAddLink g dev linkExt) := by
  refine QuietOn.after_read fun s => QuietOn.ite (fun _ => QuietOn.pure _) fun _ => ?_
  refine (removeDeviceIf_quiet .main _).bind fun _ => ?_
  refine QuietOn.ite (fun _ => QuietOn.pure _) fun _ => ?_
  refine (addDeviceIf_quiet .ext linkExt _).bind fun _ => ?_
  refine (interfaceSetMainDev_quiet _).bind fun _ => ?_
  exact mapUser_quiet .main _

theorem interfaceRemoveLink_quiet (dev : ℕ) : Quiet (interfaceRemoveLink g dev) := by
  refine QuietOn.after_read fun s => QuietOn.ask.bind fun n => ?_
  refine QuietOn.ite (fun _ => QuietOn.pure _) fun _ => ?_
  refine (removeDeviceIf_quiet .ext _).bind fun _ => ?_
  refine QuietOn.after_read fun s => QuietOn.ite (fun _ => QuietOn.pure _) fun _ => ?_
  exact QuietOn.ite (fun _ => QuietOn.pure _) fun _ => interfaceSetMainDev_quiet none

theorem interfaceStartPending_quiet : Quiet (interfaceStartPending g) :=
  QuietOn.after_read fun _ => QuietOn.ite
    (fun _ => interfaceSetUp_quiet.bind fun _ => QuietOn.pure _) fun _ => QuietOn.pure _

theorem interfaceReload_ends (new : Interface) : Ends (interfaceReload g new) := by
  refine Ends.after_read fun s => Ends.after (QuietOn.require _) fun _ => ?_
  refine Ends.after (QuietOn.require _) fun _ => Ends.after (Quiet.modify fun _ => id) fun _ => ?_
  refine Ends.ite (fun _ => setConfigState_ends .reload) fun _ => ?_
  exact Ends.ite (fun _ => Ends.pure _) fun _ => Ends.of_quiet interfaceCheckState_quiet

theorem interfaceAdd_ends (new : Interface) : Ends (interfaceAdd g new) := by
  have hcreate : Quiet (interfaceCreate g new) := by
    refine QuietOn.bind (Quiet.modify fun _ _ => rfl) fun _ => ?_
    exact protoInitInterface_quiet.bind fun _ => interfaceClaimDevice_quiet
  refine Ends.after (Quiet.modify fun _ => id) fun _ => Ends.after_read fun s => ?_
  exact Ends.ite (fun _ => interfaceReload_ends new) fun _ => Ends.of_quiet hcreate

theorem interfaceFlush_ends : Ends (interfaceFlush g) :=
  Ends.after_read fun _ => Ends.ite (fun _ => setConfigState_ends .remove) fun _ => Ends.pure _

end Configuration

section Shell

variable {g : RunGuards}

theorem setShell_quiet (f : ProtoShellState → ProtoShellState) : Quiet (setShell f) :=
  Quiet.modify fun _ => id

theorem linkLost_quiet : Quiet (invoke (.protoEvent .linkLost)) := Quiet.invoke fun _ => rfl

theorem finishRunning_quiet (task : Option ShellTask) : Quiet (finishRunning task) := by
  refine QuietOn.after_read fun s => ?_
  cases s.shell with
  | none => exact QuietOn.pure _
  | some st =>
    match task with
    | none => exact QuietOn.pure _
    | some .proto => exact (protoShellHandler_quiet .teardown).bind fun _ => QuietOn.pure _
    | some .script =>
      refine QuietOn.ite (fun _ => ?_) fun _ => QuietOn.ite (fun _ => ?_) fun _ => setShell_quiet _
      · exact (protoShellHandler_quiet .renew).bind fun _ => setShell_quiet _
      · exact (protoShellHandler_quiet .teardown).bind fun _ => setShell_quiet _

theorem protoShellTaskFinish_ends (task : Option ShellTask) : Ends (protoShellTaskFinish task) := by
  refine Ends.after_read fun s => ?_
  cases s.shell with
  | none => exact Ends.pure _
  | some st =>
    cases hsm : st.sm with
    | idle =>
      simp only [hsm]
      refine Ends.of_quiet (QuietOn.ite (fun _ => ?_) fun _ => finishRunning_quiet task)
      exact linkLost_quiet.bind fun _ => finishRunning_quiet task
    | setup =>
      simp only [hsm]
      exact Ends.of_quiet (finishRunning_quiet task)
    | setupAbort =>
      simp only [hsm]
      refine Ends.of_quiet (QuietOn.ite (fun _ => QuietOn.pure _) fun _ => ?_)
      refine (setShell_quiet _).bind fun _ => ?_
      exact (protoShellHandler_quiet .teardown).bind fun _ => QuietOn.pure _
    | teardown =>
      simp only [hsm]
      refine Ends.ite (fun _ => Ends.pure _) fun _ => Ends.after (setShell_quiet _) fun _ => ?_
      exact Ends.after (Quiet.modify fun _ => id) fun _ => (Ends.invoke _).then_pure _

theorem protoShellCheckupTimeoutCb_quiet : Quiet protoShellCheckupTimeoutCb := by
  refine (setShell_quiet _).bind fun _ => QuietOn.after_read fun s => ?_
  refine QuietOn.ite (fun _ => ?_) fun _ => QuietOn.pure _
  exact (protoShellHandler_quiet .teardown).bind fun _ => QuietOn.pure _

theorem protoShellUpdateHostDep_quiet (i : ℕ) : Quiet (protoShellUpdateHostDep g i) := by
  refine QuietOn.ask.bind fun n => (setShell_quiet _).bind fun _ => QuietOn.after_read fun s => ?_
  cases s.shell with
  | none => exact QuietOn.pure _
  | some st => exact interfaceSetAvailable_quiet _

theorem protoShellIfDownCb_quiet (i : ℕ) : Quiet (protoShellIfDownCb i) := by
  refine (setShell_quiet _).bind fun _ => QuietOn.after_read fun s => ?_
  cases s.shell with
  | none => exact QuietOn.pure _
  | some st =>
    refine QuietOn.ite (fun _ => linkLost_quiet.bind fun _ => ?_) fun _ => QuietOn.pure _
    exact (protoShellHandler_quiet .teardown).bind fun _ => QuietOn.pure _

theorem protoShellLinkUp_quiet (m : NotifyMessage) (keep : Bool) :
    Quiet (protoShellLinkUp g m keep) := by
  refine QuietOn.after_read fun s => (QuietOn.require _).bind fun _ => QuietOn.ask.bind fun _ => ?_
  refine QuietOn.bind (Quiet.modify fun _ => id) fun _ => QuietOn.after_read fun s => ?_
  cases s.shell with
  | none => exact QuietOn.pure _
  | some st =>
    have hup : Quiet (invoke (.protoEvent .up)) := Quiet.invoke fun _ => rfl
    refine QuietOn.ite (fun _ => QuietOn.pure _) fun _ => hup.bind fun _ => ?_
    exact (setShell_quiet _).bind fun _ => QuietOn.pure _

theorem protoShellUpdateLink_quiet (m : NotifyMessage) : Quiet (protoShellUpdateLink g m) := by
  have hdevice : Quiet (notifiedDevice m) := QuietOn.after_read fun s =>
    QuietOn.ite (fun _ => QuietOn.ask.bind fun _ => QuietOn.pure _) fun _ => QuietOn.pure _
  have hset : Quiet (protoShellSetLink g m) := by
    refine hdevice.bind fun dev => QuietOn.ite (fun _ => QuietOn.pure _) fun _ => ?_
    refine (interfaceSetL3Dev_quiet dev).bind fun _ => claimL3Dev_quiet.bind fun ret => ?_
    refine QuietOn.ite (fun _ => QuietOn.pure _) fun _ => Quiet.deviceCallbacks.bind fun _ => ?_
    exact protoShellLinkUp_quiet m false
  refine QuietOn.after_read fun s => ?_
  cases s.shell with
  | none => exact QuietOn.pure _
  | some st =>
    match m.linkUp with
    | none => exact QuietOn.pure _
    | some false => exact linkLost_quiet.bind fun _ => QuietOn.pure _
    | some true => exact QuietOn.ite (fun _ => protoShellLinkUp_quiet m true) fun _ => hset

theorem protoShellRunCommand_quiet (m : NotifyMessage) : Quiet (protoShellRunCommand g m) := by
  refine QuietOn.ite (fun _ => QuietOn.pure _) fun _ => QuietOn.ask.bind fun n => ?_
  refine QuietOn.after_read fun s => (QuietOn.require _).bind fun _ => ?_
  exact (setShell_quiet _).bind fun _ => QuietOn.pure _

theorem protoShellAddHostDependency_quiet (m : NotifyMessage) :
    Quiet (protoShellAddHostDependency g m) := by
  refine QuietOn.ite (fun _ => QuietOn.pure _) fun _ => (setShell_quiet _).bind fun _ => ?_
  refine (protoShellUpdateHostDep_quiet 0).bind fun _ => QuietOn.after_read fun s => ?_
  exact QuietOn.ite (fun _ => QuietOn.pure _) fun _ => QuietOn.pure _

theorem protoShellNotifyError_quiet (m : NotifyMessage) : Quiet (protoShellNotifyError m) := by
  unfold protoShellNotifyError
  cases m.error with
  | none => exact QuietOn.pure _
  | some data => exact QuietOn.ite (fun _ => QuietOn.pure _) fun _ => QuietOn.pure _

theorem protoShellSetAvailable_quiet (m : NotifyMessage) : Quiet (protoShellSetAvailable g m) := by
  unfold protoShellSetAvailable
  cases m.available with
  | none => exact QuietOn.pure _
  | some available => exact (interfaceSetAvailable_quiet available).bind fun _ => QuietOn.pure _

theorem protoShellSetupFailed_quiet (st : ProtoShellState) : Quiet (protoShellSetupFailed st) := by
  refine QuietOn.ite (fun _ => QuietOn.pure _) fun _ => ?_
  refine QuietOn.ite (fun _ => linkLost_quiet.bind fun _ => ?_) fun _ => ?_
  · exact (protoShellHandler_quiet .teardown).bind fun _ => QuietOn.pure _
  · exact (protoShellHandler_quiet .teardown).bind fun _ => QuietOn.pure _

theorem protoShellNotify_quiet (m : NotifyMessage) : Quiet (protoShellNotify g m) := by
  refine QuietOn.after_read fun s => ?_
  cases s.shell with
  | none => exact QuietOn.pure _
  | some st =>
    dsimp only
    split
    · exact QuietOn.ite (fun _ => QuietOn.pure _) fun _ => protoShellUpdateLink_quiet m
    · exact QuietOn.ite (fun _ => QuietOn.pure _) fun _ => protoShellRunCommand_quiet m
    · exact (setShell_quiet _).bind fun _ => QuietOn.pure _
    · exact protoShellNotifyError_quiet m
    · exact QuietOn.bind (Quiet.modify fun _ => id) fun _ => QuietOn.pure _
    · exact protoShellSetAvailable_quiet m
    · exact QuietOn.ite (fun _ => QuietOn.pure _) fun _ => protoShellAddHostDependency_quiet m
    · exact protoShellSetupFailed_quiet st
    · exact QuietOn.pure _

end Shell

/-- Where nothing may be removed nothing is, whatever the program. -/
theorem intact_of_not_removable {α : Type} (x : InterfaceProg α) {n : Trail}
    (hn : n.removed = false) (hkept : n.removable = false) {w : Watched} (hw : w.2 = n) :
    wp removalSpec (watch x) (fun _ t => t.2 = n) w := by
  have hspec : ∀ {p : InterfaceCall} {r : ℤ} {v t : Watched}, removalSpec p v r t → v.2 = n →
      t.2 = n := by
    intro p r v t h hv
    obtain ⟨hended, -⟩ := h (Or.inl (hv ▸ hn))
    rw [hv, Trail.reset_eq hn] at hended
    refine hended.intact hn ?_
    by_contra hremoved
    simp [(hended.removed (by simpa using hremoved)).2] at hkept
  induction x generalizing w with
  | ret a => exact hw
  | get next ih =>
    obtain ⟨s, n'⟩ := w
    cases hw
    change wp removalSpec (watch (next s)) _ (s, n'.access)
    rw [Trail.access_eq hn]
    exact ih s rfl
  | set u next ih =>
    obtain ⟨s, n'⟩ := w
    cases hw
    change n'.removed = false at hn
    change n'.removable = false at hkept
    change wp removalSpec (if (removalMonitor true).mayWrite s u n' = true then _ else .stuck) _ _
    split_ifs with hmay
    · have hfrees : frees s u = false := by simpa [removalMonitor, hkept] using hmay
      refine ih (w := (u, _)) ?_
      change (removalMonitor true).onWrite s u n' = n'
      simp [removalMonitor, hfrees, Trail.access_eq hn]
    · trivial
  | call p next ih => exact fun r t h => ih r (hspec h hw)
  | choose next ih => exact fun k => ih k hw
  | yield allowed next ih =>
    exact fun t ht => ih (ht.invariant (fun p v r u _ h hv => hspec h hv) hw)
  | stuck => trivial

theorem watchedAddDynamic_wp (new : Interface) {n : Trail} (hn : n.removed = false) {w : Watched}
    (hw : w.2 = n) : wp removalSpec (watchedAddDynamic true new) (fun _ t => Ended n t) w := by
  rw [watchedAddDynamic, wp_bind]
  refine wp_mono _ (fun _ t ht => ?_) (interfaceAdd_ends new n w hn hw)
  simp only [wp_bind, wp_read, wp_ite, wp_pure]
  refine ⟨fun htable => ?_, fun _ => ht⟩
  -- it is in the table, so it has not been removed
  have hremoved : t.2.removed = false := by
    by_contra h
    simp [(ht.removed (by simpa using h)).1] at htable
  exact wp_watch_modify hn (ht.intact hn hremoved) id (Ended.refl hn rfl)

/-- What the bodies do. Only the DOWN of a protocol may end with a removal. -/
theorem watchedCall_wp (p : InterfaceCall) {n : Trail} (hn : n.removed = false)
    (hdevice : isDeviceEvent p = true → n.removable = false) {w : Watched} (hw : w.2 = n) :
    wp removalSpec (watchedCall true p) (fun _ t => Ended n t ∧
      (t.2.removed = true → ∀ ev, p = .protoEvent ev → ev = .down)) w := by
  have hintact : ∀ {x : InterfaceProg ℤ},
      wp removalSpec (watch x) (fun _ t => t.2 = n) w → wp removalSpec (watch x) (fun _ t =>
        Ended n t ∧ (t.2.removed = true → ∀ ev, p = .protoEvent ev → ev = .down)) w := fun h =>
    wp_mono _ (fun _ t ht => ⟨Ended.refl hn ht, fun hr => absurd hr (by simp [ht, hn])⟩) h
  have hquiet : ∀ {x : InterfaceProg ℤ}, Quiet x → wp removalSpec (watch x) (fun _ t =>
      Ended n t ∧ (t.2.removed = true → ∀ ev, p = .protoEvent ev → ev = .down)) w := fun h =>
    hintact (h.ends hn hw fun _ _ ht => ht)
  have hends : ∀ {x : InterfaceProg ℤ}, Ends x → (∀ ev, p = .protoEvent ev → ev = .down) →
      wp removalSpec (watch x) (fun _ t => Ended n t ∧
        (t.2.removed = true → ∀ ev, p = .protoEvent ev → ev = .down)) w := fun h hp =>
    wp_mono _ (fun _ t ht => ⟨ht, fun _ => hp⟩) (h n w hn hw)
  cases p with
  | mainDevEvent ev | l3DevEvent ev | extDevEvent ev =>
    exact hintact (intact_of_not_removable _ hn (hdevice rfl) hw)
  | parentEvent ev dev =>
    exact hquiet ((interfaceAliasCb_quiet ev dev).bind fun _ => QuietOn.pure _)
  | addLink dev linkExt =>
    refine hquiet (QuietOn.bind ?_ fun _ => QuietOn.pure _)
    exact Quiet.deviceCallbacks.bind fun _ => interfaceAddLink_quiet dev linkExt
  | removeLink dev => exact hquiet ((interfaceRemoveLink_quiet dev).bind fun _ => QuietOn.pure _)
  | protoEvent ev =>
    cases ev with
    | up => exact hquiet (interfaceProtoUp_quiet.bind fun _ => QuietOn.pure _)
    | down => exact hends (interfaceProtoDown_ends.then_pure _) (by simp)
    | linkLost => exact hquiet (interfaceProtoLinkLost_quiet.bind fun _ => QuietOn.pure _)
    | renew => exact hquiet ((QuietOn.pure ()).bind fun _ => QuietOn.pure _)
  | setConfigState state => exact hends ((setConfigState_ends state).then_pure _) (by simp)
  | setUp => exact hquiet interfaceSetUp_quiet
  | setDown =>
    refine hends (Ends.then_pure (Ends.after ?_ fun _ => interfaceSetDown'_ends) _) (by simp)
    exact Quiet.modify fun _ => id
  | startPending => exact hquiet (interfaceStartPending_quiet.bind fun _ => QuietOn.pure _)
  | setConfigInit configInit =>
    exact hquiet (QuietOn.bind (Quiet.modify fun _ => id) fun _ => QuietOn.pure _)
  | reload new =>
    refine hends (Ends.after (Quiet.modify fun _ => id) fun _ => ?_) (by simp)
    exact (interfaceAdd_ends new).then_pure _
  | reloadWithout =>
    refine hends (Ends.after (Quiet.modify fun _ => id) fun _ => ?_) (by simp)
    exact interfaceFlush_ends.then_pure _
  | addDynamic new =>
    rw [watchedCall, wp_bind]
    exact wp_mono _ (fun _ t ht => ⟨ht, by simp⟩) (watchedAddDynamic_wp new hn hw)
  | remove => exact hends ((setConfigState_ends .remove).then_pure _) (by simp)
  | notify m => exact hquiet (protoShellNotify_quiet m)
  | scriptExit =>
    refine hends (Ends.then_pure (Ends.after (setShell_quiet _) fun _ => ?_) _) (by simp)
    exact protoShellTaskFinish_ends _
  | taskExit status =>
    refine hends (Ends.then_pure (Ends.after (setShell_quiet _) fun _ => ?_) _) (by simp)
    exact protoShellTaskFinish_ends _
  | teardownTimeout =>
    refine hends (Ends.then_pure (Ends.after (setShell_quiet _) fun _ => ?_) _) (by simp)
    exact protoShellTaskFinish_ends _
  | checkupTimeout => exact hquiet (protoShellCheckupTimeoutCb_quiet.bind fun _ => QuietOn.pure _)
  | dependencyUp i => exact hquiet ((protoShellUpdateHostDep_quiet i).bind fun _ => QuietOn.pure _)
  | dependencyDown i => exact hquiet ((protoShellIfDownCb_quiet i).bind fun _ => QuietOn.pure _)

theorem watchedBody_verified : Verified (watchedBody true) removalSpec := by
  intro p w
  rw [watchedBody, wp_observed]
  apply wp_imp
  intro hstart
  have hn : (enter p w.1 w.2).removed = false := by
    rcases hstart with h | h <;> simp [enter, h]
  have hdevice : isDeviceEvent p = true → (enter p w.1 w.2).removable = false := by
    intro hp
    cases p <;> simp_all [enter, mayRemove, isDeviceEvent]
  refine wp_mono _ ?_ (watchedCall_wp p hn hdevice (w := (w.1, enter p w.1 w.2)) rfl)
  rintro _ t ⟨hended, hdown⟩
  have hmay : t.2.removed = true → w.2.removable = true ∧ mayRemove p w.1 = true := by
    intro h
    simpa [enter] using (hended.removed h).2
  refine ⟨⟨hended.touched, rfl, fun h => ⟨(hended.removed h).1, (hmay h).1⟩⟩, fun h => ?_⟩
  cases p with
  | protoEvent ev =>
    obtain rfl : ev = .down := hdown h ev rfl
    exact (hmay h).2
  | _ => exact (hmay h).2

/-- Which calls may come when no other is under way. -/
def watchedCallable (p : InterfaceCall) (w : Watched) : Bool := interfaceCallable p w.1

/-- No interface of the name is in the table, and nothing has been noted. -/
def unwatched : Watched := (noInterface, {})

theorem run_of_watched {guarded : Bool} {w : Watched}
    (run : Reachable (watchedBody guarded) watchedCallable unwatched w) :
    Reachable (interfaceBody {}) interfaceCallable noInterface w.1 :=
  run.of_shadows (watchedBody_shadows guarded)

/-- In a run in which an interface is not removed out of an event of a device, and out of the DOWN
of an immediate protocol only if that answers a set-down that is not forced, a removed interface
is not touched again by the call that has removed it. -/
theorem removed_untouched_of_run {w : Watched}
    (run : Reachable (watchedBody true) watchedCallable unwatched w) : w.2.touched = false := by
  have hinvariant : w.2.touched = false ∧ (w.2.removed = true → w.1.inTable = false) := by
    refine run.invariant (I := fun w => w.2.touched = false ∧
      (w.2.removed = true → w.1.inTable = false)) watchedBody_verified ?_ ⟨rfl, nofun⟩
    rintro p s r t hcallable hspec ⟨htouched, hremoved⟩
    have hstart : s.2.removed = false ∨ byName p = true := by
      by_contra hneither
      obtain ⟨hs, hp⟩ := not_or.mp hneither
      have htable := hremoved (by simpa using hs)
      cases p <;> simp_all [watchedCallable, interfaceCallable, byName]
    obtain ⟨hended, -⟩ := hspec hstart
    exact ⟨hended.touched.trans htouched, fun h => (hended.removed h).1⟩
  exact hinvariant.1

/-- A tunnel that a script adds, and its way up. -/
def tunnel : Interface := { name := "tun", ifname := some "tun0" }

def tunnelChoices : List (Choice InterfaceCall) :=
  [.pick 0, .pick 1, .enter (.mainDevEvent .add), .enter (.mainDevEvent .up),
    .enter (.mainDevEvent .linkUp), .resume, .pick 0, .resume]

/-- The tunnel is set down, which removes it. -/
theorem removed_untouched_of_run_setDown : ∃ w,
    Reachable (watchedBody true) watchedCallable unwatched w ∧
      w.2.removed = true ∧ w.2.touched = false := by
  obtain ⟨w, hw, hremoved⟩ := exists_reachable (watchedBody true) watchedCallable unwatched
    (fun w => w.2.removed = true) 300
    [(.addDynamic tunnel, tunnelChoices), (.setDown, [.resume, .resume, .resume])]
    (by decide +kernel)
  exact ⟨w, hw, hremoved, removed_untouched_of_run hw⟩

/-- The tunnel loses its device, is removed for that, and is then flushed. -/
theorem removed_touched :
    ¬∀ w, Reachable (watchedBody false) watchedCallable unwatched w → w.2.touched = false := by
  intro h
  obtain ⟨w, hw, htouched⟩ := exists_reachable (watchedBody false) watchedCallable unwatched
    (fun w => w.2.touched = true) 300
    [(.addDynamic tunnel, tunnelChoices),
      (.mainDevEvent .remove, [.resume, .resume, .resume, .pick 0])] (by decide +kernel)
  simp [h w hw] at htouched

end Netifd.InterfaceRemoval
