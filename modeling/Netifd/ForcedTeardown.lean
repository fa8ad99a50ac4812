import Netifd.InterfaceLifecycle

/-!
# Forced teardowns

`__interface_set_down` hands `force` on to the handler of the protocol. None of the handlers looks
at it: an immediate protocol answers every teardown with DOWN, and a shell protocol starts the
script of the teardown or waits for one that is running.
-/

namespace Netifd.ForcedTeardown
open ReentrantProgram ReentrantProgram.Prog

/-- An interface whose protocol can be told to tear down: it is in `IFS_SETUP` or `IFS_UP`, with a
handler that could be attached. -/
structure Running where
  iface : LiveInterface
  proto : InterfaceProtoState
  attached : iface.proto = some proto
  valid : proto.cb ≠ .invalid
  coherent : proto.Coherent
  state : iface.state = .setup ∨ iface.state = .up

theorem running_of_lifecycle {s : LiveInterface} (hlife : Lifecycle {} ⟨true, .any⟩ s)
    (hstate : s.state = .setup ∨ s.state = .up) : ∃ r : Running, r.iface = s := by
  have hdown : s.state ≠ .down := by
    rcases hstate with hstate | hstate
    · simp [hstate]
    · simp [hstate]
  obtain ⟨proto, hproto, hvalid⟩ := hlife.attached hdown
  exact ⟨⟨s, proto, hproto, hvalid, hlife.coherent proto hproto, hstate⟩, rfl⟩

theorem exists_running {s : LiveInterface}
    (h : Reachable (interfaceBody {}) interfaceCallable noInterface s)
    (hstate : s.state = .setup ∨ s.state = .up) : ∃ r : Running, r.iface = s :=
  running_of_lifecycle (lifecycle_of_reachable h) hstate

/-- The machine in which no handler ever reports DOWN. -/
def silentBody : InterfaceCall → InterfaceProg ℤ
  | .protoEvent .down => .stuck
  | p => interfaceBody {} p

/-- `__interface_set_down` with `force`. -/
def forcedDown : InterfaceProg Unit := interfaceSetDown' {} true

/-- There is no run of a forced teardown in which the handler has not reported DOWN. -/
def Running.Reports (r : Running) : Prop := ¬Ends silentBody forcedDown r.iface

/-- No process of a shell protocol is pending after a forced teardown; other protocols have
none. -/
def Running.Childless (r : Running) : Prop :=
  ∀ t, Exec (interfaceBody {}) forcedDown r.iface () t → r.iface.isShell = true →
    ∀ st, t.shell = some st → st.scriptTask = false ∧ st.protoTask = false

/-- The teardown is immediate. -/
def Running.Immediate (r : Running) : Prop := r.Reports ∧ r.Childless

variable {r : Running}

theorem Running.isShell_eq (r : Running) : r.iface.isShell = (r.proto.cb == .shell) :=
  Netifd.isShell_eq r.attached

/-- In the silent machine no call reports DOWN. -/
def silentSpec : Spec LiveInterface InterfaceCall := fun p _ _ _ => p ≠ .protoEvent .down

theorem silentBody_verified : Verified silentBody silentSpec := by
  intro p s
  by_cases hdown : p = .protoEvent .down
  · subst hdown
    trivial
  · exact wp_mono _ (fun _ _ _ => hdown) (wp_trivial _ _ s)

theorem protoCb_teardown {proto : InterfaceProtoState} (hvalid : proto.cb ≠ .invalid)
    (hshell : proto.cb ≠ .shell) : protoCb {} proto .teardown = pure 0 := by
  unfold protoCb
  cases hcb : proto.cb with
  | none => rfl
  | static => rfl
  | shell => exact absurd hcb hshell
  | invalid => exact absurd hcb hvalid

theorem protoTeardown_answers {s : LiveInterface} {proto : InterfaceProtoState}
    (hproto : s.proto = some proto) (hvalid : proto.cb ≠ .invalid) (hshell : proto.cb ≠ .shell)
    (himmediate : proto.handler.immediate = true) (Q : ℤ → LiveInterface → Prop) :
    wp silentSpec (interfaceProtoEvent {} .teardown) Q s := by
  rw [interfaceProtoEvent, wp_bind, wp_read, hproto]
  dsimp only
  rw [protoCb_teardown hvalid hshell, wp_bind, wp_pure, if_neg (by simp [himmediate]), wp_bind,
    wp_invoke]
  exact fun _ _ hspec => absurd rfl hspec

theorem forcedDown_answers (hshell : r.proto.cb ≠ .shell) :
    wp silentSpec forcedDown (fun _ _ => False) r.iface := by
  have himmediate : r.proto.handler.immediate = true := (r.coherent r.valid).mpr hshell
  rw [forcedDown, interfaceSetDown', wp_bind, wp_read]
  rcases r.state with hsetup | hup
  · rw [hsetup]
    simp only [wp_bind, wp_modify, reduceCtorEq, if_false]
    refine protoTeardown_answers ?_ r.valid hshell himmediate _
    exact r.attached
  · rw [hup]
    simp only [wp_bind, wp_modify, if_true, interfaceEvent]
    refine protoTeardown_answers ?_ r.valid hshell himmediate _
    exact r.attached

theorem reports_of_immediate (hshell : r.proto.cb ≠ .shell) : r.Reports := by
  rintro ⟨a, t, hrun⟩
  exact hrun.sound silentBody_verified (forcedDown_answers hshell)

variable {body : InterfaceCall → InterfaceProg ℤ}

theorem setShell_ends (f : ProtoShellState → ProtoShellState) (s : LiveInterface) :
    Ends body (setShell f) s := Ends.modify _

theorem startScript_ends (s : LiveInterface) : Ends body startScript s :=
  Ends.ask_bind 0 <| (setShell_ends _ s).bind fun _ _ => Ends.pure _

theorem protoShellHandler_ends (cmd : InterfaceProtoCmd) (s : LiveInterface) :
    Ends body (protoShellHandler cmd) s := by
  apply Ends.read_bind
  cases s.shell with
  | none => exact Ends.pure _
  | some st =>
    refine (setShell_ends _ s).bind fun _ t => ?_
    cases (protoShellCommand st cmd).2 with
    | some result => exact Ends.pure _
    | none => exact startScript_ends t

theorem interfaceFlushState_ends (s : LiveInterface) : Ends body interfaceFlushState s := by
  apply Ends.read_bind
  refine Ends.ite (fun _ => Ends.pure _) fun _ => Ends.read_bind ?_
  refine Ends.ite (fun _ => ?_) fun _ => Ends.pure _
  exact Ends.modify_bind (Ends.callbacks _)

theorem protoTeardown_silent {s : LiveInterface} {proto : InterfaceProtoState}
    (hproto : s.proto = some proto) (hshell : proto.cb = .shell)
    (hlater : proto.handler.immediate = false) :
    Ends body (interfaceProtoEvent {} .teardown) s := by
  apply Ends.read_bind
  rw [hproto]
  have hcb : protoCb {} proto .teardown = protoShellHandler .teardown := by
    unfold protoCb
    rw [hshell]
  dsimp only
  rw [hcb]
  refine (protoShellHandler_ends .teardown s).bind fun ret t => ?_
  rw [if_pos (Or.inr hlater)]
  exact Ends.pure ret

theorem interfaceSetDown'_silent (hshell : r.proto.cb = .shell) (force : Bool) :
    Ends body (interfaceSetDown' {} force) r.iface := by
  have hlater : r.proto.handler.immediate = false := by
    have hcoherent := r.coherent r.valid
    simpa [hshell] using hcoherent
  have hflush : ∀ t, Ends body (if force = true then interfaceFlushState else pure ()) t :=
    fun t => Ends.ite (fun _ => interfaceFlushState_ends t) fun _ => Ends.pure _
  apply Ends.read_bind
  rcases r.state with hsetup | hup
  · rw [hsetup]
    refine Ends.modify_bind (Ends.bind ?_ fun _ t => hflush t)
    exact protoTeardown_silent (by exact r.attached) hshell hlater
  · rw [hup]
    refine Ends.modify_bind (Ends.modify_bind (Ends.bind ?_ fun _ t => hflush t))
    exact protoTeardown_silent (by exact r.attached) hshell hlater

theorem not_reports_of_shell (hshell : r.proto.cb = .shell) : ¬r.Reports :=
  not_not_intro (interfaceSetDown'_silent hshell true)

/-- A forced teardown is immediate exactly if the protocol is not a shell protocol. -/
theorem forcedDown_immediate_iff (r : Running) : r.Immediate ↔ r.iface.isShell = false := by
  rw [r.isShell_eq, beq_eq_false_iff_ne]
  constructor
  · exact fun himmediate hshell => not_reports_of_shell hshell himmediate.1
  · intro hshell
    refine ⟨reports_of_immediate hshell, fun _ _ hcb => ?_⟩
    rw [r.isShell_eq] at hcb
    exact absurd (by simpa using hcb) hshell

/-- The script of a setup is running when the forced teardown comes: it goes on, and nothing is
reported. -/
theorem forcedDown_waits : ¬∀ r : Running,
    Reachable (interfaceBody {}) interfaceCallable noInterface r.iface → r.Immediate := by
  intro h
  obtain ⟨s, hs, hsetup, hshell⟩ := exists_reachable (interfaceBody {}) interfaceCallable
    noInterface (fun s => s.state = .setup ∧ s.isShell = true) 200
    [(.reload dhcpInterface, dhcpChoices)] (by decide)
  obtain ⟨r, rfl⟩ := exists_running hs (.inl hsetup)
  rw [r.isShell_eq] at hshell
  exact not_reports_of_shell (by simpa using hshell) (h r hs).1

end Netifd.ForcedTeardown
