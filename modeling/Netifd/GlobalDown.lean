import Netifd.UndisturbedRuns
import Mathlib.Logic.Function.Basic

/-!
# Taking all interfaces down

`interface_set_down` without an interface, with which a restart begins. It tells every interface to
go down, but unlike the same call for one interface it leaves `autostart` as it is; so an interface
whose protocol answers at once restarts out of the answer.
-/

namespace Netifd.GlobalDown
open ReentrantProgram ReentrantProgram.Prog QuietEvents UndisturbedRuns

variable {ι : Type}

/-- `vlist_for_each_element` over the interfaces, with those that it has still to come to. -/
structure Loop (ι : Type) where
  live : ι → LiveInterface
  todo : List ι

/-- What happens while the loop runs: it comes to the next interface, or a device or another
interface has some news for one. What comes to an interface inside of a call of another is a step
of its own here; `body` is the machine of those that the loop has come to. -/
inductive LoopStep [DecidableEq ι] (body : InterfaceCall → InterfaceProg ℤ) : Loop ι → Loop ι → Prop
  | next {live : ι → LiveInterface} {i : ι} {todo : List ι} {t : LiveInterface}
      (run : Exec body (interfaceSetDown' {} false) (live i) () t) :
      LoopStep body ⟨live, i :: todo⟩ ⟨Function.update live i t, todo⟩
  | later {live : ι → LiveInterface} {i : ι} {todo : List ι} {p : InterfaceCall} {r : ℤ}
      {t : LiveInterface} (hi : i ∈ todo) (news : isNews p = true)
      (run : Exec (interfaceBody {}) (interfaceBody {} p) (live i) r t) :
      LoopStep body ⟨live, todo⟩ ⟨Function.update live i t, todo⟩
  | passed {live : ι → LiveInterface} {i : ι} {todo : List ι} {p : InterfaceCall} {r : ℤ}
      {t : LiveInterface} (hi : i ∉ todo) (news : isNews p = true)
      (run : Exec body (body p) (live i) r t) :
      LoopStep body ⟨live, todo⟩ ⟨Function.update live i t, todo⟩

abbrev LoopRun [DecidableEq ι] (body : InterfaceCall → InterfaceProg ℤ) : Loop ι → Loop ι → Prop :=
  Relation.ReflTransGen (LoopStep body)

/-- The interfaces in the order of their tree, between calls. -/
structure Family (ι : Type) where
  all : List ι
  nodup : all.Nodup
  live : ι → LiveInterface
  between : ∀ i ∈ all, Lifecycle {} ⟨true, .any⟩ (live i)

def Family.start (f : Family ι) : Loop ι := ⟨f.live, f.all⟩

/-- When the call returns, no interface is up or being set up. -/
def Family.AllDown [DecidableEq ι] (body : InterfaceCall → InterfaceProg ℤ) (f : Family ι) :
    Prop :=
  ∀ live, LoopRun body f.start ⟨live, []⟩ →
    ∀ i ∈ f.all, ¬((live i).state = .setup ∨ (live i).state = .up)

theorem LoopRun.of_quiet [DecidableEq ι] {l l' : Loop ι} (h : LoopRun quietBody l l') :
    LoopRun (interfaceBody {}) l l' := by
  refine Relation.ReflTransGen.mono (fun l l' hstep => ?_) _ _ h
  cases hstep with
  | next run => exact .next run.of_guarded
  | later hi news run => exact .later hi news run
  | passed hi news run => exact .passed hi news run.of_guarded.unguarded

/-- The loop has still to come to them, and whatever they were told, they are as between calls. -/
structure Ahead (f : Family ι) (l : Loop ι) : Prop where
  subset : l.todo ⊆ f.all
  nodup : l.todo.Nodup
  between : ∀ i ∈ l.todo, Lifecycle {} ⟨true, .any⟩ (l.live i)

variable {f : Family ι} {l l' : Loop ι}

theorem ahead_start (f : Family ι) : Ahead f f.start :=
  ⟨List.Subset.refl _, f.nodup, f.between⟩

variable [DecidableEq ι]

theorem news_keeps {p : InterfaceCall} (hp : isNews p = true) {s t : LiveInterface} {r : ℤ}
    (hs : Lifecycle {} ⟨true, .any⟩ s) (hrun : Exec (interfaceBody {}) (interfaceBody {} p) s r t) :
    Lifecycle {} ⟨true, .any⟩ t := by
  refine (hrun.spec (interfaceBody_lifecycle {})).1 _ ?_ hs
  cases p <;> trivial

theorem Ahead.step (h : Ahead f l) (hstep : LoopStep quietBody l l') : Ahead f l' := by
  cases hstep with
  | @next live i todo t run =>
    obtain ⟨hi, hnodup⟩ := List.nodup_cons.mp h.nodup
    refine ⟨fun j hj => h.subset (.tail i hj), hnodup, ?_⟩
    refine (Function.forall_update_iff live fun j s => j ∈ todo → Lifecycle {} _ s).mpr ⟨?_, ?_⟩
    · exact fun hmem => absurd hmem hi
    · exact fun j _ hj => h.between j (.tail i hj)
  | @later live i todo p r t hi news run =>
    refine ⟨h.subset, h.nodup, ?_⟩
    refine (Function.forall_update_iff live fun j s => j ∈ todo → Lifecycle {} _ s).mpr ⟨?_, ?_⟩
    · exact fun _ => news_keeps news (h.between i hi) run
    · exact fun j _ hj => h.between j hj
  | @passed live i todo p r t hi news run =>
    refine ⟨h.subset, h.nodup, ?_⟩
    refine (Function.forall_update_iff live fun j s => j ∈ todo → Lifecycle {} _ s).mpr ⟨?_, ?_⟩
    · exact fun hmem => absurd hmem hi
    · exact fun j _ hj => h.between j hj

theorem ahead_of_run (h : LoopRun quietBody f.start l) : Ahead f l := by
  induction h with
  | refl => exact ahead_start f
  | tail _ hstep ih => exact ih.step hstep

theorem exists_finish (h : Ahead f l) : ∃ live,
    LoopRun quietBody l ⟨live, []⟩ ∧ ∀ j ∉ l.todo, live j = l.live j := by
  obtain ⟨live, todo⟩ := l
  induction todo generalizing live with
  | nil => exact ⟨live, .refl, fun _ _ => rfl⟩
  | cons i todo ih =>
    obtain ⟨_, t, hrun⟩ := interfaceSetDown'_ends (h.between i (.head _))
    have hstep : LoopStep quietBody ⟨live, i :: todo⟩ ⟨Function.update live i t, todo⟩ := .next hrun
    obtain ⟨last, hlast, hsame⟩ := ih _ (h.step hstep)
    refine ⟨last, .head hstep hlast, fun j hj => ?_⟩
    rw [List.mem_cons, not_or] at hj
    exact (hsame j hj.2).trans (Function.update_of_ne hj.1 t live)

/-- Those that the loop has come to are down, or wait for their teardown. -/
def Passed (f : Family ι) (l : Loop ι) : Prop := ∀ i ∈ f.all, i ∉ l.todo → Low (l.live i)

theorem Low.news {p : InterfaceCall} (hp : isNews p = true) {s t : LiveInterface} {r : ℤ}
    (hs : Low s) (hrun : Exec quietBody (quietBody p) s r t) : Low t := by
  have hspec := hrun.spec quietBody_verified
  refine hs.imp (hspec.1 (.inl hp)) (hspec.2.1 .asleep ?_)
  cases p <;> first | rfl | cases hp

theorem Passed.step (ha : Ahead f l) (h : Passed f l) (hstep : LoopStep quietBody l l')
    (hrises : ∀ i todo, l.todo = i :: todo → ¬Rises (l.live i)) : Passed f l' := by
  cases hstep with
  | @next live i todo t run =>
    refine (Function.forall_update_iff live fun j s => j ∈ f.all → j ∉ todo → Low s).mpr ⟨?_, ?_⟩
    · intro _ _
      have hlow := interfaceSetDown'_low (ha.between i (.head _)) (hrises i todo rfl)
      exact run.sound quietBody_verified hlow
    · intro j hji hj hpassed
      exact h j hj fun hmem => hpassed ((List.mem_cons.mp hmem).resolve_left hji)
  | @later live i todo p r t hi news run =>
    refine (Function.forall_update_iff live fun j s => j ∈ f.all → j ∉ todo → Low s).mpr ⟨?_, ?_⟩
    · exact fun _ hpassed => absurd hi hpassed
    · exact fun j _ hj hpassed => h j hj hpassed
  | @passed live i todo p r t hi news run =>
    refine (Function.forall_update_iff live fun j s => j ∈ f.all → j ∉ todo → Low s).mpr ⟨?_, ?_⟩
    · exact fun hj _ => Low.news news (h i hj hi) run
    · exact fun j _ hj hpassed => h j hj hpassed

/-- With quiet news only, everything is down in the end exactly if the loop never comes to an
interface that rises. -/
theorem allDown_iff (f : Family ι) : f.AllDown quietBody ↔
    ∀ live i todo, LoopRun quietBody f.start ⟨live, i :: todo⟩ → ¬Rises (live i) := by
  constructor
  · intro h live i todo hrun hrises
    have hahead : Ahead f ⟨live, i :: todo⟩ := ahead_of_run hrun
    obtain ⟨_, t, hvisit, hup⟩ := interfaceSetDown'_rises (hahead.between i (.head _)) hrises
    have hstep : LoopStep quietBody ⟨live, i :: todo⟩ ⟨Function.update live i t, todo⟩ :=
      .next hvisit
    obtain ⟨last, hlast, hsame⟩ := exists_finish (hahead.step hstep)
    have hi : last i = t :=
      (hsame i (List.nodup_cons.mp hahead.nodup).1).trans (Function.update_self i t live)
    refine h last (hrun.trans (.head hstep hlast)) i (hahead.subset (.head _)) (.inr ?_)
    rw [hi, hup]
  · intro hrises live hrun i hi
    have hpassed : ∀ l, LoopRun quietBody f.start l → Passed f l := by
      intro l hl
      induction hl with
      | refl => exact fun j hj hpassed => absurd hj hpassed
      | @tail l l' hprefix hstep ih =>
        refine ih.step (ahead_of_run hprefix) hstep fun j todo htodo => ?_
        refine hrises l.live j todo ?_
        rw [← htodo]
        exact hprefix
    exact (hpassed _ hrun i hi (by simp)).not_running

/-- An interface of a protocol that answers at once. -/
def lanInterface : Interface :=
  { name := "lan", ifname := some "eth0"
    protoHandler := { name := "static", immediate := true } }

/-- It comes up with its device. -/
def lanUp : List (InterfaceCall × List (Choice InterfaceCall)) :=
  [(.reload lanInterface, [.pick 0, .pick 1, .enter (.mainDevEvent .add), .resume, .pick 0,
    .enter (.mainDevEvent .up), .enter (.mainDevEvent .linkUp), .pick 1, .pick 0, .resume])]

/-- It is told to go down: the device goes down when it is released, and is claimed again. -/
def lanAgain : Option (LiveInterface × LiveInterface) := do
  let s ← replay (interfaceBody {}) interfaceCallable 200 lanUp noInterface
  let result ← run (interfaceBody {}) 200 (interfaceSetDown' {} false) s
    [.enter (.mainDevEvent .down), .resume, .resume, .enter (.mainDevEvent .up), .pick 1, .pick 0,
      .resume, .pick 0]
  pure (s, result.2.1)

/-- It is up again before the loop is done. -/
theorem lan_up_again : ¬∀ f : Family ℕ,
    (∀ i ∈ f.all, Reachable (interfaceBody {}) interfaceCallable noInterface (f.live i)) →
      f.AllDown (interfaceBody {}) := by
  intro h
  have hcomputed : lanAgain.map (fun r => r.2.state) = some .up := by decide
  obtain ⟨states, hagain, hup⟩ := Option.map_eq_some_iff.mp hcomputed
  simp only [lanAgain, Option.bind_eq_bind, Option.bind_eq_some_iff] at hagain
  obtain ⟨s, hreplay, ⟨⟨⟩, t, rest⟩, hrun, hpair⟩ := hagain
  cases hpair
  have hreachable := replay_sound hreplay
  let family : Family ℕ :=
    { all := [0], nodup := List.nodup_singleton 0, live := fun _ => s
      between := fun _ _ => lifecycle_of_reachable hreachable }
  have hvisit : LoopRun (interfaceBody {}) family.start
      ⟨Function.update family.live 0 t, []⟩ := .single (.next (run_sound _ _ _ _ _ hrun))
  refine h family (fun _ _ => hreachable) _ hvisit 0 (List.mem_singleton.mpr rfl) (.inr ?_)
  simpa using hup

end Netifd.GlobalDown
