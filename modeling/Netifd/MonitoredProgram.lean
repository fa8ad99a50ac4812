import Netifd.ReentrantProgram
import Mathlib.Tactic.Common

/-!
# Programs under observation

A monitor sees every read and every write of a program and keeps notes of its own beside the
state. It may leave runs out at a write, and does nothing else to them: what a program does
under observation is what it does.
-/

namespace ReentrantProgram
open Prog

/-- What is noted at a read and at a write, and which writes are considered. -/
structure Monitor (σ μ : Type) where
  onRead : σ → μ → μ
  onWrite : σ → σ → μ → μ
  mayWrite : σ → σ → μ → Bool

variable {σ ρ μ α β : Type}

/-- A program under observation. -/
def monitor (m : Monitor σ μ) : Prog σ ρ α → Prog (σ × μ) ρ α
  | .ret a => .ret a
  | .get next => .get fun w => .set (w.1, m.onRead w.1 w.2) (monitor m (next w.1))
  | .set u next => .get fun w =>
    if m.mayWrite w.1 u w.2 then .set (u, m.onWrite w.1 u w.2) (monitor m next) else .stuck
  | .call p next => .call p fun r => monitor m (next r)
  | .choose next => .choose fun n => monitor m (next n)
  | .yield allowed next => .yield allowed (monitor m next)
  | .stuck => .stuck

/-- A call under observation: notes are taken at its start and at its end, where those of the
start are there again. -/
def observed (enter : σ → μ → μ) (leave : μ → μ → μ) (x : Prog (σ × μ) ρ α) :
    Prog (σ × μ) ρ α := do
  let w ← read
  modify fun w => (w.1, enter w.1 w.2)
  let a ← x
  modify fun t => (t.1, leave w.2 t.2)
  pure a

section Rules

variable (m : Monitor σ μ) (spec : Spec (σ × μ) ρ)

theorem monitor_bind (x : Prog σ ρ α) (f : α → Prog σ ρ β) :
    monitor m (x >>= f) = monitor m x >>= fun a => monitor m (f a) := by
  change monitor m (x.bind f) = (monitor m x).bind fun a => monitor m (f a)
  induction x with
  | ret a => rfl
  | get next ih =>
    simp only [Prog.bind, monitor]
    congr 1
    funext w
    rw [ih w.1]
  | set u next ih =>
    simp only [Prog.bind, monitor]
    congr 1
    funext w
    split_ifs
    · simp only [Prog.bind, ih]
    · rfl
  | call p next ih =>
    simp only [Prog.bind, monitor]
    congr 1
    funext r
    rw [ih r]
  | choose next ih =>
    simp only [Prog.bind, monitor]
    congr 1
    funext n
    rw [ih n]
  | yield allowed next ih => simp only [Prog.bind, monitor, ih]
  | stuck => rfl

@[simp] theorem monitor_pure (a : α) : monitor m (pure a : Prog σ ρ α) = pure a := rfl

theorem monitor_ite (c : Prop) [Decidable c] (x y : Prog σ ρ α) :
    monitor m (if c then x else y) = if c then monitor m x else monitor m y := by
  split_ifs <;> rfl

@[simp] theorem monitor_ask : monitor m (ask : Prog σ ρ ℕ) = ask := rfl

@[simp] theorem monitor_invoke (p : ρ) : monitor m (invoke p) = invoke p := rfl

@[simp] theorem monitor_callbacks (allowed : ρ → Bool) :
    monitor m (callbacks allowed) = callbacks allowed := rfl

@[simp] theorem monitor_require (b : Bool) :
    monitor m (require b : Prog σ ρ Unit) = require b := by cases b <;> rfl

@[simp] theorem wp_monitor_read (Q : σ → σ × μ → Prop) (w : σ × μ) :
    wp spec (monitor m read) Q w = Q w.1 (w.1, m.onRead w.1 w.2) := rfl

@[simp] theorem wp_monitor_modify (f : σ → σ) (Q : Unit → σ × μ → Prop) (w : σ × μ) :
    wp spec (monitor m (modify f)) Q w = (m.mayWrite w.1 (f w.1) (m.onRead w.1 w.2) = true →
      Q () (f w.1, m.onWrite w.1 (f w.1) (m.onRead w.1 w.2))) := by
  change wp spec (if m.mayWrite w.1 (f w.1) (m.onRead w.1 w.2) then _ else _) Q _ = _
  by_cases h : m.mayWrite w.1 (f w.1) (m.onRead w.1 w.2) = true <;> simp [h, wp, monitor]

theorem wp_observed (enter : σ → μ → μ) (leave : μ → μ → μ) (x : Prog (σ × μ) ρ α)
    (Q : α → σ × μ → Prop) (w : σ × μ) :
    wp spec (observed enter leave x) Q w =
      wp spec x (fun a t => Q a (t.1, leave w.2 t.2)) (w.1, enter w.1 w.2) := by
  simp only [observed, wp_bind, wp_read, wp_modify]
  rfl

end Rules

/-- Every write of a program is one of `W`, whatever there is after a call and at a yield. -/
def WritesAt (W : σ → σ → Prop) : Prog σ ρ α → σ → Prop
  | .ret _, _ => True
  | .get next, s => WritesAt W (next s) s
  | .set u next, s => W s u ∧ WritesAt W next u
  | .call _ next, _ => ∀ r u, WritesAt W (next r) u
  | .choose next, s => ∀ n, WritesAt W (next n) s
  | .yield _ next, _ => ∀ u, WritesAt W next u
  | .stuck, _ => True

def Writes (W : σ → σ → Prop) (x : Prog σ ρ α) : Prop := ∀ s, WritesAt W x s

namespace Writes

variable {W : σ → σ → Prop}

theorem pure (a : α) : Writes W (Pure.pure a : Prog σ ρ α) := fun _ => trivial

theorem bind {x : Prog σ ρ α} {f : α → Prog σ ρ β} (hx : Writes W x)
    (hf : ∀ a, Writes W (f a)) : Writes W (x >>= f) := by
  intro s
  have hs := hx s
  clear hx
  change WritesAt W (x.bind f) s
  induction x generalizing s with
  | ret a => exact hf a s
  | get next ih => exact ih s s hs
  | set u next ih => exact ⟨hs.1, ih u hs.2⟩
  | call p next ih => exact fun r u => ih r u (hs r u)
  | choose next ih => exact fun n => ih n s (hs n)
  | yield allowed next ih => exact fun u => ih u (hs u)
  | stuck => trivial

theorem read_bind {f : σ → Prog σ ρ β} (hf : ∀ s, Writes W (f s)) : Writes W (read >>= f) :=
  fun s => hf s s

theorem ite {c : Prop} [Decidable c] {x y : Prog σ ρ α} (hx : Writes W x) (hy : Writes W y) :
    Writes W (if c then x else y) := by
  split_ifs
  · exact hx
  · exact hy

theorem whenever {c : Prop} [Decidable c] {x : Prog σ ρ Unit} (hx : Writes W x) :
    Writes W (Prog.whenever c x) := ite hx (pure ())

theorem modify {f : σ → σ} (hf : ∀ s, W s (f s)) : Writes W (Prog.modify f : Prog σ ρ Unit) :=
  fun s => ⟨hf s, trivial⟩

theorem ask : Writes W (Prog.ask : Prog σ ρ ℕ) := fun _ _ => trivial

theorem require (b : Bool) : Writes W (Prog.require b : Prog σ ρ Unit) := by
  intro s
  cases b with
  | false => trivial
  | true => trivial

theorem callbacks (allowed : ρ → Bool) : Writes W (Prog.callbacks allowed : Prog σ ρ Unit) :=
  fun _ _ => trivial

theorem preserves {m : Monitor σ μ} {spec : Spec (σ × μ) ρ} {J : σ × μ → Prop}
    (hread : ∀ s n, J (s, n) → J (s, m.onRead s n))
    (hwrite : ∀ s u n, W s u → J (s, n) → J (u, m.onWrite s u n))
    (hspec : ∀ p w r t, spec p w r t → J w → J t) {x : Prog σ ρ α} (hx : Writes W x) :
    Preserves spec J (monitor m x) := by
  rintro ⟨s, n⟩ hs
  have hat := hx s
  clear hx
  induction x generalizing s n with
  | ret a => exact hs
  | get next ih => exact ih s s (m.onRead s n) (hread s n hs) hat
  | set u next ih =>
    change wp spec (if m.mayWrite s u n = true then _ else _) _ _
    rw [wp_ite]
    exact ⟨fun _ => ih u _ (hwrite s u n hat.1 hs) hat.2, fun _ => trivial⟩
  | call p next ih => exact fun r u hu => ih r u.1 u.2 (hspec p _ r u hu hs) (hat r u.1)
  | choose next ih => exact fun k => ih k s n hs (hat k)
  | yield allowed next ih =>
    intro u hu
    have hkept : J u := hu.invariant (fun p v r t _ => hspec p v r t) hs
    exact ih u.1 u.2 hkept (hat u.1)
  | stuck => trivial

end Writes

/-- A program does what another does and takes notes. -/
inductive Shadows : {α : Type} → σ → Prog (σ × μ) ρ α → Prog σ ρ α → Prop
  | ret {α : Type} {s : σ} (a : α) : Shadows s (.ret a) (.ret a)
  | get {α : Type} {s : σ} {next' : σ × μ → Prog (σ × μ) ρ α} {next : σ → Prog σ ρ α}
      (h : ∀ n, Shadows s (next' (s, n)) (next s)) : Shadows s (.get next') (.get next)
  | set {α : Type} {s u : σ} {n : μ} {next' : Prog (σ × μ) ρ α} {next : Prog σ ρ α}
      (h : Shadows u next' next) : Shadows s (.set (u, n) next') (.set u next)
  | look {α : Type} {s : σ} {next' : σ × μ → Prog (σ × μ) ρ α} {x : Prog σ ρ α}
      (h : ∀ n, Shadows s (next' (s, n)) x) : Shadows s (.get next') x
  | note {α : Type} {s : σ} {n : μ} {next' : Prog (σ × μ) ρ α} {x : Prog σ ρ α}
      (h : Shadows s next' x) : Shadows s (.set (s, n) next') x
  | call {α : Type} {s : σ} {p : ρ} {next' : ℤ → Prog (σ × μ) ρ α} {next : ℤ → Prog σ ρ α}
      (h : ∀ r u, Shadows u (next' r) (next r)) : Shadows s (.call p next') (.call p next)
  | choose {α : Type} {s : σ} {next' : ℕ → Prog (σ × μ) ρ α} {next : ℕ → Prog σ ρ α}
      (h : ∀ n, Shadows s (next' n) (next n)) : Shadows s (.choose next') (.choose next)
  | yield {α : Type} {s : σ} {allowed : ρ → Bool} {next' : Prog (σ × μ) ρ α}
      {next : Prog σ ρ α} (h : ∀ u, Shadows u next' next) :
      Shadows s (.yield allowed next') (.yield allowed next)
  | stuck {α : Type} {s : σ} (x : Prog σ ρ α) : Shadows s .stuck x

theorem monitor_shadows (m : Monitor σ μ) (x : Prog σ ρ α) (s : σ) :
    Shadows s (monitor m x) x := by
  induction x generalizing s with
  | ret a => exact .ret a
  | get next ih => exact .get fun n => .note (ih s s)
  | set u next ih =>
    apply Shadows.look
    intro n
    dsimp only
    split_ifs
    · exact .set (ih u)
    · exact .stuck _
  | call p next ih => exact .call fun r u => ih r u
  | choose next ih => exact .choose fun n => ih n s
  | yield allowed next ih => exact .yield fun u => ih u
  | stuck => exact .stuck _

theorem Shadows.bind {s : σ} {x' : Prog (σ × μ) ρ α} {x : Prog σ ρ α} (h : Shadows s x' x)
    {f' : α → Prog (σ × μ) ρ β} {f : α → Prog σ ρ β} (hf : ∀ a t, Shadows t (f' a) (f a)) :
    Shadows s (x' >>= f') (x >>= f) := by
  change Shadows s (x'.bind f') (x.bind f)
  induction h with
  | ret a => exact hf a _
  | get _ ih => exact .get fun n => ih n
  | set _ ih => exact .set ih
  | look _ ih => exact .look fun n => ih n
  | note _ ih => exact .note ih
  | call _ ih => exact .call fun r u => ih r u
  | choose _ ih => exact .choose fun n => ih n
  | yield _ ih => exact .yield fun u => ih u
  | stuck x => exact .stuck _

theorem observed_shadows {enter : σ → μ → μ} {leave : μ → μ → μ} {x' : Prog (σ × μ) ρ α}
    {x : Prog σ ρ α} (h : ∀ s, Shadows s x' x) (s : σ) :
    Shadows s (observed enter leave x') x := by
  have hend : ∀ n, Shadows s (x' >>= fun a => do
      modify fun t => (t.1, leave n t.2)
      pure a) (x >>= pure) := by
    intro n
    exact (h s).bind fun a t => .look fun _ => .note (.ret a)
  have hx : x >>= pure = x := by
    change x.bind .ret = x
    clear hend h
    induction x with
    | ret a => rfl
    | get next ih => exact congrArg _ (funext ih)
    | set u next ih => exact congrArg _ ih
    | call p next ih => exact congrArg _ (funext ih)
    | choose next ih => exact congrArg _ (funext ih)
    | yield allowed next ih => exact congrArg _ ih
    | stuck => rfl
  rw [hx] at hend
  exact .look fun n => .look fun _ => .note (hend n)

/-- A run under observation is a run. -/
theorem Exec.of_shadows {body' : ρ → Prog (σ × μ) ρ ℤ} {body : ρ → Prog σ ρ ℤ}
    (hbody : ∀ p s, Shadows s (body' p) (body p)) {x' : Prog (σ × μ) ρ α} {w t : σ × μ} {a : α}
    (h : Exec body' x' w a t) : ∀ {x : Prog σ ρ α}, Shadows w.1 x' x → Exec body x w.1 a t.1 := by
  induction h with
  | ret =>
    rintro x (_ | _)
    exact .ret
  | get rest ih =>
    rintro x hx
    cases hx with
    | get hnext => exact .get (ih (hnext _))
    | look hnext => exact ih (hnext _)
  | set rest ih =>
    rintro x hx
    cases hx with
    | set hnext => exact .set (ih hnext)
    | note hnext => exact ih hnext
  | call proc rest ihProc ih =>
    rintro x hx
    cases hx with
    | call hnext => exact .call (ihProc (hbody _ _)) (ih (hnext _ _))
  | choose n rest ih =>
    rintro x hx
    cases hx with
    | choose hnext => exact .choose n (ih (hnext n))
  | resume rest ih =>
    rintro x hx
    cases hx with
    | yield hnext => exact .resume (ih (hnext _))
  | enter permitted proc rest ihProc ih =>
    rintro x hx
    cases hx with
    | yield hnext => exact .enter permitted (ihProc (hbody _ _)) (ih (.yield hnext))

theorem Reachable.of_shadows {body' : ρ → Prog (σ × μ) ρ ℤ} {body : ρ → Prog σ ρ ℤ}
    (hbody : ∀ p s, Shadows s (body' p) (body p)) {entry : ρ → σ → Bool} {w t : σ × μ}
    (h : Reachable body' (fun p w => entry p w.1) w t) : Reachable body entry w.1 t.1 := by
  induction h with
  | refl => exact .refl
  | tail _ hlast ih =>
    obtain ⟨p, r, hp, hrun⟩ := hlast
    exact .tail ih ⟨p, r, hp, hrun.of_shadows hbody (hbody p _)⟩

end ReentrantProgram
