import Mathlib.Logic.Relation
import Mathlib.Data.Int.Notation
import Mathlib.Data.Nat.Notation

/-!
# Programs with re-entrant callbacks

A program reads and writes one shared state, calls procedures by name, asks its
environment for a number, and yields. At a yield the environment may run any finite
sequence of the procedures which that yield allows before the program goes on, so a
yield is the place where callbacks run. Runs are big-step derivations. A procedure is
specified by a relation between the states before and after a run of it, and the rule
`Exec.sound` derives every such relation from the bodies alone: the recursion of the
procedures, through calls and through yields, is an induction on the derivation.
-/

namespace ReentrantProgram

/-- A program over states `σ` whose procedures are named by `ρ`. -/
inductive Prog (σ ρ α : Type) : Type
  | ret (a : α)
  | get (next : σ → Prog σ ρ α)
  | set (s : σ) (next : Prog σ ρ α)
  | call (p : ρ) (next : ℤ → Prog σ ρ α)
  | choose (next : ℕ → Prog σ ρ α)
  | yield (allowed : ρ → Bool) (next : Prog σ ρ α)
  | stuck

variable {σ ρ α β : Type}

namespace Prog

/-- Sequential composition. -/
def bind : Prog σ ρ α → (α → Prog σ ρ β) → Prog σ ρ β
  | .ret a, f => f a
  | .get next, f => .get fun s => (next s).bind f
  | .set s next, f => .set s (next.bind f)
  | .call p next, f => .call p fun r => (next r).bind f
  | .choose next, f => .choose fun n => (next n).bind f
  | .yield allowed next, f => .yield allowed (next.bind f)
  | .stuck, _ => .stuck

instance : Monad (Prog σ ρ) where
  pure := .ret
  bind := .bind

/-- The current state. -/
def read : Prog σ ρ σ := .get .ret

/-- An atomic update of the state. -/
def modify (f : σ → σ) : Prog σ ρ Unit := .get fun s => .set (f s) (.ret ())

/-- Run a procedure to its end. -/
def invoke (p : ρ) : Prog σ ρ ℤ := .call p .ret

/-- A number of the environment's choice. -/
def ask : Prog σ ρ ℕ := .choose .ret

/-- Let the environment run procedures which `allowed` admits. -/
def callbacks (allowed : ρ → Bool) : Prog σ ρ Unit := .yield allowed (.ret ())

/-- Only runs in which `b` holds here are considered. -/
def require (b : Bool) : Prog σ ρ Unit := if b then .ret () else .stuck

/-- A statement under a condition. -/
def whenever (c : Prop) [Decidable c] (x : Prog σ ρ Unit) : Prog σ ρ Unit :=
  if c then x else .ret ()

end Prog

open Prog

/-- A complete run: the program, the state before, its result and the state after. -/
inductive Exec (body : ρ → Prog σ ρ ℤ) : {α : Type} → Prog σ ρ α → σ → α → σ → Prop
  | ret {α : Type} {a : α} {s : σ} : Exec body (.ret a) s a s
  | get {α : Type} {next : σ → Prog σ ρ α} {s t : σ} {a : α}
      (rest : Exec body (next s) s a t) : Exec body (.get next) s a t
  | set {α : Type} {next : Prog σ ρ α} {s u t : σ} {a : α}
      (rest : Exec body next u a t) : Exec body (.set u next) s a t
  | call {α : Type} {p : ρ} {next : ℤ → Prog σ ρ α} {s u t : σ} {r : ℤ} {a : α}
      (proc : Exec body (body p) s r u) (rest : Exec body (next r) u a t) :
      Exec body (.call p next) s a t
  | choose {α : Type} {next : ℕ → Prog σ ρ α} {s t : σ} {a : α} (n : ℕ)
      (rest : Exec body (next n) s a t) : Exec body (.choose next) s a t
  | resume {α : Type} {allowed : ρ → Bool} {next : Prog σ ρ α} {s t : σ} {a : α}
      (rest : Exec body next s a t) : Exec body (.yield allowed next) s a t
  | enter {α : Type} {allowed : ρ → Bool} {next : Prog σ ρ α} {s u t : σ} {p : ρ} {r : ℤ}
      {a : α} (permitted : allowed p = true) (proc : Exec body (body p) s r u)
      (rest : Exec body (.yield allowed next) u a t) : Exec body (.yield allowed next) s a t

/-- The relation every procedure is claimed to satisfy. -/
abbrev Spec (σ ρ : Type) := ρ → σ → ℤ → σ → Prop

/-- What the environment may have done at a yield, as far as `spec` tells. -/
def Entered (spec : Spec σ ρ) (allowed : ρ → Bool) : σ → σ → Prop :=
  Relation.ReflTransGen fun s t => ∃ p r, allowed p = true ∧ spec p s r t

theorem Entered.invariant {spec : Spec σ ρ} {allowed : ρ → Bool} {I : σ → Prop}
    (step : ∀ p s r t, allowed p = true → spec p s r t → I s → I t) {s t : σ}
    (h : Entered spec allowed s t) (hs : I s) : I t := by
  induction h with
  | refl => exact hs
  | tail _ hlast ih =>
    obtain ⟨p, r, hp, hspec⟩ := hlast
    exact step p _ r _ hp hspec ih

/-- The states from which every run ends in `Q`, given the relations of the procedures. -/
def wp (spec : Spec σ ρ) : Prog σ ρ α → (α → σ → Prop) → σ → Prop
  | .ret a, Q, s => Q a s
  | .get next, Q, s => wp spec (next s) Q s
  | .set u next, Q, _ => wp spec next Q u
  | .call p next, Q, s => ∀ r u, spec p s r u → wp spec (next r) Q u
  | .choose next, Q, s => ∀ n, wp spec (next n) Q s
  | .yield allowed next, Q, s => ∀ u, Entered spec allowed s u → wp spec next Q u
  | .stuck, _, _ => True

section Rules

variable (spec : Spec σ ρ)

@[simp] theorem wp_ret (a : α) (Q : α → σ → Prop) (s : σ) :
    wp spec (.ret a) Q s = Q a s := rfl

@[simp] theorem wp_pure (a : α) (Q : α → σ → Prop) (s : σ) :
    wp spec (pure a : Prog σ ρ α) Q s = Q a s := rfl

theorem wp_bind' (x : Prog σ ρ α) (f : α → Prog σ ρ β) (Q : β → σ → Prop) (s : σ) :
    wp spec (x.bind f) Q s = wp spec x (fun a => wp spec (f a) Q) s := by
  induction x generalizing s with
  | ret a => rfl
  | get next ih => exact ih s s
  | set u next ih => exact ih u
  | call p next ih =>
    simp only [Prog.bind, wp]
    exact forall_congr fun r => forall_congr fun u => by rw [ih r u]
  | choose next ih =>
    simp only [Prog.bind, wp]
    exact forall_congr fun n => ih n s
  | yield allowed next ih =>
    simp only [Prog.bind, wp]
    exact forall_congr fun u => by rw [ih u]
  | stuck => rfl

@[simp] theorem wp_bind (x : Prog σ ρ α) (f : α → Prog σ ρ β) (Q : β → σ → Prop) (s : σ) :
    wp spec (x >>= f) Q s = wp spec x (fun a => wp spec (f a) Q) s := wp_bind' spec x f Q s

@[simp] theorem wp_read (Q : σ → σ → Prop) (s : σ) :
    wp spec (read : Prog σ ρ σ) Q s = Q s s := rfl

@[simp] theorem wp_modify (f : σ → σ) (Q : Unit → σ → Prop) (s : σ) :
    wp spec (modify f : Prog σ ρ Unit) Q s = Q () (f s) := rfl

@[simp] theorem wp_invoke (p : ρ) (Q : ℤ → σ → Prop) (s : σ) :
    wp spec (invoke p) Q s = ∀ r u, spec p s r u → Q r u := rfl

@[simp] theorem wp_ask (Q : ℕ → σ → Prop) (s : σ) :
    wp spec (ask : Prog σ ρ ℕ) Q s = ∀ n, Q n s := rfl

@[simp] theorem wp_callbacks (allowed : ρ → Bool) (Q : Unit → σ → Prop) (s : σ) :
    wp spec (callbacks allowed) Q s = ∀ u, Entered spec allowed s u → Q () u := rfl

@[simp] theorem wp_require (b : Bool) (Q : Unit → σ → Prop) (s : σ) :
    wp spec (require b : Prog σ ρ Unit) Q s = (b = true → Q () s) := by
  cases b <;> simp [require, wp]

@[simp] theorem wp_ite (c : Prop) [Decidable c] (x y : Prog σ ρ α) (Q : α → σ → Prop) (s : σ) :
    wp spec (if c then x else y) Q s = ((c → wp spec x Q s) ∧ (¬c → wp spec y Q s)) := by
  by_cases h : c <;> simp [h]

@[simp] theorem wp_whenever (c : Prop) [Decidable c] (x : Prog σ ρ Unit) (Q : Unit → σ → Prop)
    (s : σ) : wp spec (whenever c x) Q s = ((c → wp spec x Q s) ∧ (¬c → Q () s)) := by
  rw [whenever, wp_ite]
  rfl

theorem wp_mono {x : Prog σ ρ α} {Q Q' : α → σ → Prop} (h : ∀ a s, Q a s → Q' a s) {s : σ}
    (hx : wp spec x Q s) : wp spec x Q' s := by
  induction x generalizing s with
  | ret a => exact h a s hx
  | get next ih => exact ih s hx
  | set u next ih => exact ih hx
  | call p next ih => exact fun r u hu => ih r (hx r u hu)
  | choose next ih => exact fun n => ih n (hx n)
  | yield allowed next ih => exact fun u hu => ih (hx u hu)
  | stuck => trivial

theorem wp_trivial (x : Prog σ ρ α) (s : σ) : wp spec x (fun _ _ => True) s := by
  induction x generalizing s with
  | ret a => trivial
  | get next ih => exact ih s s
  | set u next ih => exact ih u
  | call p next ih => exact fun r u _ => ih r u
  | choose next ih => exact fun n => ih n s
  | yield allowed next ih => exact fun u _ => ih u
  | stuck => trivial

theorem wp_after {x : Prog σ ρ α} {f : α → Prog σ ρ β} {Q : β → σ → Prop} {s : σ}
    (h : ∀ a t, wp spec (f a) Q t) : wp spec (x >>= f) Q s := by
  rw [wp_bind]
  exact wp_mono spec (fun a t _ => h a t) (wp_trivial spec x s)

theorem wp_forall {ι : Sort*} {x : Prog σ ρ α} {Q : ι → α → σ → Prop} {s : σ}
    (h : ∀ i, wp spec x (Q i) s) : wp spec x (fun a t => ∀ i, Q i a t) s := by
  induction x generalizing s with
  | ret a => exact h
  | get next ih => exact ih s h
  | set u next ih => exact ih h
  | call p next ih => exact fun r u hu => ih r fun i => h i r u hu
  | choose next ih => exact fun n => ih n fun i => h i n
  | yield allowed next ih => exact fun u hu => ih fun i => h i u hu
  | stuck => trivial

theorem wp_and {x : Prog σ ρ α} {P Q : α → σ → Prop} {s : σ} (hP : wp spec x P s)
    (hQ : wp spec x Q s) : wp spec x (fun a t => P a t ∧ Q a t) s := by
  have hboth : wp spec x (fun a t => ∀ b : Bool, if b then P a t else Q a t) s := by
    refine wp_forall spec fun b => ?_
    cases b with
    | false => exact hQ
    | true => exact hP
  exact wp_mono spec (fun a t h => ⟨h true, h false⟩) hboth

theorem wp_imp {x : Prog σ ρ α} {P : Prop} {Q : α → σ → Prop} {s : σ}
    (h : P → wp spec x Q s) : wp spec x (fun a t => P → Q a t) s := by
  by_cases hP : P
  · exact wp_mono spec (fun _ _ hQ _ => hQ) (h hP)
  · exact wp_mono spec (fun _ _ _ hp => absurd hp hP) (wp_trivial spec x s)

end Rules

/-- Every run of `x` from a state with the property `I` ends in one. -/
def Preserves (spec : Spec σ ρ) (I : σ → Prop) (x : Prog σ ρ α) : Prop :=
  ∀ s, I s → wp spec x (fun _ t => I t) s

namespace Preserves

variable {spec : Spec σ ρ} {I : σ → Prop}

theorem ends {x : Prog σ ρ α} {Q : α → σ → Prop} {s : σ} (hx : Preserves spec I x) (hs : I s)
    (h : ∀ a t, I t → Q a t) : wp spec x Q s := wp_mono spec h (hx s hs)

theorem followed {x : Prog σ ρ α} {f : α → Prog σ ρ β} {Q : β → σ → Prop} {s : σ}
    (hx : Preserves spec I x) (hs : I s) (h : ∀ a t, I t → wp spec (f a) Q t) :
    wp spec (x >>= f) Q s := by
  rw [wp_bind]
  exact hx.ends hs h

theorem pure (a : α) : Preserves spec I (Pure.pure a : Prog σ ρ α) := fun _ hs => hs

theorem bind {x : Prog σ ρ α} {f : α → Prog σ ρ β} (hx : Preserves spec I x)
    (hf : ∀ a, Preserves spec I (f a)) : Preserves spec I (x >>= f) := by
  intro s hs
  rw [wp_bind]
  exact wp_mono spec (fun a t ht => hf a t ht) (hx s hs)

theorem read_bind {f : σ → Prog σ ρ β}
    (hf : ∀ s, I s → wp spec (f s) (fun _ t => I t) s) : Preserves spec I (read >>= f) :=
  fun s hs => by simpa using hf s hs

theorem after_read {f : σ → Prog σ ρ β} (hf : ∀ s, Preserves spec I (f s)) :
    Preserves spec I (read >>= f) := read_bind fun s hs => hf s s hs

theorem ite {c : Prop} [Decidable c] {x y : Prog σ ρ α} (hx : c → Preserves spec I x)
    (hy : ¬c → Preserves spec I y) : Preserves spec I (if c then x else y) := by
  by_cases h : c
  · simpa [h] using hx h
  · simpa [h] using hy h

theorem whenever {c : Prop} [Decidable c] {x : Prog σ ρ Unit} (hx : c → Preserves spec I x) :
    Preserves spec I (Prog.whenever c x) := ite hx fun _ => pure ()

theorem modify {f : σ → σ} (hf : ∀ s, I s → I (f s)) :
    Preserves spec I (Prog.modify f : Prog σ ρ Unit) := fun s hs => hf s hs

theorem ask : Preserves spec I (Prog.ask : Prog σ ρ ℕ) := fun _ hs _ => hs

theorem require (b : Bool) : Preserves spec I (Prog.require b : Prog σ ρ Unit) := by
  intro s hs
  simp [hs]

theorem callbacks {allowed : ρ → Bool}
    (step : ∀ p s r t, allowed p = true → spec p s r t → I s → I t) :
    Preserves spec I (Prog.callbacks allowed) := fun _ hs _ hu => hu.invariant step hs

end Preserves

/-- The bodies satisfy the relations, assuming that the procedures they run do. -/
def Verified (body : ρ → Prog σ ρ ℤ) (spec : Spec σ ρ) : Prop :=
  ∀ p s, wp spec (body p) (fun r t => spec p s r t) s

theorem Exec.sound {body : ρ → Prog σ ρ ℤ} {spec : Spec σ ρ} (verified : Verified body spec)
    {x : Prog σ ρ α} {s t : σ} {a : α} (h : Exec body x s a t) :
    ∀ {Q : α → σ → Prop}, wp spec x Q s → Q a t := by
  induction h with
  | ret => exact fun hQ => hQ
  | get rest ih => exact fun hQ => ih hQ
  | set rest ih => exact fun hQ => ih hQ
  | @call α p next s u t r a proc rest ihProc ih =>
    intro Q hQ
    exact ih (hQ r u (ihProc (verified p s)))
  | choose n rest ih => exact fun hQ => ih (hQ n)
  | @resume α allowed next s t a rest ih =>
    intro Q hQ
    exact ih (hQ s .refl)
  | @enter α allowed next s u t p r a permitted proc rest ihProc ih =>
    intro Q hQ
    apply ih
    intro v hv
    exact hQ v (.head ⟨p, r, permitted, ihProc (verified p s)⟩ hv)

theorem Exec.spec {body : ρ → Prog σ ρ ℤ} {spec : Spec σ ρ} (verified : Verified body spec)
    {p : ρ} {s t : σ} {r : ℤ} (h : Exec body (body p) s r t) : spec p s r t :=
  h.sound verified (verified p s)

/-- A step of the whole system: one procedure, called from outside while no other runs,
with `entry` the condition on the state before. -/
def Step (body : ρ → Prog σ ρ ℤ) (entry : ρ → σ → Bool) (s t : σ) : Prop :=
  ∃ p r, entry p s = true ∧ Exec body (body p) s r t

/-- The states between the calls of a run of the whole system. -/
def Reachable (body : ρ → Prog σ ρ ℤ) (entry : ρ → σ → Bool) : σ → σ → Prop :=
  Relation.ReflTransGen (Step body entry)

theorem Reachable.invariant {body : ρ → Prog σ ρ ℤ} {spec : Spec σ ρ}
    (verified : Verified body spec) {entry : ρ → σ → Bool} {I : σ → Prop}
    (step : ∀ p s r t, entry p s = true → spec p s r t → I s → I t) {s t : σ}
    (h : Reachable body entry s t) (hs : I s) : I t := by
  induction h with
  | refl => exact hs
  | tail _ hlast ih =>
    obtain ⟨p, r, hp, hrun⟩ := hlast
    exact step p _ r _ hp (hrun.spec verified) ih

theorem Reachable.mono {body : ρ → Prog σ ρ ℤ} {entry entry' : ρ → σ → Bool}
    (hentry : ∀ p s, entry p s = true → entry' p s = true) {s t : σ}
    (h : Reachable body entry s t) : Reachable body entry' s t := by
  induction h with
  | refl => exact .refl
  | tail _ hlast ih =>
    obtain ⟨p, r, hp, hrun⟩ := hlast
    exact .tail ih ⟨p, r, hentry p _ hp, hrun⟩

theorem Exec.bind {body : ρ → Prog σ ρ ℤ} {x : Prog σ ρ α} {f : α → Prog σ ρ β} {s t u : σ}
    {a : α} {b : β} (hx : Exec body x s a t) (hf : Exec body (f a) t b u) :
    Exec body (x >>= f) s b u := by
  change Exec body (x.bind f) s b u
  induction hx with
  | ret => exact hf
  | get _ ih => exact .get (ih hf)
  | set _ ih => exact .set (ih hf)
  | call proc _ _ ih => exact .call proc (ih hf)
  | choose n _ ih => exact .choose n (ih hf)
  | resume _ ih => exact .resume (ih hf)
  | enter permitted proc _ _ ih => exact .enter permitted proc (ih hf)

/-- A complete run of a composition has come to the end of its first part. -/
theorem Exec.of_bind {body : ρ → Prog σ ρ ℤ} {y : Prog σ ρ β} {s u : σ} {b : β}
    (h : Exec body y s b u) : ∀ {x : Prog σ ρ α} {f : α → Prog σ ρ β}, y = x.bind f →
      ∃ a t, Exec body x s a t ∧ Exec body (f a) t b u := by
  induction h with
  | ret =>
    intro x f hy
    cases x with
    | ret a => exact ⟨a, _, .ret, (show _ = f a from hy) ▸ .ret⟩
    | _ => cases hy
  | get rest ih =>
    intro x f hy
    cases x with
    | ret a => exact ⟨a, _, .ret, (show _ = f a from hy) ▸ .get rest⟩
    | get next =>
      cases hy
      obtain ⟨a, t, hfirst, hsecond⟩ := ih rfl
      exact ⟨a, t, .get hfirst, hsecond⟩
    | _ => cases hy
  | set rest ih =>
    intro x f hy
    cases x with
    | ret a => exact ⟨a, _, .ret, (show _ = f a from hy) ▸ .set rest⟩
    | set v next =>
      cases hy
      obtain ⟨a, t, hfirst, hsecond⟩ := ih rfl
      exact ⟨a, t, .set hfirst, hsecond⟩
    | _ => cases hy
  | call proc rest _ ih =>
    intro x f hy
    cases x with
    | ret a => exact ⟨a, _, .ret, (show _ = f a from hy) ▸ .call proc rest⟩
    | call p next =>
      cases hy
      obtain ⟨a, t, hfirst, hsecond⟩ := ih rfl
      exact ⟨a, t, .call proc hfirst, hsecond⟩
    | _ => cases hy
  | choose n rest ih =>
    intro x f hy
    cases x with
    | ret a => exact ⟨a, _, .ret, (show _ = f a from hy) ▸ .choose n rest⟩
    | choose next =>
      cases hy
      obtain ⟨a, t, hfirst, hsecond⟩ := ih rfl
      exact ⟨a, t, .choose n hfirst, hsecond⟩
    | _ => cases hy
  | resume rest ih =>
    intro x f hy
    cases x with
    | ret a => exact ⟨a, _, .ret, (show _ = f a from hy) ▸ .resume rest⟩
    | yield allowed next =>
      cases hy
      obtain ⟨a, t, hfirst, hsecond⟩ := ih rfl
      exact ⟨a, t, .resume hfirst, hsecond⟩
    | _ => cases hy
  | enter permitted proc rest _ ih =>
    intro x f hy
    cases x with
    | ret a => exact ⟨a, _, .ret, (show _ = f a from hy) ▸ .enter permitted proc rest⟩
    | yield allowed next =>
      cases hy
      obtain ⟨a, t, hfirst, hsecond⟩ := ih (x := .yield _ next) (f := f) rfl
      exact ⟨a, t, .enter permitted proc hfirst, hsecond⟩
    | _ => cases hy

/-- The program has a complete run. -/
def Ends (body : ρ → Prog σ ρ ℤ) (x : Prog σ ρ α) (s : σ) : Prop := ∃ a t, Exec body x s a t

namespace Ends

variable {body : ρ → Prog σ ρ ℤ} {s : σ}

theorem pure (a : α) : Ends body (Pure.pure a : Prog σ ρ α) s := ⟨a, s, .ret⟩

theorem bind {x : Prog σ ρ α} {f : α → Prog σ ρ β} (hx : Ends body x s)
    (hf : ∀ a t, Ends body (f a) t) : Ends body (x >>= f) s := by
  obtain ⟨a, t, hrun⟩ := hx
  obtain ⟨b, u, hrest⟩ := hf a t
  exact ⟨b, u, hrun.bind hrest⟩

theorem read_bind {f : σ → Prog σ ρ β} (h : Ends body (f s) s) : Ends body (read >>= f) s := by
  obtain ⟨b, u, hrest⟩ := h
  exact ⟨b, u, .get hrest⟩

theorem modify_bind {f : σ → σ} {x : Unit → Prog σ ρ β} (h : Ends body (x ()) (f s)) :
    Ends body (Prog.modify f >>= x) s := by
  obtain ⟨b, u, hrest⟩ := h
  exact ⟨b, u, .get (.set hrest)⟩

theorem modify (f : σ → σ) : Ends body (Prog.modify f : Prog σ ρ Unit) s :=
  ⟨(), f s, .get (.set .ret)⟩

theorem ask_bind {f : ℕ → Prog σ ρ β} (n : ℕ) (h : Ends body (f n) s) :
    Ends body (Prog.ask >>= f) s := by
  obtain ⟨b, u, hrest⟩ := h
  exact ⟨b, u, .choose n hrest⟩

theorem callbacks (allowed : ρ → Bool) : Ends body (Prog.callbacks allowed) s :=
  ⟨(), s, .resume .ret⟩

theorem ite {c : Prop} [Decidable c] {x y : Prog σ ρ α} (hx : c → Ends body x s)
    (hy : ¬c → Ends body y s) : Ends body (if c then x else y) s := by
  by_cases h : c
  · simpa [h] using hx h
  · simpa [h] using hy h

end Ends

/-- Some complete run of the program ends in `Q`. -/
def May (body : ρ → Prog σ ρ ℤ) (x : Prog σ ρ α) (Q : α → σ → Prop) (s : σ) : Prop :=
  ∃ a t, Exec body x s a t ∧ Q a t

section MayRules

variable {body : ρ → Prog σ ρ ℤ} {s : σ}

theorem May.mono {x : Prog σ ρ α} {Q Q' : α → σ → Prop} (h : ∀ a t, Q a t → Q' a t)
    (hx : May body x Q s) : May body x Q' s := by
  obtain ⟨a, t, hrun, hQ⟩ := hx
  exact ⟨a, t, hrun, h a t hQ⟩

@[simp] theorem may_pure (a : α) (Q : α → σ → Prop) :
    May body (pure a : Prog σ ρ α) Q s ↔ Q a s := by
  constructor
  · rintro ⟨b, t, hrun, hQ⟩
    cases (show Exec body (.ret a) s b t from hrun)
    exact hQ
  · exact fun h => ⟨a, s, .ret, h⟩

@[simp] theorem may_bind (x : Prog σ ρ α) (f : α → Prog σ ρ β) (Q : β → σ → Prop) :
    May body (x >>= f) Q s ↔ May body x (fun a t => May body (f a) Q t) s := by
  constructor
  · rintro ⟨b, u, hrun, hQ⟩
    obtain ⟨a, t, hfirst, hsecond⟩ := hrun.of_bind rfl
    exact ⟨a, t, hfirst, b, u, hsecond, hQ⟩
  · rintro ⟨a, t, hfirst, b, u, hsecond, hQ⟩
    exact ⟨b, u, hfirst.bind hsecond, hQ⟩

@[simp] theorem may_read (Q : σ → σ → Prop) : May body (read : Prog σ ρ σ) Q s ↔ Q s s := by
  constructor
  · rintro ⟨a, t, hrun, hQ⟩
    cases hrun with
    | get hrest =>
      cases hrest
      exact hQ
  · exact fun h => ⟨s, s, .get .ret, h⟩

@[simp] theorem may_modify (f : σ → σ) (Q : Unit → σ → Prop) :
    May body (modify f : Prog σ ρ Unit) Q s ↔ Q () (f s) := by
  constructor
  · rintro ⟨a, t, hrun, hQ⟩
    cases hrun with
    | get hrest =>
      cases hrest with
      | set hrest =>
        cases hrest
        exact hQ
  · exact fun h => ⟨(), f s, .get (.set .ret), h⟩

@[simp] theorem may_ite (c : Prop) [Decidable c] (x y : Prog σ ρ α) (Q : α → σ → Prop) :
    May body (if c then x else y) Q s ↔ (c → May body x Q s) ∧ (¬c → May body y Q s) := by
  by_cases h : c <;> simp [h]

@[simp] theorem may_invoke (p : ρ) (Q : ℤ → σ → Prop) :
    May body (invoke p) Q s ↔ May body (body p) Q s := by
  constructor
  · rintro ⟨a, t, hrun, hQ⟩
    cases hrun with
    | call hproc hrest =>
      cases hrest
      exact ⟨a, t, hproc, hQ⟩
  · rintro ⟨a, t, hproc, hQ⟩
    exact ⟨a, t, .call hproc .ret, hQ⟩

theorem may_ask (n : ℕ) {Q : ℕ → σ → Prop} (h : Q n s) : May body ask Q s :=
  ⟨n, s, .choose n .ret, h⟩

theorem may_callbacks {allowed : ρ → Bool} {Q : Unit → σ → Prop} (h : Q () s) :
    May body (callbacks allowed) Q s := ⟨(), s, .resume .ret, h⟩

theorem may_require {b : Bool} {Q : Unit → σ → Prop} (hb : b = true) (h : Q () s) :
    May body (require b) Q s := by
  subst hb
  exact ⟨(), s, .ret, h⟩

end MayRules

/-- From every state with the property `I` some run of `x` ends in one. -/
def MayKeep (body : ρ → Prog σ ρ ℤ) (I : σ → Prop) (x : Prog σ ρ α) : Prop :=
  ∀ s, I s → May body x (fun _ t => I t) s

namespace MayKeep

variable {body : ρ → Prog σ ρ ℤ} {I : σ → Prop}

theorem pure (a : α) : MayKeep body I (Pure.pure a : Prog σ ρ α) := fun _ hs => by simpa

theorem bind {x : Prog σ ρ α} {f : α → Prog σ ρ β} (hx : MayKeep body I x)
    (hf : ∀ a, MayKeep body I (f a)) : MayKeep body I (x >>= f) := by
  intro s hs
  rw [may_bind]
  exact (hx s hs).mono fun a t ht => hf a t ht

theorem after_read {f : σ → Prog σ ρ β} (hf : ∀ s, MayKeep body I (f s)) :
    MayKeep body I (read >>= f) := by
  intro s hs
  rw [may_bind, may_read]
  exact hf s s hs

theorem ite {c : Prop} [Decidable c] {x y : Prog σ ρ α} (hx : c → MayKeep body I x)
    (hy : ¬c → MayKeep body I y) : MayKeep body I (if c then x else y) := by
  by_cases h : c
  · simpa [h] using hx h
  · simpa [h] using hy h

theorem modify {f : σ → σ} (hf : ∀ s, I s → I (f s)) :
    MayKeep body I (Prog.modify f : Prog σ ρ Unit) := by
  intro s hs
  rw [may_modify]
  exact hf s hs

theorem callbacks {allowed : ρ → Bool} : MayKeep body I (Prog.callbacks allowed) :=
  fun _ hs => may_callbacks hs

theorem require : MayKeep body I (Prog.require true : Prog σ ρ Unit) := pure ()

end MayKeep

/-- Only runs are considered in which every procedure is run in a state in which it is admitted. -/
def guarded (admitted : ρ → σ → Bool) (body : ρ → Prog σ ρ ℤ) (p : ρ) : Prog σ ρ ℤ := do
  let s ← read
  require (admitted p s)
  body p

section Guarded

variable {admitted : ρ → σ → Bool} {body : ρ → Prog σ ρ ℤ}

theorem verified_guarded {spec : Spec σ ρ}
    (h : ∀ p s, admitted p s = true → wp spec (body p) (fun r t => spec p s r t) s) :
    Verified (guarded admitted body) spec := by
  intro p s
  rw [guarded, wp_bind, wp_read, wp_bind, wp_require]
  exact h p s

theorem may_guarded {body' : ρ → Prog σ ρ ℤ} {p : ρ} {s : σ} {Q : ℤ → σ → Prop}
    (hp : admitted p s = true) (h : May body' (body p) Q s) :
    May body' (guarded admitted body p) Q s := by
  rw [guarded, may_bind, may_read, may_bind]
  exact may_require hp h

theorem Exec.unguarded {body' : ρ → Prog σ ρ ℤ} {p : ρ} {s t : σ} {r : ℤ}
    (h : Exec body' (guarded admitted body p) s r t) : Exec body' (body p) s r t := by
  obtain ⟨u, _, hread, hrest⟩ := h.of_bind rfl
  cases hread with
  | get hread =>
    cases hread
    obtain ⟨_, _, hrequire, hbody⟩ := hrest.of_bind rfl
    cases hadmitted : admitted p s with
    | true =>
      rw [hadmitted] at hrequire
      cases hrequire
      exact hbody
    | false =>
      rw [hadmitted] at hrequire
      cases hrequire

theorem Exec.of_guarded {x : Prog σ ρ α} {s t : σ} {a : α}
    (h : Exec (guarded admitted body) x s a t) : Exec body x s a t := by
  induction h with
  | ret => exact .ret
  | get _ ih => exact .get ih
  | set _ ih => exact .set ih
  | call _ _ ihProc ih => exact .call ihProc.unguarded ih
  | choose n _ ih => exact .choose n ih
  | resume _ ih => exact .resume ih
  | enter permitted _ _ ihProc ih => exact .enter permitted ihProc.unguarded ih

end Guarded

/-- One decision of the environment. -/
inductive Choice (ρ : Type)
  | pick (n : ℕ)
  | enter (p : ρ)
  | resume

/-- Run a program on a list of decisions, with a bound on the number of steps. -/
def run (body : ρ → Prog σ ρ ℤ) :
    ℕ → {α : Type} → Prog σ ρ α → σ → List (Choice ρ) → Option (α × σ × List (Choice ρ))
  | 0, _, _, _, _ => none
  | n + 1, _, x, s, cs =>
    match x, cs with
    | .ret a, cs => some (a, s, cs)
    | .get next, cs => run body n (next s) s cs
    | .set u next, cs => run body n next u cs
    | .call p next, cs =>
      match run body n (body p) s cs with
      | some (r, u, cs) => run body n (next r) u cs
      | none => none
    | .choose next, .pick m :: cs => run body n (next m) s cs
    | .yield _ next, .resume :: cs => run body n next s cs
    | .yield allowed next, .enter p :: cs =>
      if allowed p then
        match run body n (body p) s cs with
        | some (_, u, cs) => run body n (.yield allowed next) u cs
        | none => none
      else none
    | _, _ => none

/-- What `run` computes is a run. -/
theorem run_sound (body : ρ → Prog σ ρ ℤ) (n : ℕ) {α : Type} (x : Prog σ ρ α) (s : σ)
    (cs : List (Choice ρ)) {a : α} {t : σ} {ds : List (Choice ρ)}
    (h : run body n x s cs = some (a, t, ds)) : Exec body x s a t := by
  induction n generalizing α s cs t ds with
  | zero => simp [run] at h
  | succ n ih =>
    cases x with
    | ret b =>
      simp only [run, Option.some.injEq, Prod.mk.injEq] at h
      obtain ⟨rfl, rfl, rfl⟩ := h
      exact .ret
    | get next => exact .get (ih _ _ _ h)
    | set u next => exact .set (ih _ _ _ h)
    | call p next =>
      simp only [run] at h
      split at h
      · next r u cs' hp => exact .call (ih _ _ _ hp) (ih _ _ _ h)
      · cases h
    | choose next =>
      match cs with
      | [] => simp [run] at h
      | .pick m :: cs => exact .choose m (ih _ _ _ h)
      | .enter p :: cs => simp [run] at h
      | .resume :: cs => simp [run] at h
    | yield allowed next =>
      match cs with
      | [] => simp [run] at h
      | .pick m :: cs => simp [run] at h
      | .resume :: cs => exact .resume (ih _ _ _ h)
      | .enter p :: cs =>
        simp only [run] at h
        split at h
        · next hp =>
          split at h
          · next r u cs' hr => exact .enter hp (ih _ _ _ hr) (ih _ _ _ h)
          · cases h
        · cases h
    | stuck => simp [run] at h

/-- Make a list of calls one after the other, each with the decisions for it. -/
def replay (body : ρ → Prog σ ρ ℤ) (entry : ρ → σ → Bool) (fuel : ℕ) :
    List (ρ × List (Choice ρ)) → σ → Option σ
  | [], s => some s
  | (p, cs) :: calls, s =>
    if entry p s then
      match run body fuel (body p) s cs with
      | some (_, t, []) => replay body entry fuel calls t
      | _ => none
    else none

theorem replay_sound {body : ρ → Prog σ ρ ℤ} {entry : ρ → σ → Bool} {fuel : ℕ}
    {calls : List (ρ × List (Choice ρ))} {s t : σ}
    (h : replay body entry fuel calls s = some t) : Reachable body entry s t := by
  induction calls generalizing s with
  | nil =>
    cases Option.some.inj h
    exact .refl
  | cons call calls ih =>
    obtain ⟨p, cs⟩ := call
    simp only [replay] at h
    split at h
    · next hp =>
      split at h
      · next r u hrun => exact .head ⟨p, r, hp, run_sound _ _ _ _ _ hrun⟩ (ih h)
      · cases h
    · cases h

theorem exists_reachable (body : ρ → Prog σ ρ ℤ) (entry : ρ → σ → Bool) (s : σ) (P : σ → Prop)
    [DecidablePred P] (fuel : ℕ) (calls : List (ρ × List (Choice ρ)))
    (h : (replay body entry fuel calls s).any (fun t => decide (P t)) = true) :
    ∃ t, Reachable body entry s t ∧ P t := by
  cases ht : replay body entry fuel calls s with
  | none => simp [ht] at h
  | some t => exact ⟨t, replay_sound ht, by simpa [ht] using h⟩

end ReentrantProgram
