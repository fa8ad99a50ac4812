import Mathlib.Data.Nat.Notation
import Mathlib.Tactic.Common

/-!
# Runs of a step function

Sequences of operations on a state, an invariant that every step keeps, and a property that a
step keeps just if the step meets a condition.
-/

namespace GuardedRuns

variable {σ ω : Type} (step : σ → ω → σ) (ok : σ → ω → Prop)

/-- The state after a sequence of operations. -/
def run (s : σ) (ops : List ω) : σ := ops.foldl step s

/-- Every step of the run meets the condition. -/
def AllOk (s : σ) : List ω → Prop
  | [] => True
  | op :: ops => ok s op ∧ AllOk (step s op) ops

/-- Some step of the run meets the condition. -/
def SomeOk (s : σ) : List ω → Prop
  | [] => False
  | op :: ops => ok s op ∨ SomeOk (step s op) ops

variable {step ok}

theorem run_invariant {I : σ → Prop} (hI : ∀ s op, I s → I (step s op)) {s : σ} (hs : I s)
    (ops : List ω) : I (run step s ops) := by
  induction ops generalizing s with
  | nil => exact hs
  | cons op ops ih => exact ih (hI s op hs)

theorem run_property_of_allOk {P : σ → Prop} (hP : ∀ s op, P s → ok s op → P (step s op)) {s : σ}
    (hp : P s) {ops : List ω} (hok : AllOk step ok s ops) (n : ℕ) :
    P (run step s (ops.take n)) := by
  induction ops generalizing s n with
  | nil => simpa [run] using hp
  | cons op ops ih =>
    cases n with
    | zero => exact hp
    | succ n => exact ih (hP s op hp hok.1) hok.2 n

theorem AllOk.take {s : σ} {ops : List ω} (hok : AllOk step ok s ops) (n : ℕ) :
    AllOk step ok s (ops.take n) := by
  induction ops generalizing s n with
  | nil => simpa using hok
  | cons op ops ih =>
    cases n with
    | zero => trivial
    | succ n => exact ⟨hok.1, ih hok.2 n⟩

theorem AllOk.at {s : σ} {ops : List ω} (hok : AllOk step ok s ops) {n : ℕ} {op : ω}
    (hop : ops[n]? = some op) : ok (run step s (ops.take n)) op := by
  induction ops generalizing s n with
  | nil => cases hop
  | cons first ops ih =>
    cases n with
    | zero =>
      obtain rfl := Option.some.inj hop
      exact hok.1
    | succ n => exact ih hok.2 hop

theorem run_step_of_allOk {P : σ → Prop} {Q : σ → σ → Prop}
    (hP : ∀ s op, P s → ok s op → P (step s op) ∧ Q s (step s op)) (hrefl : ∀ s, Q s s) {s : σ}
    (hp : P s) {ops : List ω} (hok : AllOk step ok s ops) (n : ℕ) :
    Q (run step s (ops.take n)) (run step s (ops.take (n + 1))) := by
  induction ops generalizing s n with
  | nil => simpa [run] using hrefl s
  | cons op ops ih =>
    obtain ⟨hnext, hstep⟩ := hP s op hp hok.1
    cases n with
    | zero => exact hstep
    | succ n => exact ih hnext hok.2 n

theorem run_raised_iff {P : σ → Prop} (hP : ∀ s op, P (step s op) ↔ P s ∨ ok s op) {s : σ}
    {ops : List ω} : P (run step s ops) ↔ P s ∨ SomeOk step ok s ops := by
  induction ops generalizing s with
  | nil => simp [run, SomeOk]
  | cons op ops ih =>
    have hrest : P (run step s (op :: ops)) ↔ P (step s op) ∨ SomeOk step ok (step s op) ops := ih
    rw [hrest, hP, SomeOk, or_assoc]

theorem run_property_iff {I P : σ → Prop} (hI : ∀ s op, I s → I (step s op))
    (hP : ∀ s op, I s → P s → (P (step s op) ↔ ok s op)) {s : σ} (hs : I s) (hp : P s)
    (ops : List ω) : (∀ n, P (run step s (ops.take n))) ↔ AllOk step ok s ops := by
  induction ops generalizing s with
  | nil => simpa [run, AllOk] using hp
  | cons op ops ih =>
    rw [AllOk, ← hP s op hs hp]
    constructor
    · intro hall
      have hfirst : P (step s op) := hall 1
      exact ⟨hfirst, (ih (hI s op hs) hfirst).mp fun n => hall (n + 1)⟩
    · rintro ⟨hfirst, hrest⟩ n
      cases n with
      | zero => exact hp
      | succ n => exact (ih (hI s op hs) hfirst).mpr hrest n

end GuardedRuns
