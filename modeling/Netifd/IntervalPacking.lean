import Mathlib.Data.List.Basic
import Mathlib.Data.List.Pairwise
import Mathlib.Order.Defs.LinearOrder
import Mathlib.Algebra.Order.Ring.Int
import Mathlib.Tactic.Common

/-!
# Intervals packed in a list

Half-open intervals that follow one another in a list, with gaps in between where another
interval may be put. A list without gaps covers everything up to its last interval.
-/

namespace IntervalPacking

variable {α : Type} (start size : α → ℤ)

/-- The intervals of the list begin at `current` or later and do not overlap. -/
def Packed : ℤ → List α → Prop
  | _, [] => True
  | current, c :: cs => current ≤ start c ∧ Packed (start c + size c) cs

/-- No interval of the list begins later than the one before it ends. -/
def Gapless : ℤ → List α → Prop
  | _, [] => True
  | current, c :: cs => start c ≤ current ∧ Gapless (start c + size c) cs

/-- Some interval of the list contains `x`. -/
def Covers (l : List α) (x : ℤ) : Prop := ∃ c ∈ l, start c ≤ x ∧ x < start c + size c

variable {start size}

theorem Packed.insert {current : ℤ} {a c : α} {cs : List α}
    (h : Packed start size current (c :: cs)) (hcurrent : current ≤ start a)
    (hgap : start a + size a ≤ start c) : Packed start size current (a :: c :: cs) :=
  ⟨hcurrent, hgap, h.2⟩

theorem Packed.start_le (hsize : ∀ a, 0 ≤ size a) {current : ℤ} {l : List α}
    (h : Packed start size current l) {a : α} (ha : a ∈ l) : current ≤ start a := by
  induction l generalizing current with
  | nil => cases ha
  | cons c cs ih =>
    rcases List.mem_cons.mp ha with rfl | hmem
    · exact h.1
    · have hrest := ih h.2 hmem
      have hfirst := h.1
      have hc := hsize c
      omega

theorem Packed.pairwise (hsize : ∀ a, 0 ≤ size a) {current : ℤ} {l : List α}
    (h : Packed start size current l) :
    l.Pairwise fun a b => start a + size a ≤ start b := by
  induction l generalizing current with
  | nil => exact .nil
  | cons c cs ih =>
    refine .cons ?_ (ih h.2)
    intro b hb
    exact h.2.start_le hsize hb

theorem Packed.of_pairwise {current : ℤ} {l : List α}
    (h : l.Pairwise fun a b => start a + size a ≤ start b) (hcurrent : ∀ a ∈ l, current ≤ start a) :
    Packed start size current l := by
  induction l generalizing current with
  | nil => trivial
  | cons c cs ih =>
    obtain ⟨hc, hcs⟩ := List.pairwise_cons.mp h
    exact ⟨hcurrent c List.mem_cons_self, ih hcs hc⟩

theorem Packed.sorted (hsize : ∀ a, 0 ≤ size a) {current : ℤ} {l : List α}
    (h : Packed start size current l) : l.Pairwise fun a b => start a ≤ start b := by
  refine (h.pairwise hsize).imp ?_
  intro a b hab
  have ha := hsize a
  omega

theorem Gapless.covers {current : ℤ} {l : List α} {last : α}
    (h : Gapless start size current (l ++ [last])) {x : ℤ} (hx : current ≤ x)
    (hlast : x < start last) : Covers start size l x := by
  induction l generalizing current with
  | nil =>
    have := h.1
    omega
  | cons c cs ih =>
    obtain ⟨hc, hrest⟩ := h
    rcases lt_or_ge x (start c + size c) with hin | hout
    · exact ⟨c, by simp, by omega, hin⟩
    · obtain ⟨e, he, hcover⟩ := ih hrest hout
      exact ⟨e, List.mem_cons_of_mem c he, hcover⟩

theorem Covers.mono {l l' : List α} {x : ℤ} (h : Covers start size l x) (hl : l ⊆ l') :
    Covers start size l' x := by
  obtain ⟨c, hc, hcover⟩ := h
  exact ⟨c, hl hc, hcover⟩

end IntervalPacking
