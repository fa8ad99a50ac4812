import Mathlib.Order.Basic
import Mathlib.Data.Set.Defs
import Mathlib.Data.Prod.Lex
import Mathlib.Data.Int.Order.Basic
import Mathlib.Algebra.Order.Ring.Int
import Mathlib.Tactic.Common

/-!
# Comparators that return differences

A comparator subtracts the numbers in which two keys differ first and returns the difference as a
machine integer. It puts a set of keys in their order just if every difference that decides in
this set fits into the integer with its sign.
-/

namespace WrappedOrder

variable {α κ : Type} [LinearOrder κ]

/-- The difference that decides between two elements is negative where the key of the first is
less. -/
structure Decides (key : α → κ) (diff : α → α → ℤ) : Prop where
  neg : ∀ a b, diff a b < 0 ↔ key a < key b
  swap : ∀ a b, diff b a = -diff a b

/-- The difference as it is returned, an `int` of 32 bits. -/
def wrapped (diff : α → α → ℤ) (a b : α) : ℤ := (diff a b).bmod (2 ^ 32)

/-- A comparator orders a set by keys: the laws of a total order hold, and the order is that of
the keys. -/
structure OrdersBy (key : α → κ) (cmp : α → α → ℤ) (s : Set α) : Prop where
  antisymm : ∀ a ∈ s, ∀ b ∈ s, cmp a b < 0 ↔ 0 < cmp b a
  trans : ∀ a ∈ s, ∀ b ∈ s, ∀ c ∈ s, cmp a b ≤ 0 → cmp b c ≤ 0 → cmp a c ≤ 0
  zero : ∀ a ∈ s, ∀ b ∈ s, cmp a b = 0 ↔ key a = key b
  order : ∀ a ∈ s, ∀ b ∈ s, cmp a b < 0 ↔ key a < key b

/-- The difference fits with its sign, whichever of the two comes first. -/
def Fits (d : ℤ) : Prop := -2 ^ 31 < d ∧ d < 2 ^ 31

theorem Fits.bmod_eq {d : ℤ} (h : Fits d) : d.bmod (2 ^ 32) = d := by
  obtain ⟨hlow, hhigh⟩ := h
  apply Int.bmod_eq_of_le <;> omega

theorem fits_of_signs {d : ℤ} (hlow : -2 ^ 32 < d) (hhigh : d < 2 ^ 32)
    (hsign : d.bmod (2 ^ 32) < 0 ↔ d < 0) (hswap : (-d).bmod (2 ^ 32) < 0 ↔ -d < 0) : Fits d := by
  unfold Fits
  by_contra hnot
  rcases le_or_gt (2 ^ 31) d with hbig | hsmall
  · have hwrap : d.bmod (2 ^ 32) = d - 2 ^ 32 := by
      rw [← Int.sub_bmod_right]
      apply Int.bmod_eq_of_le <;> omega
    omega
  · have hwrap : (-d).bmod (2 ^ 32) = -d - 2 ^ 32 := by
      rw [← Int.sub_bmod_right]
      apply Int.bmod_eq_of_le <;> omega
    omega

namespace Decides

variable {key : α → κ} {diff : α → α → ℤ}

theorem pos (h : Decides key diff) (a b : α) : 0 < diff a b ↔ key b < key a := by
  rw [← h.neg b a, h.swap a b]
  omega

theorem zero (h : Decides key diff) (a b : α) : diff a b = 0 ↔ key a = key b := by
  have hneg := h.neg a b
  have hpos := h.pos a b
  constructor
  · intro hzero
    apply le_antisymm
    · exact not_lt.mp fun hlt => absurd (hpos.mpr hlt) (by omega)
    · exact not_lt.mp fun hlt => absurd (hneg.mpr hlt) (by omega)
  · intro heq
    have hnot : ¬key a < key b := heq ▸ lt_irrefl _
    have hnot' : ¬key b < key a := heq ▸ lt_irrefl _
    rw [← hneg] at hnot
    rw [← hpos] at hnot'
    omega

theorem nonpos (h : Decides key diff) (a b : α) : diff a b ≤ 0 ↔ key a ≤ key b := by
  rw [← not_lt, h.pos, not_lt]

theorem ordersBy_iff (h : Decides key diff) {s : Set α}
    (hbound : ∀ a ∈ s, ∀ b ∈ s, -2 ^ 32 < diff a b ∧ diff a b < 2 ^ 32) :
    OrdersBy key (wrapped diff) s ↔ ∀ a ∈ s, ∀ b ∈ s, Fits (diff a b) := by
  constructor
  · intro horders a ha b hb
    obtain ⟨hlow, hhigh⟩ := hbound a ha b hb
    have hsign := (horders.order a ha b hb).trans (h.neg a b).symm
    have hswap := (horders.order b hb a ha).trans (h.neg b a).symm
    rw [wrapped] at hsign hswap
    rw [h.swap a b] at hswap
    exact fits_of_signs hlow hhigh hsign hswap
  · intro hfits
    have heq : ∀ a ∈ s, ∀ b ∈ s, wrapped diff a b = diff a b :=
      fun a ha b hb => (hfits a ha b hb).bmod_eq
    refine ⟨fun a ha b hb => ?_, fun a ha b hb c hc hab hbc => ?_, fun a ha b hb => ?_,
      fun a ha b hb => ?_⟩
    · rw [heq a ha b hb, heq b hb a ha, h.neg, h.pos]
    · rw [heq a ha b hb, h.nonpos] at hab
      rw [heq b hb c hc, h.nonpos] at hbc
      rw [heq a ha c hc, h.nonpos]
      exact hab.trans hbc
    · rw [heq a ha b hb, h.zero]
    · rw [heq a ha b hb, h.neg]

end Decides

end WrappedOrder
