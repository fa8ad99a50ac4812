import Mathlib

/-!
# Aligned blocks of numbers

The block of size `2 ^ j` around a number, as a subnet is around an address. Where a fixed
number is OR-ed into the numbers of a set and keeps them apart, it keeps the blocks in that
set apart, too.
-/

namespace AlignedBlocks

/-- The numbers that differ from `n` in the lowest `j` bits only. -/
def block (j n : ℕ) : Set ℕ := {x | x / 2 ^ j = n / 2 ^ j}

theorem mem_block {j n x : ℕ} : x ∈ block j n ↔ x / 2 ^ j = n / 2 ^ j := Iff.rfl

theorem div_eq_of_le {i j m n : ℕ} (hij : i ≤ j) (h : m / 2 ^ i = n / 2 ^ i) :
    m / 2 ^ j = n / 2 ^ j := by
  obtain ⟨k, rfl⟩ := Nat.exists_eq_add_of_le hij
  rw [pow_add, ← Nat.div_div_eq_div_mul, ← Nat.div_div_eq_div_mul, h]

theorem block_subset {i j m n : ℕ} (hij : i ≤ j) (h : m / 2 ^ j = n / 2 ^ j) :
    block i m ⊆ block j n := by
  intro x hx
  exact (div_eq_of_le hij hx).trans h

theorem disjoint_block_iff {i j m n : ℕ} (hij : i ≤ j) :
    Disjoint (block i m) (block j n) ↔ m / 2 ^ j ≠ n / 2 ^ j := by
  constructor
  · intro h heq
    exact Set.disjoint_left.mp h (mem_block.mpr rfl) heq
  · intro h
    apply Set.disjoint_left.mpr
    intro x hx hx'
    exact h ((div_eq_of_le hij hx).symm.trans hx')

variable {u : ℕ}

theorem or_add_div {j x r : ℕ} (hx : 2 ^ j ∣ x) (hr : r < 2 ^ j) :
    (u ||| (x + r)) / 2 ^ j = (u ||| x) / 2 ^ j := by
  obtain ⟨k, rfl⟩ := hx
  have hpos := Nat.two_pow_pos j
  rw [Nat.or_div_two_pow, Nat.or_div_two_pow, Nat.mul_add_div hpos, Nat.div_eq_of_lt hr,
    Nat.add_zero, Nat.mul_div_cancel_left k hpos]

theorem or_add_mod {j x r : ℕ} (hx : 2 ^ j ∣ x) (hr : r < 2 ^ j) :
    (u ||| (x + r)) % 2 ^ j = u % 2 ^ j ||| r := by
  obtain ⟨k, rfl⟩ := hx
  rw [Nat.or_mod_two_pow, Nat.mul_add_mod, Nat.mod_eq_of_lt hr]

theorem or_add_eq {j x z : ℕ} (hx : 2 ^ j ∣ x) (hz : (u ||| x) / 2 ^ j = z / 2 ^ j)
    (hlow : u % 2 ^ j ||| z % 2 ^ j = z % 2 ^ j) : u ||| (x + z % 2 ^ j) = z := by
  have hlt := Nat.mod_lt z (Nat.two_pow_pos j)
  rw [← Nat.div_add_mod (u ||| (x + z % 2 ^ j)) (2 ^ j), or_add_div hx hlt, or_add_mod hx hlt, hz,
    hlow, Nat.div_add_mod]

/-- OR-ing `u` in keeps the numbers of a set apart. -/
def KeepsApart (u : ℕ) (F : ℕ → Prop) : Prop :=
  ∀ x y, F x → F y → u ||| x = u ||| y → x = y

theorem KeepsApart.disjoint {F : ℕ → Prop} (h : KeepsApart u F) {i j x y : ℕ} (hij : i ≤ j)
    (hy : 2 ^ j ∣ y) (hx : F x) (hblock : ∀ r < 2 ^ j, F (y + r)) (hout : ∀ r < 2 ^ j, x ≠ y + r) :
    Disjoint (block i (u ||| x)) (block j (u ||| y)) := by
  rw [disjoint_block_iff hij]
  intro heq
  have hlt := Nat.mod_lt (u ||| x) (Nat.two_pow_pos j)
  -- the number of the block of `y` that would be sent to where `x` is
  have hsame : u ||| (y + (u ||| x) % 2 ^ j) = u ||| x := by
    apply or_add_eq hy heq.symm
    rw [Nat.or_mod_two_pow, ← Nat.or_assoc, Nat.or_self]
  exact hout _ hlt (h _ _ hx (hblock _ hlt) hsame.symm)

theorem KeepsApart.disjoint_target {F : ℕ → Prop} (h : KeepsApart u F) {j m x e : ℕ}
    (hx : 2 ^ j ∣ x) (hblock : ∀ r < 2 ^ j, F (x + r))
    (htarget : ∀ z, F z → (u ||| z) / 2 ^ m ≠ e / 2 ^ m) :
    Disjoint (block j (u ||| x)) (block m e) := by
  rcases Nat.le_total j m with hjm | hmj
  · rw [disjoint_block_iff hjm]
    have hzero := hblock 0 (Nat.two_pow_pos j)
    exact htarget x hzero
  · apply Disjoint.symm
    rw [disjoint_block_iff hmj]
    intro heq
    have hlt := Nat.mod_lt e (Nat.two_pow_pos j)
    have hlt' := Nat.mod_lt (u ||| e) (Nat.two_pow_pos j)
    -- the lowest bits of `u` are among those of `e`, else two numbers are sent to one
    have hlow : e % 2 ^ j = (u ||| e) % 2 ^ j := by
      have hsame : u ||| (x + e % 2 ^ j) = u ||| (x + (u ||| e) % 2 ^ j) := by
        rw [← Nat.div_add_mod (u ||| (x + e % 2 ^ j)) (2 ^ j),
          ← Nat.div_add_mod (u ||| (x + (u ||| e) % 2 ^ j)) (2 ^ j), or_add_div hx hlt,
          or_add_div hx hlt', or_add_mod hx hlt, or_add_mod hx hlt', Nat.or_mod_two_pow,
          ← Nat.or_assoc, Nat.or_self]
      exact Nat.add_left_cancel (h _ _ (hblock _ hlt) (hblock _ hlt') hsame)
    have hreach : u ||| (x + e % 2 ^ j) = e := by
      apply or_add_eq hx heq.symm
      rw [← Nat.or_mod_two_pow]
      exact hlow.symm
    exact htarget _ (hblock _ hlt) (by rw [hreach])

end AlignedBlocks
