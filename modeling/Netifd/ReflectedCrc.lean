import Mathlib.Data.Nat.Notation
import Mathlib.Algebra.Order.Ring.Nat
import Mathlib.Logic.Function.Iterate
import Mathlib.Tactic.Common

/-!
# Reflected cyclic redundancy checks

The shift register of a reflected check takes the bits of a message one at a time, the lowest of
each word first. It is linear, so that the bits of a word can be added at once, and what the low
bits of the register do to it can be looked up in a table.
-/

namespace ReflectedCrc

variable {w : ℕ}

/-- One shift: the polynomial is added when a one leaves the register. -/
def shift (poly c : BitVec w) : BitVec w := if c.getLsbD 0 then poly ^^^ (c >>> 1) else c >>> 1

/-- The register after the bits of a message. -/
def feed (poly : BitVec w) (c : BitVec w) (bits : List Bool) : BitVec w :=
  bits.foldl (fun c b => shift poly (c ^^^ (BitVec.ofBool b).setWidth w)) c

/-- The lowest bits of a word, in the order in which they are sent. -/
def lowBits (k : ℕ) (b : BitVec w) : List Bool := (List.range k).map b.getLsbD

theorem shift_xor {poly x y : BitVec w} (hy : y.getLsbD 0 = false) :
    shift poly (x ^^^ y) = shift poly x ^^^ (y >>> 1) := by
  rw [shift, shift, BitVec.getLsbD_xor, hy, Bool.xor_false, BitVec.ushiftRight_xor_distrib]
  split_ifs
  · rw [BitVec.xor_assoc]
  · rfl

theorem iterate_shift_xor (poly : BitVec w) (k : ℕ) {x y : BitVec w}
    (hy : ∀ i < k, y.getLsbD i = false) :
    (shift poly)^[k] (x ^^^ y) = (shift poly)^[k] x ^^^ (y >>> k) := by
  induction k generalizing x y with
  | zero => simp
  | succ k ih =>
    have hrest : ∀ i < k, (y >>> 1).getLsbD i = false := by
      intro i hi
      rw [BitVec.getLsbD_ushiftRight]
      exact hy _ (by omega)
    rw [Function.iterate_succ_apply, Function.iterate_succ_apply, shift_xor (hy 0 (by omega)),
      ih hrest, ← BitVec.shiftRight_add, Nat.add_comm]

theorem lowBits_succ (k : ℕ) (b : BitVec w) :
    lowBits (k + 1) b = b.getLsbD 0 :: lowBits k (b >>> 1) := by
  rw [lowBits, lowBits, List.range_succ_eq_map, List.map_cons, List.map_map]
  congr 1
  refine List.map_congr_left fun i _ => ?_
  rw [Function.comp_apply, BitVec.getLsbD_ushiftRight, Nat.add_comm]

theorem shiftRight_ofBool (b : Bool) : (BitVec.ofBool b).setWidth w >>> 1 = 0 := by
  apply BitVec.eq_of_getLsbD_eq
  intro i hi
  simp [Nat.add_comm 1 i]

theorem feed_lowBits (poly c b : BitVec w) {k : ℕ} (hb : b >>> k = 0) :
    feed poly c (lowBits k b) = (shift poly)^[k] (c ^^^ b) := by
  induction k generalizing c b with
  | zero =>
    obtain rfl : b = 0 := by simpa using hb
    simp [feed, lowBits]
  | succ k ih =>
    let e : BitVec w := (BitVec.ofBool (b.getLsbD 0)).setWidth w
    have hrest : (b >>> 1) >>> k = 0 := by
      rw [← BitVec.shiftRight_add, Nat.add_comm]
      exact hb
    have hsplit : c ^^^ b = (c ^^^ e) ^^^ (e ^^^ b) := by
      rw [BitVec.xor_assoc, ← BitVec.xor_assoc e, BitVec.xor_self, BitVec.zero_xor]
    have hlow : (e ^^^ b).getLsbD 0 = false := by
      cases hbit : b.getLsbD 0 with
      | false => simp [e, hbit]
      | true =>
        have hw : 0 < w := BitVec.lt_of_getLsbD hbit
        simp [e, hw]
    have hhigh : (e ^^^ b) >>> 1 = b >>> 1 := by
      rw [BitVec.ushiftRight_xor_distrib, shiftRight_ofBool]
      exact BitVec.zero_xor
    calc feed poly c (lowBits (k + 1) b)
        = feed poly (shift poly (c ^^^ e)) (lowBits k (b >>> 1)) := by
          rw [lowBits_succ]
          rfl
      _ = (shift poly)^[k] (shift poly (c ^^^ e) ^^^ (b >>> 1)) := ih _ _ hrest
      _ = (shift poly)^[k] (shift poly (c ^^^ b)) := by rw [hsplit, shift_xor hlow, hhigh]

/-- The lowest bits of the register. -/
def lowMask (w k : ℕ) : BitVec w := BitVec.ofNat w (2 ^ k - 1)

theorem getLsbD_lowMask (k i : ℕ) : (lowMask w k).getLsbD i = (decide (i < w) && decide (i < k)) := by
  rw [lowMask, BitVec.getLsbD_ofNat, Nat.testBit_two_pow_sub_one]

theorem iterate_shift_eq (poly c : BitVec w) (k : ℕ) :
    (shift poly)^[k] c = (shift poly)^[k] (c &&& lowMask w k) ^^^ (c >>> k) := by
  let low := c &&& lowMask w k
  have hsplit : c = low ^^^ (low ^^^ c) := by
    rw [← BitVec.xor_assoc, BitVec.xor_self, BitVec.zero_xor]
  have hlow : ∀ i < k, (low ^^^ c).getLsbD i = false := by
    intro i hi
    by_cases hw : i < w
    · simp [low, getLsbD_lowMask, hi, hw]
    · exact BitVec.getLsbD_of_ge _ _ (by omega)
  have hhigh : (low ^^^ c) >>> k = c >>> k := by
    apply BitVec.eq_of_getLsbD_eq
    intro i hi
    have habove : ¬k + i < k := by omega
    simp [low, getLsbD_lowMask, habove]
  calc (shift poly)^[k] c
      = (shift poly)^[k] (low ^^^ (low ^^^ c)) := by rw [← hsplit]
    _ = (shift poly)^[k] low ^^^ ((low ^^^ c) >>> k) := iterate_shift_xor poly k hlow
    _ = (shift poly)^[k] low ^^^ (c >>> k) := by rw [hhigh]

theorem shift_injective {poly : BitVec w} (hpoly : poly.msb = true) :
    Function.Injective (shift poly) := by
  intro x y heq
  have hw : 0 < w := by
    by_contra hzero
    obtain rfl : w = 0 := by omega
    simp [BitVec.msb, BitVec.getMsbD] at hpoly
  have htop : ∀ c : BitVec w, (shift poly c).msb = c.getLsbD 0 := by
    intro c
    have hhigh : (c >>> 1).msb = false := by simp [BitVec.msb_ushiftRight]
    rw [shift]
    cases hbit : c.getLsbD 0 with
    | true => simp [BitVec.msb_xor, hpoly, hhigh]
    | false => simp
  have hlow : x.getLsbD 0 = y.getLsbD 0 := by rw [← htop x, ← htop y, heq]
  have hrest : x >>> 1 = y >>> 1 := by
    rw [shift, shift, hlow] at heq
    split at heq
    · exact BitVec.xor_right_inj poly |>.mp heq
    · exact heq
  apply BitVec.eq_of_getLsbD_eq
  intro i hi
  cases i with
  | zero => exact hlow
  | succ i =>
    have hbit := congrArg (fun c => c.getLsbD i) hrest
    simpa [BitVec.getLsbD_ushiftRight, Nat.add_comm] using hbit

theorem feed_injective {poly : BitVec w} (hpoly : poly.msb = true) (bits : List Bool) :
    Function.Injective fun c => feed poly c bits := by
  induction bits with
  | nil => exact fun x y heq => heq
  | cons b bits ih =>
    intro x y heq
    have hshift := shift_injective hpoly (ih heq)
    exact (BitVec.xor_left_inj _).mp hshift

theorem exists_lowBits {bits : List Bool} (hlen : bits.length ≤ w) :
    ∃ b : BitVec w, lowBits bits.length b = bits ∧ b >>> bits.length = 0 := by
  refine ⟨(BitVec.ofBoolListLE bits).setWidth w, ?_, ?_⟩
  · apply List.ext_getElem
    · simp [lowBits]
    · intro i hi hi'
      have hlt : i < w := by omega
      simp only [lowBits, List.getElem_map, List.getElem_range, BitVec.getLsbD_setWidth,
        BitVec.getLsbD_ofBoolListLE, hlt, decide_true, Bool.true_and]
      simp [hi']
  · apply BitVec.eq_of_getLsbD_eq
    intro i hi
    simp

theorem feed_burst {poly c : BitVec w} (hpoly : poly.msb = true) {bits bits' : List Bool}
    (hlen : bits.length ≤ w) (hsame : bits'.length = bits.length)
    (heq : feed poly c bits = feed poly c bits') : bits = bits' := by
  obtain ⟨b, hbits, hb⟩ := exists_lowBits hlen
  obtain ⟨b', hbits', hb'⟩ := exists_lowBits (hsame.trans_le hlen)
  rw [← hbits, ← hbits', feed_lowBits _ _ _ hb, feed_lowBits _ _ _ hb', hsame] at heq
  have hword := (shift_injective hpoly).iterate bits.length heq
  have hbb := (BitVec.xor_right_inj c).mp hword
  rw [← hbits, ← hbits', hsame, hbb]

theorem feed_window {poly c : BitVec w} (hpoly : poly.msb = true)
    {before bits bits' after : List Bool} (hlen : bits.length ≤ w)
    (hsame : bits'.length = bits.length)
    (heq : feed poly c (before ++ bits ++ after) = feed poly c (before ++ bits' ++ after)) :
    bits = bits' := by
  have hsplit : ∀ l : List Bool, feed poly c (before ++ l ++ after) =
      feed poly (feed poly (feed poly c before) l) after := by
    intro l
    simp [feed, List.foldl_append]
  rw [hsplit, hsplit] at heq
  exact feed_burst hpoly hlen hsame (feed_injective hpoly after heq)

end ReflectedCrc
