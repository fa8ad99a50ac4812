import Netifd.HostRoutes
import Mathlib.Logic.Function.Basic

/-!
# The bytes of addresses

`clear_if_addr` and `match_if_addr` of `interface-ip.c` on the bytes in memory. The masks are those
of IPv6 for both families.
-/

namespace Netifd.AddressBytes

/-- The bytes by their addresses, and the addresses that were read or written. -/
structure Memory where
  byte : ℤ → BitVec 8
  touched : List ℤ := []

namespace Memory

def store (m : Memory) (x : ℤ) (value : BitVec 8) : Memory where
  byte := Function.update m.byte x value
  touched := x :: m.touched

/-- `*x &= value`. -/
def andStore (m : Memory) (x : ℤ) (value : BitVec 8) : Memory := m.store x (m.byte x &&& value)

/-- `memset(x, 0, n)`. -/
def memset (m : Memory) (x : ℤ) : ℕ → Memory
  | 0 => m
  | n + 1 => (m.memset x n).store (x + n) 0

/-- `memcpy(dst, src, n)`. -/
def memcpy (m : Memory) (dst src : ℤ) : ℕ → Memory
  | 0 => m
  | n + 1 =>
    let m := m.memcpy dst src n
    m.store (dst + n) (m.byte (src + n))

end Memory

/-- `sizeof(union if_addr)`. -/
def addrSize : ℕ := 16

def clearIfAddr (m : Memory) (p : ℤ) (mask : ℕ) : Memory :=
  let mBytes := (mask + 7) / 8
  let mClear := BitVec.ofNat 8 (2 ^ (mBytes * 8 - mask) - 1)
  let m := if mBytes < addrSize then m.memset (p + mBytes) (addrSize - mBytes) else m
  m.andStore (p + mBytes - 1) (~~~mClear)

/-- Two addresses are in different places. -/
def Apart (x y : ℤ) : Prop := x + addrSize ≤ y ∨ y + addrSize ≤ x

/-- The arguments of `match_if_addr`, and the two places that `alloca` returns in it. -/
structure MatchCall where
  byte : ℤ → BitVec 8
  a1 : ℤ
  a2 : ℤ
  p1 : ℤ
  p2 : ℤ
  apart : Apart p1 p2
  fresh : ∀ p ∈ [p1, p2], ∀ a ∈ [a1, a2], Apart p a

/-- `memcpy`, and `clear_if_addr` for the copy. -/
def maskedCopy (m : Memory) (dst src : ℤ) (mask : ℕ) : Memory :=
  clearIfAddr (m.memcpy dst src addrSize) dst mask

/-- `match_if_addr`, with `memcmp` at the end. -/
def matchIfAddr (c : MatchCall) (mask : ℕ) : Bool :=
  let m := maskedCopy { byte := c.byte } c.p1 c.a1 mask
  let m := maskedCopy m c.p2 c.a2 mask
  decide (∀ i < addrSize, m.byte (c.p1 + i) = m.byte (c.p2 + i))

/-- The bits of an address from its front. -/
def addrBit (byte : ℤ → BitVec 8) (p : ℤ) (i : ℕ) : Bool := (byte (p + (i / 8 : ℕ))).getMsbD (i % 8)

/-- The bits in front are kept and the others are zero, and no other byte is read or written. -/
structure ClearSound (byte : ℤ → BitVec 8) (p : ℤ) (mask : ℕ) : Prop where
  inBounds : ∀ x ∈ (clearIfAddr { byte } p mask).touched, p ≤ x ∧ x < p + addrSize
  bits : ∀ i < 128,
    addrBit (clearIfAddr { byte } p mask).byte p i = (decide (i < mask) && addrBit byte p i)

/-- The addresses match if they have the same bits in front. -/
def MatchSound (c : MatchCall) (mask : ℕ) : Prop :=
  matchIfAddr c mask = true ↔ ∀ i < mask, addrBit c.byte c.a1 i = addrBit c.byte c.a2 i

section Bytes

variable {m : Memory} {p x : ℤ} {mask i n : ℕ}

theorem store_byte (m : Memory) (p x : ℤ) (value : BitVec 8) :
    (m.store p value).byte x = if x = p then value else m.byte x := Function.update_apply _ _ _ _

theorem memset_byte (m : Memory) (p x : ℤ) (n : ℕ) :
    (m.memset p n).byte x = if p ≤ x ∧ x < p + n then 0 else m.byte x := by
  induction n with
  | zero => rw [Memory.memset, if_neg (by omega)]
  | succ n ih =>
    rw [Memory.memset, store_byte, ih]
    split_ifs <;> first | rfl | omega

theorem memset_touched (hx : x ∈ (m.memset p n).touched) :
    x ∈ m.touched ∨ p ≤ x ∧ x < p + n := by
  induction n with
  | zero => exact .inl hx
  | succ n ih =>
    rcases List.mem_cons.mp hx with rfl | hx
    · exact .inr (by omega)
    · exact (ih hx).imp_right fun hbounds => by omega

theorem memcpy_byte (m : Memory) {dst src : ℤ} (happart : Apart dst src) (hn : n ≤ addrSize)
    (x : ℤ) : (m.memcpy dst src n).byte x =
      if dst ≤ x ∧ x < dst + n then m.byte (src + (x - dst)) else m.byte x := by
  induction n generalizing x with
  | zero => rw [Memory.memcpy, if_neg (by omega)]
  | succ n ih =>
    have hsrc : (m.memcpy dst src n).byte (src + n) = m.byte (src + n) := by
      rw [ih (by omega), if_neg]
      unfold Apart at happart
      omega
    rw [Memory.memcpy, store_byte, hsrc, ih (by omega)]
    split_ifs with hlast hin hin' hin'
    · rw [hlast, add_sub_cancel_left]
    · omega
    · rfl
    · omega
    · omega
    · rfl

/-- The bits of the last byte that are not in front. -/
def hostBits (mask : ℕ) : BitVec 8 := BitVec.ofNat 8 (2 ^ ((mask + 7) / 8 * 8 - mask) - 1)

theorem clearIfAddr_byte (m : Memory) (p : ℤ) (mask : ℕ) (x : ℤ) :
    (clearIfAddr m p mask).byte x =
      if p + ((mask + 7) / 8 : ℕ) ≤ x ∧ x < p + addrSize then 0
      else if x = p + ((mask + 7) / 8 : ℕ) - 1 then m.byte x &&& ~~~hostBits mask
      else m.byte x := by
  obtain ⟨rest, hclear, hrest⟩ : ∃ rest : Memory,
      clearIfAddr m p mask = rest.andStore (p + ((mask + 7) / 8 : ℕ) - 1) (~~~hostBits mask) ∧
      rest.byte x =
        if p + ((mask + 7) / 8 : ℕ) ≤ x ∧ x < p + addrSize then 0 else m.byte x := by
    refine ⟨_, rfl, ?_⟩
    split_ifs with hshort hin hin
    · rw [memset_byte, if_pos (by omega)]
    · rw [memset_byte, if_neg (by omega)]
    · omega
    · rfl
  rw [hclear, Memory.andStore, store_byte]
  split_ifs with hlast hin hin
  · omega
  · rw [← hlast, hrest, if_neg hin]
  · rw [hrest, if_pos hin]
  · rw [hrest, if_neg hin]

theorem clearIfAddr_outside (m : Memory) (hmask : mask ≤ 128) (hx : x < p ∨ p + addrSize ≤ x) :
    (clearIfAddr m p mask).byte x = m.byte x := by
  rw [clearIfAddr_byte m p mask, addrSize] at *
  split_ifs with hin hlast
  · omega
  · obtain rfl : mask = 0 := by omega
    have hall : ~~~hostBits 0 = BitVec.allOnes 8 := rfl
    rw [hall, BitVec.and_allOnes]
  · rfl

theorem getMsbD_hostBits {j : ℕ} (hj : j < 8) :
    (hostBits mask).getMsbD j = decide (7 - j < (mask + 7) / 8 * 8 - mask) := by
  rw [hostBits, BitVec.getMsbD_eq_getLsbD, BitVec.getLsbD_ofNat, Nat.testBit_two_pow_sub_one]
  simp [hj]
  omega

theorem addrBit_clearIfAddr (m : Memory) (p : ℤ) (mask : ℕ) (hi : i < 128) :
    addrBit (clearIfAddr m p mask).byte p i = (decide (i < mask) && addrBit m.byte p i) := by
  have hbit : i % 8 < 8 := Nat.mod_lt _ (by omega)
  rw [addrBit, addrBit, clearIfAddr_byte m p mask, addrSize]
  split_ifs with hin hlast
  · rw [decide_eq_false (by omega)]
    simp
  · have hiff : 7 - i % 8 < (mask + 7) / 8 * 8 - mask ↔ ¬i < mask := by omega
    rw [BitVec.getMsbD_and, BitVec.getMsbD_not, getMsbD_hostBits hbit, decide_eq_decide.mpr hiff,
      decide_not, Bool.not_not, decide_eq_true hbit, Bool.true_and, Bool.and_comm]
  · rw [decide_eq_true (by omega), Bool.true_and]

theorem clearIfAddr_touched (hmask : mask ≤ 128)
    (hx : x ∈ (clearIfAddr m p mask).touched) :
    x ∈ m.touched ∨ p ≤ x ∧ x < p + addrSize ∨ mask = 0 ∧ x = p - 1 := by
  rcases List.mem_cons.mp hx with rfl | hx
  · rw [addrSize]
    omega
  · split_ifs at hx
    · rcases memset_touched hx with hx | hx
      · exact .inl hx
      · rw [addrSize] at hx ⊢
        omega
    · exact .inl hx

theorem clearSound_iff (byte : ℤ → BitVec 8) (p : ℤ) (hmask : mask ≤ 128) :
    ClearSound byte p mask ↔ 0 < mask := by
  constructor
  · intro hsound
    by_contra hzero
    obtain rfl : mask = 0 := by omega
    have hfront := hsound.inBounds (p - 1) (List.mem_cons.mpr (.inl (by simp)))
    omega
  · intro hpos
    refine ⟨fun x hx => ?_, fun i hi => addrBit_clearIfAddr _ p mask hi⟩
    rcases clearIfAddr_touched hmask hx with hx | hx | ⟨hzero, -⟩
    · cases hx
    · exact hx
    · omega

theorem bytes_eq_iff (byte byte' : ℤ → BitVec 8) (p q : ℤ) :
    (∀ k < addrSize, byte (p + k) = byte' (q + k)) ↔
      ∀ i < 128, addrBit byte p i = addrBit byte' q i := by
  constructor
  · intro h i hi
    rw [addrBit, addrBit, h (i / 8) (by rw [addrSize]; omega)]
  · intro h k hk
    rw [addrSize] at hk
    apply BitVec.eq_of_getMsbD_eq
    intro j hj
    have hbit := h (8 * k + j) (by omega)
    have hdiv : (8 * k + j) / 8 = k := by omega
    have hmod : (8 * k + j) % 8 = j := by omega
    rwa [addrBit, addrBit, hdiv, hmod] at hbit

theorem addrBit_memcpy (m : Memory) {dst src : ℤ} (happart : Apart dst src) (hi : i < 128) :
    addrBit (m.memcpy dst src addrSize).byte dst i = addrBit m.byte src i := by
  rw [addrBit, addrBit, memcpy_byte m happart le_rfl, addrSize, if_pos (by omega),
    add_sub_cancel_left]

theorem addrBit_maskedCopy (m : Memory) {dst src : ℤ} (happart : Apart dst src) (hi : i < 128) :
    addrBit (maskedCopy m dst src mask).byte dst i =
      (decide (i < mask) && addrBit m.byte src i) := by
  rw [maskedCopy, addrBit_clearIfAddr _ _ mask hi, addrBit_memcpy m happart hi]

theorem addrBit_maskedCopy_other (m : Memory) {dst src p : ℤ} (happart : Apart dst src)
    (hp : Apart dst p) (hmask : mask ≤ 128) (hi : i < 128) :
    addrBit (maskedCopy m dst src mask).byte p i = addrBit m.byte p i := by
  have hout : p + (i / 8 : ℕ) < dst ∨ dst + addrSize ≤ p + (i / 8 : ℕ) := by
    unfold Apart at hp
    rw [addrSize] at hp ⊢
    omega
  rw [addrBit, addrBit, maskedCopy, clearIfAddr_outside _ hmask hout,
    memcpy_byte m happart le_rfl, if_neg (by omega)]

theorem matchIfAddr_sound (c : MatchCall) (hmask : mask ≤ 128) : MatchSound c mask := by
  have h11 : Apart c.p1 c.a1 := c.fresh _ (by simp) _ (by simp)
  have h12 : Apart c.p1 c.a2 := c.fresh _ (by simp) _ (by simp)
  have h22 : Apart c.p2 c.a2 := c.fresh _ (by simp) _ (by simp)
  have h21 : Apart c.p2 c.p1 := c.apart.symm
  let m := maskedCopy { byte := c.byte } c.p1 c.a1 mask
  have hbits (i : ℕ) (hi : i < 128) :
      addrBit (maskedCopy m c.p2 c.a2 mask).byte c.p1 i =
          addrBit (maskedCopy m c.p2 c.a2 mask).byte c.p2 i ↔
        (i < mask → addrBit c.byte c.a1 i = addrBit c.byte c.a2 i) := by
    rw [addrBit_maskedCopy_other m h22 h21 hmask hi, addrBit_maskedCopy m h22 hi,
      addrBit_maskedCopy _ h11 hi, addrBit_maskedCopy_other _ h11 h12 hmask hi]
    by_cases hin : i < mask <;> simp [hin]
  rw [MatchSound, matchIfAddr, decide_eq_true_eq, bytes_eq_iff]
  constructor
  · exact fun h i hi => (hbits i (by omega)).mp (h i (by omega)) hi
  · exact fun h i hi => (hbits i hi).mpr fun hin => h i hin

/-- The bits of an address. -/
def addrBits (v6 : Bool) : ℕ := if v6 then 128 else 32

theorem addrBits_le (v6 : Bool) : addrBits v6 ≤ 128 := by cases v6 <;> decide

/-- The bytes spell the number in network order. -/
structure Spells (byte : ℤ → BitVec 8) (p : ℤ) (v6 : Bool) (addr : ℕ) : Prop where
  bound : addr < 2 ^ addrBits v6
  bits : ∀ i < addrBits v6, addr.testBit (addrBits v6 - 1 - i) = addrBit byte p i

theorem testBit_clearIfAddr (v6 : Bool) (addr mask j : ℕ) :
    (Netifd.clearIfAddr v6 addr mask).testBit j =
      (decide (addrBits v6 - mask ≤ j) && addr.testBit j) := by
  have hhost : Netifd.clearIfAddr v6 addr mask =
      addr / 2 ^ (addrBits v6 - mask) * 2 ^ (addrBits v6 - mask) := rfl
  rw [hhost, Nat.testBit_mul_two_pow, Nat.testBit_div_two_pow]
  by_cases hj : addrBits v6 - mask ≤ j
  · rw [Nat.sub_add_cancel hj]
  · simp [hj]

theorem Spells.clearIfAddr {byte : ℤ → BitVec 8} {p : ℤ} {v6 : Bool} {addr : ℕ}
    (h : Spells byte p v6 addr) (mask : ℕ) :
    Spells (AddressBytes.clearIfAddr { byte } p mask).byte p v6
      (Netifd.clearIfAddr v6 addr mask) := by
  refine ⟨(Nat.div_mul_le_self _ _).trans_lt h.bound, fun i hi => ?_⟩
  have hbits := addrBits_le v6
  rw [testBit_clearIfAddr, h.bits i hi, addrBit_clearIfAddr _ p mask (by omega)]
  congr 1
  rw [decide_eq_decide]
  omega

theorem matchIfAddr_spells {c : MatchCall} {v6 : Bool} {n₁ n₂ : ℕ} (h₁ : Spells c.byte c.a1 v6 n₁)
    (h₂ : Spells c.byte c.a2 v6 n₂) (hmask : mask ≤ addrBits v6) :
    matchIfAddr c mask = Netifd.matchIfAddr v6 n₁ n₂ mask := by
  have hmatch : matchIfAddr c mask = true ↔
      ∀ i < mask, addrBit c.byte c.a1 i = addrBit c.byte c.a2 i :=
    matchIfAddr_sound c (hmask.trans (addrBits_le v6))
  rw [Bool.eq_iff_iff, hmatch, Netifd.matchIfAddr, beq_iff_eq]
  constructor
  · intro hsame
    apply Nat.eq_of_testBit_eq
    intro j
    rw [testBit_clearIfAddr, testBit_clearIfAddr]
    by_cases hj : addrBits v6 - mask ≤ j
    · by_cases hhigh : j < addrBits v6
      · have hbit := hsame (addrBits v6 - 1 - j) (by omega)
        rw [← h₁.bits _ (by omega), ← h₂.bits _ (by omega)] at hbit
        have hj' : addrBits v6 - 1 - (addrBits v6 - 1 - j) = j := by omega
        rw [hj'] at hbit
        rw [hbit]
      · have hpow := Nat.pow_le_pow_right (n := 2) (by decide) (not_lt.mp hhigh)
        rw [Nat.testBit_lt_two_pow (h₁.bound.trans_le hpow),
          Nat.testBit_lt_two_pow (h₂.bound.trans_le hpow)]
    · simp [hj]
  · intro hsame i hi
    have hbit := congrArg (Nat.testBit · (addrBits v6 - 1 - i)) hsame
    simp only [testBit_clearIfAddr] at hbit
    rw [decide_eq_true (by omega), Bool.true_and, Bool.true_and] at hbit
    rw [← h₁.bits i (by omega), ← h₂.bits i (by omega), hbit]

end Bytes

/-- The bits in front are kept and compared for every mask, and all of memory that is touched is
the address itself just if the mask is not empty. -/
theorem maskingSound_iff (byte : ℤ → BitVec 8) (p : ℤ) (c : MatchCall) (mask : Fin 129) :
    ClearSound byte p mask ∧ MatchSound c mask ↔ 0 < mask := by
  have hmask : (mask : ℕ) ≤ 128 := by omega
  rw [clearSound_iff byte p hmask, and_iff_left (matchIfAddr_sound c hmask)]
  exact Iff.rfl

/-- For a default route the byte in front of the address is read and written. -/
theorem default_route_touches_front :
    ¬∀ byte p, ∀ mask : Fin 129, ClearSound byte p mask := by
  intro hsound
  have hfront := (hsound (fun _ => 0) 0 0).inBounds (-1) (by decide)
  omega

end Netifd.AddressBytes
