import Netifd.Netmask
import Mathlib.Algebra.Order.Ring.Nat
import Mathlib.Data.List.Induction

/-!
# Packet steering

`system_if_apply_rps_xps` of `system-linux.c` puts all CPUs into the masks of the queues. The mask
is an `int`, and its text goes through a buffer of eight characters.
-/

namespace Netifd.PacketSteering

/-- What is in the files `rps_cpus` and `xps_cpus` of the queues of a device. -/
structure QueueMasks where
  rps : List (List Char)
  xps : List (List Char)

/-- `(1 << n) - 1`. A shift out of the value bits of an `int` is not defined. -/
def allCpus (undefined : ℕ → BitVec 32) (n : ℕ) : BitVec 32 :=
  (if n < 31 then BitVec.twoPow 32 n else undefined n) - 1

/-- `sizeof(val_buf)`. -/
def valBufSize : ℕ := 8

/-- `snprintf(val_buf, sizeof(val_buf), "%x", val)`. -/
def formatMask (val : BitVec 32) : List Char := (Nat.toDigits 16 val.toNat).take (valBufSize - 1)

/-- `system_if_set_rps_xps_val` for the files that `glob` finds. -/
def systemIfSetRpsXpsVal (files : List (List Char)) (val : BitVec 32) : List (List Char) :=
  files.map fun _ => formatMask val

def systemIfApplyRpsXps (undefined : ℕ → BitVec 32) (nCpus : ℤ) (rps xps : Bool) (q : QueueMasks) :
    QueueMasks :=
  if nCpus < 2 then q
  else
    let val := allCpus undefined nCpus.toNat
    { rps := systemIfSetRpsXpsVal q.rps (if rps then val else 0)
      xps := systemIfSetRpsXpsVal q.xps (if xps then val else 0) }

/-- The text is the hexadecimal numeral of a number. -/
structure HexText (s : List Char) (n : ℕ) : Prop where
  nonempty : s ≠ []
  digits : ∀ c ∈ s, isDigitOf 16 c = true
  value : digitsValue 16 s = n

/-- The files of the kinds that are enabled have all CPUs in their masks. -/
def SteeringSound (undefined : ℕ → BitVec 32) (n : ℕ) : Prop :=
  ∀ rps xps q, let q' := systemIfApplyRpsXps undefined n rps xps q
    (rps = true → ∀ s ∈ q'.rps, HexText s (2 ^ n - 1)) ∧
      (xps = true → ∀ s ∈ q'.xps, HexText s (2 ^ n - 1))

section Numerals

variable {base n : ℕ} {s : List Char}

theorem hexDigit_digitChar {d : ℕ} (hd : d < 16) : hexDigit d.digitChar = some d := by
  revert d
  decide

theorem digitsValue_append (base : ℕ) (s : List Char) (c : Char) :
    digitsValue base (s ++ [c]) = base * digitsValue base s + (hexDigit c).getD 0 := by
  rw [digitsValue, List.foldl_append]
  rfl

theorem isDigitOf_digitChar {d : ℕ} (hbase : base ≤ 16) (hd : d < base) :
    isDigitOf base d.digitChar = true := by
  rw [isDigitOf, hexDigit_digitChar (hd.trans_le hbase)]
  simpa using hd

theorem toDigits_numeral (hlow : 1 < base) (hbase : base ≤ 16) (n : ℕ) :
    (∀ c ∈ Nat.toDigits base n, isDigitOf base c = true) ∧
      digitsValue base (Nat.toDigits base n) = n := by
  induction n using Nat.strong_induction_on with
  | _ n ih =>
    rw [Nat.toDigits_eq_if hlow]
    split_ifs with hsmall
    · refine ⟨fun c hc => ?_, ?_⟩
      · rw [List.mem_singleton.mp hc]
        exact isDigitOf_digitChar hbase hsmall
      · simp [digitsValue, hexDigit_digitChar (hsmall.trans_le hbase)]
    · have hlt : n % base < base := Nat.mod_lt _ (by omega)
      obtain ⟨hdigits, hvalue⟩ := ih (n / base) (Nat.div_lt_self (by omega) hlow)
      refine ⟨fun c hc => ?_, ?_⟩
      · rcases List.mem_append.mp hc with hc | hc
        · exact hdigits c hc
        · rw [List.mem_singleton.mp hc]
          exact isDigitOf_digitChar hbase hlt
      · rw [digitsValue_append, hvalue, hexDigit_digitChar (hlt.trans_le hbase), Option.getD_some,
          Nat.div_add_mod]

theorem digitsValue_lt (hs : ∀ c ∈ s, isDigitOf base c = true) :
    digitsValue base s < base ^ s.length := by
  induction s using List.reverseRecOn with
  | nil => simp [digitsValue]
  | append_singleton s c ih =>
    have hrest := ih fun d hd => hs d (List.mem_append_left _ hd)
    have hdigit := hs c (by simp)
    obtain ⟨d, hd, hlt⟩ : ∃ d, hexDigit c = some d ∧ d < base := by
      unfold isDigitOf at hdigit
      cases hd : hexDigit c with
      | none => simp [hd] at hdigit
      | some d => exact ⟨d, rfl, by simpa [hd] using hdigit⟩
    rw [digitsValue_append, hd, Option.getD_some, List.length_append, List.length_singleton]
    calc base * digitsValue base s + d
        < base * (digitsValue base s + 1) := by
          rw [Nat.mul_succ]
          omega
      _ ≤ base * base ^ s.length := Nat.mul_le_mul_left _ hrest
      _ = base ^ (s.length + 1) := (pow_succ' _ _).symm

end Numerals

section Masks

variable {undefined : ℕ → BitVec 32} {n : ℕ}

theorem allCpus_toNat (undefined : ℕ → BitVec 32) (hn : n < 31) :
    (allCpus undefined n).toNat = 2 ^ n - 1 := by
  have hpow : 2 ^ n ≤ 2 ^ 30 := Nat.pow_le_pow_right (by decide) (by omega)
  have hpos : 0 < 2 ^ n := Nat.two_pow_pos n
  rw [allCpus, if_pos hn, BitVec.toNat_sub, BitVec.toNat_twoPow]
  change (2 ^ 32 - 1 + 2 ^ n % 2 ^ 32) % 2 ^ 32 = _
  omega

theorem hexText_formatMask {val : BitVec 32} (hval : val.toNat < 16 ^ 7) :
    HexText (formatMask val) val.toNat := by
  have hlength : (Nat.toDigits 16 val.toNat).length ≤ valBufSize - 1 :=
    (Nat.length_toDigits_le_iff (by decide) (by decide)).mpr hval
  obtain ⟨hdigits, hvalue⟩ := @toDigits_numeral 16 (by decide) le_rfl val.toNat
  rw [formatMask, List.take_of_length_le hlength]
  exact ⟨Nat.toDigits_ne_nil, hdigits, hvalue⟩

theorem formatMask_lt (val : BitVec 32) : digitsValue 16 (formatMask val) < 16 ^ 7 := by
  have hdigits : ∀ c ∈ formatMask val, isDigitOf 16 c = true := fun c hc =>
    (toDigits_numeral (by decide) le_rfl val.toNat).1 c (List.mem_of_mem_take hc)
  refine (digitsValue_lt hdigits).trans_le ?_
  exact Nat.pow_le_pow_right (by decide) (List.length_take_le _ _)

theorem apply_of_two_le (hn : 2 ≤ n) (rps xps : Bool) (q : QueueMasks) :
    systemIfApplyRpsXps undefined n rps xps q =
      { rps := systemIfSetRpsXpsVal q.rps (if rps then allCpus undefined n else 0)
        xps := systemIfSetRpsXpsVal q.xps (if xps then allCpus undefined n else 0) } :=
  if_neg (by omega)

theorem steering_masks_iff (hn : 2 ≤ n) : SteeringSound undefined n ↔ n ≤ 28 := by
  constructor
  · intro hsound
    by_contra hmany
    have hfile := (hsound true true ⟨[[]], []⟩).1 rfl
    rw [apply_of_two_le hn] at hfile
    have hvalue : digitsValue 16 (formatMask (allCpus undefined n)) = 2 ^ n - 1 :=
      (hfile _ (List.mem_singleton.mpr rfl)).value
    have hlt := formatMask_lt (allCpus undefined n)
    have hpow : 2 ^ 29 ≤ 2 ^ n := Nat.pow_le_pow_right (by decide) (by omega)
    omega
  · intro hfew rps xps q
    have hval := allCpus_toNat undefined (n := n) (by omega)
    have hpow : 2 ^ n ≤ 2 ^ 28 := Nat.pow_le_pow_right (by decide) hfew
    have htext : HexText (formatMask (allCpus undefined n)) (2 ^ n - 1) := by
      rw [← hval]
      exact hexText_formatMask (by omega)
    have hfiles (files : List (List Char)) :
        ∀ s ∈ systemIfSetRpsXpsVal files (allCpus undefined n), HexText s (2 ^ n - 1) := by
      intro s hs
      obtain ⟨_, -, rfl⟩ := List.mem_map.mp hs
      exact htext
    rw [apply_of_two_le hn]
    refine ⟨?_, ?_⟩
    · rintro rfl
      exact hfiles q.rps
    · rintro rfl
      exact hfiles q.xps

theorem steering_masks_of_four : (2 ≤ 4) ∧ (SteeringSound (fun _ => 0) 4 ↔ 4 ≤ 28) :=
  ⟨by decide, steering_masks_iff (by decide)⟩

/-- The mask of 29 CPUs is cut off after seven digits, and is one of 25. -/
theorem mask_cut_off : ¬∀ undefined n, 2 ≤ n → SteeringSound undefined n := by
  intro hsound
  have hfile := (hsound (fun _ => 0) 29 (by decide) true true ⟨[[]], []⟩).1 rfl
  have hvalue := (hfile "1ffffff".toList (by decide)).value
  exact absurd hvalue (by decide)

end Masks

end Netifd.PacketSteering
