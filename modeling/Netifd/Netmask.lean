import Netifd.PrefixOptions
import Mathlib.Data.List.TakeWhile
import Mathlib.Tactic.Common

/-!
# The text of a netmask

`parse_netmask_string` and `parse_ip_and_netmask` of `utils.c` with `fls` of `utils.h`, and
what they call of the C library: `strtoul` that finds out the base, and `inet_aton`.
-/

namespace Netifd

def isDigitOf (base : ℕ) (c : Char) : Bool := (hexDigit c).any (· < base)

def digitsValue (base : ℕ) (s : List Char) : ℕ :=
  s.foldl (fun n c => base * n + (hexDigit c).getD 0) 0

/-- The value of the digits at the front, and what follows them. -/
def readDigits (base : ℕ) (s : List Char) : ℕ × List Char :=
  (digitsValue base (s.takeWhile (isDigitOf base)), s.dropWhile (isDigitOf base))

/-- A number as in C: the digits say by what is in front of them which base they have. -/
def readConstant : List Char → Option (ℕ × List Char)
  | '0' :: x :: d :: s =>
    if (x == 'x' || x == 'X') && isDigitOf 16 d then some (readDigits 16 (d :: s))
    else some (readDigits 8 (x :: d :: s))
  | '0' :: s => some (readDigits 8 s)
  | c :: s => if isDigitOf 10 c then some (readDigits 10 (c :: s)) else none
  | [] => none

/-- A sign, if there is one. -/
def readSign : List Char → Bool × List Char
  | '-' :: s => (true, s)
  | '+' :: s => (false, s)
  | s => (false, s)

/-- `strtoul(s, &end, 0)`: the result and the string at `end`. -/
def strtoulAuto (s : List Char) : ℕ × List Char :=
  let (negative, body) := readSign (s.dropWhile isspace)
  match readConstant body with
  | none => (0, s)
  | some (n, rest) => (unsignedLong negative n, rest)

/-- A part of an address: a number and nothing else. -/
def addressPart (s : List Char) : Option ℕ :=
  match readConstant s with
  | some (n, []) => some n
  | _ => none

/-- `inet_aton`: one to four parts, the last of which fills what the others leave. -/
def inetAton (s : List Char) : Option (BitVec 32) := do
  match ← (s.splitOn '.').mapM addressPart with
  | [a] =>
    guard (a < 2 ^ 32)
    pure (BitVec.ofNat 32 a)
  | [a, b] =>
    guard (a < 2 ^ 8 ∧ b < 2 ^ 24)
    pure (BitVec.ofNat 32 (2 ^ 24 * a + b))
  | [a, b, c] =>
    guard (a < 2 ^ 8 ∧ b < 2 ^ 8 ∧ c < 2 ^ 16)
    pure (BitVec.ofNat 32 (2 ^ 24 * a + 2 ^ 16 * b + c))
  | [a, b, c, d] =>
    guard (a < 2 ^ 8 ∧ b < 2 ^ 8 ∧ c < 2 ^ 8 ∧ d < 2 ^ 8)
    pure (BitVec.ofNat 32 (2 ^ 24 * a + 2 ^ 16 * b + 2 ^ 8 * c + d))
  | _ => none

/-- `inet_pton` for either family, with the number that the bytes spell. -/
def inetPton (v6 : Bool) (s : List Char) : Option ℕ :=
  if v6 then (inetPton6 s).map BitVec.toNat
  else (dottedGroups s).map (·.foldl (fun n g => 2 ^ 16 * n + g) 0)

/-- One step of the search for the highest bit. -/
def flsStep (mask : BitVec 32) (k : ℕ) (s : BitVec 32 × ℕ) : BitVec 32 × ℕ :=
  if s.1 &&& mask = 0 then (s.1 <<< k, s.2 - k) else s

def fls (x : BitVec 32) : ℕ :=
  if x = 0 then 0
  else
    let s := flsStep 0xffff0000 16 (x, 32)
    let s := flsStep 0xff000000 8 s
    let s := flsStep 0xf0000000 4 s
    let s := flsStep 0xc0000000 2 s
    if s.1 &&& 0x80000000 = 0 then s.2 - 1 else s.2

/-- `parse_netmask_string`; an error is the largest value. -/
def parseNetmaskString (str : List Char) (v6 : Bool) : ℕ :=
  if !str.contains '.' then
    let (ret, err) := strtoulAuto str
    if err ≠ [] then 2 ^ 32 - 1 else ret % 2 ^ 32
  else if v6 then 2 ^ 32 - 1
  else
    match inetAton str with
    | none => 2 ^ 32 - 1
    | some addr => 32 - fls (~~~addr)

/-- `split_netmask`: what is in front of the slash, and the netmask after it. -/
def splitNetmask (str : List Char) (netmask : ℕ) (v6 : Bool) : List Char × ℕ :=
  match splitSlash str with
  | some (astr, delim) => (astr, parseNetmaskString delim v6)
  | none => (str, netmask)

/-- The longest netmask of a family. -/
def netmaskLimit (v6 : Bool) : ℕ := if v6 then 128 else 32

/-- `parse_ip_and_netmask`, where `netmask` is what the caller has set. -/
def parseIpAndNetmask (v6 : Bool) (str : List Char) (netmask : ℕ) : Option (ℕ × ℕ) :=
  let (astr, netmask) := splitNetmask str netmask v6
  if netmaskLimit v6 < netmask then none else (inetPton v6 astr).map (·, netmask)

theorem and_high_eq_zero_iff {w : ℕ} (x : BitVec w) (m : ℕ) :
    x &&& (BitVec.allOnes w <<< m) = 0 ↔ x.toNat < 2 ^ m := by
  constructor
  · intro h
    refine Nat.lt_pow_two_of_testBit _ fun i hi => ?_
    rw [BitVec.testBit_toNat]
    rcases Nat.lt_or_ge i w with hlt | hge
    · have hbit := congrArg (BitVec.getLsbD · i) h
      have hrest : i - m < w := by omega
      simpa [BitVec.getLsbD_and, BitVec.getLsbD_shiftLeft, hlt, Nat.not_lt.mpr hi, hrest] using hbit
    · exact BitVec.getLsbD_of_ge x i hge
  · intro h
    refine BitVec.eq_of_getLsbD_eq fun i hi => ?_
    rcases Nat.lt_or_ge i m with hlt | hge
    · simp [BitVec.getLsbD_shiftLeft, hlt]
    · have hbit : x.getLsbD i = false := by
        rw [← BitVec.testBit_toNat]
        exact Nat.testBit_lt_two_pow (h.trans_le (Nat.pow_le_pow_right (by decide) hge))
      rw [BitVec.getLsbD_and, hbit]
      simp

theorem two_pow_split {m n : ℕ} (h : n ≤ m) : 2 ^ m = 2 ^ (m - n) * 2 ^ n := by
  rw [← Nat.pow_add, Nat.sub_add_cancel h]

theorem toNat_shiftLeft_of_lt {w k : ℕ} {x : BitVec w} (hk : k ≤ w)
    (h : x.toNat < 2 ^ (w - k)) : (x <<< k).toNat = x.toNat * 2 ^ k := by
  rw [BitVec.toNat_shiftLeft, Nat.shiftLeft_eq, Nat.mod_eq_of_lt]
  rw [two_pow_split hk]
  exact Nat.mul_lt_mul_of_pos_right h (Nat.two_pow_pos k)

/-- During the search, `x` has been shifted until a bit of the upper `k` is set, and the counter
tells how far. -/
structure FlsInv (x : BitVec 32) (k : ℕ) (s : BitVec 32 × ℕ) : Prop where
  counter : s.2 ≤ 32
  shifted : s.1.toNat = x.toNat * 2 ^ (32 - s.2)
  high : 2 ^ (32 - k) ≤ s.1.toNat

theorem FlsInv.lt_counter {x : BitVec 32} {k j : ℕ} {s : BitVec 32 × ℕ} (h : FlsInv x k s)
    (hlt : s.1.toNat < 2 ^ (32 - j)) : j < s.2 := by
  have hpos : 0 < x.toNat := by
    rcases Nat.eq_zero_or_pos x.toNat with hzero | hpos
    · have hhigh := h.high
      rw [h.shifted, hzero, Nat.zero_mul] at hhigh
      exact absurd hhigh (Nat.not_le.mpr (Nat.two_pow_pos _))
    · exact hpos
  have hle : 2 ^ (32 - s.2) ≤ s.1.toNat := by
    rw [h.shifted]
    exact Nat.le_mul_of_pos_left _ hpos
  have hexp := (Nat.pow_lt_pow_iff_right (by decide)).mp (hle.trans_lt hlt)
  omega

theorem FlsInv.step {x : BitVec 32} {k : ℕ} {s : BitVec 32 × ℕ} (h : FlsInv x (2 * k) s)
    (hk : 2 * k ≤ 32) : FlsInv x k (flsStep (BitVec.allOnes 32 <<< (32 - k)) k s) := by
  unfold flsStep
  split_ifs with hzero
  · have hlt := (and_high_eq_zero_iff s.1 (32 - k)).mp hzero
    have hcounter := h.lt_counter hlt
    have hshift := toNat_shiftLeft_of_lt (by omega) hlt
    have hexp : 32 - (s.2 - k) = 32 - s.2 + k := by
      have := h.counter
      omega
    refine ⟨(Nat.sub_le _ _).trans h.counter, ?_, ?_⟩
    · rw [hshift, h.shifted, hexp, Nat.pow_add, Nat.mul_assoc]
    · calc 2 ^ (32 - k) = 2 ^ (32 - 2 * k) * 2 ^ k := by
            rw [← Nat.pow_add]
            congr 1
            omega
        _ ≤ s.1.toNat * 2 ^ k := Nat.mul_le_mul_right _ h.high
        _ = (s.1 <<< k).toNat := hshift.symm
  · have hge := Nat.not_lt.mp fun hlt => hzero ((and_high_eq_zero_iff s.1 (32 - k)).mpr hlt)
    exact ⟨h.counter, h.shifted, hge⟩

theorem FlsInv.found {x : BitVec 32} {k j : ℕ} {s : BitVec 32 × ℕ} (h : FlsInv x k s)
    (hlt : s.1.toNat < 2 ^ (32 - j)) (hge : 2 ^ (32 - (j + 1)) ≤ s.1.toNat) (hj : j < 32) :
    2 ^ (s.2 - j - 1) ≤ x.toNat ∧ x.toNat < 2 ^ (s.2 - j) := by
  have hcounter := h.lt_counter hlt
  have hle := h.counter
  have hpos := Nat.two_pow_pos (32 - s.2)
  rw [h.shifted] at hlt hge
  constructor
  · refine Nat.le_of_mul_le_mul_right ?_ hpos
    rw [← Nat.pow_add]
    convert hge using 2
    omega
  · refine Nat.lt_of_mul_lt_mul_right (a := 2 ^ (32 - s.2)) ?_
    rw [← Nat.pow_add]
    convert hlt using 2
    omega

theorem fls_spec {x : BitVec 32} (hx : x ≠ 0) :
    1 ≤ fls x ∧ 2 ^ (fls x - 1) ≤ x.toNat ∧ x.toNat < 2 ^ fls x := by
  have hpos : 0 < x.toNat := Nat.pos_of_ne_zero fun h => hx (BitVec.eq_of_toNat_eq h)
  have h32 : FlsInv x (2 * 16) (x, 32) := ⟨le_rfl, by simp, hpos⟩
  have h16 : FlsInv x (2 * 8) (flsStep 0xffff0000 16 (x, 32)) := h32.step (by decide)
  have h8 : FlsInv x (2 * 4) (flsStep 0xff000000 8 _) := h16.step (by decide)
  have h4 : FlsInv x (2 * 2) (flsStep 0xf0000000 4 _) := h8.step (by decide)
  have h2 : FlsInv x 2 (flsStep 0xc0000000 2 _) := h4.step (by decide)
  rw [fls, if_neg hx]
  dsimp only
  generalize flsStep 0xc0000000 2 _ = s at h2
  have htop : s.1 &&& 0x80000000 = 0 ↔ s.1.toNat < 2 ^ 31 := and_high_eq_zero_iff s.1 31
  split_ifs with hzero
  · have hlt := htop.mp hzero
    have hcounter := h2.lt_counter (j := 1) hlt
    obtain ⟨hle, hlt⟩ := h2.found (j := 1) hlt h2.high (by decide)
    exact ⟨by omega, hle, hlt⟩
  · have hge := Nat.not_lt.mp (mt htop.mpr hzero)
    have hcounter := h2.lt_counter (j := 0) s.1.isLt
    obtain ⟨hle, hlt⟩ := h2.found (j := 0) s.1.isLt hge (by decide)
    exact ⟨hcounter, hle, hlt⟩

/-- Some ones, and zeros for the rest. -/
def netmask (n : ℕ) : BitVec 32 := ~~~(BitVec.allOnes 32 >>> n)

theorem netmask_getMsbD {w i : ℕ} (n : ℕ) (hi : i < w) :
    (~~~(BitVec.allOnes w >>> n)).getMsbD i = decide (i < n) := by
  have hrest : i - n < w := by omega
  simp [hi, BitVec.getMsbD_ushiftRight, hrest]

theorem toNat_allOnes_ushiftRight {w n : ℕ} (hn : n ≤ w) :
    (BitVec.allOnes w >>> n).toNat = 2 ^ (w - n) - 1 := by
  rw [BitVec.toNat_ushiftRight, BitVec.toNat_allOnes, Nat.shiftRight_eq_div_pow]
  have hpos := Nat.two_pow_pos (w - n)
  have hn' := Nat.two_pow_pos n
  rw [Nat.div_eq_iff hn', two_pow_split hn, Nat.sub_mul]
  omega

theorem fls_netmask {n : ℕ} (hn : n ≤ 32) : 32 - fls (~~~netmask n) = n := by
  rw [netmask, BitVec.not_not]
  have hvalue := toNat_allOnes_ushiftRight hn
  rcases eq_or_ne (BitVec.allOnes 32 >>> n) 0 with hzero | hne
  · rw [hzero] at hvalue ⊢
    have hpow : 2 ^ (32 - n) ≤ 2 ^ 0 := by
      have : (0 : BitVec 32).toNat = 0 := rfl
      omega
    have hexp := (Nat.pow_le_pow_iff_right (by decide)).mp hpow
    change 32 - 0 = n
    omega
  · obtain ⟨hpos, hle, hlt⟩ := fls_spec hne
    rw [hvalue] at hle hlt
    have hbelow : 2 ^ (fls (BitVec.allOnes 32 >>> n) - 1) < 2 ^ (32 - n) := by
      have := Nat.two_pow_pos (32 - n)
      omega
    have habove : 2 ^ (32 - n) ≤ 2 ^ fls (BitVec.allOnes 32 >>> n) := by omega
    have hbelow := (Nat.pow_lt_pow_iff_right (by decide)).mp hbelow
    have habove := (Nat.pow_le_pow_iff_right (by decide)).mp habove
    omega

/-- A number as it is written in C, and its value. -/
inductive Constant : List Char → ℕ → Prop
  | decimal {c : Char} {s : List Char} (hc : c ≠ '0')
      (h : ∀ d ∈ c :: s, isDigitOf 10 d = true) : Constant (c :: s) (digitsValue 10 (c :: s))
  | octal {s : List Char} (h : ∀ d ∈ s, isDigitOf 8 d = true) :
      Constant ('0' :: s) (digitsValue 8 s)
  | hex {x d : Char} {s : List Char} (hx : x = 'x' ∨ x = 'X')
      (h : ∀ e ∈ d :: s, isDigitOf 16 e = true) :
      Constant ('0' :: x :: d :: s) (digitsValue 16 (d :: s))

/-- A numeral, perhaps with a sign, and its value. -/
def Numeral (s : List Char) (z : ℤ) : Prop :=
  ∃ n, Constant (readSign s).2 n ∧ z = if (readSign s).1 then -(n : ℤ) else n

theorem readDigits_iff {base n : ℕ} {s : List Char} :
    readDigits base s = (n, []) ↔ (∀ c ∈ s, isDigitOf base c = true) ∧ n = digitsValue base s := by
  rw [readDigits, Prod.mk.injEq, List.dropWhile_eq_nil_iff]
  constructor
  · rintro ⟨hvalue, hdigits⟩
    rw [List.takeWhile_eq_self_iff.mpr hdigits] at hvalue
    exact ⟨hdigits, hvalue.symm⟩
  · rintro ⟨hdigits, rfl⟩
    rw [List.takeWhile_eq_self_iff.mpr hdigits]
    exact ⟨rfl, hdigits⟩

theorem not_isDigitOf_x {base : ℕ} {x : Char} (hx : x = 'x' ∨ x = 'X') :
    isDigitOf base x = false := by
  rcases hx with rfl | rfl <;> rfl

/-- The digits are read to the end just if they are all there is. -/
theorem readConstant_iff {s : List Char} {n : ℕ} :
    readConstant s = some (n, []) ↔ Constant s n := by
  constructor
  · intro h
    unfold readConstant at h
    split at h
    · next x d s =>
      split_ifs at h with hx
      · obtain ⟨hdigits, rfl⟩ := readDigits_iff.mp (Option.some.inj h)
        simp only [Bool.and_eq_true, Bool.or_eq_true, beq_iff_eq] at hx
        exact .hex hx.1 hdigits
      · obtain ⟨hdigits, rfl⟩ := readDigits_iff.mp (Option.some.inj h)
        exact .octal hdigits
    · obtain ⟨hdigits, rfl⟩ := readDigits_iff.mp (Option.some.inj h)
      exact .octal hdigits
    · next c s _ hzero =>
      split_ifs at h
      obtain ⟨hdigits, rfl⟩ := readDigits_iff.mp (Option.some.inj h)
      exact .decimal hzero hdigits
    · cases h
  · intro h
    cases h with
    | @decimal c s hc h =>
      have hfirst : isDigitOf 10 c = true := h c List.mem_cons_self
      simp [readConstant, hc, hfirst, readDigits_iff.mpr ⟨h, rfl⟩]
    | @octal s h =>
      unfold readConstant
      split
      · next x d s heq =>
        obtain rfl := (List.cons.inj heq).2
        have hx : ¬((x == 'x' || x == 'X') && isDigitOf 16 d) = true := by
          intro hx
          simp only [Bool.and_eq_true, Bool.or_eq_true, beq_iff_eq] at hx
          have hdigit := h x List.mem_cons_self
          rw [not_isDigitOf_x hx.1] at hdigit
          cases hdigit
        rw [if_neg hx, readDigits_iff.mpr ⟨h, rfl⟩]
      · next heq =>
        obtain rfl := (List.cons.inj heq).2
        rw [readDigits_iff.mpr ⟨h, rfl⟩]
      · next _ hzero heq => exact (hzero (List.cons.inj heq).1.symm).elim
      · next heq => cases heq
    | @hex x d s hx h =>
      have hfirst : isDigitOf 16 d = true := h d List.mem_cons_self
      rcases hx with rfl | rfl <;> simp [readConstant, hfirst, readDigits_iff.mpr ⟨h, rfl⟩]

/-- `strtoul` gives the lower bits of a number, or the largest value for a number that is too
large. -/
def ulongOf (z : ℤ) : ℕ := if 2 ^ 64 ≤ z.natAbs then 2 ^ 64 - 1 else (z % 2 ^ 64).toNat

theorem unsignedLong_eq (negative : Bool) (n : ℕ) :
    unsignedLong negative n = ulongOf (if negative then -(n : ℤ) else n) := by
  cases negative with
  | false =>
    simp only [unsignedLong, ulongOf, Bool.false_eq_true, if_false, Int.natAbs_natCast]
    split_ifs <;> omega
  | true =>
    simp only [unsignedLong, ulongOf, if_true, Int.natAbs_neg, Int.natAbs_natCast]
    split_ifs <;> omega

theorem Constant.unique {s : List Char} {m n : ℕ} (hm : Constant s m) (hn : Constant s n) :
    m = n := by
  have h := (readConstant_iff.mpr hm).symm.trans (readConstant_iff.mpr hn)
  simpa using h

theorem Numeral.unique {s : List Char} {y z : ℤ} (hy : Numeral s y) (hz : Numeral s z) :
    y = z := by
  obtain ⟨m, hm, rfl⟩ := hy
  obtain ⟨n, hn, rfl⟩ := hz
  rw [hm.unique hn]

theorem Constant.head {s : List Char} {n : ℕ} (h : Constant s n) :
    ∃ c t, s = c :: t ∧ isDigitOf 10 c = true := by
  cases h with
  | decimal _ h => exact ⟨_, _, rfl, h _ List.mem_cons_self⟩
  | octal _ => exact ⟨_, _, rfl, rfl⟩
  | hex _ _ => exact ⟨_, _, rfl, rfl⟩

theorem isspace_of_isDigitOf {c : Char} (h : isDigitOf 10 c = true) : isspace c = false := by
  refine isspace_of_isDigit ?_
  unfold isDigitOf hexDigit at h
  split_ifs at h with hdigit hlower hupper
  · simp only [Char.isDigit, Bool.and_eq_true, decide_eq_true_eq]
    exact hdigit
  · simp only [Option.any_some, decide_eq_true_eq] at h
    omega
  · simp only [Option.any_some, decide_eq_true_eq] at h
    omega
  · cases h

theorem Numeral.skip {s : List Char} {z : ℤ} (h : Numeral s z) : s.dropWhile isspace = s := by
  obtain ⟨n, hn, -⟩ := h
  obtain ⟨c, t, hs, hdigit⟩ := hn.head
  unfold readSign at hs
  split at hs
  · exact List.dropWhile_cons_of_neg (by decide)
  · exact List.dropWhile_cons_of_neg (by decide)
  · dsimp only at hs
    rw [hs]
    exact List.dropWhile_cons_of_neg (by simp [isspace_of_isDigitOf hdigit])

theorem Constant.not_mem {s : List Char} {n : ℕ} {c : Char} (h : Constant s n)
    (hc : hexDigit c = none) (hx : c ≠ 'x' ∧ c ≠ 'X') : c ∉ s := by
  intro hmem
  have hdigit (base : ℕ) : isDigitOf base c ≠ true := by simp [isDigitOf, hc]
  have hzero : c ≠ '0' := by
    rintro rfl
    cases hc
  cases h with
  | decimal _ h => exact hdigit _ (h _ hmem)
  | octal h =>
    have hrest := (List.mem_cons.mp hmem).resolve_left hzero
    exact hdigit _ (h _ hrest)
  | hex hmark h =>
    have hrest := (List.mem_cons.mp hmem).resolve_left hzero
    rcases List.mem_cons.mp hrest with rfl | hrest
    · exact hmark.elim hx.1 hx.2
    · exact hdigit _ (h _ hrest)

theorem Numeral.not_mem {s : List Char} {z : ℤ} {c : Char} (h : Numeral s z)
    (hc : hexDigit c = none) (hx : c ≠ 'x' ∧ c ≠ 'X') (hsign : c ≠ '-' ∧ c ≠ '+') : c ∉ s := by
  obtain ⟨n, hn, -⟩ := h
  have hbody := hn.not_mem hc hx
  unfold readSign at hbody
  split at hbody
  · exact fun hmem => hbody ((List.mem_cons.mp hmem).resolve_left hsign.1)
  · exact fun hmem => hbody ((List.mem_cons.mp hmem).resolve_left hsign.2)
  · exact hbody

theorem Constant.no_dot {s : List Char} {n : ℕ} (h : Constant s n) : '.' ∉ s :=
  h.not_mem rfl (by decide)

theorem Numeral.no_dot {s : List Char} {z : ℤ} (h : Numeral s z) : '.' ∉ s :=
  h.not_mem rfl (by decide) (by decide)

theorem strtoulAuto_numeral {s : List Char} {z : ℤ} (h : Numeral (s.dropWhile isspace) z) :
    strtoulAuto s = (ulongOf z, []) := by
  obtain ⟨n, hn, rfl⟩ := h
  rw [strtoulAuto]
  dsimp only
  rw [readConstant_iff.mpr hn, ← unsignedLong_eq]

theorem numeral_of_strtoulAuto {s : List Char} (hs : s ≠ []) (h : (strtoulAuto s).2 = []) :
    ∃ z, Numeral (s.dropWhile isspace) z := by
  rw [strtoulAuto] at h
  dsimp only at h
  split at h
  · exact absurd h hs
  · next n rest hconstant =>
    obtain rfl : rest = [] := h
    exact ⟨_, n, readConstant_iff.mp hconstant, rfl⟩

/-- Four numbers for the bytes of an address. -/
def DottedQuad (s : List Char) (addr : BitVec 32) : Prop :=
  ∃ sa sb sc sd a b c d, s = ['.'].intercalate [sa, sb, sc, sd] ∧
    (Constant sa a ∧ a < 2 ^ 8) ∧ (Constant sb b ∧ b < 2 ^ 8) ∧ (Constant sc c ∧ c < 2 ^ 8) ∧
    (Constant sd d ∧ d < 2 ^ 8) ∧
    addr = BitVec.ofNat 32 (2 ^ 24 * a + 2 ^ 16 * b + 2 ^ 8 * c + d)

/-- The text says that the netmask is `n`: it is the numeral, or the address in dotted form that
has as many ones in front and nothing but zeros after them. -/
def Denotes (v6 : Bool) (s : List Char) (n : ℕ) : Prop :=
  Numeral s n ∨ v6 = false ∧ ∃ addr, DottedQuad s addr ∧
    ∀ i < 32, addr.getMsbD i = decide (i < n)

/-- A netmask that the code takes is the one that the text says. -/
structure NetmaskSound (v6 : Bool) (s : List Char) : Prop where
  value : parseNetmaskString s v6 ≤ netmaskLimit v6 → Denotes v6 s (parseNetmaskString s v6)
  address : ∀ astr, '/' ∉ astr → ∀ netmask addr n,
    parseIpAndNetmask v6 (astr ++ '/' :: s) netmask = some (addr, n) → Denotes v6 s n

/-- A text without dots is a number below `2 ^ 32` with nothing in front, or its lower bits are
too large for a netmask; it is not empty. -/
def PlainOk (v6 : Bool) (s : List Char) : Prop :=
  s ≠ [] ∧ ∀ z, Numeral (s.dropWhile isspace) z →
    s.dropWhile isspace = s ∧ 0 ≤ z ∧ z < 2 ^ 32 ∨ netmaskLimit v6 < ulongOf z % 2 ^ 32

/-- An address for a netmask has four parts, and ones and zeros as a netmask has them. -/
def DottedOk (s : List Char) : Prop :=
  ∀ addr, inetAton s = some addr → DottedQuad s addr ∧ ∃ n ≤ 32, addr = netmask n

theorem DottedQuad.inetAton_eq {s : List Char} {addr : BitVec 32} (h : DottedQuad s addr) :
    inetAton s = some addr := by
  obtain ⟨sa, sb, sc, sd, a, b, c, d, rfl, ⟨ha, ha'⟩, ⟨hb, hb'⟩, ⟨hc, hc'⟩, ⟨hd, hd'⟩, rfl⟩ := h
  have hsplit : (['.'].intercalate [sa, sb, sc, sd]).splitOn '.' = [sa, sb, sc, sd] := by
    refine List.splitOn_intercalate '.' ?_ (List.cons_ne_nil _ _)
    simp [ha.no_dot, hb.no_dot, hc.no_dot, hd.no_dot]
  have hpart : ∀ {t : List Char} {n : ℕ}, Constant t n → addressPart t = some n := by
    intro t n hn
    rw [addressPart, readConstant_iff.mpr hn]
  have hbytes : (guard (a < 2 ^ 8 ∧ b < 2 ^ 8 ∧ c < 2 ^ 8 ∧ d < 2 ^ 8) : Option Unit) = some () :=
    (Option.guard_eq_some' _).mpr ⟨ha', hb', hc', hd'⟩
  have hparts : [sa, sb, sc, sd].mapM addressPart = some [a, b, c, d] := by
    simp [hpart ha, hpart hb, hpart hc, hpart hd]
  rw [inetAton, hsplit, hparts, Option.bind_eq_bind, Option.bind_some]
  dsimp only
  rw [hbytes]
  rfl

theorem DottedQuad.dot {s : List Char} {addr : BitVec 32} (h : DottedQuad s addr) : '.' ∈ s := by
  obtain ⟨sa, sb, sc, sd, -, -, -, -, rfl, -⟩ := h
  simp [List.intercalate]

theorem parseNetmaskString_plain {s : List Char} (v6 : Bool) (hdot : '.' ∉ s) :
    parseNetmaskString s v6 =
      if (strtoulAuto s).2 ≠ [] then 2 ^ 32 - 1 else (strtoulAuto s).1 % 2 ^ 32 := by
  simp [parseNetmaskString, hdot]

theorem netmaskLimit_lt (v6 : Bool) : netmaskLimit v6 < 2 ^ 32 - 1 := by
  cases v6 <;> decide

/-- The result for a text without dots is what the text says just if the text is no exception. -/
theorem plain_sound_iff {s : List Char} (v6 : Bool) (hdot : '.' ∉ s) :
    (parseNetmaskString s v6 ≤ netmaskLimit v6 → Denotes v6 s (parseNetmaskString s v6)) ↔
      PlainOk v6 s := by
  rw [parseNetmaskString_plain v6 hdot]
  have hquad : ∀ n, Denotes v6 s n → Numeral s n := by
    rintro n (hnumeral | ⟨-, addr, hquad, -⟩)
    · exact hnumeral
    · exact absurd hquad.dot hdot
  constructor
  · intro hsound
    constructor
    · rintro rfl
      obtain ⟨n, hn, -⟩ := hquad _ (hsound (Nat.zero_le _))
      obtain ⟨c, t, ht, -⟩ := hn.head
      cases ht
    · intro z hz
      rw [strtoulAuto_numeral hz, if_neg (by simp)] at hsound
      rcases Nat.lt_or_ge (netmaskLimit v6) (ulongOf z % 2 ^ 32) with hlimit | hlimit
      · exact Or.inr hlimit
      · have hnumeral := hquad _ (hsound hlimit)
        have hskip := hnumeral.skip
        rw [hskip] at hz
        have hvalue : z = (ulongOf z % 2 ^ 32 : ℕ) := hz.unique hnumeral
        have hbound := Nat.mod_lt (ulongOf z) (show 0 < 2 ^ 32 by decide)
        exact Or.inl ⟨hskip, by omega, by omega⟩
  · rintro ⟨hs, hok⟩ hlimit
    split_ifs at hlimit ⊢ with herr
    · exact absurd hlimit (Nat.not_le.mpr (netmaskLimit_lt v6))
    · obtain ⟨z, hz⟩ := numeral_of_strtoulAuto hs (not_not.mp herr)
      rw [strtoulAuto_numeral hz] at hlimit ⊢
      rcases hok z hz with ⟨hskip, hpos, hlt⟩ | habove
      · rw [hskip] at hz
        have hvalue : ((ulongOf z % 2 ^ 32 : ℕ) : ℤ) = z := by
          have hsmall : ¬2 ^ 64 ≤ z.natAbs := by omega
          rw [ulongOf, if_neg hsmall]
          omega
        exact Or.inl (by rwa [hvalue])
      · exact absurd hlimit (Nat.not_le.mpr habove)

theorem parseNetmaskString_dotted {s : List Char} (hdot : '.' ∈ s) :
    parseNetmaskString s false =
      ((inetAton s).map fun addr => 32 - fls (~~~addr)).getD (2 ^ 32 - 1) := by
  unfold parseNetmaskString
  cases h : inetAton s with
  | none => simp [hdot]
  | some addr => simp [hdot]

theorem dotted_sound_iff {s : List Char} (hdot : '.' ∈ s) :
    (parseNetmaskString s false ≤ 32 → Denotes false s (parseNetmaskString s false)) ↔
      DottedOk s := by
  rw [parseNetmaskString_dotted hdot]
  constructor
  · intro hsound addr haddr
    rw [haddr, Option.map_some, Option.getD_some] at hsound
    obtain hnumeral | ⟨-, addr', hquad, hbits⟩ := hsound (Nat.sub_le _ _)
    · exact absurd hdot hnumeral.no_dot
    · obtain rfl : addr' = addr := Option.some.inj (hquad.inetAton_eq.symm.trans haddr)
      refine ⟨hquad, 32 - fls (~~~addr'), Nat.sub_le _ _, ?_⟩
      refine BitVec.eq_of_getMsbD_eq fun i hi => ?_
      exact (hbits i hi).trans (netmask_getMsbD _ hi).symm
  · intro hok hlimit
    cases haddr : inetAton s with
    | none =>
      rw [haddr] at hlimit
      exact absurd hlimit (by decide)
    | some addr =>
      obtain ⟨hquad, n, hn, rfl⟩ := hok addr haddr
      refine Or.inr ⟨rfl, _, hquad, fun i hi => ?_⟩
      rw [Option.map_some, Option.getD_some, fls_netmask hn]
      exact netmask_getMsbD n hi

theorem splitSlash_append {astr : List Char} (s : List Char) (hslash : '/' ∉ astr) :
    splitSlash (astr ++ '/' :: s) = some (astr, s) := by
  have hfront : ∀ c ∈ astr, (c != '/') = true := by
    intro c hc
    rw [bne_iff_ne]
    rintro rfl
    exact hslash hc
  simp [splitSlash, List.dropWhile_append_of_pos hfront, List.takeWhile_append_of_pos hfront]

theorem parseIpAndNetmask_slash {astr s : List Char} (v6 : Bool) (hslash : '/' ∉ astr)
    (netmask : ℕ) : parseIpAndNetmask v6 (astr ++ '/' :: s) netmask =
      if netmaskLimit v6 < parseNetmaskString s v6 then none
      else (inetPton v6 astr).map (·, parseNetmaskString s v6) := by
  rw [parseIpAndNetmask, splitNetmask, splitSlash_append s hslash]

/-- The texts for which the code does what it should. -/
def NetmaskOk (v6 : Bool) (s : List Char) : Prop :=
  if '.' ∈ s then v6 = false → DottedOk s else PlainOk v6 s

/-- The code takes a text for a netmask only if that is what the text says, unless the text is
one of the exceptions. -/
theorem netmask_sound_iff (v6 : Bool) (s : List Char) : NetmaskSound v6 s ↔ NetmaskOk v6 s := by
  have hvalue : (parseNetmaskString s v6 ≤ netmaskLimit v6 →
      Denotes v6 s (parseNetmaskString s v6)) ↔ NetmaskOk v6 s := by
    unfold NetmaskOk
    split_ifs with hdot
    · cases v6 with
      | true =>
        have herror : parseNetmaskString s true = 2 ^ 32 - 1 := by simp [parseNetmaskString, hdot]
        rw [herror]
        exact iff_of_true (fun h => absurd h (by decide)) nofun
      | false => exact (dotted_sound_iff hdot).trans ⟨fun h _ => h, fun h => h rfl⟩
    · exact plain_sound_iff v6 hdot
  constructor
  · intro h
    exact hvalue.mp h.value
  · intro h
    refine ⟨hvalue.mpr h, ?_⟩
    intro astr hslash netmask addr n haccepted
    rw [parseIpAndNetmask_slash v6 hslash] at haccepted
    split_ifs at haccepted with hlimit
    obtain ⟨_, -, hpair⟩ := Option.map_eq_some_iff.mp haccepted
    obtain rfl := (Prod.mk.inj hpair).2
    exact hvalue.mpr h (Nat.not_lt.mp hlimit)

/-- A slash with nothing after it makes an address with the netmask zero. -/
theorem empty_netmask_accepted : ¬∀ (v6 : Bool) (s : List Char), NetmaskSound v6 s := by
  intro hsound
  obtain ⟨n, hn, -⟩ | ⟨-, addr, hquad, -⟩ := (hsound false []).value (by decide)
  · obtain ⟨c, t, ht, -⟩ := hn.head
    cases ht
  · exact absurd hquad.dot List.not_mem_nil

end Netifd
