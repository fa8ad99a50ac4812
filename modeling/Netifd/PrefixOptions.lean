import Mathlib.Algebra.Order.Ring.Int
import Mathlib.Data.Option.Basic
import Mathlib.Tactic.SplitIfs

/-!
# The text of a prefix

`parse_prefix_option` of `proto.c` and the reading half of `interface_ip_set_ula_prefix` of
`interface-ip.c`, with the functions of the C library that they call, on the characters of a
string. Only the lifetimes are not kept.
-/

namespace Netifd

/-- `struct in6_addr`, the first byte in front. -/
abbrev In6Addr := BitVec 128

/-- A prefix as the parser hands it to `interface_ip_add_device_prefix`. -/
structure PrefixOption where
  addr : In6Addr
  length : ℕ
  exclAddr : Option In6Addr := none
  exclLength : ℕ := 0
  pclass : Option (List Char) := none
  deriving DecidableEq

/-- `strtok_r` with one delimiter: the next token and what is left for the next call. -/
def strtokR (delim : Char) (s : List Char) : Option (List Char × List Char) :=
  match s.dropWhile (· == delim) with
  | [] => none
  | s => some (s.takeWhile (· != delim), (s.dropWhile (· != delim)).drop 1)

/-- The value of the decimal digits at the front. -/
def decimalValue (s : List Char) : ℕ :=
  (s.takeWhile Char.isDigit).foldl (fun n c => 10 * n + (c.toNat - '0'.toNat)) 0

def isspace (c : Char) : Bool := c == ' ' || (decide ('\t' ≤ c) && decide (c ≤ '\r'))

/-- What `strtol` and `strtoul` read: blanks, perhaps a sign, digits. -/
def signedDecimal (s : List Char) : Bool × ℕ :=
  match s.dropWhile isspace with
  | '-' :: s => (true, decimalValue s)
  | '+' :: s => (false, decimalValue s)
  | s => (false, decimalValue s)

/-- The result of `strtoul` for a number with a sign, with a `long` of 64 bits. -/
def unsignedLong (negative : Bool) (n : ℕ) : ℕ :=
  if 2 ^ 64 ≤ n then 2 ^ 64 - 1 else if negative then (2 ^ 64 - n) % 2 ^ 64 else n

/-- `strtoul(s, NULL, 10)`. -/
def strtoul (s : List Char) : ℕ :=
  let (negative, n) := signedDecimal s
  unsignedLong negative n

/-- `strtol(s, NULL, 10)`. -/
def strtol (s : List Char) : ℤ :=
  let (negative, n) := signedDecimal s
  if negative then max (-n) (-2 ^ 63) else min n (2 ^ 63 - 1)

/-- `atoi`, the value of `strtol` as an `int`. -/
def atoi (s : List Char) : ℤ := (strtol s).bmod (2 ^ 32)

/-- The value as an `uint8_t`. -/
def uint8 (n : ℤ) : ℕ := (n % 256).toNat

def hexDigit (c : Char) : Option ℕ :=
  if '0' ≤ c ∧ c ≤ '9' then some (c.toNat - '0'.toNat)
  else if 'a' ≤ c ∧ c ≤ 'f' then some (c.toNat - 'a'.toNat + 10)
  else if 'A' ≤ c ∧ c ≤ 'F' then some (c.toNat - 'A'.toNat + 10)
  else none

/-- A group of at most four hexadecimal digits. -/
def hexGroup (s : List Char) : Option ℕ :=
  if s.length = 0 ∨ 4 < s.length then none
  else s.foldl (fun n c => do pure (16 * (← n) + (← hexDigit c))) (some 0)

/-- A number of an address in dotted form. -/
def dottedByte (s : List Char) : Option ℕ :=
  if s.isEmpty ∨ !s.all Char.isDigit ∨ s.head? = some '0' ∧ s.length ≠ 1 then none
  else if decimalValue s ≤ 255 then some (decimalValue s) else none

/-- The two groups that an address in dotted form makes. -/
def dottedGroups (s : List Char) : Option (List ℕ) :=
  match s.splitOn '.' with
  | [a, b, c, d] => do
    let a ← dottedByte a
    let b ← dottedByte b
    let c ← dottedByte c
    let d ← dottedByte d
    pure [256 * a + b, 256 * c + d]
  | _ => none

/-- Groups that colons separate; the last may be in dotted form where the address ends. -/
def addressGroups (final : Bool) : List (List Char) → Option (List ℕ)
  | [] => some []
  | [s] =>
    if final ∧ s.contains '.' then dottedGroups s else (hexGroup s).map ([·])
  | s :: l => do pure ((← hexGroup s) :: (← addressGroups final l))

/-- The parts before and after the first `::`. -/
def splitColons : List Char → Option (List Char × List Char)
  | ':' :: ':' :: s => some ([], s)
  | c :: s => (splitColons s).map fun (l, r) => (c :: l, r)
  | [] => none

def groupsOf (final : Bool) (s : List Char) : Option (List ℕ) :=
  if s.isEmpty then some [] else addressGroups final (s.splitOn ':')

/-- `inet_pton(AF_INET6, ..)`. -/
def inetPton6 (s : List Char) : Option In6Addr := do
  let groups ← match splitColons s with
    | none => groupsOf true s
    | some (l, r) => do
      let left ← groupsOf false l
      let right ← groupsOf true r
      if left.length + right.length < 8 then
        pure (left ++ List.replicate (8 - left.length - right.length) 0 ++ right)
      else none
  if groups.length = 8 then
    pure (BitVec.ofNat 128 (groups.foldl (fun n g => 2 ^ 16 * n + g) 0))
  else none

/-- `strchr(val, '/')`: what is before and after it. -/
def splitSlash (val : List Char) : Option (List Char × List Char) :=
  match val.dropWhile (· != '/') with
  | [] => none
  | _ :: rest => some (val.takeWhile (· != '/'), rest)

/-- One round of the loop over the additional options: `none` rejects the prefix. -/
def parseAddition (p : PrefixOption) (addstr : List Char) : Option PrefixOption :=
  match strtokR '=' addstr with
  | none => some p
  | some (key, rest) =>
    match strtokR ',' rest with
    | none => some p
    | some (val, _) =>
      if key = "excluded".toList then do
        let (addrstr, lengthstr) ← splitSlash val
        let excluded ← inetPton6 addrstr
        pure { p with exclAddr := some excluded, exclLength := uint8 (atoi lengthstr) }
      else if key = "class".toList then some { p with pclass := some val }
      else some p

/-- The tokens that commas separate. -/
def commaTokens (s : List Char) : List (List Char) :=
  (s.splitOn ',').filter (!·.isEmpty)

/-- `parse_prefix_option`, up to the call that adds the prefix. -/
def parsePrefixOption (str : List Char) : Option PrefixOption := do
  -- the length of the attribute counts the final zero
  guard (str.length + 1 < 128)
  let (addrstr, rest) ← strtokR '/' str
  let (lengthstr, rest) ← strtokR ',' rest
  let length := uint8 (strtoul lengthstr)
  guard (1 ≤ length ∧ length ≤ 64)
  let addr ← inetPton6 addrstr
  -- two tokens are the lifetimes, the options come after them
  ((commaTokens rest).drop 2).foldlM parseAddition { addr, length }

/-- `interface_ip_set_ula_prefix`, up to the call that adds the prefix. -/
def ulaPrefixOption (str : List Char) : Option PrefixOption := do
  let (addrstr, rest) ← strtokR '/' (str.take 49)
  let addr ← inetPton6 addrstr
  let (lengthstr, _) ← strtokR ',' rest
  let length := atoi lengthstr
  guard (1 ≤ length ∧ length ≤ 64)
  pure { addr, length := length.toNat }

theorem isspace_of_isDigit {c : Char} (h : c.isDigit = true) : isspace c = false := by
  have hge : '0' ≤ c := by
    simp only [Char.isDigit, Bool.and_eq_true, decide_eq_true_eq] at h
    exact h.1
  have hspace : c ≠ ' ' := by
    rintro rfl
    exact absurd hge (by decide)
  have hlast : ¬c ≤ '\r' := fun hle => absurd (Char.le_trans hge hle) (by decide)
  simp [isspace, hspace, hlast]

theorem signedDecimal_digits {s : List Char} (h : ∀ c ∈ s, c.isDigit = true) :
    signedDecimal s = (false, decimalValue s) := by
  cases s with
  | nil => rfl
  | cons c s =>
    have hdigit : c.isDigit = true := h c List.mem_cons_self
    have hskip : (c :: s).dropWhile isspace = c :: s :=
      List.dropWhile_cons_of_neg (by simp [isspace_of_isDigit hdigit])
    rw [signedDecimal, hskip]
    split
    · next heq =>
      rw [(List.cons.inj heq).1] at hdigit
      cases hdigit
    · next heq =>
      rw [(List.cons.inj heq).1] at hdigit
      cases hdigit
    · rfl

theorem strtoul_digits {s : List Char} (h : ∀ c ∈ s, c.isDigit = true)
    (hbound : decimalValue s < 2 ^ 64) : strtoul s = decimalValue s := by
  rw [strtoul, signedDecimal_digits h]
  exact if_neg (Nat.not_le.mpr hbound)

/-- The prefix is what one of the two accepts. -/
def PrefixOption.Accepted (p : PrefixOption) : Prop :=
  ∃ str, parsePrefixOption str = some p ∨ ulaPrefixOption str = some p

theorem parseAddition_length {p q : PrefixOption} {addstr : List Char}
    (h : parseAddition p addstr = some q) : q.length = p.length := by
  unfold parseAddition at h
  split at h
  · obtain rfl := Option.some.inj h
    rfl
  · split at h
    · obtain rfl := Option.some.inj h
      rfl
    · split_ifs at h
      · obtain ⟨⟨addrstr, lengthstr⟩, _, hrest⟩ := Option.bind_eq_some_iff.mp h
        obtain ⟨excluded, _, hq⟩ := Option.bind_eq_some_iff.mp hrest
        obtain rfl := Option.some.inj hq
        rfl
      · obtain rfl := Option.some.inj h
        rfl
      · obtain rfl := Option.some.inj h
        rfl

theorem foldlM_parseAddition_length {l : List (List Char)} {p q : PrefixOption}
    (h : l.foldlM parseAddition p = some q) : q.length = p.length := by
  induction l generalizing p with
  | nil =>
    obtain rfl := Option.some.inj h
    rfl
  | cons addstr l ih =>
    obtain ⟨r, hr, hq⟩ := Option.bind_eq_some_iff.mp h
    exact (ih hq).trans (parseAddition_length hr)

theorem PrefixOption.Accepted.length_le {p : PrefixOption} (h : p.Accepted) : p.length ≤ 64 := by
  obtain ⟨str, h | h⟩ := h
  · obtain ⟨_, _, h⟩ := Option.bind_eq_some_iff.mp h
    obtain ⟨⟨addrstr, rest⟩, _, h⟩ := Option.bind_eq_some_iff.mp h
    obtain ⟨⟨lengthstr, rest'⟩, _, h⟩ := Option.bind_eq_some_iff.mp h
    obtain ⟨_, hguard, h⟩ := Option.bind_eq_some_iff.mp h
    obtain ⟨addr, _, h⟩ := Option.bind_eq_some_iff.mp h
    rw [foldlM_parseAddition_length h]
    exact ((Option.guard_eq_some' _).mp hguard).2
  · obtain ⟨⟨addrstr, rest⟩, _, h⟩ := Option.bind_eq_some_iff.mp h
    obtain ⟨addr, _, h⟩ := Option.bind_eq_some_iff.mp h
    obtain ⟨⟨lengthstr, rest'⟩, _, h⟩ := Option.bind_eq_some_iff.mp h
    obtain ⟨_, hguard, h⟩ := Option.bind_eq_some_iff.mp h
    obtain rfl := Option.some.inj h
    have hlength := ((Option.guard_eq_some' _).mp hguard).2
    dsimp only
    omega

end Netifd
