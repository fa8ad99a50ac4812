import Netifd.MemberSettings
import Netifd.PacketSteering
import Netifd.VlanNames

/-!
# The settings that a device had before

`system_if_up` notes what the kernel has for a device before it applies the configured settings,
and `system_if_down` writes the noted ones back. All reads and writes succeed.
-/

namespace Netifd.SavedSettings
open MemberSettings MemberSettings.DeviceSettings PacketSteering VlanNames

/-- The files below `/proc/sys/net` that are read and written for a device. -/
inductive Sysctl
  | disableIpv6
  | rpfilter
  | acceptlocal
  | igmpversion
  | mldversion
  | neigh4reachabletime
  | neigh6reachabletime
  | neigh4locktime
  | neigh4gcstaletime
  | neigh6gcstaletime
  | dadtransmits
  | sendredirects
  deriving DecidableEq

/-- The option that a file belongs to. -/
def Sysctl.opt : Sysctl → BitVec 32
  | disableIpv6 => devOptIpv6
  | rpfilter => devOpt 5
  | acceptlocal => devOpt 6
  | igmpversion => devOpt 7
  | mldversion => devOpt 8
  | neigh4reachabletime | neigh6reachabletime => devOpt 9
  | dadtransmits => devOpt 13
  | neigh4gcstaletime | neigh6gcstaletime => devOpt 19
  | sendredirects => devOpt 21
  | neigh4locktime => devOpt 22

def devOptMtu6 : BitVec 32 := devOpt 12

/-- The files that are written with `"0"` or `"1"`. -/
def Sysctl.isSwitch : Sysctl → Bool
  | disableIpv6 | acceptlocal | sendredirects => true
  | _ => false

/-- What the kernel has for a device. -/
structure Kernel where
  up : Bool := false
  mtu : BitVec 32 := 1500
  mtu6 : BitVec 32 := 1500
  txqueuelen : BitVec 32 := 1000
  macaddr : BitVec 48 := 0
  promisc : Bool := false
  multicast : Bool := false
  sysctl : Sysctl → BitVec 32 := fun _ => 0
  queues : QueueMasks := ⟨[], []⟩

/-- The mask in a file. The kernel puts commas between words. -/
def maskValue (s : List Char) : ℕ := digitsValue 16 (s.filter (· ≠ ','))

/-- Everything that `netifd` writes is the same. -/
structure Kernel.Same (k k' : Kernel) : Prop where
  mtu : k'.mtu = k.mtu
  mtu6 : k'.mtu6 = k.mtu6
  txqueuelen : k'.txqueuelen = k.txqueuelen
  macaddr : k'.macaddr = k.macaddr
  promisc : k'.promisc = k.promisc
  multicast : k'.multicast = k.multicast
  sysctl : ∀ c, k'.sysctl c = k.sysctl c
  rps : k'.queues.rps.map maskValue = k.queues.rps.map maskValue
  xps : k'.queues.xps.map maskValue = k.queues.xps.map maskValue

/-- `sizeof(buf)` of `system_if_get_settings`. -/
def getBufSize : ℕ := 10

/-- `system_get_sysctl`, and `strtoul` of what is in the buffer. -/
def systemGetSysctl (v : BitVec 32) : ℕ :=
  (strtoulAuto ((formatInt v.toInt ++ ['\n']).take (getBufSize - 1))).1

/-- The options that a bring-up notes whatever the values are. -/
def readOpts : BitVec 32 :=
  devOptMtu ||| devOptTxqueuelen ||| devOptMacaddr ||| devOptIpv6 ||| devOptPromisc |||
    devOptMulticast ||| devOpt 5 ||| devOpt 6 ||| devOpt 7 ||| devOpt 8 ||| devOpt 9 |||
    devOpt 22 ||| devOpt 19 ||| devOpt 13 ||| devOpt 21

def systemIfGetSettings (k : Kernel) (s : DeviceSettings) : DeviceSettings :=
  let number c := BitVec.ofNat 32 (systemGetSysctl (k.sysctl c))
  let bool c := systemGetSysctl (k.sysctl c) != 0
  { s with
    mtu := k.mtu
    mtu6 := k.mtu6
    txqueuelen := k.txqueuelen
    macaddr := k.macaddr
    ipv6 := !bool .disableIpv6
    promisc := k.promisc
    multicast := k.multicast
    rpfilter := number .rpfilter
    acceptlocal := bool .acceptlocal
    igmpversion := number .igmpversion
    mldversion := number .mldversion
    neigh4reachabletime := number .neigh4reachabletime
    neigh6reachabletime := number .neigh6reachabletime
    neigh4locktime := number .neigh4locktime
    neigh4gcstaletime := number .neigh4gcstaletime
    neigh6gcstaletime := number .neigh6gcstaletime
    dadtransmits := number .dadtransmits
    sendredirects := bool .sendredirects
    flags := s.flags ||| readOpts ||| if k.mtu6 ≠ 0 then devOptMtu6 else 0 }

/-- What is written to a file for the settings. -/
def Sysctl.written (s : DeviceSettings) : Sysctl → BitVec 32
  | disableIpv6 => if s.ipv6 then 0 else 1
  | rpfilter => s.rpfilter
  | acceptlocal => if s.acceptlocal then 1 else 0
  | igmpversion => s.igmpversion
  | mldversion => s.mldversion
  | neigh4reachabletime => s.neigh4reachabletime
  | neigh6reachabletime => s.neigh6reachabletime
  | neigh4locktime => s.neigh4locktime
  | neigh4gcstaletime => s.neigh4gcstaletime
  | neigh6gcstaletime => s.neigh6gcstaletime
  | dadtransmits => s.dadtransmits
  | sendredirects => if s.sendredirects then 1 else 0

section Functions
variable (undefined : ℕ → BitVec 32) (nCpus : ℤ)

/-- `system_if_apply_settings`. A write of 0 by `system_update_ipv6_mtu` is a read. -/
def systemIfApplySettings (external : Bool) (s : DeviceSettings) (applyMask : BitVec 32)
    (k : Kernel) : Kernel :=
  let on opt := s.flags &&& opt &&& applyMask != 0
  { k with
    mtu := if on devOptMtu then s.mtu else k.mtu
    mtu6 := if on devOptMtu6 && s.mtu6 != 0 then s.mtu6 else k.mtu6
    txqueuelen := if on devOptTxqueuelen then s.txqueuelen else k.txqueuelen
    macaddr := if on devOptMacaddr && !external then s.macaddr else k.macaddr
    promisc := if on devOptPromisc then s.promisc else k.promisc
    multicast := if on devOptMulticast then s.multicast else k.multicast
    sysctl := fun c => if on c.opt then c.written s else k.sysctl c
    queues := systemIfApplyRpsXps undefined nCpus s.rps s.xps k.queues }

/-- A device, with the settings that it had before it was brought up. Nothing ever sets `rps` or
`xps` in these. -/
structure SavedDevice where
  external : Bool := false
  settings : DeviceSettings := {}
  orig : DeviceSettings := {}
  kernel : Kernel := {}
  noRps : orig.rps = false := by rfl
  noXps : orig.xps = false := by rfl

/-- What is kept of the settings of the kernel, which is what is set by the configured ones. -/
def noted (d : SavedDevice) (s : DeviceSettings) : DeviceSettings :=
  let orig := systemIfGetSettings d.kernel d.orig
  { orig with validFlags := orig.flags, flags := orig.flags &&& s.flags }

def systemIfUp (d : SavedDevice) : SavedDevice :=
  let kernel := systemIfApplySettings undefined nCpus d.external d.settings d.settings.flags
    d.kernel
  { d with
    orig := noted d d.settings
    kernel := { kernel with up := true }
    noRps := d.noRps
    noXps := d.noXps }

def systemIfDown (d : SavedDevice) : SavedDevice :=
  { d with
    kernel := systemIfApplySettings undefined nCpus d.external d.orig d.orig.flags
      { d.kernel with up := false } }

/-- The device is brought up and down with some settings. -/
def cycle (d : SavedDevice) (s : DeviceSettings) : SavedDevice :=
  systemIfDown undefined nCpus (systemIfUp undefined nCpus { d with settings := s })

/-- The device is brought up and down with one settings after the other, and the kernel has after
each time what it had at first. -/
def Restored (d : SavedDevice) (cycles : List DeviceSettings) : Prop :=
  ∀ p, p <+: cycles → d.kernel.Same (p.foldl (cycle undefined nCpus) d).kernel

end Functions

/-- A file gets back what was in it. -/
def Sysctl.Returns (c : Sysctl) (v : BitVec 32) : Prop :=
  if c.isSwitch then v = 0 ∨ v = 1 else (formatInt v.toInt).length < getBufSize

/-- The masks of the queues are not touched or are empty, the MTU for IPv6 is not written over a
zero, and the files that are written have values that are read as they are and can be written
back. -/
structure Restorable (nCpus : ℤ) (k : Kernel) (s : DeviceSettings) : Prop where
  queues : nCpus < 2 ∨ ∀ m ∈ k.queues.rps ++ k.queues.xps, maskValue m = 0
  mtu6 : s.has devOptMtu6 = true → k.mtu6 = 0 → s.mtu6 = 0
  sysctl : ∀ c : Sysctl, s.has c.opt = true → c.Returns (k.sysctl c)

section Reads

variable {n : ℕ} {v : BitVec 32}

theorem digitChar_ne_zero {d : ℕ} (hd : d < 10) (hpos : d ≠ 0) : d.digitChar ≠ '0' := by
  revert d
  decide

theorem toDigits_cons (hn : n ≠ 0) : ∃ c s, Nat.toDigits 10 n = c :: s ∧ c ≠ '0' := by
  induction n using Nat.strong_induction_on with
  | _ n ih =>
    rw [Nat.toDigits_eq_if (by decide)]
    split_ifs with hsmall
    · exact ⟨_, [], rfl, digitChar_ne_zero hsmall hn⟩
    · obtain ⟨c, s, hs, hc⟩ := ih (n / 10) (by omega) (by omega)
      exact ⟨c, s ++ [(n % 10).digitChar], by rw [hs, List.cons_append], hc⟩

theorem readConstant_decimal {c : Char} {s rest : List Char} (hc : c ≠ '0')
    (h : ∀ d ∈ c :: s, isDigitOf 10 d = true) (hrest : ∀ d ∈ rest.head?, isDigitOf 10 d = false) :
    readConstant (c :: s ++ rest) = some (digitsValue 10 (c :: s), rest) := by
  have hfirst : isDigitOf 10 c = true := h c List.mem_cons_self
  have hdigits : readDigits 10 (c :: s ++ rest) = (digitsValue 10 (c :: s), rest) := by
    rw [readDigits, List.takeWhile_append_of_pos h, List.dropWhile_append_of_pos h]
    cases rest with
    | nil => rw [List.takeWhile_nil, List.dropWhile_nil, List.append_nil]
    | cons d rest =>
      have hd : isDigitOf 10 d = false := hrest d rfl
      rw [List.takeWhile_cons_of_neg (by simp [hd]), List.dropWhile_cons_of_neg (by simp [hd]),
        List.append_nil]
  rw [List.cons_append] at hdigits ⊢
  simp [readConstant, hc, hfirst, hdigits]

/-- The digits of a number, as many as fit, after the sign and in front of what else fits. -/
theorem strtoulAuto_toDigits (negative : Bool) {k : ℕ} {rest : List Char} (hn : n ≠ 0)
    (hk : k ≠ 0) (hrest : ∀ d ∈ rest.head?, isDigitOf 10 d = false) :
    strtoulAuto ((if negative then ['-'] else []) ++ ((Nat.toDigits 10 n).take k ++ rest)) =
      (unsignedLong negative (digitsValue 10 ((Nat.toDigits 10 n).take k)), rest) := by
  obtain ⟨c, s, hs, hc⟩ := toDigits_cons hn
  obtain ⟨k, rfl⟩ := Nat.exists_eq_succ_of_ne_zero hk
  have hdigits : ∀ d ∈ c :: s.take k, isDigitOf 10 d = true := by
    intro d hd
    refine (toDigits_numeral (by decide) (by decide) n).1 d (List.mem_of_mem_take (i := k + 1) ?_)
    rwa [hs, List.take_succ_cons]
  have hread := readConstant_decimal hc hdigits hrest
  have hskip : isspace c = false := isspace_of_isDigitOf (hdigits c List.mem_cons_self)
  rw [hs, List.take_succ_cons, strtoulAuto]
  cases negative with
  | true =>
    have hfront : (['-'] ++ (c :: s.take k ++ rest)).dropWhile isspace =
        '-' :: (c :: s.take k ++ rest) := List.dropWhile_cons_of_neg (by decide)
    have hsign : readSign ('-' :: (c :: s.take k ++ rest)) = (true, c :: s.take k ++ rest) := rfl
    rw [if_pos rfl, hfront, hsign]
    dsimp only
    rw [hread]
  | false =>
    have hsign : readSign (c :: s.take k ++ rest) = (false, c :: s.take k ++ rest) := by
      have hdigit := hdigits c List.mem_cons_self
      unfold readSign
      split
      · next heq =>
        rw [(List.cons.inj heq).1] at hdigit
        cases hdigit
      · next heq =>
        rw [(List.cons.inj heq).1] at hdigit
        cases hdigit
      · rfl
    have hfront : (c :: s.take k ++ rest).dropWhile isspace = c :: s.take k ++ rest :=
      List.dropWhile_cons_of_neg (by simp [hskip])
    rw [if_neg Bool.false_ne_true, List.nil_append, hfront, hsign]
    dsimp only
    rw [hread]

theorem take_newline_head (k : ℕ) : ∀ d ∈ (['\n'].take k).head?, isDigitOf 10 d = false := by
  intro d hd
  have hmem : d ∈ ['\n'] := List.mem_of_mem_take (List.mem_of_mem_head? hd)
  rw [List.mem_singleton.mp hmem]
  rfl

theorem systemGetSysctl_pos (hn : n ≠ 0) (hv : v.toInt = Int.ofNat n) :
    systemGetSysctl v = unsignedLong false (digitsValue 10 ((Nat.toDigits 10 n).take 9)) := by
  have hread := strtoulAuto_toDigits false (k := 9) hn (by decide)
    (take_newline_head (9 - (Nat.toDigits 10 n).length))
  rw [if_neg Bool.false_ne_true, List.nil_append, ← List.take_append] at hread
  rw [systemGetSysctl, hv]
  exact congrArg Prod.fst hread

theorem systemGetSysctl_neg (hv : v.toInt = Int.negSucc n) :
    systemGetSysctl v = unsignedLong true (digitsValue 10 ((Nat.toDigits 10 (n + 1)).take 8)) := by
  have hread := strtoulAuto_toDigits true (k := 8) n.succ_ne_zero (by decide)
    (take_newline_head (8 - (Nat.toDigits 10 (n + 1)).length))
  rw [if_pos rfl, ← List.take_append] at hread
  rw [systemGetSysctl, hv]
  exact congrArg Prod.fst hread

theorem digitsValue_take (n k : ℕ) : digitsValue 10 ((Nat.toDigits 10 n).take k) < 10 ^ k ∧
    (k ≠ 0 → (digitsValue 10 ((Nat.toDigits 10 n).take k) = n ↔
      (Nat.toDigits 10 n).length ≤ k)) := by
  obtain ⟨hdigits, hvalue⟩ := @toDigits_numeral 10 (by decide) (by decide) n
  have hlt : digitsValue 10 ((Nat.toDigits 10 n).take k) < 10 ^ k :=
    (digitsValue_lt fun c hc => hdigits c (List.mem_of_mem_take hc)).trans_le
      (Nat.pow_le_pow_right (by decide) (List.length_take_le _ _))
  refine ⟨hlt, fun hk => ⟨fun heq => ?_, fun hlength => ?_⟩⟩
  · rw [heq] at hlt
    exact (Nat.length_toDigits_le_iff (by decide) (Nat.pos_of_ne_zero hk)).mpr hlt
  · rw [List.take_of_length_le hlength, hvalue]

/-- A number is noted as it is just if its text fits into the buffer. -/
theorem ofNat_systemGetSysctl : BitVec.ofNat 32 (systemGetSysctl v) = v ↔
    (formatInt v.toInt).length < getBufSize := by
  have hnat : BitVec.ofNat 32 (systemGetSysctl v) = v ↔
      systemGetSysctl v % 2 ^ 32 = v.toNat := by
    rw [← BitVec.toNat_inj, BitVec.toNat_ofNat]
  have hint := BitVec.toInt_eq_toNat_cond v
  have hbound := v.isLt
  rw [hnat]
  cases hv : v.toInt with
  | ofNat n =>
    rw [hv] at hint
    rcases eq_or_ne n 0 with rfl | hn
    · obtain rfl : v = 0 := BitVec.eq_of_toInt_eq hv
      decide
    · obtain ⟨hlt, hiff⟩ := digitsValue_take n 9
      have hvalue : v.toNat = n := by
        simp only [Int.ofNat_eq_natCast] at hint
        split_ifs at hint <;> omega
      rw [systemGetSysctl_pos hn hv, hvalue, formatInt, getBufSize, Nat.lt_succ_iff,
        ← hiff (by decide), unsignedLong, if_neg (by omega), if_neg Bool.false_ne_true]
      omega
  | negSucc n =>
    rw [hv] at hint
    obtain ⟨hlt, hiff⟩ := digitsValue_take (n + 1) 8
    have hvalue : v.toNat + (n + 1) = 2 ^ 32 ∧ n < 2 ^ 31 := by
      simp only [Int.negSucc_eq] at hint
      split_ifs at hint <;> omega
    rw [systemGetSysctl_neg hv, formatInt, getBufSize, List.length_cons, Nat.succ_lt_succ_iff,
      Nat.lt_succ_iff, ← hiff (by decide), unsignedLong, if_neg (by omega), if_pos rfl]
    omega

end Reads

section Cycles

variable {undefined : ℕ → BitVec 32} {nCpus : ℤ} {d : SavedDevice} {s : DeviceSettings}

theorem mask_self (f opt : BitVec 32) : f &&& opt &&& f = f &&& opt := by
  rw [BitVec.and_assoc, BitVec.and_comm opt, ← BitVec.and_assoc, BitVec.and_self]

theorem mask_noted {f r g opt : BitVec 32} (h : opt &&& r = opt) :
    (f ||| r) &&& g &&& opt = g &&& opt := by
  rw [← h]
  ext i hi
  simp only [BitVec.getElem_and, BitVec.getElem_or]
  cases r[i] <;> cases g[i] <;> simp

theorem noted_has {opt : BitVec 32}
    (h : opt &&& (readOpts ||| if d.kernel.mtu6 ≠ 0 then devOptMtu6 else 0) = opt) :
    (noted d s).has opt = s.has opt := by
  change ((d.orig.flags ||| readOpts ||| if d.kernel.mtu6 ≠ 0 then devOptMtu6 else 0) &&&
    s.flags &&& opt != 0) = (s.flags &&& opt != 0)
  rw [BitVec.or_assoc, mask_noted h]

theorem noted_has_read {opt : BitVec 32} (h : opt &&& readOpts = opt) :
    (noted d s).has opt = s.has opt := by
  refine noted_has ?_
  rw [BitVec.and_or_distrib_left, h]
  ext i hi
  rw [BitVec.getElem_or, BitVec.getElem_and]
  cases opt[i] <;> rfl

theorem ite_back {α : Type} {on on' : Bool} {old new : α} (hon : on' = on) :
    (if on' then old else if on then new else old) = old := by
  subst hon
  cases on' <;> rfl

theorem noted_on {opt : BitVec 32} (h : opt &&& readOpts = opt) :
    ((noted d s).flags &&& opt &&& (noted d s).flags != 0) = (s.flags &&& opt &&& s.flags != 0) := by
  rw [mask_self, mask_self]
  exact noted_has_read h

theorem Sysctl.opt_read (c : Sysctl) : c.opt &&& readOpts = c.opt := by
  cases c <;> decide

theorem Sysctl.written_noted (c : Sysctl) :
    c.written (noted d s) = d.kernel.sysctl c ↔ c.Returns (d.kernel.sysctl c) := by
  have hswitch (v : BitVec 32) :
      (if systemGetSysctl v != 0 then (1 : BitVec 32) else 0) = v ↔ v = 0 ∨ v = 1 := by
    constructor
    · split_ifs
      · exact fun h => Or.inr h.symm
      · exact fun h => Or.inl h.symm
    · rintro (rfl | rfl) <;> decide
  cases c with
  | disableIpv6 =>
    refine Iff.trans (Eq.congr_left ?_) (hswitch (d.kernel.sysctl .disableIpv6))
    change (if (!systemGetSysctl (d.kernel.sysctl .disableIpv6) != 0) = true then _ else _) = _
    cases systemGetSysctl (d.kernel.sysctl .disableIpv6) != 0 <;> rfl
  | acceptlocal => exact hswitch _
  | sendredirects => exact hswitch _
  | _ => exact ofNat_systemGetSysctl

theorem cycle_sysctl (c : Sysctl) :
    (cycle undefined nCpus d s).kernel.sysctl c = d.kernel.sysctl c ↔
      (s.has c.opt = true → c.Returns (d.kernel.sysctl c)) := by
  have hon : (s.flags &&& c.opt &&& s.flags != 0) = s.has c.opt := by
    rw [mask_self]
    rfl
  change (if (noted d s).flags &&& c.opt &&& (noted d s).flags != 0 then c.written (noted d s)
    else if s.flags &&& c.opt &&& s.flags != 0 then c.written s else d.kernel.sysctl c) = _ ↔ _
  rw [noted_on c.opt_read, hon]
  cases s.has c.opt with
  | true => simpa using c.written_noted
  | false => simp

theorem cycle_mtu6 : (cycle undefined nCpus d s).kernel.mtu6 = d.kernel.mtu6 ↔
    (s.has devOptMtu6 = true → d.kernel.mtu6 = 0 → s.mtu6 = 0) := by
  have hon : (s.flags &&& devOptMtu6 &&& s.flags != 0) = s.has devOptMtu6 := by
    rw [mask_self]
    rfl
  have hback : ((noted d s).flags &&& devOptMtu6 &&& (noted d s).flags != 0) =
      (noted d s).has devOptMtu6 := by
    rw [mask_self]
    rfl
  change (if ((noted d s).flags &&& devOptMtu6 &&& (noted d s).flags != 0) && d.kernel.mtu6 != 0
    then d.kernel.mtu6
    else if (s.flags &&& devOptMtu6 &&& s.flags != 0) && s.mtu6 != 0 then s.mtu6
    else d.kernel.mtu6) = _ ↔ _
  rw [hon, hback]
  rcases eq_or_ne d.kernel.mtu6 0 with hzero | hne
  · cases s.has devOptMtu6 <;> simp [hzero]
  · have hnoted : (noted d s).has devOptMtu6 = s.has devOptMtu6 := noted_has (by
      rw [if_pos hne]
      decide)
    rw [hnoted, bne_iff_ne.mpr hne]
    refine iff_of_true ?_ fun _ hzero => absurd hzero hne
    cases s.has devOptMtu6 <;> rfl

theorem cycle_queues : (cycle undefined nCpus d s).kernel.queues =
    systemIfApplyRpsXps undefined nCpus false false d.kernel.queues := by
  change systemIfApplyRpsXps undefined nCpus d.orig.rps d.orig.xps
    (systemIfApplyRpsXps undefined nCpus s.rps s.xps d.kernel.queues) = _
  rw [d.noRps, d.noXps]
  unfold systemIfApplyRpsXps
  split_ifs <;> simp [systemIfSetRpsXpsVal]

theorem maskValue_cleared {files : List (List Char)} :
    (systemIfSetRpsXpsVal files 0).map maskValue = files.map maskValue ↔
      ∀ m ∈ files, maskValue m = 0 := by
  rw [systemIfSetRpsXpsVal, List.map_map, List.map_inj_left]
  exact forall₂_congr fun _ _ => eq_comm

theorem cycle_masks :
    (cycle undefined nCpus d s).kernel.queues.rps.map maskValue =
        d.kernel.queues.rps.map maskValue ∧
      (cycle undefined nCpus d s).kernel.queues.xps.map maskValue =
        d.kernel.queues.xps.map maskValue ↔
    nCpus < 2 ∨ ∀ m ∈ d.kernel.queues.rps ++ d.kernel.queues.xps, maskValue m = 0 := by
  rw [cycle_queues]
  by_cases hsingle : nCpus < 2
  · have happly : systemIfApplyRpsXps undefined nCpus false false d.kernel.queues =
        d.kernel.queues := if_pos hsingle
    rw [happly]
    exact iff_of_true ⟨rfl, rfl⟩ (Or.inl hsingle)
  · have happly : systemIfApplyRpsXps undefined nCpus false false d.kernel.queues =
        ⟨systemIfSetRpsXpsVal d.kernel.queues.rps 0, systemIfSetRpsXpsVal d.kernel.queues.xps 0⟩ :=
      if_neg hsingle
    rw [happly, or_iff_right hsingle, List.forall_mem_append]
    exact and_congr maskValue_cleared maskValue_cleared

theorem same_cycle : d.kernel.Same (cycle undefined nCpus d s).kernel ↔
    Restorable nCpus d.kernel s := by
  constructor
  · intro h
    exact ⟨cycle_masks.mp ⟨h.rps, h.xps⟩, cycle_mtu6.mp h.mtu6,
      fun c => (cycle_sysctl c).mp (h.sysctl c)⟩
  · intro h
    obtain ⟨hrps, hxps⟩ := cycle_masks.mpr h.queues
    exact {
      mtu := ite_back (noted_on (by decide))
      mtu6 := cycle_mtu6.mpr h.mtu6
      txqueuelen := ite_back (noted_on (by decide))
      macaddr := ite_back (congrArg (· && !d.external) (noted_on (by decide)))
      promisc := ite_back (noted_on (by decide))
      multicast := ite_back (noted_on (by decide))
      sysctl := fun c => (cycle_sysctl c).mpr (h.sysctl c)
      rps := hrps
      xps := hxps }

theorem Kernel.Same.refl (k : Kernel) : k.Same k :=
  ⟨rfl, rfl, rfl, rfl, rfl, rfl, fun _ => rfl, rfl, rfl⟩

theorem Kernel.Same.symm {k k' : Kernel} (h : k.Same k') : k'.Same k :=
  ⟨h.mtu.symm, h.mtu6.symm, h.txqueuelen.symm, h.macaddr.symm, h.promisc.symm, h.multicast.symm,
    fun c => (h.sysctl c).symm, h.rps.symm, h.xps.symm⟩

theorem Kernel.Same.trans {k k' k'' : Kernel} (h : k.Same k') (h' : k'.Same k'') : k.Same k'' :=
  ⟨h'.mtu.trans h.mtu, h'.mtu6.trans h.mtu6, h'.txqueuelen.trans h.txqueuelen,
    h'.macaddr.trans h.macaddr, h'.promisc.trans h.promisc, h'.multicast.trans h.multicast,
    fun c => (h'.sysctl c).trans (h.sysctl c), h'.rps.trans h.rps, h'.xps.trans h.xps⟩

theorem masks_zero {files files' : List (List Char)}
    (h : files'.map maskValue = files.map maskValue) (hzero : ∀ m ∈ files, maskValue m = 0) :
    ∀ m ∈ files', maskValue m = 0 := by
  intro m hm
  have hmem : maskValue m ∈ files.map maskValue := h ▸ List.mem_map_of_mem hm
  obtain ⟨m', hm', heq⟩ := List.mem_map.mp hmem
  rw [← heq]
  exact hzero m' hm'

theorem Restorable.congr {k k' : Kernel} (h : k.Same k') (hk : Restorable nCpus k s) :
    Restorable nCpus k' s where
  queues := by
    refine hk.queues.imp_right fun hzero => ?_
    rw [List.forall_mem_append] at hzero ⊢
    exact ⟨masks_zero h.rps hzero.1, masks_zero h.xps hzero.2⟩
  mtu6 hon hzero := hk.mtu6 hon (h.mtu6.symm.trans hzero)
  sysctl c hon := by
    rw [h.sysctl c]
    exact hk.sysctl c hon

theorem restored_iff (undefined : ℕ → BitVec 32) (nCpus : ℤ) (d : SavedDevice)
    (cycles : List DeviceSettings) :
    Restored undefined nCpus d cycles ↔ ∀ s ∈ cycles, Restorable nCpus d.kernel s := by
  induction cycles using List.reverseRecOn with
  | nil => simp [Restored, Kernel.Same.refl]
  | append_singleton cycles s ih =>
    have hsplit : Restored undefined nCpus d (cycles ++ [s]) ↔
        Restored undefined nCpus d cycles ∧
          d.kernel.Same ((cycles ++ [s]).foldl (cycle undefined nCpus) d).kernel := by
      simp only [Restored, List.prefix_concat_iff]
      constructor
      · exact fun h => ⟨fun p hp => h p (Or.inr hp), h _ (Or.inl rfl)⟩
      · rintro ⟨hbefore, hlast⟩ p (rfl | hp)
        · exact hlast
        · exact hbefore p hp
    rw [hsplit, List.forall_mem_append, List.forall_mem_singleton, ← ih]
    refine and_congr_right fun hbefore => ?_
    -- The kernel has before the last time what it had at first.
    have hsame : d.kernel.Same (cycles.foldl (cycle undefined nCpus) d).kernel :=
      hbefore cycles (List.prefix_refl _)
    rw [List.foldl_append, List.foldl_cons, List.foldl_nil]
    constructor
    · exact fun h => (same_cycle.mp (hsame.symm.trans h)).congr hsame.symm
    · exact fun h => hsame.trans (same_cycle.mpr (h.congr hsame))

/-- The queues of a device are served by all CPUs, and by none in the end. -/
theorem steering_lost : ¬∀ undefined nCpus d cycles, d.external = false →
    Restored undefined nCpus d cycles := by
  intro h
  have hrestored := h (fun _ => 0) 4 { kernel := { queues := ⟨["f".toList], []⟩ } } [{}] rfl
  have hlast := (hrestored [{}] (List.prefix_refl _)).rps
  exact absurd hlast (by decide)

end Cycles

end Netifd.SavedSettings
