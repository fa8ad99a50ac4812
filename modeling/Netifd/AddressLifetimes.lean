import Netifd.InterfaceConfiguration
import Netifd.Netmask
import Netifd.PrefixLifetimes
import Netifd.SkippedUpdates

/-!
# Lifetimes of addresses

The lifetimes that `parse_address_item` and `parse_prefix_option` store, those that
`interface_set_prefix_address` gives to the addresses of a prefix, and what the kernel gets of
them. Zero stands for a lifetime without end.
-/

namespace Netifd

/-- `struct device_addr`, with the class that a protocol gives it. -/
structure AddressItem extends PeerAddr where
  pclass : Option String := none

/-- The flags that `alloc_device_addr` sets, and the one for an address off the link. -/
def addressFlags (v6 ext offlink : Bool) : ℕ :=
  (if v6 then 2 ^ DEVADDR_INET6 else 0) ||| (if ext then 2 ^ DEVADDR_EXTERNAL else 0) |||
    (if offlink then 2 ^ DEVADDR_OFFLINK else 0)

/-- The end of a lifetime in seconds, or zero. -/
def untilOf (now : ℤ) : Option ℕ → ℤ
  | none => 0
  | some lifetime =>
    if lifetime + now ≤ LONG_MAX ∧ lifetime ≠ 0xffffffff then lifetime + now else 0

/-- An address that may be missing. -/
def optionalAddress : Option String → Option ℕ
  | none => some 0
  | some str => inetPton false str.toList

/-- The netmask of a table, the longest one without an entry. -/
def addressMask (v6 : Bool) : Option String → Option ℕ
  | none => some (netmaskLimit v6)
  | some str =>
    let newMask := parseNetmaskString str.toList v6
    if netmaskLimit v6 < newMask then none else some newMask

/-- The preferred lifetime, made as long as the valid one if it has no end but that one does. -/
def checkPreferred (validUntil preferredUntil : ℤ) : Option ℤ :=
  if validUntil ≠ 0 then
    if preferredUntil = 0 then some validUntil
    else if preferredUntil > validUntil then none
    else some preferredUntil
  else some preferredUntil

/-- `parse_address_item` for a table. -/
def parseAddressItem (now : ℤ) (attr : Blob) (v6 ext : Bool) : Option AddressItem := do
  let mask ← addressMask v6 (attr.getString "mask")
  let ipaddr ← attr.getString "ipaddr"
  let addr ← inetPton v6 ipaddr.toList
  let flags := addressFlags v6 ext (attr.getBoolDefault "offlink" false)
  if !v6 then do
    let broadcast ← optionalAddress (attr.getString "broadcast")
    let pointToPoint ← optionalAddress (attr.getString "ptp")
    pure { flags, mask, addr, broadcast, pointToPoint }
  else do
    let validUntil := untilOf now (attr.getU32 "valid")
    let preferredUntil ← checkPreferred validUntil (untilOf now (attr.getU32 "preferred"))
    pure { flags, mask, addr, preferredUntil, validUntil, pclass := attr.getString "class" }

/-- The address that `interface_set_prefix_address` hands to the kernel for an assignment: when
it is taken away, it is deprecated at once and stays valid for two hours at most. -/
def setPrefixAddress (now : ℤ) (add enabled : Bool) (addr length : ℕ) (p : TimedPrefix) :
    PeerAddr :=
  let flags := 2 ^ DEVADDR_INET6 ||| 2 ^ DEVADDR_OFFLINK
  if !add && enabled then
    { flags
      mask := length
      addr
      preferredUntil := now
      validUntil :=
        if p.validUntil = 0 ∨ 7200 < p.validUntil - now then now + 7200 else p.validUntil }
  else
    { flags, mask := length, addr, preferredUntil := p.preferredUntil, validUntil := p.validUntil }

/-- What is valid for some time is preferred for some time, and not longer. -/
def LifetimesAgree (validUntil preferredUntil : ℤ) : Prop :=
  validUntil ≠ 0 → preferredUntil ≠ 0 ∧ preferredUntil ≤ validUntil

/-- The kernel takes an address only if it is not preferred for longer than it is valid. -/
def AddrMessage.Acceptable (m : AddrMessage) : Prop :=
  ∀ preferred valid, m.cacheinfo = some (preferred, valid) → preferred ≤ valid

/-- The lifetimes of an address make sense, also to the kernel. -/
structure AddressItem.Sound (a : AddressItem) : Prop where
  consistent : LifetimesAgree a.validUntil a.preferredUntil
  accepted : ∀ now, ∀ m ∈ systemAddr now a.toPeerAddr, m.Acceptable

/-- The lifetimes of a prefix make sense, and the kernel takes those of all its addresses, be they
added or taken away at some time since the system started. -/
structure TimedPrefix.Sound (p : TimedPrefix) : Prop where
  consistent : LifetimesAgree p.validUntil p.preferredUntil
  accepted : ∀ add enabled addr length now later, 0 < now → now ≤ later →
    ∀ m ∈ systemAddr later (setPrefixAddress now add enabled addr length p), m.Acceptable

theorem preferredLifetime_le (now preferredUntil : ℤ) :
    preferredLifetime now preferredUntil ≤ UINT32_MAX := by
  unfold preferredLifetime
  split_ifs
  · exact le_rfl
  · exact min_le_right _ _

theorem preferredLifetime_le_valid {now validUntil preferredUntil valid : ℤ}
    (hvalid : validLifetime now validUntil = some valid)
    (h : now < validUntil → LifetimesAgree validUntil preferredUntil) :
    preferredLifetime now preferredUntil ≤ valid := by
  unfold validLifetime at hvalid
  split_ifs at hvalid with hforever hover
  · obtain rfl := Option.some.inj hvalid
    exact preferredLifetime_le now preferredUntil
  · obtain rfl := Option.some.inj hvalid
    obtain ⟨hne, hle⟩ := h (by omega) hforever
    rw [preferredLifetime, if_neg hne]
    exact min_le_min_right _ (max_le (by omega) (by omega))

theorem acceptable_of_consistent {now : ℤ} {a : PeerAddr}
    (h : now < a.validUntil → LifetimesAgree a.validUntil a.preferredUntil) :
    ∀ m ∈ systemAddr now a, m.Acceptable := by
  intro m hm preferred valid hcacheinfo
  unfold systemAddr at hm
  split_ifs at hm with hv6
  · obtain ⟨v, hv, rfl⟩ := Option.map_eq_some_iff.mp hm
    obtain ⟨rfl, rfl⟩ := Prod.mk.inj (Option.some.inj hcacheinfo)
    exact preferredLifetime_le_valid hv h
  · obtain rfl := Option.some.inj hm
    cases hcacheinfo

/-- A table that is accepted, with the address that is made of it. -/
structure AcceptedAddress where
  now : ℤ
  attr : Blob
  v6 : Bool
  ext : Bool
  item : AddressItem
  accepted : parseAddressItem now attr v6 ext = some item

theorem checkPreferred_consistent {validUntil preferredUntil checked : ℤ}
    (h : checkPreferred validUntil preferredUntil = some checked) :
    LifetimesAgree validUntil checked := by
  intro hvalid
  rw [checkPreferred, if_pos hvalid] at h
  split_ifs at h with hforever hlonger
  · obtain rfl := Option.some.inj h
    exact ⟨hvalid, le_rfl⟩
  · obtain rfl := Option.some.inj h
    exact ⟨hforever, not_lt.mp hlonger⟩

theorem AcceptedAddress.sound (a : AcceptedAddress) : a.item.Sound := by
  have hconsistent : LifetimesAgree a.item.validUntil a.item.preferredUntil := by
    have h := a.accepted
    unfold parseAddressItem at h
    obtain ⟨mask, -, h⟩ := Option.bind_eq_some_iff.mp h
    obtain ⟨ipaddr, -, h⟩ := Option.bind_eq_some_iff.mp h
    obtain ⟨addr, -, h⟩ := Option.bind_eq_some_iff.mp h
    dsimp only at h
    split_ifs at h with hv6
    · -- an IPv4 address has no end
      obtain ⟨broadcast, -, h⟩ := Option.bind_eq_some_iff.mp h
      obtain ⟨pointToPoint, -, h⟩ := Option.bind_eq_some_iff.mp h
      rw [← Option.some.inj h]
      exact fun hvalid => absurd rfl hvalid
    · obtain ⟨checked, hchecked, h⟩ := Option.bind_eq_some_iff.mp h
      rw [← Option.some.inj h]
      exact checkPreferred_consistent hchecked
  exact ⟨hconsistent, fun now => acceptable_of_consistent fun _ => hconsistent⟩

theorem TimedPrefix.sound_iff (p : TimedPrefix) :
    p.Sound ↔ LifetimesAgree p.validUntil p.preferredUntil := by
  refine ⟨TimedPrefix.Sound.consistent, fun h => ⟨h, ?_⟩⟩
  intro add enabled addr length now later hpos hlater
  refine acceptable_of_consistent fun hlast => ?_
  unfold setPrefixAddress at hlast ⊢
  split_ifs at hlast ⊢ with hgone hlong
  · intro _
    exact ⟨hpos.ne', le_add_of_nonneg_right (by decide)⟩
  · intro _
    have hlast : later < p.validUntil := hlast
    exact ⟨hpos.ne', (hlater.trans_lt hlast).le⟩
  · exact h

/-- The lifetimes in the text, the preferred one in front. -/
def lifetimeTexts (str : List Char) : List (List Char) :=
  ((strtokR '/' str).bind fun (_, rest) =>
    (strtokR ',' rest).map fun (_, rest) => commaTokens rest).getD []

/-- The number of seconds that a text gives, as an `int64_t`. -/
def lifetimeOf (str : List Char) : ℤ := (strtoul str : ℤ).bmod (2 ^ 64)

/-- The lifetime has an end, which is not at the time zero. -/
def Ends (now : ℤ) (str : List Char) : Prop :=
  lifetimeOf str ≠ 0xffffffff ∧ lifetimeOf str + now ≤ LONG_MAX ∧ lifetimeOf str + now ≠ 0

/-- If the valid lifetime has an end, the preferred one has one too, which is not later. -/
def LifetimesOk (now : ℤ) (str : List Char) : Prop :=
  ∀ valid, (lifetimeTexts str)[1]? = some valid → Ends now valid →
    ∃ preferred, (lifetimeTexts str)[0]? = some preferred ∧ Ends now preferred ∧
      lifetimeOf preferred ≤ lifetimeOf valid

/-- A text that is accepted, with the prefix that is made of it. -/
structure AcceptedPrefix where
  now : ℤ
  str : List Char
  timed : TimedPrefix
  accepted : parsePrefixOptionAt now str = some timed

theorem AcceptedPrefix.lifetimes (a : AcceptedPrefix) :
    a.timed.validUntil = lifetimeUntil a.now (lifetimeTexts a.str)[1]? ∧
      a.timed.preferredUntil = lifetimeUntil a.now (lifetimeTexts a.str)[0]? := by
  have h := a.accepted
  unfold parsePrefixOptionAt at h
  obtain ⟨option, -, h⟩ := Option.bind_eq_some_iff.mp h
  obtain ⟨⟨addrstr, rest⟩, haddr, h⟩ := Option.bind_eq_some_iff.mp h
  obtain ⟨⟨lengthstr, rest'⟩, hlength, h⟩ := Option.bind_eq_some_iff.mp h
  have htexts : lifetimeTexts a.str = commaTokens rest' := by
    simp [lifetimeTexts, haddr, hlength]
  rw [← Option.some.inj h, htexts]
  exact ⟨rfl, rfl⟩

theorem lifetimeUntil_eq (now : ℤ) (str : List Char) :
    lifetimeUntil now (some str) =
      if lifetimeOf str ≠ 0xffffffff ∧ lifetimeOf str + now ≤ LONG_MAX then lifetimeOf str + now
      else 0 := rfl

theorem lifetimeUntil_of_ends {now : ℤ} {str : List Char} (h : Ends now str) :
    lifetimeUntil now (some str) = lifetimeOf str + now := by
  rw [lifetimeUntil_eq, if_pos ⟨h.1, h.2.1⟩]

theorem lifetimeUntil_of_not_ends {now : ℤ} {str : List Char} (h : ¬Ends now str) :
    lifetimeUntil now (some str) = 0 := by
  rw [lifetimeUntil_eq]
  split_ifs with hfinite
  · by_contra hne
    exact h ⟨hfinite.1, hfinite.2, hne⟩
  · rfl

/-- The lifetimes of a prefix are consistent just if those in its text are. -/
theorem AcceptedPrefix.consistent_iff (a : AcceptedPrefix) :
    LifetimesAgree a.timed.validUntil a.timed.preferredUntil ↔ LifetimesOk a.now a.str := by
  obtain ⟨hvalid, hpreferred⟩ := a.lifetimes
  rw [hvalid, hpreferred]
  cases htext : (lifetimeTexts a.str)[1]? with
  | none =>
    refine iff_of_true (fun h => absurd rfl h) ?_
    intro valid hsome
    rw [htext] at hsome
    cases hsome
  | some valid =>
    by_cases hends : Ends a.now valid
    · have huntil := lifetimeUntil_of_ends hends
      constructor
      · intro h valid' hsome _
        obtain rfl := Option.some.inj (htext.symm.trans hsome)
        obtain ⟨hne, hle⟩ := h (by rw [huntil]; exact hends.2.2)
        cases hfirst : (lifetimeTexts a.str)[0]? with
        | none =>
          rw [hfirst] at hne
          exact absurd rfl hne
        | some preferred =>
          rw [hfirst] at hne hle
          have hendsFirst : Ends a.now preferred := by
            by_contra hnot
            exact hne (lifetimeUntil_of_not_ends hnot)
          rw [lifetimeUntil_of_ends hendsFirst, huntil] at hle
          exact ⟨preferred, rfl, hendsFirst, by omega⟩
      · intro h _
        obtain ⟨preferred, hfirst, hendsFirst, hle⟩ := h valid htext hends
        rw [hfirst, lifetimeUntil_of_ends hendsFirst, huntil]
        exact ⟨hendsFirst.2.2, by omega⟩
    · refine iff_of_true (fun h => absurd (lifetimeUntil_of_not_ends hends) h) ?_
      intro valid' hsome hends'
      obtain rfl := Option.some.inj (htext.symm.trans hsome)
      exact absurd hends' hends

/-- The lifetimes of all addresses that come from a table make sense. Those of a prefix do if and
only if the text has a preferred lifetime that ends, and no later than the valid one, where the
valid one ends. -/
theorem lifetimes_sound_iff (a : AcceptedAddress) (p : AcceptedPrefix) :
    a.item.Sound ∧ (p.timed.Sound ↔ LifetimesOk p.now p.str) :=
  ⟨a.sound, (TimedPrefix.sound_iff p.timed).trans p.consistent_iff⟩

/-- A prefix that is preferred for longer than it is valid. -/
theorem preferred_longer_than_valid : ¬((∀ a : AcceptedAddress, a.item.Sound) ∧
    ∀ a : AcceptedPrefix, a.timed.Sound) := by
  rintro ⟨-, h⟩
  have hconsistent := (h
    { now := 10
      str := "2001:db8::/56,200,100".toList
      timed :=
        { option := { addr := 0x20010db8#128 <<< 96, length := 56 }
          validUntil := 110
          preferredUntil := 210 }
      accepted := by decide +kernel }).consistent
  exact absurd (hconsistent (by decide)).2 (by decide)

end Netifd
