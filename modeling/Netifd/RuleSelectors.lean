import Netifd.IpRules

/-!
# What the rules of the configuration match

The addresses that the source and the destination in a request to the kernel match, and the
networks that the texts of the configuration stand for.
-/

namespace Netifd.IpRules

/-- An address is in a network: the bits in front are the same. -/
def InPrefix (v6 : Bool) (addr len x : ℕ) : Prop :=
  x / 2 ^ (netmaskLimit v6 - len) = addr / 2 ^ (netmaskLimit v6 - len)

/-- The network of a text: a host, or an address with what its netmask says. -/
inductive Network (v6 : Bool) (str : List Char) : ℕ → ℕ → Prop
  | host {addr : ℕ} : '/' ∉ str → inetPton v6 str = some addr →
      Network v6 str addr (netmaskLimit v6)
  | net {astr s : List Char} {addr n : ℕ} : str = astr ++ '/' :: s → '/' ∉ astr →
      inetPton v6 astr = some addr → Denotes v6 s n → n ≤ netmaskLimit v6 → Network v6 str addr n

/-- What a request says of an address matches just what is in the network of a text. -/
def SelectorSound (v6 : Bool) (str : List Char) (addr : Option ℕ) (len : ℕ) : Prop :=
  ∃ a n b, Network v6 str a n ∧ addr = some b ∧
    ∀ x < 2 ^ netmaskLimit v6, InPrefix v6 b len x ↔ InPrefix v6 a n x

/-- A rule matches what is written. -/
structure SelectorsSound (attr : Blob) (m : RuleMessage) : Prop where
  src : ∀ s, attr.getString "src" = some s → SelectorSound m.v6 s.toList m.src m.srcLen
  dest : ∀ s, attr.getString "dest" = some s → SelectorSound m.v6 s.toList m.dst m.dstLen

/-- There is a netmask, and one that is read as it is meant. -/
def SelectorOk (v6 : Bool) (str : List Char) : Prop :=
  ∃ astr s, str = astr ++ '/' :: s ∧ '/' ∉ astr ∧ NetmaskOk v6 s

theorem prefix_length_le {w b m n : ℕ} (hb : b < 2 ^ w)
    (h : ∀ x < 2 ^ w, x / 2 ^ (w - m) = b / 2 ^ (w - m) → x / 2 ^ (w - n) = b / 2 ^ (w - n))
    (hn : n ≤ w) : n ≤ m := by
  by_contra hlt
  -- the first bit behind the shorter prefix
  have hbit : w - n < w - m := by omega
  have hw : w - n < w := by omega
  have hx : b ^^^ 2 ^ (w - n) < 2 ^ w :=
    Nat.xor_lt_two_pow hb (Nat.pow_lt_pow_right (by decide) hw)
  have hfront : (b ^^^ 2 ^ (w - n)) / 2 ^ (w - m) = b / 2 ^ (w - m) := by
    rw [← Nat.shiftRight_eq_div_pow, Nat.shiftRight_xor_distrib, Nat.shiftRight_eq_div_pow,
      Nat.shiftRight_eq_div_pow, Nat.div_eq_of_lt (Nat.pow_lt_pow_right (by decide) hbit),
      Nat.xor_zero]
  have hflipped := h _ hx hfront
  rw [← Nat.shiftRight_eq_div_pow, Nat.shiftRight_xor_distrib, Nat.shiftRight_eq_div_pow,
    Nat.shiftRight_eq_div_pow, Nat.div_self (Nat.two_pow_pos _)] at hflipped
  have hzero : (1 : ℕ) = 0 := by
    calc 1 = b / 2 ^ (w - n) ^^^ (b / 2 ^ (w - n) ^^^ 1) := by
          rw [← Nat.xor_assoc, Nat.xor_self, Nat.zero_xor]
      _ = 0 := by rw [hflipped, Nat.xor_self]
  cases hzero

theorem dottedByte_le {s : List Char} {n : ℕ} (h : dottedByte s = some n) : n ≤ 255 := by
  unfold dottedByte at h
  split_ifs at h with hs hn
  exact Option.some.inj h ▸ hn

theorem dottedGroups_lt {s : List Char} {gs : List ℕ} (h : dottedGroups s = some gs) :
    gs.foldl (fun n g => 2 ^ 16 * n + g) 0 < 2 ^ 32 := by
  unfold dottedGroups at h
  split at h
  · next a b c d =>
    obtain ⟨na, ha, h⟩ := Option.bind_eq_some_iff.mp h
    obtain ⟨nb, hb, h⟩ := Option.bind_eq_some_iff.mp h
    obtain ⟨nc, hc, h⟩ := Option.bind_eq_some_iff.mp h
    obtain ⟨nd, hd, h⟩ := Option.bind_eq_some_iff.mp h
    obtain rfl := Option.some.inj h
    have ha := dottedByte_le ha
    have hb := dottedByte_le hb
    have hc := dottedByte_le hc
    have hd := dottedByte_le hd
    simp only [List.foldl_cons, List.foldl_nil]
    omega
  · cases h

theorem inetPton_lt {v6 : Bool} {s : List Char} {addr : ℕ} (h : inetPton v6 s = some addr) :
    addr < 2 ^ netmaskLimit v6 := by
  cases v6
  · obtain ⟨gs, hgs, rfl⟩ := Option.map_eq_some_iff.mp h
    exact dottedGroups_lt hgs
  · obtain ⟨x, -, rfl⟩ := Option.map_eq_some_iff.mp h
    exact x.isLt

variable {v6 : Bool} {str : List Char} {b m : ℕ}

theorem splitSlash_none (hstr : '/' ∉ str) : splitSlash str = none := by
  have hall : ∀ c ∈ str, (c != '/') = true := by
    intro c hc
    rw [bne_iff_ne]
    rintro rfl
    exact hstr hc
  rw [splitSlash, List.dropWhile_eq_nil_iff.mpr hall]

theorem split_unique {astr astr' s s' : List Char} (h : astr ++ '/' :: s = astr' ++ '/' :: s')
    (hastr : '/' ∉ astr) (hastr' : '/' ∉ astr') : astr = astr' ∧ s = s' := by
  have hsplit := congrArg splitSlash h
  rw [splitSlash_append s hastr, splitSlash_append s' hastr'] at hsplit
  exact Prod.mk.inj (Option.some.inj hsplit)

theorem length_eq {addr len n : ℕ} (haddr : addr < 2 ^ netmaskLimit v6)
    (hlen : len ≤ netmaskLimit v6) (hn : n ≤ netmaskLimit v6)
    (h : ∀ x < 2 ^ netmaskLimit v6, InPrefix v6 addr len x ↔ InPrefix v6 addr n x) : len = n :=
  Nat.le_antisymm (prefix_length_le haddr (fun x hx => (h x hx).mpr) hlen)
    (prefix_length_le haddr (fun x hx => (h x hx).mp) hn)

theorem host_not_sound (hstr : '/' ∉ str) (h : parseIpAndNetmask v6 str 0 = some (b, m)) :
    ¬SelectorSound v6 str (some b) m := by
  rw [parseIpAndNetmask, splitNetmask, splitSlash_none hstr] at h
  obtain ⟨addr, haddr, hpair⟩ := Option.map_eq_some_iff.mp h
  cases hpair
  rintro ⟨a, n, b', hnetwork, hb, hsame⟩
  cases hb
  cases hnetwork with
  | host _ ha =>
    obtain rfl : a = b := Option.some.inj (ha.symm.trans haddr)
    have hzero := length_eq (inetPton_lt haddr) (Nat.zero_le _) le_rfl hsame
    cases v6 <;> cases hzero
  | net hslash => exact hstr (by simp [hslash])

theorem net_sound_iff {astr s : List Char} (hastr : '/' ∉ astr)
    (h : parseIpAndNetmask v6 (astr ++ '/' :: s) 0 = some (b, m)) :
    SelectorSound v6 (astr ++ '/' :: s) (some b) m ↔ NetmaskOk v6 s := by
  rw [parseIpAndNetmask_slash v6 hastr] at h
  split_ifs at h with hlimit
  obtain ⟨addr, haddr, hpair⟩ := Option.map_eq_some_iff.mp h
  cases hpair
  have hm := not_lt.mp hlimit
  rw [← netmask_sound_iff]
  constructor
  · rintro ⟨a, n, b', hnetwork, hb, hsame⟩
    cases hb
    cases hnetwork with
    | host hslash => exact absurd (by simp) hslash
    | net hstr hastr' ha hn hlimit' =>
      obtain ⟨rfl, rfl⟩ := split_unique hstr hastr hastr'
      obtain rfl : a = b := Option.some.inj (ha.symm.trans haddr)
      obtain rfl := length_eq (inetPton_lt haddr) hm hlimit' hsame
      refine ⟨fun _ => hn, ?_⟩
      intro astr' hslash netmask addr' n haccepted
      rw [parseIpAndNetmask_slash v6 hslash] at haccepted
      split_ifs at haccepted
      obtain ⟨_, -, hpair⟩ := Option.map_eq_some_iff.mp haccepted
      cases hpair
      exact hn
  · intro hsound
    exact ⟨b, _, b, .net rfl hastr haddr (hsound.value hm) hm, rfl, fun _ _ => Iff.rfl⟩

theorem selectorSound_iff (h : parseIpAndNetmask v6 str 0 = some (b, m)) :
    SelectorSound v6 str (some b) m ↔ SelectorOk v6 str := by
  by_cases hstr : '/' ∈ str
  · obtain ⟨astr, s, rfl, hastr⟩ := List.eq_append_cons_of_mem hstr
    rw [net_sound_iff hastr h]
    constructor
    · intro hok
      exact ⟨astr, s, rfl, hastr, hok⟩
    · rintro ⟨astr', s', heq, hastr', hok⟩
      rwa [(split_unique heq hastr hastr').2]
  · refine iff_of_false (host_not_sound hstr h) ?_
    rintro ⟨astr, s, rfl, -, -⟩
    simp at hstr

variable {env : RuleEnv} {attr : Blob} {order : ℕ} {rule : IpRule}

theorem given_some {α β : Type} {cur : Option α} {parse : α → Option β} {a : α} {b : Option β}
    (h : given cur parse = some b) (ha : cur = some a) : ∃ c, b = some c ∧ parse a = some c := by
  rw [ha] at h
  obtain ⟨c, hc, rfl⟩ := Option.map_eq_some_iff.mp h
  exact ⟨c, rfl, hc⟩

theorem parseRule_addrs (h : parseRule env attr v6 order = some rule) : rule.v6 = v6 ∧
    given (attr.getString "src") (fun s => parseIpAndNetmask v6 s.toList 0) = some rule.src ∧
      given (attr.getString "dest") (fun s => parseIpAndNetmask v6 s.toList 0) = some rule.dest := by
  obtain ⟨inDev, -, h⟩ := Option.bind_eq_some_iff.mp h
  obtain ⟨outDev, -, h⟩ := Option.bind_eq_some_iff.mp h
  obtain ⟨src, hsrc, h⟩ := Option.bind_eq_some_iff.mp h
  obtain ⟨dest, hdest, h⟩ := Option.bind_eq_some_iff.mp h
  obtain ⟨tos, -, h⟩ := Option.bind_eq_some_iff.mp h
  obtain ⟨mark, -, h⟩ := Option.bind_eq_some_iff.mp h
  obtain ⟨lookup, -, h⟩ := Option.bind_eq_some_iff.mp h
  obtain ⟨action, -, h⟩ := Option.bind_eq_some_iff.mp h
  cases h
  exact ⟨rfl, hsrc, hdest⟩

/-- The request of an accepted section matches what is written there exactly if each address has a
netmask that is read as it is meant. -/
theorem selectorsSound_iff (h : parseRule env attr v6 order = some rule) :
    SelectorsSound attr (systemIprule rule true) ↔
      ∀ name ∈ ["src", "dest"], ∀ s, attr.getString name = some s → SelectorOk v6 s.toList := by
  obtain ⟨rfl, hsrc, hdest⟩ := parseRule_addrs h
  have hfst (s) (hs : attr.getString "src" = some s) :
      SelectorSound rule.v6 s.toList (rule.src.map (·.1)) ((rule.src.map (·.2)).getD 0) ↔
        SelectorOk rule.v6 s.toList := by
    obtain ⟨⟨b, m⟩, hrule, hparse⟩ := given_some hsrc hs
    rw [hrule]
    exact selectorSound_iff hparse
  have hsnd (s) (hs : attr.getString "dest" = some s) :
      SelectorSound rule.v6 s.toList (rule.dest.map (·.1)) ((rule.dest.map (·.2)).getD 0) ↔
        SelectorOk rule.v6 s.toList := by
    obtain ⟨⟨b, m⟩, hrule, hparse⟩ := given_some hdest hs
    rw [hrule]
    exact selectorSound_iff hparse
  constructor
  · rintro ⟨hsrcSound, hdestSound⟩ name hname s hs
    rcases List.mem_pair.mp hname with rfl | rfl
    · exact (hfst s hs).mp (hsrcSound s hs)
    · exact (hsnd s hs).mp (hdestSound s hs)
  · intro hok
    exact ⟨fun s hs => (hfst s hs).mpr (hok _ (by simp) s hs),
      fun s hs => (hsnd s hs).mpr (hok _ (by simp) s hs)⟩

/-- A rule for what comes from an address. -/
def fromAddress (s : String) : Blob
  | "src" => some (.string s)
  | "lookup" => some (.string "main")
  | _ => none

theorem selectorsSound_subnet :
    parseRule mainTable (fromAddress "10.1.0.0/16") false 1 =
        some { v6 := false, src := some (167837696, 16), lookup := some 254, order := 1 } ∧
      (SelectorsSound (fromAddress "10.1.0.0/16") (systemIprule
          { v6 := false, src := some (167837696, 16), lookup := some 254, order := 1 } true) ↔
        ∀ name ∈ ["src", "dest"], ∀ s, (fromAddress "10.1.0.0/16").getString name = some s →
          SelectorOk false s.toList) := by
  have haccepted : parseRule mainTable (fromAddress "10.1.0.0/16") false 1 =
      some { v6 := false, src := some (167837696, 16), lookup := some 254, order := 1 } := by
    decide
  exact ⟨haccepted, selectorsSound_iff haccepted⟩

/-- A rule for one host is one for everything. -/
theorem host_rule_matches_all : ¬∀ env attr v6 order rule,
    parseRule env attr v6 order = some rule → SelectorsSound attr (systemIprule rule true) := by
  intro hsound
  have haccepted : parseRule mainTable (fromAddress "10.0.0.1") false 1 =
      some { v6 := false, src := some (167772161, 0), lookup := some 254, order := 1 } := by
    decide
  have hsrc := (hsound _ _ _ _ _ haccepted).src "10.0.0.1" rfl
  exact host_not_sound (by decide) (by decide) hsrc

end Netifd.IpRules
