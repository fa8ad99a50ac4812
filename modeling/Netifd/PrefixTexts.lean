import Netifd.PrefixSubnets

/-!
# What the text of a prefix says

The length and the excluded prefixes that stand in a text which `parse_prefix_option` accepts, and
what `interface_ip_add_device_prefix` stores of them.
-/

namespace Netifd

/-- The text consists of decimal digits and has this value. -/
def Decimal (s : List Char) (n : ℕ) : Prop :=
  s ≠ [] ∧ (∀ c ∈ s, c.isDigit = true) ∧ decimalValue s = n

/-- What stands behind the first of these characters. -/
def behind (c : Char) (s : List Char) : List Char := (s.dropWhile (· != c)).drop 1

/-- What stands behind the address and its slash. -/
def behindAddress (str : List Char) : List Char := behind '/' (str.dropWhile (· == '/'))

/-- The length: what stands between that slash and the next comma, or the end. -/
def lengthText (str : List Char) : List Char := (behindAddress str).takeWhile (· != ',')

/-- The fields behind the length, with a comma between any two. -/
def laterFields (str : List Char) : List (List Char) := (behind ',' (behindAddress str)).splitOn ','

/-- The length of the excluded prefix, if that is what the field gives. Equals signs in front of
the name do not matter. -/
def excludedText (field : List Char) : Option (List Char) :=
  ((field.dropWhile (· == '=')).dropPrefix? "excluded=".toList).map (behind '/')

/-- The lengths of all excluded prefixes in the text. -/
def excludedTexts (str : List Char) : List (List Char) := (laterFields str).filterMap excludedText

/-- A text that is accepted, with what is read from it. -/
structure AcceptedText where
  str : List Char
  option : PrefixOption
  accepted : parsePrefixOption str = some option

/-- The lengths in the text are numerals for the lengths that are stored. -/
structure Meant (str : List Char) (stored : DevicePrefix) : Prop where
  length : Decimal (lengthText str) stored.length
  lower : 1 ≤ stored.length
  upper : stored.length ≤ 64
  excluded : ∀ t ∈ excludedTexts str, Decimal t stored.exclLength ∧
    stored.length ≤ stored.exclLength ∧ stored.exclLength ≤ 64

/-- The length is written in digits and fits into eight bits; all excluded prefixes have the same
length, written in digits, which is neither below that of the prefix nor above 64; and if there
are any, then one stands behind two fields that are not empty, which are the lifetimes. -/
structure PrefixTextOk (str : List Char) : Prop where
  nonempty : lengthText str ≠ []
  digits : ∀ c ∈ lengthText str, c.isDigit = true
  bound : decimalValue (lengthText str) < 256
  excluded : ∀ t ∈ excludedTexts str, t ≠ [] ∧ (∀ c ∈ t, c.isDigit = true) ∧
    decimalValue (lengthText str) ≤ decimalValue t ∧ decimalValue t ≤ 64
  same : ∀ t ∈ excludedTexts str, ∀ u ∈ excludedTexts str, decimalValue t = decimalValue u
  later : excludedTexts str ≠ [] →
    ∃ field ∈ ((laterFields str).filter (!·.isEmpty)).drop 2, (excludedText field).isSome = true

theorem atoi_digits {s : List Char} (h : ∀ c ∈ s, c.isDigit = true)
    (hbound : decimalValue s < 2 ^ 31) : atoi s = decimalValue s := by
  have hstrtol : strtol s = decimalValue s := by
    rw [strtol, signedDecimal_digits h]
    exact min_eq_left (by omega)
  rw [atoi, hstrtol]
  exact Int.bmod_eq_of_le (by omega) (by omega)

theorem uint8_of_lt {n : ℕ} (h : n < 256) : uint8 n = n := by
  rw [uint8]
  omega

theorem notMem_of_mem_splitOn {sep : Char} {s field : List Char} (h : field ∈ s.splitOn sep) :
    sep ∉ field := by
  induction s generalizing field with
  | nil =>
    obtain rfl : field = [] := by simpa using h
    simp
  | cons c s ih =>
    rw [List.splitOn_cons_eq_if_modifyHead] at h
    split_ifs at h with hsep
    · rcases List.mem_cons.mp h with rfl | hrest
      · simp
      · exact ih hrest
    · obtain ⟨first, rest, hsplit⟩ := List.exists_cons_of_ne_nil (List.splitOn_ne_nil sep s)
      have hc : sep ≠ c := fun heq => hsep (by simp [heq])
      rw [hsplit, List.modifyHead_cons] at h
      rcases List.mem_cons.mp h with rfl | hrest
      · have hfirst := ih (by rw [hsplit]; exact List.mem_cons_self)
        simp [hc, hfirst]
      · exact ih (by rw [hsplit]; exact List.mem_cons_of_mem _ hrest)

theorem strtokR_comma {s : List Char} (h : ',' ∉ s) :
    strtokR ',' s = if s = [] then none else some (s, []) := by
  have hkeep : ∀ c ∈ s, (c != ',') = true := by
    intro c hc
    simp only [bne_iff_ne]
    rintro rfl
    exact h hc
  cases s with
  | nil => rfl
  | cons c s =>
    have hfirst : (c == ',') = false := by simpa using hkeep c List.mem_cons_self
    have hall : (c :: s).takeWhile (· != ',') = c :: s := List.takeWhile_eq_self_iff.mpr hkeep
    have hnone : (c :: s).dropWhile (· != ',') = [] := List.dropWhile_eq_nil_iff.mpr hkeep
    rw [strtokR, List.dropWhile_cons_of_neg (by simp [hfirst]), if_neg (List.cons_ne_nil c s)]
    simp only [hall, hnone, List.drop_nil]

theorem strtokR_excluded {field val : List Char}
    (h : (field.dropWhile (· == '=')).dropPrefix? "excluded=".toList = some val) :
    strtokR '=' field = some ("excluded".toList, val) := by
  obtain ⟨name, hfield, hname⟩ := List.dropPrefix?_eq_some_iff.mp h
  rw [strtokR, hfield, eq_of_beq hname]
  rfl

theorem dropPrefix_of_strtokR {field val : List Char} (hval : val ≠ [])
    (h : strtokR '=' field = some ("excluded".toList, val)) :
    (field.dropWhile (· == '=')).dropPrefix? "excluded=".toList = some val := by
  unfold strtokR at h
  generalize field.dropWhile (· == '=') = s at h
  have hsome : some (s.takeWhile (· != '='), (s.dropWhile (· != '=')).drop 1) =
      some ("excluded".toList, val) := by
    cases s with
    | nil => cases h
    | cons c s => exact h
  obtain ⟨hname, hrest⟩ := Prod.mk.inj (Option.some.inj hsome)
  have hs := List.takeWhile_append_dropWhile (p := (· != '=')) (l := s)
  cases hdrop : s.dropWhile (· != '=') with
  | nil =>
    rw [hdrop] at hrest
    exact absurd hrest.symm hval
  | cons c cs =>
    have hc : c = '=' := by
      have hhead := List.head?_dropWhile_not (· != '=') s
      simpa [hdrop] using hhead
    rw [hdrop, List.drop_succ_cons, List.drop_zero] at hrest
    rw [hname, hdrop, hc, hrest] at hs
    rw [List.dropPrefix?_eq_some_iff]
    exact ⟨"excluded=".toList, by rw [← hs]; rfl, beq_self_eq_true _⟩

/-- An option stores the length that it gives, and nothing else if it gives none. -/
theorem parseAddition_excluded {p q : PrefixOption} {field : List Char} (hcomma : ',' ∉ field)
    (h : parseAddition p field = some q) :
    (∀ t, excludedText field = some t → t ≠ [] →
      q.exclAddr.isSome = true ∧ q.exclLength = uint8 (atoi t)) ∧
      (excludedText field = none → q.exclAddr = p.exclAddr ∧ q.exclLength = p.exclLength) := by
  constructor
  · intro t ht hne
    obtain ⟨val, hval, rfl⟩ := Option.map_eq_some_iff.mp ht
    have hcommaVal : ',' ∉ val := by
      obtain ⟨name, hfield, -⟩ := List.dropPrefix?_eq_some_iff.mp hval
      intro hmem
      have hsub := (List.dropWhile_sublist (l := field) (· == '=')).subset
      exact hcomma (hsub (hfield ▸ List.mem_append_right name hmem))
    have hvalne : val ≠ [] := by
      rintro rfl
      exact hne rfl
    unfold parseAddition at h
    rw [strtokR_excluded hval] at h
    dsimp only at h
    rw [strtokR_comma hcommaVal, if_neg hvalne] at h
    dsimp only at h
    rw [if_pos rfl] at h
    obtain ⟨⟨addrstr, lengthstr⟩, hsplit, h⟩ := Option.bind_eq_some_iff.mp h
    obtain ⟨excluded, -, h⟩ := Option.bind_eq_some_iff.mp h
    obtain rfl := Option.some.inj h
    have hlength : behind '/' val = lengthstr := by
      unfold splitSlash at hsplit
      unfold behind
      split at hsplit
      · cases hsplit
      · next hdrop =>
        rw [hdrop]
        exact (Prod.mk.inj (Option.some.inj hsplit)).2
    rw [hlength]
    exact ⟨rfl, rfl⟩
  · intro hnone
    have hno : ∀ val, val ≠ [] → strtokR '=' field ≠ some ("excluded".toList, val) := by
      intro val hval hkey
      rw [excludedText, dropPrefix_of_strtokR hval hkey] at hnone
      cases hnone
    unfold parseAddition at h
    cases hkey : strtokR '=' field with
    | none =>
      rw [hkey] at h
      obtain rfl := Option.some.inj h
      exact ⟨rfl, rfl⟩
    | some pair =>
      obtain ⟨key, rest⟩ := pair
      rw [hkey] at h hno
      dsimp only at h
      cases hval : strtokR ',' rest with
      | none =>
        rw [hval] at h
        obtain rfl := Option.some.inj h
        exact ⟨rfl, rfl⟩
      | some pair =>
        obtain ⟨val, more⟩ := pair
        rw [hval] at h
        dsimp only at h
        have hrest : rest ≠ [] := by
          rintro rfl
          cases hval
        split_ifs at h with hexcluded hclass
        · exact absurd (by rw [hexcluded]) (hno rest hrest)
        · obtain rfl := Option.some.inj h
          exact ⟨rfl, rfl⟩
        · obtain rfl := Option.some.inj h
          exact ⟨rfl, rfl⟩

/-- The last length that is given is stored. -/
theorem foldlM_parseAddition_excluded {l : List (List Char)} (hcomma : ∀ field ∈ l, ',' ∉ field)
    {p q : PrefixOption} (h : l.foldlM parseAddition p = some q) :
    ((∀ t ∈ l.filterMap excludedText, t ≠ []) →
      ∀ t, (l.filterMap excludedText).getLast? = some t →
        q.exclAddr.isSome = true ∧ q.exclLength = uint8 (atoi t)) ∧
      (l.filterMap excludedText = [] → q.exclAddr = p.exclAddr ∧ q.exclLength = p.exclLength) := by
  induction l generalizing p with
  | nil =>
    obtain rfl := Option.some.inj h
    exact ⟨nofun, fun _ => ⟨rfl, rfl⟩⟩
  | cons field l ih =>
    obtain ⟨r, hr, h⟩ := Option.bind_eq_some_iff.mp h
    obtain ⟨hfirst, hskip⟩ := parseAddition_excluded (hcomma field List.mem_cons_self) hr
    obtain ⟨hlast, hnone⟩ := ih (fun f hf => hcomma f (List.mem_cons_of_mem field hf)) h
    cases htext : excludedText field with
    | none =>
      obtain ⟨haddr, hlength⟩ := hskip htext
      rw [List.filterMap_cons_none htext, ← haddr, ← hlength]
      exact ⟨hlast, hnone⟩
    | some t =>
      rw [List.filterMap_cons_some htext]
      refine ⟨?_, nofun⟩
      intro hall u hu
      obtain ⟨hne, hrest⟩ := List.forall_mem_cons.mp hall
      rcases List.eq_nil_or_concat (l.filterMap excludedText) with hempty | ⟨before, v, hconcat⟩
      · rw [hempty, List.getLast?_singleton] at hu
        obtain rfl := Option.some.inj hu
        obtain ⟨haddr, hlength⟩ := hnone hempty
        obtain ⟨haddr', hlength'⟩ := hfirst t htext hne
        rw [haddr, hlength]
        exact ⟨haddr', hlength'⟩
      · refine hlast hrest u ?_
        rw [hconcat, List.concat_eq_append, ← List.cons_append, List.getLast?_concat] at hu
        rw [hconcat, List.concat_eq_append, List.getLast?_concat, hu]

/-- The fields that are taken for options. -/
def optionFields (str : List Char) : List (List Char) :=
  ((laterFields str).filter (!·.isEmpty)).drop 2

theorem optionFields_texts (str : List Char) :
    (optionFields str).filterMap excludedText ⊆ excludedTexts str := by
  intro t ht
  obtain ⟨field, hfield, htext⟩ := List.mem_filterMap.mp ht
  exact List.mem_filterMap.mpr
    ⟨field, (List.mem_filter.mp (List.mem_of_mem_drop hfield)).1, htext⟩

/-- Where the length is not empty the parser takes it and the fields apart in the same way. -/
theorem AcceptedText.parts (a : AcceptedText) (hne : lengthText a.str ≠ []) :
    a.option.length = uint8 (strtoul (lengthText a.str)) ∧ 1 ≤ a.option.length ∧
      a.option.length ≤ 64 ∧
      ∃ p : PrefixOption, p.exclLength = 0 ∧ (optionFields a.str).foldlM parseAddition p =
        some a.option := by
  have h := a.accepted
  obtain ⟨_, _, h⟩ := Option.bind_eq_some_iff.mp h
  obtain ⟨⟨addrstr, rest⟩, haddr, h⟩ := Option.bind_eq_some_iff.mp h
  obtain ⟨⟨lengthstr, rest'⟩, hlength, h⟩ := Option.bind_eq_some_iff.mp h
  obtain ⟨_, hguard, h⟩ := Option.bind_eq_some_iff.mp h
  obtain ⟨addr, _, h⟩ := Option.bind_eq_some_iff.mp h
  have hrest : behindAddress a.str = rest := by
    unfold strtokR at haddr
    unfold behindAddress behind
    split at haddr
    · cases haddr
    · exact (Prod.mk.inj (Option.some.inj haddr)).2
  have hskip : rest.dropWhile (· == ',') = rest := by
    rw [lengthText, hrest] at hne
    cases rest with
    | nil => rfl
    | cons c cs =>
      apply List.dropWhile_cons_of_neg
      intro hc
      simp [eq_of_beq hc] at hne
  have hparts : lengthText a.str = lengthstr ∧ behind ',' (behindAddress a.str) = rest' := by
    unfold strtokR at hlength
    rw [hskip] at hlength
    rw [lengthText, hrest, behind]
    cases rest with
    | nil => cases hlength
    | cons c cs => exact Prod.mk.inj (Option.some.inj hlength)
  have hfields : optionFields a.str = (commaTokens rest').drop 2 := by
    rw [optionFields, laterFields, hparts.2, commaTokens]
  have hstored := foldlM_parseAddition_length h
  have hbounds := (Option.guard_eq_some' _).mp hguard
  rw [hparts.1, hfields, hstored]
  exact ⟨rfl, hbounds.1, hbounds.2, _, rfl, h⟩

theorem optionFields_comma (str : List Char) : ∀ field ∈ optionFields str, ',' ∉ field := by
  intro field hfield
  exact notMem_of_mem_splitOn (List.mem_filter.mp (List.mem_of_mem_drop hfield)).1

/-- An option in the place of a lifetime is not read, and neither is a field with an empty
length taken for what it is. -/
example : lengthText "2001:db8::/,56".toList = [] ∧
    excludedTexts "2001:db8::/56,,,excluded=2001:db8::/60".toList = ["60".toList] ∧
    optionFields "2001:db8::/56,,,excluded=2001:db8::/60".toList = [] := by decide +kernel

/-- The text of an accepted prefix means what is stored if and only if its lengths are written in
digits, fit and agree, and an excluded prefix does not stand in the place of a lifetime only. -/
theorem prefix_text_iff (a : AcceptedText) (uplink : Option String) :
    Meant a.str (interfaceIpAddDevicePrefix uplink a.option) ↔ PrefixTextOk a.str := by
  constructor
  · intro h
    obtain ⟨hne, hdigits, hvalue⟩ := h.length
    obtain ⟨-, hlower, hupper, p, hp, hfold⟩ := a.parts hne
    change decimalValue (lengthText a.str) = a.option.length at hvalue
    refine ⟨hne, hdigits, by omega, ?_, ?_, ?_⟩
    · intro t ht
      obtain ⟨⟨hne, hdigits, hexcl⟩, hle, h64⟩ := h.excluded t ht
      rw [hvalue, hexcl]
      exact ⟨hne, hdigits, hle, h64⟩
    · intro t ht u hu
      obtain ⟨⟨-, -, htexcl⟩, -⟩ := h.excluded t ht
      obtain ⟨⟨-, -, huexcl⟩, -⟩ := h.excluded u hu
      exact htexcl.trans huexcl.symm
    · intro hsome
      by_contra hnone
      have hempty : (optionFields a.str).filterMap excludedText = [] := by
        rw [List.filterMap_eq_nil_iff]
        intro field hfield
        by_contra htext
        exact hnone ⟨field, hfield, Option.isSome_iff_ne_none.mpr htext⟩
      obtain ⟨-, hkept⟩ :=
        (foldlM_parseAddition_excluded (optionFields_comma a.str) hfold).2 hempty
      -- no exclusion is stored, although the text gives one
      have hzero : (interfaceIpAddDevicePrefix uplink a.option).exclLength = 0 := by
        simp [interfaceIpAddDevicePrefix, hkept, hp]
      obtain ⟨t, ht⟩ := List.exists_mem_of_ne_nil _ hsome
      obtain ⟨-, hle, -⟩ := h.excluded t ht
      have hone := h.lower
      omega
  · intro h
    obtain ⟨hlength, hlower, hupper, p, hp, hfold⟩ := a.parts h.nonempty
    have hvalue : a.option.length = decimalValue (lengthText a.str) := by
      rw [hlength, strtoul_digits h.digits (h.bound.trans (by decide)), uint8_of_lt h.bound]
    refine ⟨⟨h.nonempty, h.digits, hvalue.symm⟩, hlower, hupper, ?_⟩
    intro t ht
    obtain ⟨htne, htdigits, hle, h64⟩ := h.excluded t ht
    -- the last of the lengths is the one that is stored
    obtain ⟨field, hfield, htext⟩ := h.later (List.ne_nil_of_mem ht)
    obtain ⟨v, hv⟩ := Option.isSome_iff_exists.mp htext
    have hsome := List.ne_nil_of_mem (List.mem_filterMap.mpr ⟨field, hfield, hv⟩)
    obtain ⟨u, hu⟩ := Option.ne_none_iff_exists'.mp (mt List.getLast?_eq_none_iff.mp hsome)
    have humem := optionFields_texts a.str (List.mem_of_getLast? hu)
    obtain ⟨-, hudigits, -, hu64⟩ := h.excluded u humem
    have hall : ∀ t ∈ (optionFields a.str).filterMap excludedText, t ≠ [] :=
      fun t ht => (h.excluded t (optionFields_texts a.str ht)).1
    obtain ⟨hsome, hstored⟩ :=
      (foldlM_parseAddition_excluded (optionFields_comma a.str) hfold).1 hall u hu
    have hexcl : (interfaceIpAddDevicePrefix uplink a.option).exclLength = decimalValue t := by
      rw [interfaceIpAddDevicePrefix, if_pos hsome, hstored, atoi_digits hudigits (by omega),
        uint8_of_lt (by omega), h.same u humem t ht]
    rw [hexcl]
    exact ⟨⟨htne, htdigits, rfl⟩, hvalue.le.trans hle, h64⟩

/-- The length 312 is stored as 56. -/
theorem prefix_length_wraps : ¬∀ (a : AcceptedText) (uplink : Option String),
    Meant a.str (interfaceIpAddDevicePrefix uplink a.option) := by
  intro h
  have hmeant := h ⟨"2001:db8::/312".toList, { addr := 0x20010db8#128 <<< 96, length := 56 },
    by decide +kernel⟩ none
  exact absurd hmeant.length.2.2 (by decide +kernel)

end Netifd
