import Netifd.PrefixOptions
import Mathlib.Data.List.Induction
import Mathlib.Data.List.TakeWhile
import Mathlib.Tactic.Common

/-!
# Delegated prefixes between the scripts and the daemon

What `proto_add_ipv6_prefix` and `proto_send_update` of `netifd-proto.sh` write, and the
lifetimes that `parse_prefix_option` reads from it. The texts go through JSON unchanged.
-/

namespace Netifd

/-- The characters at which the shell splits words. -/
def isBlank (c : Char) : Bool := c == ' ' || c == '\t' || c == '\n'

/-- `append` of `utils.sh`, with its default separator. -/
def shellAppend (var value : List Char) : List Char :=
  (if var = [] then [] else var ++ if value = [] then [] else [' ']) ++ value

/-- The words that `for item in $val` goes through. -/
def shellWords (val : List Char) : List (List Char) :=
  (val.splitOnP isBlank).filter (!·.isEmpty)

/-- What `proto_add_ipv6_prefix` appends; an argument that is missing is empty. -/
def prefixItem (pfx valid preferred : List Char) : List Char :=
  if valid = [] then pfx
  else
    let preferred := if preferred = [] then valid else preferred
    pfx ++ ',' :: valid ++ ',' :: preferred

/-- `proto_add_ipv6_prefix`, which changes `PROTO_PREFIX6`. -/
def protoAddIpv6Prefix (protoPrefix6 pfx valid preferred : List Char) : List Char :=
  shellAppend protoPrefix6 (prefixItem pfx valid preferred)

/-- The strings that `proto_send_update` puts into the array `ip6prefix`. -/
def pushPrefixes (protoPrefix6 : List Char) : List (List Char) :=
  if protoPrefix6 = [] then [] else shellWords protoPrefix6

/-- A prefix with the times until which it is valid and preferred; zero stands for forever. -/
structure TimedPrefix where
  option : PrefixOption
  validUntil : ℤ
  preferredUntil : ℤ
  deriving DecidableEq

/-- `LONG_MAX`, with a `long` of 64 bits. -/
def LONG_MAX : ℤ := 2 ^ 63 - 1

/-- The time until which a lifetime lasts, from the token that gives it. -/
def lifetimeUntil (now : ℤ) : Option (List Char) → ℤ
  | none => 0
  | some str =>
    let lifetime := (strtoul str : ℤ).bmod (2 ^ 64)
    if lifetime ≠ 0xffffffff ∧ lifetime + now ≤ LONG_MAX then lifetime + now else 0

/-- `parse_prefix_option` with the lifetimes: the token after the length is the preferred one,
and that after it the valid one. -/
def parsePrefixOptionAt (now : ℤ) (str : List Char) : Option TimedPrefix := do
  let option ← parsePrefixOption str
  let (_, rest) ← strtokR '/' str
  let (_, rest) ← strtokR ',' rest
  let prefstr := (commaTokens rest)[0]?
  let validstr := (commaTokens rest)[1]?
  pure
    { option
      validUntil := lifetimeUntil now validstr
      preferredUntil := lifetimeUntil now prefstr }

/-- A lifetime below the value that stands for forever, in decimal. -/
structure Lifetime where
  text : List Char
  nonempty : text ≠ []
  digits : ∀ c ∈ text, c.isDigit = true
  bound : decimalValue text < 2 ^ 32 - 1

/-- The number of seconds. -/
def Lifetime.value (l : Lifetime) : ℕ := decimalValue l.text

/-- A call of `proto_add_ipv6_prefix`: a text without commas and blanks, alone or with the
valid and perhaps the preferred lifetime. -/
structure PrefixRequest where
  pfx : List Char
  plain : ∀ c ∈ pfx, c ≠ ',' ∧ isBlank c = false
  lifetimes : Option (Lifetime × Option Lifetime)

namespace PrefixRequest

/-- The valid lifetime as it is passed. -/
def valid (r : PrefixRequest) : List Char :=
  match r.lifetimes with
  | none => []
  | some (valid, _) => valid.text

/-- The preferred lifetime as it is passed. -/
def preferred (r : PrefixRequest) : List Char :=
  match r.lifetimes with
  | some (_, some preferred) => preferred.text
  | _ => []

/-- The string for the daemon. -/
def item (r : PrefixRequest) : List Char := prefixItem r.pfx r.valid r.preferred

/-- When the prefix is to expire. -/
def validUntil (now : ℤ) (r : PrefixRequest) : ℤ :=
  match r.lifetimes with
  | none => 0
  | some (valid, _) => now + valid.value

/-- When the prefix is to be deprecated. -/
def preferredUntil (now : ℤ) (r : PrefixRequest) : ℤ :=
  match r.lifetimes with
  | none => 0
  | some (valid, preferred) => now + (preferred.getD valid).value

end PrefixRequest

/-- `PROTO_PREFIX6` after some calls of `proto_add_ipv6_prefix`. -/
def protoPrefix6 (requests : List PrefixRequest) : List Char :=
  requests.foldl (fun s r => protoAddIpv6Prefix s r.pfx r.valid r.preferred) []

theorem shellWords_nil : shellWords [] = [] := rfl

theorem shellWords_plain {s : List Char} (h : ∀ c ∈ s, isBlank c = false) :
    shellWords s = [s].filter (!·.isEmpty) := by
  rw [shellWords, List.splitOnP_eq_singleton h]

theorem shellWords_append (var : List Char) {value : List Char}
    (h : ∀ c ∈ value, isBlank c = false) :
    shellWords (shellAppend var value) = shellWords var ++ [value].filter (!·.isEmpty) := by
  unfold shellAppend
  split_ifs with hvar hvalue
  · simp [hvar, shellWords_nil, shellWords_plain h]
  · simp [hvalue]
  · rw [List.append_assoc, List.singleton_append, shellWords,
      List.splitOnP_append_cons _ _ (by rfl), List.filter_append]
    exact congrArg _ (shellWords_plain h)

theorem pushPrefixes_eq (val : List Char) : pushPrefixes val = shellWords val := by
  unfold pushPrefixes
  split_ifs with hval
  · rw [hval, shellWords_nil]
  · rfl

theorem Lifetime.ne_of_mem (l : Lifetime) {c x : Char} (hc : c ∈ l.text)
    (h : x.isDigit = false) : c ≠ x := by
  rintro rfl
  rw [l.digits c hc] at h
  cases h

theorem Lifetime.plain (l : Lifetime) {c : Char} (hc : c ∈ l.text) : isBlank c = false := by
  simp [isBlank, l.ne_of_mem (x := ' ') hc rfl, l.ne_of_mem (x := '\t') hc rfl,
    l.ne_of_mem (x := '\n') hc rfl]

theorem Lifetime.ne_comma (l : Lifetime) : ∀ c ∈ l.text, c ≠ ',' :=
  fun _ hc => l.ne_of_mem hc rfl

namespace PrefixRequest

theorem item_of_lifetimes {r : PrefixRequest} {valid : Lifetime} {preferred : Option Lifetime}
    (h : r.lifetimes = some (valid, preferred)) :
    r.item = r.pfx ++ ',' :: valid.text ++ ',' :: (preferred.getD valid).text := by
  cases preferred with
  | none => simp [item, prefixItem, PrefixRequest.valid, PrefixRequest.preferred, h, valid.nonempty]
  | some preferred =>
    simp [item, prefixItem, PrefixRequest.valid, PrefixRequest.preferred, h, valid.nonempty,
      preferred.nonempty]

theorem item_of_none {r : PrefixRequest} (h : r.lifetimes = none) : r.item = r.pfx := by
  simp [item, prefixItem, PrefixRequest.valid, h]

theorem item_plain (r : PrefixRequest) : ∀ c ∈ r.item, isBlank c = false := by
  intro c hc
  cases hlife : r.lifetimes with
  | none =>
    rw [item_of_none hlife] at hc
    exact (r.plain c hc).2
  | some life =>
    rw [item_of_lifetimes hlife] at hc
    simp only [List.append_assoc, List.cons_append, List.mem_append, List.mem_cons] at hc
    rcases hc with hc | rfl | hc | rfl | hc
    · exact (r.plain c hc).2
    · rfl
    · exact Lifetime.plain _ hc
    · rfl
    · exact Lifetime.plain _ hc

end PrefixRequest

theorem pushPrefixes_protoPrefix6 (requests : List PrefixRequest) :
    pushPrefixes (protoPrefix6 requests) =
      (requests.map PrefixRequest.item).filter (!·.isEmpty) := by
  rw [pushPrefixes_eq]
  induction requests using List.reverseRecOn with
  | nil => rfl
  | append_singleton requests r ih =>
    rw [protoPrefix6, List.foldl_append, List.foldl_cons, List.foldl_nil, protoAddIpv6Prefix]
    change shellWords (shellAppend (protoPrefix6 requests) r.item) = _
    rw [shellWords_append _ r.item_plain, ih, List.map_append, List.filter_append,
      List.map_singleton]

section Tokens

variable {d : Char} {a rest : List Char}

theorem strtokR_delim {skip : List Char} (hskip : ∀ c ∈ skip, c = d) (hne : a ≠ [])
    (ha : ∀ c ∈ a, c ≠ d)
    (rest : List Char) : strtokR d (skip ++ a ++ d :: rest) = some (a, rest) := by
  obtain ⟨c, cs, rfl⟩ := List.exists_cons_of_ne_nil hne
  have hc := ha c List.mem_cons_self
  have hcs : ∀ x ∈ cs, x ≠ d := fun x hx => ha x (List.mem_cons_of_mem c hx)
  have hdrop : (skip ++ (c :: cs) ++ d :: rest).dropWhile (· == d) = c :: cs ++ d :: rest := by
    rw [List.append_assoc, List.dropWhile_append_of_pos (by simpa using hskip)]
    simp [hc]
  have htake : (c :: cs ++ d :: rest).takeWhile (· != d) = c :: cs := by
    rw [List.takeWhile_append_of_pos (by simpa [hc] using hcs)]
    simp
  have hrest : (c :: cs ++ d :: rest).dropWhile (· != d) = d :: rest := by
    rw [List.dropWhile_append_of_pos (by simpa [hc] using hcs)]
    simp
  rw [strtokR, hdrop]
  simp only [List.cons_append] at htake hrest ⊢
  rw [htake, hrest]
  rfl

theorem strtokR_last {skip : List Char} (hskip : ∀ c ∈ skip, c = d) (hne : a ≠ [])
    (ha : ∀ c ∈ a, c ≠ d) :
    strtokR d (skip ++ a) = some (a, []) := by
  obtain ⟨c, cs, rfl⟩ := List.exists_cons_of_ne_nil hne
  have hc := ha c List.mem_cons_self
  have hdrop : (skip ++ (c :: cs)).dropWhile (· == d) = c :: cs := by
    rw [List.dropWhile_append_of_pos (by simpa using hskip)]
    simp [hc]
  have htake : (c :: cs).takeWhile (· != d) = c :: cs :=
    List.takeWhile_eq_self_iff.mpr (by simpa using ha)
  have hrest : (c :: cs).dropWhile (· != d) = [] :=
    List.dropWhile_eq_nil_iff.mpr (by simpa using ha)
  rw [strtokR, hdrop]
  simp only [htake, hrest, List.drop_nil]

theorem eq_of_strtokR {s : List Char} (h : strtokR d s = some (a, rest)) (hrest : rest ≠ []) :
    ∃ skip, (∀ c ∈ skip, c = d) ∧ a ≠ [] ∧ (∀ c ∈ a, c ≠ d) ∧ s = skip ++ a ++ d :: rest := by
  have hsplit := List.takeWhile_append_dropWhile (p := (· == d)) (l := s)
  have hskip : ∀ c ∈ s.takeWhile (· == d), c = d := fun c hc => by
    simpa using List.mem_takeWhile_imp hc
  unfold strtokR at h
  cases htail : s.dropWhile (· == d) with
  | nil => simp [htail] at h
  | cons c cs =>
    simp only [htail, Option.some.injEq, Prod.mk.injEq] at h
    obtain ⟨rfl, rfl⟩ := h
    have hc : c ≠ d := by
      have hhead := List.head?_dropWhile_not (· == d) s
      simpa [htail] using hhead
    have htoken := List.takeWhile_append_dropWhile (p := (· != d)) (l := c :: cs)
    refine ⟨s.takeWhile (· == d), hskip, ?_, fun x hx => ?_, ?_⟩
    · simp [hc]
    · simpa using List.mem_takeWhile_imp hx
    · cases hdelim : (c :: cs).dropWhile (· != d) with
      | nil => simp [hdelim] at hrest
      | cons e es =>
        have he : e = d := by
          have hhead := List.head?_dropWhile_not (· != d) (c :: cs)
          simpa [hdelim] using hhead
        rw [hdelim, he] at htoken
        rw [List.drop_one, List.tail_cons, List.append_assoc, htoken, ← htail, hsplit]

end Tokens

theorem commaTokens_single {s : List Char} (hne : s ≠ []) (h : ∀ c ∈ s, c ≠ ',') :
    commaTokens s = [s] := by
  rw [commaTokens, List.splitOn_eq_singleton fun hmem => h _ hmem rfl]
  simp [hne]

theorem commaTokens_cons {s : List Char} (hne : s ≠ []) (h : ∀ c ∈ s, c ≠ ',') (t : List Char) :
    commaTokens (s ++ ',' :: t) = s :: commaTokens t := by
  rw [commaTokens, List.splitOn_append_cons_self,
    List.splitOn_eq_singleton fun hmem => h _ hmem rfl]
  simp [hne, commaTokens]

theorem Lifetime.strtoul_text (l : Lifetime) : strtoul l.text = l.value := by
  have hbound : decimalValue l.text < 2 ^ 32 - 1 := l.bound
  exact strtoul_digits l.digits (by omega)

theorem lifetimeUntil_some (now : ℤ) (str : List Char) :
    lifetimeUntil now (some str) =
      if (strtoul str : ℤ).bmod (2 ^ 64) ≠ 0xffffffff ∧
          (strtoul str : ℤ).bmod (2 ^ 64) + now ≤ LONG_MAX then
        (strtoul str : ℤ).bmod (2 ^ 64) + now
      else 0 := rfl

theorem Lifetime.until_eq (l : Lifetime) (now : ℤ) :
    lifetimeUntil now (some l.text) =
      if (l.value : ℤ) + now ≤ LONG_MAX then (l.value : ℤ) + now else 0 := by
  have hbound : l.value < 2 ^ 32 - 1 := l.bound
  have hbmod : (l.value : ℤ).bmod (2 ^ 64) = l.value :=
    Int.bmod_eq_of_le (by omega) (by omega)
  have hne : (l.value : ℤ) ≠ 0xffffffff := by omega
  rw [lifetimeUntil_some, l.strtoul_text, hbmod]
  simp [hne]

/-- The prefix without options that two tokens spell. -/
def readPrefix (addrstr lengthstr : List Char) : Option PrefixOption := do
  let length := uint8 (strtoul lengthstr)
  guard (1 ≤ length ∧ length ≤ 64)
  let addr ← inetPton6 addrstr
  pure { addr, length }

section Record

variable {str addrstr lengthstr rest rest' : List Char}

theorem parsePrefixOption_of_tokens (haddr : strtokR '/' str = some (addrstr, rest))
    (hlength : strtokR ',' rest = some (lengthstr, rest'))
    (hoptions : (commaTokens rest').drop 2 = []) :
    parsePrefixOption str =
      if str.length + 1 < 128 then readPrefix addrstr lengthstr else none := by
  unfold parsePrefixOption readPrefix
  split_ifs with hfits
  · simp [guard, hfits, haddr, hlength, hoptions]
  · simp [guard, hfits]

theorem parsePrefixOptionAt_of_tokens (haddr : strtokR '/' str = some (addrstr, rest))
    (hlength : strtokR ',' rest = some (lengthstr, rest')) (now : ℤ) :
    parsePrefixOptionAt now str = (parsePrefixOption str).map fun option =>
      { option
        validUntil := lifetimeUntil now (commaTokens rest')[1]?
        preferredUntil := lifetimeUntil now (commaTokens rest')[0]? } := by
  simp [parsePrefixOptionAt, haddr, hlength, Option.map_eq_bind]

theorem tokens_of_parsePrefixOption {p : PrefixOption} (h : parsePrefixOption str = some p) :
    ∃ addrstr rest lengthstr rest', strtokR '/' str = some (addrstr, rest) ∧
      strtokR ',' rest = some (lengthstr, rest') := by
  obtain ⟨_, _, h⟩ := Option.bind_eq_some_iff.mp h
  obtain ⟨⟨addrstr, rest⟩, haddr, h⟩ := Option.bind_eq_some_iff.mp h
  obtain ⟨⟨lengthstr, rest'⟩, hlength, _⟩ := Option.bind_eq_some_iff.mp h
  exact ⟨addrstr, rest, lengthstr, rest', haddr, hlength⟩

theorem eq_of_parsePrefixOption {p : PrefixOption} (hplain : ∀ c ∈ str, c ≠ ',')
    (h : parsePrefixOption str = some p) :
    ∃ skip addrstr lengthstr, (∀ c ∈ skip, c = '/') ∧ addrstr ≠ [] ∧ (∀ c ∈ addrstr, c ≠ '/') ∧
      lengthstr ≠ [] ∧ (∀ c ∈ lengthstr, c ≠ ',') ∧ str = skip ++ addrstr ++ '/' :: lengthstr := by
  obtain ⟨addrstr, rest, lengthstr, rest', haddr, hlength⟩ := tokens_of_parsePrefixOption h
  have hrest : rest ≠ [] := by
    rintro rfl
    cases hlength
  obtain ⟨skip, hskip, hne, ha, rfl⟩ := eq_of_strtokR haddr hrest
  refine ⟨skip, addrstr, rest, hskip, hne, ha, hrest, ?_, rfl⟩
  intro c hc
  exact hplain c (List.mem_append_right _ (List.mem_cons_of_mem _ hc))

theorem parsePrefixOptionAt_alone (hplain : ∀ c ∈ str, c ≠ ',') (now : ℤ) :
    parsePrefixOptionAt now str = (parsePrefixOption str).map fun option =>
      { option, validUntil := 0, preferredUntil := 0 } := by
  cases hparse : parsePrefixOption str with
  | none => simp [parsePrefixOptionAt, hparse]
  | some p =>
    obtain ⟨skip, addrstr, lengthstr, hskip, hne, ha, hl, hcomma, rfl⟩ :=
      eq_of_parsePrefixOption hplain hparse
    have hlength : strtokR ',' lengthstr = some (lengthstr, []) :=
      @strtokR_last _ _ [] (by simp) hl hcomma
    rw [parsePrefixOptionAt_of_tokens (strtokR_delim hskip hne ha lengthstr) hlength, hparse]
    rfl

/-- After an accepted prefix the first lifetime is taken for the preferred one and the second
for the valid one. -/
theorem parsePrefixOptionAt_lifetimes {p : PrefixOption} (hplain : ∀ c ∈ str, c ≠ ',')
    (hparse : parsePrefixOption str = some p) (first second : Lifetime) (now : ℤ) :
    parsePrefixOptionAt now (str ++ ',' :: first.text ++ ',' :: second.text) =
      if (str ++ ',' :: first.text ++ ',' :: second.text).length + 1 < 128 then
        some
          { option := p
            validUntil := lifetimeUntil now (some second.text)
            preferredUntil := lifetimeUntil now (some first.text) }
      else none := by
  obtain ⟨skip, addrstr, lengthstr, hskip, hne, ha, hl, hcomma, rfl⟩ :=
    eq_of_parsePrefixOption hplain hparse
  have hread : readPrefix addrstr lengthstr = some p := by
    have hlength : strtokR ',' lengthstr = some (lengthstr, []) :=
      @strtokR_last _ _ [] (by simp) hl hcomma
    rw [parsePrefixOption_of_tokens (strtokR_delim hskip hne ha lengthstr) hlength rfl] at hparse
    split_ifs at hparse
    exact hparse
  have hitem : skip ++ addrstr ++ '/' :: lengthstr ++ ',' :: first.text ++ ',' :: second.text =
      skip ++ addrstr ++ '/' :: (lengthstr ++ ',' :: (first.text ++ ',' :: second.text)) := by
    simp
  have hlength : strtokR ',' (lengthstr ++ ',' :: (first.text ++ ',' :: second.text)) =
      some (lengthstr, first.text ++ ',' :: second.text) :=
    @strtokR_delim _ _ [] (by simp) hl hcomma _
  have htokens : commaTokens (first.text ++ ',' :: second.text) = [first.text, second.text] := by
    rw [commaTokens_cons first.nonempty first.ne_comma,
      commaTokens_single second.nonempty second.ne_comma]
  rw [hitem, parsePrefixOptionAt_of_tokens (strtokR_delim hskip hne ha _) hlength,
    parsePrefixOption_of_tokens (strtokR_delim hskip hne ha _) hlength (by rw [htokens]; rfl),
    htokens, hread]
  split_ifs <;> rfl

/-- If both lifetimes are read, the prefix before them is accepted by itself: in a text that
ends with the slash the first of them would be the length, and no valid lifetime be left. -/
theorem accepted_of_lifetimes {t : TimedPrefix} {first second : Lifetime} {now : ℤ}
    (hnow : 0 ≤ now) (hplain : ∀ c ∈ str, c ≠ ',')
    (h : parsePrefixOptionAt now (str ++ ',' :: first.text ++ ',' :: second.text) = some t)
    (hvalid : t.validUntil = now + first.value) : ∃ p, parsePrefixOption str = some p := by
  obtain ⟨p, hparse, _⟩ := Option.bind_eq_some_iff.mp h
  obtain ⟨addrstr, rest, lengthstr, rest', haddr, hlength⟩ := tokens_of_parsePrefixOption hparse
  have hrest : rest ≠ [] := by
    rintro rfl
    cases hlength
  obtain ⟨skip, hskip, hne, ha, hitem⟩ := eq_of_strtokR haddr hrest
  have hslash : '/' ∉ ',' :: (first.text ++ ',' :: second.text) := by
    simp only [List.mem_cons, List.mem_append]
    rintro (h' | h' | h' | h')
    · cases h'
    · exact first.ne_of_mem h' rfl rfl
    · cases h'
    · exact second.ne_of_mem h' rfl rfl
  obtain ⟨last, rfl, rfl⟩ : ∃ last, str = skip ++ addrstr ++ '/' :: last ∧
      rest = last ++ ',' :: (first.text ++ ',' :: second.text) := by
    have hsplit : str ++ ',' :: (first.text ++ ',' :: second.text) =
        (skip ++ addrstr ++ ['/']) ++ rest := by simpa using hitem
    rcases List.append_eq_append_iff.mp hsplit with ⟨more, hmore, htail⟩ | ⟨last, hstr, hlast⟩
    · rcases List.eq_nil_or_concat more with rfl | ⟨more, c, rfl⟩
      · exact ⟨[], by simpa using hmore.symm, by simpa using htail.symm⟩
      · have hc : '/' = c := by
          rw [List.concat_eq_append, ← List.append_assoc] at hmore
          exact List.singleton_inj.mp (List.append_inj_right' hmore rfl)
        refine absurd ?_ hslash
        rw [htail, hc]
        simp
    · exact ⟨last, by simpa using hstr, hlast⟩
  rcases eq_or_ne last [] with rfl | hlast
  · -- the first lifetime is the length, and only one token is left
    have htoken : strtokR ',' ([','] ++ first.text ++ ',' :: second.text) =
        some (first.text, second.text) :=
      strtokR_delim (by simp) first.nonempty first.ne_comma _
    cases hlength.symm.trans htoken
    have htokens := commaTokens_single second.nonempty second.ne_comma
    rw [parsePrefixOptionAt_of_tokens haddr htoken, hparse, htokens] at h
    obtain rfl := Option.some.inj h
    have hzero : first.value = 0 := by
      change (0 : ℤ) = now + first.value at hvalid
      omega
    rw [parsePrefixOption_of_tokens haddr htoken (by rw [htokens]; rfl)] at hparse
    simp [readPrefix, first.strtoul_text, hzero, uint8, guard] at hparse
  · have hcomma : ∀ c ∈ last, c ≠ ',' := fun c hc =>
      hplain c (List.mem_append_right _ (List.mem_cons_of_mem _ hc))
    have htoken : strtokR ',' (last ++ ',' :: (first.text ++ ',' :: second.text)) =
        some (last, first.text ++ ',' :: second.text) :=
      @strtokR_delim _ _ [] (by simp) hlast hcomma _
    have htokens : commaTokens (first.text ++ ',' :: second.text) = [first.text, second.text] := by
      rw [commaTokens_cons first.nonempty first.ne_comma,
        commaTokens_single second.nonempty second.ne_comma]
    rw [parsePrefixOption_of_tokens haddr htoken (by rw [htokens]; rfl)] at hparse
    split_ifs at hparse with hfits
    refine ⟨p, ?_⟩
    have hlength : strtokR ',' last = some (last, []) :=
      @strtokR_last _ _ [] (by simp) hlast hcomma
    rw [parsePrefixOption_of_tokens (strtokR_delim hskip hne ha last) hlength rfl, if_pos, hparse]
    simp only [List.length_append, List.length_cons] at hfits ⊢
    omega

end Record

/-- The daemon reads the lifetimes that the script has passed. -/
def Agrees (now : ℤ) (r : PrefixRequest) : Prop :=
  ∃ p, parsePrefixOptionAt now r.item =
    some ⟨p, r.validUntil now, r.preferredUntil now⟩

theorem fits_of_parsePrefixOption {str : List Char} {p : PrefixOption}
    (h : parsePrefixOption str = some p) : str.length + 1 < 128 := by
  obtain ⟨_, hguard, _⟩ := Option.bind_eq_some_iff.mp h
  exact (Option.guard_eq_some' _).mp hguard

theorem agrees_alone_iff {r : PrefixRequest} (hlife : r.lifetimes = none) (now : ℤ) :
    Agrees now r ↔ ∃ p, parsePrefixOption r.pfx = some p := by
  have hplain : ∀ c ∈ r.pfx, c ≠ ',' := fun c hc => (r.plain c hc).1
  rw [Agrees, PrefixRequest.item_of_none hlife, parsePrefixOptionAt_alone hplain]
  simp [PrefixRequest.validUntil, PrefixRequest.preferredUntil, hlife, Option.map_eq_some_iff]

theorem agrees_lifetimes_iff {r : PrefixRequest} {valid : Lifetime} {preferred : Option Lifetime}
    (hlife : r.lifetimes = some (valid, preferred)) {now : ℤ} (hnow : 0 ≤ now) :
    Agrees now r ↔ (∃ p, parsePrefixOption r.pfx = some p) ∧ r.item.length + 1 < 128 ∧
      valid.value = (preferred.getD valid).value ∧ now + valid.value ≤ LONG_MAX := by
  have hplain : ∀ c ∈ r.pfx, c ≠ ',' := fun c hc => (r.plain c hc).1
  have hvalid : r.validUntil now = now + valid.value := by simp [PrefixRequest.validUntil, hlife]
  have hpreferred : r.preferredUntil now = now + (preferred.getD valid).value := by
    simp [PrefixRequest.preferredUntil, hlife]
  have hbound := valid.bound
  have hbound' := (preferred.getD valid).bound
  change valid.value < 2 ^ 32 - 1 at hbound
  change (preferred.getD valid).value < 2 ^ 32 - 1 at hbound'
  have hmax : LONG_MAX = 9223372036854775807 := by decide
  rw [Agrees, PrefixRequest.item_of_lifetimes hlife, hvalid, hpreferred]
  constructor
  · rintro ⟨p, hp⟩
    obtain ⟨q, hq⟩ := accepted_of_lifetimes hnow hplain hp rfl
    rw [parsePrefixOptionAt_lifetimes hplain hq, Lifetime.until_eq, Lifetime.until_eq] at hp
    split_ifs at hp with hfits hsecond hfirst
    all_goals
      simp only [Option.some.injEq, TimedPrefix.mk.injEq] at hp
      refine ⟨⟨q, hq⟩, hfits, ?_⟩
      omega
  · rintro ⟨⟨q, hq⟩, hfits, heq, hlast⟩
    refine ⟨q, ?_⟩
    rw [parsePrefixOptionAt_lifetimes hplain hq, if_pos hfits, Lifetime.until_eq, Lifetime.until_eq,
      if_pos (by omega), if_pos (by omega)]
    congr 2 <;> omega

/-- The lifetimes are read right just if the parser accepts the prefix and the whole text, and
there are none or both are equal, for a time that a `long` can hold. -/
theorem agrees_iff {now : ℤ} (hnow : 0 ≤ now) (requests : List PrefixRequest)
    (r : PrefixRequest) (hr : r ∈ requests) :
    r.item ∈ pushPrefixes (protoPrefix6 requests) ∧ Agrees now r ↔
      (∃ p, parsePrefixOption r.pfx = some p) ∧ r.item.length + 1 < 128 ∧
        ∀ valid preferred, r.lifetimes = some (valid, preferred) →
          valid.value = (preferred.getD valid).value ∧ now + valid.value ≤ LONG_MAX := by
  have hsent (h : (∃ p, parsePrefixOption r.pfx = some p)) :
      r.item ∈ pushPrefixes (protoPrefix6 requests) := by
    rw [pushPrefixes_protoPrefix6]
    refine List.mem_filter.mpr ⟨List.mem_map_of_mem hr, ?_⟩
    obtain ⟨p, hp⟩ := h
    have hne : r.item ≠ [] := by
      cases hlife : r.lifetimes with
      | none =>
        rw [PrefixRequest.item_of_none hlife]
        rintro hnil
        rw [hnil] at hp
        cases hp
      | some life => simp [PrefixRequest.item_of_lifetimes hlife]
    simpa using hne
  cases hlife : r.lifetimes with
  | none =>
    rw [agrees_alone_iff hlife]
    constructor
    · rintro ⟨_, p, hp⟩
      refine ⟨⟨p, hp⟩, ?_, by simp⟩
      rw [PrefixRequest.item_of_none hlife]
      exact fits_of_parsePrefixOption hp
    · rintro ⟨h, _, _⟩
      exact ⟨hsent h, h⟩
  | some life =>
    rw [agrees_lifetimes_iff hlife hnow]
    constructor
    · rintro ⟨_, h, hfits, heq⟩
      refine ⟨h, hfits, ?_⟩
      intro valid preferred h'
      cases h'
      exact heq
    · rintro ⟨h, hfits, heq⟩
      exact ⟨hsent h, h, hfits, heq life.1 life.2 rfl⟩

/-- An hour and half an hour. -/
def hour : Lifetime where
  text := "3600".toList
  nonempty := by decide
  digits := List.all_eq_true.mp (by decide)
  bound := by decide

def halfHour : Lifetime where
  text := "1800".toList
  nonempty := by decide
  digits := List.all_eq_true.mp (by decide)
  bound := by decide

/-- A delegated prefix that is valid for an hour. -/
def delegated (preferred : Lifetime) : PrefixRequest where
  pfx := "2001:db8::/56".toList
  plain := by simp [isBlank]
  lifetimes := some (hour, some preferred)

theorem agrees_iff_hour : (delegated hour).item ∈ pushPrefixes (protoPrefix6 [delegated hour]) ∧
    Agrees 100 (delegated hour) :=
  (agrees_iff (by decide) [delegated hour] (delegated hour) List.mem_cons_self).mpr
    ⟨⟨{ addr := 0x20010db8000000000000000000000000, length := 56 }, by decide +kernel⟩,
      by decide +kernel, by
        intro valid preferred h
        cases h
        exact ⟨rfl, by decide +kernel⟩⟩

/-- A prefix that is to be deprecated after half an hour is preferred for an hour and expires
after half of that. -/
theorem lifetimes_swapped :
    pushPrefixes (protoPrefix6 [delegated halfHour]) = ["2001:db8::/56,3600,1800".toList] ∧
      ¬Agrees 100 (delegated halfHour) := by
  refine ⟨by decide +kernel, ?_⟩
  intro h
  have heq := ((agrees_lifetimes_iff rfl (by decide)).mp h).2.2.1
  revert heq
  decide

end Netifd
