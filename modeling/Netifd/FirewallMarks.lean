import Netifd.RuleSelectors

/-!
# The firewall marks of rules

`iprule_parse_mark` reads each number with `strtoul` and keeps it in an `unsigned int`: of a number
that needs more than 32 bits the lower ones are left.
-/

namespace Netifd.IpRules

/-- The text is a number and nothing else, and `strtoul` with base 0 makes `n` of it. -/
def ReadsAs (s : List Char) (n : ℕ) : Prop :=
  ∃ z, Numeral (s.dropWhile isspace) z ∧ ulongOf z = n

/-- The numbers in the text of a mark: one, or two with a slash between them. -/
inductive MarkText : List Char → ℕ → Option ℕ → Prop
  | mark {s : List Char} {n : ℕ} (hs : ReadsAs s n) : MarkText s n none
  | masked {s t : List Char} {n m : ℕ} (hs : ReadsAs s n) (ht : ReadsAs t m) :
      MarkText (s ++ '/' :: t) n (some m)

/-- The numbers fit into the fields of a rule. -/
def MarkFits (n : ℕ) (m : Option ℕ) : Prop := n < 2 ^ 32 ∧ ∀ k ∈ m, k < 2 ^ 32

/-- What is accepted is a mark, perhaps with a mask, that fits, and these are the values. -/
def MarkSound (mark : List Char) : Prop := ∀ n m,
  ipruleParseMark mark = some (n, m) ↔ MarkText mark n m ∧ MarkFits n m

variable {s t mark : List Char} {n k : ℕ} {m : Option ℕ}

theorem ReadsAs.no_slash (h : ReadsAs s n) : '/' ∉ s := by
  obtain ⟨z, hz, -⟩ := h
  have hrest : '/' ∉ s.dropWhile isspace := hz.not_mem rfl (by decide) (by decide)
  intro hmem
  rw [← List.takeWhile_append_dropWhile (p := isspace) (l := s)] at hmem
  rcases List.mem_append.mp hmem with hblank | hmem
  · cases List.mem_takeWhile_imp hblank
  · exact hrest hmem

theorem ReadsAs.unique (h : ReadsAs s n) (h' : ReadsAs s k) : n = k := by
  obtain ⟨z, hz, rfl⟩ := h
  obtain ⟨z', hz', rfl⟩ := h'
  rw [hz.unique hz']

theorem readsAs_iff : ReadsAs s n ↔ s ≠ [] ∧ strtoulAuto s = (n, []) := by
  constructor
  · rintro ⟨z, hz, rfl⟩
    refine ⟨?_, strtoulAuto_numeral hz⟩
    rintro rfl
    obtain ⟨n, hn, -⟩ := hz
    obtain ⟨c, t, hct, -⟩ := hn.head
    cases hct
  · rintro ⟨hs, hread⟩
    obtain ⟨z, hz⟩ := numeral_of_strtoulAuto hs (congrArg Prod.snd hread)
    rw [strtoulAuto_numeral hz] at hread
    exact ⟨z, hz, congrArg Prod.fst hread⟩

theorem wholeNumber_iff : wholeNumber s = some n ↔ ∃ k, ReadsAs s k ∧ n = k % 2 ^ 32 := by
  simp only [readsAs_iff]
  rw [wholeNumber]
  constructor
  · intro h
    dsimp only at h
    split_ifs at h with hwrong
    obtain ⟨hread, hend⟩ := not_or.mp hwrong
    rw [not_not] at hend
    have hs : s ≠ [] := fun hnil => hread (hend.trans hnil.symm)
    exact ⟨_, ⟨hs, Prod.ext rfl hend⟩, (Option.some.inj h).symm⟩
  · rintro ⟨k, ⟨hs, hread⟩, rfl⟩
    rw [hread]
    exact if_neg (not_or.mpr ⟨hs.symm, fun hne => hne rfl⟩)

theorem ipruleParseMark_iff : ipruleParseMark mark = some (n, m) ↔
    ∃ k l, MarkText mark k l ∧ n = k % 2 ^ 32 ∧ m = l.map (· % 2 ^ 32) := by
  constructor
  · intro h
    by_cases hslash : '/' ∈ mark
    · obtain ⟨s, t, rfl, hs⟩ := List.eq_append_cons_of_mem hslash
      rw [ipruleParseMark, splitSlash_append t hs] at h
      obtain ⟨a, ha, h⟩ := Option.bind_eq_some_iff.mp h
      obtain ⟨b, hb, h⟩ := Option.bind_eq_some_iff.mp h
      cases h
      obtain ⟨k, hk, rfl⟩ := wholeNumber_iff.mp ha
      obtain ⟨l, hl, rfl⟩ := wholeNumber_iff.mp hb
      exact ⟨k, some l, .masked hk hl, rfl, rfl⟩
    · rw [ipruleParseMark, splitSlash_none hslash] at h
      obtain ⟨a, ha, h⟩ := Option.map_eq_some_iff.mp h
      cases h
      obtain ⟨k, hk, rfl⟩ := wholeNumber_iff.mp ha
      exact ⟨k, none, .mark hk, rfl, rfl⟩
  · rintro ⟨k, l, htext, rfl, rfl⟩
    cases htext with
    | mark hs =>
      rw [ipruleParseMark, splitSlash_none hs.no_slash, wholeNumber_iff.mpr ⟨k, hs, rfl⟩]
      rfl
    | @masked s t _ l hs ht =>
      rw [ipruleParseMark, splitSlash_append t hs.no_slash]
      simp only [wholeNumber_iff.mpr ⟨k, hs, rfl⟩, wholeNumber_iff.mpr ⟨l, ht, rfl⟩]
      rfl

theorem MarkText.unique {l : Option ℕ} (h : MarkText mark n m) (h' : MarkText mark k l) :
    n = k ∧ m = l := by
  cases h with
  | mark hs =>
    cases h' with
    | mark hs' => exact ⟨hs.unique hs', rfl⟩
    | masked _ _ => exact absurd (by simp) hs.no_slash
  | masked hs ht =>
    generalize hmark : _ ++ '/' :: _ = mark at h'
    cases h' with
    | mark hs' => exact absurd (by simp [← hmark]) hs'.no_slash
    | masked hs' ht' =>
      obtain ⟨rfl, rfl⟩ := split_unique hmark hs.no_slash hs'.no_slash
      exact ⟨hs.unique hs', congrArg some (ht.unique ht')⟩

theorem MarkFits.mod_eq (h : MarkFits n m) : n % 2 ^ 32 = n ∧ m.map (· % 2 ^ 32) = m := by
  refine ⟨Nat.mod_eq_of_lt h.1, ?_⟩
  cases m with
  | none => rfl
  | some k => exact congrArg some (Nat.mod_eq_of_lt (h.2 k rfl))

/-- The parser is exact for a text just if no number in it is too large for a field. -/
theorem markSound_iff (mark : List Char) :
    MarkSound mark ↔ ∀ n m, MarkText mark n m → MarkFits n m := by
  constructor
  · intro hsound n m htext
    have hparse := ipruleParseMark_iff.mpr ⟨n, m, htext, rfl, rfl⟩
    obtain ⟨htext', hfits⟩ := (hsound _ _).mp hparse
    obtain ⟨hn, hm⟩ := htext.unique htext'
    rwa [← hn, ← hm] at hfits
  · intro hfits n m
    rw [ipruleParseMark_iff]
    constructor
    · rintro ⟨k, l, htext, rfl, rfl⟩
      obtain ⟨hk, hl⟩ := (hfits k l htext).mod_eq
      rw [hk, hl]
      exact ⟨htext, hfits k l htext⟩
    · rintro ⟨htext, hfit⟩
      obtain ⟨hn, hm⟩ := hfit.mod_eq
      exact ⟨n, m, htext, hn.symm, hm.symm⟩

/-- The mark 4294967296 is accepted, as the mark zero. -/
theorem large_mark_accepted : ¬∀ mark, MarkSound mark := by
  intro hsound
  have hread : ReadsAs "4294967296".toList 4294967296 := readsAs_iff.mpr (by decide)
  have hparse := ipruleParseMark_iff.mpr ⟨_, _, .mark hread, rfl, rfl⟩
  have hzero := (((hsound _ _ _).mp hparse).1.unique (.mark hread)).1
  exact absurd hzero (by decide)

end Netifd.IpRules
