import Mathlib.Logic.Function.Basic
import Mathlib.Data.List.Basic
import Mathlib.Tactic.Common

/-!
# A table that mirrors a list

A table of values by keys that is written and erased entry by entry, and a list of pairs of
keys and values that the table is meant to hold. For each way of writing the table it is said
when, and only when, it still holds what a new list demands.
-/

namespace MirroredTable

variable {κ υ : Type} [DecidableEq κ]

/-- A table of values by keys. -/
abbrev Table (κ υ : Type) := κ → Option υ

/-- Write the value of a key, whatever it was. -/
def write (t : Table κ υ) (k : κ) (v : υ) : Table κ υ := Function.update t k (some v)

/-- Erase a key. -/
def erase (t : Table κ υ) (k : κ) : Table κ υ := Function.update t k none

theorem write_erase (t : Table κ υ) (k : κ) (v : υ) :
    write (erase t k) k v = write t k v := Function.update_idem _ _ _

omit [DecidableEq κ] in
/-- The table holds the pairs of the list and nothing else. -/
def Mirrors (t : Table κ υ) (l : List (κ × υ)) : Prop := ∀ k v, t k = some v ↔ (k, v) ∈ l

omit [DecidableEq κ] in
theorem Mirrors.congr {t : Table κ υ} {l l' : List (κ × υ)} (h : Mirrors t l)
    (hl : ∀ p, p ∈ l' ↔ p ∈ l) : Mirrors t l' := by
  intro k v
  rw [h k v, hl]

omit [DecidableEq κ] in
theorem Mirrors.functional {t : Table κ υ} {l : List (κ × υ)} (h : Mirrors t l) {k : κ}
    {v v' : υ} (hv : (k, v) ∈ l) (hv' : (k, v') ∈ l) : v = v' := by
  have hsome := (h k v).mpr hv
  rw [(h k v').mpr hv'] at hsome
  exact (Option.some.inj hsome).symm

omit [DecidableEq κ] in
theorem mirrors_empty : Mirrors (fun _ => none : Table κ υ) [] := by
  intro k v
  simp

omit [DecidableEq κ] in
theorem Mirrors.unique {t : Table κ υ} {l l' : List (κ × υ)} (h : Mirrors t l)
    (h' : Mirrors t l') (p : κ × υ) : p ∈ l' ↔ p ∈ l := by
  rw [← h p.1 p.2, ← h' p.1 p.2]

theorem mirrors_write_iff {t : Table κ υ} {l l' : List (κ × υ)} {k : κ} {v : υ}
    (h : Mirrors t l) (hother : ∀ k' v', k' ≠ k → ((k', v') ∈ l' ↔ (k', v') ∈ l))
    (hmem : (k, v) ∈ l') :
    Mirrors (write t k v) l' ↔ ∀ v', (k, v') ∈ l' → v' = v := by
  constructor
  · intro hmirrors v' hv'
    exact hmirrors.functional hv' hmem
  · intro hvalue k' v'
    rcases eq_or_ne k' k with rfl | hne
    · simp only [write, Function.update_self, Option.some.injEq]
      constructor
      · rintro rfl
        exact hmem
      · intro hv'
        exact (hvalue v' hv').symm
    · simp only [write, Function.update_of_ne hne]
      rw [h k' v', hother k' v' hne]

theorem mirrors_replace_iff {t : Table κ υ} {l l' : List (κ × υ)} {kOld k : κ} {v : υ}
    (h : Mirrors t l) (hne : kOld ≠ k)
    (hother : ∀ k' v', k' ≠ kOld → k' ≠ k → ((k', v') ∈ l' ↔ (k', v') ∈ l))
    (hmem : (k, v) ∈ l') :
    Mirrors (write (erase t kOld) k v) l' ↔
      (∀ v', (k, v') ∈ l' → v' = v) ∧ ∀ v', (kOld, v') ∉ l' := by
  constructor
  · intro hmirrors
    refine ⟨fun v' hv' => hmirrors.functional hv' hmem, fun v' hv' => ?_⟩
    have hsome := (hmirrors kOld v').mpr hv'
    simp [write, erase, hne] at hsome
  · rintro ⟨hvalue, hgone⟩ k' v'
    rcases eq_or_ne k' k with rfl | hk
    · simp only [write, Function.update_self, Option.some.injEq]
      constructor
      · rintro rfl
        exact hmem
      · intro hv'
        exact (hvalue v' hv').symm
    · rcases eq_or_ne k' kOld with rfl | hkOld
      · simpa [write, erase, hk] using hgone v'
      · simp only [write, erase, Function.update_of_ne hk, Function.update_of_ne hkOld]
        rw [h k' v', hother k' v' hkOld hk]

theorem eraseAll_apply (t : Table κ υ) (ks : List κ) (k : κ) :
    ks.foldl erase t k = if k ∈ ks then none else t k := by
  induction ks generalizing t with
  | nil => simp
  | cons k' ks ih =>
    rw [List.foldl_cons, ih]
    rcases eq_or_ne k k' with rfl | hne
    · simp [erase]
    · simp [erase, hne]

theorem mirrors_eraseAll_iff {t : Table κ υ} {l l' : List (κ × υ)} {ks : List κ}
    (h : Mirrors t l) (hother : ∀ k v, k ∉ ks → ((k, v) ∈ l' ↔ (k, v) ∈ l)) :
    Mirrors (ks.foldl erase t) l' ↔ ∀ k ∈ ks, ∀ v, (k, v) ∉ l' := by
  constructor
  · intro hmirrors k hk v hv
    have hsome := (hmirrors k v).mpr hv
    simp [eraseAll_apply, hk] at hsome
  · intro hgone k v
    rw [eraseAll_apply]
    split_ifs with hk
    · simpa using hgone k hk v
    · rw [h k v, hother k v hk]

theorem mirrors_eraseAll_exact_iff {t : Table κ υ} {l l' : List (κ × υ)} {ks : List κ}
    (h : Mirrors t l) : Mirrors (ks.foldl erase t) l' ↔
      (∀ k ∈ ks, ∀ v, (k, v) ∉ l') ∧ ∀ k, k ∉ ks → ∀ v, (k, v) ∈ l' ↔ (k, v) ∈ l := by
  constructor
  · intro hmirrors
    constructor
    · intro k hk v hv
      have hsome := (hmirrors k v).mpr hv
      simp [eraseAll_apply, hk] at hsome
    · intro k hk v
      rw [← hmirrors k v, eraseAll_apply, if_neg hk, h k v]
  · rintro ⟨hgone, hrest⟩ k v
    rw [eraseAll_apply]
    split_ifs with hk
    · simpa using hgone k hk v
    · rw [h k v, hrest k hk v]

theorem mirrors_writeAll_iff {t : Table κ υ} {l l' ps : List (κ × υ)} (h : Mirrors t l)
    (hmem : ∀ p, p ∈ l' ↔ p ∈ ps ∨ p ∈ l) :
    Mirrors (ps.foldl (fun t p => write t p.1 p.2) t) l' ↔
      ∀ p ∈ ps, ∀ q ∈ l', q.1 = p.1 → q.2 = p.2 := by
  constructor
  · intro hmirrors p hp q hq hkey
    have hp' := (hmem p).mpr (.inl hp)
    obtain ⟨k, v⟩ := q
    obtain rfl : k = p.1 := hkey
    exact hmirrors.functional hq hp'
  · intro hagree
    induction ps generalizing t l with
    | nil => exact h.congr fun p => by simpa using hmem p
    | cons p ps ih =>
      have hfirst : Mirrors (write t p.1 p.2) (p :: l) := by
        apply (mirrors_write_iff h ?_ List.mem_cons_self).mpr
        · intro v hv
          refine hagree p List.mem_cons_self (p.1, v) ((hmem _).mpr ?_) rfl
          rcases List.mem_cons.mp hv with hp | hl
          · exact .inl (hp ▸ List.mem_cons_self)
          · exact .inr hl
        · intro k v hne
          have hp : (k, v) ≠ p := fun heq => hne (congrArg Prod.fst heq)
          simp [hp]
      refine ih hfirst ?_ fun q hq => hagree q (List.mem_cons_of_mem p hq)
      intro q
      rw [hmem q, List.mem_cons, List.mem_cons]
      tauto

section Entries

variable {α : Type} (live : α → Bool) (key : α → κ) (val : α → υ)

omit [DecidableEq κ] in
/-- The keys and values of the live entries of a list. -/
def livePairs (l : List α) : List (κ × υ) := (l.filter live).map fun a => (key a, val a)

variable {live key val}

omit [DecidableEq κ] in
theorem mem_livePairs {l : List α} {k : κ} {v : υ} : (k, v) ∈ livePairs live key val l ↔
    ∃ a ∈ l, live a = true ∧ key a = k ∧ val a = v := by
  simp [livePairs, and_assoc]

omit [DecidableEq κ] in
theorem livePairs_perm {l l' : List α} (h : l.Perm l') (p : κ × υ) :
    p ∈ livePairs live key val l' ↔ p ∈ livePairs live key val l := by
  obtain ⟨k, v⟩ := p
  simp only [mem_livePairs, h.mem_iff]

omit [DecidableEq κ] in
theorem livePairs_cons_of_not_live {a : α} (h : live a = false) (l : List α) :
    livePairs live key val (a :: l) = livePairs live key val l := by
  simp [livePairs, h]

omit [DecidableEq κ] in
theorem mem_livePairs_cons_self {a : α} (h : live a = true) (l : List α) :
    (key a, val a) ∈ livePairs live key val (a :: l) :=
  mem_livePairs.mpr ⟨a, List.mem_cons_self, h, rfl, rfl⟩

omit [DecidableEq κ] in
theorem livePairs_cons_of_ne {a : α} {l : List α} {k : κ} {v : υ} (h : k ≠ key a) :
    (k, v) ∈ livePairs live key val (a :: l) ↔ (k, v) ∈ livePairs live key val l := by
  simp only [mem_livePairs, List.mem_cons, exists_eq_or_imp]
  constructor
  · rintro (⟨_, heq, _⟩ | hmem)
    · exact absurd heq.symm h
    · exact hmem
  · exact .inr

omit [DecidableEq κ] in
theorem forall_livePairs_cons_iff {a : α} (h : live a = true) (l : List α) :
    (∀ v, (key a, v) ∈ livePairs live key val (a :: l) → v = val a) ↔
      ∀ b ∈ l, live b = true → key b = key a → val b = val a := by
  simp only [mem_livePairs, List.mem_cons, exists_eq_or_imp, h]
  constructor
  · intro hall b hb hlive hkey
    exact hall (val b) (.inr ⟨b, hb, hlive, hkey, rfl⟩)
  · rintro hall v (⟨-, -, rfl⟩ | ⟨b, hb, hlive, hkey, rfl⟩)
    · rfl
    · exact hall b hb hlive hkey

omit [DecidableEq κ] in
theorem forall_notMem_livePairs_iff {l : List α} {k : κ} :
    (∀ v, (k, v) ∉ livePairs live key val l) ↔ ∀ b ∈ l, live b = true → key b ≠ k := by
  simp only [mem_livePairs, not_exists, not_and]
  constructor
  · intro hall b hb hlive hkey
    exact hall (val b) b hb hlive hkey rfl
  · intro hall v b hb hlive hkey
    exact absurd hkey (hall b hb hlive)

omit [DecidableEq κ] in
theorem livePairs_eq_nil {l : List α} (h : ∀ a ∈ l, live a = false) :
    livePairs live key val l = [] := by
  simpa [livePairs] using h

theorem foldl_remove {f : Table κ υ → α → Table κ υ}
    (hf : ∀ t a, f t a = if live a then erase t (key a) else t) (t : Table κ υ) (l : List α) :
    l.foldl f t = ((l.filter live).map key).foldl erase t := by
  induction l generalizing t with
  | nil => rfl
  | cons a l ih =>
    rw [List.foldl_cons, ih, hf]
    cases ha : live a <;> simp [ha]

theorem mirrors_remove_iff {f : Table κ υ → α → Table κ υ}
    (hf : ∀ t a, f t a = if live a then erase t (key a) else t) {t : Table κ υ}
    {l gone kept : List α} (h : Mirrors t (livePairs live key val l))
    (hl : ∀ a, a ∈ l ↔ a ∈ gone ∨ a ∈ kept) :
    Mirrors (gone.foldl f t) (livePairs live key val kept) ↔
      ∀ a ∈ gone, live a = true → ∀ b ∈ kept, live b = true → key b ≠ key a := by
  rw [foldl_remove hf, mirrors_eraseAll_iff h]
  · simp only [List.mem_map, List.mem_filter, mem_livePairs]
    constructor
    · intro hkeys a ha halive b hb hblive heq
      exact hkeys (key a) ⟨a, ⟨ha, halive⟩, rfl⟩ (val b) ⟨b, hb, hblive, heq, rfl⟩
    · rintro hshare _ ⟨a, ⟨ha, halive⟩, rfl⟩ _ ⟨b, hb, hblive, heq, _⟩
      exact hshare a ha halive b hb hblive heq
  · intro k v hk
    simp only [mem_livePairs]
    constructor
    · rintro ⟨b, hb, hrest⟩
      exact ⟨b, (hl b).mpr (.inr hb), hrest⟩
    · rintro ⟨b, hb, hblive, rfl, rfl⟩
      rcases (hl b).mp hb with hgone | hkept
      · exact absurd (List.mem_map_of_mem (List.mem_filter.mpr ⟨hgone, hblive⟩)) hk
      · exact ⟨b, hkept, hblive, rfl, rfl⟩

/-- Only live entries that are recorded are erased when they are removed. What is left is
mirrored just if these share their keys with no live entry that stays, and the others that go
have theirs erased with a recorded one or share it with one that stays. -/
theorem mirrors_removeRecorded_iff {recorded : α → Bool} {t : Table κ Unit} {l gone kept : List α}
    (h : Mirrors t (livePairs live key (fun _ => ()) l))
    (hrecorded : ∀ a ∈ l, recorded a = true → live a = true)
    (hl : ∀ a, a ∈ l ↔ a ∈ gone ∨ a ∈ kept) :
    Mirrors (((gone.filter recorded).map key).foldl erase t)
      (livePairs live key (fun _ => ()) kept) ↔
      ∀ a ∈ gone, live a = true →
        (recorded a = true → ∀ b ∈ kept, live b = true → key b ≠ key a) ∧
        (recorded a = false → (∃ b ∈ gone, recorded b = true ∧ key b = key a) ∨
          ∃ b ∈ kept, live b = true ∧ key b = key a) := by
  have herased : ∀ k, k ∈ (gone.filter recorded).map key ↔
      ∃ b ∈ gone, recorded b = true ∧ key b = k := by
    intro k
    simp [and_assoc]
  rw [mirrors_eraseAll_exact_iff h]
  constructor
  · rintro ⟨hgone, hrest⟩ a ha halive
    constructor
    · intro hrec b hb hblive heq
      exact hgone _ ((herased _).mpr ⟨a, ha, hrec, rfl⟩) ()
        (mem_livePairs.mpr ⟨b, hb, hblive, heq, rfl⟩)
    · intro _
      by_cases hk : key a ∈ (gone.filter recorded).map key
      · exact .inl ((herased _).mp hk)
      · have hmem := (hrest _ hk ()).mpr
          (mem_livePairs.mpr ⟨a, (hl a).mpr (.inl ha), halive, rfl, rfl⟩)
        obtain ⟨b, hb, hblive, heq, -⟩ := mem_livePairs.mp hmem
        exact .inr ⟨b, hb, hblive, heq⟩
  · intro hall
    constructor
    · intro k hk v hv
      obtain ⟨a, ha, hrec, rfl⟩ := (herased k).mp hk
      obtain ⟨b, hb, hblive, heq, -⟩ := mem_livePairs.mp hv
      have halive := hrecorded a ((hl a).mpr (.inl ha)) hrec
      exact (hall a ha halive).1 hrec b hb hblive heq
    · intro k hk v
      simp only [mem_livePairs]
      constructor
      · rintro ⟨b, hb, hrest⟩
        exact ⟨b, (hl b).mpr (.inr hb), hrest⟩
      · rintro ⟨a, ha, halive, rfl, -⟩
        rcases (hl a).mp ha with hgone | hkept
        · have hunrec : recorded a = false := by
            rw [← Bool.not_eq_true]
            exact fun hrec => hk ((herased _).mpr ⟨a, hgone, hrec, rfl⟩)
          rcases (hall a hgone halive).2 hunrec with hother | ⟨b, hb, hblive, heq⟩
          · exact absurd ((herased _).mpr hother) hk
          · exact ⟨b, hb, hblive, heq, trivial⟩
        · exact ⟨a, hkept, halive, rfl, trivial⟩

section Put

variable {t : Table κ υ} {l rest : List α} {old : Option α} {new : α}

omit [DecidableEq κ] in
theorem livePairs_put_of_ne (hl : l.Perm (old.toList ++ rest)) {k : κ} {v : υ}
    (hold : ∀ o ∈ old, k ≠ key o) (h : k ≠ key new) :
    (k, v) ∈ livePairs live key val (new :: rest) ↔ (k, v) ∈ livePairs live key val l := by
  rw [livePairs_cons_of_ne h, ← livePairs_perm hl]
  cases old with
  | none => rfl
  | some o => exact (livePairs_cons_of_ne (hold o rfl)).symm

omit [DecidableEq κ] in
theorem mirrors_put_dead (h : Mirrors t (livePairs live key val l))
    (hl : l.Perm (old.toList ++ rest)) (hdead : live new = false)
    (hold : ∀ o ∈ old, live o = false) :
    Mirrors t (livePairs live key val (new :: rest)) := by
  apply h.congr
  intro p
  rw [livePairs_cons_of_not_live hdead, ← livePairs_perm hl]
  cases old with
  | none => rfl
  | some o =>
    rw [Option.toList_some, List.singleton_append, livePairs_cons_of_not_live (hold o rfl)]

/-- A live entry that is written after the key of the one that it replaces has been erased. -/
theorem mirrors_put_replaced_iff (h : Mirrors t (livePairs live key val l))
    (hl : l.Perm (old.toList ++ rest)) (hlive : live new = true) :
    Mirrors (write (old.toList.foldl (fun t o => erase t (key o)) t) (key new) (val new))
        (livePairs live key val (new :: rest)) ↔
      (∀ b ∈ rest, live b = true → key b = key new → val b = val new) ∧
        ∀ o ∈ old, key o ≠ key new → ∀ b ∈ rest, live b = true → key b ≠ key o := by
  have hmem : (key new, val new) ∈ livePairs live key val (new :: rest) :=
    mem_livePairs_cons_self hlive rest
  have hother : ∀ k v, (∀ o ∈ old, k ≠ key o) → k ≠ key new →
      ((k, v) ∈ livePairs live key val (new :: rest) ↔ (k, v) ∈ livePairs live key val l) :=
    fun _ _ => livePairs_put_of_ne hl
  rw [← forall_livePairs_cons_iff hlive]
  cases old with
  | none =>
    rw [Option.toList_none, List.foldl_nil,
      mirrors_write_iff h (fun k v => hother k v nofun) hmem]
    simp
  | some o =>
    rw [Option.toList_some, List.foldl_cons, List.foldl_nil]
    simp only [Option.mem_some_iff, forall_eq']
    rcases eq_or_ne (key o) (key new) with hkey | hkey
    · rw [hkey, write_erase, mirrors_write_iff h (fun k v hne => hother k v ?_ hne) hmem]
      · simp
      · rintro o' ⟨⟩
        rwa [hkey]
    · have hgone : (∀ v, (key o, v) ∉ livePairs live key val (new :: rest)) ↔
          ∀ b ∈ rest, live b = true → key b ≠ key o := by
        rw [← forall_notMem_livePairs_iff]
        exact forall_congr' fun v => not_congr (livePairs_cons_of_ne hkey)
      rw [mirrors_replace_iff h hkey (fun k v hne => hother k v ?_) hmem, hgone]
      · simp only [ne_eq, hkey, not_false_eq_true, forall_const]
      · rintro o' ⟨⟩
        exact hne

theorem mirrors_put_written {t : Table κ Unit} (h : Mirrors t (livePairs live key (fun _ => ()) l))
    (hl : l.Perm (old.toList ++ rest)) (hkey : ∀ o ∈ old, key o = key new)
    (hlive : live new = true) :
    Mirrors (write t (key new) ()) (livePairs live key (fun _ => ()) (new :: rest)) :=
  (mirrors_write_iff h (fun _ _ hne => livePairs_put_of_ne hl (fun o ho => hkey o ho ▸ hne) hne)
    (mem_livePairs_cons_self hlive rest)).mpr fun _ _ => rfl

omit [DecidableEq κ] in
theorem mirrors_put_kept_iff {t : Table κ Unit}
    (h : Mirrors t (livePairs live key (fun _ => ()) l))
    (hl : l.Perm (old.toList ++ rest)) (hkey : ∀ o ∈ old, key o = key new)
    (hlive : live new = true) :
    Mirrors t (livePairs live key (fun _ => ()) (new :: rest)) ↔
      (∃ o ∈ old, live o = true) ∨ ∃ b ∈ rest, live b = true ∧ key b = key new := by
  have hmem : (key new, ()) ∈ livePairs live key (fun _ => ()) (new :: rest) :=
    mem_livePairs_cons_self hlive rest
  have hbefore : (key new, ()) ∈ livePairs live key (fun _ => ()) l ↔
      (∃ o ∈ old, live o = true) ∨ ∃ b ∈ rest, live b = true ∧ key b = key new := by
    simp only [mem_livePairs, hl.mem_iff, List.mem_append, Option.mem_toList]
    constructor
    · rintro ⟨a, ha | ha, halive, heq, -⟩
      · exact .inl ⟨a, ha, halive⟩
      · exact .inr ⟨a, ha, halive, heq⟩
    · rintro (⟨o, ho, holive⟩ | ⟨b, hb, hblive, heq⟩)
      · exact ⟨o, .inl ho, holive, hkey o ho, trivial⟩
      · exact ⟨b, .inr hb, hblive, heq, trivial⟩
  rw [← hbefore]
  constructor
  · intro hm
    exact (h.unique hm _).mp hmem
  · intro hin
    apply h.congr
    rintro ⟨k, v⟩
    rcases eq_or_ne k (key new) with rfl | hne
    · exact ⟨fun _ => hin, fun _ => hmem⟩
    · exact livePairs_put_of_ne hl (fun o ho => hkey o ho ▸ hne) hne

end Put

end Entries

end MirroredTable
