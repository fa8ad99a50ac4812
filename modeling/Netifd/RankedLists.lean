import Mathlib.Data.List.Sort
import Mathlib.Data.List.Perm.Subperm
import Mathlib.Tactic.Common

/-!
# Lists by rank

A list in which everything has its place by a rank, where what comes later is put behind what has
the same rank, and from which the first entry with some property is taken.
-/

namespace RankedLists

variable {α : Type} (rank : α → ℕ)

/-- The entries in the order of their ranks. -/
def Ranked (l : List α) : Prop := l.Pairwise fun a b => rank a ≤ rank b

instance (l : List α) : Decidable (Ranked rank l) :=
  inferInstanceAs (Decidable (List.Pairwise _ _))

variable {rank}

theorem Ranked.sublist {l l' : List α} (h : Ranked rank l) (hl : l'.Sublist l) : Ranked rank l' :=
  List.Pairwise.sublist hl h

theorem Ranked.orderedInsert {l : List α} (h : Ranked rank l) (a : α) :
    Ranked rank (l.orderedInsert (fun a b => rank a < rank b) a) := by
  induction l with
  | nil => exact List.pairwise_singleton _ _
  | cons b l ih =>
    obtain ⟨hb, hl⟩ := List.pairwise_cons.mp h
    rw [List.orderedInsert]
    split_ifs with hlt
    · refine List.pairwise_cons.mpr ⟨fun c hc => ?_, h⟩
      rcases List.mem_cons.mp hc with rfl | hc
      · exact hlt.le
      · exact hlt.le.trans (hb c hc)
    · refine List.pairwise_cons.mpr ⟨fun c hc => ?_, ih hl⟩
      rcases List.mem_cons.mp ((List.perm_orderedInsert _ a l).subset hc) with rfl | hc
      · exact not_lt.mp hlt
      · exact hb c hc

theorem perm_eraseP {p : α → Bool} {l : List α} {a : α} (h : l.find? p = some a) :
    l.Perm (a :: l.eraseP p) := by
  obtain ⟨ha, before, after, rfl, hbefore⟩ := List.find?_eq_some_iff_append.mp h
  have hskip : ∀ b ∈ before, ¬p b = true := fun b hb => by simpa using hbefore b hb
  rw [List.eraseP_append_right _ hskip, List.eraseP_cons_of_pos ha]
  exact List.perm_middle

theorem Ranked.sublist_of_subperm {l l' : List α} (h : Ranked rank l)
    (hl' : l'.Pairwise fun a b => rank a < rank b) (hsub : l'.Subperm l) : l'.Sublist l := by
  induction l generalizing l' with
  | nil => rw [List.subperm_nil.mp hsub]
  | cons b l ih =>
    obtain ⟨hb, hl⟩ := List.pairwise_cons.mp h
    cases l' with
    | nil => exact List.nil_sublist _
    | cons a l' =>
      obtain ⟨ha, htail⟩ := List.pairwise_cons.mp hl'
      by_cases hab : a = b
      · subst hab
        exact (ih hl htail (List.subperm_cons a |>.mp hsub)).cons_cons a
      · -- the head of the list is none of these, as it would have to come after the first
        have hbnot : b ∉ a :: l' := by
          intro hmem
          have hbl := (List.mem_cons.mp hmem).resolve_left (Ne.symm hab)
          have hal : a ∈ l :=
            (List.mem_cons.mp (hsub.subset List.mem_cons_self)).resolve_left hab
          exact absurd (hb a hal) (not_le.mpr (ha b hbl))
        classical
        have htail := hsub.erase b
        rw [List.erase_of_not_mem hbnot, List.erase_cons_head] at htail
        exact (ih hl hl' htail).cons b

theorem eraseP_eq_filter {p : α → Bool} {l : List α}
    (h : l.Pairwise fun a b => ¬(p a = true ∧ p b = true)) :
    l.eraseP p = l.filter fun a => !p a := by
  induction l with
  | nil => rfl
  | cons a l ih =>
    obtain ⟨ha, hl⟩ := List.pairwise_cons.mp h
    cases hp : p a
    · rw [List.eraseP_cons_of_neg (by simp [hp]), List.filter_cons_of_pos (by simp [hp]), ih hl]
    · rw [List.eraseP_cons_of_pos hp, List.filter_cons_of_neg (by simp [hp])]
      refine (List.filter_eq_self.mpr fun b hb => ?_).symm
      have hnot : ¬p b = true := fun hpb => ha b hb ⟨hp, hpb⟩
      simp [hnot]

end RankedLists
