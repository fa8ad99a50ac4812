import Mathlib.Data.Set.Insert
import Mathlib.Data.List.Induction
import Mathlib.Data.List.Nodup

/-!
# Reclaiming in one pass

Nodes are used by references, and a reference goes away together with the node that it is a
part of. One pass over a list of nodes takes away each node that is not used any more when its
turn comes. No unused node is left over if and only if the references to whatever can be taken
away at all are parts of nodes that come earlier.
-/

namespace OrderedReclaim

/-- Nodes with the references that use them and the references that they consist of. -/
structure RefGraph (δ υ : Type*) where
  keep : Set δ
  users : δ → Set υ
  parts : δ → Set υ

namespace RefGraph

variable {δ υ : Type*} (G : RefGraph δ υ)

/-- Nothing uses the node but what was part of the nodes that have been taken away. -/
def Idle (taken : Set δ) (d : δ) : Prop :=
  d ∉ G.keep ∧ ∀ u ∈ G.users d, ∃ e ∈ taken, u ∈ G.parts e

/-- The nodes that have been taken away after a pass. -/
def reclaim : Set δ → List δ → Set δ
  | taken, [] => taken
  | taken, d :: l => reclaim (taken ∪ {x | x = d ∧ G.Idle taken x}) l

/-- What could be taken away if there was no order: no reference to it is there for good. -/
inductive Dead (l : List δ) : δ → Prop
  | intro {d : δ} (owner : υ → δ) (mem : d ∈ l) (drop : d ∉ G.keep)
      (part : ∀ u ∈ G.users d, u ∈ G.parts (owner u))
      (dead : ∀ u ∈ G.users d, Dead l (owner u)) : Dead l d

/-- Whatever can be taken away is used only by what comes earlier. -/
def UsersFirst (l : List δ) : Prop :=
  ∀ d, G.Dead l d → ∀ u ∈ G.users d, ∃ e, G.Dead l e ∧ [e, d].Sublist l ∧ u ∈ G.parts e

variable {G}

theorem reclaim_append (taken : Set δ) (l l' : List δ) :
    G.reclaim taken (l ++ l') = G.reclaim (G.reclaim taken l) l' := by
  induction l generalizing taken with
  | nil => rfl
  | cons d l ih => exact ih _

theorem subset_reclaim (taken : Set δ) (l : List δ) : taken ⊆ G.reclaim taken l := by
  induction l generalizing taken with
  | nil => exact subset_rfl
  | cons d l ih => exact Set.subset_union_left.trans (ih _)

theorem mem_of_mem_reclaim {taken : Set δ} {l : List δ} {d : δ} (h : d ∈ G.reclaim taken l) :
    d ∈ taken ∨ d ∈ l := by
  induction l generalizing taken with
  | nil => exact .inl h
  | cons x l ih =>
    obtain (htaken | ⟨rfl, _⟩) | hl := ih h
    · exact .inl htaken
    · exact .inr List.mem_cons_self
    · exact .inr (List.mem_cons_of_mem x hl)

theorem mem_reclaim_iff {pre suf : List δ} {d : δ} (hl : (pre ++ d :: suf).Nodup) :
    d ∈ G.reclaim ∅ (pre ++ d :: suf) ↔ G.Idle (G.reclaim ∅ pre) d := by
  obtain ⟨_, hcons, hdisjoint⟩ := List.nodup_append.mp hl
  have hpre : d ∉ pre := fun hd => hdisjoint d hd d List.mem_cons_self rfl
  rw [reclaim_append]
  constructor
  · intro h
    obtain (htaken | ⟨_, hidle⟩) | hsuf := @mem_of_mem_reclaim δ υ G (_ ∪ _) suf d h
    · obtain hempty | hd := mem_of_mem_reclaim htaken
      · cases hempty
      · exact absurd hd hpre
    · exact hidle
    · exact absurd hsuf (List.nodup_cons.mp hcons).1
  · intro hidle
    exact subset_reclaim _ suf (.inr ⟨rfl, hidle⟩)

theorem dead_of_mem_reclaim {l whole : List δ} {taken : Set δ} (hl : l ⊆ whole)
    (htaken : ∀ d ∈ taken, G.Dead whole d) : ∀ d ∈ G.reclaim taken l, G.Dead whole d := by
  classical
  induction l generalizing taken with
  | nil => exact htaken
  | cons x l ih =>
    apply ih (fun d hd => hl (List.mem_cons_of_mem x hd))
    rintro d (hd | ⟨rfl, hidle⟩)
    · exact htaken d hd
    · choose owner hmem hpart using hidle.2
      refine .intro (fun u => if h : u ∈ G.users d then owner u h else d)
        (hl List.mem_cons_self) hidle.1 ?_ ?_
      · intro u hu
        simpa [hu] using hpart u hu
      · intro u hu
        simpa [hu] using htaken _ (hmem u hu)

theorem dead_of_idle {l : List δ} {d : δ} (hd : d ∈ l) (h : G.Idle (G.reclaim ∅ l) d) :
    G.Dead l d := by
  have hdead : ∀ e ∈ G.reclaim ∅ l, G.Dead l e :=
    dead_of_mem_reclaim (List.Subset.refl l) fun e he => absurd he (Set.notMem_empty e)
  -- one more visit would take it away
  have hagain : d ∈ G.reclaim (G.reclaim ∅ l) [d] := .inr ⟨rfl, h⟩
  exact dead_of_mem_reclaim ((List.cons_subset.mpr ⟨hd, List.nil_subset l⟩)) hdead d hagain

theorem mem_of_pair_sublist {pre suf : List δ} {e d : δ} (hl : (pre ++ d :: suf).Nodup)
    (h : [e, d].Sublist (pre ++ d :: suf)) : e ∈ pre := by
  obtain ⟨_, hcons, hdisjoint⟩ := List.nodup_append.mp hl
  have hsuf : d ∉ suf := (List.nodup_cons.mp hcons).1
  obtain ⟨l₁, l₂, hsplit, hpre, hrest⟩ := List.sublist_append_iff.mp h
  match l₁, hsplit with
  | [], hsplit =>
    rw [List.nil_append] at hsplit
    rw [← hsplit] at hrest
    cases hrest with
    | cons _ hrest => exact absurd (hrest.subset (by simp)) hsuf
    | cons_cons _ hrest => exact absurd (hrest.subset (by simp)) hsuf
  | x :: l₁, hsplit =>
    obtain ⟨rfl, _⟩ := List.cons.inj hsplit
    exact hpre.subset List.mem_cons_self

theorem pair_sublist {pre suf : List δ} {e d : δ} (he : e ∈ pre) :
    [e, d].Sublist (pre ++ d :: suf) := by
  have hpair : ([e] ++ [d]).Sublist (pre ++ d :: suf) :=
    (List.singleton_sublist.mpr he).append (List.singleton_sublist.mpr List.mem_cons_self)
  exact hpair

theorem mem_reclaim_of_usersFirst {l : List δ} (hl : l.Nodup) (h : G.UsersFirst l) {pre : List δ} :
    ∀ suf, l = pre ++ suf → ∀ d ∈ pre, G.Dead l d → d ∈ G.reclaim ∅ pre := by
  induction pre using List.reverseRecOn with
  | nil =>
    intro suf _ d hd
    cases hd
  | append_singleton pre x ih =>
    intro suf hsplit d hd hdead
    have hsplit' : l = pre ++ x :: suf := by simpa using hsplit
    have hbefore := ih (x :: suf) hsplit'
    rw [reclaim_append]
    rcases List.mem_append.mp hd with hd | hd
    · exact subset_reclaim _ [x] (hbefore d hd hdead)
    · obtain rfl := List.mem_singleton.mp hd
      refine .inr ⟨rfl, ?_, ?_⟩
      · obtain ⟨_, _, hdrop, _, _⟩ := hdead
        exact hdrop
      · intro u hu
        obtain ⟨e, he, hfirst, hpart⟩ := h d hdead u hu
        rw [hsplit'] at hfirst hl
        exact ⟨e, hbefore e (mem_of_pair_sublist hl hfirst) he, hpart⟩

theorem mem_reclaim_of_complete {l : List δ}
    (h : ∀ d ∈ l, G.Idle (G.reclaim ∅ l) d → d ∈ G.reclaim ∅ l) {d : δ} (hd : G.Dead l d) :
    d ∈ G.reclaim ∅ l := by
  induction hd with
  | @intro d owner mem drop part dead ih =>
    apply h d mem
    exact ⟨drop, fun u hu => ⟨owner u, ih u hu, part u hu⟩⟩

theorem complete_iff {l : List δ} (hl : l.Nodup) :
    (∀ d ∈ l, G.Idle (G.reclaim ∅ l) d → d ∈ G.reclaim ∅ l) ↔ G.UsersFirst l := by
  constructor
  · intro h d hd u hu
    have htaken := mem_reclaim_of_complete h hd
    obtain hempty | hmem := mem_of_mem_reclaim htaken
    · cases hempty
    obtain ⟨pre, suf, rfl⟩ := List.append_of_mem hmem
    obtain ⟨e, he, hpart⟩ := ((mem_reclaim_iff hl).mp htaken).2 u hu
    obtain hempty | hpre := mem_of_mem_reclaim he
    · cases hempty
    have hdead : G.Dead (pre ++ d :: suf) e := by
      have hsub : pre ⊆ pre ++ d :: suf := List.subset_append_left pre _
      exact dead_of_mem_reclaim hsub (fun e he => absurd he (Set.notMem_empty e)) e he
    exact ⟨e, hdead, pair_sublist hpre, hpart⟩
  · intro h d hd hidle
    exact mem_reclaim_of_usersFirst hl h [] (List.append_nil l).symm d hd (dead_of_idle hd hidle)

end RefGraph

end OrderedReclaim
