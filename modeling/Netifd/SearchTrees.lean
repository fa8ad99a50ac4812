import Mathlib.Data.List.Basic
import Mathlib.Data.Int.Notation
import Mathlib.Tactic.Common

/-!
# Search trees

Search in a binary tree by the sign of a comparison with the key. Whatever the shape of the
tree, what it holds is found if its elements in order are in the order that the comparison
tells.
-/

namespace SearchTrees

/-- A binary tree with elements at its nodes. -/
inductive Tree (α : Type)
  | leaf
  | node (left : Tree α) (value : α) (right : Tree α)

namespace Tree

variable {α : Type}

/-- The elements from left to right. -/
def inorder : Tree α → List α
  | leaf => []
  | node left value right => left.inorder ++ value :: right.inorder

/-- Go left where the comparison with the key is negative, right where it is positive. -/
def find (cmp : α → ℤ) : Tree α → Option α
  | leaf => none
  | node left value right =>
    if cmp value < 0 then left.find cmp
    else if 0 < cmp value then right.find cmp
    else some value

theorem mem_of_find {cmp : α → ℤ} {tree : Tree α} {a : α} (h : tree.find cmp = some a) :
    a ∈ tree.inorder ∧ cmp a = 0 := by
  induction tree with
  | leaf => simp [find] at h
  | node left value right ihLeft ihRight =>
    rw [find] at h
    split_ifs at h with hneg hpos
    · exact ⟨List.mem_append_left _ (ihLeft h).1, (ihLeft h).2⟩
    · exact ⟨List.mem_append_right _ (List.mem_cons_of_mem _ (ihRight h).1), (ihRight h).2⟩
    · obtain rfl := Option.some.inj h
      exact ⟨List.mem_append_right _ List.mem_cons_self, by omega⟩

/-- A key is found that is less than all elements behind its own and greater than all in
front of it. -/
theorem find_of_inorder {cmp : α → ℤ} {before after : List α} {a : α} (heq : cmp a = 0)
    (hbefore : ∀ b ∈ before, 0 < cmp b) (hafter : ∀ b ∈ after, cmp b < 0) {tree : Tree α}
    (h : tree.inorder = before ++ a :: after) : tree.find cmp = some a := by
  induction tree generalizing before after with
  | leaf => simp [inorder] at h
  | node left value right ihLeft ihRight =>
    rw [inorder, List.append_eq_append_iff] at h
    rcases h with ⟨mid, hmid, hrest⟩ | ⟨mid, hmid, hrest⟩
    · cases mid with
      | nil =>
        -- the root is the element
        obtain ⟨rfl, rfl⟩ := List.cons.inj hrest
        simp [find, heq]
      | cons b mid =>
        -- the root is in front of the element
        obtain ⟨rfl, hright⟩ := List.cons.inj hrest
        have hpos : 0 < cmp value := hbefore value (by simp [hmid])
        have hfound := ihRight (fun b hb => hbefore b (by simp [hmid, hb])) hafter hright
        have hnot : ¬cmp value < 0 := by omega
        simp [find, hpos, hnot, hfound]
    · cases mid with
      | nil =>
        obtain ⟨rfl, rfl⟩ := List.cons.inj hrest
        simp [find, heq]
      | cons b mid =>
        -- the root is behind the element
        obtain ⟨rfl, hafter'⟩ := List.cons.inj hrest
        have hneg : cmp value < 0 := hafter value (by simp [hafter'])
        have hfound := ihLeft hbefore (fun b hb => hafter b (by simp [hafter', hb])) hmid
        simp [find, hneg, hfound]

theorem find_of_sorted {lt : α → α → Prop} {cmp : α → ℤ} {a : α} {tree : Tree α}
    (hsorted : tree.inorder.Pairwise lt) (hmem : a ∈ tree.inorder) (heq : cmp a = 0)
    (hbefore : ∀ b, lt b a → 0 < cmp b) (hafter : ∀ b, lt a b → cmp b < 0) :
    tree.find cmp = some a := by
  obtain ⟨before, after, hlist⟩ := List.append_of_mem hmem
  rw [hlist, List.pairwise_append, List.pairwise_cons] at hsorted
  obtain ⟨_, ⟨hrest, _⟩, hcross⟩ := hsorted
  apply find_of_inorder heq _ _ hlist
  · exact fun b hb => hbefore b (hcross b hb a List.mem_cons_self)
  · exact fun b hb => hafter b (hrest b hb)

end Tree

end SearchTrees
