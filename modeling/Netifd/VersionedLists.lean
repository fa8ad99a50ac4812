import Mathlib.Data.Int.Notation
import Mathlib.Tactic.Common

/-!
# Lists with versions

The lists of `utils.c` and the trees of `libubox/vlist.h`, which are refilled and then rid of
what was not put in again. A tree is the list of its nodes in their order.
-/

namespace Netifd

/-- A node of a `struct vlist_simple_tree`. -/
structure VlistSimpleNode (α : Type) where
  value : α
  version : ℤ

/-- `struct vlist_simple_tree`. -/
structure VlistSimple (α : Type) where
  list : List (VlistSimpleNode α) := []
  version : ℤ := 1

namespace VlistSimple

variable {α : Type}

/-- The elements without their versions. -/
def values (tree : VlistSimple α) : List α := tree.list.map (·.value)

/-- `vlist_simple_update`. -/
def update (tree : VlistSimple α) : VlistSimple α := { tree with version := tree.version + 1 }

/-- `vlist_simple_add`. -/
def add (tree : VlistSimple α) (value : α) : VlistSimple α :=
  { tree with list := tree.list ++ [{ value, version := tree.version }] }

/-- `vlist_simple_flush`. -/
def flush (tree : VlistSimple α) : VlistSimple α :=
  { tree with list := tree.list.filter fun n =>
      (n.version == tree.version || n.version == -1) && tree.version != -1 }

/-- `vlist_simple_flush_all`. -/
def flushAll (tree : VlistSimple α) : VlistSimple α := flush { tree with version := -1 }

/-- `vlist_simple_replace`: what remains of `dest`. -/
def replace (dest old : VlistSimple α) : VlistSimple α :=
  flush (old.values.foldl add dest.update)

/-- Every element is of the present version, which no flush of everything has made `-1`. -/
structure Settled (tree : VlistSimple α) : Prop where
  pos : 0 < tree.version
  current : ∀ n ∈ tree.list, n.version = tree.version

instance (tree : VlistSimple α) : Decidable tree.Settled :=
  decidable_of_iff (0 < tree.version ∧ ∀ n ∈ tree.list, n.version = tree.version)
    ⟨fun h => ⟨h.1, h.2⟩, fun h => ⟨h.pos, h.current⟩⟩

theorem settled_empty : Settled ({} : VlistSimple α) := ⟨Int.one_pos, by simp⟩

theorem foldl_add (tree : VlistSimple α) (l : List α) :
    l.foldl add tree =
      { tree with list := tree.list ++ l.map fun value => { value, version := tree.version } } := by
  induction l generalizing tree with
  | nil => simp
  | cons a l ih => simp [ih, add]

theorem Settled.add {tree : VlistSimple α} (h : tree.Settled) (value : α) :
    (tree.add value).Settled := by
  refine ⟨h.pos, ?_⟩
  intro n hn
  rcases List.mem_append.mp hn with hn | hn
  · exact h.current n hn
  · rw [List.mem_singleton.mp hn]
    rfl

theorem Settled.foldl {β : Type} {f : VlistSimple α → β → VlistSimple α}
    (hf : ∀ tree b, tree.Settled → (f tree b).Settled) {tree : VlistSimple α} (h : tree.Settled)
    (l : List β) : (l.foldl f tree).Settled := by
  induction l generalizing tree with
  | nil => exact h
  | cons b l ih => exact ih (hf tree b h)

theorem Settled.flush {tree : VlistSimple α} (h : tree.Settled) : tree.flush.Settled := by
  refine ⟨h.pos, ?_⟩
  intro n hn
  exact h.current n (List.mem_filter.mp hn).1

theorem replace_eq {dest : VlistSimple α} (h : dest.Settled) (old : VlistSimple α) :
    dest.replace old =
      { version := dest.version + 1
        list := old.values.map fun value => { value, version := dest.version + 1 } } := by
  have hpos := h.pos
  have hstale : dest.list.filter (fun n =>
      (n.version == dest.version + 1 || n.version == -1) && dest.version + 1 != -1) = [] := by
    rw [List.filter_eq_nil_iff]
    intro n hn
    have hn := h.current n hn
    simp only [Bool.and_eq_true, Bool.or_eq_true, beq_iff_eq, bne_iff_ne]
    omega
  have hnew : (old.values.map fun value =>
      ({ value, version := dest.version + 1 } : VlistSimpleNode α)).filter (fun n =>
      (n.version == dest.version + 1 || n.version == -1) && dest.version + 1 != -1) =
      old.values.map fun value => { value, version := dest.version + 1 } := by
    rw [List.filter_eq_self]
    intro n hn
    obtain ⟨value, _, rfl⟩ := List.mem_map.mp hn
    simp only [Bool.and_eq_true, Bool.or_eq_true, beq_iff_eq, bne_iff_ne]
    exact ⟨.inl trivial, by omega⟩
  simp only [replace, foldl_add, flush, update, List.filter_append, hstale, hnew, List.nil_append]

theorem replace_values {dest : VlistSimple α} (h : dest.Settled) (old : VlistSimple α) :
    (dest.replace old).values = old.values := by
  rw [replace_eq h, values, List.map_map]
  exact List.map_id _

theorem Settled.replace {dest : VlistSimple α} (h : dest.Settled) (old : VlistSimple α) :
    (dest.replace old).Settled := by
  have hpos := h.pos
  rw [replace_eq h]
  refine ⟨?_, ?_⟩
  · change 0 < dest.version + 1
    omega
  · intro n hn
    obtain ⟨value, _, rfl⟩ := List.mem_map.mp hn
    rfl

end VlistSimple

structure VlistNode (α : Type) where
  value : α
  version : ℤ

/-- `struct vlist_tree`, without its callbacks. -/
structure Vlist (α : Type) where
  nodes : List (VlistNode α) := []
  version : ℤ := 1

namespace Vlist

variable {α σ : Type}

/-- The elements without their versions. -/
def values (tree : Vlist α) : List α := tree.nodes.map (·.value)

/-- A node that the next flush removes. -/
def stale (tree : Vlist α) (n : VlistNode α) : Bool :=
  !((n.version == tree.version || n.version == -1) && tree.version != -1)

/-- The elements that the next flush removes, and those that it keeps. -/
def staleValues (tree : Vlist α) : List α := (tree.nodes.filter tree.stale).map (·.value)

def keptValues (tree : Vlist α) : List α := (tree.nodes.filter (!tree.stale ·)).map (·.value)

/-- `vlist_update`. -/
def startUpdate (tree : Vlist α) : Vlist α := { tree with version := tree.version + 1 }

section Callbacks

variable (cmp : α → α → ℤ) (update : Option α → Option α → σ → Option α × σ)

/-- The node with the same key as `a`. -/
def find (tree : Vlist α) (a : α) : Option α := tree.values.find? fun b => cmp a b == 0

/-- `avl_delete` of the node with the same key as `a`. -/
def erase (tree : Vlist α) (a : α) : Vlist α :=
  { tree with nodes := tree.nodes.eraseP fun n => cmp a n.value == 0 }

/-- `avl_insert` of a node with the key of `a`, where no other has it. -/
def place (a : α) (n : VlistNode α) : List (VlistNode α) → List (VlistNode α)
  | [] => [n]
  | m :: ms => if cmp a m.value < 0 then n :: m :: ms else m :: place a n ms

/-- `vlist_add`; the callback may change the new element, but not its key. -/
def add (tree : Vlist α) (a : α) (s : σ) : Vlist α × σ :=
  let (new, s) := update (some a) (tree.find cmp a) s
  let n : VlistNode α := { value := new.getD a, version := tree.version }
  ({ tree with nodes := place cmp a n (tree.erase cmp a).nodes }, s)

/-- `vlist_delete` of the node with the same key as `a`, if there is one. -/
def delete (tree : Vlist α) (a : α) (s : σ) : Vlist α × σ :=
  match tree.find cmp a with
  | none => (tree, s)
  | some old => (tree.erase cmp a, (update none (some old) s).2)

/-- `vlist_flush`. -/
def flush (tree : Vlist α) (s : σ) : Vlist α × σ :=
  ({ tree with nodes := tree.nodes.filter (!tree.stale ·) },
    tree.staleValues.foldl (fun s old => (update none (some old) s).2) s)

/-- `vlist_flush_all`. -/
def flushAll (tree : Vlist α) (s : σ) : Vlist α × σ := flush update { tree with version := -1 } s

end Callbacks

variable (cmp : α → α → ℤ)

theorem place_perm (a : α) (n : VlistNode α) (l : List (VlistNode α)) :
    (place cmp a n l).Perm (n :: l) := by
  induction l with
  | nil => exact .refl _
  | cons m ms ih =>
    unfold place
    split_ifs
    · exact .refl _
    · exact (ih.cons m).trans (.swap n m ms)

theorem place_pairwise {lt : α → α → Prop} {a : α} {n : VlistNode α} {l : List (VlistNode α)}
    (hsorted : (l.map (·.value)).Pairwise lt)
    (hbefore : ∀ m ∈ l, ¬cmp a m.value < 0 → lt m.value n.value)
    (hbehind : ∀ m ∈ l, cmp a m.value < 0 → lt n.value m.value)
    (hmono : ∀ m ∈ l, ∀ m' ∈ l, lt m.value m'.value → cmp a m.value < 0 → cmp a m'.value < 0) :
    ((place cmp a n l).map (·.value)).Pairwise lt := by
  induction l with
  | nil => exact List.pairwise_singleton _ _
  | cons m ms ih =>
    obtain ⟨hfirst, hrest⟩ := List.pairwise_cons.mp hsorted
    unfold place
    split_ifs with hneg
    · refine List.pairwise_cons.mpr ⟨?_, hsorted⟩
      intro v hv
      obtain ⟨m', hm', rfl⟩ := List.mem_map.mp hv
      rcases List.mem_cons.mp hm' with rfl | htail
      · exact hbehind m' List.mem_cons_self hneg
      · have hlt := hfirst m'.value (List.mem_map_of_mem htail)
        exact hbehind m' hm' (hmono m List.mem_cons_self m' hm' hlt hneg)
    · have hplaced := ih hrest (fun m' hm' => hbefore m' (List.mem_cons_of_mem m hm'))
        (fun m' hm' => hbehind m' (List.mem_cons_of_mem m hm'))
        fun m' hm' m'' hm'' => hmono m' (List.mem_cons_of_mem m hm') m'' (List.mem_cons_of_mem m hm'')
      refine List.pairwise_cons.mpr ⟨?_, hplaced⟩
      intro v hv
      obtain ⟨m', hm', rfl⟩ := List.mem_map.mp hv
      rcases List.mem_cons.mp ((place_perm cmp a n ms).subset hm') with rfl | htail
      · exact hbefore m List.mem_cons_self hneg
      · exact hfirst m'.value (List.mem_map_of_mem htail)

theorem erase_values (tree : Vlist α) (a : α) :
    (tree.erase cmp a).values = tree.values.eraseP fun b => cmp a b == 0 := by
  simp [erase, values, List.eraseP_map, Function.comp_def]

theorem add_values (update : Option α → Option α → σ → Option α × σ) (tree : Vlist α) (a : α)
    (s : σ) : (tree.add cmp update a s).1.values.Perm
      ((update (some a) (tree.find cmp a) s).1.getD a :: (tree.erase cmp a).values) :=
  (place_perm cmp a _ (tree.erase cmp a).nodes).map VlistNode.value

theorem find_some {tree : Vlist α} {a old : α} (h : tree.find cmp a = some old) :
    cmp a old = 0 ∧ tree.values.Perm (old :: (tree.erase cmp a).values) := by
  obtain ⟨hkey, before, after, hvalues, hbefore⟩ := List.find?_eq_some_iff_append.mp h
  refine ⟨by simpa using hkey, ?_⟩
  have hrest : ∀ b ∈ before, ¬(cmp a b == 0) = true := fun b hb => by simpa using hbefore b hb
  rw [erase_values, hvalues, List.eraseP_append_right _ hrest,
    List.eraseP_cons_of_pos (by exact hkey)]
  exact List.perm_middle

theorem find_none {tree : Vlist α} {a : α} (h : tree.find cmp a = none) :
    (tree.erase cmp a).values = tree.values := by
  rw [erase_values]
  apply List.eraseP_of_forall_not
  intro b hb
  exact List.find?_eq_none.mp h b hb

theorem find_perm (tree : Vlist α) (a : α) :
    tree.values.Perm ((tree.find cmp a).toList ++ (tree.erase cmp a).values) := by
  cases h : tree.find cmp a with
  | none => rw [find_none cmp h]; exact .refl _
  | some old => exact (find_some cmp h).2

theorem mem_values (tree : Vlist α) (a : α) :
    a ∈ tree.values ↔ a ∈ tree.staleValues ∨ a ∈ tree.keptValues := by
  simp only [values, staleValues, keptValues, List.mem_map, List.mem_filter, ← exists_or]
  apply exists_congr
  intro n
  cases tree.stale n <;> simp

theorem flushAll_values (update : Option α → Option α → σ → Option α × σ) (tree : Vlist α)
    (s : σ) : (tree.flushAll update s).1.values = [] := by
  simp [flushAll, flush, values, stale]

theorem staleValues_flushAll (tree : Vlist α) :
    staleValues { tree with version := -1 } = tree.values := by
  have hall : tree.nodes.filter (stale { tree with version := -1 }) = tree.nodes :=
    List.filter_eq_self.mpr (by simp [stale])
  simp only [staleValues, values, hall]

end Vlist

end Netifd
