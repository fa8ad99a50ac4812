import Mathlib.Data.List.TakeWhile
import Mathlib.Data.Nat.Notation
import Mathlib.Tactic.Common

/-!
# Texts in an arena

Texts that end with a terminator are stored one after the other in memory of a fixed size, and a
text may be cut in two afterwards by a terminator in the place of a symbol.
-/

namespace StringArenas

variable {α : Type} [DecidableEq α]

/-- Memory of a fixed size. Nothing is known of what has not been stored yet. -/
abbrev Arena (α : Type) := List (Option α)

/-- The memory that has been allocated. -/
def Arena.alloc (size : ℕ) : Arena α := List.replicate size none

/-- The symbols are stored from the offset on; there is no result if they do not fit. -/
def store (arena : Arena α) (offset : ℕ) (xs : List α) : Option (Arena α) :=
  if offset + xs.length ≤ arena.length then
    some (arena.take offset ++ (xs.map some ++ arena.drop (offset + xs.length)))
  else none

/-- The text up to the terminator; there is no result if anything unknown or outside is read. -/
def textFrom (zero : α) : Arena α → Option (List α)
  | some x :: rest => if x = zero then some [] else (textFrom zero rest).map (x :: ·)
  | _ => none

/-- The text that begins at the offset. -/
def textAt (zero : α) (arena : Arena α) (offset : ℕ) : Option (List α) :=
  textFrom zero (arena.drop offset)

/-- The first place of a symbol in a text, if it is there at all. -/
def findFrom (zero c : α) : Arena α → Option (Option ℕ)
  | some x :: rest =>
    if x = c then some (some 0)
    else if x = zero then some none
    else (findFrom zero c rest).map (Option.map (· + 1))
  | _ => none

/-- The first place of a symbol in the text that begins at the offset. -/
def findAt (zero c : α) (arena : Arena α) (offset : ℕ) : Option (Option ℕ) :=
  (findFrom zero c (arena.drop offset)).map (Option.map (offset + ·))

/-- What is known, and room that nothing is known of. -/
def Arena.known (xs : List α) (room : ℕ) : Arena α := xs.map some ++ List.replicate room none

section Storing

omit [DecidableEq α]

@[simp] theorem Arena.length_known (xs : List α) (room : ℕ) :
    (Arena.known xs room).length = xs.length + room := by
  rw [Arena.known, List.length_append, List.length_map, List.length_replicate]

theorem Arena.alloc_eq (size : ℕ) : Arena.alloc size = Arena.known ([] : List α) size := rfl

theorem Arena.known_append (xs ys : List α) (room : ℕ) :
    Arena.known (xs ++ ys) room = xs.map some ++ Arena.known ys room := by
  rw [Arena.known, Arena.known, List.map_append, List.append_assoc]

@[simp] theorem Arena.known_cons (x : α) (xs : List α) (room : ℕ) :
    Arena.known (x :: xs) room = some x :: Arena.known xs room := rfl

theorem Arena.drop_known (xs ys : List α) (room : ℕ) :
    (Arena.known (xs ++ ys) room).drop xs.length = Arena.known ys room := by
  rw [Arena.known_append, List.drop_left' (List.length_map ..)]

theorem store_end (known xs : List α) (room : ℕ) :
    store (Arena.known known (xs.length + room)) known.length xs =
      some (Arena.known (known ++ xs) room) := by
  have htake : (Arena.known known (xs.length + room)).take known.length = known.map some :=
    List.take_left' (List.length_map ..)
  have hdrop : (Arena.known known (xs.length + room)).drop (known.length + xs.length) =
      List.replicate room none := by
    rw [← List.drop_drop, Arena.known, List.drop_left' (List.length_map ..), List.drop_replicate,
      Nat.add_sub_cancel_left]
  rw [store, if_pos (by rw [Arena.length_known]; omega), htake, hdrop, Arena.known,
    List.map_append, List.append_assoc]

theorem store_middle (before after : List α) (x y : α) (room : ℕ) :
    store (Arena.known (before ++ x :: after) room) before.length [y] =
      some (Arena.known (before ++ y :: after) room) := by
  have htake : (Arena.known (before ++ x :: after) room).take before.length =
      before.map some := by
    rw [Arena.known_append]
    exact List.take_left' (List.length_map ..)
  have hdrop : (Arena.known (before ++ x :: after) room).drop (before.length + 1) =
      Arena.known after room := by
    rw [← List.drop_drop, Arena.drop_known]
    rfl
  rw [store, if_pos (by rw [Arena.length_known, List.length_append]; simp; omega), htake,
    List.length_singleton, hdrop, Arena.known_append]
  rfl

end Storing

theorem textFrom_known {zero : α} {xs : List α} (hxs : zero ∉ xs) (rest : List α) (room : ℕ) :
    textFrom zero (Arena.known (xs ++ zero :: rest) room) = some xs := by
  induction xs with
  | nil => simp [textFrom]
  | cons x xs ih =>
    rw [List.mem_cons, not_or] at hxs
    simp [textFrom, Ne.symm hxs.1, ih hxs.2]

theorem textAt_known {zero : α} {xs : List α} (hxs : zero ∉ xs) (before rest : List α)
    (room : ℕ) :
    textAt zero (Arena.known (before ++ (xs ++ zero :: rest)) room) before.length = some xs := by
  rw [textAt, Arena.drop_known, textFrom_known hxs]

theorem findFrom_known {zero c : α} {xs ys : List α} (hzero : zero ∉ xs) (hc : c ∉ xs)
    (room : ℕ) :
    findFrom zero c (Arena.known (xs ++ ys) room) =
      (findFrom zero c (Arena.known ys room)).map (Option.map (xs.length + ·)) := by
  induction xs with
  | nil =>
    rcases hfound : findFrom zero c (Arena.known ys room) with _ | _ | i <;> simp [hfound]
  | cons x xs ih =>
    rw [List.mem_cons, not_or] at hzero hc
    rw [List.cons_append, Arena.known_cons, findFrom, if_neg (Ne.symm hc.1),
      if_neg (Ne.symm hzero.1), ih hzero.2 hc.2]
    rcases findFrom zero c (Arena.known ys room) with _ | _ | i
    · rfl
    · rfl
    · simp only [Option.map_some, List.length_cons]
      rw [Nat.add_right_comm]

theorem findAt_some {zero c : α} {xs : List α} (hzero : zero ∉ xs) (hc : c ∉ xs)
    (before after : List α) (room : ℕ) :
    findAt zero c (Arena.known (before ++ (xs ++ c :: after)) room) before.length =
      some (some (before.length + xs.length)) := by
  rw [findAt, Arena.drop_known, findFrom_known hzero hc]
  simp [findFrom]

theorem findAt_none {zero c : α} {xs : List α} (hzero : zero ∉ xs) (hc : c ∉ xs)
    (hne : c ≠ zero) (before after : List α) (room : ℕ) :
    findAt zero c (Arena.known (before ++ (xs ++ zero :: after)) room) before.length =
      some none := by
  rw [findAt, Arena.drop_known, findFrom_known hzero hc]
  simp [findFrom, Ne.symm hne]

end StringArenas
