import Mathlib.Data.Nat.Notation
import Mathlib.Tactic.Common

/-!
# Lines through a bounded buffer

A stream is cut at a separator while only so many symbols are kept. A line that fills the buffer
is reported by its beginning, and what follows of it is skipped up to the separator.
-/

namespace BoundedLines

/-- A line, or the beginning of one that is too long. -/
inductive Report (α : Type) where
  | line (text : List α)
  | cut (text : List α)
  deriving DecidableEq

/-- What is kept of the line that has begun, and whether the rest of it is skipped. -/
structure Reader (α : Type) where
  kept : List α := []
  skipping : Bool := false

variable {α : Type} [DecidableEq α] (separator : α) (capacity : ℕ)

/-- The reader takes one symbol. -/
def push (r : Reader α) (x : α) : List (Report α) × Reader α :=
  if x = separator then (if r.skipping then [] else [.line r.kept], {})
  else if r.skipping then ([], r)
  else if r.kept.length + 1 = capacity then ([.cut (r.kept ++ [x])], { skipping := true })
  else ([], { r with kept := r.kept ++ [x] })

/-- The reader takes a part of the stream. -/
def pushes (r : Reader α) : List α → List (Report α) × Reader α
  | [] => ([], r)
  | x :: xs =>
    let first := push separator capacity r x
    let rest := pushes first.2 xs
    (first.1 ++ rest.1, rest.2)

/-- What there is to report of one line. -/
def report (line : List α) : Report α :=
  if line.length < capacity then .line line else .cut (line.take capacity)

/-- The reports on the parts of a stream between its separators, the last of which may go on. -/
def reports : List (List α) → List (Report α)
  | [] => []
  | [rest] => if rest.length < capacity then [] else [report capacity rest]
  | line :: next :: lines => report capacity line :: reports (next :: lines)

/-- The reports on a stream; the first line is not reported if it has been skipped before. -/
def streamReports (skipping : Bool) (stream : List α) : List (Report α) :=
  reports capacity
    (if skipping then (stream.splitOn separator).tail else stream.splitOn separator)

/-- Whether what follows the stream is skipped up to the next separator. -/
def skipsAfter (skipping : Bool) (stream : List α) : Bool :=
  (skipping && !stream.elem separator) ||
    decide (capacity ≤ ((stream.splitOn separator).getLast?.getD []).length)

variable {separator capacity}

theorem pushes_append (r : Reader α) (xs ys : List α) :
    pushes separator capacity r (xs ++ ys) =
      ((pushes separator capacity r xs).1 ++
          (pushes separator capacity (pushes separator capacity r xs).2 ys).1,
        (pushes separator capacity (pushes separator capacity r xs).2 ys).2) := by
  induction xs generalizing r with
  | nil => rfl
  | cons x xs ih => simp only [List.cons_append, pushes, ih, List.append_assoc]

theorem pushes_skipped {kept xs : List α} (hxs : separator ∉ xs) :
    pushes separator capacity { kept, skipping := true } xs =
      ([], { kept, skipping := true }) := by
  induction xs with
  | nil => rfl
  | cons x xs ih =>
    have hx : x ≠ separator := fun h => hxs (h ▸ List.mem_cons_self)
    have hrest := ih fun h => hxs (List.mem_cons_of_mem x h)
    simp [pushes, push, hx, hrest]

theorem pushes_kept {kept xs : List α} (hxs : separator ∉ xs)
    (hlen : kept.length + xs.length < capacity) :
    pushes separator capacity { kept } xs = ([], { kept := kept ++ xs }) := by
  induction xs generalizing kept with
  | nil => simp [pushes]
  | cons x xs ih =>
    rw [List.length_cons] at hlen
    have hx : x ≠ separator := fun h => hxs (h ▸ List.mem_cons_self)
    have hfull : kept.length + 1 ≠ capacity := by omega
    have hkept : (kept ++ [x]).length + xs.length < capacity := by
      rw [List.length_append, List.length_singleton]
      omega
    have hrest := ih (fun h => hxs (List.mem_cons_of_mem x h)) hkept
    simp [pushes, push, hx, hfull, hrest]

theorem pushes_full {xs : List α} (hxs : separator ∉ xs) (hlen : xs.length = capacity)
    (hpos : 0 < capacity) :
    pushes separator capacity {} xs = ([.cut xs], { skipping := true }) := by
  have hne : xs ≠ [] := by
    rintro rfl
    exact absurd hlen (Nat.ne_of_lt hpos)
  obtain ⟨init, last, rfl⟩ : ∃ init last, xs = init ++ [last] :=
    ⟨_, _, (List.dropLast_concat_getLast hne).symm⟩
  have hlast : last ≠ separator := fun h => hxs (by simp [h])
  have hinit : separator ∉ init := fun h => hxs (List.mem_append_left [last] h)
  rw [List.length_append, List.length_singleton] at hlen
  rw [pushes_append, pushes_kept hinit (by rw [List.length_nil]; omega)]
  simp [pushes, push, hlast, hlen]

theorem pushes_overfull {xs : List α} (hxs : separator ∉ xs) (hlen : capacity ≤ xs.length)
    (hpos : 0 < capacity) :
    pushes separator capacity {} xs = ([.cut (xs.take capacity)], { skipping := true }) := by
  have htake : separator ∉ xs.take capacity := fun h => hxs (List.mem_of_mem_take h)
  have hdrop : separator ∉ xs.drop capacity := fun h => hxs (List.mem_of_mem_drop h)
  have hfull := pushes_full htake (List.length_take_of_le hlen) hpos
  calc pushes separator capacity {} xs
      = pushes separator capacity {} (xs.take capacity ++ xs.drop capacity) := by
        rw [List.take_append_drop]
    _ = ([.cut (xs.take capacity)], { skipping := true }) := by
        rw [pushes_append, hfull, pushes_skipped hdrop, List.append_nil]

theorem pushes_line {line : List α} (hline : separator ∉ line) (hpos : 0 < capacity)
    (skipping : Bool) :
    pushes separator capacity { skipping } (line ++ [separator]) =
      (if skipping then [] else [report capacity line], {}) := by
  rw [pushes_append]
  cases skipping with
  | true => simp [pushes_skipped hline, pushes, push]
  | false =>
    rcases Nat.lt_or_ge line.length capacity with hlen | hlen
    · rw [pushes_kept hline (by simpa using hlen)]
      simp [pushes, push, report, hlen]
    · rw [pushes_overfull hline hlen hpos]
      simp [pushes, push, report, Nat.not_lt.mpr hlen]

/-- Nothing is kept of a line that is skipped, and what is kept has room for more. -/
structure Reader.Ready (separator : α) (capacity : ℕ) (r : Reader α) : Prop where
  short : r.kept.length < capacity
  unbroken : separator ∉ r.kept
  skipped : r.skipping = true → r.kept = []

omit [DecidableEq α] in
theorem Reader.ready_start (hpos : 0 < capacity) (skipping : Bool) :
    Reader.Ready separator capacity { skipping } := ⟨hpos, List.not_mem_nil, fun _ => rfl⟩

theorem push_reader (r : Reader α) (x : α) :
    (push separator capacity r x).2 =
      if x = separator then {}
      else if r.skipping then r
      else if r.kept.length + 1 = capacity then { skipping := true }
      else { r with kept := r.kept ++ [x] } := by
  rw [push]
  split_ifs <;> rfl

theorem Reader.Ready.push {r : Reader α} (h : r.Ready separator capacity) (x : α) :
    (push separator capacity r x).2.Ready separator capacity := by
  have hpos := Nat.zero_lt_of_lt h.short
  rw [push_reader]
  split_ifs with hx hskip hfull
  · exact ready_start hpos false
  · exact h
  · exact ready_start hpos true
  · refine ⟨?_, ?_, fun hs => absurd hs hskip⟩
    · have hshort := h.short
      simp only [List.length_append, List.length_singleton]
      omega
    · intro hmem
      rcases List.mem_append.mp hmem with hmem | hmem
      · exact h.unbroken hmem
      · exact hx (List.mem_singleton.mp hmem).symm

theorem Reader.Ready.pushes {r : Reader α} (h : r.Ready separator capacity) (xs : List α) :
    (pushes separator capacity r xs).2.Ready separator capacity := by
  induction xs generalizing r with
  | nil => exact h
  | cons x xs ih => exact ih (h.push x)

theorem mem_of_mem_kept {r : Reader α} {xs : List α} {y : α}
    (hy : y ∈ (pushes separator capacity r xs).2.kept) : y ∈ r.kept ∨ y ∈ xs := by
  induction xs generalizing r with
  | nil => exact .inl hy
  | cons x xs ih =>
    rcases ih hy with hy | hy
    · rw [push_reader] at hy
      split_ifs at hy
      · cases hy
      · exact .inl hy
      · cases hy
      · rcases List.mem_append.mp hy with hy | hy
        · exact .inl hy
        · exact .inr (List.mem_singleton.mp hy ▸ List.mem_cons_self)
    · exact .inr (List.mem_cons_of_mem x hy)

theorem Reader.Ready.resume {r : Reader α} (h : r.Ready separator capacity) (xs : List α) :
    BoundedLines.pushes separator capacity { skipping := r.skipping } (r.kept ++ xs) =
      BoundedLines.pushes separator capacity r xs := by
  obtain ⟨kept, skipping⟩ := r
  cases skipping with
  | true =>
    obtain rfl : kept = [] := h.skipped rfl
    rfl
  | false =>
    rw [pushes_append, pushes_kept h.unbroken (by simpa using h.short)]
    rfl

/-- The reader reports what there is to report of the stream as a whole, in whatever parts it
comes, and keeps the line that has begun. -/
theorem pushes_stream (hpos : 0 < capacity) (skipping : Bool) (stream : List α) :
    pushes separator capacity { skipping } stream =
      (streamReports separator capacity skipping stream,
        if skipsAfter separator capacity skipping stream then { skipping := true }
        else { kept := (stream.splitOn separator).getLast?.getD [] }) := by
  induction hn : stream.length using Nat.strongRecOn generalizing stream skipping with
  | _ n ih =>
  subst hn
  by_cases hmem : separator ∈ stream
  · -- the first line ends, and the rest is shorter
    obtain ⟨line, rest, rfl, hline⟩ := List.eq_append_cons_of_mem hmem
    have hsplit := List.splitOn_append_cons_self_of_not_mem hline rest
    have hrest := ih rest.length (by simp; omega) false rest rfl
    obtain ⟨next, lines, hlines⟩ := List.exists_cons_of_ne_nil (List.splitOn_ne_nil separator rest)
    have hparts : line ++ separator :: rest = (line ++ [separator]) ++ rest := by simp
    have hreports : streamReports separator capacity skipping (line ++ separator :: rest) =
        (if skipping then [] else [report capacity line]) ++
          streamReports separator capacity false rest := by
      cases skipping <;> simp [streamReports, hsplit, hlines, reports]
    have hlast : skipsAfter separator capacity skipping (line ++ separator :: rest) =
        skipsAfter separator capacity false rest := by
      simp [skipsAfter, hsplit, hlines]
    rw [hreports, hlast, hparts, pushes_append, pushes_line hline hpos]
    simp only [hrest]
    simp [List.splitOn_append_cons_self_of_not_mem hline, hlines]
  · have hsplit := List.splitOn_eq_singleton hmem
    cases skipping with
    | true => simp [pushes_skipped hmem, streamReports, skipsAfter, hsplit, reports, hmem]
    | false =>
      rcases Nat.lt_or_ge stream.length capacity with hlen | hlen
      · rw [pushes_kept hmem (by simpa using hlen)]
        simp [streamReports, skipsAfter, hsplit, reports, hlen]
      · rw [pushes_overfull hmem hlen hpos]
        simp [streamReports, skipsAfter, hsplit, reports, report, hlen, Nat.not_lt.mpr hlen]

end BoundedLines
