import Mathlib.Data.List.TakeWhile
import Netifd.BoundedLines

/-!
# The output of processes

What a process writes goes to the log line by line. `main.c` reads it from a stream whose buffer
ends in a NUL, so that a line is looked for only up to the first NUL in it.
-/

namespace Netifd.ProcessLogs
open BoundedLines

/-- The stream of a process: what has been read and not consumed, and `log_overflow`. -/
structure ProcessLog where
  readBuf : List Char := []
  overflow : Bool := false
  deriving DecidableEq

/-- A line of the log. -/
structure LogMessage where
  logPrefix : List Char
  pid : ℕ
  text : List Char
  more : Bool := false
  deriving DecidableEq

/-- The formats `"%s (%d): %s\n"` and `"%s (%d): %s [...]\n"`. -/
def LogMessage.format (m : LogMessage) : List Char :=
  m.logPrefix ++ " (".toList ++ Nat.toDigits 10 m.pid ++ "): ".toList ++ m.text ++
    (if m.more then " [...]\n".toList else "\n".toList)

/-- The text of a buffer. -/
def cString (data : List Char) : List Char := data.takeWhile (· ≠ '\x00')

variable (bufferLen : ℕ) (message : List Char → Bool → LogMessage)

/-- The loop of `netifd_process_log_read_cb`: what is logged, and what is left in the buffer. -/
def readLoop (log : ProcessLog) : List LogMessage × ProcessLog :=
  if _ : log.readBuf.length = 0 then ([], log)
  else
    match (cString log.readBuf).findIdx? (· = '\n') with
    | some newline =>
      let rest := readLoop { readBuf := log.readBuf.drop (newline + 1), overflow := false }
      (if log.overflow then rest.1
        else message ((cString log.readBuf).take newline) false :: rest.1, rest.2)
    | none =>
      if log.overflow then ([], { log with readBuf := [] })
      else if log.readBuf.length = bufferLen then
        ([message (cString log.readBuf) true], { readBuf := [], overflow := true })
      else ([], log)
  termination_by log.readBuf.length
  decreasing_by rw [List.length_drop]; omega

/-- Data comes in, as much of it as there is room for, and `netifd_process_log_read_cb` is
called. -/
def processLogReadCb (log : ProcessLog) (data : List Char) : List LogMessage × ProcessLog :=
  readLoop bufferLen message
    { log with readBuf := log.readBuf ++ data.take (bufferLen - log.readBuf.length) }

/-- The message on a line. -/
def logged : Report Char → LogMessage
  | .line text => message text false
  | .cut text => message text true

/-- The stream as the general reader has it. -/
def ofReader (r : Reader Char) : ProcessLog := { readBuf := r.kept, overflow := r.skipping }

theorem cString_of_notMem {data : List Char} (hdata : '\x00' ∉ data) : cString data = data := by
  rw [cString, List.takeWhile_eq_self_iff]
  intro c hc
  simpa using fun h : c = '\x00' => hdata (h ▸ hc)

theorem split_of_findIdx {data : List Char} {newline : ℕ}
    (hfind : data.findIdx? (· = '\n') = some newline) :
    data.take newline ++ ['\n'] ++ data.drop (newline + 1) = data ∧
      '\n' ∉ data.take newline ∧ newline < data.length := by
  obtain ⟨hlt, hat, hbefore⟩ := List.findIdx?_eq_some_iff_getElem.mp hfind
  have hat : data[newline] = '\n' := by simpa using hat
  refine ⟨?_, ?_, hlt⟩
  · rw [← hat, List.append_assoc, List.singleton_append, List.getElem_cons_drop,
      List.take_append_drop]
  · intro hmem
    obtain ⟨j, hj, hget⟩ := List.mem_take_iff_getElem.mp hmem
    have hne := hbefore j (Nat.lt_of_lt_of_le hj (Nat.min_le_left _ _))
    simp [hget] at hne

theorem notMem_of_findIdx {data : List Char} (hfind : data.findIdx? (· = '\n') = none) :
    '\n' ∉ data := by
  intro hmem
  simpa using List.findIdx?_eq_none_iff.mp hfind '\n' hmem

/-- The loop does for text what the reader does for one symbol after the other. -/
theorem readLoop_eq {log : ProcessLog} (hlen : log.readBuf.length ≤ bufferLen)
    (hdata : '\x00' ∉ log.readBuf) :
    readLoop bufferLen message log =
      ((pushes '\n' bufferLen { skipping := log.overflow } log.readBuf).1.map (logged message),
        ofReader (pushes '\n' bufferLen { skipping := log.overflow } log.readBuf).2) := by
  fun_induction readLoop bufferLen message log with
  | case1 log hempty =>
    have hnil := List.eq_nil_of_length_eq_zero hempty
    obtain ⟨data, overflow⟩ := log
    obtain rfl : data = [] := hnil
    rfl
  | case2 log _ newline hfind rest ih =>
    rw [cString_of_notMem hdata] at hfind ⊢
    obtain ⟨hsplit, hline, hlt⟩ := split_of_findIdx hfind
    have hrest := ih (Nat.le_trans (by simp) hlen) fun h => hdata (List.mem_of_mem_drop h)
    have hshort : (log.readBuf.take newline).length < bufferLen := by
      rw [List.length_take]
      omega
    have hpushed : pushes '\n' bufferLen { skipping := log.overflow } log.readBuf =
        pushes '\n' bufferLen { skipping := log.overflow }
          (log.readBuf.take newline ++ ['\n'] ++ log.readBuf.drop (newline + 1)) := by
      rw [hsplit]
    rw [hpushed, pushes_append, pushes_line hline (Nat.zero_lt_of_lt hshort)]
    simp only [rest, hrest, report, hshort]
    cases log.overflow <;> rfl
  | case3 log _ hfind hoverflow =>
    rw [cString_of_notMem hdata] at hfind
    rw [hoverflow, pushes_skipped (notMem_of_findIdx hfind)]
    obtain ⟨data, overflow⟩ := log
    rfl
  | case4 log hne hfind hoverflow hfull =>
    rw [cString_of_notMem hdata] at hfind ⊢
    rw [eq_false_of_ne_true hoverflow,
      pushes_full (notMem_of_findIdx hfind) hfull (by omega)]
    rfl
  | case5 log _ hfind hoverflow hfull =>
    rw [cString_of_notMem hdata] at hfind
    have hshort : log.readBuf.length < bufferLen := by omega
    have hkept : ([] : List Char).length + log.readBuf.length < bufferLen := by simpa using hshort
    rw [eq_false_of_ne_true hoverflow, pushes_kept (notMem_of_findIdx hfind) hkept]
    obtain ⟨data, overflow⟩ := log
    simp only [Bool.not_eq_true] at hoverflow
    subst hoverflow
    rfl

theorem processLogReadCb_eq {r : Reader Char} (hr : r.Ready '\n' bufferLen)
    (hkept : '\x00' ∉ r.kept) {data : List Char} (hdata : '\x00' ∉ data) :
    processLogReadCb bufferLen message (ofReader r) data =
      ((pushes '\n' bufferLen r (data.take (bufferLen - r.kept.length))).1.map (logged message),
        ofReader (pushes '\n' bufferLen r (data.take (bufferLen - r.kept.length))).2) := by
  have hshort := hr.short
  rw [processLogReadCb, readLoop_eq, ofReader, hr.resume]
  · simp only [ofReader, List.length_append, List.length_take]
    omega
  · intro h
    rcases List.mem_append.mp h with h | h
    · exact hkept h
    · exact hdata (List.mem_of_mem_take h)

theorem readLoop_short (hpos : 0 < bufferLen) {log : ProcessLog}
    (hlen : log.readBuf.length ≤ bufferLen) :
    (readLoop bufferLen message log).2.readBuf.length < bufferLen := by
  fun_induction readLoop bufferLen message log with
  | case1 log hempty =>
    show log.readBuf.length < bufferLen
    omega
  | case2 log _ newline _ rest ih => exact ih (Nat.le_trans (by simp) hlen)
  | case3 => exact hpos
  | case4 => exact hpos
  | case5 log _ _ _ hfull => exact Nat.lt_of_le_of_ne hlen hfull

end Netifd.ProcessLogs
