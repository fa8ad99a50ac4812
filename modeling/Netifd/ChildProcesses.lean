import Mathlib.Data.List.Nodup
import Mathlib.Logic.Function.Basic
import Netifd.GuardedRuns
import Netifd.ProcessLogs

/-!
# Child processes

The processes that `main.c` starts, kills and hears the end of, with the children as the kernel
has them: a child keeps its pid until it is waited for. `uloop` calls back the process that was
registered for the pid of a child that has ended.
-/

namespace Netifd.ChildProcesses
open GuardedRuns BoundedLines ProcessLogs

/-- A child of the daemon that has not been waited for. -/
structure Child (ι : Type) where
  pid : ℕ
  startedBy : Option ι
  killed : Bool := false
  ended : Option ℤ := none
  deriving DecidableEq

/-- The child with this pid ends, if it has not ended before. -/
def Child.ends {ι : Type} (c : Child ι) (pid : ℕ) (status : ℤ) : Child ι :=
  if c.pid = pid ∧ c.ended = none then { c with ended := some status } else c

/-- What `fork` returns: a pid that no child has, or nothing. -/
structure Fork where
  pid : List ℕ → Option ℕ
  unused : ∀ used n, pid used = some n → n ∉ used

/-- `struct netifd_process`. The last fields are histories since the last start: whether the
rest of a line was to be skipped, what has been read, and what has been logged. -/
structure NetifdProcess where
  pid : ℕ := 0
  pending : Bool := false
  logPrefix : Option (List Char) := none
  log : ProcessLog := {}
  skipped : Bool := false
  sent : List Char := []
  messages : List LogMessage := []

/-- What happens to a process: its start, `SIGKILL` for the pid, with the child that has it, and
the callback with the status of the child. -/
inductive Event (ι : Type) where
  | started (pid : ℕ)
  | signalled (pid : ℕ) (child : Option (Child ι))
  | called (pid : ℕ) (status : ℤ)

/-- The daemon and its children. -/
structure Processes (ι : Type) where
  proc : ι → NetifdProcess := fun _ => {}
  processList : List ι := []
  uloopProcesses : List ι := []
  children : List (Child ι) := []
  events : List (ι × Event ι) := []

section Code

variable {ι : Type} [DecidableEq ι] (bufferLen : ℕ)

namespace Processes

def modify (s : Processes ι) (i : ι) (f : NetifdProcess → NetifdProcess) : Processes ι :=
  { s with proc := Function.update s.proc i (f (s.proc i)) }

/-- `fork`, for a process or for something else. -/
def fork (s : Processes ι) (startedBy : Option ι) (pid : ℕ) : Processes ι :=
  { s with children := s.children ++ [{ pid, startedBy }] }

/-- `kill` with `SIGKILL`. -/
def sigkill (s : Processes ι) (pid : ℕ) : Processes ι :=
  { s with children := s.children.map fun c => if c.pid = pid then { c with killed := true } else c }

def child (s : Processes ι) (pid : ℕ) : Option (Child ι) := s.children.find? (·.pid = pid)

def event (s : Processes ι) (i : ι) (e : Event ι) : Processes ι :=
  { s with events := s.events ++ [(i, e)] }

/-- `uloop_process_add`. -/
def uloopAdd (s : Processes ι) (i : ι) : Processes ι :=
  if (s.proc i).pending then s
  else { s with uloopProcesses := s.uloopProcesses ++ [i] }.modify i ({ · with pending := true })

/-- `uloop_process_delete`. -/
def uloopDelete (s : Processes ι) (i : ι) : Processes ι :=
  if (s.proc i).pending then
    { s with uloopProcesses := s.uloopProcesses.erase i }.modify i ({ · with pending := false })
  else s

end Processes

/-- `ustream_free`. -/
def NetifdProcess.streamFree (p : NetifdProcess) : NetifdProcess := { p with log.readBuf := [] }

/-- `ustream_fd_init`. -/
def NetifdProcess.streamInit (p : NetifdProcess) : NetifdProcess :=
  { p with log.readBuf := [], skipped := p.log.overflow, sent := [], messages := [] }

def netifdDeleteProcess (s : Processes ι) (i : ι) : Processes ι :=
  { s with processList := s.processList.erase i }.modify i NetifdProcess.streamFree

def netifdKillProcess (s : Processes ι) (i : ι) : Processes ι :=
  if (s.proc i).pending then
    let pid := (s.proc i).pid
    let s := (s.event i (.signalled pid (s.child pid))).sigkill pid
    netifdDeleteProcess (s.uloopDelete i) i
  else s

/-- The message that `netifd_process_log_read_cb` makes of a line. -/
def logMessage (p : NetifdProcess) (text : List Char) (more : Bool) : LogMessage :=
  { logPrefix := p.logPrefix.getD "process".toList, pid := p.pid, text, more }

/-- Data comes in on the stream of a process. -/
def readOutput (data : List Char) (p : NetifdProcess) : NetifdProcess :=
  let read := processLogReadCb bufferLen (logMessage p) p.log data
  { p with
    log := read.2
    sent := p.sent ++ data.take (bufferLen - p.log.readBuf.length)
    messages := p.messages ++ read.1 }

/-- `netifd_process_cb`; `rest` is what `ustream_poll` still reads, call by call. -/
def netifdProcessCb (s : Processes ι) (i : ι) (status : ℤ) (rest : List (List Char)) :
    Processes ι :=
  let s := s.modify i fun p => rest.foldl (fun p data => readOutput bufferLen data p) p
  (netifdDeleteProcess s i).event i (.called (s.proc i).pid status)

/-- The part of `netifd_start_process` that the parent does after `fork`. -/
def watchChild (s : Processes ι) (i : ι) (pid : ℕ) : Processes ι :=
  let s := (s.modify i ({ · with pid })).uloopAdd i
  let s := { s with processList := s.processList ++ [i] }
  (s.modify i NetifdProcess.streamInit).event i (.started pid)

/-- `netifd_start_process`, which returns `-1` if there is no pipe or no child. -/
def netifdStartProcess (s : Processes ι) (i : ι) (pipe : Bool) (fork : Fork) :
    ℤ × Processes ι :=
  let s := netifdKillProcess s i
  if !pipe then (-1, s)
  else
    match fork.pid (s.children.map (·.pid)) with
    | none => (-1, s)
    | some pid => (0, watchChild (s.fork (some i) pid) i pid)

def netifdKillProcesses (s : Processes ι) : Processes ι := s.processList.foldl netifdKillProcess s

/-- `uloop` has waited for the child with this pid: the first process registered for it is taken
off and called back. -/
def uloopProcessEnded (s : Processes ι) (pid : ℕ) (rest : List (List Char)) : Processes ι :=
  match s.child pid with
  | some { ended := some status, .. } =>
    let s := { s with children := s.children.filter (·.pid ≠ pid) }
    match s.uloopProcesses.find? fun i => (s.proc i).pid = pid with
    | some i => netifdProcessCb bufferLen (s.uloopDelete i) i status rest
    | none => s
  | _ => s

/-- Operations of the daemon, the children and the kernel, in any order. -/
inductive ProcessOp (ι : Type) where
  | start (i : ι) (pipe : Bool) (fork : Fork)
  | kill (i : ι)
  | killAll
  | forkOther (fork : Fork)
  | output (i : ι) (data : List Char)
  | childEnds (pid : ℕ) (status : ℤ)
  | wait (pid : ℕ) (rest : List (List Char))

/-- An operation. A stream is read from while its process is on the list. -/
def processStep (s : Processes ι) : ProcessOp ι → Processes ι
  | .start i pipe fork => (netifdStartProcess s i pipe fork).2
  | .kill i => netifdKillProcess s i
  | .killAll => netifdKillProcesses s
  | .forkOther fork =>
    match fork.pid (s.children.map (·.pid)) with
    | none => s
    | some pid => s.fork none pid
  | .output i data => if i ∈ s.processList then s.modify i (readOutput bufferLen data) else s
  | .childEnds pid status =>
    { s with children := s.children.map fun c => c.ends pid status }
  | .wait pid rest => uloopProcessEnded bufferLen s pid rest

end Code

section Accounting

variable {ι : Type} [DecidableEq ι]

/-- The pid that a process has while its end is awaited. -/
def Processes.current (s : Processes ι) (i : ι) : Option ℕ :=
  if (s.proc i).pending then some (s.proc i).pid else none

/-- A child that was started for a process and has not been killed has this pid. -/
def Processes.Runs (s : Processes ι) (i : ι) (pid : ℕ) : Prop :=
  ∃ c ∈ s.children, c.pid = pid ∧ c.startedBy = some i ∧ c.killed = false

/-- What may happen to a process: after its start its pid is killed or called back for, and then
it may be started again. -/
def lifecycle : Option ℕ → Event ι → Option (Option ℕ)
  | none, .started pid => some (some pid)
  | some pid, .signalled pid' _ => if pid' = pid then some none else none
  | some pid, .called pid' _ => if pid' = pid then some none else none
  | _, _ => none

def Processes.eventsOf (s : Processes ι) (i : ι) : List (Event ι) :=
  (s.events.filter (·.1 = i)).map (·.2)

/-- A signal goes to a child of the process that has not been killed. -/
def OwnSignal (i : ι) : Event ι → Prop
  | .signalled _ child => ∃ c, child = some c ∧ c.startedBy = some i ∧ c.killed = false
  | _ => True

/-- The lists and the children agree on which processes are awaited, and the events lead there. -/
structure Sound (s : Processes ι) : Prop where
  pids : (s.children.map (·.pid)).Nodup
  runs : ∀ i pid, s.current i = some pid ↔ s.Runs i pid
  listed : ∀ i, i ∈ s.processList ↔ (s.current i).isSome
  once : s.processList.Nodup
  registered : s.uloopProcesses = s.processList
  own : ∀ e ∈ s.events, OwnSignal e.1 e.2
  follows : ∀ i, (s.eventsOf i).foldlM lifecycle none = some (s.current i)

theorem eq_of_pid {s : Processes ι} (h : Sound s) {c c' : Child ι} (hc : c ∈ s.children)
    (hc' : c' ∈ s.children) (hpid : c.pid = c'.pid) : c = c' :=
  List.inj_on_of_nodup_map h.pids hc hc' hpid

theorem Sound.eq_of_runs {s : Processes ι} (h : Sound s) {i j : ι} {pid : ℕ}
    (hi : s.Runs i pid) (hj : s.Runs j pid) : i = j := by
  obtain ⟨c, hc, hpid, hby, -⟩ := hi
  obtain ⟨c', hc', hpid', hby', -⟩ := hj
  obtain rfl := eq_of_pid h hc hc' (hpid.trans hpid'.symm)
  exact Option.some.inj (hby.symm.trans hby')

theorem child_of_mem {s : Processes ι} (h : Sound s) {c : Child ι} (hc : c ∈ s.children) :
    s.child c.pid = some c := by
  rw [Processes.child]
  cases hfind : s.children.find? (·.pid = c.pid) with
  | none => simpa using List.find?_eq_none.mp hfind c hc
  | some c' =>
    have hpid : c'.pid = c.pid := by simpa using List.find?_some hfind
    rw [eq_of_pid h (List.mem_of_find?_eq_some hfind) hc hpid]

/-- The process is no longer awaited, for the reason that the event tells, and its child is
either marked or gone. -/
structure Ended (s s' : Processes ι) (i : ι) (pid : ℕ) (e : Event ι) : Prop where
  pids : (s'.children.map (·.pid)).Nodup
  runs : ∀ j n, s'.Runs j n ↔ s.Runs j n ∧ n ≠ pid
  current : ∀ j, s'.current j = if j = i then none else s.current j
  listed : s'.processList = s.processList.erase i
  registered : s'.uloopProcesses = s.uloopProcesses.erase i
  events : s'.events = s.events ++ [(i, e)]

theorem eventsOf_append {s s' : Processes ι} {i : ι} {e : Event ι}
    (hevents : s'.events = s.events ++ [(i, e)]) (j : ι) :
    s'.eventsOf j = s.eventsOf j ++ if j = i then [e] else [] := by
  rw [Processes.eventsOf, hevents, List.filter_append, List.map_append, Processes.eventsOf]
  by_cases hj : i = j
  · simp [hj]
  · simp [hj, Ne.symm hj]

theorem follows_append {s s' : Processes ι} (h : Sound s) {i : ι} {e : Event ι}
    (hevents : s'.events = s.events ++ [(i, e)]) {next : Option ℕ}
    (he : lifecycle (s.current i) e = some next)
    (hcurrent : ∀ j, s'.current j = if j = i then next else s.current j) (j : ι) :
    (s'.eventsOf j).foldlM lifecycle none = some (s'.current j) := by
  rw [eventsOf_append hevents, List.foldlM_append, h.follows, hcurrent]
  by_cases hj : j = i
  · subst hj
    simp [he]
  · simp [hj]

theorem Sound.ended {s s' : Processes ι} (h : Sound s) {i : ι} {pid : ℕ} {e : Event ι}
    (hpid : s.current i = some pid) (hs : Ended s s' i pid e)
    (he : lifecycle (some pid) e = some none) (hown : OwnSignal i e) : Sound s' := by
  have hcurrent : ∀ j n, j ≠ i → s.current j = some n → n ≠ pid := by
    rintro j n hj hn rfl
    exact hj (h.eq_of_runs ((h.runs j n).mp hn) ((h.runs i n).mp hpid))
  constructor
  case pids => exact hs.pids
  case runs =>
    intro j n
    rw [hs.runs, hs.current]
    by_cases hj : j = i
    · subst hj
      rw [if_pos rfl, ← h.runs, hpid]
      constructor
      · rintro ⟨⟩
      · rintro ⟨hn, hne⟩
        exact absurd (Option.some.inj hn).symm hne
    · rw [if_neg hj, ← h.runs]
      exact ⟨fun hn => ⟨hn, hcurrent j n hj hn⟩, And.left⟩
  case listed =>
    intro j
    rw [hs.listed, hs.current, h.once.mem_erase_iff, h.listed]
    by_cases hj : j = i <;> simp [hj]
  case once =>
    rw [hs.listed]
    exact h.once.erase i
  case registered => rw [hs.registered, hs.listed, h.registered]
  case own =>
    intro e' he'
    rw [hs.events] at he'
    rcases List.mem_append.mp he' with he' | he'
    · exact h.own e' he'
    · obtain rfl := List.mem_singleton.mp he'
      exact hown
  case follows => exact follows_append h hs.events (hpid ▸ he) hs.current

/-- The process is awaited with a new pid. -/
structure Started (s s' : Processes ι) (i : ι) (pid : ℕ) : Prop where
  pids : (s'.children.map (·.pid)).Nodup
  runs : ∀ j n, s'.Runs j n ↔ s.Runs j n ∨ j = i ∧ n = pid
  current : ∀ j, s'.current j = if j = i then some pid else s.current j
  listed : s'.processList = s.processList ++ [i]
  registered : s'.uloopProcesses = s.uloopProcesses ++ [i]
  events : s'.events = s.events ++ [(i, .started pid)]

theorem Sound.started {s s' : Processes ι} (h : Sound s) {i : ι} {pid : ℕ}
    (hnone : s.current i = none) (hs : Started s s' i pid) : Sound s' := by
  constructor
  case pids => exact hs.pids
  case runs =>
    intro j n
    rw [hs.runs, hs.current, ← h.runs]
    by_cases hj : j = i
    · subst hj
      rw [if_pos rfl, hnone]
      simp [eq_comm]
    · simp [hj]
  case listed =>
    intro j
    rw [hs.listed, hs.current, List.mem_append, h.listed]
    by_cases hj : j = i <;> simp [hj]
  case once =>
    have hnew : i ∉ s.processList := by
      rw [h.listed, hnone]
      simp
    rw [hs.listed]
    exact List.nodup_append_comm.mp (List.nodup_cons.mpr ⟨hnew, h.once⟩)
  case registered => rw [hs.registered, hs.listed, h.registered]
  case own =>
    intro e' he'
    rw [hs.events] at he'
    rcases List.mem_append.mp he' with he' | he'
    · exact h.own e' he'
    · obtain rfl := List.mem_singleton.mp he'
      trivial
  case follows => exact follows_append h hs.events (by rw [hnone]; rfl) hs.current

/-- What neither ends nor starts a process that is awaited. -/
structure Kept (s s' : Processes ι) : Prop where
  pids : (s'.children.map (·.pid)).Nodup
  runs : ∀ j n, s'.Runs j n ↔ s.Runs j n
  current : ∀ j, s'.current j = s.current j
  listed : s'.processList = s.processList
  registered : s'.uloopProcesses = s.uloopProcesses
  events : s'.events = s.events

theorem Sound.kept {s s' : Processes ι} (h : Sound s) (hs : Kept s s') : Sound s' where
  pids := hs.pids
  runs j n := by rw [hs.current, hs.runs, h.runs]
  listed j := by rw [hs.listed, hs.current, h.listed]
  once := hs.listed ▸ h.once
  registered := by rw [hs.registered, hs.listed, h.registered]
  own := hs.events ▸ h.own
  follows j := by
    rw [hs.current, ← h.follows, Processes.eventsOf, hs.events, Processes.eventsOf]

theorem current_modify (s : Processes ι) (i : ι) (f : NetifdProcess → NetifdProcess)
    (hpid : ∀ p, (f p).pid = p.pid) (hpending : ∀ p, (f p).pending = p.pending) (j : ι) :
    (s.modify i f).current j = s.current j := by
  by_cases hj : j = i
  · subst hj
    simp [Processes.current, Processes.modify, hpid, hpending]
  · simp [Processes.current, Processes.modify, hj]

theorem netifdKillProcess_none {s : Processes ι} {i : ι} (hnone : s.current i = none) :
    netifdKillProcess s i = s := by
  have hidle : (s.proc i).pending = false := by simpa [Processes.current] using hnone
  rw [netifdKillProcess, if_neg (by simp [hidle])]

omit [DecidableEq ι] in
theorem runs_sigkill (s : Processes ι) (pid : ℕ) (j : ι) (n : ℕ) :
    (s.sigkill pid).Runs j n ↔ s.Runs j n ∧ n ≠ pid := by
  constructor
  · rintro ⟨c', hc', hpid, hby, halive⟩
    obtain ⟨c, hc, rfl⟩ := List.mem_map.mp hc'
    split_ifs at hpid hby halive with hkill
    exact ⟨⟨c, hc, hpid, hby, halive⟩, hpid ▸ hkill⟩
  · rintro ⟨⟨c, hc, rfl, hby, halive⟩, hne⟩
    exact ⟨c, List.mem_map.mpr ⟨c, hc, if_neg hne⟩, rfl, hby, halive⟩

omit [DecidableEq ι] in
theorem pids_sigkill (s : Processes ι) (pid : ℕ) :
    (s.sigkill pid).children.map (·.pid) = s.children.map (·.pid) := by
  simp only [Processes.sigkill, List.map_map]
  apply List.map_congr_left
  intro c _
  simp only [Function.comp_apply]
  split_ifs <;> rfl

theorem uloopDelete_pending {s : Processes ι} {i : ι} (hpending : (s.proc i).pending = true) :
    s.uloopDelete i =
      { s with uloopProcesses := s.uloopProcesses.erase i }.modify i ({ · with pending := false }) :=
  if_pos hpending

theorem current_uloopDelete (s : Processes ι) (i j : ι) :
    (s.uloopDelete i).current j = if j = i then none else s.current j := by
  rw [Processes.uloopDelete, Processes.current, Processes.current]
  by_cases hj : j = i
  · subst hj
    by_cases hpending : (s.proc j).pending <;> simp [hpending, Processes.modify]
  · by_cases hpending : (s.proc i).pending <;> simp [hpending, hj, Processes.modify]

theorem current_netifdDeleteProcess (s : Processes ι) (i j : ι) :
    (netifdDeleteProcess s i).current j = s.current j :=
  current_modify _ i NetifdProcess.streamFree (fun _ => rfl) (fun _ => rfl) j

omit [DecidableEq ι] in
theorem pending_of_current {s : Processes ι} {i : ι} {pid : ℕ} (hpid : s.current i = some pid) :
    (s.proc i).pending = true ∧ (s.proc i).pid = pid := by
  rw [Processes.current] at hpid
  split_ifs at hpid with hpending
  exact ⟨hpending, Option.some.inj hpid⟩

theorem netifdKillProcess_eq {s : Processes ι} {i : ι} (hpending : (s.proc i).pending = true) :
    netifdKillProcess s i =
      netifdDeleteProcess ((((s.event i (.signalled (s.proc i).pid (s.child (s.proc i).pid))).sigkill
        (s.proc i).pid)).uloopDelete i) i := if_pos hpending

theorem netifdKillProcess_ended {s : Processes ι} (h : Sound s) {i : ι} {pid : ℕ}
    (hpid : s.current i = some pid) :
    Ended s (netifdKillProcess s i) i pid (.signalled pid (s.child pid)) := by
  obtain ⟨hpending, rfl⟩ := pending_of_current hpid
  rw [netifdKillProcess_eq hpending]
  constructor
  case current =>
    intro j
    rw [current_netifdDeleteProcess, current_uloopDelete]
    rfl
  all_goals rw [uloopDelete_pending (by exact hpending)]
  case pids => exact pids_sigkill s _ ▸ h.pids
  case runs => exact runs_sigkill s _
  all_goals rfl

theorem Sound.netifdKillProcess {s : Processes ι} (h : Sound s) (i : ι) :
    Sound (netifdKillProcess s i) := by
  cases hpid : s.current i with
  | none => rwa [netifdKillProcess_none hpid]
  | some pid =>
    obtain ⟨c, hc, rfl, hby, halive⟩ := (h.runs i pid).mp hpid
    exact h.ended hpid (netifdKillProcess_ended h hpid) (if_pos rfl)
      ⟨c, child_of_mem h hc, hby, halive⟩

theorem current_netifdKillProcess {s : Processes ι} (h : Sound s) (i j : ι) :
    (ChildProcesses.netifdKillProcess s i).current j = if j = i then none else s.current j := by
  cases hpid : s.current i with
  | none =>
    rw [netifdKillProcess_none hpid]
    split_ifs with hj
    · rw [hj, hpid]
    · rfl
  | some pid => exact (netifdKillProcess_ended h hpid).current j

theorem pids_fork {s : Processes ι} (h : Sound s) {pid : ℕ}
    (hpid : pid ∉ s.children.map (·.pid)) (startedBy : Option ι) :
    ((s.fork startedBy pid).children.map (·.pid)).Nodup := by
  rw [Processes.fork, List.map_append]
  exact List.nodup_append_comm.mp (List.nodup_cons.mpr ⟨hpid, h.pids⟩)

omit [DecidableEq ι] in
theorem runs_fork (s : Processes ι) (startedBy : Option ι) (pid : ℕ) (j : ι) (n : ℕ) :
    (s.fork startedBy pid).Runs j n ↔ s.Runs j n ∨ startedBy = some j ∧ n = pid := by
  constructor
  · rintro ⟨c, hc, hpid, hby, halive⟩
    rcases List.mem_append.mp hc with hc | hc
    · exact .inl ⟨c, hc, hpid, hby, halive⟩
    · obtain rfl := List.mem_singleton.mp hc
      exact .inr ⟨hby, hpid.symm⟩
  · rintro (⟨c, hc, hpid, hby, halive⟩ | ⟨rfl, rfl⟩)
    · exact ⟨c, List.mem_append_left _ hc, hpid, hby, halive⟩
    · exact ⟨_, List.mem_append_right _ (List.mem_singleton_self _), rfl, rfl, rfl⟩

theorem uloopAdd_idle {s : Processes ι} {i : ι} {pid : ℕ} (hnone : s.current i = none) :
    (s.modify i ({ · with pid })).uloopAdd i =
      { s.modify i ({ · with pid }) with
        uloopProcesses := s.uloopProcesses ++ [i] }.modify i ({ · with pending := true }) := by
  have hidle : (s.proc i).pending = false := by simpa [Processes.current] using hnone
  apply if_neg
  simp [Processes.modify, hidle]

theorem watchChild_started {s : Processes ι} (h : Sound s) {i : ι} {pid : ℕ}
    (hnone : s.current i = none) (hpid : pid ∉ s.children.map (·.pid)) :
    Started s (watchChild (s.fork (some i) pid) i pid) i pid := by
  rw [watchChild, uloopAdd_idle (s := s.fork (some i) pid) hnone]
  constructor
  case pids => exact pids_fork h hpid _
  case runs =>
    intro j n
    refine (runs_fork s (some i) pid j n).trans ?_
    rw [Option.some.injEq, eq_comm]
  case current =>
    intro j
    by_cases hj : j = i
    · subst hj
      simp [Processes.current, Processes.event, Processes.modify, NetifdProcess.streamInit]
    · simp [Processes.current, Processes.event, Processes.modify, Processes.fork, hj]
  all_goals rfl

theorem netifdStartProcess_sound {s : Processes ι} (h : Sound s) (i : ι) (pipe : Bool)
    (fork : Fork) : Sound (netifdStartProcess s i pipe fork).2 := by
  have hkilled := h.netifdKillProcess i
  have hnone : (netifdKillProcess s i).current i = none := by
    rw [current_netifdKillProcess h, if_pos rfl]
  rw [netifdStartProcess]
  split_ifs
  · exact hkilled
  · cases hfork : fork.pid ((netifdKillProcess s i).children.map (·.pid)) with
    | none => exact hkilled
    | some pid =>
      exact hkilled.started hnone (watchChild_started hkilled hnone (fork.unused _ pid hfork))

variable (bufferLen : ℕ)

theorem readOutputs_same (rest : List (List Char)) (p : NetifdProcess) :
    (rest.foldl (fun p data => readOutput bufferLen data p) p).pid = p.pid ∧
      (rest.foldl (fun p data => readOutput bufferLen data p) p).pending = p.pending := by
  induction rest generalizing p with
  | nil => exact ⟨rfl, rfl⟩
  | cons data rest ih => exact ih (readOutput bufferLen data p)

theorem Sound.kill_all {s : Processes ι} (h : Sound s) : Sound (netifdKillProcesses s) := by
  rw [netifdKillProcesses]
  generalize s.processList = l
  induction l generalizing s with
  | nil => exact h
  | cons i l ih => exact ih (h.netifdKillProcess i)

omit [DecidableEq ι] in
theorem runs_reaped (s : Processes ι) (pid : ℕ) (j : ι) (n : ℕ) :
    ({ s with children := s.children.filter (·.pid ≠ pid) } : Processes ι).Runs j n ↔
      s.Runs j n ∧ n ≠ pid := by
  constructor
  · rintro ⟨c, hc, rfl, hby, halive⟩
    obtain ⟨hc, hne⟩ := List.mem_filter.mp hc
    exact ⟨⟨c, hc, rfl, hby, halive⟩, by simpa using hne⟩
  · rintro ⟨⟨c, hc, rfl, hby, halive⟩, hne⟩
    exact ⟨c, List.mem_filter.mpr ⟨hc, by simpa using hne⟩, rfl, hby, halive⟩

theorem current_of_find {s : Processes ι} (h : Sound s) {pid : ℕ} {i : ι}
    (hfind : s.uloopProcesses.find? (fun i => (s.proc i).pid = pid) = some i) :
    s.current i = some pid := by
  have hmem := List.mem_of_find?_eq_some hfind
  have hpid : (s.proc i).pid = pid := by simpa using List.find?_some hfind
  rw [h.registered, h.listed, Processes.current] at hmem
  rw [Processes.current]
  split_ifs at hmem ⊢
  · rw [hpid]
  · cases hmem

theorem find_of_current {s : Processes ι} (h : Sound s) {pid : ℕ} {i : ι}
    (hcurrent : s.current i = some pid) :
    s.uloopProcesses.find? (fun i => (s.proc i).pid = pid) = some i := by
  obtain ⟨hpending, hpid⟩ := pending_of_current hcurrent
  have hmem : i ∈ s.uloopProcesses := by
    rw [h.registered, h.listed, hcurrent]
    rfl
  cases hfind : s.uloopProcesses.find? (fun i => (s.proc i).pid = pid) with
  | none => simpa [hpid] using List.find?_eq_none.mp hfind i hmem
  | some j =>
    rw [h.eq_of_runs ((h.runs i pid).mp hcurrent) ((h.runs j pid).mp (current_of_find h hfind))]

theorem uloopProcessEnded_called {s : Processes ι} (h : Sound s) {c : Child ι}
    (hc : c ∈ s.children) {status : ℤ} (hended : c.ended = some status) {i : ι}
    (hcurrent : s.current i = some c.pid) (rest : List (List Char)) :
    Ended s (uloopProcessEnded bufferLen s c.pid rest) i c.pid (.called c.pid status) := by
  obtain ⟨hpending, hpid⟩ := pending_of_current hcurrent
  have hfound := find_of_current h hcurrent
  have hchild := child_of_mem h hc
  obtain ⟨pid, startedBy, killed, ended⟩ := c
  obtain rfl : ended = some status := hended
  rw [uloopProcessEnded, hchild]
  simp only
  rw [hfound]
  simp only [netifdProcessCb]
  constructor
  case current =>
    intro j
    refine (current_netifdDeleteProcess _ i j).trans ?_
    rw [current_modify _ i _ (fun p => (readOutputs_same bufferLen rest p).1)
      (fun p => (readOutputs_same bufferLen rest p).2), current_uloopDelete]
    rfl
  all_goals rw [uloopDelete_pending (by exact hpending)]
  case pids => exact h.pids.sublist (List.filter_sublist.map _)
  case runs => exact runs_reaped s pid
  case events =>
    simp [Processes.event, netifdDeleteProcess, Processes.modify,
      (readOutputs_same bufferLen rest _).1, hpid]
  all_goals rfl

theorem uloopProcessEnded_kept {s : Processes ι} (h : Sound s) {pid : ℕ}
    (hnone : ∀ i, s.current i ≠ some pid) (rest : List (List Char)) :
    Kept s (uloopProcessEnded bufferLen s pid rest) := by
  have hfind : s.uloopProcesses.find? (fun i => (s.proc i).pid = pid) = none := by
    cases hfind : s.uloopProcesses.find? (fun i => (s.proc i).pid = pid) with
    | none => rfl
    | some i => exact absurd (current_of_find h hfind) (hnone i)
  have hrefl : Kept s s := ⟨h.pids, fun _ _ => .rfl, fun _ => rfl, rfl, rfl, rfl⟩
  rw [uloopProcessEnded]
  split
  · simp only [hfind]
    refine ⟨h.pids.sublist (List.filter_sublist.map _), ?_, fun _ => rfl, rfl, rfl, rfl⟩
    intro j n
    refine (runs_reaped s pid j n).trans ⟨And.left, fun hruns => ⟨hruns, ?_⟩⟩
    rintro rfl
    exact hnone j ((h.runs j n).mpr hruns)
  · exact hrefl

theorem Sound.childEnded {s : Processes ι} (h : Sound s) (pid : ℕ) (rest : List (List Char)) :
    Sound (uloopProcessEnded bufferLen s pid rest) := by
  by_cases hnone : ∀ i, s.current i ≠ some pid
  · exact h.kept (uloopProcessEnded_kept bufferLen h hnone rest)
  · obtain ⟨i, hcurrent⟩ := not_forall_not.mp hnone
    obtain ⟨c, hc, rfl, -, -⟩ := (h.runs i pid).mp hcurrent
    cases hended : c.ended with
    | none =>
      have hsame : uloopProcessEnded bufferLen s c.pid rest = s := by
        have hchild := child_of_mem h hc
        obtain ⟨pid, startedBy, killed, ended⟩ := c
        obtain rfl : ended = none := hended
        rw [uloopProcessEnded, hchild]
      rwa [hsame]
    | some status =>
      exact h.ended hcurrent (uloopProcessEnded_called bufferLen h hc hended hcurrent rest)
        (if_pos rfl) trivial

omit [DecidableEq ι] in
theorem Child.ends_same (c : Child ι) (pid : ℕ) (status : ℤ) :
    (c.ends pid status).pid = c.pid ∧ (c.ends pid status).startedBy = c.startedBy ∧
      (c.ends pid status).killed = c.killed := by
  rw [Child.ends]
  split_ifs <;> exact ⟨rfl, rfl, rfl⟩

theorem childEnds_kept {s : Processes ι} (h : Sound s) (pid : ℕ) (status : ℤ) :
    Kept s (processStep bufferLen s (.childEnds pid status)) := by
  refine ⟨?_, ?_, fun _ => rfl, rfl, rfl, rfl⟩
  · have hpids : (s.children.map fun c => c.ends pid status).map (·.pid) =
        s.children.map (·.pid) := by
      rw [List.map_map]
      exact List.map_congr_left fun c _ => (c.ends_same pid status).1
    exact hpids ▸ h.pids
  · intro j n
    constructor
    · rintro ⟨c', hc', hpid, hby, halive⟩
      obtain ⟨c, hc, rfl⟩ := List.mem_map.mp hc'
      obtain ⟨hpid', hby', halive'⟩ := c.ends_same pid status
      exact ⟨c, hc, hpid'.symm.trans hpid, hby'.symm.trans hby, halive'.symm.trans halive⟩
    · rintro ⟨c, hc, hpid, hby, halive⟩
      obtain ⟨hpid', hby', halive'⟩ := c.ends_same pid status
      exact ⟨_, List.mem_map.mpr ⟨c, hc, rfl⟩, hpid'.trans hpid, hby'.trans hby,
        halive'.trans halive⟩

theorem forkOther_kept {s : Processes ι} (h : Sound s) (fork : Fork) :
    Kept s (processStep bufferLen s (.forkOther fork)) := by
  rw [processStep]
  cases hfork : fork.pid (s.children.map (·.pid)) with
  | none => exact ⟨h.pids, fun _ _ => .rfl, fun _ => rfl, rfl, rfl, rfl⟩
  | some pid =>
    refine ⟨pids_fork h (fork.unused _ pid hfork) none, ?_, fun _ => rfl, rfl, rfl, rfl⟩
    intro j n
    rw [runs_fork]
    simp

theorem output_kept {s : Processes ι} (h : Sound s) (i : ι) (data : List Char) :
    Kept s (processStep bufferLen s (.output i data)) := by
  rw [processStep]
  split_ifs
  · refine ⟨h.pids, fun _ _ => .rfl, ?_, rfl, rfl, rfl⟩
    exact current_modify s i _ (fun _ => rfl) fun _ => rfl
  · exact ⟨h.pids, fun _ _ => .rfl, fun _ => rfl, rfl, rfl, rfl⟩

theorem Sound.step {s : Processes ι} (h : Sound s) (op : ProcessOp ι) :
    Sound (processStep bufferLen s op) := by
  cases op with
  | start i pipe fork => exact netifdStartProcess_sound h i pipe fork
  | kill i => exact h.netifdKillProcess i
  | killAll => exact h.kill_all
  | forkOther fork => exact h.kept (forkOther_kept bufferLen h fork)
  | output i data => exact h.kept (output_kept bufferLen h i data)
  | childEnds pid status => exact h.kept (childEnds_kept bufferLen h pid status)
  | wait pid rest => exact h.childEnded bufferLen pid rest

/-- Nothing has been started. -/
def idleProcesses (prefixes : ι → Option (List Char)) : Processes ι :=
  { proc := fun i => { logPrefix := prefixes i } }

theorem sound_idle (prefixes : ι → Option (List Char)) : Sound (idleProcesses prefixes) where
  pids := List.nodup_nil
  runs i pid := by simp [idleProcesses, Processes.current, Processes.Runs]
  listed i := by simp [idleProcesses, Processes.current]
  once := List.nodup_nil
  registered := rfl
  own := by simp [idleProcesses]
  follows i := rfl

theorem sound_run (prefixes : ι → Option (List Char)) (ops : List (ProcessOp ι)) :
    Sound (run (processStep bufferLen) (idleProcesses prefixes) ops) :=
  run_invariant (fun _ op h => h.step bufferLen op) (sound_idle prefixes) ops

/-- Whatever the daemon, its children and the kernel do, every start of a process is followed by
at most one callback and by none after a kill, a kill is only ever sent to a child that was
started for the process and is still there, and the processes that are awaited are those with a
child that has not been killed. -/
theorem processes_accounted (prefixes : ι → Option (List Char)) (ops : List (ProcessOp ι)) :
    let s := run (processStep bufferLen) (idleProcesses prefixes) ops
    (∀ i, (s.eventsOf i).foldlM lifecycle none = some (s.current i)) ∧
      (∀ i pid child, (i, .signalled pid child) ∈ s.events →
        ∃ c, child = some c ∧ c.startedBy = some i ∧ c.killed = false) ∧
      ∀ i pid, s.current i = some pid ↔ s.Runs i pid := by
  have h := sound_run bufferLen prefixes ops
  exact ⟨h.follows, fun i pid child hmem => h.own _ hmem, h.runs⟩

/-- Nobody but the process that a child was started for hears of its end, and it does unless it
has killed the child. -/
theorem end_is_told (prefixes : ι → Option (List Char)) (ops : List (ProcessOp ι)) {c : Child ι}
    (hc : c ∈ (run (processStep bufferLen) (idleProcesses prefixes) ops).children) {status : ℤ}
    (hended : c.ended = some status) (rest : List (List Char)) :
    (run (processStep bufferLen) (idleProcesses prefixes) (ops ++ [.wait c.pid rest])).events =
      (run (processStep bufferLen) (idleProcesses prefixes) ops).events ++
        if c.killed then []
        else c.startedBy.toList.map fun i => (i, .called c.pid status) := by
  have h := sound_run bufferLen prefixes ops
  rw [run, List.foldl_append]
  change (uloopProcessEnded bufferLen (run (processStep bufferLen) _ ops) c.pid rest).events = _
  generalize run (processStep bufferLen) (idleProcesses prefixes) ops = s at *
  by_cases hlive : ∃ i, c.startedBy = some i ∧ c.killed = false
  · obtain ⟨i, hby, halive⟩ := hlive
    have hcurrent := (h.runs i c.pid).mpr ⟨c, hc, rfl, hby, halive⟩
    rw [(uloopProcessEnded_called bufferLen h hc hended hcurrent rest).events, hby, halive]
    rfl
  · have hnone : ∀ i, s.current i ≠ some c.pid := by
      intro i hcurrent
      obtain ⟨c', hc', hpid, hby, halive⟩ := (h.runs i c.pid).mp hcurrent
      obtain rfl := eq_of_pid h hc' hc hpid
      exact hlive ⟨i, hby, halive⟩
    rw [(uloopProcessEnded_kept bufferLen h hnone rest).events]
    cases hkilled : c.killed with
    | true => simp
    | false =>
      cases hby : c.startedBy with
      | none => simp
      | some i => exact absurd ⟨i, hby, hkilled⟩ hlive

theorem current_killAll {s : Processes ι} (h : Sound s) (l : List ι) (j : ι) :
    (l.foldl netifdKillProcess s).current j = if j ∈ l then none else s.current j := by
  induction l generalizing s with
  | nil => rfl
  | cons i l ih =>
    rw [List.foldl_cons, ih (h.netifdKillProcess i), current_netifdKillProcess h]
    by_cases hj : j = i <;> simp [hj]

/-- At the end no process is awaited, and every child that was started for one has been
killed. -/
theorem all_killed_at_end (prefixes : ι → Option (List Char)) (ops : List (ProcessOp ι)) :
    let s := run (processStep bufferLen) (idleProcesses prefixes) (ops ++ [.killAll])
    (∀ i, s.current i = none) ∧ s.processList = [] ∧
      ∀ c ∈ s.children, c.startedBy ≠ none → c.killed = true := by
  have h := sound_run bufferLen prefixes ops
  have hend := sound_run bufferLen prefixes (ops ++ [.killAll])
  have hs : run (processStep bufferLen) (idleProcesses prefixes) (ops ++ [.killAll]) =
      netifdKillProcesses (run (processStep bufferLen) (idleProcesses prefixes) ops) := by
    rw [run, List.foldl_append]
    rfl
  rw [hs] at hend ⊢
  have hnone : ∀ i, (netifdKillProcesses
      (run (processStep bufferLen) (idleProcesses prefixes) ops)).current i = none := by
    intro i
    rw [netifdKillProcesses, current_killAll h]
    split_ifs with hi
    · rfl
    · rwa [h.listed, Option.not_isSome_iff_eq_none] at hi
  refine ⟨hnone, ?_, ?_⟩
  · rw [List.eq_nil_iff_forall_not_mem]
    intro i hi
    rw [hend.listed, hnone] at hi
    cases hi
  · intro c hc hby
    obtain ⟨i, hby⟩ := Option.ne_none_iff_exists'.mp hby
    by_contra hkilled
    have hruns := (hend.runs i c.pid).mpr ⟨c, hc, rfl, hby, by simpa using hkilled⟩
    rw [hnone] at hruns
    cases hruns

variable {bufferLen}

/-- The reader of lines after what has been read since the start. -/
def NetifdProcess.reader (p : NetifdProcess) (bufferLen : ℕ) : List (Report Char) × Reader Char :=
  pushes '\n' bufferLen { skipping := p.skipped } p.sent

/-- What has been logged since the start are the reports of the reader. -/
structure Logged (bufferLen : ℕ) (p : NetifdProcess) : Prop where
  messages : p.messages = (p.reader bufferLen).1.map (logged (logMessage p))
  overflow : p.log.overflow = (p.reader bufferLen).2.skipping
  text : '\x00' ∉ p.sent

/-- The stream holds what the reader keeps. -/
def Reading (bufferLen : ℕ) (p : NetifdProcess) : Prop :=
  p.log.readBuf = (p.reader bufferLen).2.kept

/-- Only streams that are read from hold anything. -/
structure LogsSound (bufferLen : ℕ) (s : Processes ι) : Prop where
  logged : ∀ i, Logged bufferLen (s.proc i)
  reading : ∀ i ∈ s.processList, Reading bufferLen (s.proc i)
  short : ∀ i, (s.proc i).log.readBuf.length < bufferLen

theorem Logged.read (hpos : 0 < bufferLen) {p : NetifdProcess} (h : Logged bufferLen p)
    (hread : Reading bufferLen p) {data : List Char} (hdata : '\x00' ∉ data) :
    Logged bufferLen (readOutput bufferLen data p) ∧
      Reading bufferLen (readOutput bufferLen data p) := by
  have hready : (p.reader bufferLen).2.Ready '\n' bufferLen :=
    (Reader.ready_start hpos p.skipped).pushes p.sent
  have hkept : '\x00' ∉ (p.reader bufferLen).2.kept := by
    intro hmem
    rcases mem_of_mem_kept hmem with hmem | hmem
    · cases hmem
    · exact h.text hmem
  have hlog : p.log = ofReader (p.reader bufferLen).2 := by
    rw [ofReader, ← hread, ← h.overflow]
  have hroom : p.log.readBuf.length = (p.reader bufferLen).2.kept.length := by rw [hread]
  have hcb := processLogReadCb_eq bufferLen (logMessage p) hready hkept hdata
  have happend : (readOutput bufferLen data p).reader bufferLen =
      ((p.reader bufferLen).1 ++ (pushes '\n' bufferLen (p.reader bufferLen).2
          (data.take (bufferLen - p.log.readBuf.length))).1,
        (pushes '\n' bufferLen (p.reader bufferLen).2
          (data.take (bufferLen - p.log.readBuf.length))).2) :=
    pushes_append _ _ _
  rw [← hlog, ← hroom] at hcb
  refine ⟨⟨?_, ?_, ?_⟩, ?_⟩
  · rw [happend, List.map_append]
    simp only [readOutput, hcb, h.messages]
    rfl
  · rw [happend]
    simp only [readOutput, hcb]
    rfl
  · intro hmem
    rcases List.mem_append.mp hmem with hmem | hmem
    · exact h.text hmem
    · exact hdata (List.mem_of_mem_take hmem)
  · rw [Reading, happend]
    simp only [readOutput, hcb]
    rfl

theorem readOutput_short (hpos : 0 < bufferLen) {p : NetifdProcess}
    (hlen : p.log.readBuf.length < bufferLen) (data : List Char) :
    (readOutput bufferLen data p).log.readBuf.length < bufferLen := by
  apply readLoop_short _ _ hpos
  rw [List.length_append, List.length_take]
  omega

theorem Logged.reads (hpos : 0 < bufferLen) {p : NetifdProcess} (h : Logged bufferLen p)
    (hread : Reading bufferLen p) {rest : List (List Char)}
    (hrest : ∀ data ∈ rest, '\x00' ∉ data) :
    Logged bufferLen (rest.foldl (fun p data => readOutput bufferLen data p) p) := by
  induction rest generalizing p with
  | nil => exact h
  | cons data rest ih =>
    obtain ⟨hlogged, hreading⟩ := h.read hpos hread (hrest data List.mem_cons_self)
    exact ih hlogged hreading fun d hd => hrest d (List.mem_cons_of_mem _ hd)

/-- A process of which nothing is read. -/
structure SameLog (p p' : NetifdProcess) : Prop where
  pid : p'.pid = p.pid
  logPrefix : p'.logPrefix = p.logPrefix
  overflow : p'.log.overflow = p.log.overflow
  skipped : p'.skipped = p.skipped
  sent : p'.sent = p.sent
  messages : p'.messages = p.messages

theorem Logged.same {p p' : NetifdProcess} (h : Logged bufferLen p) (hsame : SameLog p p') :
    Logged bufferLen p' := by
  have hmessage : logMessage p' = logMessage p := by
    funext text more
    rw [logMessage, hsame.logPrefix, hsame.pid]
    rfl
  have hreader : p'.reader bufferLen = p.reader bufferLen := by
    rw [NetifdProcess.reader, hsame.skipped, hsame.sent]
    rfl
  exact ⟨by rw [hreader, hmessage, hsame.messages, h.messages],
    by rw [hreader, hsame.overflow, h.overflow], hsame.sent ▸ h.text⟩

theorem logged_streamInit (p : NetifdProcess) :
    Logged bufferLen p.streamInit ∧ Reading bufferLen p.streamInit :=
  ⟨⟨rfl, rfl, List.not_mem_nil⟩, rfl⟩

theorem LogsSound.change {s s' : Processes ι} (h : LogsSound bufferLen s) {i : ι}
    (hproc : ∀ j, j ≠ i → s'.proc j = s.proc j) (hlist : ∀ j ∈ s'.processList, j ≠ i →
      j ∈ s.processList)
    (hlogged : Logged bufferLen (s'.proc i))
    (hreading : i ∈ s'.processList → Reading bufferLen (s'.proc i))
    (hshort : (s'.proc i).log.readBuf.length < bufferLen) : LogsSound bufferLen s' := by
  constructor
  · intro j
    by_cases hj : j = i
    · exact hj ▸ hlogged
    · exact hproc j hj ▸ h.logged j
  · intro j hmem
    by_cases hj : j = i
    · subst hj
      exact hreading hmem
    · exact hproc j hj ▸ h.reading j (hlist j hmem hj)
  · intro j
    by_cases hj : j = i
    · exact hj ▸ hshort
    · exact hproc j hj ▸ h.short j

theorem LogsSound.delete {s s' : Processes ι} (h : LogsSound bufferLen s) (hpos : 0 < bufferLen)
    (honce : s.processList.Nodup) {i : ι} {p : NetifdProcess} (hp : Logged bufferLen p)
    (hsame : SameLog p (s'.proc i)) (hempty : (s'.proc i).log.readBuf = [])
    (hproc : ∀ j, j ≠ i → s'.proc j = s.proc j)
    (hlisted : s'.processList = s.processList.erase i) : LogsSound bufferLen s' := by
  apply h.change hproc
  · intro j hj _
    rw [hlisted] at hj
    exact List.mem_of_mem_erase hj
  · exact hp.same hsame
  · intro hi
    rw [hlisted, honce.mem_erase_iff] at hi
    exact absurd rfl hi.1
  · rw [hempty]
    exact hpos

theorem LogsSound.netifdKillProcess {s : Processes ι} (h : LogsSound bufferLen s) (hs : Sound s)
    (hpos : 0 < bufferLen) (i : ι) : LogsSound bufferLen (netifdKillProcess s i) := by
  by_cases hpending : (s.proc i).pending = true
  · rw [netifdKillProcess_eq hpending, uloopDelete_pending (by exact hpending)]
    apply h.delete (i := i) hpos hs.once (h.logged i)
    case hsame =>
      constructor <;> simp [netifdDeleteProcess, Processes.modify, NetifdProcess.streamFree,
        Processes.sigkill, Processes.event]
    case hempty => simp [netifdDeleteProcess, Processes.modify, NetifdProcess.streamFree]
    case hproc =>
      intro j hj
      simp [netifdDeleteProcess, Processes.modify, hj, Processes.sigkill, Processes.event]
    case hlisted => rfl
  · rwa [netifdKillProcess_none (by simp [Processes.current, hpending])]

theorem LogsSound.killAll {s : Processes ι} (h : LogsSound bufferLen s) (hs : Sound s)
    (hpos : 0 < bufferLen) : LogsSound bufferLen (netifdKillProcesses s) := by
  rw [netifdKillProcesses]
  generalize s.processList = l
  induction l generalizing s with
  | nil => exact h
  | cons i l ih => exact ih (h.netifdKillProcess hs hpos i) (hs.netifdKillProcess i)

theorem LogsSound.start {s : Processes ι} (h : LogsSound bufferLen s) (hs : Sound s)
    (hpos : 0 < bufferLen) (i : ι) (pipe : Bool) (fork : Fork) :
    LogsSound bufferLen (netifdStartProcess s i pipe fork).2 := by
  have hkilled := h.netifdKillProcess hs hpos i
  rw [netifdStartProcess]
  split_ifs
  · exact hkilled
  · cases hfork : fork.pid ((ChildProcesses.netifdKillProcess s i).children.map (·.pid)) with
    | none => exact hkilled
    | some pid =>
      have hnone : ((ChildProcesses.netifdKillProcess s i).fork (some i) pid).current i = none :=
        (current_netifdKillProcess hs i i).trans (if_pos rfl)
      have hstarted : ∃ p : NetifdProcess,
          (watchChild ((ChildProcesses.netifdKillProcess s i).fork (some i) pid) i pid).proc i =
            p.streamInit := by
        rw [watchChild, uloopAdd_idle hnone]
        exact ⟨_, Function.update_self ..⟩
      obtain ⟨p, hp⟩ := hstarted
      change LogsSound bufferLen
        (watchChild ((ChildProcesses.netifdKillProcess s i).fork (some i) pid) i pid)
      apply hkilled.change (i := i)
      case hproc =>
        intro j hj
        rw [watchChild, uloopAdd_idle hnone]
        simp [Processes.event, Processes.modify, Processes.fork, hj]
      case hlist =>
        intro j hj hne
        rw [watchChild, uloopAdd_idle hnone] at hj
        rcases List.mem_append.mp hj with hj | hj
        · exact hj
        · exact absurd (List.mem_singleton.mp hj) hne
      case hlogged => exact hp ▸ (logged_streamInit p).1
      case hreading => exact fun _ => hp ▸ (logged_streamInit p).2
      case hshort => exact hp ▸ hpos

theorem LogsSound.childEnded {s : Processes ι} (h : LogsSound bufferLen s) (hs : Sound s)
    (hpos : 0 < bufferLen) (pid : ℕ) {rest : List (List Char)}
    (hrest : ∀ data ∈ rest, '\x00' ∉ data) :
    LogsSound bufferLen (uloopProcessEnded bufferLen s pid rest) := by
  rw [uloopProcessEnded]
  split
  · dsimp only
    split
    case h_1 i hfind =>
      have hcurrent := current_of_find hs hfind
      obtain ⟨hpending, -⟩ := pending_of_current hcurrent
      have hlisted : i ∈ s.processList := by
        rw [hs.listed, hcurrent]
        rfl
      have hidle : SameLog (s.proc i) { s.proc i with pending := false } :=
        ⟨rfl, rfl, rfl, rfl, rfl, rfl⟩
      rw [uloopDelete_pending (by exact hpending), netifdProcessCb]
      apply h.delete (i := i) hpos hs.once
        (((h.logged i).same hidle).reads hpos (h.reading i hlisted) hrest)
      case hsame =>
        constructor <;> simp [netifdDeleteProcess, Processes.modify, NetifdProcess.streamFree,
          Processes.event]
      case hempty =>
        simp [netifdDeleteProcess, Processes.modify, NetifdProcess.streamFree, Processes.event]
      case hproc =>
        intro j hj
        simp [netifdDeleteProcess, Processes.modify, hj, Processes.event]
      case hlisted => rfl
    case h_2 => exact ⟨h.logged, h.reading, h.short⟩
  · exact h

theorem LogsSound.output {s : Processes ι} (h : LogsSound bufferLen s) (hpos : 0 < bufferLen)
    (i : ι) {data : List Char} (hdata : '\x00' ∉ data) :
    LogsSound bufferLen (processStep bufferLen s (.output i data)) := by
  rw [processStep]
  split_ifs with hi
  · obtain ⟨hlogged, hreading⟩ := (h.logged i).read hpos (h.reading i hi) hdata
    have hat : (s.modify i (readOutput bufferLen data)).proc i =
        readOutput bufferLen data (s.proc i) := Function.update_self ..
    apply h.change (i := i)
    case hproc => exact fun j hj => Function.update_of_ne hj ..
    case hlist => exact fun j hj _ => hj
    case hlogged => exact hat ▸ hlogged
    case hreading => exact fun _ => hat ▸ hreading
    case hshort => exact hat ▸ readOutput_short hpos (h.short i) data
  · exact h

/-- What comes in on the streams has no NUL in it. -/
def Plain : ProcessOp ι → Prop
  | .output _ data => '\x00' ∉ data
  | .wait _ rest => ∀ data ∈ rest, '\x00' ∉ data
  | _ => True

theorem LogsSound.step {s : Processes ι} (h : LogsSound bufferLen s) (hs : Sound s)
    (hpos : 0 < bufferLen) {op : ProcessOp ι} (hop : Plain op) :
    LogsSound bufferLen (processStep bufferLen s op) := by
  cases op with
  | start i pipe fork => exact h.start hs hpos i pipe fork
  | kill i => exact h.netifdKillProcess hs hpos i
  | killAll => exact h.killAll hs hpos
  | forkOther fork =>
    rw [processStep]
    cases fork.pid (s.children.map (·.pid)) with
    | none => exact h
    | some pid => exact ⟨h.logged, h.reading, h.short⟩
  | output i data => exact h.output hpos i hop
  | childEnds pid status => exact ⟨h.logged, h.reading, h.short⟩
  | wait pid rest => exact h.childEnded hs hpos pid hop

/-- What is logged of a process since its start are the lines of what has been read from it,
however it came in: each line that has ended, or its beginning if it is too long for the buffer.
If the process before it ended within such a line, the first line is lost. -/
theorem output_logged_by_lines (hpos : 0 < bufferLen) (prefixes : ι → Option (List Char))
    {ops : List (ProcessOp ι)} (hops : ∀ op ∈ ops, Plain op) (i : ι) :
    let p := (run (processStep bufferLen) (idleProcesses prefixes) ops).proc i
    p.messages = (streamReports '\n' bufferLen p.skipped p.sent).map (logged (logMessage p)) ∧
      p.log.overflow = skipsAfter '\n' bufferLen p.skipped p.sent ∧
      p.log.readBuf.length < bufferLen := by
  have hstart : Sound (idleProcesses prefixes) ∧ LogsSound bufferLen (idleProcesses prefixes) :=
    ⟨sound_idle prefixes,
      ⟨fun _ => ⟨rfl, rfl, List.not_mem_nil⟩, fun _ hi => absurd hi List.not_mem_nil,
        fun _ => hpos⟩⟩
  have hrun := List.foldlRecOn (motive := fun s => Sound s ∧ LogsSound bufferLen s) ops
    (processStep bufferLen) hstart fun s h op hop =>
      ⟨h.1.step bufferLen op, h.2.step h.1 hpos (hops op hop)⟩
  obtain ⟨hmessages, hoverflow, -⟩ := hrun.2.logged i
  rw [NetifdProcess.reader, pushes_stream hpos] at hmessages hoverflow
  refine ⟨hmessages, ?_, hrun.2.short i⟩
  refine hoverflow.trans ?_
  split_ifs with hskips
  · exact hskips.symm
  · exact (eq_false_of_ne_true hskips).symm

end Accounting

/-- A pid, if no child has it. -/
def Fork.at (n : ℕ) : Fork where
  pid used := if n ∈ used then none else some n
  unused used m h := by
    split_ifs at h with hn
    obtain rfl := Option.some.inj h
    exact hn

/-- The first line is longer than the buffer, and the process is killed before the line ends;
that of the next process is lost. -/
def restartedProcess : List (ProcessOp Unit) :=
  [.start () true (.at 7), .output () "twelve".toList, .childEnds 7 0, .kill (),
    .start () true (.at 8), .output () "one\n".toList, .output () "two\n".toList]

theorem output_logged_by_lines_restarted :
    let p := (run (processStep 6) (idleProcesses fun _ => none) restartedProcess).proc ()
    p.messages = (streamReports '\n' 6 p.skipped p.sent).map (logged (logMessage p)) ∧
      p.log.overflow = skipsAfter '\n' 6 p.skipped p.sent ∧ p.log.readBuf.length < 6 :=
  output_logged_by_lines (by decide) (fun _ => none)
    (by simp [restartedProcess, Plain]) ()

/-- One process is killed and started again while another one runs. -/
def restartedBeside : List (ProcessOp Bool) :=
  [.start true true (.at 7), .start false true (.at 9), .kill true, .start true true (.at 8),
    .childEnds 7 (-1), .wait 7 [], .childEnds 8 0]

theorem end_is_told_restarted :
    (run (processStep 6) (idleProcesses fun _ => none) (restartedBeside ++ [.wait 8 []])).events =
      [(true, .started 7), (false, .started 9),
        (true, .signalled 7 (some { pid := 7, startedBy := some true })), (true, .started 8),
        (true, .called 8 0)] :=
  end_is_told (ι := Bool) 6 (fun _ => none) restartedBeside
    (c := { pid := 8, startedBy := some true, ended := some 0 }) (by decide) rfl []

end Netifd.ChildProcesses
