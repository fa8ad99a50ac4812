import Netifd.GuardedRuns
import Netifd.PrefixShifts

/-!
# When assignments are made anew

The assignments of a prefix are made when it arrives. After that they follow the configuration
only as far as `interface_refresh_assignments` has been told of a change by the time it is called
at the end of `config_init_all`.
-/

namespace Netifd.AssignmentRefresh
open IntervalPacking GuardedRuns PrefixShifts

/-- What `interface_alloc` makes (`interfaceAlloc_hinted`). -/
structure ConfiguredInterface extends AssignedInterface where
  hinted : toAssignedInterface.Hinted

structure HintedTable extends InterfaceTable where
  hinted : toInterfaceTable.Hinted

theorem sorted_put {l : List AssignedInterface} (h : l.Pairwise fun a b => a.name < b.name)
    (iface : AssignedInterface) :
    ((l.filter (·.name < iface.name)) ++ iface :: l.filter (iface.name < ·.name)).Pairwise
      fun a b => a.name < b.name := by
  rw [List.pairwise_append, List.pairwise_cons]
  refine ⟨h.filter _, ⟨?_, h.filter _⟩, ?_⟩
  · intro b hb
    simpa using (List.mem_filter.mp hb).2
  · intro a ha b hb
    have hlow : a.name < iface.name := by simpa using (List.mem_filter.mp ha).2
    rcases List.mem_cons.mp hb with rfl | hb
    · exact hlow
    · exact hlow.trans (by simpa using (List.mem_filter.mp hb).2)

theorem mem_put {l : List AssignedInterface} {iface j : AssignedInterface}
    (h : j ∈ l.filter (·.name < iface.name) ++ iface :: l.filter (iface.name < ·.name)) :
    j = iface ∨ j ∈ l := by
  rcases List.mem_append.mp h with h | h
  · exact Or.inr (List.mem_filter.mp h).1
  · rcases List.mem_cons.mp h with rfl | h
    · exact Or.inl rfl
    · exact Or.inr (List.mem_filter.mp h).1

/-- The interface under its name, new or in the place of an old one. -/
def put (t : HintedTable) (iface : ConfiguredInterface) : HintedTable where
  elements := t.elements.filter (·.name < iface.name) ++
    iface.toAssignedInterface :: t.elements.filter (iface.name < ·.name)
  sorted := sorted_put t.sorted iface.toAssignedInterface
  hinted j hj := (mem_put hj).elim (fun h => h ▸ iface.hinted) (t.hinted j)

/-- `avl_delete`. -/
def remove (t : HintedTable) (name : String) : HintedTable where
  elements := t.elements.filter (·.name ≠ name)
  sorted := t.sorted.filter _
  hinted j hj := t.hinted j (List.mem_filter.mp hj).1

/-- `vlist_find`. -/
def find (t : HintedTable) (name : String) : Option AssignedInterface :=
  t.elements.find? (·.name = name)

/-- The loop of `interface_merge_assignment_data` over the classes and what follows it: whether
there was a change. -/
def classesChanged : Bool → List String → List String → Bool
  | changed, old, [] => changed || !old.isEmpty
  | _, [], _ :: _ => true
  | changed, cOld :: old, c :: new =>
    if changed then true
    else if cOld ≠ c then true
    else classesChanged changed old new

/-- Whether `interface_merge_assignment_data` finds a change; `ifaceid` is that of the interface
identifier. -/
def assignmentChanged (ifaceid : Bool) (old new : AssignedInterface) : Bool :=
  classesChanged
    (old.assignmentHint != new.assignmentHint || old.assignmentLength != new.assignmentLength ||
      ifaceid || old.assignmentWeight != new.assignmentWeight ||
      old.assignmentClasses.isEmpty != new.assignmentClasses.isEmpty)
    old.assignmentClasses new.assignmentClasses

/-- What `interface_merge_assignment_data` leaves in the old interface. -/
def interfaceMergeAssignmentData (ifaceid : Bool) (old new : AssignedInterface) :
    AssignedInterface :=
  let merged := { old with assignmentClasses := new.assignmentClasses }
  if assignmentChanged ifaceid old new then
    { merged with
      assignmentHint := new.assignmentHint
      assignmentLength := new.assignmentLength
      assignmentWeight := new.assignmentWeight }
  else merged

theorem classesChanged_true (old new : List String) : classesChanged true old new = true := by
  cases old <;> cases new <;> rfl

theorem same_of_unchanged {ifaceid : Bool} {old new : AssignedInterface}
    (h : assignmentChanged ifaceid old new = false) :
    old.assignmentHint = new.assignmentHint ∧ old.assignmentLength = new.assignmentLength := by
  by_contra hne
  have hfirst : (old.assignmentHint != new.assignmentHint ||
      old.assignmentLength != new.assignmentLength) = true := by
    simp only [Bool.or_eq_true, bne_iff_ne]
    exact not_and_or.mp hne
  rw [assignmentChanged, hfirst] at h
  simp [classesChanged_true] at h

theorem merged_name (ifaceid : Bool) (old new : AssignedInterface) :
    (interfaceMergeAssignmentData ifaceid old new).name = old.name := by
  unfold interfaceMergeAssignmentData
  dsimp only
  split_ifs <;> rfl

theorem merged_eq (ifaceid : Bool) (old new : AssignedInterface) :
    let merged := interfaceMergeAssignmentData ifaceid old new
    merged.assignmentHint = new.assignmentHint ∧
      merged.assignmentLength = new.assignmentLength ∧
      merged.assignmentClasses = new.assignmentClasses := by
  unfold interfaceMergeAssignmentData
  dsimp only
  split_ifs with hchanged
  · exact ⟨rfl, rfl, rfl⟩
  · obtain ⟨hhint, hlength⟩ := same_of_unchanged (Bool.not_eq_true _ ▸ hchanged)
    exact ⟨hhint, hlength, rfl⟩

theorem merged_eligible (ifaceid : Bool) (old new : AssignedInterface) (p : DevicePrefix) :
    eligible p (interfaceMergeAssignmentData ifaceid old new) = eligible p new := by
  obtain ⟨-, hlength, hclasses⟩ := merged_eq ifaceid old new
  simp only [eligible, hlength, hclasses]

/-- The merged interface. -/
def ConfiguredInterface.merge (iface : ConfiguredInterface) (ifaceid : Bool)
    (old : AssignedInterface) : ConfiguredInterface where
  toAssignedInterface := interfaceMergeAssignmentData ifaceid old iface.toAssignedInterface
  hinted := by
    obtain ⟨hhint, hlength, -⟩ := merged_eq ifaceid old iface.toAssignedInterface
    exact ⟨hhint ▸ iface.hinted.int32, hhint ▸ hlength ▸ iface.hinted.aligned⟩

/-- The interfaces, the list of prefixes and the `refresh` of `interface_refresh_assignments`. -/
structure AssignmentState where
  interfaces : HintedTable
  prefixes : List DevicePrefix := []
  refresh : Bool := false

/-- `interface_update_prefix_assignments` in machine numbers. -/
def updatePrefixAssignments (interfaces : HintedTable) (p : DevicePrefix) : DevicePrefix :=
  { p with assignments := updateInt32 interfaces.toInterfaceTable p }

def interfaceRefreshAssignments (s : AssignmentState) (hint : Bool) : AssignmentState :=
  { s with
    prefixes :=
      if !hint && s.refresh then s.prefixes.map (updatePrefixAssignments s.interfaces)
      else s.prefixes
    refresh := hint }

/-- `interface_update` for a configuration, as far as it concerns assignments. -/
def interfaceUpdate (s : AssignmentState) (ifaceid : Bool) (iface : ConfiguredInterface) :
    AssignmentState :=
  match find s.interfaces iface.name with
  | some old =>
    let s' := { s with interfaces := put s.interfaces (iface.merge ifaceid old) }
    if assignmentChanged ifaceid old iface.toAssignedInterface then
      interfaceRefreshAssignments s' true
    else s'
  | none => { s with interfaces := put s.interfaces iface }

/-- What happens to interfaces and prefixes. -/
inductive AssignmentEvent
  | config (ifaceid : Bool) (iface : ConfiguredInterface)
  | freed (name : String)
  | prefixArrives (d : Delegation)
  | prefixAgain (n : ℕ) (d : Delegation)
  | prefixGone (n : ℕ)

/-- A prefix that is sent again takes the assignments over; its length is part of its key. -/
def sentAgain (old : DevicePrefix) (exclLength exclAddr : ℕ) (pclass : String) : DevicePrefix :=
  { old with exclLength, exclAddr, pclass }

def renewed (old : DevicePrefix) (d : Delegation) : DevicePrefix :=
  sentAgain old d.object.exclLength d.object.exclAddr d.object.pclass

/-- `interface_update`, `interface_do_free` and `interface_update_prefix`. -/
def assignmentEvent (s : AssignmentState) : AssignmentEvent → AssignmentState
  | .config ifaceid iface => interfaceUpdate s ifaceid iface
  | .freed name => { s with interfaces := remove s.interfaces name }
  | .prefixArrives d =>
    { s with prefixes := updatePrefixAssignments s.interfaces d.object :: s.prefixes }
  | .prefixAgain n d =>
    match s.prefixes[n]? with
    | some old => { s with prefixes := renewed old d :: s.prefixes.eraseIdx n }
    | none => s
  | .prefixGone n => { s with prefixes := s.prefixes.eraseIdx n }

/-- A single event, `config_init_all` with all that happens in it, or `netifd_add_dynamic`. -/
inductive AssignmentOp
  | event (e : AssignmentEvent)
  | configInitAll (events : List AssignmentEvent)
  | addDynamic (ifaceid : Bool) (iface : ConfiguredInterface)

def assignmentStep (s : AssignmentState) : AssignmentOp → AssignmentState
  | .event e => assignmentEvent s e
  | .configInitAll events => interfaceRefreshAssignments (run assignmentEvent s events) false
  | .addDynamic ifaceid iface => interfaceUpdate s ifaceid iface

/-- An interface has an entry, or there is no room for one. -/
def Served (p : DevicePrefix) (name : String) : Prop :=
  name ∈ p.assignments.map (·.name) ∨ TakenBy p p.assignments

/-- Every prefix serves all interfaces that it suits. -/
def Followed (s : AssignmentState) : Prop :=
  ∀ p ∈ s.prefixes, ∀ iface ∈ s.interfaces.elements, eligible p iface = true → Served p iface.name

/-- The prefixes that arrive can be cut up in the range of `int`. -/
def PrefixEventOk (s : AssignmentState) : AssignmentEvent → Prop
  | .prefixArrives d => 34 ≤ d.object.length ∧ d.object.ShiftsDefined
  | .prefixAgain n d => ∀ old, s.prefixes[n]? = some old → (renewed old d).ShiftsDefined
  | _ => True

/-- No prefix suits an interface that it did not suit before: an interface is configured under a
name that is there, and suits no other prefixes, or a prefix that is sent again suits no other
interfaces. -/
def SuitsNoMore (s : AssignmentState) : AssignmentEvent → Prop
  | .config _ iface => ∀ p ∈ s.prefixes, eligible p iface.toAssignedInterface = true →
    ∃ old, find s.interfaces iface.name = some old ∧ eligible p old = true
  | .prefixAgain n d => ∀ old, s.prefixes[n]? = some old →
    ∀ iface ∈ s.interfaces.elements,
      eligible (renewed old d) iface = true → eligible old iface = true
  | _ => True

def AssignmentEventOk (s : AssignmentState) (e : AssignmentEvent) : Prop :=
  PrefixEventOk s e ∧ SuitsNoMore s e

/-- An event that changes the assignment data of an interface that is there. -/
def ChangesAssignment (s : AssignmentState) : AssignmentEvent → Prop
  | .config ifaceid iface => ∃ old, find s.interfaces iface.name = some old ∧
    assignmentChanged ifaceid old iface.toAssignedInterface = true
  | _ => False

/-- A configuration changes the assignment data of some interface, and so all assignments are
made anew in the end, or no prefix suits more interfaces than before. -/
def AssignmentOk (s : AssignmentState) : AssignmentOp → Prop
  | .event e => AssignmentEventOk s e
  | .configInitAll events =>
    AllOk assignmentEvent PrefixEventOk s events ∧
        (s.refresh = true ∨ SomeOk assignmentEvent ChangesAssignment s events) ∨
      AllOk assignmentEvent AssignmentEventOk s events
  | .addDynamic ifaceid iface => SuitsNoMore s (.config ifaceid iface)

/-- All prefixes can be cut up in the range of `int`. -/
def PrefixesDefined (s : AssignmentState) : Prop := ∀ p ∈ s.prefixes, Defined p

theorem served_of_update (t : HintedTable) {p : DevicePrefix} (hp : Defined p)
    {iface : AssignedInterface} (hiface : iface ∈ t.elements) (helig : eligible p iface = true) :
    Served (updatePrefixAssignments t p) iface.name :=
  (hp.serves t.hinted hiface helig).imp_left HasEntry.listed

theorem find_name {t : HintedTable} {name : String} {old : AssignedInterface}
    (h : find t name = some old) : old.name = name := by
  simpa using List.find?_some h

theorem interfaceUpdate_eq (s : AssignmentState) (ifaceid : Bool) (iface : ConfiguredInterface) :
    (interfaceUpdate s ifaceid iface).prefixes = s.prefixes ∧
      ∃ j, (interfaceUpdate s ifaceid iface).interfaces = put s.interfaces j ∧
        j.name = iface.name ∧
        ∀ p, eligible p j.toAssignedInterface = eligible p iface.toAssignedInterface := by
  unfold interfaceUpdate
  cases hfind : find s.interfaces iface.name with
  | none => exact ⟨rfl, iface, rfl, rfl, fun _ => rfl⟩
  | some old =>
    have hname : (iface.merge ifaceid old).name = iface.name :=
      (merged_name ifaceid old iface.toAssignedInterface).trans (find_name hfind)
    have helig := merged_eligible ifaceid old iface.toAssignedInterface
    dsimp only
    split_ifs
    · exact ⟨rfl, iface.merge ifaceid old, rfl, hname, helig⟩
    · exact ⟨rfl, iface.merge ifaceid old, rfl, hname, helig⟩

theorem interfaceUpdate_followed {s : AssignmentState} (h : Followed s) {ifaceid : Bool}
    {iface : ConfiguredInterface} (hok : SuitsNoMore s (.config ifaceid iface)) :
    Followed (interfaceUpdate s ifaceid iface) := by
  obtain ⟨hprefixes, j, htable, hname, helig⟩ := interfaceUpdate_eq s ifaceid iface
  intro p hp i hi hsuits
  rw [hprefixes] at hp
  rw [htable] at hi
  rcases mem_put hi with rfl | hi
  · obtain ⟨old, hfind, hold⟩ := hok p hp ((helig p).symm.trans hsuits)
    rw [hname, ← find_name hfind]
    exact h p hp old (List.mem_of_find?_eq_some hfind) hold
  · exact h p hp i hi hsuits

theorem renewed_defined {d : Delegation} {old : DevicePrefix} (hold : Defined old)
    (hshifts : (renewed old d).ShiftsDefined) : Defined (renewed old d) :=
  ⟨hold.lower, hold.upper, d.exclAddr_lt, hshifts⟩

theorem assignmentEvent_defined {s : AssignmentState} {e : AssignmentEvent}
    (h : PrefixesDefined s) (hok : PrefixEventOk s e) : PrefixesDefined (assignmentEvent s e) := by
  cases e with
  | config ifaceid iface =>
    intro p hp
    exact h p ((interfaceUpdate_eq s ifaceid iface).1 ▸ hp)
  | freed name => exact h
  | prefixArrives d =>
    intro p hp
    rcases List.mem_cons.mp hp with rfl | hp
    · exact ⟨hok.1, d.length_le, d.exclAddr_lt, hok.2⟩
    · exact h p hp
  | prefixAgain n d =>
    cases hold : s.prefixes[n]? with
    | none => simpa only [assignmentEvent, hold] using h
    | some old =>
      simp only [assignmentEvent, hold]
      intro p hp
      rcases List.mem_cons.mp hp with rfl | hp
      · exact renewed_defined (h old (List.mem_of_getElem? hold)) (hok old hold)
      · exact h p (List.mem_of_mem_eraseIdx hp)
  | prefixGone n => exact fun p hp => h p (List.mem_of_mem_eraseIdx hp)

theorem assignmentEvent_followed {s : AssignmentState} {e : AssignmentEvent} (h : Followed s)
    (hok : AssignmentEventOk s e) : Followed (assignmentEvent s e) := by
  obtain ⟨hcut, hsame⟩ := hok
  cases e with
  | config ifaceid iface => exact interfaceUpdate_followed h hsame
  | freed name => exact fun p hp iface hiface => h p hp iface (List.mem_filter.mp hiface).1
  | prefixArrives d =>
    have hd : Defined d.object := ⟨hcut.1, d.length_le, d.exclAddr_lt, hcut.2⟩
    intro q hq iface hiface hsuits
    rcases List.mem_cons.mp hq with rfl | hq
    · exact served_of_update s.interfaces hd hiface hsuits
    · exact h q hq iface hiface hsuits
  | prefixAgain n d =>
    cases hold : s.prefixes[n]? with
    | none => simpa only [assignmentEvent, hold] using h
    | some old =>
      simp only [assignmentEvent, hold]
      intro q hq iface hiface hsuits
      rcases List.mem_cons.mp hq with rfl | hq
      -- the entries are those of the old prefix
      · exact h old (List.mem_of_getElem? hold) iface hiface (hsame old hold iface hiface hsuits)
      · exact h q (List.mem_of_mem_eraseIdx hq) iface hiface hsuits
  | prefixGone n => exact fun p hp => h p (List.mem_of_mem_eraseIdx hp)

theorem assignmentEvent_refresh (s : AssignmentState) (e : AssignmentEvent) :
    (assignmentEvent s e).refresh = true ↔ s.refresh = true ∨ ChangesAssignment s e := by
  cases e with
  | config ifaceid iface =>
    simp only [assignmentEvent, interfaceUpdate, ChangesAssignment]
    cases hfind : find s.interfaces iface.name with
    | none => simp
    | some old =>
      cases hchanged : assignmentChanged ifaceid old iface.toAssignedInterface with
      | false => simp [hchanged]
      | true => simp [hchanged, interfaceRefreshAssignments]
  | prefixAgain n d =>
    cases hold : s.prefixes[n]? <;> simp [assignmentEvent, ChangesAssignment, hold]
  | freed name => simp [assignmentEvent, ChangesAssignment]
  | prefixArrives d => simp [assignmentEvent, ChangesAssignment]
  | prefixGone n => simp [assignmentEvent, ChangesAssignment]

theorem refresh_defined {s : AssignmentState} (h : PrefixesDefined s) :
    PrefixesDefined (interfaceRefreshAssignments s false) := by
  intro p hp
  simp only [interfaceRefreshAssignments] at hp
  split_ifs at hp
  · obtain ⟨old, hold, rfl⟩ := List.mem_map.mp hp
    obtain ⟨hlower, hupper, hexcl, hshifts⟩ := h old hold
    exact ⟨hlower, hupper, hexcl, hshifts⟩
  · exact h p hp

theorem refresh_followed {s : AssignmentState} (hdefined : PrefixesDefined s)
    (h : s.refresh = true ∨ Followed s) : Followed (interfaceRefreshAssignments s false) := by
  cases hrefresh : s.refresh with
  | true =>
    intro p hp iface hiface hsuits
    simp only [interfaceRefreshAssignments, hrefresh, Bool.not_false, Bool.and_self, if_true] at hp
    obtain ⟨old, hold, rfl⟩ := List.mem_map.mp hp
    exact served_of_update s.interfaces (hdefined old hold) hiface hsuits
  | false =>
    have hfollowed : Followed s := h.resolve_left (by simp [hrefresh])
    simpa [Followed, interfaceRefreshAssignments, hrefresh] using hfollowed

theorem configInitAll_followed {s : AssignmentState} {events : List AssignmentEvent}
    (hdefined : PrefixesDefined s) (h : Followed s)
    (hok : AssignmentOk s (.configInitAll events)) :
    PrefixesDefined (assignmentStep s (.configInitAll events)) ∧
      Followed (assignmentStep s (.configInitAll events)) := by
  rcases hok with ⟨hprefixes, hraised⟩ | hall
  · have hrun := run_property_of_allOk (fun s e => assignmentEvent_defined) hdefined hprefixes
      events.length
    rw [List.take_length] at hrun
    refine ⟨refresh_defined hrun, refresh_followed hrun (Or.inl ?_)⟩
    exact (run_raised_iff (P := fun s : AssignmentState => s.refresh = true)
      assignmentEvent_refresh).mpr hraised
  · have hrun := run_property_of_allOk (P := fun s => PrefixesDefined s ∧ Followed s)
      (fun s e hs hok => ⟨assignmentEvent_defined hs.1 hok.1, assignmentEvent_followed hs.2 hok⟩)
      ⟨hdefined, h⟩ hall events.length
    rw [List.take_length] at hrun
    exact ⟨refresh_defined hrun.1, refresh_followed hrun.1 (Or.inr hrun.2)⟩

theorem assignmentStep_followed (s : AssignmentState) (op : AssignmentOp)
    (h : PrefixesDefined s ∧ Followed s) (hok : AssignmentOk s op) :
    PrefixesDefined (assignmentStep s op) ∧ Followed (assignmentStep s op) := by
  obtain ⟨hdefined, hfollowed⟩ := h
  cases op with
  | event e =>
    exact ⟨assignmentEvent_defined hdefined hok.1, assignmentEvent_followed hfollowed hok⟩
  | configInitAll events => exact configInitAll_followed hdefined hfollowed hok
  | addDynamic ifaceid iface =>
    exact ⟨assignmentEvent_defined (e := .config ifaceid iface) hdefined trivial,
      interfaceUpdate_followed hfollowed hok⟩

/-- From the start, with no prefix, every prefix serves every interface that it suits, after each
`config_init_all` and each `netifd_add_dynamic` of the run and in between. -/
theorem assignments_followed_of_run (interfaces : HintedTable) (ops : List AssignmentOp)
    (hok : AllOk assignmentStep AssignmentOk { interfaces } ops) (n : ℕ) :
    Followed (run assignmentStep { interfaces } (ops.take n)) :=
  (run_property_of_allOk assignmentStep_followed
    ⟨fun _ hp => absurd hp List.not_mem_nil, fun _ hp => absurd hp List.not_mem_nil⟩ hok n).2

/-- An interface that asks for no number of its own. -/
def unhinted (name : String) (assignmentLength : ℕ) : ConfiguredInterface where
  name
  assignmentLength
  hinted := ⟨⟨by norm_num, by norm_num⟩, fun _ _ => Or.inl rfl⟩

/-- A /56 without an excluded part. -/
def delegated56 : Delegation where
  option := { addr := 0x20010db8#128 <<< 96, length := 56 }
  accepted := ⟨"2001:db8::/56".toList, .inl (by decide +kernel)⟩

/-- A prefix arrives while there are an interface that is about to change and one that is not
yet there. -/
theorem assignments_followed_of_run_change :
    Followed (run assignmentStep
      { interfaces := put ⟨⟨[], List.Pairwise.nil⟩, nofun⟩ (unhinted "lan" 60) }
      (List.take 2 [.event (.prefixArrives delegated56),
        .configInitAll [.config false (unhinted "guest" 64),
          .config false (unhinted "lan" 62)]])) := by
  apply assignments_followed_of_run
  refine ⟨⟨⟨by decide, Or.inl rfl⟩, trivial⟩, Or.inl ⟨⟨trivial, trivial, trivial⟩, ?_⟩, trivial⟩
  refine Or.inr (Or.inr (Or.inl ⟨_, rfl, ?_⟩))
  decide

/-- A prefix arrives before there is any interface, and the interface that `config_init_all`
creates after that gets nothing out of it. -/
theorem assignments_not_followed :
    ¬∀ interfaces ops events, Followed (run assignmentStep { interfaces }
      (ops ++ [.configInitAll events])) := by
  intro h
  have hfollowed := h ⟨⟨[], List.Pairwise.nil⟩, nofun⟩ [.event (.prefixArrives delegated56)]
    [.config false (unhinted "lan" 60)]
  have hserved := hfollowed _ List.mem_cons_self _ List.mem_cons_self (by decide)
  rcases hserved with hlisted | htaken
  · revert hlisted
    decide
  · obtain ⟨c, hc, hle, -⟩ := htaken 0 le_rfl (by decide)
    obtain rfl : c = sentinelInt32 delegated56.object := List.mem_singleton.mp hc
    revert hle
    decide

end Netifd.AssignmentRefresh
