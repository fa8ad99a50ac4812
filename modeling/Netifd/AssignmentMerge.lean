import Netifd.AssignmentRefresh
import Netifd.InterfaceConfiguration

/-!
# Merging the assignment data of an interface

`interface_merge_assignment_data` with both of its interfaces: the loop takes the classes off the
list of the old one, and the list of the new one is moved.
-/

namespace Netifd.AssignmentMerge

/-- The two interfaces after the merge, and whether `interface_refresh_assignments` was called. -/
structure Merged where
  old : Interface
  new : Interface
  refreshed : Bool := false

/-- The comparison in front of the loop of `interface_merge_assignment_data`. -/
def dataDiffer (old new : Interface) : Bool :=
  old.assignmentHint != new.assignmentHint ||
  old.assignmentLength != new.assignmentLength ||
  old.assignmentIfaceIdSelection != new.assignmentIfaceIdSelection ||
  old.assignmentWeight != new.assignmentWeight ||
  (old.assignmentIfaceIdSelection == .fixed &&
    old.assignmentFixedIfaceId != new.assignmentFixedIfaceId) ||
  old.assignmentClasses.isEmpty != new.assignmentClasses.isEmpty

/-- `list_splice_init`: the list that is empty afterwards, and the one that has it in front. -/
def listSpliceInit {α : Type} (list head : List α) : List α × List α := ([], list ++ head)

def interfaceMergeAssignmentData (old new : Interface) : Merged :=
  let (rest, changed) :=
    compareClasses old.assignmentClasses new.assignmentClasses (dataDiffer old new)
  -- the old list was longer, or the last entry did not match
  let (rest, changed) := if !rest.isEmpty then ([], true) else (rest, changed)
  let (newClasses, oldClasses) := listSpliceInit new.assignmentClasses rest
  let old := { old with assignmentClasses := oldClasses }
  let new := { new with assignmentClasses := newClasses }
  if changed then
    { old :=
        { old with
          assignmentHint := new.assignmentHint
          assignmentLength := new.assignmentLength
          assignmentIfaceIdSelection := new.assignmentIfaceIdSelection
          assignmentFixedIfaceId := new.assignmentFixedIfaceId
          assignmentWeight := new.assignmentWeight }
      new
      refreshed := true }
  else { old, new }

/-- All that matters for the assignments of two interfaces is the same: the fixed identifier only
where it is selected, and the classes in their order. -/
structure SameAssignment (a b : Interface) : Prop where
  hint : a.assignmentHint = b.assignmentHint
  length : a.assignmentLength = b.assignmentLength
  selection : a.assignmentIfaceIdSelection = b.assignmentIfaceIdSelection
  fixedIfaceId : a.assignmentIfaceIdSelection = .fixed →
    a.assignmentFixedIfaceId = b.assignmentFixedIfaceId
  weight : a.assignmentWeight = b.assignmentWeight
  classes : a.assignmentClasses = b.assignmentClasses

theorem compareClasses_iff (old new : List String) (changed : Bool) :
    (compareClasses old new changed).2 = false ∧ (compareClasses old new changed).1 = [] ↔
      changed = false ∧ old = new := by
  induction old generalizing new changed with
  | nil =>
    cases new with
    | nil => simp [compareClasses]
    | cons c new => simp [compareClasses]
  | cons cOld old ih =>
    cases new with
    | nil => simp [compareClasses]
    | cons c new =>
      cases changed with
      | true => simp [compareClasses]
      | false =>
        rcases eq_or_ne cOld c with rfl | hne
        · simpa [compareClasses] using ih new false
        · simp [compareClasses, hne]

theorem sameAssignment_iff (old new : Interface) :
    SameAssignment old new ↔
      dataDiffer old new = false ∧ old.assignmentClasses = new.assignmentClasses := by
  constructor
  · intro h
    refine ⟨?_, h.classes⟩
    have hid : (old.assignmentIfaceIdSelection == .fixed &&
        old.assignmentFixedIfaceId != new.assignmentFixedIfaceId) = false := by
      simpa using h.fixedIfaceId
    rw [dataDiffer, h.hint, h.length, h.weight, h.classes, hid, h.selection]
    simp
  · rintro ⟨hdiffer, hclasses⟩
    simp only [dataDiffer, Bool.or_eq_false_iff, bne_eq_false_iff_eq] at hdiffer
    obtain ⟨⟨⟨⟨⟨hhint, hlength⟩, hselection⟩, hweight⟩, hid⟩, -⟩ := hdiffer
    exact ⟨hhint, hlength, hselection, by simpa using hid, hweight, hclasses⟩

/-- A merge without a change leaves the old data, one with a change copies all of them. -/
theorem merge_cases (old new : Interface) :
    let m := interfaceMergeAssignmentData old new
    m.new = { new with assignmentClasses := [] } ∧
      (SameAssignment old new ∧ m.old = old ∧ m.refreshed = false ∨
        ¬SameAssignment old new ∧ m.refreshed = true ∧
          m.old =
            { old with
              assignmentClasses := new.assignmentClasses
              assignmentHint := new.assignmentHint
              assignmentLength := new.assignmentLength
              assignmentIfaceIdSelection := new.assignmentIfaceIdSelection
              assignmentFixedIfaceId := new.assignmentFixedIfaceId
              assignmentWeight := new.assignmentWeight }) := by
  have hloop := compareClasses_iff old.assignmentClasses new.assignmentClasses
    (dataDiffer old new)
  rw [← sameAssignment_iff] at hloop
  unfold interfaceMergeAssignmentData
  generalize compareClasses old.assignmentClasses new.assignmentClasses (dataDiffer old new) = r
    at hloop ⊢
  obtain ⟨rest, changed⟩ := r
  cases rest with
  | cons c rest =>
    have hdiffer : ¬SameAssignment old new := fun h => List.cons_ne_nil _ _ (hloop.mpr h).2
    exact ⟨rfl, Or.inr ⟨hdiffer, rfl, by simp [listSpliceInit]⟩⟩
  | nil =>
    cases changed with
    | true =>
      have hdiffer : ¬SameAssignment old new := fun h => Bool.noConfusion (hloop.mpr h).1
      exact ⟨rfl, Or.inr ⟨hdiffer, rfl, by simp [listSpliceInit]⟩⟩
    | false =>
      have hsame := hloop.mp ⟨rfl, rfl⟩
      exact ⟨rfl, Or.inl ⟨hsame, by simp [listSpliceInit, ← hsame.classes], rfl⟩⟩

/-- The old interface takes over all that matters, the new one is left without classes, and the
assignments are refreshed just if something that matters was different. -/
theorem merge_exact (old new : Interface) :
    let m := interfaceMergeAssignmentData old new
    SameAssignment m.old new ∧ m.new.assignmentClasses = [] ∧
      (m.refreshed = true ↔ ¬SameAssignment old new) := by
  obtain ⟨hnew, ⟨hsame, hold, hrefreshed⟩ | ⟨hdiffer, hrefreshed, hold⟩⟩ := merge_cases old new
  · refine ⟨by rwa [hold], by rw [hnew], ?_⟩
    rw [hrefreshed]
    exact iff_of_false Bool.false_ne_true (not_not.mpr hsame)
  · refine ⟨?_, by rw [hnew], iff_of_true hrefreshed hdiffer⟩
    rw [hold]
    exact ⟨rfl, rfl, rfl, fun _ => rfl, rfl, rfl⟩

theorem merge_reload (old new : Interface) :
    let m := interfaceMergeAssignmentData old new
    Netifd.interfaceMergeAssignmentData old new = (m.old, m.refreshed) := by
  rcases hloop : compareClasses old.assignmentClasses new.assignmentClasses (dataDiffer old new)
    with ⟨rest, changed⟩
  have hloop' := hloop
  rw [dataDiffer] at hloop'
  simp only [interfaceMergeAssignmentData, Netifd.interfaceMergeAssignmentData, hloop, hloop']
  cases rest with
  | cons c rest => simp [listSpliceInit]
  | nil => cases changed <;> simp [listSpliceInit]

theorem classesChanged_iff (changed : Bool) (old new : List String) :
    AssignmentRefresh.classesChanged changed old new = false ↔ changed = false ∧ old = new := by
  induction old generalizing new changed with
  | nil =>
    cases new with
    | nil => simp [AssignmentRefresh.classesChanged]
    | cons c new => simp [AssignmentRefresh.classesChanged]
  | cons cOld old ih =>
    cases new with
    | nil => simp [AssignmentRefresh.classesChanged]
    | cons c new =>
      cases changed with
      | true => simp [AssignmentRefresh.classesChanged]
      | false =>
        rcases eq_or_ne cOld c with rfl | hne
        · simpa [AssignmentRefresh.classesChanged] using ih false new
        · simp [AssignmentRefresh.classesChanged, hne]

/-- The identifier of an interface changes. -/
def ifaceidChanged (old new : Interface) : Bool :=
  old.assignmentIfaceIdSelection != new.assignmentIfaceIdSelection ||
    (old.assignmentIfaceIdSelection == .fixed &&
      old.assignmentFixedIfaceId != new.assignmentFixedIfaceId)

theorem merge_refresh (old new : Interface) :
    let m := interfaceMergeAssignmentData old new
    AssignmentRefresh.interfaceMergeAssignmentData (ifaceidChanged old new)
        old.toAssignedInterface new.toAssignedInterface = m.old.toAssignedInterface ∧
      AssignmentRefresh.assignmentChanged (ifaceidChanged old new) old.toAssignedInterface
        new.toAssignedInterface = m.refreshed := by
  have hunchanged : AssignmentRefresh.assignmentChanged (ifaceidChanged old new)
      old.toAssignedInterface new.toAssignedInterface = false ↔ SameAssignment old new := by
    rw [AssignmentRefresh.assignmentChanged, classesChanged_iff, sameAssignment_iff]
    refine and_congr_left fun _ => ?_
    simp only [dataDiffer, ifaceidChanged, Bool.or_eq_false_iff]
    tauto
  obtain ⟨-, ⟨hsame, hold, hrefreshed⟩ | ⟨hdiffer, hrefreshed, hold⟩⟩ := merge_cases old new
  · have hchanged := hunchanged.mpr hsame
    refine ⟨?_, hchanged.trans hrefreshed.symm⟩
    rw [hold, AssignmentRefresh.interfaceMergeAssignmentData, if_neg (by simp [hchanged]),
      ← hsame.classes]
  · have hchanged := Bool.not_eq_false _ ▸ mt hunchanged.mp hdiffer
    refine ⟨?_, hchanged.trans hrefreshed.symm⟩
    rw [hold, AssignmentRefresh.interfaceMergeAssignmentData, if_pos hchanged]

end Netifd.AssignmentMerge
