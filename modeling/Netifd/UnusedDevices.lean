import Netifd.Device
import Netifd.OrderedReclaim

/-!
# Unused devices

`device_free_unused` goes once through the table of devices, in the order of their names. A
device that it frees is taken off the devices that it uses itself while `__devlock` is held, so
that these are freed by the same pass only if their turn comes later. Events change no list of
users and are left out.
-/

namespace Netifd
open OrderedReclaim

/-- The table of devices, and the users that a device consists of: `parent` of a simple device
and of a macvlan, `dep` of a VLAN, the members of a bridge. -/
structure DeviceTable where
  table : List ℕ
  parts : ℕ → List ℕ

abbrev Devices := World DeviceTable

namespace Devices

/-- `device_release`. -/
def releaseUser (w : Devices) (u : ℕ) : Devices :=
  if (w.user u).claimed then
    match (w.user u).dev with
    | none => { w with fault := true }
    | some d => w.release u d
  else w

/-- `__device_free_unused`; `free` is `device_free`. -/
def freeIfUnused (free : Devices → ℕ → Devices) (w : Devices) (d : ℕ) : Devices :=
  if w.attached d ≠ [] ∨ (w.dev d).currentConfig ∨ w.devlock ≠ 0 then w else free w d

/-- `device_remove_user`. -/
def removeUser (free : Devices → ℕ → Devices) (w : Devices) (u : ℕ) : Devices :=
  match (w.user u).dev with
  | none => w
  | some d =>
    let w := w.mapUser u fun x => { x with hotplug := false }
    freeIfUnused free ((releaseUser w u).detach u) d

/-- `device_free` of a device without users, which `device_cleanup` only takes out of the table;
`depth` bounds the nesting of such calls. -/
def free : ℕ → Devices → ℕ → Devices
  | 0, w, _ => w
  | depth + 1, w, d =>
    let w := { w with devlock := w.devlock + 1, ext := { w.ext with table := w.ext.table.erase d } }
    let w := (w.ext.parts d).foldl (removeUser (free depth)) w
    { w.mapDev d fun x => { x with freed := true } with devlock := w.devlock - 1 }

/-- `device_free_unused`. -/
def freeUnused (depth : ℕ) (dev : Option ℕ) (w : Devices) : Devices :=
  match dev with
  | some d => freeIfUnused (free depth) w d
  | none => w.ext.table.foldl (freeIfUnused (free depth)) w

/-- The lists of the devices agree with the pointers of the users, and the table has every
device once. -/
structure Linked (w : Devices) : Prop where
  nodup : ∀ d, (w.attached d).Nodup
  mem : ∀ u d, u ∈ w.attached d ↔ (w.user u).dev = some d
  table : w.ext.table.Nodup

/-- The device could be freed: nothing uses it, and the configuration does not have it. -/
def Unused (w : Devices) (d : ℕ) : Prop := w.attached d = [] ∧ (w.dev d).currentConfig = false

/-- Devices and their users as nodes and references. -/
def graph (w : Devices) : RefGraph ℕ ℕ where
  keep := {d | (w.dev d).currentConfig = true}
  users d := {u | u ∈ w.attached d}
  parts d := {u | u ∈ w.ext.parts d}

/-- The users in `gone` have been taken off their devices, and nothing else has changed. -/
structure Without (w : Devices) (gone : Set ℕ) (w' : Devices) : Prop where
  linked : Linked w'
  attached : ∀ u d, u ∈ w'.attached d ↔ u ∈ w.attached d ∧ u ∉ gone
  config : ∀ d, (w'.dev d).currentConfig = (w.dev d).currentConfig
  ext : w'.ext = w.ext
  devlock : w'.devlock = w.devlock

theorem Without.refl {w : Devices} (h : Linked w) : Without w ∅ w :=
  ⟨h, fun _ _ => by simp, fun _ => rfl, rfl, rfl⟩

theorem Without.trans {w w' w'' : Devices} {gone gone' : Set ℕ} (h : Without w gone w')
    (h' : Without w' gone' w'') : Without w (gone ∪ gone') w'' := by
  refine ⟨h'.linked, ?_, fun d => (h'.config d).trans (h.config d), h'.ext.trans h.ext,
    h'.devlock.trans h.devlock⟩
  intro u d
  rw [h'.attached u d, h.attached u d, Set.mem_union, not_or, and_assoc]

theorem Linked.congr {w w' : Devices} (h : Linked w) (hl : ∀ d, w'.attached d = w.attached d)
    (hd : ∀ u, (w'.user u).dev = (w.user u).dev) (ht : w'.ext.table.Nodup) : Linked w' := by
  refine ⟨?_, ?_, ht⟩
  · intro d
    rw [hl]
    exact h.nodup d
  · intro u d
    rw [hl, hd]
    exact h.mem u d

theorem Linked.releaseUser {w : Devices} (h : Linked w) (u : ℕ) :
    Without w ∅ (releaseUser w u) := by
  unfold Devices.releaseUser
  split_ifs with hclaimed
  · cases hd : (w.user u).dev with
    | none =>
      exact ⟨h.congr (fun _ => rfl) (fun _ => rfl) h.table, fun _ _ => by simp; rfl, fun _ => rfl,
        rfl, rfl⟩
    | some d =>
      have hlists : ∀ e, (w.release u d).attached e = w.attached e := by
        intro e
        by_cases he : e = d <;> simp [World.release, World.attached, he]
      have hpointers : ∀ v, ((w.release u d).user v).dev = (w.user v).dev := by
        intro v
        by_cases hv : v = u <;> simp [World.release, hv]
      refine ⟨h.congr hlists hpointers h.table, ?_, ?_, rfl, rfl⟩
      · intro v e
        simp [hlists]
      · intro e
        by_cases he : e = d <;> simp [World.release, he]
  · exact .refl h

theorem Linked.listed {w : Devices} (h : Linked w) : w.Listed := ⟨h.nodup, h.mem⟩

theorem Linked.detach {w : Devices} (h : Linked w) (u : ℕ) : Without w {u} (w.detach u) := by
  have hrest : (w.detach u).ext = w.ext ∧ (w.detach u).devlock = w.devlock ∧
      ∀ d, ((w.detach u).dev d).currentConfig = (w.dev d).currentConfig := by
    cases hd : (w.user u).dev with
    | none => simp [World.detach, hd]
    | some e =>
      refine ⟨by simp [World.detach, hd], by simp [World.detach, hd]; rfl, ?_⟩
      intro d
      by_cases he : d = e <;> simp [World.detach, hd, he]
  obtain ⟨hext, hlock, hconfig⟩ := hrest
  have hlisted := h.listed.detach u
  exact ⟨⟨hlisted.nodup, hlisted.mem, hext ▸ h.table⟩, h.listed.mem_detach u, hconfig, hext, hlock⟩

/-- While devices are locked, taking a user off frees nothing. -/
theorem Linked.removeUser {w : Devices} (h : Linked w) (hlock : w.devlock ≠ 0)
    (free : Devices → ℕ → Devices) (u : ℕ) :
    Without w {u} (Devices.removeUser free w u) := by
  unfold Devices.removeUser
  cases hd : (w.user u).dev with
  | none =>
    refine ⟨h, ?_, fun _ => rfl, rfl, rfl⟩
    intro v d
    refine ⟨fun hv => ⟨hv, ?_⟩, fun hv => hv.1⟩
    rintro rfl
    have hdev := (h.mem v d).mp hv
    rw [hd] at hdev
    cases hdev
  | some d =>
    dsimp only
    set w' := w.mapUser u fun x => { x with hotplug := false } with hw'
    have hplug : Without w ∅ w' := by
      have hpointers : ∀ v, (w'.user v).dev = (w.user v).dev := by
        intro v
        by_cases hv : v = u <;> simp [hw', hv]
      refine ⟨h.congr (fun _ => rfl) hpointers h.table, ?_, fun _ => rfl, rfl, rfl⟩
      intro v e
      simp only [Set.mem_empty_iff_false, not_false_eq_true, and_true]
      rfl
    have hreleased := hplug.linked.releaseUser u
    have hdetached := hreleased.linked.detach u
    have hall := (hplug.trans hreleased).trans hdetached
    have hlocked : ((Devices.releaseUser w' u).detach u).devlock ≠ 0 := by
      rw [hall.devlock]
      exact hlock
    have hsame : freeIfUnused free ((Devices.releaseUser w' u).detach u) d =
        (Devices.releaseUser w' u).detach u := if_pos (.inr (.inr hlocked))
    rw [hsame]
    simpa using hall

theorem Linked.removeUsers {w : Devices} (h : Linked w) (hlock : w.devlock ≠ 0)
    (free : Devices → ℕ → Devices) (us : List ℕ) :
    Without w {u | u ∈ us} (us.foldl (Devices.removeUser free) w) := by
  induction us generalizing w with
  | nil => simpa using Without.refl h
  | cons u us ih =>
    have hfirst := h.removeUser hlock free u
    have hrest := ih hfirst.linked (hfirst.devlock ▸ hlock)
    have hall : ({v | v ∈ u :: us} : Set ℕ) = {u} ∪ {v | v ∈ us} := by
      ext v
      simp
    rw [hall]
    exact hfirst.trans hrest

/-- The devices in `taken` have been freed, and nothing else has changed in who uses what. -/
structure Freed (w : Devices) (taken : Set ℕ) (w' : Devices) : Prop where
  linked : Linked w'
  attached : ∀ u d, u ∈ w'.attached d ↔ u ∈ w.attached d ∧ ∀ e ∈ taken, u ∉ w.ext.parts e
  config : ∀ d, (w'.dev d).currentConfig = (w.dev d).currentConfig
  parts : w'.ext.parts = w.ext.parts
  table : ∀ d, d ∈ w'.ext.table ↔ d ∈ w.ext.table ∧ d ∉ taken
  devlock : w'.devlock = w.devlock

theorem Freed.refl {w : Devices} (h : Linked w) : Freed w ∅ w :=
  ⟨h, fun _ _ => by simp, fun _ => rfl, rfl, fun _ => by simp, rfl⟩

theorem Freed.trans {w w' w'' : Devices} {taken taken' : Set ℕ} (h : Freed w taken w')
    (h' : Freed w' taken' w'') : Freed w (taken ∪ taken') w'' := by
  refine ⟨h'.linked, ?_, fun d => (h'.config d).trans (h.config d), h'.parts.trans h.parts, ?_,
    h'.devlock.trans h.devlock⟩
  · intro u d
    rw [h'.attached u d, h.attached u d, h.parts, and_assoc]
    simp only [Set.mem_union, or_imp, forall_and]
  · intro d
    rw [h'.table d, h.table d, Set.mem_union, not_or, and_assoc]

/-- Freeing a device takes its own users off the devices that they are on. -/
theorem Linked.free {w : Devices} (h : Linked w) (depth d : ℕ) :
    Freed w {d} (Devices.free (depth + 1) w d) := by
  set w₁ : Devices :=
    { w with devlock := w.devlock + 1, ext := { w.ext with table := w.ext.table.erase d } } with hw₁
  have hlinked : Linked w₁ :=
    h.congr (fun _ => rfl) (fun _ => rfl) (h.table.sublist List.erase_sublist)
  have hparts := hlinked.removeUsers (Nat.succ_ne_zero w.devlock) (Devices.free depth)
    (w.ext.parts d)
  set w₂ := (w.ext.parts d).foldl (Devices.removeUser (Devices.free depth)) w₁
  change Freed w {d}
    { w₂.mapDev d fun x => { x with freed := true } with devlock := w₂.devlock - 1 }
  have hlists : ∀ e,
      (w₂.mapDev d fun x => { x with freed := true }).attached e = w₂.attached e := by
    intro e
    by_cases he : e = d <;> simp [World.attached, he]
  refine ⟨hparts.linked.congr hlists (fun _ => rfl) hparts.linked.table, ?_, ?_, ?_, ?_, ?_⟩
  · intro u e
    have hattached := hparts.attached u e
    change u ∈ (w₂.mapDev d fun x => { x with freed := true }).attached e ↔ _
    rw [hlists, hattached]
    simp only [Set.mem_ofPred_eq, Set.mem_singleton_iff, forall_eq]
    rfl
  · intro e
    have hconfig := hparts.config e
    by_cases he : e = d <;> simpa [he] using hconfig
  · change w₂.ext.parts = w.ext.parts
    rw [hparts.ext]
  · intro e
    change e ∈ w₂.ext.table ↔ _
    rw [hparts.ext]
    simp only [hw₁, h.table.mem_erase_iff, Set.mem_singleton_iff, and_comm]
  · change w₂.devlock - 1 = w.devlock
    rw [hparts.devlock]
    rfl

theorem Freed.unused_iff {w w' : Devices} {taken : Set ℕ} (h : Freed w taken w') (d : ℕ) :
    Unused w' d ↔ (graph w).Idle taken d := by
  have hlist : w'.attached d = [] ↔ ∀ u ∈ w.attached d, ∃ e ∈ taken, u ∈ w.ext.parts e := by
    rw [List.eq_nil_iff_forall_not_mem]
    refine forall_congr' fun u => ?_
    rw [h.attached u d]
    simp only [not_and, not_forall, not_not, exists_prop]
  rw [Unused, hlist, h.config d, RefGraph.Idle, and_comm]
  simp [graph]

theorem Freed.visit {w w' : Devices} {taken : Set ℕ} (h : Freed w taken w') (hlock : w.devlock = 0)
    (depth d : ℕ) : Freed w (taken ∪ {x | x = d ∧ (graph w).Idle taken x})
      (freeIfUnused (free (depth + 1)) w' d) := by
  unfold freeIfUnused
  by_cases hidle : (graph w).Idle taken d
  · obtain ⟨hlist, hconfig⟩ := (h.unused_iff d).mpr hidle
    have hunlocked : w'.devlock = 0 := h.devlock.trans hlock
    have hone : {x | x = d ∧ (graph w).Idle taken x} = {d} := by
      ext x
      simp only [Set.mem_ofPred_eq, Set.mem_singleton_iff, and_iff_left_iff_imp]
      rintro rfl
      exact hidle
    rw [if_neg (by simp [hlist, hconfig, hunlocked]), hone]
    exact h.trans (h.linked.free depth d)
  · have hnone : {x | x = d ∧ (graph w).Idle taken x} = ∅ := by
      ext x
      simp only [Set.mem_ofPred_eq, Set.mem_empty_iff_false, iff_false, not_and]
      rintro rfl
      exact hidle
    have hkept : w'.attached d ≠ [] ∨ (w'.dev d).currentConfig = true ∨ w'.devlock ≠ 0 := by
      by_contra hall
      simp only [ne_eq, not_or, not_not, Bool.not_eq_true] at hall
      exact hidle ((h.unused_iff d).mp ⟨hall.1, hall.2.1⟩)
    rw [if_pos hkept, hnone, Set.union_empty]
    exact h

theorem Freed.pass {w w' : Devices} {taken : Set ℕ} (h : Freed w taken w') (hlock : w.devlock = 0)
    (depth : ℕ) (l : List ℕ) :
    Freed w ((graph w).reclaim taken l) (l.foldl (freeIfUnused (free (depth + 1))) w') := by
  induction l generalizing w' taken with
  | nil => exact h
  | cons d l ih => exact ih (h.visit hlock depth d)

/-- `device_free_unused` leaves no unused device in the table if and only if whatever falls out
of use is used only by devices that come before it in the table. -/
theorem freeUnused_complete_iff {w : Devices} (h : Linked w) (hlock : w.devlock = 0) (depth : ℕ) :
    (∀ d ∈ (freeUnused (depth + 1) none w).ext.table,
      ¬Unused (freeUnused (depth + 1) none w) d) ↔ (graph w).UsersFirst w.ext.table := by
  have hpass : Freed w ((graph w).reclaim ∅ w.ext.table) (freeUnused (depth + 1) none w) :=
    (Freed.refl h).pass hlock depth w.ext.table
  rw [← RefGraph.complete_iff h.table]
  refine forall_congr' fun d => ?_
  rw [hpass.table d, hpass.unused_iff d]
  tauto

/-- A device and another one on top of it, which nothing uses. -/
def stacked (table : List ℕ) : Devices where
  dev d := if d = 0 then { users := [0] } else {}
  user u := if u = 0 then { dev := some 0 } else {}
  ext := { table, parts := fun d => if d = 1 then [0] else [] }

theorem stacked_linked {table : List ℕ} (h : table.Nodup) : Linked (stacked table) := by
  refine ⟨?_, ?_, h⟩
  · intro d
    by_cases hd : d = 0 <;> simp [stacked, World.attached, hd]
  · intro u d
    by_cases hd : d = 0 <;> by_cases hu : u = 0 <;>
      simp [stacked, World.attached, hd, hu, eq_comm]

/-- The upper device comes first, as a macvlan `a0` on `eth0`. -/
theorem freeUnused_complete_iff_stacked :
    (∀ d ∈ (freeUnused 1 none (stacked [1, 0])).ext.table,
      ¬Unused (freeUnused 1 none (stacked [1, 0])) d) ↔ (graph (stacked [1, 0])).UsersFirst [1, 0] :=
  freeUnused_complete_iff (stacked_linked (by decide)) rfl 0

/-- The lower device comes first, as `eth0` under the VLAN `eth0.5`, and it is left in the table
without a user. -/
theorem freeUnused_leaves_lower :
    0 ∈ (freeUnused 1 none (stacked [0, 1])).ext.table ∧
      Unused (freeUnused 1 none (stacked [0, 1])) 0 := by
  refine ⟨by decide, by decide, by decide⟩

end Devices

end Netifd
