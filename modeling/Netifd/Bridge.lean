import Netifd.ReentrantProgram
import Mathlib.Data.List.Count
import Mathlib.Data.List.Sort
import Mathlib.Tactic.Common

/-!
# Bridges

The members of a bridge and its device. A claim of a member's device may fail, and whenever other
code can run it may make the devices of members appear and vanish, and claim and release the
bridge itself. A loop over the members goes on with those that are still there. The primary port,
the settings and what the kernel makes of them are left out.
-/

namespace Netifd.Bridge
open ReentrantProgram ReentrantProgram.Prog

/-- `struct bridge_member`, with `present` of its device. A member is pinned when its version is
`-1`, and attached while it is a user of its device. -/
structure BridgeMember where
  present : Bool := false
  claimed : Bool := false
  hotplug : Bool := false
  pinned : Bool := false
  attached : Bool := false
  devPresent : Bool := false

/-- `struct bridge_state` with `sys_present` and `active` of its device, and which users have
claimed that. Members that are freed have left the list before. The last two fields are notes:
how many claims under way have not begun with the members or have failed with them, and whether
other code could ever run while a claimed member was not present. -/
structure BridgeState where
  members : List ℕ := []
  leaving : List ℕ := []
  member : ℕ → BridgeMember := fun _ => {}
  active : Bool := false
  forceActive : Bool := false
  bridgeEmpty : Bool := false
  retry : Bool := false
  nPresent : ℤ := 0
  nFailed : ℕ := 0
  devPresent : Bool := false
  devActive : ℤ := 0
  userClaimed : ℕ → Bool := fun _ => false
  unsettled : ℕ := 0
  stray : Bool := false

namespace BridgeState

/-- All members that have not been freed. -/
def allocated (w : BridgeState) : List ℕ := w.members ++ w.leaving

/-- Change one member. -/
def map (w : BridgeState) (k : ℕ) (f : BridgeMember → BridgeMember) : BridgeState :=
  { w with member := fun i => if i = k then f (w.member i) else w.member i }

/-- `bm->present = true; bst->n_present++`. -/
def addPresent (w : BridgeState) (k : ℕ) : BridgeState :=
  { w.map k fun bm => { bm with present := true } with nPresent := w.nPresent + 1 }

/-- `bm->present = false; bst->n_present--`. -/
def removePresent (w : BridgeState) (k : ℕ) : BridgeState :=
  { w.map k fun bm => { bm with present := false } with nPresent := w.nPresent - 1 }

/-- `dep->claimed = true; ++dev->active` for the bridge. -/
def claim (w : BridgeState) (u : ℕ) : BridgeState :=
  { w with
    userClaimed := fun v => if v = u then true else w.userClaimed v
    devActive := w.devActive + 1 }

/-- `dep->claimed = false; dev->active--` for the bridge. -/
def release (w : BridgeState) (u : ℕ) : BridgeState :=
  { w with
    userClaimed := fun v => if v = u then false else w.userClaimed v
    devActive := w.devActive - 1 }

/-- `dev->active = 0; dep->claimed = false` for the bridge. -/
def claimFailed (w : BridgeState) (u : ℕ) : BridgeState :=
  { w with
    userClaimed := fun v => if v = u then false else w.userClaimed v
    devActive := 0 }

/-- A claimed member is not present. -/
def hasStray (w : BridgeState) : Bool :=
  w.allocated.any fun k => (w.member k).claimed && !(w.member k).present

end BridgeState

/-- What happens to a bridge. -/
inductive BridgeCall
  | devicePresent (k : ℕ) (state : Bool)
  | claim (u : ℕ)
  | release (u : ℕ)
  | retry
  | addMember (k : ℕ)
  | delMember (k : ℕ)
  | configInit (bridgeEmpty : Bool) (ifnames : List ℕ)
  | restart
  | prepare

/-- What other code may do to the bridge while a call is under way. -/
def BridgeCall.isCallback : BridgeCall → Bool
  | .devicePresent _ _ | .claim _ | .release _ => true
  | _ => false

/-- The runs of the code that are considered. In a counted run a member is still present when it
is marked as not present, and it is not when it is freed. In a released run moreover a member is
not claimed when it is removed, and the bridge is brought up and members are enabled only while
the bridge is claimed, and not while another claim has yet to begin with the members or has
failed with them. -/
inductive Discipline
  | any
  | counted
  | released
  deriving DecidableEq

abbrev BridgeProg := Prog BridgeState BridgeCall

/-- Other code runs, and it is noted what it finds. -/
def callOthers : BridgeProg Unit := do
  modify fun w => { w with stray := w.stray || w.hasStray }
  callbacks BridgeCall.isCallback

/-- `device_set_present` for the bridge. -/
def bridgeSetPresent (state : Bool) : BridgeProg Unit := do
  let w ← read
  if w.devPresent = state then pure ()
  else
    modify fun w => { w with devPresent := state }
    callOthers

/-- `bridge_enable_interface`; `system_bridge_addbr` may fail. -/
def bridgeEnableInterface : BridgeProg ℤ := do
  let w ← read
  if w.active then pure 0
  else
    let failed ← ask
    if failed = 0 then
      modify fun w => { w with active := true }
      pure 0
    else pure (-1)

def bridgeDisableInterface : BridgeProg Unit :=
  modify fun w => { w with active := false }

/-- `device_claim` for the device of a member. -/
def claimMember (k : ℕ) : BridgeProg ℤ := do
  let w ← read
  if (w.member k).claimed then pure 0
  else
    modify fun w => w.map k fun bm => { bm with claimed := true }
    callOthers
    let failed ← ask
    if failed = 0 then
      callOthers
      pure 0
    else
      modify fun w => w.map k fun bm => { bm with claimed := false }
      pure (-1)

/-- `device_release` for the device of a member. -/
def releaseMember (k : ℕ) : BridgeProg Unit := do
  let w ← read
  if (w.member k).claimed = false then pure ()
  else
    modify fun w => w.map k fun bm => { bm with claimed := false }
    callOthers

def bridgeDisableMember (k : ℕ) : BridgeProg Unit := do
  let w ← read
  if (w.member k).present = false then pure ()
  else
    releaseMember k
    callOthers

section Code

variable (m : Discipline)

/-- The error path of `bridge_enable_member`. -/
def enableFailed (k : ℕ) : BridgeProg ℤ := do
  let w ← read
  require (m == .any || (w.member k).present)
  modify fun w => { w.removePresent k with nFailed := w.nFailed + 1 }
  releaseMember k
  pure (-1)

def bridgeEnableMember (k : ℕ) : BridgeProg ℤ := do
  let w ← read
  if (w.member k).present = false then pure 0
  else
    require (m != .released || (decide (w.devActive ≠ 0) && w.unsettled == 0))
    let ret ← bridgeEnableInterface
    if ret ≠ 0 then enableFailed m k
    else
      let ret ← claimMember k
      if ret < 0 then enableFailed m k
      else
        -- system_bridge_addif
        let failed ← ask
        if failed ≠ 0 then enableFailed m k
        else
          bridgeSetPresent true
          callOthers
          pure 0

def bridgeRemoveMember (k : ℕ) : BridgeProg Unit := do
  let w ← read
  if (w.member k).present = false then pure ()
  else
    whenever (w.devActive ≠ 0) (bridgeDisableMember k)
    let w ← read
    require (m == .any || (w.member k).present)
    require (m != .released || !(w.member k).claimed)
    modify fun w => w.removePresent k
    let w ← read
    if w.bridgeEmpty then pure ()
    else
      modify fun w => { w with forceActive := false }
      let w ← read
      whenever (w.nPresent = 0) (bridgeSetPresent false)

/-- The end of `bridge_free_member`: the device vanishes and appears again for its other users. -/
def toggleDevice (k : ℕ) : BridgeProg Unit := do
  modify fun w => w.map k fun bm => { bm with devPresent := false }
  callOthers
  modify fun w => w.map k fun bm => { bm with devPresent := true }
  callOthers

/-- `bridge_free_member` for a member that has left the list. -/
def bridgeFreeMember (k : ℕ) : BridgeProg Unit := do
  bridgeRemoveMember m k
  modify fun w => w.map k fun bm => { bm with hotplug := false }
  releaseMember k
  modify fun w => w.map k fun bm => { bm with attached := false }
  let w ← read
  whenever (w.member k).devPresent (toggleDevice k)
  let w ← read
  require (m == .any || !(w.member k).present)
  modify fun w =>
    { w.map k fun bm => { devPresent := bm.devPresent } with leaving := w.leaving.erase k }

/-- `vlist_delete` for a member. -/
def deleteMember (k : ℕ) : BridgeProg Unit := do
  let w ← read
  whenever (k ∈ w.members) do
    modify fun w => { w with members := w.members.erase k, leaving := k :: w.leaving }
    bridgeFreeMember m k

/-- `bridge_member_cb` for a device that appears. -/
def bridgeMemberAdd (k : ℕ) : BridgeProg Unit := do
  let w ← read
  -- the assertion
  require (!(w.member k).present)
  modify fun w => w.addPresent k
  let w ← read
  whenever (w.nPresent = 1) (bridgeSetPresent true)
  let w ← read
  whenever (w.devActive ≠ 0) do
    let _ ← bridgeEnableMember m k

def bridgeMemberCb (k : ℕ) (add : Bool) : BridgeProg Unit := do
  let w ← read
  if add then bridgeMemberAdd m k
  else if (w.member k).hotplug then deleteMember m k
  else bridgeRemoveMember m k

/-- `__device_set_present` for the device of a member. -/
def devicePresent (k : ℕ) (state : Bool) : BridgeProg Unit := do
  let w ← read
  if (w.member k).devPresent = state then pure ()
  else
    modify fun w => w.map k fun bm => { bm with devPresent := state }
    let w ← read
    whenever (w.member k).attached (bridgeMemberCb m k state)

def bridgeCreateMember (k : ℕ) (hotplug : Bool) : BridgeProg Unit := do
  let w ← read
  if k ∈ w.members then
    modify fun w => w.map k fun bm => { bm with pinned := hotplug }
  else
    modify fun w =>
      { w.map k fun bm =>
          { hotplug, pinned := hotplug, attached := true, devPresent := bm.devPresent } with
        members := w.members.orderedInsert (· ≤ ·) k }
    let w ← read
    whenever (w.member k).devPresent (bridgeMemberAdd m k)

/-- `vlist_for_each_element` over members. -/
def forEachMember (code : ℕ → BridgeProg Unit) : List ℕ → BridgeProg Unit
  | [] => pure ()
  | k :: ks => do
    let w ← read
    whenever (k ∈ w.members) (code k)
    forEachMember code ks

def bridgeCheckRetry : BridgeProg Unit :=
  modify fun w => { w with retry := w.retry || w.nFailed != 0 }

def bridgeSetDown : BridgeProg Unit := do
  let w ← read
  forEachMember bridgeDisableMember w.members
  bridgeDisableInterface

/-- The state change of the bridge's own device, at the end of `bridge_set_up` for `own` claims. -/
def bridgeDeviceUp (own : ℕ) : BridgeProg ℤ := do
  callOthers
  let failed ← ask
  if failed = 0 then pure 0
  else
    modify fun w => { w with unsettled := w.unsettled + own }
    bridgeSetDown
    pure (-1)

/-- `bridge_set_up`, from the loop over the members on. -/
def bridgeSetUpMembers (own : ℕ) : BridgeProg ℤ := do
  modify fun w => { w with nFailed := 0, unsettled := w.unsettled - own }
  let w ← read
  forEachMember (fun k => do let _ ← bridgeEnableMember m k) w.members
  bridgeCheckRetry
  let w ← read
  if w.forceActive = false ∧ w.nPresent = 0 then
    modify fun w => { w with unsettled := w.unsettled + own }
    bridgeDisableInterface
    bridgeSetPresent false
    pure (-1)
  else bridgeDeviceUp own

/-- `bridge_set_up`, for `own` claims of the bridge: for one in `device_claim`, for none when the
bridge restarts. -/
def bridgeSetUp (own : ℕ) : BridgeProg ℤ := do
  let w ← read
  require (m != .released || (decide (w.devActive ≠ 0) && w.unsettled == own))
  if w.nPresent = 0 then
    if w.forceActive = false then pure (-1)
    else
      let ret ← bridgeEnableInterface
      if ret ≠ 0 then pure ret else bridgeSetUpMembers m own
  else bridgeSetUpMembers m own

/-- `device_claim` for the bridge. -/
def claimBridge (u : ℕ) : BridgeProg ℤ := do
  let w ← read
  if w.userClaimed u then pure 0
  else
    modify fun w => w.claim u
    let w ← read
    if w.devActive ≠ 1 then pure 0
    else
      modify fun w => { w with unsettled := w.unsettled + 1 }
      callOthers
      let ret ← bridgeSetUp m 1
      if ret = 0 then
        callOthers
        pure 0
      else
        modify fun w => { w.claimFailed u with unsettled := w.unsettled - 1 }
        pure ret

/-- `device_release` for the bridge. -/
def releaseBridge (u : ℕ) : BridgeProg Unit := do
  let w ← read
  if w.userClaimed u = false then pure ()
  else
    modify fun w => w.release u
    let w ← read
    -- the assertion
    require (decide (0 ≤ w.devActive))
    if w.devActive ≠ 0 then pure ()
    else
      callOthers
      bridgeSetDown
      let w ← read
      if w.devActive ≠ 0 then pure () else callOthers

/-- One member of the loop in `bridge_retry_members`. -/
def retryMember (k : ℕ) : BridgeProg Unit := do
  let w ← read
  whenever ((w.member k).present = false ∧ (w.member k).devPresent) do
    modify fun w => w.addPresent k
    let _ ← bridgeEnableMember m k

/-- `bridge_retry_members`, which runs when the timer expires. -/
def bridgeRetryMembers : BridgeProg Unit := do
  let w ← read
  whenever w.retry do
    modify fun w => { w with retry := false, nFailed := 0 }
    forEachMember (retryMember m) w.members

def bridgeHotplugPrepare : BridgeProg Unit := do
  modify fun w => { w with forceActive := true }
  bridgeSetPresent true

/-- The members of a new configuration, one after the other. -/
def addMembers : List ℕ → BridgeProg Unit
  | [] => pure ()
  | k :: ks => do
    bridgeCreateMember m k false
    addMembers ks

/-- `bridge_config_init`, with the part of `bridge_apply_settings` that matters to it. -/
def bridgeConfigInit (bridgeEmpty : Bool) (ifnames : List ℕ) : BridgeProg Unit := do
  modify fun w => { w with bridgeEmpty }
  whenever bridgeEmpty bridgeHotplugPrepare
  modify fun w => { w with nFailed := 0 }
  addMembers m ifnames
  let w ← read
  -- vlist_flush
  forEachMember (deleteMember m) (w.members.filter fun k => k ∉ ifnames && !(w.member k).pinned)
  bridgeCheckRetry

/-- The restart in `device_apply_config`. -/
def bridgeRestart : BridgeProg Unit := do
  let w ← read
  whenever w.devPresent do
    bridgeSetPresent false
    let w ← read
    if w.devActive ≠ 0 then
      bridgeSetDown
      let ret ← bridgeSetUp m 0
      whenever (ret = 0) (bridgeSetPresent true)
    else bridgeSetPresent true

/-- The body of each call. -/
def bridgeBody : BridgeCall → BridgeProg ℤ
  | .devicePresent k state => do devicePresent m k state; pure 0
  | .claim u => claimBridge m u
  | .release u => do releaseBridge u; pure 0
  | .retry => do bridgeRetryMembers m; pure 0
  | .addMember k => do bridgeCreateMember m k true; pure 0
  | .delMember k => do deleteMember m k; pure 0
  | .configInit bridgeEmpty ifnames => do bridgeConfigInit m bridgeEmpty ifnames; pure 0
  | .restart => do bridgeRestart m; pure 0
  | .prepare => do bridgeHotplugPrepare; pure 0

end Code

/-- `n_present` is the number of members that are present; only members that have not been freed
are, and only such members hear of their devices. -/
structure Counted (w : BridgeState) : Prop where
  nodup : w.allocated.Nodup
  present : ∀ k, (w.member k).present → k ∈ w.allocated
  attached : ∀ k, (w.member k).attached → k ∈ w.allocated
  count : w.nPresent = w.allocated.countP fun k => (w.member k).present

theorem Counted.congr {w w' : BridgeState} (h : Counted w) (hallocated : w'.allocated = w.allocated)
    (hpresent : ∀ k, (w'.member k).present = (w.member k).present)
    (hattached : ∀ k, (w'.member k).attached → (w.member k).attached)
    (hcount : w'.nPresent = w.nPresent) : Counted w' := by
  refine ⟨hallocated ▸ h.nodup, ?_, ?_, ?_⟩
  · intro k
    rw [hpresent, hallocated]
    exact h.present k
  · intro k hk
    rw [hallocated]
    exact h.attached k (hattached k hk)
  · rw [hcount, h.count, hallocated]
    simp only [hpresent]

theorem Counted.map {w : BridgeState} (h : Counted w) (k : ℕ) {f : BridgeMember → BridgeMember}
    (hpresent : ∀ bm, (f bm).present = bm.present)
    (hattached : ∀ bm, (f bm).attached → bm.attached) : Counted (w.map k f) := by
  refine h.congr rfl (fun i => ?_) (fun i => ?_) rfl
  · by_cases hi : i = k <;> simp [BridgeState.map, hi, hpresent]
  · by_cases hi : i = k
    · simpa [BridgeState.map, hi] using hattached (w.member k)
    · simp [BridgeState.map, hi]

theorem countP_changed {l : List ℕ} (hl : l.Nodup) {k : ℕ} (hk : k ∈ l) {p q : ℕ → Bool}
    (hp : p k = false) (hq : q k = true) (hother : ∀ i, i ≠ k → p i = q i) :
    l.countP q = l.countP p + 1 := by
  induction l with
  | nil => cases hk
  | cons i l ih =>
    obtain ⟨hil, hl⟩ := List.nodup_cons.mp hl
    by_cases hi : i = k
    · subst hi
      have hsame : l.countP q = l.countP p :=
        List.countP_congr fun j hj => by rw [hother j fun hji => hil (hji ▸ hj)]
      simp [hp, hq, hsame]
    · have hkl : k ∈ l := (List.mem_cons.mp hk).resolve_left (Ne.symm hi)
      simp only [List.countP_cons, hother i hi, ih hl hkl]
      omega

theorem Counted.addPresent {w : BridgeState} (h : Counted w) {k : ℕ} (hk : k ∈ w.allocated)
    (habsent : (w.member k).present = false) : Counted (w.addPresent k) := by
  have hother : ∀ i, i ≠ k → ((w.addPresent k).member i) = w.member i := by
    intro i hi
    simp [BridgeState.addPresent, BridgeState.map, hi]
  have hself : ((w.addPresent k).member k).present = true := by
    simp [BridgeState.addPresent, BridgeState.map]
  refine ⟨h.nodup, ?_, ?_, ?_⟩
  · intro i hi
    by_cases hik : i = k
    · rw [hik]
      exact hk
    · rw [hother i hik] at hi
      exact h.present i hi
  · intro i hi
    by_cases hik : i = k
    · rw [hik]
      exact hk
    · rw [hother i hik] at hi
      exact h.attached i hi
  · have hcount : w.allocated.countP (fun i => ((w.addPresent k).member i).present) =
        w.allocated.countP (fun i => (w.member i).present) + 1 :=
      countP_changed h.nodup hk habsent hself fun i hi => by simp only [hother i hi]
    change w.nPresent + 1 = ((w.allocated.countP _ : ℕ) : ℤ)
    rw [hcount, h.count]
    rfl

theorem Counted.removePresent {w : BridgeState} (h : Counted w) {k : ℕ}
    (hpresent : (w.member k).present = true) : Counted (w.removePresent k) := by
  have hk := h.present k hpresent
  have hother : ∀ i, i ≠ k → ((w.removePresent k).member i) = w.member i := by
    intro i hi
    simp [BridgeState.removePresent, BridgeState.map, hi]
  have hself : ((w.removePresent k).member k).present = false := by
    simp [BridgeState.removePresent, BridgeState.map]
  refine ⟨h.nodup, ?_, ?_, ?_⟩
  · intro i hi
    by_cases hik : i = k
    · rw [hik]
      exact hk
    · rw [hother i hik] at hi
      exact h.present i hi
  · intro i hi
    by_cases hik : i = k
    · rw [hik]
      exact hk
    · rw [hother i hik] at hi
      exact h.attached i hi
  · have hcount : w.allocated.countP (fun i => (w.member i).present) =
        w.allocated.countP (fun i => ((w.removePresent k).member i).present) + 1 :=
      countP_changed h.nodup hk hself hpresent fun i hi => by simp only [hother i hi]
    change w.nPresent - 1 = ((w.allocated.countP _ : ℕ) : ℤ)
    rw [h.count, hcount]
    push_cast
    omega

theorem forEachMember_preserves {spec : Spec BridgeState BridgeCall} {I : BridgeState → Prop}
    {code : ℕ → BridgeProg Unit} (ks : List ℕ)
    (hcode : ∀ k w, I w → k ∈ w.members → wp spec (code k) (fun _ t => I t) w) :
    Preserves spec I (forEachMember code ks) := by
  induction ks with
  | nil => exact Preserves.pure ()
  | cons k ks ih =>
    apply Preserves.read_bind
    intro w hw
    rw [wp_bind, wp_whenever]
    exact ⟨fun hk => wp_mono _ (fun _ t ht => ih t ht) (hcode k w hw hk), fun _ => ih w hw⟩

/-- What a call does to the count: it keeps it, and it ends with the members that it began to
free. Only a callback may come while members are freed. -/
def keepsCount : Spec BridgeState BridgeCall := fun p w _ t =>
  Counted w → (p.isCallback = false → w.leaving = []) → Counted t ∧ t.leaving = w.leaving

/-- The count is right while the members in `leaving` are freed. -/
def CountedWith (leaving : List ℕ) (w : BridgeState) : Prop := Counted w ∧ w.leaving = leaving

theorem callOthers_counted (leaving : List ℕ) :
    Preserves keepsCount (CountedWith leaving) callOthers := by
  apply Preserves.bind
  · apply Preserves.modify
    rintro w ⟨hw, hleaving⟩
    exact ⟨hw.congr rfl (fun _ => rfl) (fun _ h => h) rfl, hleaving⟩
  · intro _
    apply Preserves.callbacks
    rintro p w _ t hp hspec ⟨hw, hleaving⟩
    have hcallback : p.isCallback = false → w.leaving = [] := by
      rw [hp]
      intro hfalse
      cases hfalse
    obtain ⟨ht, hsame⟩ := hspec hw hcallback
    exact ⟨ht, hsame.trans hleaving⟩

theorem modify_counted (leaving : List ℕ) {f : BridgeState → BridgeState}
    (hallocated : ∀ w, (f w).members = w.members ∧ (f w).leaving = w.leaving)
    (hmember : ∀ w, (f w).member = w.member) (hcount : ∀ w, (f w).nPresent = w.nPresent) :
    Preserves keepsCount (CountedWith leaving) (modify f) := by
  apply Preserves.modify
  rintro w ⟨hw, hleaving⟩
  have hlists : (f w).allocated = w.allocated := by
    simp only [BridgeState.allocated, hallocated w]
  refine ⟨hw.congr hlists (fun k => by rw [hmember]) (fun k => ?_) (hcount w),
    (hallocated w).2.trans hleaving⟩
  rw [hmember]
  exact fun h => h

theorem map_counted (leaving : List ℕ) (k : ℕ) {f : BridgeMember → BridgeMember}
    (hpresent : ∀ bm, (f bm).present = bm.present)
    (hattached : ∀ bm, (f bm).attached → bm.attached) :
    Preserves keepsCount (CountedWith leaving) (modify fun w => w.map k f) := by
  apply Preserves.modify
  rintro w ⟨hw, hleaving⟩
  exact ⟨hw.map k hpresent hattached, hleaving⟩

theorem setPresent_counted (leaving : List ℕ) (state : Bool) :
    Preserves keepsCount (CountedWith leaving) (bridgeSetPresent state) := by
  apply Preserves.after_read
  intro _
  refine Preserves.ite (fun _ => Preserves.pure ()) fun _ => ?_
  refine Preserves.bind ?_ fun _ => callOthers_counted leaving
  exact modify_counted leaving (fun _ => ⟨rfl, rfl⟩) (fun _ => rfl) fun _ => rfl

theorem enableInterface_counted (leaving : List ℕ) :
    Preserves keepsCount (CountedWith leaving) bridgeEnableInterface := by
  apply Preserves.after_read
  intro _
  refine Preserves.ite (fun _ => Preserves.pure 0) fun _ => Preserves.ask.bind fun _ => ?_
  refine Preserves.ite (fun _ => ?_) fun _ => Preserves.pure _
  refine Preserves.bind ?_ fun _ => Preserves.pure 0
  exact modify_counted leaving (fun _ => ⟨rfl, rfl⟩) (fun _ => rfl) fun _ => rfl

theorem disableInterface_counted (leaving : List ℕ) :
    Preserves keepsCount (CountedWith leaving) bridgeDisableInterface :=
  modify_counted leaving (fun _ => ⟨rfl, rfl⟩) (fun _ => rfl) fun _ => rfl

theorem setClaimed_counted (leaving : List ℕ) (k : ℕ) (claimed : Bool) :
    Preserves keepsCount (CountedWith leaving)
      (modify fun w => w.map k fun bm => { bm with claimed }) :=
  map_counted leaving k (fun _ => rfl) fun _ h => h

theorem claimMember_counted (leaving : List ℕ) (k : ℕ) :
    Preserves keepsCount (CountedWith leaving) (claimMember k) := by
  apply Preserves.after_read
  intro _
  refine Preserves.ite (fun _ => Preserves.pure 0) fun _ => ?_
  refine (setClaimed_counted leaving k true).bind fun _ => ?_
  refine (callOthers_counted leaving).bind fun _ => Preserves.ask.bind fun _ => ?_
  refine Preserves.ite (fun _ => (callOthers_counted leaving).bind fun _ => Preserves.pure 0) ?_
  intro _
  exact (setClaimed_counted leaving k false).bind fun _ => Preserves.pure _

theorem releaseMember_counted (leaving : List ℕ) (k : ℕ) :
    Preserves keepsCount (CountedWith leaving) (releaseMember k) := by
  apply Preserves.after_read
  intro _
  refine Preserves.ite (fun _ => Preserves.pure ()) fun _ => ?_
  exact (setClaimed_counted leaving k false).bind fun _ => callOthers_counted leaving

theorem disableMember_counted (leaving : List ℕ) (k : ℕ) :
    Preserves keepsCount (CountedWith leaving) (bridgeDisableMember k) := by
  apply Preserves.after_read
  intro _
  refine Preserves.ite (fun _ => Preserves.pure ()) fun _ => ?_
  exact (releaseMember_counted leaving k).bind fun _ => callOthers_counted leaving

section Runs

variable {m : Discipline} (hm : m ≠ .any) (leaving : List ℕ)

include hm

theorem enableFailed_counted (k : ℕ) :
    Preserves keepsCount (CountedWith leaving) (enableFailed m k) := by
  have htail : Preserves keepsCount (CountedWith leaving) (do
      releaseMember k
      pure (-1) : BridgeProg ℤ) := (releaseMember_counted leaving k).bind fun _ => Preserves.pure _
  apply Preserves.read_bind
  intro w hw
  rw [wp_bind, wp_require]
  intro hguard
  have hpresent : (w.member k).present = true := by simpa [hm] using hguard
  rw [wp_bind, wp_modify]
  refine htail _ ⟨?_, hw.2⟩
  exact (hw.1.removePresent hpresent).congr rfl (fun _ => rfl) (fun _ h => h) rfl

theorem enableMember_counted (k : ℕ) :
    Preserves keepsCount (CountedWith leaving) (bridgeEnableMember m k) := by
  apply Preserves.after_read
  intro _
  refine Preserves.ite (fun _ => Preserves.pure 0) fun _ => (Preserves.require _).bind fun _ => ?_
  refine (enableInterface_counted leaving).bind fun _ => ?_
  refine Preserves.ite (fun _ => enableFailed_counted hm leaving k) fun _ => ?_
  refine (claimMember_counted leaving k).bind fun _ => ?_
  refine Preserves.ite (fun _ => enableFailed_counted hm leaving k) fun _ => ?_
  refine Preserves.ask.bind fun _ => ?_
  refine Preserves.ite (fun _ => enableFailed_counted hm leaving k) fun _ => ?_
  exact (setPresent_counted leaving true).bind fun _ => (callOthers_counted leaving).bind fun _ =>
    Preserves.pure 0

omit hm in
theorem removed_counted : Preserves keepsCount (CountedWith leaving) (do
    let w ← read
    if w.bridgeEmpty then pure ()
    else
      modify fun w => { w with forceActive := false }
      let w ← read
      whenever (w.nPresent = 0) (bridgeSetPresent false) : BridgeProg Unit) := by
  apply Preserves.after_read
  intro _
  refine Preserves.ite (fun _ => Preserves.pure ()) fun _ => Preserves.bind ?_ fun _ => ?_
  · exact modify_counted leaving (fun _ => ⟨rfl, rfl⟩) (fun _ => rfl) fun _ => rfl
  · exact Preserves.after_read fun _ => Preserves.whenever fun _ => setPresent_counted leaving false

theorem removeMember_counted (k : ℕ) :
    Preserves keepsCount (CountedWith leaving) (bridgeRemoveMember m k) := by
  apply Preserves.after_read
  intro _
  refine Preserves.ite (fun _ => Preserves.pure ()) fun _ => ?_
  refine (Preserves.whenever fun _ => disableMember_counted leaving k).bind fun _ => ?_
  apply Preserves.read_bind
  intro w hw
  rw [wp_bind, wp_require]
  intro hguard
  rw [wp_bind, wp_require]
  intro _
  have hpresent : (w.member k).present = true := by simpa [hm] using hguard
  exact removed_counted leaving _ ⟨hw.1.removePresent hpresent, hw.2⟩

omit hm in
theorem toggleDevice_counted (k : ℕ) :
    Preserves keepsCount (CountedWith leaving) (toggleDevice k) := by
  have hset (state : Bool) : Preserves keepsCount (CountedWith leaving)
      (modify fun w => w.map k fun bm => { bm with devPresent := state }) :=
    map_counted leaving k (fun _ => rfl) fun _ h => h
  exact (hset false).bind fun _ => (callOthers_counted leaving).bind fun _ =>
    (hset true).bind fun _ => callOthers_counted leaving

omit hm in
/-- A member that is not present can be freed. -/
theorem freed_counted {w : BridgeState} {k : ℕ} (h : CountedWith (k :: leaving) w)
    (habsent : (w.member k).present = false) :
    CountedWith leaving { w.map k fun bm => { devPresent := bm.devPresent } with
      leaving := w.leaving.erase k } := by
  obtain ⟨hw, hleaving⟩ := h
  set w' : BridgeState := { w.map k fun bm => { devPresent := bm.devPresent } with
    leaving := w.leaving.erase k } with hw'
  have hself : (w'.member k).present = false ∧ (w'.member k).attached = false := by
    simp [hw', BridgeState.map]
  have hother : ∀ i, i ≠ k → w'.member i = w.member i := by
    intro i hi
    simp [hw', BridgeState.map, hi]
  have hpresent : ∀ i, (w'.member i).present = (w.member i).present := by
    intro i
    by_cases hi : i = k
    · rw [hi, hself.1, habsent]
    · rw [hother i hi]
  have hlists : w'.allocated = w.members ++ w.leaving.erase k := rfl
  have hstays : ∀ i, i ≠ k → i ∈ w.allocated → i ∈ w'.allocated := by
    intro i hi hmem
    rw [hlists, List.mem_append, List.mem_erase_of_ne hi, ← List.mem_append]
    exact hmem
  refine ⟨⟨?_, ?_, ?_, ?_⟩, ?_⟩
  · rw [hlists]
    exact hw.nodup.sublist ((List.Sublist.refl _).append List.erase_sublist)
  · intro i hi
    have hik : i ≠ k := by
      rintro rfl
      rw [hself.1] at hi
      cases hi
    rw [hother i hik] at hi
    exact hstays i hik (hw.present i hi)
  · intro i hi
    have hik : i ≠ k := by
      rintro rfl
      rw [hself.2] at hi
      cases hi
    rw [hother i hik] at hi
    exact hstays i hik (hw.attached i hi)
  · change w.nPresent = _
    rw [hw.count, hlists]
    simp only [hpresent, BridgeState.allocated, List.countP_append, List.countP_erase]
    simp [habsent]
  · change w.leaving.erase k = leaving
    rw [hleaving, List.erase_cons_head]

theorem freeMember_wp {w : BridgeState} {k : ℕ} (h : CountedWith (k :: leaving) w) :
    wp keepsCount (bridgeFreeMember m k) (fun _ t => CountedWith leaving t) w := by
  have hplug : Preserves keepsCount (CountedWith (k :: leaving))
      (modify fun w => w.map k fun bm => { bm with hotplug := false }) :=
    map_counted _ k (fun _ => rfl) fun _ h => h
  have hdetach : Preserves keepsCount (CountedWith (k :: leaving))
      (modify fun w => w.map k fun bm => { bm with attached := false }) :=
    map_counted _ k (fun _ => rfl) fun _ h => by cases h
  refine (removeMember_counted hm _ k).followed h fun _ _ h => ?_
  refine hplug.followed h fun _ _ h => ?_
  refine (releaseMember_counted _ k).followed h fun _ _ h => ?_
  refine hdetach.followed h fun _ v h => ?_
  rw [wp_bind, wp_read]
  have htoggle : Preserves keepsCount (CountedWith (k :: leaving))
      (whenever (v.member k).devPresent (toggleDevice k)) :=
    Preserves.whenever fun _ => toggleDevice_counted _ k
  refine htoggle.followed h fun _ t h => ?_
  rw [wp_bind, wp_read, wp_bind, wp_require]
  intro hguard
  have habsent : (t.member k).present = false := by simpa [hm] using hguard
  exact freed_counted leaving h habsent

omit hm in
theorem left_counted {w : BridgeState} {k : ℕ} (h : CountedWith leaving w) (hk : k ∈ w.members) :
    CountedWith (k :: leaving)
      { w with members := w.members.erase k, leaving := k :: w.leaving } := by
  obtain ⟨hw, hleaving⟩ := h
  set w' : BridgeState := { w with members := w.members.erase k, leaving := k :: w.leaving }
  have hperm : w'.allocated.Perm w.allocated := by
    have hmove : (w.members.erase k ++ k :: w.leaving).Perm (k :: w.members.erase k ++ w.leaving) :=
      List.perm_middle
    exact hmove.trans ((List.perm_cons_erase hk).symm.append_right w.leaving)
  refine ⟨⟨?_, ?_, ?_, ?_⟩, by rw [← hleaving]⟩
  · exact hperm.nodup_iff.mpr hw.nodup
  · intro i hi
    exact hperm.mem_iff.mpr (hw.present i hi)
  · intro i hi
    exact hperm.mem_iff.mpr (hw.attached i hi)
  · rw [hperm.countP_eq]
    exact hw.count

theorem deleteMember_counted (k : ℕ) :
    Preserves keepsCount (CountedWith leaving) (deleteMember m k) := by
  apply Preserves.read_bind
  rintro w ⟨hw, hleaving⟩
  rw [wp_whenever]
  refine ⟨fun hk => ?_, fun _ => ⟨hw, hleaving⟩⟩
  rw [wp_bind, wp_modify]
  exact freeMember_wp hm leaving (left_counted leaving ⟨hw, hleaving⟩ hk)

theorem memberAdd_wp {w : BridgeState} (h : CountedWith leaving w) {k : ℕ} (hk : k ∈ w.allocated) :
    wp keepsCount (bridgeMemberAdd m k) (fun _ t => CountedWith leaving t) w := by
  unfold bridgeMemberAdd
  rw [wp_bind, wp_read, wp_bind, wp_require]
  intro hguard
  have habsent : (w.member k).present = false := by simpa using hguard
  rw [wp_bind, wp_modify, wp_bind, wp_read]
  have hadded : CountedWith leaving (w.addPresent k) := ⟨h.1.addPresent hk habsent, h.2⟩
  have hfirst : Preserves keepsCount (CountedWith leaving)
      (whenever ((w.addPresent k).nPresent = 1) (bridgeSetPresent true)) :=
    Preserves.whenever fun _ => setPresent_counted leaving true
  refine hfirst.followed hadded fun _ v hv => ?_
  rw [wp_bind, wp_read]
  have henable : Preserves keepsCount (CountedWith leaving)
      (whenever (v.devActive ≠ 0) do
        let _ ← bridgeEnableMember m k) :=
    Preserves.whenever fun _ => (enableMember_counted hm leaving k).bind fun _ => Preserves.pure ()
  exact henable v hv

theorem devicePresent_counted (k : ℕ) (state : Bool) :
    Preserves keepsCount (CountedWith leaving) (devicePresent m k state) := by
  have hset : Preserves keepsCount (CountedWith leaving)
      (modify fun w => w.map k fun bm => { bm with devPresent := state }) :=
    map_counted leaving k (fun _ => rfl) fun _ h => h
  apply Preserves.after_read
  intro _
  refine Preserves.ite (fun _ => Preserves.pure ()) fun _ => hset.bind fun _ => ?_
  apply Preserves.read_bind
  intro w hw
  rw [wp_whenever]
  refine ⟨fun hattached => ?_, fun _ => hw⟩
  unfold bridgeMemberCb
  rw [wp_bind, wp_read]
  split_ifs
  · exact memberAdd_wp hm leaving hw (hw.1.attached k hattached)
  · exact deleteMember_counted hm leaving k w hw
  · exact removeMember_counted hm leaving k w hw

omit hm in
/-- A new member; no member is freed at that time. -/
theorem created_counted {w : BridgeState} {k : ℕ} (hotplug : Bool) (h : CountedWith [] w)
    (hk : k ∉ w.members) :
    CountedWith [] { w.map k fun bm =>
        { hotplug, pinned := hotplug, attached := true, devPresent := bm.devPresent } with
      members := w.members.orderedInsert (· ≤ ·) k } := by
  obtain ⟨hw, hleaving⟩ := h
  set w' : BridgeState := { w.map k fun bm =>
      { hotplug, pinned := hotplug, attached := true, devPresent := bm.devPresent } with
    members := w.members.orderedInsert (· ≤ ·) k } with hw'
  have hlist : w.allocated = w.members := by simp [BridgeState.allocated, hleaving]
  have hperm : w'.allocated.Perm (k :: w.allocated) := by
    have hlist' : w'.allocated = w.members.orderedInsert (· ≤ ·) k := by
      simp [hw', BridgeState.allocated, BridgeState.map, hleaving]
    rw [hlist', hlist]
    exact List.perm_orderedInsert (· ≤ ·) k w.members
  have hnot : k ∉ w.allocated := hlist ▸ hk
  have habsent : (w.member k).present = false := by
    by_contra hpresent
    exact hnot (hw.present k (by simpa using hpresent))
  have hself : (w'.member k).present = false := by simp [hw', BridgeState.map]
  have hother : ∀ i, i ≠ k → w'.member i = w.member i := by
    intro i hi
    simp [hw', BridgeState.map, hi]
  have hpresent : ∀ i, (w'.member i).present = (w.member i).present := by
    intro i
    by_cases hi : i = k
    · rw [hi, hself, habsent]
    · rw [hother i hi]
  refine ⟨⟨?_, ?_, ?_, ?_⟩, hleaving⟩
  · exact hperm.nodup_iff.mpr (List.nodup_cons.mpr ⟨hnot, hw.nodup⟩)
  · intro i hi
    rw [hpresent] at hi
    exact hperm.mem_iff.mpr (List.mem_cons_of_mem k (hw.present i hi))
  · intro i hi
    by_cases hik : i = k
    · rw [hik]
      exact hperm.mem_iff.mpr List.mem_cons_self
    · rw [hother i hik] at hi
      exact hperm.mem_iff.mpr (List.mem_cons_of_mem k (hw.attached i hi))
  · change w.nPresent = _
    rw [hperm.countP_eq, hw.count]
    simp [hpresent, habsent]

theorem createMember_counted (k : ℕ) (hotplug : Bool) :
    Preserves keepsCount (CountedWith []) (bridgeCreateMember m k hotplug) := by
  have hpin : Preserves keepsCount (CountedWith [])
      (modify fun w => w.map k fun bm => { bm with pinned := hotplug }) :=
    map_counted [] k (fun _ => rfl) fun _ h => h
  apply Preserves.read_bind
  rintro w ⟨hw, hleaving⟩
  split_ifs with hk
  · exact hpin w ⟨hw, hleaving⟩
  · rw [wp_bind, wp_modify, wp_bind, wp_read, wp_whenever]
    have hmem : k ∈ w.members.orderedInsert (· ≤ ·) k :=
      (List.mem_orderedInsert _).mpr (Or.inl rfl)
    have hcounted := created_counted hotplug ⟨hw, hleaving⟩ hk
    exact ⟨fun _ => memberAdd_wp hm [] hcounted (List.mem_append_left _ hmem), fun _ => hcounted⟩

omit hm in
theorem checkRetry_counted : Preserves keepsCount (CountedWith leaving) bridgeCheckRetry :=
  modify_counted leaving (fun _ => ⟨rfl, rfl⟩) (fun _ => rfl) fun _ => rfl

omit hm in
theorem setDown_counted : Preserves keepsCount (CountedWith leaving) bridgeSetDown := by
  apply Preserves.after_read
  intro w
  have hloop := forEachMember_preserves w.members fun k v hv _ =>
    disableMember_counted leaving k v hv
  exact hloop.bind fun _ => disableInterface_counted leaving

omit hm in
theorem deviceUp_counted (own : ℕ) :
    Preserves keepsCount (CountedWith leaving) (bridgeDeviceUp own) := by
  refine (callOthers_counted leaving).bind fun _ => Preserves.ask.bind fun _ => ?_
  refine Preserves.ite (fun _ => Preserves.pure 0) fun _ => Preserves.bind ?_ fun _ => ?_
  · exact modify_counted leaving (fun _ => ⟨rfl, rfl⟩) (fun _ => rfl) fun _ => rfl
  · exact (setDown_counted leaving).bind fun _ => Preserves.pure _

theorem setUpMembers_counted (own : ℕ) :
    Preserves keepsCount (CountedWith leaving) (bridgeSetUpMembers m own) := by
  refine Preserves.bind ?_ fun _ => Preserves.after_read fun w => ?_
  · exact modify_counted leaving (fun _ => ⟨rfl, rfl⟩) (fun _ => rfl) fun _ => rfl
  have henable : ∀ k, Preserves keepsCount (CountedWith leaving)
      (do let _ ← bridgeEnableMember m k : BridgeProg Unit) := fun k =>
    (enableMember_counted hm leaving k).bind fun _ => Preserves.pure ()
  refine (forEachMember_preserves w.members fun k v hv _ => henable k v hv).bind fun _ => ?_
  refine (checkRetry_counted leaving).bind fun _ => Preserves.after_read fun _ => ?_
  refine Preserves.ite (fun _ => ?_) fun _ => deviceUp_counted leaving own
  refine Preserves.bind ?_ fun _ => ?_
  · exact modify_counted leaving (fun _ => ⟨rfl, rfl⟩) (fun _ => rfl) fun _ => rfl
  · exact (disableInterface_counted leaving).bind fun _ => (setPresent_counted leaving false).bind
      fun _ => Preserves.pure _

theorem setUp_counted (own : ℕ) :
    Preserves keepsCount (CountedWith leaving) (bridgeSetUp m own) := by
  have hmembers := setUpMembers_counted hm leaving own
  refine Preserves.after_read fun _ => (Preserves.require _).bind fun _ => ?_
  refine Preserves.ite (fun _ => ?_) fun _ => hmembers
  refine Preserves.ite (fun _ => Preserves.pure _) fun _ => ?_
  refine (enableInterface_counted leaving).bind fun _ => ?_
  exact Preserves.ite (fun _ => Preserves.pure _) fun _ => hmembers

theorem claimBridge_counted (u : ℕ) :
    Preserves keepsCount (CountedWith leaving) (claimBridge m u) := by
  refine Preserves.after_read fun _ => Preserves.ite (fun _ => Preserves.pure 0) fun _ => ?_
  refine Preserves.bind ?_ fun _ => Preserves.after_read fun _ => ?_
  · exact modify_counted leaving (fun _ => ⟨rfl, rfl⟩) (fun _ => rfl) fun _ => rfl
  refine Preserves.ite (fun _ => Preserves.pure 0) fun _ => Preserves.bind ?_ fun _ => ?_
  · exact modify_counted leaving (fun _ => ⟨rfl, rfl⟩) (fun _ => rfl) fun _ => rfl
  refine (callOthers_counted leaving).bind fun _ => (setUp_counted hm leaving 1).bind fun _ => ?_
  refine Preserves.ite (fun _ => (callOthers_counted leaving).bind fun _ => Preserves.pure 0) ?_
  intro _
  refine Preserves.bind ?_ fun _ => Preserves.pure _
  exact modify_counted leaving (fun _ => ⟨rfl, rfl⟩) (fun _ => rfl) fun _ => rfl

omit hm in
theorem releaseBridge_counted (u : ℕ) :
    Preserves keepsCount (CountedWith leaving) (releaseBridge u) := by
  refine Preserves.after_read fun _ => Preserves.ite (fun _ => Preserves.pure ()) fun _ => ?_
  refine Preserves.bind ?_ fun _ => Preserves.after_read fun _ => ?_
  · exact modify_counted leaving (fun _ => ⟨rfl, rfl⟩) (fun _ => rfl) fun _ => rfl
  refine (Preserves.require _).bind fun _ => Preserves.ite (fun _ => Preserves.pure ()) fun _ => ?_
  refine (callOthers_counted leaving).bind fun _ => (setDown_counted leaving).bind fun _ => ?_
  exact Preserves.after_read fun _ => Preserves.ite (fun _ => Preserves.pure ()) fun _ =>
    callOthers_counted leaving

theorem retryMember_wp {w : BridgeState} (h : CountedWith leaving w) {k : ℕ} (hk : k ∈ w.members) :
    wp keepsCount (retryMember m k) (fun _ t => CountedWith leaving t) w := by
  unfold retryMember
  rw [wp_bind, wp_read, wp_whenever]
  refine ⟨fun hretry => ?_, fun _ => h⟩
  rw [wp_bind, wp_modify]
  have hadded : CountedWith leaving (w.addPresent k) :=
    ⟨h.1.addPresent (List.mem_append_left _ hk) hretry.1, h.2⟩
  exact ((enableMember_counted hm leaving k).bind fun _ => Preserves.pure ()) _ hadded

theorem retryMembers_counted :
    Preserves keepsCount (CountedWith leaving) (bridgeRetryMembers m) := by
  refine Preserves.after_read fun w => Preserves.whenever fun _ => Preserves.bind ?_ fun _ => ?_
  · exact modify_counted leaving (fun _ => ⟨rfl, rfl⟩) (fun _ => rfl) fun _ => rfl
  · exact forEachMember_preserves w.members fun k v hv hk => retryMember_wp hm leaving hv hk

omit hm in
theorem prepare_counted : Preserves keepsCount (CountedWith leaving) bridgeHotplugPrepare := by
  refine Preserves.bind ?_ fun _ => setPresent_counted leaving true
  exact modify_counted leaving (fun _ => ⟨rfl, rfl⟩) (fun _ => rfl) fun _ => rfl

theorem addMembers_counted (ks : List ℕ) :
    Preserves keepsCount (CountedWith []) (addMembers m ks) := by
  induction ks with
  | nil => exact Preserves.pure ()
  | cons k ks ih => exact (createMember_counted hm k false).bind fun _ => ih

theorem configInit_counted (bridgeEmpty : Bool) (ifnames : List ℕ) :
    Preserves keepsCount (CountedWith []) (bridgeConfigInit m bridgeEmpty ifnames) := by
  refine Preserves.bind ?_ fun _ => ?_
  · exact modify_counted [] (fun _ => ⟨rfl, rfl⟩) (fun _ => rfl) fun _ => rfl
  refine (Preserves.whenever fun _ => prepare_counted []).bind fun _ => ?_
  refine Preserves.bind ?_ fun _ => ?_
  · exact modify_counted [] (fun _ => ⟨rfl, rfl⟩) (fun _ => rfl) fun _ => rfl
  refine (addMembers_counted hm ifnames).bind fun _ => Preserves.after_read fun w => ?_
  have hflush := forEachMember_preserves
    (w.members.filter fun k => k ∉ ifnames && !(w.member k).pinned)
    fun k v hv _ => deleteMember_counted hm [] k v hv
  exact hflush.bind fun _ => checkRetry_counted []

theorem restart_counted : Preserves keepsCount (CountedWith leaving) (bridgeRestart m) := by
  refine Preserves.after_read fun _ => Preserves.whenever fun _ => ?_
  refine (setPresent_counted leaving false).bind fun _ => Preserves.after_read fun _ => ?_
  refine Preserves.ite (fun _ => ?_) fun _ => setPresent_counted leaving true
  refine (setDown_counted leaving).bind fun _ => (setUp_counted hm leaving 0).bind fun _ => ?_
  exact Preserves.whenever fun _ => setPresent_counted leaving true

theorem bridgeBody_counted : Verified (bridgeBody m) keepsCount := by
  intro p w
  apply wp_imp
  intro hw
  apply wp_imp
  intro hidle
  have hcall {code : BridgeProg Unit} (hcode : Preserves keepsCount (CountedWith w.leaving) code) :
      wp keepsCount (do code; pure (0 : ℤ)) (fun _ t => Counted t ∧ t.leaving = w.leaving) w :=
    (hcode.bind fun _ => Preserves.pure 0) w ⟨hw, rfl⟩
  cases p with
  | devicePresent k state => exact hcall (devicePresent_counted hm _ k state)
  | claim u => exact claimBridge_counted hm _ u w ⟨hw, rfl⟩
  | release u => exact hcall (releaseBridge_counted _ u)
  | retry => exact hcall (retryMembers_counted hm _)
  | addMember k =>
    apply hcall
    rw [hidle rfl]
    exact createMember_counted hm k true
  | delMember k => exact hcall (deleteMember_counted hm _ k)
  | configInit bridgeEmpty ifnames =>
    apply hcall
    rw [hidle rfl]
    exact configInit_counted hm bridgeEmpty ifnames
  | restart => exact hcall (restart_counted hm _)
  | prepare => exact hcall (prepare_counted _)

end Runs

/-- Any call may come next. -/
def anyCall : BridgeCall → BridgeState → Bool := fun _ _ => true

/-- A bridge without members, on devices of which some are present. -/
def newBridge (devPresent : ℕ → Bool) : BridgeState where
  member k := { devPresent := devPresent k }

theorem newBridge_counted (devPresent : ℕ → Bool) : CountedWith [] (newBridge devPresent) := by
  refine ⟨⟨?_, ?_, ?_, ?_⟩, rfl⟩ <;> simp [newBridge, BridgeState.allocated]

/-- Between calls of a counted run `n_present` is the number of members that are present. -/
theorem nPresent_of_counted_run (devPresent : ℕ → Bool) {w : BridgeState}
    (run : Reachable (bridgeBody .counted) anyCall (newBridge devPresent) w) :
    w.nPresent = (w.members.filter fun k => (w.member k).present).length ∧ 0 ≤ w.nPresent := by
  have hcounted : CountedWith [] w := by
    refine run.invariant (bridgeBody_counted (by decide)) ?_ (newBridge_counted devPresent)
    rintro p s r t _ hspec ⟨hs, hleaving⟩
    obtain ⟨ht, hsame⟩ := hspec hs fun _ => hleaving
    exact ⟨ht, hsame.trans hleaving⟩
  have hlist : w.allocated = w.members := by simp [BridgeState.allocated, hcounted.2]
  have hcount := hcounted.1.count
  rw [hlist, List.countP_eq_length_filter] at hcount
  exact ⟨hcount, by omega⟩

/-- A bridge comes up with two members, and the device of one of them vanishes. -/
theorem nPresent_of_counted_run_vanish : ∃ w,
    Reachable (bridgeBody .counted) anyCall (newBridge fun _ => true) w ∧ w.members = [0, 1] ∧
      w.nPresent = 1 ∧ (w.members.filter fun k => (w.member k).present).length = 1 := by
  obtain ⟨w, hw, hmembers, hcount⟩ := exists_reachable (bridgeBody .counted) anyCall
    (newBridge fun _ => true) (fun w => w.members = [0, 1] ∧ w.nPresent = 1) 200
    [(.configInit false [0, 1], [.resume]),
      (.claim 0, [.resume, .pick 0, .resume, .pick 0, .resume, .pick 0, .resume, .resume, .pick 0,
        .resume, .pick 0, .resume, .resume, .pick 0, .resume]),
      (.devicePresent 1 false, [.resume, .resume])] (by decide)
  have hpresent := (nPresent_of_counted_run _ hw).1
  exact ⟨w, hw, hmembers, hcount, by omega⟩

/-- While the bridge claims its only member, the device of that vanishes, and the claim fails:
the member is counted out twice. -/
theorem nPresent_negative : ∃ w,
    Reachable (bridgeBody .any) anyCall (newBridge fun _ => true) w ∧ w.nPresent = -1 ∧
      (w.members.filter fun k => (w.member k).present).length = 0 :=
  exists_reachable (bridgeBody .any) anyCall (newBridge fun _ => true)
    (fun w => w.nPresent = -1 ∧ (w.members.filter fun k => (w.member k).present).length = 0) 100
    [(.configInit false [0], [.resume]),
      (.claim 0, [.resume, .pick 0, .enter (.devicePresent 0 false), .resume, .resume, .resume,
        .resume, .pick 1, .resume, .pick 0, .resume])] (by decide)

end Netifd.Bridge
