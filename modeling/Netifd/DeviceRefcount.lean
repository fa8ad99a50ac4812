import Netifd.Device
import Mathlib.Data.List.Nodup
import Mathlib.Data.List.Count
import Mathlib.Tactic.Common
import Mathlib.Tactic.NormNum

/-!
# The reference count of a device

The four operations on users, with callbacks that may run any of them again on any user
while a broadcast or a state change is under way. The count of a device equals the
number of its claimed users as long as no claim fails while somebody else holds one and
no user is claimed while it is taken off its device; both can happen, and either breaks
the count for good.
-/

namespace Netifd
open ReentrantProgram ReentrantProgram.Prog

/-- The operations on users, as calls of their own or out of a callback. -/
inductive UserCall
  | addUser (u : ℕ) (d : Option ℕ)
  | removeUser (u : ℕ)
  | claim (u : ℕ)
  | release (u : ℕ)
  deriving DecidableEq

/-- Devices without data of their own. -/
abbrev Users := World Unit

/-- The runs of the code that are considered: all of them, or only those in which no
claim fails beside another one and no user is detached with its claim. -/
inductive Discipline
  | any
  | guarded

/-- No user but `u` holds a claim on `d`, and `u` holds none on any other device. -/
def Users.claimedAlone (w : Users) (u d : ℕ) : Bool :=
  (w.attached d).all (fun v => v == u || !(w.user v).claimed) &&
    (!(w.user u).claimed || (w.user u).dev == some d)

/-- Every callback and every state change may run any of the operations; a state change
succeeds with `0` or fails with a negative code. -/
def anyHooks : Hooks Unit UserCall where
  callback _ _ := callbacks fun _ => true
  setState _ _ := do
    callbacks fun _ => true
    let n ← ask
    pure (-(n : ℤ))
  resolve _ := ask
  free _ := pure ()

/-- The hooks of the runs that are considered. -/
def userHooks : Discipline → Hooks Unit UserCall
  | .any => anyHooks
  | .guarded =>
    { anyHooks with
      mayFail := fun w u d => Users.claimedAlone w u d
      mayDetach := fun w u => !(w.user u).claimed }

/-- The body of each operation. -/
def userBody (m : Discipline) : UserCall → Prog Users UserCall ℤ
  | .addUser u d => do deviceAddUser (userHooks m) u d; pure 0
  | .removeUser u => do deviceRemoveUser (userHooks m) u; pure 0
  | .claim u => deviceClaim (userHooks m) u
  | .release u => do deviceRelease (userHooks m) u; pure 0

/-- The attached users that hold a claim. -/
def claimedUsers (w : Users) (d : ℕ) : ℕ := (w.attached d).countP fun u => (w.user u).claimed

/-- The lists of the devices agree with the pointers of the users, and every count is the
number of attached users with a claim. -/
structure Tally (w : Users) : Prop where
  nodup : ∀ d, (w.attached d).Nodup
  mem : ∀ u d, u ∈ w.attached d ↔ (w.user u).dev = some d
  owned : ∀ u, (w.user u).claimed → (w.user u).dev ≠ none
  count : ∀ d, (w.dev d).active = claimedUsers w d
  sound : w.fault = false

theorem countP_update {α : Type} {l : List α} {p q : α → Bool} {u : α} (hl : l.Nodup) (hu : u ∈ l)
    (hp : p u = false) (hq : q u = true) (h : ∀ v, v ≠ u → q v = p v) :
    l.countP q = l.countP p + 1 := by
  induction l with
  | nil => cases hu
  | cons a l ih =>
    have hal := (List.nodup_cons.mp hl).1
    by_cases ha : a = u
    · subst ha
      have hcongr : l.countP q = l.countP p :=
        List.countP_congr fun v hv => by rw [h v (fun e => hal (e ▸ hv))]
      simp [hp, hq, hcongr]
    · have hul : u ∈ l := by simpa [Ne.symm ha] using hu
      simp [ih (List.nodup_cons.mp hl).2 hul, List.countP_cons, h a ha]
      omega

theorem countP_eq_of_notMem {α : Type} {l : List α} {p q : α → Bool} {u : α} (hu : u ∉ l)
    (h : ∀ v, v ≠ u → q v = p v) : l.countP q = l.countP p :=
  List.countP_congr fun v hv => by rw [h v (fun e => hu (e ▸ hv))]

theorem claimedUsers_add {w v : Users} (h : Tally w) {u d : ℕ} (hd : (w.user u).dev = some d)
    (hl : v.attached d = w.attached d) (hu : (w.user u).claimed = false)
    (hv : (v.user u).claimed = true)
    (ho : ∀ x, x ≠ u → (v.user x).claimed = (w.user x).claimed) :
    claimedUsers v d = claimedUsers w d + 1 := by
  rw [claimedUsers, hl]
  exact countP_update (h.nodup d) ((h.mem u d).mpr hd) hu hv ho

theorem claimedUsers_other {w v : Users} (h : Tally w) {u d : ℕ} (hd : (w.user u).dev ≠ some d)
    (hl : v.attached d = w.attached d)
    (ho : ∀ x, x ≠ u → (v.user x).claimed = (w.user x).claimed) :
    claimedUsers v d = claimedUsers w d := by
  rw [claimedUsers, hl]
  exact countP_eq_of_notMem (mt (h.mem u d).mp hd) ho

theorem Tally.congr {w v : Users} (h : Tally w)
    (hl : ∀ d, v.attached d = w.attached d) (hd : ∀ u, (v.user u).dev = (w.user u).dev)
    (hc : ∀ u, (v.user u).claimed = (w.user u).claimed)
    (ha : ∀ d, (v.dev d).active = (w.dev d).active) (hf : v.fault = w.fault) : Tally v where
  nodup d := by simpa [hl] using h.nodup d
  mem u d := by simpa [hl, hd] using h.mem u d
  owned u := by simpa [hc, hd] using h.owned u
  count d := by simpa [claimedUsers, hl, hc, ha] using h.count d
  sound := hf.trans h.sound

theorem Tally.claim {w : Users} (h : Tally w) {u d : ℕ} (hd : (w.user u).dev = some d)
    (hc : (w.user u).claimed = false) : Tally (w.claim u d) where
  nodup e := by simpa using h.nodup e
  mem v e := by
    rw [attached_claim, h.mem v e]
    by_cases hv : v = u <;> simp [World.claim, hv]
  owned v hv := by
    by_cases hvu : v = u
    · simp [World.claim, hvu, hd]
    · simpa [World.claim, hvu] using h.owned v (by simpa [World.claim, hvu] using hv)
  count e := by
    have hother : ∀ x, x ≠ u → ((w.claim u d).user x).claimed = (w.user x).claimed := by
      intro x hx
      simp [World.claim, hx]
    by_cases he : e = d
    · subst he
      rw [claimedUsers_add h hd (attached_claim w u e e) hc (by simp [World.claim]) hother]
      simp [World.claim, h.count e]
    · have hne : (w.user u).dev ≠ some e := by simpa [hd] using Ne.symm he
      rw [claimedUsers_other h hne (attached_claim w u d e) hother]
      simp [World.claim, he, h.count e]
  sound := by simpa [World.claim] using h.sound

theorem Tally.release {w : Users} (h : Tally w) {u d : ℕ} (hd : (w.user u).dev = some d)
    (hc : (w.user u).claimed = true) : Tally (w.release u d) := by
  have hother : ∀ x, x ≠ u → (w.user x).claimed = ((w.release u d).user x).claimed := by
    intro x hx
    simp [World.release, hx]
  have hmem : ∀ v e, v ∈ (w.release u d).attached e ↔ ((w.release u d).user v).dev = some e := by
    intro v e
    rw [attached_release, h.mem v e]
    by_cases hv : v = u <;> simp [World.release, hv]
  have hcount : ∀ e, ((w.release u d).dev e).active = claimedUsers (w.release u d) e := by
    intro e
    by_cases he : e = d
    · subst he
      have hadd : claimedUsers w e = claimedUsers (w.release u e) e + 1 := by
        rw [claimedUsers, ← attached_release w u e e]
        exact countP_update (by simpa using h.nodup e) ((hmem u e).mpr (by simp [World.release, hd]))
          (by simp [World.release]) hc hother
      have hactive : ((w.release u e).dev e).active = (w.dev e).active - 1 := by
        simp [World.release]
      have hcount := h.count e
      omega
    · have hne : u ∉ w.attached e := by
        rw [h.mem u e, hd]
        simpa using Ne.symm he
      have hsame : claimedUsers (w.release u d) e = claimedUsers w e := by
        rw [claimedUsers, attached_release]
        exact countP_eq_of_notMem hne fun x hx => (hother x hx).symm
      rw [hsame]
      simpa [World.release, he] using h.count e
  refine ⟨fun e => by simpa using h.nodup e, hmem, fun v hv => ?_, hcount, ?_⟩
  · by_cases hvu : v = u
    · simp [World.release, hvu] at hv
    · simpa [World.release, hvu] using h.owned v (by simpa [World.release, hvu] using hv)
  · have hnn : ¬((w.release u d).dev d).active < 0 := by
      rw [hcount d]
      omega
    simpa [World.release, h.sound] using hnn

theorem Users.claimedAlone_iff (w : Users) (u d : ℕ) : w.claimedAlone u d = true ↔
    (∀ v ∈ w.attached d, v ≠ u → (w.user v).claimed = false) ∧
      ((w.user u).claimed = true → (w.user u).dev = some d) := by
  simp [Users.claimedAlone, imp_iff_not_or]

theorem Tally.claimFailed {w : Users} (h : Tally w) {u d : ℕ}
    (ha : w.claimedAlone u d = true) : Tally (w.claimFailed u d) := by
  obtain ⟨hall, hdev⟩ := (w.claimedAlone_iff u d).mp ha
  have hother : ∀ x, x ≠ u → ((w.claimFailed u d).user x).claimed = (w.user x).claimed := by
    intro x hx
    simp [World.claimFailed, hx]
  refine ⟨fun e => by simpa using h.nodup e, fun v e => ?_, fun v hv => ?_, fun e => ?_, ?_⟩
  · rw [attached_claimFailed, h.mem v e]
    by_cases hv : v = u <;> simp [World.claimFailed, hv]
  · by_cases hvu : v = u
    · simp [World.claimFailed, hvu] at hv
    · simpa [World.claimFailed, hvu] using
        h.owned v (by simpa [World.claimFailed, hvu] using hv)
  · by_cases he : e = d
    · subst he
      have hzero : claimedUsers (w.claimFailed u e) e = 0 := by
        rw [claimedUsers, attached_claimFailed, List.countP_eq_zero]
        intro v hv
        by_cases hvu : v = u
        · simp [World.claimFailed, hvu]
        · simp [hother v hvu, hall v hv hvu]
      rw [hzero]
      simp [World.claimFailed]
    · have hsame : claimedUsers (w.claimFailed u d) e = claimedUsers w e := by
        by_cases hc : (w.user u).claimed = true
        · have hne : (w.user u).dev ≠ some e := by simpa [hdev hc] using Ne.symm he
          exact claimedUsers_other h hne (attached_claimFailed w u d e) hother
        · rw [claimedUsers, attached_claimFailed]
          apply List.countP_congr
          intro v _
          by_cases hvu : v = u
          · simpa [World.claimFailed, hvu] using hc
          · rw [hother v hvu]
      rw [hsame]
      simpa [World.claimFailed, he] using h.count e
  · simpa [World.claimFailed] using h.sound

theorem Tally.claimedAlone {w : Users} (h : Tally w) {u d : ℕ}
    (hfail : Tally (w.claimFailed u d)) : w.claimedAlone u d = true := by
  have hzero : claimedUsers (w.claimFailed u d) d = 0 := by
    have hactive : ((w.claimFailed u d).dev d).active = 0 := by simp [World.claimFailed]
    have hcount := hfail.count d
    omega
  have hother : ∀ v ∈ w.attached d, v ≠ u → (w.user v).claimed = false := by
    intro v hv hvu
    rw [claimedUsers, attached_claimFailed, List.countP_eq_zero] at hzero
    simpa [World.claimFailed, hvu] using hzero v hv
  have hdev : (w.user u).claimed = true → (w.user u).dev = some d := by
    intro hc
    obtain ⟨e, he⟩ := Option.ne_none_iff_exists'.mp (h.owned u hc)
    by_contra hne
    have hed : e ≠ d := by
      rintro rfl
      exact hne he
    have hadd : claimedUsers w e = claimedUsers (w.claimFailed u d) e + 1 := by
      rw [claimedUsers, ← attached_claimFailed w u d e]
      refine countP_update (by simpa using h.nodup e) ?_ (by simp [World.claimFailed]) hc ?_
      · simpa using (h.mem u e).mpr he
      · intro v hv
        simp [World.claimFailed, hv]
    have hbefore := h.count e
    have hafter := hfail.count e
    simp only [World.claimFailed, World.mapDev_dev, World.mapUser_dev, if_neg hed] at hafter
    simp only [World.claimFailed] at hadd
    omega
  exact (w.claimedAlone_iff u d).mpr ⟨hother, hdev⟩

theorem Tally.listed {w : Users} (h : Tally w) : w.Listed := ⟨h.nodup, h.mem⟩

theorem Tally.attach {w : Users} (h : Tally w) {u : ℕ} (d : ℕ) (hd : (w.user u).dev = none) :
    Tally (w.attach u d) := by
  have hclaim : ∀ v, ((w.attach u d).user v).claimed = (w.user v).claimed := by
    intro v
    by_cases hv : v = u <;> simp [World.attach, hv]
  have hfree : (w.user u).claimed = false := by
    by_contra hc
    exact h.owned u (by simpa using hc) hd
  have hlisted := h.listed.attach d hd
  refine ⟨hlisted.nodup, hlisted.mem, fun v hv => ?_, fun e => ?_, ?_⟩
  rotate_right
  · simpa [World.attach] using h.sound
  · have hvu : v ≠ u := by
      rintro rfl
      simp [hclaim, hfree] at hv
    simpa [World.attach, hvu] using h.owned v (by simpa [hclaim] using hv)
  · have hactive : ((w.attach u d).dev e).active = (w.dev e).active := by
      by_cases he : e = d
      · by_cases ha : (w.user u).isAlias <;> simp [World.attach, he, ha]
      · simp [World.attach, he]
    rw [hactive, h.count e, claimedUsers, claimedUsers]
    simp only [hclaim]
    by_cases he : e = d
    · subst he
      rw [(attached_attach w u e).countP_eq]
      simp [hfree]
    · rw [attached_attach_of_ne w he]

theorem Tally.detach {w : Users} (h : Tally w) {u : ℕ} (hfree : (w.user u).claimed = false) :
    Tally (w.detach u) := by
  cases hd : (w.user u).dev with
  | none => simpa [detach_of_none hd] using h
  | some d =>
    have hclaim : ∀ v, ((w.detach u).user v).claimed = (w.user v).claimed := by
      intro v
      by_cases hv : v = u <;> simp [World.detach, hd, hv]
    have hlisted := h.listed.detach u
    refine ⟨hlisted.nodup, hlisted.mem, fun v hv => ?_, fun e => ?_, ?_⟩
    · have hvu : v ≠ u := by
        rintro rfl
        simp [hclaim, hfree] at hv
      simpa [World.detach, hd, hvu] using h.owned v (by simpa [hclaim] using hv)
    · have hactive : ((w.detach u).dev e).active = (w.dev e).active := by
        by_cases he : e = d <;> simp [World.detach, hd, he]
      rw [hactive, h.count e, claimedUsers, claimedUsers]
      simp only [hclaim]
      by_cases he : e = d
      · subst he
        rw [attached_detach hd, List.countP_append, List.countP_erase, List.countP_erase,
          World.attached, List.countP_append]
        simp [hfree]
      · rw [attached_detach_of_ne hd he]
    · simpa [World.detach, hd] using h.sound

/-- What a guarded operation does to the tally: it keeps it. -/
def keepsTally : Spec Users UserCall := fun _ w _ t => Tally w → Tally t

theorem callback_keeps (u : ℕ) (ev : DeviceEvent) :
    Preserves keepsTally Tally ((userHooks .guarded).callback u ev) :=
  Preserves.callbacks fun _ _ _ _ _ hspec hI => hspec hI

theorem setState_keeps (d : ℕ) (state : Bool) :
    Preserves keepsTally Tally ((userHooks .guarded).setState d state) :=
  (Preserves.callbacks fun _ _ _ _ _ hspec hI => hspec hI).bind fun _ =>
    Preserves.ask.bind fun _ => Preserves.pure _

theorem Tally.mapDev {w : Users} (h : Tally w) (d : ℕ) {f : Device → Device}
    (hu : ∀ x, (f x).users = x.users) (hl : ∀ x, (f x).aliases = x.aliases)
    (ha : ∀ x, (f x).active = x.active) : Tally (w.mapDev d f) := by
  refine h.congr (attached_mapDev w d · hu hl) (fun _ => rfl) (fun _ => rfl) (fun e => ?_) rfl
  by_cases he : e = d <;> simp [he, ha]

theorem hooks_keep : (userHooks .guarded).Keep keepsTally Tally where
  callback := callback_keeps
  setState := setState_keeps
  resolve _ := Preserves.ask
  ifindex _ d _ hw := hw.mapDev d (fun _ => rfl) (fun _ => rfl) fun _ => rfl

theorem claims_keep : (userHooks .guarded).KeepClaims keepsTally Tally where
  toKeep := hooks_keep
  claim _ _ _ hw hd hc := hw.claim hd hc
  claimFailed _ _ _ hw hguard := hw.claimFailed hguard
  release _ _ _ hw hd hc := hw.release hd hc
  adrift _ u hw hd hc := absurd hd (hw.owned u hc)

theorem freeUnused_wp (d : ℕ) {w : Users} (hw : Tally w) :
    wp keepsTally (deviceFreeUnused (userHooks .guarded) d)
      (fun _ t => Tally t ∧ t.user = w.user) w := by
  unfold deviceFreeUnused
  simp only [wp_bind, wp_read]
  split_ifs with hkeep
  · exact ⟨hw, rfl⟩
  · have hempty : (w.dev d).aliases = [] ∧ (w.dev d).users = [] := by
      simp only [World.attached, List.append_eq_nil_iff, not_or, not_not] at hkeep
      exact hkeep.1
    simp only [deviceFree, deviceCleanup, userHooks, anyHooks, wp_bind, wp_modify, wp_read, hempty,
      deviceCleanupTo, wp_pure]
    refine ⟨?_, rfl⟩
    have hfreed : Tally (w.mapDev d fun x => { x with freed := true }) :=
      hw.mapDev d (fun _ => rfl) (fun _ => rfl) fun _ => rfl
    exact hfreed.congr (fun _ => rfl) (fun _ => rfl) (fun _ => rfl) (fun _ => rfl) rfl

theorem removeUser_wp (u : ℕ) {w : Users} (hw : Tally w) :
    wp keepsTally (deviceRemoveUser (userHooks .guarded) u)
      (fun _ t => Tally t ∧ (t.user u).dev = none) w := by
  unfold deviceRemoveUser
  simp only [wp_bind, wp_read]
  cases hd : (w.user u).dev with
  | none => exact ⟨hw, hd⟩
  | some d =>
    have hdetach : ∀ v, Tally v → wp keepsTally (do
        let w ← read
        require ((userHooks .guarded).mayDetach w u)
        modify fun w => w.detach u
        deviceFreeUnused (userHooks .guarded) d) (fun _ t => Tally t ∧ (t.user u).dev = none) v := by
      intro v hv
      simp only [wp_bind, wp_modify, wp_read, wp_require]
      intro hguard
      have htally : Tally (v.detach u) := hv.detach (by simpa [userHooks] using hguard)
      refine wp_mono _ (fun _ t ht => ⟨ht.1, ?_⟩) (freeUnused_wp d htally)
      rw [ht.2]
      exact detach_dev v u
    have hplug : Tally (w.mapUser u fun x => { x with hotplug := false }) := by
      refine hw.congr (fun _ => rfl) (fun v => ?_) (fun v => ?_) (fun _ => rfl) rfl
      all_goals by_cases hv : v = u <;> simp [hv]
    simp only [wp_bind, wp_modify, wp_read]
    split_ifs
    · rw [wp_bind]
      exact wp_mono _ (fun _ t ht => hdetach t ht) (claims_keep.releaseUser u _ hplug)
    · exact hdetach _ hplug

theorem addUser_keeps (u : ℕ) (d : Option ℕ) :
    Preserves keepsTally Tally (deviceAddUser (userHooks .guarded) u d) := by
  apply Preserves.read_bind
  intro w hw
  split_ifs with hsame hon
  · exact hw
  · rw [wp_bind]
    refine wp_mono _ (fun _ t ht => ?_) (removeUser_wp u hw)
    cases d with
    | none => exact ht.1
    | some d => exact hooks_keep.attachUser u d (ht.1.attach d ht.2)
  · cases d with
    | none => exact hw
    | some d => exact hooks_keep.attachUser u d (hw.attach d (by simpa using hon))

theorem userBody_verified : Verified (userBody .guarded) keepsTally := by
  intro p s
  apply wp_imp
  intro hs
  cases p with
  | addUser u d => exact (addUser_keeps u d).bind (fun _ => Preserves.pure 0) s hs
  | removeUser u =>
    have hkeeps : Preserves keepsTally Tally (deviceRemoveUser (userHooks .guarded) u) :=
      fun v hv => wp_mono _ (fun _ _ ht => ht.1) (removeUser_wp u hv)
    exact hkeeps.bind (fun _ => Preserves.pure 0) s hs
  | claim u => exact claims_keep.claimUser u s hs
  | release u => exact (claims_keep.releaseUser u).bind (fun _ => Preserves.pure 0) s hs

/-- Devices in any condition that nobody uses yet, and users of either kind. -/
def freshUsers (dev : ℕ → Device) (isAlias : ℕ → Bool) : Users where
  dev d := { dev d with active := 0, users := [], aliases := [] }
  user u := { isAlias := isAlias u }
  ext := ()

theorem freshUsers_tally (dev : ℕ → Device) (isAlias : ℕ → Bool) :
    Tally (freshUsers dev isAlias) := by
  constructor <;> simp [freshUsers, World.attached, claimedUsers]

/-- Any operation may come next. -/
def anyCall : UserCall → Users → Bool := fun _ _ => true

/-- In a guarded run the count of every device is the number of its claimed users, and no
assertion of a release fails, whatever the callbacks have done in between. -/
theorem refcount_of_guarded_run (dev : ℕ → Device) (isAlias : ℕ → Bool) {w : Users}
    (run : Reachable (userBody .guarded) anyCall (freshUsers dev isAlias) w) :
    (∀ d, (w.dev d).active = claimedUsers w d) ∧ w.fault = false := by
  have htally := run.invariant userBody_verified (fun _ _ _ _ _ hspec hI => hspec hI)
    (freshUsers_tally dev isAlias)
  exact ⟨htally.count, htally.sound⟩

/-- Two users claim a device whose bring-up succeeds, and one of them releases it again. -/
theorem refcount_of_guarded_run_two : ∃ w,
    Reachable (userBody .guarded) anyCall (freshUsers (fun _ => {}) fun _ => false) w ∧
      (w.dev 0).active = 1 ∧ claimedUsers w 0 = 1 ∧ w.fault = false := by
  obtain ⟨w, hw, hactive⟩ := exists_reachable (userBody .guarded) anyCall
    (freshUsers (fun _ => {}) fun _ => false) (fun w => (w.dev 0).active = 1) 60
    [(.addUser 0 (some 0), []), (.addUser 1 (some 0), []),
      (.claim 0, [.resume, .resume, .resume, .pick 0, .enter (.claim 1), .resume, .resume]),
      (.release 0, [])] (by decide)
  obtain ⟨hcount, hfault⟩ := refcount_of_guarded_run _ _ hw
  refine ⟨w, hw, hactive, ?_, hfault⟩
  have := hcount 0
  omega

/-- While a claim is under way a callback claims the device for a second user. The bring-up
fails, the count is zero beside the second claim, and giving that up fails the assertion. -/
theorem refcount_broken_by_failed_claim :
    (∃ w, Reachable (userBody .any) anyCall (freshUsers (fun _ => {}) fun _ => false) w ∧
      (w.dev 0).active = 0 ∧ claimedUsers w 0 = 1) ∧
    ∃ w, Reachable (userBody .any) anyCall (freshUsers (fun _ => {}) fun _ => false) w ∧
      w.fault = true := by
  constructor
  · exact exists_reachable (userBody .any) anyCall _
      (fun w => (w.dev 0).active = 0 ∧ claimedUsers w 0 = 1) 60
      [(.addUser 0 (some 0), []), (.addUser 1 (some 0), []),
        (.claim 0, [.enter (.claim 1), .resume, .resume, .resume, .pick 1])] (by decide)
  · exact exists_reachable (userBody .any) anyCall _ (fun w => w.fault = true) 60
      [(.addUser 0 (some 0), []), (.addUser 1 (some 0), []),
        (.claim 0, [.enter (.claim 1), .resume, .resume, .resume, .pick 1]),
        (.release 1, [])] (by decide)

end Netifd
