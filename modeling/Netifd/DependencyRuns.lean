import Netifd.HostDependencies

/-!
# Runs with host dependencies

What every call does to the lists of listeners, whatever it runs in the meantime: an interface that
is not up afterwards has no listeners but those that it had before, if it was not up then either.
So an interface that goes down has lost all of them in the end.
-/

namespace Netifd.HostDependencies
open ReentrantProgram ReentrantProgram.Prog

section Runs

variable {ι : Type} {m : Discipline} {s t u w : System ι}

theorem entry_split {l : List ℕ} {d : ℕ} (hd : d ∈ l) : ∃ before after,
    l = before ++ d :: after ∧ l.takeWhile (· ≠ d) = before ∧ nextEntry l d = after.head? ∧
      l.erase d = before ++ after := by
  obtain ⟨before, after, rfl, hbefore⟩ := List.eq_append_cons_of_mem hd
  have hpass : ∀ e ∈ before, decide (e ≠ d) = true := by
    intro e he
    have hne : e ≠ d := fun heq => hbefore (heq ▸ he)
    simpa using hne
  refine ⟨before, after, rfl, ?_, ?_, ?_⟩
  · rw [List.takeWhile_append_of_pos hpass]
    simp
  · rw [nextEntry, List.dropWhile_append_of_pos hpass]
    simp
  · rw [List.erase_append_right _ hbefore, List.erase_cons_head]

theorem takeWhile_sublist {l before after : List ℕ} {n : ℕ} (hn : n ∈ l)
    (hl : l.Sublist (before ++ n :: after)) (hbefore : n ∉ before) (hafter : n ∉ after) :
    (l.takeWhile (· ≠ n)).Sublist before := by
  obtain ⟨l₁, l₂, rfl, h₁, h₂⟩ := List.sublist_append_iff.mp hl
  have hpass : ∀ e ∈ l₁, decide (e ≠ n) = true := by
    intro e he
    have hne : e ≠ n := fun heq => hbefore (heq ▸ h₁.subset he)
    simpa using hne
  rw [List.takeWhile_append_of_pos hpass]
  rcases List.sublist_cons_iff.mp h₂ with hrest | ⟨r, rfl, -⟩
  · have hn₁ : n ∉ l₁ := fun he => hbefore (h₁.subset he)
    rcases List.mem_append.mp hn with he | he
    · exact absurd he hn₁
    · exact absurd (hrest.subset he) hafter
  · simpa using h₁

/-- The events by which a dependency is taken off the list of its interface. -/
def endsDependency (ev : InterfaceEvent) : Bool := ev ≠ .up && ev ≠ .update

/-- When the listeners of an interface have been told from one on, those that are left of them are
the ones before it, if the interface is not up. -/
def Told (m : Discipline) (a : ℕ) (d : ℕ) (s t : System ι) : Prop :=
  m = .guarded → Sound s → t.astray = false → t.up a = false →
    (t.iface a).users.Sublist (if s.up a then [] else (s.iface a).users.takeWhile (· ≠ d))

/-- What a call does. A listener that is told is on the list that is gone through. -/
def doesFollow (m : Discipline) : Spec (System ι) (Call ι) := fun p s _ t =>
  match p with
  | .tell inUsers a ev d => d ∈ s.listeners inUsers a →
    Follows m s t ∧ (inUsers = true → endsDependency ev = true → Told m a d s t)
  | _ => Follows m s t

theorem doesFollow_outside {p : Call ι} {r : ℤ} (hp : p.isOutside = true)
    (h : doesFollow m p s r t) : Follows m s t := by
  cases p with
  | tell => cases hp
  | _ => exact h

theorem elsewhere_follows (s : System ι) :
    Preserves (doesFollow m) (Follows m s) elsewhere := by
  apply Preserves.callbacks
  intro p v r t hp hspec hv
  exact hv.trans (doesFollow_outside hp hspec)

theorem follows_setState {a : ℕ} (state : InterfaceState)
    (ha : w.up a = false ∨ state = .up ∨ m = .any) :
    Follows m w (w.mapIface a fun x => { x with state }) := by
  have hiface (i : ℕ) : (w.mapIface a fun x => { x with state }).iface i =
      { w.iface i with state := if i = a then state else (w.iface i).state } := by
    by_cases hi : i = a <;> simp [System.mapIface, hi]
  refine .of_step rfl fun h => ⟨h.mapIface a fun _ => ⟨rfl, rfl, rfl⟩, fun hm i hi => ?_⟩
  rw [System.up, hiface] at hi
  rw [hiface]
  by_cases hia : i = a
  · subst hia
    rcases ha with hdown | hstate | hany
    · rw [hdown]
      exact .refl _
    · simp [hstate] at hi
    · rw [hm] at hany
      cases hany
  · rw [if_neg hia] at hi
    have hdown : w.up i = false := hi
    rw [hdown]
    exact .refl _

theorem Follows.of_told {a : ℕ} {state : InterfaceState}
    (h : Follows m (w.mapIface a fun x => { x with state }) t)
    (htold : m = .guarded → Sound w → t.astray = false → t.up a = false →
      (t.iface a).users = []) : Follows m w t := by
  rcases h with ht | ⟨hw, h⟩
  · exact .inl ht
  · cases hastray : t.astray with
    | true => exact .inl hastray
    | false =>
      refine .inr ⟨hw, fun hlisted => ?_⟩
      obtain ⟨hlast, hsettling⟩ := h (hlisted.mapIface a fun _ => ⟨rfl, rfl, rfl⟩)
      refine ⟨hlast, fun hm i hi => ?_⟩
      by_cases hia : i = a
      · subst hia
        rw [htold hm hlisted hastray hi]
        exact List.nil_sublist _
      · have hsub := hsettling hm i hi
        simpa [System.up, System.mapIface, hia] using hsub

theorem tellListeners_follows (s : System ι) (inUsers : Bool) (a : ℕ) (ev : InterfaceEvent) :
    Preserves (doesFollow m) (Follows m s) (tellListeners inUsers a ev) := by
  apply Preserves.read_bind
  intro w hw
  cases hlisteners : w.listeners inUsers a with
  | nil => exact hw
  | cons d l =>
    intro _ v hspec
    exact hw.trans (hspec (by rw [hlisteners]; exact List.mem_cons_self)).1

theorem interfaceEvent_follows (s : System ι) (a : ℕ) (ev : InterfaceEvent) :
    Preserves (doesFollow m) (Follows m s) (interfaceEvent a ev) :=
  (tellListeners_follows s true a ev).bind fun _ =>
    (tellListeners_follows s false a ev).bind fun _ => elsewhere_follows s

/-- The interface has no listeners any more, unless it is up. -/
def Left (m : Discipline) (a : ℕ) (s t : System ι) : Prop :=
  Follows m s t ∧ (m = .guarded → Sound s → t.astray = false → t.up a = false →
    (t.iface a).users = [])

theorem Left.trans {a : ℕ} (h : Left m a s t) (h' : Follows m t u) : Left m a s u := by
  refine ⟨h.1.trans h', fun hm hs hu hdown => ?_⟩
  rcases h' with hastray | ⟨ht, h'⟩
  · rw [hu] at hastray
    cases hastray
  · rcases h.1 with hastray | ⟨_, hst⟩
    · rw [ht] at hastray
      cases hastray
    · have hsub := (h' (hst hs).1).2 hm a hdown
      cases hup : t.up a with
      | true => simpa [hup] using hsub
      | false =>
        rw [hup, h.2 hm hs ht hup] at hsub
        simpa using hsub

theorem interfaceEvent_left (w : System ι) (a : ℕ) {ev : InterfaceEvent}
    (hev : endsDependency ev = true) :
    wp (doesFollow m) (interfaceEvent a ev) (fun _ t => Left m a w t) w := by
  have hrest : ∀ v, Left m a w v →
      wp (doesFollow m) (do tellListeners false a ev; elsewhere) (fun _ t => Left m a w t) v := by
    intro v hv
    exact ((tellListeners_follows v false a ev).bind fun _ => elsewhere_follows v).ends (.refl v)
      fun _ t ht => hv.trans ht
  rw [interfaceEvent, wp_bind, tellListeners, wp_bind, wp_read]
  cases husers : (w.iface a).users with
  | nil =>
    have hlisteners : w.listeners true a = [] := husers
    simp only [hlisteners, wp_pure]
    exact hrest w ⟨.refl w, fun _ _ _ _ => husers⟩
  | cons d l =>
    have hlisteners : w.listeners true a = d :: l := husers
    simp only [hlisteners, wp_bind]
    intro _ v hspec
    obtain ⟨hfollows, htold⟩ := hspec (by rw [hlisteners]; exact List.mem_cons_self)
    refine hrest v ⟨hfollows, fun hm hlisted hastray hdown => ?_⟩
    simpa [husers] using htold rfl hev hm hlisted hastray hdown

theorem goesDown_follows (hw : Follows m s w) (a : ℕ) (state : InterfaceState) :
    wp (doesFollow m) (do setState a state; interfaceEvent a .down; elsewhere)
      (fun _ t => Follows m s t) w := by
  rw [setState, wp_bind, wp_modify, wp_bind]
  refine wp_mono _ (fun _ t ht => ?_) (interfaceEvent_left _ a rfl)
  have hfollows : Follows m w t :=
    ht.1.of_told fun hm hsound hastray hdown =>
      ht.2 hm (hsound.mapIface a fun _ => ⟨rfl, rfl, rfl⟩) hastray hdown
  exact elsewhere_follows s t (hw.trans hfollows)

theorem changesState_follows (hw : Follows m s w) {a : ℕ} (hnot : w.up a = false)
    (state : InterfaceState) :
    wp (doesFollow m) (do setState a state; elsewhere) (fun _ t => Follows m s t) w := by
  rw [setState, wp_bind, wp_modify]
  exact elsewhere_follows s _ (hw.trans (follows_setState state (.inl hnot)))

theorem markInterfaceDown_follows (s : System ι) (a : ℕ) :
    Preserves (doesFollow m) (Follows m s) (markInterfaceDown a) := by
  apply Preserves.read_bind
  intro w hw
  by_cases hdown : (w.iface a).state = .down
  · rw [if_pos hdown]
    exact hw
  · rw [if_neg hdown]
    by_cases hup : (w.iface a).state = .up
    · simp only [if_pos hup]
      exact goesDown_follows hw a .down
    · simp only [if_neg hup]
      exact changesState_follows hw (by simpa [System.up] using hup) .down

theorem interfaceSetDown_follows (s : System ι) (a : ℕ) :
    Preserves (doesFollow m) (Follows m s) (interfaceSetDown a) := by
  apply Preserves.read_bind
  intro w hw
  cases hstate : (w.iface a).state with
  | up => exact goesDown_follows hw a .teardown
  | setup => exact changesState_follows hw (by simp [System.up, hstate]) .teardown
  | teardown => exact elsewhere_follows s w hw
  | down => exact elsewhere_follows s w hw

theorem setAvailable_follows (s : System ι) (a : ℕ) (state : Bool) :
    Preserves (doesFollow m) (Follows m s) (setAvailable a state) := by
  apply Preserves.after_read
  intro w
  apply Preserves.ite (fun _ => Preserves.pure ())
  intro _
  refine (Preserves.modify fun v hv => hv.trans ?_).bind fun _ =>
    Preserves.ite (fun _ => elsewhere_follows s) fun _ => interfaceSetDown_follows s a
  exact follows_mapIface v a (fun _ => ⟨rfl, rfl, rfl⟩) fun _ => rfl

theorem checkDependencies_follows (s : System ι) (a : ℕ) :
    Preserves (doesFollow m) (Follows m s) (checkDependencies a) :=
  Preserves.after_read fun _ => setAvailable_follows s a _

theorem ifDownCb_follows {d : ℕ} (ev : InterfaceEvent)
    (hlive : Sound w → (w.dep d).live = true) :
    wp (doesFollow m) (ifDownCb d ev)
      (fun _ t => Follows m w t ∧
        (endsDependency ev = true → Follows m (listenToAll (removeUser w d) d) t)) w := by
  have hrest (v : System ι) : Preserves (doesFollow m) (Follows m v) (do
      let idle ← ask
      if idle ≠ 0 then
        let w ← read
        let _ ← invoke (.protoEvent (w.dep d).proto .linkLost)
        elsewhere) :=
    Preserves.ask.bind fun _ => Preserves.ite
      (fun _ => Preserves.after_read fun _ =>
        Preserves.bind (fun _ hv _ _ hspec => hv.trans hspec) fun _ => elsewhere_follows v)
      fun _ => Preserves.pure ()
  rw [ifDownCb]
  split_ifs with hev
  · refine ⟨.refl w, fun hends => ?_⟩
    rcases hev with rfl | rfl <;> cases hends
  · rw [wp_bind, wp_modify]
    refine wp_mono _ (fun _ t ht => ?_) (hrest _ _ (.refl _))
    exact ⟨(follows_listenToAll hlive).trans ht, fun _ => ht⟩

theorem Sound.of_mem (h : Sound w) {inUsers : Bool} {a d : ℕ} (hd : d ∈ w.listeners inUsers a) :
    (w.dep d).live = true ∧ (inUsers = true → (w.dep d).downCb = true) := by
  cases inUsers with
  | true =>
    have hfound := h.found d a ((h.users a d).mp hd)
    exact ⟨hfound.2.1, fun _ => hfound.1⟩
  | false =>
    refine ⟨(h.waiting d hd).1, fun hfalse => ?_⟩
    cases hfalse

/-- One turn of a loop of `interface_event`. -/
def Turn (m : Discipline) (inUsers : Bool) (ev : InterfaceEvent) (d : ℕ) (s t : System ι) : Prop :=
  Follows m s t ∧ (inUsers = true → endsDependency ev = true → Sound s →
    Follows m (listenToAll (removeUser s d) d) t)

theorem Turn.left {a d : ℕ} {ev : InterfaceEvent} (h : Turn m true ev d s t)
    (hev : endsDependency ev = true) (hd : d ∈ (s.iface a).users) (hm : m = .guarded)
    (hs : Sound s) (ht : t.astray = false) (hdown : t.up a = false) :
    (t.iface a).users.Sublist (if s.up a then [] else (s.iface a).users.erase d) := by
  rcases h.2 rfl hev hs with hastray | ⟨_, hfollows⟩
  · rw [ht] at hastray
    cases hastray
  · have hlive := (hs.found d a ((hs.users a d).mp hd)).2.1
    exact (hfollows (hs.listenToAll hlive)).2 hm a hdown

theorem Turn.told_last {a d : ℕ} {ev : InterfaceEvent} (h : Turn m true ev d s t)
    (hev : endsDependency ev = true) (hd : d ∈ (s.iface a).users)
    (hlast : nextEntry (s.iface a).users d = none) : Told m a d s t := by
  intro hm hs ht hdown
  obtain ⟨before, after, -, hbefore, hnext, herase⟩ := entry_split hd
  have hafter : after = [] := List.head?_eq_none_iff.mp (hnext.symm.trans hlast)
  have hleft := h.left hev hd hm hs ht hdown
  rwa [herase, hafter, List.append_nil, ← hbefore] at hleft

/-- When a listener has been told and then all from the next one on, those before it are left. -/
theorem Turn.told_next {a d n : ℕ} {ev : InterfaceEvent} (h : Turn m true ev d s u)
    (hev : endsDependency ev = true) (hd : d ∈ (s.iface a).users)
    (hn : nextEntry (s.iface a).users d = some n) (hmem : n ∈ (u.iface a).users)
    (hfollows : Follows m u t) (htold : Told m a n u t) : Told m a d s t := by
  intro hm hs ht hdown
  obtain ⟨before, after, hl, hbefore, hnext, herase⟩ := entry_split hd
  obtain ⟨rest, rfl⟩ : ∃ rest, after = n :: rest :=
    List.head?_eq_some_iff.mp (hnext.symm.trans hn)
  rcases hfollows with hastray | ⟨hu, -⟩
  · rw [ht] at hastray
    cases hastray
  · rcases h.1 with hastray | ⟨_, hsu⟩
    · rw [hu] at hastray
      cases hastray
    · have hsub := htold hm (hsu hs).1 ht hdown
      cases hup : u.up a with
      | true =>
        rw [hup, if_pos rfl, List.sublist_nil] at hsub
        rw [hsub]
        exact List.nil_sublist _
      | false =>
        have hleft := h.left hev hd hm hs hu hup
        have hnodup := hs.nodupUsers a
        rw [hl, List.nodup_append] at hnodup
        have hnotBefore : n ∉ before := fun hin =>
          hnodup.2.2 n hin n (List.mem_cons_of_mem d List.mem_cons_self) rfl
        have hnotRest : n ∉ rest :=
          (List.nodup_cons.mp (List.nodup_cons.mp hnodup.2.1).2).1
        rw [hup, if_neg (by simp)] at hsub
        cases hsup : s.up a with
        | true =>
          rw [hsup, if_pos rfl, List.sublist_nil] at hleft
          rw [hleft] at hmem
          cases hmem
        | false =>
          rw [hsup, if_neg (by simp), herase] at hleft
          rw [if_neg (by simp), hbefore]
          exact hsub.trans (takeWhile_sublist hmem hleft hnotBefore hnotRest)

variable [DecidableEq ι]

theorem find_live {name : ι} {i : ℕ} (h : w.find name = some i) : (w.iface i).live = true := by
  have hi := List.find?_some h
  simp only [Bool.and_eq_true] at hi
  exact hi.1

/-- The interface that is found is there. -/
theorem findHost_live (w : System ι) (d : ℕ) :
    wp (doesFollow m) (findHost d)
      (fun r t => t = w ∧ ∀ i, r = some i → (w.iface i).live = true) w := by
  have hnamed : ∀ i, w.candidate d = some (some i) → (w.iface i).live = true := by
    intro i hi
    unfold System.candidate at hi
    split at hi
    · cases hi
    · split at hi
      · cases hi
      next j hj =>
        split_ifs at hi
        cases hi
        exact find_live hj
  rw [findHost, wp_bind, wp_read]
  cases hcandidate : w.candidate d with
  | none => exact ⟨rfl, fun i hi => by cases hi⟩
  | some iface =>
    dsimp only
    split_ifs
    · refine ⟨rfl, ?_⟩
      rintro i rfl
      exact hnamed i hcandidate
    · rw [targetRoute, wp_bind, wp_read, wp_bind]
      intro n
      cases n with
      | zero => exact ⟨rfl, fun i hi => by cases hi⟩
      | succ n =>
        cases iface with
        | some i =>
          refine ⟨rfl, fun j hj => ?_⟩
          cases hj
          exact hnamed i hcandidate
        | none =>
          rw [wp_ret]
          dsimp only
          rw [wp_bind, wp_require]
          intro hlive
          refine ⟨rfl, fun j hj => ?_⟩
          cases hj
          exact hlive

theorem updateHostDep_follows {d : ℕ} (hlive : Sound w → (w.dep d).live = true) :
    wp (doesFollow m) (updateHostDep m d) (fun _ t => Follows m w t) w := by
  have hcheck : Preserves (doesFollow m) (Follows m w)
      (do let v ← read; checkDependencies (v.dep d).proto) :=
    Preserves.after_read fun _ => checkDependencies_follows w _
  rw [updateHostDep, wp_bind, wp_read]
  split_ifs with hnone
  · rw [wp_bind]
    refine wp_mono _ (fun found t hfound => ?_) (findHost_live w d)
    obtain ⟨rfl, hfound⟩ := hfound
    cases found with
    | none => exact hcheck t (.refl t)
    | some i =>
      rw [wp_bind, wp_read, wp_bind, wp_require]
      intro hup
      rw [wp_bind, wp_modify]
      refine hcheck _ (follows_listenTo hlive (fun _ => hfound i rfl) fun hm => ?_)
      simpa [hm] using hup
  · exact hcheck w (.refl w)

theorem ifUpCb_follows {d : ℕ} (ev : InterfaceEvent)
    (hlive : Sound w → (w.dep d).live = true) :
    wp (doesFollow m) (ifUpCb m d ev) (fun _ t => Follows m w t) w := by
  rw [ifUpCb]
  split_ifs
  · exact updateHostDep_follows hlive
  · exact .refl w

theorem callback_turn {inUsers : Bool} {a d : ℕ} (ev : InterfaceEvent)
    (hd : d ∈ w.listeners inUsers a) :
    wp (doesFollow m) (callback m d ev) (fun _ t => Turn m inUsers ev d w t) w := by
  have hlive : Sound w → (w.dep d).live = true := fun h => (h.of_mem hd).1
  rw [callback, wp_bind, wp_read]
  split_ifs with hdown
  · exact wp_mono _ (fun _ t ht => ⟨ht.1, fun _ hev _ => ht.2 hev⟩) (ifDownCb_follows ev hlive)
  · refine wp_mono _ (fun _ t ht => ⟨ht, fun hin _ h => ?_⟩) (ifUpCb_follows ev hlive)
    exact absurd ((h.of_mem hd).2 hin) hdown

theorem tellFrom_wp {inUsers : Bool} {a d : ℕ} (ev : InterfaceEvent)
    (hd : d ∈ w.listeners inUsers a) :
    wp (doesFollow m) (tellFrom m inUsers a ev d)
      (fun _ t => Follows m w t ∧
        (inUsers = true → endsDependency ev = true → Told m a d w t)) w := by
  rw [tellFrom, wp_bind, wp_read, wp_bind]
  refine wp_mono _ (fun _ v hv => ?_) (callback_turn ev hd)
  rw [wp_bind]
  refine (elsewhere_follows v).ends (.refl v) fun _ u hu => ?_
  have hturn : Turn m inUsers ev d w u :=
    ⟨hv.1.trans hu, fun hin hev hs => (hv.2 hin hev hs).trans hu⟩
  cases hnext : nextEntry (w.listeners inUsers a) d with
  | none =>
    refine ⟨hturn.1, fun hin hev => ?_⟩
    subst hin
    exact hturn.told_last hev hd hnext
  | some n =>
    dsimp only
    rw [wp_bind, wp_read]
    split_ifs with hmem
    · intro _ t hspec
      obtain ⟨hfollows, htold⟩ := hspec hmem
      refine ⟨hturn.1.trans hfollows, fun hin hev => ?_⟩
      subst hin
      exact hturn.told_next hev hd hnext hmem hfollows (htold rfl hev)
    · refine ⟨.inl rfl, fun _ _ _ _ hastray => ?_⟩
      cases hastray

theorem addHostDependency_follows {a : ℕ} (name : Option ι) (noHost : Bool)
    (ha : (w.iface a).live = true) :
    wp (doesFollow m) (addHostDependency m a name noHost) (fun _ t => Follows m w t) w := by
  rw [addHostDependency, wp_bind]
  intro closing
  rw [wp_ret]
  split_ifs
  · exact .refl w
  · rw [wp_bind]
    intro badHost
    rw [wp_ret]
    split_ifs
    · exact .refl w
    · have hnew := follows_newDependency (m := m) name (noHost && name.isSome) ha
      have hlive : ((newDependency w a name (noHost && name.isSome)).dep w.nextDep).live =
          true := by simp [newDependency]
      rw [wp_bind, wp_read, wp_bind, wp_modify, wp_bind]
      refine wp_mono _ (fun _ t ht => ?_) (updateHostDep_follows fun _ => hlive)
      rw [wp_bind, wp_read]
      split_ifs <;> exact hnew.trans ht

omit [DecidableEq ι]

theorem interfaceSetUp_follows {a : ℕ} (hw : w.up a = false) :
    wp (doesFollow m) (interfaceSetUp a) (fun _ t => Follows m w t) w := by
  have hrest : Preserves (doesFollow m) (Follows m w) (do
      elsewhere
      let ret ← ask
      if ret ≠ 0 then markInterfaceDown a) :=
    (elsewhere_follows w).bind fun _ => Preserves.ask.bind fun _ =>
      Preserves.ite (fun _ => markInterfaceDown_follows w a) fun _ => Preserves.pure ()
  have hstart := follows_setState (m := m) .setup (.inl hw)
  rw [interfaceSetUp, setState, wp_bind, wp_modify, wp_bind]
  intro idle
  rw [wp_ret]
  split_ifs
  · rw [wp_bind, wp_modify]
    exact hrest _ (hstart.trans (follows_clearHostDep _ a))
  · exact hrest _ hstart

theorem setState_quietly (s : System ι) (a : ℕ) (state : InterfaceState) :
    Preserves (doesFollow m) (Follows m s) (do
      let w ← read
      require (m = .any || !w.up a)
      setState a state) := by
  apply Preserves.read_bind
  intro w hw
  rw [wp_bind, wp_require]
  intro hdown
  refine hw.trans (follows_setState state ?_)
  rcases Bool.or_eq_true_iff.mp hdown with hany | hnot
  · exact .inr (.inr (of_decide_eq_true hany))
  · exact .inl (by simpa using hnot)

theorem protoEvent_follows (s : System ι) (a : ℕ) (ev : InterfaceProtoEvent) :
    Preserves (doesFollow m) (Follows m s) (interfaceProtoEventCb m a ev) := by
  cases ev with
  | up =>
    apply Preserves.after_read
    intro w
    refine Preserves.ite (fun _ => Preserves.ask.bind fun _ => ?_) fun _ => ?_
    · exact Preserves.ite (fun _ => interfaceEvent_follows s a _) fun _ => Preserves.pure ()
    · refine (elsewhere_follows s).bind fun _ => Preserves.bind ?_ fun _ =>
        interfaceEvent_follows s a _
      exact Preserves.modify fun v hv => hv.trans (follows_setState .up (.inr (.inl rfl)))
  | down => exact (markInterfaceDown_follows s a).bind fun _ => elsewhere_follows s
  | linkLost =>
    refine Preserves.after_read fun w => Preserves.ite (fun _ => ?_) fun _ => Preserves.pure ()
    exact (markInterfaceDown_follows s a).bind fun _ => setState_quietly s a _
  | renew => exact Preserves.pure ()

theorem up_clearHostDep (w : System ι) (a i : ℕ) : (clearHostDep w a).up i = w.up i := by
  have hfold : ∀ (l : List ℕ) (v : System ι), (l.foldl clearOne v).up i = v.up i := by
    intro l
    induction l with
    | nil => exact fun _ => rfl
    | cons d l ih =>
      intro v
      rw [List.foldl_cons, ih, System.up, clearOne_iface]
      rfl
  exact hfold _ w

theorem cleanupState_follows (s : System ι) (a : ℕ) :
    Preserves (doesFollow m) (Follows m s) (interfaceCleanupState m a) := by
  refine (setAvailable_follows s a false).bind fun _ => (elsewhere_follows s).bind fun _ => ?_
  apply Preserves.read_bind
  intro w hw
  rw [wp_bind, wp_require]
  intro hdown
  have hcleared : Follows m w ((clearHostDep w a).mapIface a fun x => { x with shell := false }) :=
    (follows_clearHostDep w a).trans
      (follows_mapIface _ a (fun _ => ⟨rfl, rfl, rfl⟩) fun _ => rfl)
  have hup : ((clearHostDep w a).mapIface a fun x => { x with shell := false }).up a = w.up a := by
    rw [← up_clearHostDep w a a]
    simp [System.up, System.mapIface]
  rw [wp_bind, wp_modify, setState, wp_bind, wp_modify]
  refine elsewhere_follows s _ (hw.trans (hcleared.trans (follows_setState .down ?_)))
  rcases Bool.or_eq_true_iff.mp hdown with hany | hnot
  · exact .inr (.inr (of_decide_eq_true hany))
  · exact .inl (hup.trans (by simpa using hnot))

theorem reload_follows (s : System ι) (a : ℕ) :
    Preserves (doesFollow m) (Follows m s) (interfaceDoReload m a) := by
  refine (interfaceEvent_follows s a _).bind fun _ => (cleanupState_follows s a).bind fun _ =>
    Preserves.ask.bind fun _ => Preserves.bind ?_ fun _ => elsewhere_follows s
  exact Preserves.modify fun v hv =>
    hv.trans (follows_mapIface v a (fun _ => ⟨rfl, rfl, rfl⟩) fun _ => rfl)

theorem follows_dropUsers (w : System ι) (a : ℕ) : Follows m w
    { (w.iface a).users.foldl removeUser w with
      astray := w.astray || !(w.iface a).users.isEmpty } := by
  cases husers : (w.iface a).users with
  | nil => simpa using Follows.refl w
  | cons d l => exact .inl (by simp)

/-- An interface without listeners and dependencies may be freed. -/
theorem follows_freed (w : System ι) (a : ℕ) : Follows m w
    { w.mapIface a fun x => { x with live := false } with
      astray := w.astray || !(w.iface a).users.isEmpty || !(w.iface a).deps.isEmpty } := by
  by_cases hempty : (w.iface a).users = [] ∧ (w.iface a).deps = []
  · obtain ⟨husers, hdeps⟩ := hempty
    set t : System ι := { w.mapIface a fun x => { x with live := false } with
      astray := w.astray || !(w.iface a).users.isEmpty || !(w.iface a).deps.isEmpty } with ht
    have hone (i : ℕ) :
        t.iface i = { w.iface i with live := (w.iface i).live && i != a } := by
      by_cases hi : i = a
      · simp [ht, System.mapIface, hi]
      · have hne : (i != a) = true := by simpa using hi
        rw [hne, Bool.and_true]
        simp [ht, System.mapIface, hi]
    refine .of_step (by simp [ht, husers, hdeps]) fun h =>
      ⟨⟨?_, h.awaited⟩, fun _ => .of_sublist ?_ ?_⟩
    · constructor
      · intro i d
        rw [hone]
        exact h.users i d
      · intro d i hd
        have hi : i ≠ a := by
          rintro rfl
          have hmem := (h.users i d).mpr hd
          rw [husers] at hmem
          cases hmem
        obtain ⟨hcb, hdlive, hilive⟩ := h.found d i hd
        rw [hone]
        exact ⟨hcb, hdlive, by simp [hilive, hi]⟩
      · exact h.waiting
      · intro b d
        rw [hone]
        exact h.deps b d
      · intro b d hd
        rw [hone] at hd ⊢
        have hb : b ≠ a := by
          rintro rfl
          rw [hdeps] at hd
          cases hd
        simpa [hb] using h.owner b d hd
      · intro i
        rw [hone]
        exact h.nodupUsers i
      · exact h.nodupAll
      · intro b
        rw [hone]
        exact h.nodupDeps b
      · exact h.nextDep
      · intro i
        rw [hone]
        exact fun hlive => h.next i (Bool.and_eq_true_iff.mp hlive).1
    · intro i
      rw [System.up, hone]
      rfl
    · intro i _
      rw [hone]
  · refine .inl ?_
    cases husers : (w.iface a).users with
    | cons d l => simp
    | nil =>
      cases hdeps : (w.iface a).deps with
      | cons d l => simp
      | nil => exact absurd ⟨husers, hdeps⟩ hempty

theorem free_follows (s : System ι) (a : ℕ) :
    Preserves (doesFollow m) (Follows m s) (interfaceDoFree m a) := by
  refine (interfaceEvent_follows s a _).bind fun _ => Preserves.bind ?_ fun _ =>
    (cleanupState_follows s a).bind fun _ => ?_
  · exact Preserves.modify fun v hv => hv.trans (follows_dropUsers v a)
  · exact Preserves.modify fun v hv => hv.trans (follows_freed v a)

theorem whenLive_follows (s : System ι) {a : ℕ} {code : Prog (System ι) (Call ι) Unit}
    (hcode : Preserves (doesFollow m) (Follows m s) code) :
    Preserves (doesFollow m) (Follows m s) (do whenLive a code; pure (0 : ℤ)) :=
  Preserves.bind (Preserves.after_read fun _ =>
    Preserves.ite (fun _ => hcode) fun _ => Preserves.pure ()) fun _ => Preserves.pure 0

/-- Nobody listens to a new interface yet. -/
theorem follows_newInterface (w : System ι) (x : Interface ι) (hx : x =
      { name := x.name, shell := x.shell, live := true }) : Follows m w
    { w.mapIface w.next fun _ => x with next := w.next + 1 } := by
  set t : System ι := { w.mapIface w.next fun _ => x with next := w.next + 1 } with ht
  have hnew : t.iface w.next = { name := x.name, shell := x.shell, live := true } := by
    rw [← hx]
    simp [ht, System.mapIface]
  have hold {i : ℕ} (hi : i ≠ w.next) : t.iface i = w.iface i := by
    simp [ht, System.mapIface, hi]
  refine .of_step rfl fun h => ⟨⟨?_, h.awaited⟩, fun _ i hdown => ?_⟩
  · have hdead : (w.iface w.next).live ≠ true := fun hlive =>
      Nat.lt_irrefl _ (h.next w.next hlive)
    have hfound (d i : ℕ) (hd : (w.dep d).iface = some i) : i ≠ w.next := by
      rintro rfl
      exact hdead (h.found d _ hd).2.2
    have howner (b d : ℕ) (hd : d ∈ (w.iface b).deps) : b ≠ w.next := by
      rintro rfl
      exact hdead (h.owner _ d hd)
    constructor
    · intro i d
      by_cases hi : i = w.next
      · subst hi
        rw [hnew]
        exact ⟨fun hd => absurd hd List.not_mem_nil, fun hd => absurd rfl (hfound d _ hd)⟩
      · rw [hold hi]
        exact h.users i d
    · intro d i hd
      rw [hold (hfound d i hd)]
      exact h.found d i hd
    · exact h.waiting
    · intro b d
      by_cases hb : b = w.next
      · subst hb
        rw [hnew]
        refine ⟨fun hd => absurd hd List.not_mem_nil, fun hd => ?_⟩
        exact absurd rfl (howner _ d ((h.deps _ d).mpr hd))
      · rw [hold hb]
        exact h.deps b d
    · intro b d
      by_cases hb : b = w.next
      · subst hb
        rw [hnew]
        exact fun _ => rfl
      · rw [hold hb]
        exact h.owner b d
    · intro i
      by_cases hi : i = w.next
      · subst hi
        rw [hnew]
        exact List.nodup_nil
      · rw [hold hi]
        exact h.nodupUsers i
    · exact h.nodupAll
    · intro b
      by_cases hb : b = w.next
      · subst hb
        rw [hnew]
        exact List.nodup_nil
      · rw [hold hb]
        exact h.nodupDeps b
    · exact h.nextDep
    · intro i hlive
      by_cases hi : i = w.next
      · exact hi ▸ Nat.lt_succ_self _
      · rw [hold hi] at hlive
        exact Nat.lt_succ_of_lt (h.next i hlive)
  · by_cases hi : i = w.next
    · subst hi
      rw [hnew]
      exact List.nil_sublist _
    · rw [System.up, hold hi] at hdown
      rw [hold hi, System.up, hdown]
      exact .refl _

variable [DecidableEq ι]

theorem add_follows (s : System ι) (name : ι) :
    Preserves (doesFollow m) (Follows m s) (interfaceAdd name) := by
  apply Preserves.read_bind
  intro w hw
  split_ifs
  · rw [wp_bind]
    intro shell
    rw [wp_ret, wp_bind, wp_modify]
    exact elsewhere_follows s _ (hw.trans (follows_newInterface w _ rfl))
  · exact hw

theorem body_verified : Verified (body (ι := ι) m) (doesFollow m) := by
  intro p w
  cases p with
  | add name => exact ((add_follows w name).bind fun _ => Preserves.pure 0) w (.refl w)
  | free a => exact whenLive_follows w (free_follows w a) w (.refl w)
  | reload a => exact whenLive_follows w (reload_follows w a) w (.refl w)
  | setUp a =>
    change wp _ (do let w ← read; _) _ w
    rw [wp_bind, wp_read]
    split_ifs with hstate
    · have hdown : w.up a = false := by simp [System.up, hstate.2.1]
      rw [wp_bind]
      exact interfaceSetUp_follows hdown
    · exact .refl w
  | setDown a => exact whenLive_follows w (interfaceSetDown_follows w a) w (.refl w)
  | markDown a => exact whenLive_follows w (markInterfaceDown_follows w a) w (.refl w)
  | available a state => exact whenLive_follows w (setAvailable_follows w a state) w (.refl w)
  | protoEvent a ev => exact whenLive_follows w (protoEvent_follows w a ev) w (.refl w)
  | linkUp a => exact whenLive_follows w (interfaceEvent_follows w a _) w (.refl w)
  | addDependency a name noHost =>
    change wp _ (do let w ← read; _) _ w
    rw [wp_bind, wp_read]
    split_ifs with hlive
    · exact addHostDependency_follows name noHost (Bool.and_eq_true_iff.mp hlive).1
    · exact .refl w
  | tell inUsers a ev d =>
    change wp _ (do tellFrom m inUsers a ev d; pure 0) _ w
    rw [wp_bind]
    exact wp_imp _ fun hd => tellFrom_wp ev hd

omit [DecidableEq ι] in
theorem sound_start : Sound ({} : System ι) :=
  ⟨by constructor <;> simp, fun _ hlive => by cases hlive⟩

/-- However events are nested, each dependency is on one list, that of the interface that it has
found or the one for all interfaces, with the callback for it, and no list leads to what has been
freed. If routes to hosts only lead through interfaces that are up, every interface that a
dependency has found is. -/
theorem dependencies_listed (run : Reachable (body m) anyCall ({} : System ι) w)
    (hastray : w.astray = false) :
    Sound w ∧ (m = .guarded → ∀ d i, (w.dep d).iface = some i → w.up i = true) := by
  have hfollows : Follows m {} w :=
    run.invariant body_verified
      (fun _ _ _ _ hp hspec hI => hI.trans (doesFollow_outside hp hspec)) (.refl _)
  rcases hfollows with hbroken | ⟨_, h⟩
  · rw [hastray] at hbroken
    cases hbroken
  · obtain ⟨hlisted, hsettling⟩ := h sound_start
    refine ⟨hlisted, fun hm d i hd => ?_⟩
    by_contra hdown
    have hsub := hsettling hm i (by simpa using hdown)
    have husers : (w.iface i).users = [] := by simpa [System.up] using hsub
    have hmem := (hlisted.users i d).mpr hd
    rw [husers] at hmem
    cases hmem

end Runs

/-- A tunnel `vpn` whose host is found through `wan`, which is up. -/
theorem dependencies_listed_vpn : ∃ w : System String, (w.dep 0).iface = some 0 ∧
    Sound w ∧ (Discipline.guarded = .guarded → ∀ d i, (w.dep d).iface = some i →
      w.up i = true) := by
  obtain ⟨w, run, hastray, hiface⟩ := exists_reachable (body .guarded) anyCall
    ({} : System String) (fun w => w.astray = false ∧ (w.dep 0).iface = some 0) 60
    [(.add "wan", [.pick 0, .resume]), (.add "vpn", [.pick 1, .resume]),
      (.available 0 true, [.resume]), (.setUp 0, [.pick 0, .resume, .pick 0]),
      (.protoEvent 0 .up, [.resume, .resume]),
      (.addDependency 1 none false, [.pick 0, .pick 0, .pick 1, .resume])] (by decide)
  exact ⟨w, hiface, dependencies_listed run hastray⟩

/-- The routes of an interface that is on its way down are still there. A host that is found
through it is not lost when it is down. -/
example : ∃ w : System String, Reachable (body .any) anyCall {} w ∧
    (w.astray = false ∧ (w.dep 0).iface = some 0 ∧ (w.iface 0).state = .down) :=
  exists_reachable (body .any) anyCall {} _ 60
    [(.add "wan", [.pick 0, .resume]), (.add "vpn", [.pick 1, .resume]),
      (.available 0 true, [.resume]), (.setUp 0, [.pick 0, .resume, .pick 0]),
      (.protoEvent 0 .up, [.resume, .resume]), (.setDown 0, [.resume, .resume]),
      (.addDependency 1 none false, [.pick 0, .pick 0, .pick 1, .resume]),
      (.protoEvent 0 .down, [.resume, .resume])] (by decide)

end Netifd.HostDependencies
