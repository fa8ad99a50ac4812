import Netifd.PrefixAssignment

/-!
# The two passes of an assignment

Whatever the search is that finds a place for an entry, as long as it keeps the list and finds
every free /64, the two passes leave no interface without an entry while there is room.
-/

namespace Netifd.AssignmentRefresh
open IntervalPacking

/-- Every /64 of the prefix is in an entry of the list. -/
def TakenBy (p : DevicePrefix) (l : List DevicePrefixAssignment) : Prop :=
  ∀ x : ℤ, 0 ≤ x → x < 2 ^ (64 - p.length) →
    Covers DevicePrefixAssignment.assigned DevicePrefixAssignment.size l x

/-- The list ends with the sentinel. -/
def Ended (p : DevicePrefix) (l : List DevicePrefixAssignment) : Prop :=
  ∃ before, l = before ++ [sentinel p]

/-- The list has an entry of this name for which `Q` holds. -/
def HasEntry (Q : DevicePrefixAssignment → Prop) (l : List DevicePrefixAssignment)
    (name : String) : Prop :=
  ∃ a ∈ l, a.name = name ∧ Q a

theorem HasEntry.mono {Q : DevicePrefixAssignment → Prop} {l l' : List DevicePrefixAssignment}
    {name : String} (h : HasEntry Q l name) (hsub : l ⊆ l') : HasEntry Q l' name := by
  obtain ⟨a, ha, hname, hq⟩ := h
  exact ⟨a, hsub ha, hname, hq⟩

theorem HasEntry.listed {Q : DevicePrefixAssignment → Prop} {l : List DevicePrefixAssignment}
    {name : String} (h : HasEntry Q l name) : name ∈ l.map (·.name) := by
  obtain ⟨a, ha, hname, -⟩ := h
  exact List.mem_map.mpr ⟨a, ha, hname⟩

theorem TakenBy.mono {p : DevicePrefix} {l l' : List DevicePrefixAssignment} (h : TakenBy p l)
    (hsub : l ⊆ l') : TakenBy p l' := fun x hx hlast => (h x hx hlast).mono hsub

/-- Whatever is put into a list, its end and its entries stay. -/
structure Grown (p : DevicePrefix) (l l' : List DevicePrefixAssignment) : Prop where
  ended : Ended p l'
  subset : l ⊆ l'

theorem Grown.trans {p : DevicePrefix} {l l' l'' : List DevicePrefixAssignment}
    (h : Grown p l l') (h' : Grown p l' l'') : Grown p l l'' :=
  ⟨h'.ended, List.Subset.trans h.subset h'.subset⟩

theorem grown_of_inserted {p : DevicePrefix} {l l' : List DevicePrefixAssignment}
    {a : DevicePrefixAssignment} (h : InsertedInto a l l') (hended : Ended p l) :
    Grown p l l' ∧ a ∈ l' := by
  obtain ⟨before, rfl⟩ := hended
  obtain ⟨before', hlist', hperm⟩ := h.before_last
  have hsub : a :: before ⊆ before' := hperm.symm.subset
  refine ⟨⟨⟨before', hlist'⟩, ?_⟩, ?_⟩
  · rw [hlist']
    intro b hb
    rcases List.mem_append.mp hb with hb | hb
    · exact List.mem_append_left _ (hsub (List.mem_cons_of_mem _ hb))
    · exact List.mem_append_right _ hb
  · rw [hlist']
    exact List.mem_append_left _ (hsub List.mem_cons_self)

section Passes

variable (assign : List DevicePrefixAssignment → DevicePrefixAssignment →
  Option (List DevicePrefixAssignment))

/-- One interface in the first pass. -/
def assignHintedBy (p : DevicePrefix)
    (s : List DevicePrefixAssignment × List DevicePrefixAssignment)
    (iface : AssignedInterface) : List DevicePrefixAssignment × List DevicePrefixAssignment :=
  if !eligible p iface then s
  else
    let c := request iface
    if c.assigned = -1 then (s.1, avlInsert c s.2)
    else match assign s.1 c with
      | some list => (list, s.2)
      | none => (s.1, avlInsert { c with assigned := -1 } s.2)

/-- The retry loop of the second pass. -/
def assignShrinkingBy (list : List DevicePrefixAssignment) (c : DevicePrefixAssignment) :
    List DevicePrefixAssignment :=
  match assign list c with
  | some list => list
  | none =>
    if c.length + 1 ≤ 64 then assignShrinkingBy list { c with length := c.length + 1 } else list
termination_by 64 - c.length

/-- What is asked of the search: it keeps what holds of the list, for requests of the kind that
the passes make, what it puts in is an entry as it should be, and if it has no place for a /64
there is no gap. -/
structure Search (I : List DevicePrefixAssignment → Prop) (R Q : DevicePrefixAssignment → Prop) :
    Prop where
  inserts : ∀ {l l' c}, I l → R c → assign l c = some l' →
    I l' ∧ ∃ x, Q { c with assigned := x } ∧ InsertedInto { c with assigned := x } l l'
  gapless : ∀ {l c}, I l → R c → c.length = 64 → c.assigned = -1 → assign l c = none →
    Gapless DevicePrefixAssignment.assigned DevicePrefixAssignment.size 0 l
  anywhere : ∀ {c}, R c → R { c with assigned := -1 }
  smaller : ∀ {c}, R c → c.assigned = -1 → c.length + 1 ≤ 64 → R { c with length := c.length + 1 }

variable {assign} {I : List DevicePrefixAssignment → Prop} {R Q : DevicePrefixAssignment → Prop}
  {p : DevicePrefix} {l later : List DevicePrefixAssignment} {c : DevicePrefixAssignment}

theorem Search.grown (h : Search assign I R Q) {l' : List DevicePrefixAssignment} (hl : I l)
    (hended : Ended p l) (hc : R c) (hassign : assign l c = some l') :
    I l' ∧ Grown p l l' ∧ HasEntry Q l' c.name := by
  obtain ⟨hl', x, hq, hinserted⟩ := h.inserts hl hc hassign
  obtain ⟨hgrown, hmem⟩ := grown_of_inserted hinserted hended
  exact ⟨hl', hgrown, _, hmem, rfl, hq⟩

theorem Search.taken (h : Search assign I R Q) (hl : I l) (hended : Ended p l) (hc : R c)
    (hlength : c.length = 64) (hany : c.assigned = -1) (hassign : assign l c = none) :
    TakenBy p l := by
  have hgapless := h.gapless hl hc hlength hany hassign
  obtain ⟨before, rfl⟩ := hended
  intro x hx hlast
  exact (hgapless.covers hx hlast).mono (List.subset_append_left _ _)

theorem Search.shrinking (h : Search assign I R Q) (hl : I l) (hended : Ended p l) (hc : R c)
    (hany : c.assigned = -1) (h64 : c.length ≤ 64) :
    I (assignShrinkingBy assign l c) ∧ Grown p l (assignShrinkingBy assign l c) ∧
      (HasEntry Q (assignShrinkingBy assign l c) c.name ∨
        TakenBy p (assignShrinkingBy assign l c)) := by
  fun_induction assignShrinkingBy assign l c with
  | case1 c list' hassign =>
    obtain ⟨hl', hgrown, hname⟩ := h.grown hl hended hc hassign
    exact ⟨hl', hgrown, Or.inl hname⟩
  | case2 c hassign hmore ih => exact ih (h.smaller hc hany hmore) hany hmore
  | case3 c hassign hlast =>
    exact ⟨hl, ⟨hended, List.Subset.refl _⟩,
      Or.inr (h.taken hl hended hc (by omega) hany hassign)⟩

/-- A request that the second pass may get. -/
def PutBack (R : DevicePrefixAssignment → Prop) (a : DevicePrefixAssignment) : Prop :=
  R a ∧ a.assigned = -1 ∧ a.length ≤ 64

theorem Search.secondPass (h : Search assign I R Q) (hl : I l) (hended : Ended p l)
    (hopen : ∀ a ∈ later, PutBack R a) :
    I (later.foldl (assignShrinkingBy assign) l) ∧
      Grown p l (later.foldl (assignShrinkingBy assign) l) ∧
      ∀ a ∈ later, HasEntry Q (later.foldl (assignShrinkingBy assign) l) a.name ∨
        TakenBy p (later.foldl (assignShrinkingBy assign) l) := by
  induction later generalizing l with
  | nil => exact ⟨hl, ⟨hended, List.Subset.refl _⟩, fun a ha => absurd ha List.not_mem_nil⟩
  | cons c later ih =>
    obtain ⟨hc, hany, h64⟩ := hopen c List.mem_cons_self
    obtain ⟨hl', hfirst, hserved⟩ := h.shrinking hl hended hc hany h64
    obtain ⟨hl'', hrest, hall⟩ :=
      ih hl' hfirst.ended fun a ha => hopen a (List.mem_cons_of_mem _ ha)
    refine ⟨hl'', hfirst.trans hrest, ?_⟩
    intro a ha
    rcases List.mem_cons.mp ha with rfl | ha
    · exact hserved.imp (fun hentry => hentry.mono hrest.subset)
        fun htaken => htaken.mono hrest.subset
    · exact hall a ha

variable (I R Q) in
/-- After the first pass over `done` each eligible interface has an entry or is put off. -/
structure PutOff (p : DevicePrefix) (done : List AssignedInterface)
    (l later : List DevicePrefixAssignment) : Prop where
  list : I l
  ended : Ended p l
  open_ : ∀ a ∈ later, PutBack R a
  names : ∀ a ∈ later, a.name ∈ done.map (·.name)
  listed : ∀ iface ∈ done, eligible p iface = true →
    HasEntry Q l iface.name ∨ iface.name ∈ later.map (·.name)

variable {done : List AssignedInterface} {iface : AssignedInterface}

theorem PutOff.skip (h : PutOff I R Q p done l later) (helig : eligible p iface = false) :
    PutOff I R Q p (done ++ [iface]) l later where
  list := h.list
  ended := h.ended
  open_ := h.open_
  names a ha := List.map_subset _ (List.subset_append_left _ _) (h.names a ha)
  listed i hi hsuits := by
    rcases List.mem_append.mp hi with hi | hi
    · exact h.listed i hi hsuits
    · rw [List.mem_singleton.mp hi, helig] at hsuits
      cases hsuits

theorem PutOff.place {l' : List DevicePrefixAssignment} (h : PutOff I R Q p done l later)
    (hl' : I l') (hgrown : Grown p l l') (hentry : HasEntry Q l' iface.name) :
    PutOff I R Q p (done ++ [iface]) l' later where
  list := hl'
  ended := hgrown.ended
  open_ := h.open_
  names a ha := List.map_subset _ (List.subset_append_left _ _) (h.names a ha)
  listed i hi hsuits := by
    rcases List.mem_append.mp hi with hi | hi
    · exact (h.listed i hi hsuits).imp_left fun hlisted => hlisted.mono hgrown.subset
    · rw [List.mem_singleton.mp hi]
      exact Or.inl hentry

theorem PutOff.defer (h : PutOff I R Q p done l later)
    (hnew : iface.name ∉ done.map (·.name)) (hname : c.name = iface.name) (hc : PutBack R c) :
    PutOff I R Q p (done ++ [iface]) l (avlInsert c later) := by
  have hfresh : c.name ∉ later.map (·.name) := by
    intro hmem
    obtain ⟨a, ha, hsame⟩ := List.mem_map.mp hmem
    exact hnew (hname ▸ hsame ▸ h.names a ha)
  have hinsert := avlInsert_perm hfresh
  refine ⟨h.list, h.ended, ?_, ?_, ?_⟩
  · intro a ha
    rcases List.mem_cons.mp (hinsert.subset ha) with rfl | ha
    · exact hc
    · exact h.open_ a ha
  · intro a ha
    rw [List.map_append]
    rcases List.mem_cons.mp (hinsert.subset ha) with rfl | ha
    · exact List.mem_append_right _ (by simp [hname])
    · exact List.mem_append_left _ (h.names a ha)
  · intro i hi hsuits
    have hkept : later.map (·.name) ⊆ (avlInsert c later).map (·.name) :=
      List.map_subset _ fun a ha => hinsert.symm.subset (List.mem_cons_of_mem _ ha)
    rcases List.mem_append.mp hi with hi | hi
    · exact (h.listed i hi hsuits).imp_right fun hlisted => hkept hlisted
    · rw [List.mem_singleton.mp hi, ← hname]
      exact Or.inr (List.mem_map_of_mem (hinsert.symm.subset List.mem_cons_self))

theorem Search.hinted (h : Search assign I R Q)
    {s : List DevicePrefixAssignment × List DevicePrefixAssignment}
    (hs : PutOff I R Q p done s.1 s.2) (hnew : iface.name ∉ done.map (·.name))
    (hrequest : eligible p iface = true → R (request iface)) :
    PutOff I R Q p (done ++ [iface]) (assignHintedBy assign p s iface).1
      (assignHintedBy assign p s iface).2 := by
  unfold assignHintedBy
  cases helig : eligible p iface with
  | false => exact hs.skip helig
  | true =>
    have h64 : (request iface).length ≤ 64 := (eligible_length helig).2
    have hc := hrequest helig
    simp only [Bool.not_true, Bool.false_eq_true, if_false]
    split_ifs with hany
    · exact hs.defer hnew rfl ⟨hc, hany, h64⟩
    · cases hassign : assign s.1 (request iface) with
      | none => exact hs.defer hnew rfl ⟨h.anywhere hc, rfl, h64⟩
      | some l' =>
        obtain ⟨hl', hgrown, hname⟩ := h.grown hs.list hs.ended hc hassign
        exact hs.place hl' hgrown hname

theorem Search.firstPass (h : Search assign I R Q) {ifaces : List AssignedInterface}
    {s : List DevicePrefixAssignment × List DevicePrefixAssignment}
    (hs : PutOff I R Q p done s.1 s.2) (hnames : ((done ++ ifaces).map (·.name)).Nodup)
    (hrequest : ∀ iface ∈ ifaces, eligible p iface = true → R (request iface)) :
    PutOff I R Q p (done ++ ifaces) (ifaces.foldl (assignHintedBy assign p) s).1
      (ifaces.foldl (assignHintedBy assign p) s).2 := by
  induction ifaces generalizing done s with
  | nil => simpa using hs
  | cons iface ifaces ih =>
    have hsplit : done ++ iface :: ifaces = (done ++ [iface]) ++ ifaces := by simp
    have hnew : iface.name ∉ done.map (·.name) := by
      rw [List.map_append, List.map_cons] at hnames
      exact fun hmem => (List.nodup_append.mp hnames).2.2 _ hmem _ List.mem_cons_self rfl
    rw [hsplit] at hnames ⊢
    exact ih (h.hinted hs hnew (hrequest iface List.mem_cons_self)) hnames
      fun i hi => hrequest i (List.mem_cons_of_mem _ hi)

variable (assign) in
/-- Both passes over the interfaces, from a list on. -/
def assignAllBy (p : DevicePrefix) (ifaces : List AssignedInterface)
    (l : List DevicePrefixAssignment) : List DevicePrefixAssignment :=
  let (list, later) := ifaces.foldl (assignHintedBy assign p) (l, [])
  later.foldl (assignShrinkingBy assign) list

theorem Search.serves (h : Search assign I R Q) (interfaces : InterfaceTable) (hl : I l)
    (hended : Ended p l)
    (hrequest : ∀ iface ∈ interfaces.elements, eligible p iface = true → R (request iface)) :
    I (assignAllBy assign p interfaces.elements l) ∧
      ∀ iface ∈ interfaces.elements, eligible p iface = true →
        HasEntry Q (assignAllBy assign p interfaces.elements l) iface.name ∨
          TakenBy p (assignAllBy assign p interfaces.elements l) := by
  have hnames := interfaces.names_nodup
  have hstart : PutOff I R Q p [] l [] := ⟨hl, hended, nofun, nofun, nofun⟩
  have hfirst := h.firstPass (s := (l, [])) hstart hnames hrequest
  obtain ⟨hlist, hgrown, hall⟩ := h.secondPass hfirst.list hfirst.ended hfirst.open_
  refine ⟨hlist, ?_⟩
  intro iface hiface helig
  rcases hfirst.listed iface hiface helig with hlisted | hlater
  · exact Or.inl (hlisted.mono hgrown.subset)
  · obtain ⟨a, ha, hname⟩ := List.mem_map.mp hlater
    rw [← hname]
    exact hall a ha

theorem Search.shrinking_congr (h : Search assign I R Q)
    {assign' : List DevicePrefixAssignment → DevicePrefixAssignment →
      Option (List DevicePrefixAssignment)}
    (hsame : ∀ {l c}, I l → R c → assign l c = assign' l c) (hl : I l) (hc : R c)
    (hany : c.assigned = -1) : assignShrinkingBy assign l c = assignShrinkingBy assign' l c := by
  fun_induction assignShrinkingBy assign l c with
  | case1 c list' hassign =>
    rw [assignShrinkingBy, ← hsame hl hc, hassign]
  | case2 c hassign hmore ih =>
    rw [ih (h.smaller hc hany hmore) hany]
    conv_rhs => rw [assignShrinkingBy, ← hsame hl hc, hassign]
    simp only [hmore, if_true]
  | case3 c hassign hlast =>
    rw [assignShrinkingBy, ← hsame hl hc, hassign]
    simp only [hlast, if_false]

theorem Search.secondPass_congr (h : Search assign I R Q)
    {assign' : List DevicePrefixAssignment → DevicePrefixAssignment →
      Option (List DevicePrefixAssignment)}
    (hsame : ∀ {l c}, I l → R c → assign l c = assign' l c) (hl : I l) (hended : Ended p l)
    (hopen : ∀ a ∈ later, PutBack R a) :
    later.foldl (assignShrinkingBy assign) l = later.foldl (assignShrinkingBy assign') l := by
  induction later generalizing l with
  | nil => rfl
  | cons c later ih =>
    obtain ⟨hc, hany, h64⟩ := hopen c List.mem_cons_self
    obtain ⟨hl', hgrown, -⟩ := h.shrinking hl hended hc hany h64
    rw [List.foldl_cons, List.foldl_cons, ← h.shrinking_congr hsame hl hc hany]
    exact ih hl' hgrown.ended fun a ha => hopen a (List.mem_cons_of_mem _ ha)

theorem Search.firstPass_congr (h : Search assign I R Q)
    {assign' : List DevicePrefixAssignment → DevicePrefixAssignment →
      Option (List DevicePrefixAssignment)}
    (hsame : ∀ {l c}, I l → R c → assign l c = assign' l c) {ifaces : List AssignedInterface}
    {s : List DevicePrefixAssignment × List DevicePrefixAssignment}
    (hs : PutOff I R Q p done s.1 s.2) (hnames : ((done ++ ifaces).map (·.name)).Nodup)
    (hrequest : ∀ iface ∈ ifaces, eligible p iface = true → R (request iface)) :
    ifaces.foldl (assignHintedBy assign p) s = ifaces.foldl (assignHintedBy assign' p) s := by
  induction ifaces generalizing done s with
  | nil => rfl
  | cons iface ifaces ih =>
    have hsplit : done ++ iface :: ifaces = (done ++ [iface]) ++ ifaces := by simp
    have hnew : iface.name ∉ done.map (·.name) := by
      rw [List.map_append, List.map_cons] at hnames
      exact fun hmem => (List.nodup_append.mp hnames).2.2 _ hmem _ List.mem_cons_self rfl
    have hstep : assignHintedBy assign p s iface = assignHintedBy assign' p s iface := by
      unfold assignHintedBy
      cases helig : eligible p iface with
      | false => rfl
      | true => simp only [hsame hs.list (hrequest iface List.mem_cons_self helig)]
    have hnext := h.hinted hs hnew (hrequest iface List.mem_cons_self)
    rw [hsplit] at hnames
    rw [List.foldl_cons, List.foldl_cons, ← hstep]
    exact ih hnext hnames fun i hi => hrequest i (List.mem_cons_of_mem _ hi)

theorem Search.assignAll_congr (h : Search assign I R Q)
    {assign' : List DevicePrefixAssignment → DevicePrefixAssignment →
      Option (List DevicePrefixAssignment)}
    (hsame : ∀ {l c}, I l → R c → assign l c = assign' l c) (interfaces : InterfaceTable)
    (hl : I l) (hended : Ended p l)
    (hrequest : ∀ iface ∈ interfaces.elements, eligible p iface = true → R (request iface)) :
    assignAllBy assign p interfaces.elements l = assignAllBy assign' p interfaces.elements l := by
  have hnames := interfaces.names_nodup
  have hstart : PutOff I R Q p [] l [] := ⟨hl, hended, nofun, nofun, nofun⟩
  have hfirst := h.firstPass (s := (l, [])) hstart hnames hrequest
  have hpass := h.firstPass_congr hsame (s := (l, [])) hstart hnames hrequest
  rw [assignAllBy, assignAllBy, ← hpass]
  exact h.secondPass_congr hsame hfirst.list hfirst.ended hfirst.open_

variable (assign)

/-- The calls in the retry loop, with the list and the request of each. -/
def shrinkingCalls (list : List DevicePrefixAssignment) (c : DevicePrefixAssignment) :
    List (List DevicePrefixAssignment × DevicePrefixAssignment) :=
  match assign list c with
  | some _ => [(list, c)]
  | none =>
    if c.length + 1 ≤ 64 then (list, c) :: shrinkingCalls list { c with length := c.length + 1 }
    else [(list, c)]
termination_by 64 - c.length

/-- The calls for an interface in the first pass. -/
def hintedCalls (p : DevicePrefix)
    (s : List DevicePrefixAssignment × List DevicePrefixAssignment) (iface : AssignedInterface) :
    List (List DevicePrefixAssignment × DevicePrefixAssignment) :=
  if !eligible p iface || decide ((request iface).assigned = -1) then [] else [(s.1, request iface)]

def firstCalls (p : DevicePrefix) : List DevicePrefixAssignment × List DevicePrefixAssignment →
    List AssignedInterface → List (List DevicePrefixAssignment × DevicePrefixAssignment)
  | _, [] => []
  | s, iface :: ifaces =>
    hintedCalls p s iface ++ firstCalls p (assignHintedBy assign p s iface) ifaces

def secondCalls : List DevicePrefixAssignment → List DevicePrefixAssignment →
    List (List DevicePrefixAssignment × DevicePrefixAssignment)
  | _, [] => []
  | list, c :: later =>
    shrinkingCalls assign list c ++ secondCalls (assignShrinkingBy assign list c) later

/-- The calls in both passes over the interfaces. -/
def assignCallsBy (p : DevicePrefix) (ifaces : List AssignedInterface)
    (l : List DevicePrefixAssignment) :
    List (List DevicePrefixAssignment × DevicePrefixAssignment) :=
  let (list, later) := ifaces.foldl (assignHintedBy assign p) (l, [])
  firstCalls assign p (l, []) ifaces ++ secondCalls assign list later

variable {assign}

theorem Search.shrinkingCalls (h : Search assign I R Q) (hl : I l) (hc : R c)
    (hany : c.assigned = -1) : ∀ call ∈ shrinkingCalls assign l c, I call.1 ∧ R call.2 := by
  fun_induction AssignmentRefresh.shrinkingCalls assign l c with
  | case1 c list' hassign =>
    intro call hcall
    rw [List.mem_singleton.mp hcall]
    exact ⟨hl, hc⟩
  | case2 c hassign hmore ih =>
    intro call hcall
    rcases List.mem_cons.mp hcall with rfl | hcall
    · exact ⟨hl, hc⟩
    · exact ih (h.smaller hc hany hmore) hany call hcall
  | case3 c hassign hlast =>
    intro call hcall
    rw [List.mem_singleton.mp hcall]
    exact ⟨hl, hc⟩

theorem Search.secondCalls (h : Search assign I R Q) (hl : I l) (hended : Ended p l)
    (hopen : ∀ a ∈ later, PutBack R a) :
    ∀ call ∈ secondCalls assign l later, I call.1 ∧ R call.2 := by
  induction later generalizing l with
  | nil => exact fun call hcall => absurd hcall List.not_mem_nil
  | cons c later ih =>
    obtain ⟨hc, hany, h64⟩ := hopen c List.mem_cons_self
    obtain ⟨hl', hgrown, -⟩ := h.shrinking hl hended hc hany h64
    intro call hcall
    rcases List.mem_append.mp hcall with hcall | hcall
    · exact h.shrinkingCalls hl hc hany call hcall
    · exact ih hl' hgrown.ended (fun a ha => hopen a (List.mem_cons_of_mem _ ha)) call hcall

theorem Search.firstCalls (h : Search assign I R Q) {ifaces : List AssignedInterface}
    {s : List DevicePrefixAssignment × List DevicePrefixAssignment}
    (hs : PutOff I R Q p done s.1 s.2) (hnames : ((done ++ ifaces).map (·.name)).Nodup)
    (hrequest : ∀ iface ∈ ifaces, eligible p iface = true → R (request iface)) :
    ∀ call ∈ firstCalls assign p s ifaces, I call.1 ∧ R call.2 := by
  induction ifaces generalizing done s with
  | nil => exact fun call hcall => absurd hcall List.not_mem_nil
  | cons iface ifaces ih =>
    have hsplit : done ++ iface :: ifaces = (done ++ [iface]) ++ ifaces := by simp
    have hnew : iface.name ∉ done.map (·.name) := by
      rw [List.map_append, List.map_cons] at hnames
      exact fun hmem => (List.nodup_append.mp hnames).2.2 _ hmem _ List.mem_cons_self rfl
    rw [hsplit] at hnames
    intro call hcall
    rcases List.mem_append.mp hcall with hcall | hcall
    · unfold hintedCalls at hcall
      split_ifs at hcall with hskip
      · cases hcall
      · simp only [Bool.or_eq_true, Bool.not_eq_true', decide_eq_true_eq, not_or,
          Bool.not_eq_false] at hskip
        rw [List.mem_singleton.mp hcall]
        exact ⟨hs.list, hrequest iface List.mem_cons_self hskip.1⟩
    · exact ih (h.hinted hs hnew (hrequest iface List.mem_cons_self)) hnames
        (fun i hi => hrequest i (List.mem_cons_of_mem _ hi)) call hcall

theorem Search.calls (h : Search assign I R Q) (interfaces : InterfaceTable) (hl : I l)
    (hended : Ended p l)
    (hrequest : ∀ iface ∈ interfaces.elements, eligible p iface = true → R (request iface)) :
    ∀ call ∈ assignCallsBy assign p interfaces.elements l, I call.1 ∧ R call.2 := by
  have hnames := interfaces.names_nodup
  have hstart : PutOff I R Q p [] l [] := ⟨hl, hended, nofun, nofun, nofun⟩
  have hfirst := h.firstPass (s := (l, [])) hstart hnames hrequest
  intro call hcall
  rcases List.mem_append.mp hcall with hcall | hcall
  · exact h.firstCalls (s := (l, [])) hstart hnames hrequest call hcall
  · exact h.secondCalls hfirst.list hfirst.ended hfirst.open_ call hcall

end Passes

theorem assignShrinking_eq (l : List DevicePrefixAssignment) (c : DevicePrefixAssignment) :
    assignShrinking l c = assignShrinkingBy interfacePrefixAssign l c := by
  fun_induction assignShrinking l c with
  | case1 c list' hassign => rw [assignShrinkingBy, hassign]
  | case2 c hassign hmore ih =>
    rw [assignShrinkingBy, hassign]
    simp only [hmore, if_true, ih]
  | case3 c hassign hlast =>
    rw [assignShrinkingBy, hassign]
    simp only [hlast, if_false]

theorem assignments_eq (interfaces : InterfaceTable) (p : DevicePrefix) :
    (interfaceUpdatePrefixAssignments interfaces p true).assignments =
      assignAllBy interfacePrefixAssign p interfaces.elements (excluded p ++ [sentinel p]) := by
  have hshrinking : assignShrinking = assignShrinkingBy interfacePrefixAssign :=
    funext fun l => funext fun c => assignShrinking_eq l c
  rw [assignAllBy, ← hshrinking]
  rfl

end Netifd.AssignmentRefresh
