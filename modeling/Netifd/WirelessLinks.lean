import Netifd.WirelessRadio

/-!
# Links of wireless interfaces

A wireless interface with a name and networks has a link to each of the networks while its device
is up. The links are added when a setup is complete and taken away when the device is down, or
before the networks of the interface change.
-/

namespace Netifd.WirelessLinks
open GuardedRuns WirelessRadio

variable {β δ : Type}

/-- The link of an interface that there is: its name to one of its networks. -/
def Carries (present : String → Bool) (vif : RadioVif β δ) (link : String × String) : Prop :=
  vif.ifname = some link.2 ∧
    ∃ network, vif.network = some network ∧ link.1 ∈ network ∧ present link.1 = true

/-- Links are those of interfaces, there are none before the device has been up, and a name is
only known from data. -/
structure LinksSound (present : String → Bool) (r : RadioDevice β δ) : Prop where
  carried : ∀ link ∈ r.links, ∃ vif ∈ r.vifs, Carries present vif link
  up : r.links ≠ [] → r.base.state = .up ∨ r.base.state = .teardown
  named : ∀ vif ∈ r.vifs, vif.ifname.isSome → vif.data.isSome

variable {env : RadioEnv} {present : String → Bool} {r : RadioDevice β δ}

theorem mem_handleLink_up {links : List (String × String)} {vif : RadioVif β δ}
    {link : String × String} :
    link ∈ wirelessInterfaceHandleLink env true links vif ↔
      Carries env.present vif link ∨ link ∈ links := by
  obtain ⟨net, name⟩ := link
  rw [wirelessInterfaceHandleLink, Carries]
  cases vif.network with
  | none => simp
  | some network =>
    cases vif.ifname with
    | none => simp
    | some ifname =>
      dsimp only
      rw [if_pos rfl, List.mem_append]
      apply or_congr_left
      simp only [List.mem_map, List.mem_filter, Prod.mk.injEq, Option.some.injEq]
      constructor
      · rintro ⟨net', ⟨hmem, hthere⟩, rfl, rfl⟩
        exact ⟨rfl, network, rfl, hmem, hthere⟩
      · rintro ⟨rfl, network', rfl, hmem, hthere⟩
        exact ⟨net, ⟨hmem, hthere⟩, rfl, rfl⟩

theorem mem_handleLink_down {links : List (String × String)} {vif : RadioVif β δ}
    {link : String × String} :
    link ∈ wirelessInterfaceHandleLink env false links vif ↔
      link ∈ links ∧ ¬Carries env.present vif link := by
  obtain ⟨net, name⟩ := link
  rw [wirelessInterfaceHandleLink, Carries]
  cases vif.network with
  | none => simp
  | some network =>
    cases vif.ifname with
    | none => simp
    | some ifname =>
      dsimp only
      rw [if_neg Bool.false_ne_true, List.mem_filter, decide_eq_true_eq]
      apply and_congr_right'
      apply not_congr
      simp only [List.mem_filter, Option.some.injEq]
      constructor
      · rintro ⟨rfl, hmem, hthere⟩
        exact ⟨rfl, network, rfl, hmem, hthere⟩
      · rintro ⟨rfl, network', rfl, hmem, hthere⟩
        exact ⟨rfl, hmem, hthere⟩

theorem mem_links_up {links : List (String × String)} {vifs : List (RadioVif β δ)}
    {link : String × String} :
    link ∈ vifs.foldl (wirelessInterfaceHandleLink env true) links ↔
      (∃ vif ∈ vifs, Carries env.present vif link) ∨ link ∈ links := by
  induction vifs generalizing links with
  | nil => simp
  | cons vif vifs ih => simp [ih, mem_handleLink_up, or_assoc, or_left_comm]

theorem mem_links_down {links : List (String × String)} {vifs : List (RadioVif β δ)}
    {link : String × String} :
    link ∈ vifs.foldl (wirelessInterfaceHandleLink env false) links ↔
      link ∈ links ∧ ∀ vif ∈ vifs, ¬Carries env.present vif link := by
  induction vifs generalizing links with
  | nil => simp
  | cons vif vifs ih => simp [ih, mem_handleLink_down, and_assoc]

theorem LinksSound.all_down (h : LinksSound env.present r) :
    r.vifs.foldl (wirelessInterfaceHandleLink env false) r.links = [] := by
  rw [List.eq_nil_iff_forall_not_mem]
  intro link hlink
  obtain ⟨hmem, hnone⟩ := mem_links_down.mp hlink
  obtain ⟨vif, hvif, hcarries⟩ := h.carried link hmem
  exact hnone vif hvif hcarries

theorem LinksSound.congr (h : LinksSound present r) {r' : RadioDevice β δ}
    (hlinks : r'.links = r.links) (hvifs : r'.vifs = r.vifs)
    (hstate : r.links ≠ [] → r'.base.state = .up ∨ r'.base.state = .teardown) :
    LinksSound present r' where
  carried := by rw [hlinks, hvifs]; exact h.carried
  up hne := hstate (hlinks ▸ hne)
  named := by rw [hvifs]; exact h.named

theorem LinksSound.setDown' (h : LinksSound present r) :
    LinksSound present (radioSetDown' env r) := by
  rw [radioSetDown']
  split_ifs
  · exact h
  · have hstate : (wirelessDeviceSetupCancel r.base).state = r.base.state := by
      rw [wirelessDeviceSetupCancel]
      split_ifs <;> rfl
    exact h.congr rfl rfl fun hne => by rw [hstate]; exact h.up hne
  · exact h.congr rfl rfl fun _ => .inr rfl

theorem LinksSound.replace (h : LinksSound present r) {r' : RadioDevice β δ} {i : ℕ}
    {old new : RadioVif β δ} (hold : r.vifs[i]? = some old)
    (hvifs : r'.vifs = r.vifs.set i new) (hstate : r'.base.state = r.base.state)
    (hlinks : ∀ link ∈ r'.links, link ∈ r.links ∧ ¬Carries present old link)
    (hnew : new.ifname.isSome → new.data.isSome) : LinksSound present r' := by
  constructor
  · intro link hlink
    obtain ⟨hmem, hnone⟩ := hlinks link hlink
    obtain ⟨vif, hvif, hcarries⟩ := h.carried link hmem
    obtain ⟨j, hj⟩ := List.mem_iff_getElem?.mp hvif
    have hne : i ≠ j := by
      rintro rfl
      exact hnone (Option.some.inj (hold.symm.trans hj) ▸ hcarries)
    exact ⟨vif, List.mem_iff_getElem?.mpr ⟨j, by rw [hvifs, List.getElem?_set_ne hne, hj]⟩,
      hcarries⟩
  · intro hne
    obtain ⟨link, hlink⟩ := List.exists_mem_of_ne_nil _ hne
    rw [hstate]
    exact h.up (List.ne_nil_of_mem (hlinks link hlink).1)
  · intro vif hvif
    rw [hvifs] at hvif
    rcases List.mem_or_eq_of_mem_set hvif with hvif | rfl
    · exact h.named vif hvif
    · exact hnew

theorem LinksSound.setData (h : LinksSound present r) (blobs : RadioBlobs β δ) (vif : Option ℕ)
    (data : δ) : LinksSound present (radioSetData blobs vif data r) := by
  cases vif with
  | none =>
    rw [radioSetData]
    split_ifs <;> exact h.congr rfl rfl h.up
  | some i =>
    rw [radioSetData]
    cases hvif : r.vifs[i]? with
    | none => exact h
    | some vif =>
      dsimp only
      split_ifs with hdata
      · exact h
      · apply LinksSound.replace h hvif
        case hvifs => rfl
        case hstate => rfl
        case hlinks =>
          intro link hlink
          refine ⟨hlink, fun hcarries => hdata ?_⟩
          exact h.named vif (List.mem_iff_getElem?.mpr ⟨i, hvif⟩) (by simp [hcarries.1])
        case hnew => exact fun _ => rfl

theorem LinksSound.drop (h : LinksSound env.present r) :
    LinksSound env.present (vifDrop env r) := by
  rcases List.eq_nil_or_concat r.vifs with hnil | ⟨init, last, hlast⟩
  · apply h.congr
    case hlinks => simp [vifDrop, hnil]
    case hvifs => simp [vifDrop, hnil]
    case hstate => exact h.up
  · rw [List.concat_eq_append] at hlast
    have hlinks : (vifDrop env r).links = wirelessInterfaceHandleLink env false r.links last := by
      simp [vifDrop, hlast]
    have hvifs : (vifDrop env r).vifs = init := by simp [vifDrop, hlast]
    constructor
    · intro link hlink
      rw [hlinks] at hlink
      obtain ⟨hmem, hnone⟩ := mem_handleLink_down.mp hlink
      obtain ⟨vif, hvif, hcarries⟩ := h.carried link hmem
      rw [hlast] at hvif
      rcases List.mem_append.mp hvif with hvif | hvif
      · exact ⟨vif, hvifs ▸ hvif, hcarries⟩
      · exact absurd (List.mem_singleton.mp hvif ▸ hcarries) hnone
    · intro hne
      obtain ⟨link, hlink⟩ := List.exists_mem_of_ne_nil _ hne
      rw [hlinks] at hlink
      exact h.up (List.ne_nil_of_mem (mem_handleLink_down.mp hlink).1)
    · intro vif hvif
      rw [hvifs] at hvif
      exact h.named vif (hlast ▸ List.mem_append_left _ hvif)

theorem links_everywhere (blobs : RadioBlobs β δ) (present : String → Bool) :
    Everywhere blobs present (LinksSound (β := β) (δ := δ) present) fun r => r.links = [] where
  base r base hsame hr := hr.congr rfl rfl (by rw [hsame.state]; exact hr.up)
  setUp' env r _ hr := by
    rw [radioSetUp']
    split_ifs with hguard
    · exact hr
    · have hdown : r.base.state = .down := by
        simp only [Bool.or_eq_true, not_or, bne_iff_ne, ne_eq, not_not] at hguard
        exact hguard.1.2
      apply hr.congr
      case hlinks => rfl
      case hvifs => rfl
      case hstate =>
        intro hne
        have hup := hr.up hne
        simp [hdown] at hup
  setDown' env r _ hr := hr.setDown'
  markedDown env r henv hr := by
    subst henv
    have hnone : (radioMarkedDown env r).links = [] := hr.all_down
    constructor
    · rw [hnone]
      simp
    · intro hne
      exact absurd hnone hne
    · intro vif hvif
      obtain ⟨old, _, rfl⟩ := List.mem_map.mp hvif
      simp
  freed env r henv hr _ := by
    subst henv
    exact hr.all_down
  markUp env r henv _ hr := by
    subst henv
    rw [radioMarkUp]
    split_ifs
    · have hcleared : LinksSound env.present { r with base.cancel := false } :=
        hr.congr rfl rfl hr.up
      exact hcleared.setDown'
    · constructor
      · intro link hlink
        rcases mem_links_up.mp hlink with hlink | hlink
        · exact hlink
        · exact hr.carried link hlink
      · exact fun _ => .inl rfl
      · exact hr.named
  setData vif data r hr := hr.setData blobs vif data
  mark s r hr := hr.congr rfl rfl hr.up
  change env i old config r henv hold hr := by
    subst henv
    exact hr.replace hold rfl rfl (fun link hlink => mem_handleLink_down.mp hlink)
      (hr.named old (List.mem_iff_getElem?.mpr ⟨i, hold⟩))
  append config r hr := by
    constructor
    · intro link hlink
      obtain ⟨vif, hvif, hcarries⟩ := hr.carried link hlink
      exact ⟨vif, List.mem_append_left _ hvif, hcarries⟩
    · exact hr.up
    · intro vif hvif
      rcases List.mem_append.mp hvif with hvif | hvif
      · exact hr.named vif hvif
      · obtain rfl := List.mem_singleton.mp hvif
        simp
  drop env r henv hr := by
    subst henv
    exact hr.drop
  fresh config disabled := ⟨by simp, by simp, by simp⟩
  prepare env r hr := hr.congr rfl rfl hr.up
  configure config disabled r hr := hr.congr rfl rfl hr.up

theorem LinksSound.keepLinks (h : LinksSound present r) (present' : String → Bool) :
    LinksSound present' (r.keepLinks present') := by
  constructor
  · intro link hlink
    obtain ⟨hmem, hthere⟩ := List.mem_filter.mp hlink
    obtain ⟨vif, hvif, hname, network, hnetwork, hnet, -⟩ := h.carried link hmem
    exact ⟨vif, hvif, hname, network, hnetwork, hnet, hthere⟩
  · intro hne
    obtain ⟨link, hlink⟩ := List.exists_mem_of_ne_nil _ hne
    exact h.up (List.ne_nil_of_mem (List.mem_of_mem_filter hlink))
  · exact h.named

theorem LinksSound.markUp (h : LinksSound env.present r) (hstate : r.base.state = .setup)
    (hcancel : r.base.cancel = false) :
    (radioMarkUp env r).base.state = .up ∧ ∀ link, link ∈ (radioMarkUp env r).links ↔
      ∃ vif ∈ (radioMarkUp env r).vifs, Carries env.present vif link := by
  have hnone : r.links = [] := by
    by_contra hne
    have hup := h.up hne
    simp [hstate] at hup
  rw [radioMarkUp, if_neg (by simp [hcancel])]
  refine ⟨rfl, fun link => mem_links_up.trans ?_⟩
  simp [hnone]

variable [DecidableEq β] (blobs : RadioBlobs β δ)

theorem links_run (present : String → Bool) (ops : List (RadioStep β δ)) :
    Holds (run (radioStep blobs) { present } ops).present
      (LinksSound (run (radioStep blobs) { present } ops).present) (fun r => r.links = [])
      (run (radioStep blobs) { present } ops) := by
  apply run_invariant (I := fun x : Radio β δ =>
    Holds x.present (LinksSound x.present) (fun r => r.links = []) x)
  · intro x op hx
    refine holds_step (P := LinksSound) (F := fun _ r => r.links = []) (links_everywhere blobs)
      (fun _ present' r hr => hr.keepLinks present') ?_ hx op
    intro _ present' r hr
    rw [RadioDevice.keepLinks, hr, List.filter_nil]
  · exact ⟨rfl, fun _ hnone => absurd hnone (by simp), fun _ hnil => absurd hnil List.not_mem_nil⟩

/-- In every run a link that has been added and not taken away belongs to an interface of a
device that has come up and not gone down since, by its name and one of its networks. When the
setup of a device is complete all such links are there, and a device that is freed leaves none
behind. -/
theorem links_accounted (present : String → Bool) (ops : List (RadioStep β δ)) :
    let x := run (radioStep blobs) { present } ops
    (∀ r, x.dev = some r →
      (∀ link ∈ r.links, (r.base.state = .up ∨ r.base.state = .teardown) ∧
        ∃ vif ∈ r.vifs, Carries x.present vif link) ∧
      ∀ forks again bridge, r.base.state = .setup → r.base.cancel = false →
        ∃ r', (radioStep blobs x { input := .device .notifyUp, forks, again, bridge }).dev =
            some r' ∧ r'.base.state = .up ∧
          ∀ link, link ∈ r'.links ↔ ∃ vif ∈ r'.vifs, Carries x.present vif link) ∧
    ∀ r ∈ x.freed, r.links = [] := by
  have hrun := links_run blobs present ops
  generalize run (radioStep blobs) { present } ops = x at hrun ⊢
  refine ⟨?_, hrun.freed⟩
  intro r hdev
  have hr := hrun.dev r hdev
  refine ⟨fun link hlink => ⟨hr.up (List.ne_nil_of_mem hlink), hr.carried link hlink⟩, ?_⟩
  intro forks again bridge hstate hcancel
  have hnext : (radioStep blobs x { input := .device .notifyUp, forks, again, bridge }).dev =
      some (radioMarkUp { forks, present := x.present, bridge } r) := by
    simp [radioStep, radioDeviceStep, Radio.modify, hdev, hstate]
  have hr' : LinksSound ({ forks, present := x.present, bridge } : RadioEnv).present r := hr
  exact ⟨_, hnext, hr'.markUp hstate hcancel⟩

end Netifd.WirelessLinks
