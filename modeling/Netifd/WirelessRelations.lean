import Netifd.WirelessDevice

/-!
# Wireless devices before and after

A relation between a device before and after what a reload does to it: it holds of the functions
of `wireless.c` that look at the configuration if it holds of the few that they are made of.
-/

namespace Netifd

variable {β : Type}

/-- The relation holds of the parts of a change of the configuration. A device that is marked down
may be as good as new instead. -/
structure CarriedAlong (isNew : WirelessDevice β → Prop)
    (rel : WirelessDevice β → WirelessDevice β → Prop) : Prop where
  refl : ∀ wdev, rel wdev wdev
  trans : ∀ {wdev wdev' wdev''}, rel wdev wdev' → rel wdev' wdev'' → rel wdev wdev''
  keepsNew : ∀ {wdev wdev'}, isNew wdev → rel wdev wdev' → isNew wdev'
  setUp' : ∀ forks configInit wdev, rel wdev (wirelessDeviceSetUp' forks configInit wdev)
  setDown' : ∀ forks wdev, rel wdev (wirelessDeviceSetDown' forks wdev)
  markedDown : ∀ wdev, isNew (markedDown wdev) ∨ rel wdev (markedDown wdev)
  configState : ∀ wdev configState, rel wdev { wdev with configState }
  interfaces : ∀ wdev interfaces, rel wdev { wdev with interfaces }

/-- The device that there is afterwards is new, or it was there before and they are related. -/
def Follows (isNew : WirelessDevice β → Prop) (rel : WirelessDevice β → WirelessDevice β → Prop)
    (m m' : Wireless β) : Prop :=
  ∀ wdev', m'.wdev = some wdev' → isNew wdev' ∨ ∃ wdev, m.wdev = some wdev ∧ rel wdev wdev'

namespace CarriedAlong

variable {isNew : WirelessDevice β → Prop} {rel : WirelessDevice β → WirelessDevice β → Prop}
  {m m' m'' : Wireless β} {wdev wdev' : WirelessDevice β} (h : CarriedAlong isNew rel)
  (forks : Bool)

include h

theorem same (m : Wireless β) : Follows isNew rel m m :=
  fun wdev hwdev => .inr ⟨wdev, hwdev, h.refl wdev⟩

theorem comp (hfirst : Follows isNew rel m m') (hsecond : Follows isNew rel m' m'') :
    Follows isNew rel m m'' := by
  intro wdev'' hwdev''
  rcases hsecond wdev'' hwdev'' with hnew | ⟨wdev', hwdev', hrel'⟩
  · exact .inl hnew
  · rcases hfirst wdev' hwdev' with hnew | ⟨wdev, hwdev, hrel⟩
    · exact .inl (h.keepsNew hnew hrel')
    · exact .inr ⟨wdev, hwdev, h.trans hrel hrel'⟩

omit h in
theorem set (hwdev : m.wdev = some wdev) (hrel : rel wdev wdev') :
    Follows isNew rel m (m.set wdev') := by
  intro w hw
  cases hw
  exact .inr ⟨wdev, hwdev, hrel⟩

omit h in
theorem setNew (hnew : isNew wdev') : Follows isNew rel m (m.set wdev') := by
  intro w hw
  cases hw
  exact .inl hnew

omit h in
theorem modify {f : WirelessDevice β → WirelessDevice β} (hf : ∀ wdev, rel wdev (f wdev)) :
    Follows isNew rel m (m.modify f) := by
  intro w hw
  obtain ⟨wdev, hwdev, rfl⟩ := Option.map_eq_some_iff.mp hw
  exact .inr ⟨wdev, hwdev, hf wdev⟩

theorem handleConfigChange (hwdev : m.wdev = some wdev) (configInit : Bool) :
    Follows isNew rel m (wdevHandleConfigChange forks configInit m) := by
  have hset : Follows isNew rel m
      (m.set { wirelessDeviceSetUp' forks configInit wdev with configState := .normal }) :=
    set hwdev (h.trans (h.setUp' forks configInit wdev) (h.configState _ _))
  rw [wdevHandleConfigChange, onDevice_some hwdev]
  cases wdev.configState with
  | normal => exact hset
  | reload => exact hset
  | remove =>
    dsimp only
    rw [wirelessDeviceFree, onDevice_some hwdev]
    intro w hw
    cases hw

theorem markDown (hwdev : m.wdev = some wdev) :
    Follows isNew rel m (wirelessDeviceMarkDown forks m) := by
  rw [wirelessDeviceMarkDown, onDevice_some hwdev]
  have hmarked : Follows isNew rel m
      { m.set (Netifd.markedDown wdev) with marked := m.marked ++ [wdev.state] } := by
    rcases h.markedDown wdev with hnew | hrel
    · exact setNew (m := m) hnew
    · exact set (m := m) hwdev hrel
  exact h.comp hmarked (h.handleConfigChange forks rfl false)

theorem scriptTaskCb (hwdev : m.wdev = some wdev)
    (hretry : rel wdev (wirelessDeviceRetrySetup forks wdev)) :
    Follows isNew rel m (wirelessDeviceScriptTaskCb forks m) := by
  rw [wirelessDeviceScriptTaskCb, onDevice_some hwdev]
  cases wdev.state with
  | setup => exact set hwdev hretry
  | teardown => exact h.markDown forks hwdev
  | up => exact h.same m
  | down => exact h.same m

theorem markDownNext (again : Bool) (hended : Follows isNew rel m m') :
    Follows isNew rel m (wirelessDeviceMarkDown again m') := by
  cases hleft : m'.wdev with
  | none =>
    rw [wirelessDeviceMarkDown, Wireless.onDevice, hleft]
    intro w hw
    cases hw
  | some left => exact h.comp hended (h.markDown again hleft)

theorem setConfigState (s : InterfaceConfigState) (hwdev : m.wdev = some wdev) :
    Follows isNew rel m (wdevSetConfigState forks s m) := by
  rw [wdevSetConfigState, onDevice_some hwdev]
  dsimp only
  have hset : Follows isNew rel m (m.set { wdev with configState := s }) :=
    set hwdev (h.configState wdev s)
  split_ifs
  · exact h.same m
  · exact h.comp hset (h.handleConfigChange forks rfl true)
  · exact h.comp hset (set rfl (h.setDown' forks _))

theorem setInterfaces (hwdev : m.wdev = some wdev) (interfaces : List β) :
    Follows isNew rel m (wdevSetConfigState forks .reload (m.set { wdev with interfaces })) :=
  h.comp (set hwdev (h.interfaces wdev interfaces)) (h.setConfigState forks .reload rfl)

theorem vifDelete (m : Wireless β) : Follows isNew rel m (Netifd.vifDelete forks m) := by
  unfold Netifd.vifDelete
  cases hwdev : m.wdev with
  | none => exact h.same m
  | some wdev => exact h.setInterfaces forks hwdev _

theorem iterate (n : ℕ) (m : Wireless β) :
    Follows isNew rel m ((Netifd.vifDelete forks)^[n] m) := by
  induction n generalizing m with
  | zero => exact h.same m
  | succ n ih => exact h.comp (h.vifDelete forks m) (ih _)

variable [DecidableEq β]

theorem interfaceCreate (m : Wireless β) (vif : β × ℕ) :
    Follows isNew rel m (wirelessInterfaceCreate forks m vif) := by
  unfold wirelessInterfaceCreate
  cases hwdev : m.wdev with
  | none => exact h.same m
  | some wdev =>
    dsimp only
    split
    · split_ifs
      · exact h.same m
      · exact h.setInterfaces forks hwdev _
    · exact h.setInterfaces forks hwdev _

theorem foldl (vifs : List (β × ℕ)) (m : Wireless β) :
    Follows isNew rel m (vifs.foldl (wirelessInterfaceCreate forks) m) := by
  induction vifs generalizing m with
  | nil => exact h.same m
  | cons vif vifs ih => exact h.comp (h.interfaceCreate forks m vif) (ih _)

theorem configInit {dev : Option (β × Bool)}
    (hdev : Follows isNew rel m (configInitDevice forks dev m)) (vifs : List β) :
    Follows isNew rel m (configInitWireless forks dev vifs m) :=
  h.comp hdev (h.comp (h.foldl forks _ _) (h.iterate forks _ _))

end CarriedAlong

end Netifd
