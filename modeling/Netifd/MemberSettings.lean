import Netifd.ReentrantProgram
import Mathlib.Tactic.Common

/-!
# The settings of a bridge member

One device and the bridges that it is a member of. `bridge_enable_member` sets an option of the
device that its configuration has not set, and no path that ends a membership takes it back. The
other members of the bridges are part of what may happen at any time.
-/

namespace Netifd.MemberSettings
open ReentrantProgram ReentrantProgram.Prog

/-- `DEV_OPT_...`, by its bit. -/
def devOpt (i : ℕ) : BitVec 32 := BitVec.twoPow 32 i

def devOptMtu : BitVec 32 := devOpt 0
def devOptMacaddr : BitVec 32 := devOpt 1
def devOptTxqueuelen : BitVec 32 := devOpt 2
def devOptIpv6 : BitVec 32 := devOpt 3
def devOptPromisc : BitVec 32 := devOpt 4
def devOptMulticast : BitVec 32 := devOpt 16

structure DeviceSettings where
  flags : BitVec 32 := 0
  validFlags : BitVec 32 := 0
  mtu : BitVec 32 := 0
  mtu6 : BitVec 32 := 0
  txqueuelen : BitVec 32 := 0
  macaddr : BitVec 48 := 0
  ipv6 : Bool := false
  promisc : Bool := false
  rpfilter : BitVec 32 := 0
  acceptlocal : Bool := false
  igmpversion : BitVec 32 := 0
  mldversion : BitVec 32 := 0
  neigh4reachabletime : BitVec 32 := 0
  neigh6reachabletime : BitVec 32 := 0
  neigh4gcstaletime : BitVec 32 := 0
  neigh6gcstaletime : BitVec 32 := 0
  neigh4locktime : BitVec 32 := 0
  rps : Bool := false
  xps : Bool := false
  dadtransmits : BitVec 32 := 0
  multicastToUnicast : Bool := false
  multicastRouter : BitVec 32 := 0
  multicastFastLeave : Bool := false
  multicast : Bool := false
  learning : Bool := false
  unicastFlood : Bool := false
  sendredirects : Bool := false
  deriving DecidableEq

namespace DeviceSettings

def has (s : DeviceSettings) (opt : BitVec 32) : Bool := s.flags &&& opt != 0

/-- What `bridge_enable_member` does to the settings of its member. -/
def disableIpv6 (s : DeviceSettings) : DeviceSettings :=
  if s.has devOptIpv6 then s else { s with ipv6 := false, flags := s.flags ||| devOptIpv6 }

/-- The options that `system_if_apply_settings` drops when the kernel refuses them. -/
def refusable : BitVec 32 :=
  devOptMtu ||| devOptTxqueuelen ||| devOptMacaddr ||| devOptPromisc ||| devOptMulticast

/-- `system_if_apply_settings` on all the settings that are set. -/
def systemIfApplySettings (refused : BitVec 32) (s : DeviceSettings) : DeviceSettings :=
  { s with flags := s.flags &&& ~~~(refused &&& refusable) }

/-- The value that `system_if_apply_settings` writes to `disable_ipv6`, if any. -/
def writtenDisableIpv6 (s : DeviceSettings) : Option Bool :=
  if s.has devOptIpv6 then some !s.ipv6 else none

/-- The end of `bridge_reset_primary` for a device that is a bridge: its address is that of a
port. -/
def resetPrimary (port : Option (BitVec 48)) (s : DeviceSettings) : DeviceSettings :=
  match port with
  | none => { s with flags := s.flags &&& ~~~devOptMacaddr }
  | some macaddr =>
    { s with macaddr, flags := s.flags &&& ~~~devOptMacaddr ||| devOptMacaddr }

end DeviceSettings

/-- The users of the device: its memberships, and all others. -/
inductive DeviceUser
  | bridge (b : ℕ)
  | other (u : ℕ)
  deriving DecidableEq

/-- A bridge, as far as the device can see it: `active` of the `bridge_state` and of its device,
and the `bridge_member`, which is listed until it is deleted. -/
structure BridgeSide where
  active : Bool := false
  devActive : Bool := false
  listed : Bool := false
  present : Bool := false
  hotplug : Bool := false

/-- The device, with the bridges whose members are users of it. The last two fields are notes:
whether a membership was ever enabled so far that the settings were looked at, and whether the
device was ever brought up in a way that changed its settings. -/
structure MemberDevice where
  settings : DeviceSettings := {}
  isBridge : Bool := false
  primaryPort : Bool := false
  external : Bool := false
  present : Bool := false
  active : ℤ := 0
  claimed : DeviceUser → Bool := fun _ => false
  members : List ℕ := []
  side : ℕ → BridgeSide := fun _ => {}
  enabled : Bool := false
  disturbed : Bool := false

namespace MemberDevice

def mapSide (d : MemberDevice) (b : ℕ) (f : BridgeSide → BridgeSide) : MemberDevice :=
  { d with side := fun i => if i = b then f (d.side i) else d.side i }

def setClaimed (d : MemberDevice) (u : DeviceUser) (claimed : Bool) : MemberDevice :=
  { d with claimed := fun v => if v = u then claimed else d.claimed v }

/-- New settings at a bring-up. -/
def adopt (d : MemberDevice) (s : DeviceSettings) : MemberDevice :=
  { d with settings := s, disturbed := d.disturbed || s != d.settings }

/-- `bridge_reset_primary`, when the device is a bridge. -/
def bridgeResetPrimary (d : MemberDevice) (port : Option (BitVec 48)) : MemberDevice :=
  if !d.isBridge || (!d.primaryPort && d.settings.has devOptMacaddr) then d
  else { d.adopt (d.settings.resetPrimary port) with primaryPort := port.isSome }

end MemberDevice

/-- What happens to the device and to the bridges. -/
inductive MemberCall
  | devicePresent (state : Bool)
  | claim (u : ℕ)
  | release (u : ℕ)
  | bridgeUp (b : ℕ)
  | bridgeDown (b : ℕ)
  | enableOther (b : ℕ)
  | retry (b : ℕ)
  | addMember (b : ℕ) (hotplug : Bool)
  | delMember (b : ℕ)

/-- What other code may do while a call is under way. -/
def MemberCall.isCallback : MemberCall → Bool
  | .devicePresent _ | .claim _ | .release _ | .bridgeUp _ | .bridgeDown _ | .enableOther _ => true
  | _ => false

abbrev MemberProg := Prog MemberDevice MemberCall

def callOthers : MemberProg Unit := callbacks MemberCall.isCallback

/-- `set_state` of the device, upwards: what it stands on comes up first, a bridge takes the
address of a port, and `system_if_up` applies the settings. -/
def deviceSetUp : MemberProg ℤ := do
  callOthers
  let failed ← ask
  if failed ≠ 0 then pure (-1)
  else
    let port ← ask
    modify fun d =>
      d.bridgeResetPrimary (if port = 0 then none else some (BitVec.ofNat 48 (port - 1)))
    let missing ← ask
    if missing ≠ 0 then pure (-1)
    else
      let refused ← ask
      modify fun d => d.adopt (d.settings.systemIfApplySettings (BitVec.ofNat 32 refused))
      pure 0

/-- The part of `device_claim` that brings the device up. An external one only has to be there. -/
def deviceBringUp : MemberProg ℤ := do
  let d ← read
  if d.external then
    let missing ← ask
    pure (if missing = 0 then 0 else -1)
  else deviceSetUp

def deviceClaim (u : DeviceUser) : MemberProg ℤ := do
  let d ← read
  if d.claimed u then pure 0
  else
    modify fun d => { d.setClaimed u true with active := d.active + 1 }
    let d ← read
    if d.active ≠ 1 then pure 0
    else
      callOthers
      let ret ← deviceBringUp
      if ret = 0 then
        callOthers
        pure 0
      else
        modify fun d => { d.setClaimed u false with active := 0 }
        pure ret

/-- `device_release`; on the way down `set_state` changes no settings. -/
def deviceRelease (u : DeviceUser) : MemberProg Unit := do
  let d ← read
  if d.claimed u then
    modify fun d => { d.setClaimed u false with active := d.active - 1 }
    let d ← read
    require (decide (0 ≤ d.active))
    whenever (d.active = 0) callOthers
  else pure ()

/-- `bridge_enable_interface`; `system_bridge_addbr` may fail. -/
def bridgeEnableInterface (b : ℕ) : MemberProg ℤ := do
  let d ← read
  if (d.side b).active then pure 0
  else
    let failed ← ask
    if failed = 0 then
      modify fun d => d.mapSide b fun bst => { bst with active := true }
      pure 0
    else pure (-1)

def bridgeDisableMember (b : ℕ) : MemberProg Unit := do
  let d ← read
  whenever ((d.side b).present = true) do
    deviceRelease (.bridge b)
    callOthers

/-- The error path of `bridge_enable_member`. -/
def enableFailed (b : ℕ) : MemberProg ℤ := do
  modify fun d => d.mapSide b fun bst => { bst with present := false }
  deviceRelease (.bridge b)
  pure (-1)

def bridgeEnableMember (b : ℕ) : MemberProg ℤ := do
  let d ← read
  if (d.side b).present = false then pure 0
  else
    let ret ← bridgeEnableInterface b
    if ret ≠ 0 then enableFailed b
    else
      modify fun d => { d with settings := d.settings.disableIpv6, enabled := true }
      let ret ← deviceClaim (.bridge b)
      if ret < 0 then enableFailed b
      else
        -- system_bridge_addif
        let failed ← ask
        if failed ≠ 0 then enableFailed b
        else
          callOthers
          pure 0

/-- `bridge_remove_member`; the bridge may be left without a member. -/
def bridgeRemoveMember (b : ℕ) : MemberProg Unit := do
  let d ← read
  whenever ((d.side b).present = true) do
    whenever ((d.side b).devActive = true) (bridgeDisableMember b)
    modify fun d => d.mapSide b fun bst => { bst with present := false }
    callOthers

/-- `bridge_free_member`. The member is no user of the device any more when the device vanishes
and appears again. -/
def bridgeFreeMember (b : ℕ) : MemberProg Unit := do
  bridgeRemoveMember b
  deviceRelease (.bridge b)
  modify fun d => { d with members := d.members.filter (· != b) }
  let d ← read
  whenever (d.present = true) do
    let _ ← invoke (.devicePresent false)
    let _ ← invoke (.devicePresent true)
    pure ()

/-- `vlist_delete`. -/
def deleteMember (b : ℕ) : MemberProg Unit := do
  let d ← read
  whenever ((d.side b).listed = true) do
    modify fun d => d.mapSide b fun bst => { bst with listed := false }
    bridgeFreeMember b

/-- `DEV_EVENT_ADD` in `bridge_member_cb`. -/
def bridgeMemberAdd (b : ℕ) : MemberProg Unit := do
  let d ← read
  require (!(d.side b).present)
  modify fun d => d.mapSide b fun bst => { bst with present := true }
  callOthers
  let d ← read
  whenever ((d.side b).devActive = true) do
    let _ ← bridgeEnableMember b
    pure ()

/-- `bridge_member_cb`, for the two events that it answers. -/
def bridgeMemberCb (b : ℕ) (added : Bool) : MemberProg Unit := do
  let d ← read
  if added then bridgeMemberAdd b
  else if (d.side b).hotplug then deleteMember b
  else bridgeRemoveMember b

/-- An event for those of the members that are still there. -/
def broadcast (added : Bool) : List ℕ → MemberProg Unit
  | [] => callOthers
  | b :: bs => do
    let d ← read
    whenever (b ∈ d.members) (bridgeMemberCb b added)
    broadcast added bs

def deviceSetPresent (state : Bool) : MemberProg Unit := do
  let d ← read
  if d.present = state then pure ()
  else
    modify fun d => { d with present := state }
    broadcast state d.members

def bridgeCreateMember (b : ℕ) (hotplug : Bool) : MemberProg Unit := do
  let d ← read
  if (d.side b).listed then pure ()
  else
    modify fun d =>
      { d.mapSide b fun bst => { bst with listed := true, present := false, hotplug } with
        members := d.members ++ [b] }
    whenever (d.present = true) (bridgeMemberAdd b)

def bridgeSetDown (b : ℕ) : MemberProg Unit := do
  callOthers
  let d ← read
  whenever ((d.side b).listed = true) (bridgeDisableMember b)
  modify fun d => d.mapSide b fun bst => { bst with active := false }

/-- `bridge_set_up`. Other members may be enabled before and after this one, and it is given up
when all have failed, or with the device of the bridge. -/
def bridgeSetUp (b : ℕ) : MemberProg ℤ := do
  callOthers
  let d ← read
  whenever ((d.side b).listed = true) do
    let _ ← bridgeEnableMember b
    pure ()
  callOthers
  let failed ← ask
  if failed = 0 then pure 0
  else
    bridgeSetDown b
    pure (-1)

/-- The first claim of the bridge. -/
def bridgeUp (b : ℕ) : MemberProg Unit := do
  let d ← read
  whenever ((d.side b).devActive = false) do
    modify fun d => d.mapSide b fun bst => { bst with devActive := true }
    let ret ← bridgeSetUp b
    whenever (ret ≠ 0) <| modify fun d => d.mapSide b fun bst => { bst with devActive := false }

/-- The last release of the bridge. -/
def bridgeDown (b : ℕ) : MemberProg Unit := do
  let d ← read
  whenever ((d.side b).devActive = true) do
    modify fun d => d.mapSide b fun bst => { bst with devActive := false }
    bridgeSetDown b

/-- `bridge_retry_members`, for this member. -/
def bridgeRetryMembers (b : ℕ) : MemberProg Unit := do
  let d ← read
  whenever ((d.side b).listed = true ∧ (d.side b).present = false ∧ d.present = true) do
    modify fun d => d.mapSide b fun bst => { bst with present := true }
    let _ ← bridgeEnableMember b
    pure ()

/-- What every call runs. -/
def memberCall : MemberCall → MemberProg Unit
  | .devicePresent state => deviceSetPresent state
  | .claim u => do
    let _ ← deviceClaim (.other u)
    pure ()
  | .release u => deviceRelease (.other u)
  | .bridgeUp b => bridgeUp b
  | .bridgeDown b => bridgeDown b
  | .enableOther b => do
    let _ ← bridgeEnableInterface b
    pure ()
  | .retry b => bridgeRetryMembers b
  | .addMember b hotplug => bridgeCreateMember b hotplug
  | .delMember b => deleteMember b

def memberBody (call : MemberCall) : MemberProg ℤ := do
  memberCall call
  pure 0

namespace DeviceSettings

variable (s : DeviceSettings)

theorem has_devOpt {i : ℕ} (hi : i < 32) : s.has (devOpt i) = s.flags.getLsbD i := by
  have hbit : (s.flags &&& BitVec.twoPow 32 i).getLsbD i = s.flags.getLsbD i := by simp [hi]
  simp only [has, devOpt, BitVec.and_twoPow]
  cases hset : s.flags.getLsbD i with
  | false => simp
  | true =>
    have hne : BitVec.twoPow 32 i ≠ 0#32 := by
      intro hzero
      have hbit := congrArg (fun x : BitVec 32 => x.getLsbD i) hzero
      simp [hi] at hbit
    simpa using hne

theorem has_ipv6 : s.has devOptIpv6 = s.flags.getLsbD 3 := s.has_devOpt (by decide)

theorem disableIpv6_of_has (h : s.has devOptIpv6 = true) : s.disableIpv6 = s := if_pos h

theorem disableIpv6_has : s.disableIpv6.has devOptIpv6 = true := by
  unfold disableIpv6
  split_ifs with h
  · exact h
  · rw [has_ipv6]
    simp [devOptIpv6, devOpt]

theorem disableIpv6_bit {i : ℕ} (hi : i ≠ 3) :
    s.disableIpv6.flags.getLsbD i = s.flags.getLsbD i := by
  unfold disableIpv6
  split_ifs with h
  · rfl
  · simp [devOptIpv6, devOpt, hi.symm]

theorem refusable_ipv6 : refusable[3] = false := by decide

theorem systemIfApplySettings_has (refused : BitVec 32) :
    (s.systemIfApplySettings refused).has devOptIpv6 = s.has devOptIpv6 := by
  rw [has_ipv6, has_ipv6]
  simp [systemIfApplySettings, refusable_ipv6]

theorem resetPrimary_has (port : Option (BitVec 48)) :
    (s.resetPrimary port).has devOptIpv6 = s.has devOptIpv6 := by
  rw [has_ipv6, has_ipv6]
  cases port with
  | none => simp [resetPrimary, devOptMacaddr, devOpt]
  | some macaddr => simp [resetPrimary, devOptMacaddr, devOpt]

theorem of_systemIfApplySettings {refused : BitVec 32} {i : ℕ}
    (h : (s.systemIfApplySettings refused).flags.getLsbD i = true) :
    s.flags.getLsbD i = true := by
  simp only [systemIfApplySettings, BitVec.getLsbD_and, Bool.and_eq_true] at h
  exact h.1

theorem exists_refused {refused : BitVec 32} (h : s.systemIfApplySettings refused ≠ s) :
    ∃ i, i ≠ 3 ∧ s.flags.getLsbD i = true ∧
      (s.systemIfApplySettings refused).flags.getLsbD i = false := by
  by_contra hnone
  push Not at hnone
  apply h
  have hflags : (s.systemIfApplySettings refused).flags = s.flags := by
    apply BitVec.eq_of_getLsbD_eq
    intro i _
    by_cases hi : i = 3
    · rw [hi, ← has_ipv6, ← has_ipv6, systemIfApplySettings_has]
    · cases hset : s.flags.getLsbD i with
      | false =>
        by_contra hkept
        exact absurd (of_systemIfApplySettings s (by simpa using hkept)) (by simp [hset])
      | true => simpa using hnone i hi hset
  have hsame : s.systemIfApplySettings refused =
      { s with flags := (s.systemIfApplySettings refused).flags } := rfl
  rw [hsame, hflags]

end DeviceSettings

/-- What the notes say of the settings. The last two are about devices other than bridges, which
set no option but IPv6 and get back none that the kernel has refused. -/
structure Traced (own : DeviceSettings) (d : MemberDevice) : Prop where
  ipv6 : d.enabled = true → d.settings.has devOptIpv6 = true
  plain : d.disturbed = false → d.settings = if d.enabled then own.disableIpv6 else own
  fewer : d.isBridge = false → ∀ i, i ≠ 3 → d.settings.flags.getLsbD i = true →
    own.flags.getLsbD i = true
  refused : d.isBridge = false → d.disturbed = true → ∃ i, i ≠ 3 ∧ own.flags.getLsbD i = true ∧
    d.settings.flags.getLsbD i = false

/-- Every call keeps what the notes say. -/
def keepsTrace (own : DeviceSettings) : Spec MemberDevice MemberCall :=
  fun _ d _ t => Traced own d → Traced own t

section Runs

variable {own : DeviceSettings} {d : MemberDevice} {α : Type}

/-- What the notes are about. -/
def MemberDevice.trace (d : MemberDevice) := (d.settings, d.isBridge, d.enabled, d.disturbed)

theorem Traced.congr {t : MemberDevice} (hd : Traced own d) (h : t.trace = d.trace) :
    Traced own t := by
  simp only [MemberDevice.trace, Prod.mk.injEq] at h
  obtain ⟨hsettings, hbridge, henabled, hdisturbed⟩ := h
  constructor
  · rw [henabled, hsettings]
    exact hd.ipv6
  · rw [hdisturbed, hsettings, henabled]
    exact hd.plain
  · rw [hbridge, hsettings]
    exact hd.fewer
  · rw [hbridge, hdisturbed, hsettings]
    exact hd.refused

theorem Traced.enable (hd : Traced own d) :
    Traced own { d with settings := d.settings.disableIpv6, enabled := true } := by
  constructor
  · exact fun _ => d.settings.disableIpv6_has
  · intro hplain
    have hsettings := hd.plain hplain
    dsimp only
    rw [if_pos rfl, hsettings]
    split_ifs
    · exact own.disableIpv6.disableIpv6_of_has own.disableIpv6_has
    · rfl
  · intro hbridge i hi hset
    exact hd.fewer hbridge i hi (d.settings.disableIpv6_bit hi ▸ hset)
  · intro hbridge hdisturbed
    obtain ⟨i, hi, hown, hlost⟩ := hd.refused hbridge hdisturbed
    exact ⟨i, hi, hown, (d.settings.disableIpv6_bit hi).trans hlost⟩

theorem Traced.adopt (hd : Traced own d) {s : DeviceSettings}
    (hipv6 : s.has devOptIpv6 = d.settings.has devOptIpv6)
    (hfewer : d.isBridge = false → ∀ i, s.flags.getLsbD i = true →
      d.settings.flags.getLsbD i = true)
    (hrefused : d.isBridge = false → s ≠ d.settings → ∃ i, i ≠ 3 ∧
      d.settings.flags.getLsbD i = true ∧ s.flags.getLsbD i = false) :
    Traced own (d.adopt s) := by
  constructor
  · exact fun henabled => hipv6.trans (hd.ipv6 henabled)
  · intro hplain
    simp only [MemberDevice.adopt, Bool.or_eq_false_iff, bne_eq_false_iff_eq] at hplain ⊢
    rw [hplain.2]
    exact hd.plain hplain.1
  · exact fun hbridge i hi hset => hd.fewer hbridge i hi (hfewer hbridge i hset)
  · intro hbridge hdisturbed
    by_cases hsame : s = d.settings
    · have hbefore : d.disturbed = true := by
        simpa [MemberDevice.adopt, hsame] using hdisturbed
      obtain ⟨i, hi, hown, hlost⟩ := hd.refused hbridge hbefore
      exact ⟨i, hi, hown, by simpa [MemberDevice.adopt, hsame] using hlost⟩
    · obtain ⟨i, hi, hset, hlost⟩ := hrefused hbridge hsame
      exact ⟨i, hi, hd.fewer hbridge i hi hset, hlost⟩

theorem Traced.resetPrimary (hd : Traced own d) (port : Option (BitVec 48)) :
    Traced own (d.bridgeResetPrimary port) := by
  unfold MemberDevice.bridgeResetPrimary
  split_ifs with hkept
  · exact hd
  · have hbridge : d.isBridge = true := by
      by_contra hnone
      simp [hnone] at hkept
    have hnot : d.isBridge ≠ false := by simp [hbridge]
    exact (hd.adopt (d.settings.resetPrimary_has port) (absurd · hnot) (absurd · hnot)).congr rfl

theorem Traced.applySettings (hd : Traced own d) (refused : BitVec 32) :
    Traced own (d.adopt (d.settings.systemIfApplySettings refused)) :=
  hd.adopt (d.settings.systemIfApplySettings_has refused)
    (fun _ _ => d.settings.of_systemIfApplySettings) fun _ => d.settings.exists_refused

abbrev KeepsTrace (own : DeviceSettings) (x : MemberProg α) : Prop :=
  Preserves (keepsTrace own) (Traced own) x

theorem callOthers_traced : KeepsTrace own callOthers :=
  Preserves.callbacks fun _ _ _ _ _ hspec => hspec

theorem modify_traced {f : MemberDevice → MemberDevice} (hf : ∀ d, (f d).trace = d.trace) :
    KeepsTrace own (modify f) := Preserves.modify fun d hd => hd.congr (hf d)

theorem deviceSetUp_traced : KeepsTrace own deviceSetUp := by
  refine callOthers_traced.bind fun _ => Preserves.ask.bind fun _ => ?_
  refine Preserves.ite (fun _ => Preserves.pure _) fun _ => Preserves.ask.bind fun _ => ?_
  refine Preserves.bind (Preserves.modify fun d hd => hd.resetPrimary _) fun _ => ?_
  refine Preserves.ask.bind fun _ => Preserves.ite (fun _ => Preserves.pure _) fun _ => ?_
  refine Preserves.ask.bind fun _ => ?_
  exact Preserves.bind (Preserves.modify fun d hd => hd.applySettings _) fun _ => Preserves.pure _

theorem deviceBringUp_traced : KeepsTrace own deviceBringUp := by
  refine Preserves.after_read fun d => Preserves.ite (fun _ => ?_) fun _ => deviceSetUp_traced
  exact Preserves.ask.bind fun _ => Preserves.pure _

theorem deviceClaim_traced (u : DeviceUser) : KeepsTrace own (deviceClaim u) := by
  refine Preserves.after_read fun d => Preserves.ite (fun _ => Preserves.pure _) fun _ => ?_
  refine Preserves.bind (modify_traced fun _ => rfl) fun _ => Preserves.after_read fun d => ?_
  refine Preserves.ite (fun _ => Preserves.pure _) fun _ => callOthers_traced.bind fun _ => ?_
  refine deviceBringUp_traced.bind fun ret => Preserves.ite (fun _ => ?_) fun _ => ?_
  · exact callOthers_traced.bind fun _ => Preserves.pure _
  · exact Preserves.bind (modify_traced fun _ => rfl) fun _ => Preserves.pure _

theorem deviceRelease_traced (u : DeviceUser) : KeepsTrace own (deviceRelease u) := by
  refine Preserves.after_read fun d => Preserves.ite (fun _ => ?_) fun _ => Preserves.pure _
  refine Preserves.bind (modify_traced fun _ => rfl) fun _ => Preserves.after_read fun d => ?_
  exact Preserves.bind (Preserves.require _) fun _ => Preserves.whenever fun _ => callOthers_traced

theorem bridgeEnableInterface_traced (b : ℕ) : KeepsTrace own (bridgeEnableInterface b) := by
  refine Preserves.after_read fun d => Preserves.ite (fun _ => Preserves.pure _) fun _ => ?_
  refine Preserves.ask.bind fun _ => Preserves.ite (fun _ => ?_) fun _ => Preserves.pure _
  exact Preserves.bind (modify_traced fun _ => rfl) fun _ => Preserves.pure _

theorem bridgeDisableMember_traced (b : ℕ) : KeepsTrace own (bridgeDisableMember b) :=
  Preserves.after_read fun _ => Preserves.whenever fun _ =>
    (deviceRelease_traced _).bind fun _ => callOthers_traced

theorem enableFailed_traced (b : ℕ) : KeepsTrace own (enableFailed b) :=
  Preserves.bind (modify_traced fun _ => rfl) fun _ =>
    (deviceRelease_traced _).bind fun _ => Preserves.pure _

theorem bridgeEnableMember_traced (b : ℕ) : KeepsTrace own (bridgeEnableMember b) := by
  refine Preserves.after_read fun d => Preserves.ite (fun _ => Preserves.pure _) fun _ => ?_
  refine (bridgeEnableInterface_traced b).bind fun ret => ?_
  refine Preserves.ite (fun _ => enableFailed_traced b) fun _ => ?_
  refine Preserves.bind (Preserves.modify fun d hd => hd.enable) fun _ => ?_
  refine (deviceClaim_traced _).bind fun ret => ?_
  refine Preserves.ite (fun _ => enableFailed_traced b) fun _ => Preserves.ask.bind fun _ => ?_
  refine Preserves.ite (fun _ => enableFailed_traced b) fun _ => ?_
  exact callOthers_traced.bind fun _ => Preserves.pure _

theorem enableMember_traced (b : ℕ) : KeepsTrace own (do
    let _ ← bridgeEnableMember b
    pure ()) := (bridgeEnableMember_traced b).bind fun _ => Preserves.pure _

theorem bridgeRemoveMember_traced (b : ℕ) : KeepsTrace own (bridgeRemoveMember b) := by
  refine Preserves.after_read fun d => Preserves.whenever fun _ => ?_
  refine Preserves.bind (Preserves.whenever fun _ => bridgeDisableMember_traced b) fun _ => ?_
  exact Preserves.bind (modify_traced fun _ => rfl) fun _ => callOthers_traced

theorem bridgeFreeMember_traced (b : ℕ) : KeepsTrace own (bridgeFreeMember b) := by
  have hinvoke : ∀ call, KeepsTrace own (invoke call) := fun _ _ hd _ _ hspec => hspec hd
  refine (bridgeRemoveMember_traced b).bind fun _ => (deviceRelease_traced _).bind fun _ => ?_
  refine Preserves.bind (modify_traced fun _ => rfl) fun _ => Preserves.after_read fun d => ?_
  refine Preserves.whenever fun _ => (hinvoke _).bind fun _ => ?_
  exact (hinvoke _).bind fun _ => Preserves.pure _

theorem deleteMember_traced (b : ℕ) : KeepsTrace own (deleteMember b) :=
  Preserves.after_read fun _ => Preserves.whenever fun _ =>
    Preserves.bind (modify_traced fun _ => rfl) fun _ => bridgeFreeMember_traced b

theorem bridgeMemberAdd_traced (b : ℕ) : KeepsTrace own (bridgeMemberAdd b) := by
  refine Preserves.after_read fun d => (Preserves.require _).bind fun _ => ?_
  refine Preserves.bind (modify_traced fun _ => rfl) fun _ => callOthers_traced.bind fun _ => ?_
  exact Preserves.after_read fun _ => Preserves.whenever fun _ => enableMember_traced b

theorem bridgeMemberCb_traced (b : ℕ) (added : Bool) : KeepsTrace own (bridgeMemberCb b added) :=
  Preserves.after_read fun _ => Preserves.ite (fun _ => bridgeMemberAdd_traced b) fun _ =>
    Preserves.ite (fun _ => deleteMember_traced b) fun _ => bridgeRemoveMember_traced b

theorem broadcast_traced (added : Bool) (bs : List ℕ) : KeepsTrace own (broadcast added bs) := by
  induction bs with
  | nil => exact callOthers_traced
  | cons b bs ih =>
    refine Preserves.after_read fun d => Preserves.bind ?_ fun _ => ih
    exact Preserves.whenever fun _ => bridgeMemberCb_traced b added

theorem deviceSetPresent_traced (state : Bool) : KeepsTrace own (deviceSetPresent state) :=
  Preserves.after_read fun d => Preserves.ite (fun _ => Preserves.pure _) fun _ =>
    Preserves.bind (modify_traced fun _ => rfl) fun _ => broadcast_traced state d.members

theorem bridgeCreateMember_traced (b : ℕ) (hotplug : Bool) :
    KeepsTrace own (bridgeCreateMember b hotplug) := by
  refine Preserves.after_read fun d => Preserves.ite (fun _ => Preserves.pure _) fun _ => ?_
  refine Preserves.bind (modify_traced fun _ => rfl) fun _ => ?_
  exact Preserves.whenever fun _ => bridgeMemberAdd_traced b

theorem bridgeSetDown_traced (b : ℕ) : KeepsTrace own (bridgeSetDown b) := by
  refine callOthers_traced.bind fun _ => Preserves.after_read fun d => ?_
  refine Preserves.bind (Preserves.whenever fun _ => bridgeDisableMember_traced b) fun _ => ?_
  exact modify_traced fun _ => rfl

theorem bridgeSetUp_traced (b : ℕ) : KeepsTrace own (bridgeSetUp b) := by
  refine callOthers_traced.bind fun _ => Preserves.after_read fun d => ?_
  refine Preserves.bind (Preserves.whenever fun _ => enableMember_traced b) fun _ => ?_
  refine callOthers_traced.bind fun _ => Preserves.ask.bind fun _ => ?_
  refine Preserves.ite (fun _ => Preserves.pure _) fun _ => ?_
  exact (bridgeSetDown_traced b).bind fun _ => Preserves.pure _

theorem memberCall_traced (call : MemberCall) : KeepsTrace own (memberCall call) := by
  cases call with
  | devicePresent state => exact deviceSetPresent_traced state
  | claim u => exact (deviceClaim_traced _).bind fun _ => Preserves.pure _
  | release u => exact deviceRelease_traced _
  | bridgeUp b =>
    refine Preserves.after_read fun d => Preserves.whenever fun _ => ?_
    refine Preserves.bind (modify_traced fun _ => rfl) fun _ => ?_
    refine (bridgeSetUp_traced b).bind fun _ => ?_
    exact Preserves.whenever fun _ => modify_traced fun _ => rfl
  | bridgeDown b =>
    refine Preserves.after_read fun d => Preserves.whenever fun _ => ?_
    exact Preserves.bind (modify_traced fun _ => rfl) fun _ => bridgeSetDown_traced b
  | enableOther b => exact (bridgeEnableInterface_traced b).bind fun _ => Preserves.pure _
  | retry b =>
    refine Preserves.after_read fun d => Preserves.whenever fun _ => ?_
    exact Preserves.bind (modify_traced fun _ => rfl) fun _ => enableMember_traced b
  | addMember b hotplug => exact bridgeCreateMember_traced b hotplug
  | delMember b => exact deleteMember_traced b

theorem memberBody_traced : Verified memberBody (keepsTrace own) := by
  intro call d
  refine wp_imp _ fun hd => ?_
  exact ((memberCall_traced call).bind fun _ => Preserves.pure 0) d hd

end Runs

/-- A device on which nothing has happened yet. -/
def configured (own : DeviceSettings) (isBridge external present : Bool) : MemberDevice :=
  { settings := own, isBridge, external, present }

/-- Any call may come next. -/
def anyCall : MemberCall → MemberDevice → Bool := fun _ _ => true

/-- A run of calls at the end of which the device is a member of no bridge. -/
structure MemberRun where
  own : DeviceSettings
  isBridge : Bool
  external : Bool
  present : Bool
  final : MemberDevice
  run : Reachable memberBody anyCall (configured own isBridge external present) final
  alone : final.members = []

theorem MemberRun.traced (r : MemberRun) : Traced r.own r.final := by
  have hstart : Traced r.own (configured r.own r.isBridge r.external r.present) :=
    ⟨nofun, fun _ => rfl, fun _ _ _ => id, nofun⟩
  exact Reachable.invariant memberBody_traced (fun _ _ _ _ _ hspec => hspec) r.run hstart

/-- IPv6 is an option of the configuration, or the device was never enabled in a bridge. -/
def MemberRun.Untouched (r : MemberRun) : Prop :=
  r.own.has devOptIpv6 = true ∨ r.final.enabled = false

/-- The settings are those of the configuration if no membership has touched them and no bring-up
of the device itself has changed them. The first is necessary for every device, and the second for
all but those which are bridges themselves. -/
theorem settings_kept_iff (r : MemberRun) :
    (r.Untouched ∧ r.final.disturbed = false → r.final.settings = r.own) ∧
      (r.final.settings = r.own → r.Untouched ∧
        (r.final.isBridge = false → r.final.disturbed = false)) := by
  have htraced := r.traced
  constructor
  · rintro ⟨huntouched, hplain⟩
    have hsettings := htraced.plain hplain
    rcases huntouched with hown | hnever
    · rw [hsettings, r.own.disableIpv6_of_has hown, ite_self]
    · rwa [hnever] at hsettings
  · intro hkept
    constructor
    · cases henabled : r.final.enabled with
      | false => exact .inr henabled
      | true => exact .inl (hkept ▸ htraced.ipv6 henabled)
    · intro hbridge
      by_contra hdisturbed
      obtain ⟨i, -, hown, hlost⟩ := htraced.refused hbridge (by simpa using hdisturbed)
      rw [hkept, hown] at hlost
      cases hlost

theorem written_of_enabled (r : MemberRun) (hown : r.own.has devOptIpv6 = false)
    (henabled : r.final.enabled = true) (hplain : r.final.disturbed = false) :
    r.own.writtenDisableIpv6 = none ∧ r.final.settings.writtenDisableIpv6 = some true := by
  have hsettings := r.traced.plain hplain
  rw [henabled, if_pos rfl] at hsettings
  refine ⟨by simp [DeviceSettings.writtenDisableIpv6, hown], ?_⟩
  rw [DeviceSettings.writtenDisableIpv6, hsettings, if_pos r.own.disableIpv6_has]
  simp [DeviceSettings.disableIpv6, hown]

/-- A device without any options is a member of a bridge that comes up and goes down, and is
removed from it. -/
theorem ipv6_left_disabled : ¬∀ r : MemberRun, r.final.settings = r.own := by
  intro h
  obtain ⟨final, hrun, halone, hsettings⟩ := exists_reachable memberBody anyCall
    (configured {} false false true)
    (fun d => d.members = [] ∧ d.settings ≠ ({} : DeviceSettings)) 100
    [(.addMember 0 false, [.resume]),
      (.bridgeUp 0, [.resume, .pick 0, .resume, .resume, .pick 0, .pick 0, .pick 0, .pick 0,
        .resume, .pick 0, .resume, .resume, .pick 0]),
      (.bridgeDown 0, [.resume, .resume, .resume]),
      (.delMember 0, [.resume, .resume, .resume])] (by decide)
  exact hsettings (h ⟨_, _, _, _, final, hrun, halone⟩)

end Netifd.MemberSettings
