import Netifd.GuardedRuns
import Netifd.MirroredTable
import Netifd.VersionedLists
import Mathlib.Algebra.Order.Ring.Int

/-!
# The addresses in the kernel

The addresses of one interface with a device of its own, and the table of the kernel that
`system_add_address` and `system_del_address` write, with all calls succeeding. Subnet
routes and source rules are not part of the model.
-/

namespace Netifd
open MirroredTable GuardedRuns

/-- A bit of `enum device_addr_flags`. -/
def hasFlag (flags bit : ℕ) : Bool := flags.testBit bit

def DEVADDR_INET6 : ℕ := 0
def DEVADDR_EXTERNAL : ℕ := 2
def DEVROUTE_METRIC : ℕ := 3
def DEVROUTE_MTU : ℕ := 4
def DEVROUTE_PROTO : ℕ := 5
def DEVADDR_OFFLINK : ℕ := 6
def DEVROUTE_TABLE : ℕ := 7
def DEVROUTE_SRCTABLE : ℕ := 8
def DEVROUTE_ONLINK : ℕ := 9
def DEVROUTE_TYPE : ℕ := 10

/-- `struct device_addr`; the address is the number that its bytes spell. -/
structure DeviceAddr where
  enabled : Bool := false
  failed : Bool := false
  broadcast : ℕ := 0
  validUntil : ℤ := 0
  preferredUntil : ℤ := 0
  flags : ℕ
  mask : ℕ
  addr : ℕ
  deriving DecidableEq

/-- Family, address and prefix length. -/
abbrev AddrKey := Bool × ℕ × ℕ

namespace DeviceAddr

def external (a : DeviceAddr) : Bool := hasFlag a.flags DEVADDR_EXTERNAL

def v6 (a : DeviceAddr) : Bool := hasFlag a.flags DEVADDR_INET6

/-- What the kernel knows an address by. -/
def kernelKey (a : DeviceAddr) : AddrKey := (a.v6, a.addr, a.mask)

/-- The address is meant to be in the kernel. -/
def live (a : DeviceAddr) : Bool := a.enabled && !a.external

end DeviceAddr

/-- The sign of `memcmp` of two numbers that are stored with their high bytes first. -/
def memcmp (a b : ℕ) : ℤ := if a < b then -1 else if a = b then 0 else 1

/-- `addr_cmp`, which compares flags, mask and address as one piece of memory. -/
def addrCmp (k1 k2 : DeviceAddr) : ℤ :=
  if k1.flags ≠ k2.flags then memcmp k1.flags k2.flags
  else if k1.mask ≠ k2.mask then memcmp k1.mask k2.mask
  else memcmp k1.addr k2.addr

/-- The broadcast address of a new IPv4 address that has none. -/
def defaultBroadcast (a : DeviceAddr) : DeviceAddr :=
  if !a.v6 && a.broadcast == 0 then
    { a with
      broadcast := if a.mask ≥ 31 then 2 ^ 32 - 1 else a.addr ||| ((2 ^ 32 - 1) >>> a.mask) }
  else a

/-- The kernel has the old address and need not be told about the new one. -/
def keepAddr (old new : DeviceAddr) : Bool :=
  !(old.flags != new.flags || old.failed) && !(!new.v6 && new.broadcast != old.broadcast)

/-- The lifetimes differ. -/
def replaceAddr (old new : DeviceAddr) : Bool :=
  old.validUntil != new.validUntil || old.preferredUntil != new.preferredUntil

/-- The addresses that the kernel has, by their keys. -/
abbrev AddrTable := Table AddrKey Unit

/-- `interface_update_proto_addr`, the callback of the tree of addresses. -/
def interfaceUpdateProtoAddr (nodeNew nodeOld : Option DeviceAddr) (kernel : AddrTable) :
    Option DeviceAddr × AddrTable :=
  let aNew := nodeNew.map defaultBroadcast
  let keep :=
    match aNew, nodeOld with
    | some aNew, some aOld => keepAddr aOld aNew
    | _, _ => false
  let replace :=
    match aNew, nodeOld with
    | some aNew, some aOld => replaceAddr aOld aNew
    | _, _ => false
  let kernel :=
    match nodeOld with
    | some aOld =>
      if aOld.enabled && !keep && !aOld.external then erase kernel aOld.kernelKey else kernel
    | none => kernel
  match aNew with
  | some aNew =>
    (some { aNew with enabled := true },
      if (!keep || replace) && !aNew.external then write kernel aNew.kernelKey () else kernel)
  | none => (none, kernel)

/-- The addresses of `struct interface_ip_settings`, and the kernel's. -/
structure AddrSettings where
  enabled : Bool := true
  addr : Vlist DeviceAddr := {}
  kernel : AddrTable := fun _ => none

/-- One step of the loop of `interface_ip_set_enabled` over the addresses: the address after
it, and what happens to the kernel. -/
def setAddrEnabled (enabled : Bool) (a : DeviceAddr) : DeviceAddr :=
  if a.external then a else { a with enabled }

def setAddrEnabledKernel (enabled : Bool) (kernel : AddrTable) (a : DeviceAddr) : AddrTable :=
  if a.external || a.enabled == enabled then kernel
  else if enabled then write kernel a.kernelKey () else erase kernel a.kernelKey

/-- The address as it comes out of `calloc`. -/
def freshAddr (a : DeviceAddr) : DeviceAddr := { a with enabled := false, failed := false }

/-- What can be done to the addresses. -/
inductive AddrOp
  | updateStart
  | add (a : DeviceAddr)
  | updateComplete
  | setEnabled (enabled : Bool)
  | delete (a : DeviceAddr)
  | flush

/-- `interface_ip_update_start`, `vlist_add`, `interface_ip_update_complete`,
`interface_ip_set_enabled`, `vlist_delete` and `interface_ip_flush`. -/
def addrStep (s : AddrSettings) : AddrOp → AddrSettings
  | .updateStart => { s with addr := s.addr.startUpdate }
  | .add a =>
    let (addr, kernel) := s.addr.add addrCmp interfaceUpdateProtoAddr (freshAddr a) s.kernel
    { s with addr, kernel }
  | .updateComplete =>
    let (addr, kernel) := s.addr.flush interfaceUpdateProtoAddr s.kernel
    { s with addr, kernel }
  | .setEnabled enabled =>
    { enabled
      addr :=
        { s.addr with
          nodes := s.addr.nodes.map fun n => { n with value := setAddrEnabled enabled n.value } }
      kernel := s.addr.values.foldl (setAddrEnabledKernel enabled) s.kernel }
  | .delete a =>
    let (addr, kernel) := s.addr.delete addrCmp interfaceUpdateProtoAddr a s.kernel
    { s with addr, kernel }
  | .flush =>
    let (addr, kernel) := s.addr.flushAll interfaceUpdateProtoAddr s.kernel
    { s with addr, kernel }

/-- The keys of the addresses that are meant to be in the kernel. -/
abbrev liveAddrs : List DeviceAddr → List (AddrKey × Unit) :=
  livePairs DeviceAddr.live DeviceAddr.kernelKey fun _ => ()

/-- The kernel has exactly the addresses that are enabled and not external. -/
def AddrMirror (s : AddrSettings) : Prop := Mirrors s.kernel (liveAddrs s.addr.values)

theorem memcmp_eq_zero {a b : ℕ} : memcmp a b = 0 ↔ a = b := by
  unfold memcmp
  split_ifs with hlt heq
  · simp [Nat.ne_of_lt hlt]
  · simp [heq]
  · simp [heq]

theorem addrCmp_eq_zero {a b : DeviceAddr} (h : addrCmp a b = 0) :
    a.kernelKey = b.kernelKey ∧ a.external = b.external := by
  unfold addrCmp at h
  split_ifs at h with hflags hmask
  · exact absurd (memcmp_eq_zero.mp h) hflags
  · exact absurd (memcmp_eq_zero.mp h) hmask
  · have haddr := memcmp_eq_zero.mp h
    simp [DeviceAddr.kernelKey, DeviceAddr.v6, DeviceAddr.external, not_not.mp hflags,
      not_not.mp hmask, haddr]

theorem removeAddr_kernel (kernel : AddrTable) (old : DeviceAddr) :
    (interfaceUpdateProtoAddr none (some old) kernel).2 =
      if old.live then erase kernel old.kernelKey else kernel := by
  simp [interfaceUpdateProtoAddr, DeviceAddr.live]

/-- A new address in the form that it has after the callback. -/
def addedAddr (a : DeviceAddr) : DeviceAddr :=
  { defaultBroadcast (freshAddr a) with enabled := true }

theorem defaultBroadcast_key (a : DeviceAddr) :
    (defaultBroadcast a).kernelKey = a.kernelKey ∧ (defaultBroadcast a).external = a.external := by
  unfold defaultBroadcast
  split_ifs <;> exact ⟨rfl, rfl⟩

theorem addedAddr_key (a : DeviceAddr) : (addedAddr a).kernelKey = a.kernelKey :=
  (defaultBroadcast_key (freshAddr a)).1

theorem addedAddr_live (a : DeviceAddr) : (addedAddr a).live = !a.external := by
  have hexternal : (addedAddr a).external = a.external := (defaultBroadcast_key (freshAddr a)).2
  simp only [DeviceAddr.live, hexternal]
  rfl

/-- The kernel is not told about a new address that it is to have, because an equal one was
there before. -/
def keptSilently (a : DeviceAddr) (old : Option DeviceAddr) : Bool :=
  match old with
  | some aOld =>
    keepAddr aOld (defaultBroadcast (freshAddr a)) &&
      !replaceAddr aOld (defaultBroadcast (freshAddr a))
  | none => false

theorem addAddr_value (a : DeviceAddr) (old : Option DeviceAddr) (kernel : AddrTable) :
    (interfaceUpdateProtoAddr (some (freshAddr a)) old kernel).1 = some (addedAddr a) := rfl

theorem addAddr_kernel (a : DeviceAddr) {old : Option DeviceAddr} (kernel : AddrTable)
    (hold : ∀ aOld, old = some aOld → addrCmp (freshAddr a) aOld = 0) :
    (interfaceUpdateProtoAddr (some (freshAddr a)) old kernel).2 =
      if a.external || keptSilently a old then kernel else write kernel a.kernelKey () := by
  have hexternal : (defaultBroadcast (freshAddr a)).external = a.external :=
    (defaultBroadcast_key (freshAddr a)).2
  have hkey : (defaultBroadcast (freshAddr a)).kernelKey = a.kernelKey :=
    (defaultBroadcast_key (freshAddr a)).1
  cases old with
  | none =>
    cases ha : a.external <;> simp [interfaceUpdateProtoAddr, keptSilently, hexternal, hkey, ha]
  | some aOld =>
    obtain ⟨hkeyOld, hexternalOld⟩ := addrCmp_eq_zero (hold aOld rfl)
    have hkeyOld' : aOld.kernelKey = a.kernelKey := hkeyOld.symm
    have hexternalOld' : aOld.external = a.external := hexternalOld.symm
    simp only [interfaceUpdateProtoAddr, keptSilently, Option.map_some, hexternal, hkey, hkeyOld',
      hexternalOld']
    cases ha : a.external with
    | true => simp
    | false =>
      rcases Bool.eq_false_or_eq_true (keepAddr aOld (defaultBroadcast (freshAddr a))) with
        hkeep | hkeep
      · rcases Bool.eq_false_or_eq_true (replaceAddr aOld (defaultBroadcast (freshAddr a))) with
          hreplace | hreplace <;> simp [hkeep, hreplace]
      · rcases Bool.eq_false_or_eq_true aOld.enabled with henabled | henabled <;>
          simp [hkeep, henabled, write_erase]

/-- The steps that keep the kernel in line: an address that is kept silently is in the kernel
already, and what is removed shares its key with no address that stays. -/
def AddrStepOk (s : AddrSettings) : AddrOp → Prop
  | .add a => ∀ old, s.addr.find addrCmp (freshAddr a) = some old →
      keptSilently a (some old) = true → old.enabled = false → a.external = false →
      ∃ b ∈ (s.addr.erase addrCmp (freshAddr a)).values, b.live = true ∧ b.kernelKey = a.kernelKey
  | .delete a => ∀ old, s.addr.find addrCmp a = some old → old.live = true →
      ∀ b ∈ (s.addr.erase addrCmp a).values, b.live = true → b.kernelKey ≠ old.kernelKey
  | .updateComplete => ∀ a ∈ s.addr.staleValues, a.live = true →
      ∀ b ∈ s.addr.keptValues, b.live = true → b.kernelKey ≠ a.kernelKey
  | _ => True

/-- Adding an address keeps the mirror just if the step is a good one. -/
theorem addAddr_mirrors_iff {s : AddrSettings} (h : AddrMirror s) (a : DeviceAddr) :
    AddrMirror (addrStep s (.add a)) ↔ AddrStepOk s (.add a) := by
  have hvalues := Vlist.add_values addrCmp interfaceUpdateProtoAddr s.addr (freshAddr a) s.kernel
  rw [addAddr_value] at hvalues
  have hperm := Vlist.find_perm addrCmp s.addr (freshAddr a)
  have hfound : ∀ old, s.addr.find addrCmp (freshAddr a) = some old →
      addrCmp (freshAddr a) old = 0 := fun old hold => (Vlist.find_some addrCmp hold).1
  have hkey : ∀ old ∈ s.addr.find addrCmp (freshAddr a),
      old.kernelKey = (addedAddr a).kernelKey := by
    intro old hold
    rw [addedAddr_key]
    exact (addrCmp_eq_zero (hfound old hold)).1.symm
  have hmirror : AddrMirror (addrStep s (.add a)) ↔
      Mirrors (interfaceUpdateProtoAddr (some (freshAddr a)) (s.addr.find addrCmp (freshAddr a))
        s.kernel).2 (liveAddrs (addedAddr a :: (s.addr.erase addrCmp (freshAddr a)).values)) :=
    ⟨fun hm => hm.congr (livePairs_perm hvalues), fun hm => hm.congr (livePairs_perm hvalues.symm)⟩
  rw [hmirror, addAddr_kernel a s.kernel hfound]
  cases hexternal : a.external with
  | true =>
    have hdead : (addedAddr a).live = false := by rw [addedAddr_live, hexternal]; rfl
    have hold : ∀ old ∈ s.addr.find addrCmp (freshAddr a), old.live = false := by
      intro old hold
      have hexternal' : old.external = true := (addrCmp_eq_zero (hfound old hold)).2 ▸ hexternal
      simp [DeviceAddr.live, hexternal']
    have hstill := mirrors_put_dead h hperm hdead hold
    simp [AddrStepOk, hexternal, hstill]
  | false =>
    have hlive : (addedAddr a).live = true := by rw [addedAddr_live, hexternal]; rfl
    cases hsilent : keptSilently a (s.addr.find addrCmp (freshAddr a)) with
    | false =>
      have hwrite := mirrors_put_written h hperm hkey hlive
      rw [addedAddr_key] at hwrite
      have hok : AddrStepOk s (.add a) := by
        intro old hold hkept
        rw [hold, hkept] at hsilent
        cases hsilent
      simp [hwrite, hok]
    | true =>
      simp only [Bool.or_true, if_true]
      rw [mirrors_put_kept_iff h hperm hkey hlive, addedAddr_key]
      cases hold : s.addr.find addrCmp (freshAddr a) with
      | none => simp [keptSilently, hold] at hsilent
      | some old =>
        rw [hold] at hsilent
        have hexternal' : old.external = false :=
          (addrCmp_eq_zero (hfound old hold)).2.symm.trans hexternal
        cases henabled : old.enabled <;>
          simp [AddrStepOk, hold, hsilent, hexternal, DeviceAddr.live, henabled, hexternal']

theorem deleteAddr_mirrors_iff {s : AddrSettings} (h : AddrMirror s) (a : DeviceAddr) :
    AddrMirror (addrStep s (.delete a)) ↔ AddrStepOk s (.delete a) := by
  cases hold : s.addr.find addrCmp a with
  | none =>
    have hsame : addrStep s (.delete a) = s := by simp [addrStep, Vlist.delete, hold]
    simp [hsame, h, AddrStepOk, hold]
  | some old =>
    obtain ⟨-, hperm⟩ := Vlist.find_some addrCmp hold
    have hstep : AddrMirror (addrStep s (.delete a)) ↔
        Mirrors ([old].foldl (fun kernel old =>
          (interfaceUpdateProtoAddr none (some old) kernel).2) s.kernel)
          (liveAddrs (s.addr.erase addrCmp a).values) := by
      simp [AddrMirror, addrStep, Vlist.delete, hold]
    rw [hstep, mirrors_remove_iff removeAddr_kernel h fun b => by simp [hperm.mem_iff]]
    simp [AddrStepOk, hold]

theorem flushAddrs_mirrors {s : AddrSettings} (h : AddrMirror s) :
    AddrMirror (addrStep s .flush) := by
  have hvalues : (addrStep s .flush).addr.values = [] :=
    Vlist.flushAll_values interfaceUpdateProtoAddr s.addr s.kernel
  rw [AddrMirror, hvalues]
  apply (mirrors_remove_iff removeAddr_kernel h fun b => ?_).mpr
  · simp
  · rw [Vlist.staleValues_flushAll]
    simp

theorem setAddrEnabled_values (s : AddrSettings) (enabled : Bool) :
    (addrStep s (.setEnabled enabled)).addr.values =
      s.addr.values.map (setAddrEnabled enabled) := by
  simp [addrStep, Vlist.values, Function.comp_def]

theorem setAddrEnabled_key (enabled : Bool) (a : DeviceAddr) :
    (setAddrEnabled enabled a).kernelKey = a.kernelKey := by
  unfold setAddrEnabled
  split_ifs <;> rfl

theorem setAddrEnabled_live (enabled : Bool) (a : DeviceAddr) :
    (setAddrEnabled enabled a).live = (enabled && !a.external) := by
  unfold setAddrEnabled
  split_ifs with hexternal
  · simp [DeviceAddr.live, hexternal]
  · rfl

theorem disableAddr_kernel (kernel : AddrTable) (a : DeviceAddr) :
    setAddrEnabledKernel false kernel a =
      if a.live then erase kernel a.kernelKey else kernel := by
  cases hexternal : a.external <;> cases henabled : a.enabled <;>
    simp [setAddrEnabledKernel, DeviceAddr.live, hexternal, henabled]

/-- The addresses that are to be written when all are enabled. -/
def disabledAddrs : List DeviceAddr → List (AddrKey × Unit) :=
  livePairs (fun a => !a.enabled && !a.external) DeviceAddr.kernelKey fun _ => ()

theorem enableAddrs_kernel (l : List DeviceAddr) (kernel : AddrTable) :
    l.foldl (setAddrEnabledKernel true) kernel =
      (disabledAddrs l).foldl (fun kernel p => write kernel p.1 p.2) kernel := by
  induction l generalizing kernel with
  | nil => rfl
  | cons a l ih =>
    rw [List.foldl_cons, ih]
    cases hexternal : a.external <;> cases henabled : a.enabled <;>
      simp [setAddrEnabledKernel, disabledAddrs, livePairs, hexternal, henabled]

theorem disableAddrs_mirrors {s : AddrSettings} (h : AddrMirror s) :
    AddrMirror (addrStep s (.setEnabled false)) := by
  have hnone : liveAddrs (s.addr.values.map (setAddrEnabled false)) = [] := by
    apply livePairs_eq_nil
    intro b hb
    obtain ⟨a, -, rfl⟩ := List.mem_map.mp hb
    exact setAddrEnabled_live false a
  rw [AddrMirror, setAddrEnabled_values, hnone]
  change Mirrors (s.addr.values.foldl (setAddrEnabledKernel false) s.kernel) (liveAddrs [])
  apply (mirrors_remove_iff disableAddr_kernel h fun b => by simp).mpr
  simp

theorem enableAddrs_mirrors {s : AddrSettings} (h : AddrMirror s) :
    AddrMirror (addrStep s (.setEnabled true)) := by
  rw [AddrMirror, setAddrEnabled_values]
  change Mirrors (s.addr.values.foldl (setAddrEnabledKernel true) s.kernel) _
  rw [enableAddrs_kernel, mirrors_writeAll_iff h]
  · exact fun _ _ _ _ _ => rfl
  · rintro ⟨k, v⟩
    simp only [disabledAddrs, mem_livePairs, List.mem_map, exists_exists_and_eq_and,
      setAddrEnabled_live, setAddrEnabled_key, ← exists_or]
    apply exists_congr
    intro a
    cases henabled : a.enabled <;> simp [DeviceAddr.live, henabled]

theorem addrStep_mirrors_iff (s : AddrSettings) (op : AddrOp) (h : AddrMirror s) :
    AddrMirror (addrStep s op) ↔ AddrStepOk s op := by
  cases op with
  | updateStart => exact iff_of_true h trivial
  | add a => exact addAddr_mirrors_iff h a
  | updateComplete => exact mirrors_remove_iff removeAddr_kernel h s.addr.mem_values
  | setEnabled enabled =>
    cases enabled with
    | false => exact iff_of_true (disableAddrs_mirrors h) trivial
    | true => exact iff_of_true (enableAddrs_mirrors h) trivial
  | delete a => exact deleteAddr_mirrors_iff h a
  | flush => exact iff_of_true (flushAddrs_mirrors h) trivial

/-- From the start, with no addresses, the kernel has the right addresses in every state of
a run if and only if every step of it is a good one. -/
theorem address_mirror_of_run (enabled : Bool) (ops : List AddrOp) :
    (∀ n, AddrMirror (run addrStep { enabled } (ops.take n))) ↔
      AllOk addrStep AddrStepOk { enabled } ops := by
  have hstart : AddrMirror { enabled } := mirrors_empty
  exact run_property_iff (I := fun _ => True) (fun _ _ => id)
    (fun s op _ => addrStep_mirrors_iff s op) trivial hstart ops

/-- An address that is sent again with another flag: the new one is installed before the old
one is removed, which takes its key out of the kernel. -/
theorem address_mirror_broken : ¬∀ ops, AddrMirror (run addrStep {} ops) := by
  intro h
  have hmirror := h [.updateStart, .add { flags := 0, mask := 24, addr := 1 }, .updateComplete,
    .updateStart, .add { flags := 64, mask := 24, addr := 1 }, .updateComplete]
  have hkernel := (hmirror (false, 1, 24) ()).mpr (by decide)
  revert hkernel
  decide

end Netifd
