import Netifd.RouteMirror

/-!
# Updates that the kernel is not told of

The callbacks of the trees of addresses and routes leave out the kernel where they find nothing
new in an entry, and `system_addr` and `system_rt` say what the kernel would be told.
-/

namespace Netifd
open MirroredTable

/-- A call of `system_add_address` or `system_add_route`, or of the one that deletes. -/
inductive KernelCall (α : Type)
  | add (a : α)
  | del (a : α)

/-- An entry is added. -/
def KernelCall.adds {α : Type} : KernelCall α → Bool
  | .add _ => true
  | .del _ => false

/-- `struct device_addr` with the address at the other end of a point-to-point link. -/
structure PeerAddr extends DeviceAddr where
  pointToPoint : ℕ := 0
  deriving DecidableEq

/-- The address with the broadcast address that it is given if it has none. -/
def PeerAddr.prepared (a : PeerAddr) : PeerAddr :=
  { a with toDeviceAddr := defaultBroadcast a.toDeviceAddr }

/-- The calls of `interface_update_proto_addr`, and the new address after it; `refused` tells
whether the kernel refuses that. -/
def interfaceUpdateProtoAddrCalls (refused : Bool) (nodeNew nodeOld : Option PeerAddr) :
    Option PeerAddr × List (KernelCall PeerAddr) :=
  let aNew := nodeNew.map PeerAddr.prepared
  let keep :=
    match aNew, nodeOld with
    | some aNew, some aOld => keepAddr aOld.toDeviceAddr aNew.toDeviceAddr
    | _, _ => false
  let replace :=
    match aNew, nodeOld with
    | some aNew, some aOld => replaceAddr aOld.toDeviceAddr aNew.toDeviceAddr
    | _, _ => false
  let dels :=
    match nodeOld with
    | some aOld => if aOld.enabled && !keep && !aOld.external then [.del aOld] else []
    | none => []
  match aNew with
  | some aNew =>
    let sent := (!keep || replace) && !aNew.external
    (some { aNew with enabled := true, failed := aNew.failed || (sent && refused) },
      dels ++ if sent then [.add aNew] else [])
  | none => (none, dels)

/-- What the message of `system_addr` says: the header, the attributes, and the two lifetimes of
`IFA_CACHEINFO`. -/
structure AddrMessage where
  v6 : Bool
  prefixlen : ℕ
  local_ : ℕ
  broadcast : Option ℕ := none
  address : Option ℕ := none
  cacheinfo : Option (ℤ × ℤ) := none
  noPrefixRoute : Bool := false
  deriving DecidableEq

def UINT32_MAX : ℤ := 2 ^ 32 - 1

/-- The number is an attribute unless it is zero. -/
def nonzeroAttribute (n : ℕ) : Option ℕ := if n = 0 then none else some n

/-- `ifa_prefered`. -/
def preferredLifetime (now preferredUntil : ℤ) : ℤ :=
  if preferredUntil = 0 then UINT32_MAX else min (max (preferredUntil - now) 0) UINT32_MAX

/-- `ifa_valid`, if it is not over. -/
def validLifetime (now validUntil : ℤ) : Option ℤ :=
  if validUntil = 0 then some UINT32_MAX
  else if validUntil - now ≤ 0 then none
  else some (min (validUntil - now) UINT32_MAX)

/-- `system_addr` for a new address, if a message is sent. -/
def systemAddr (now : ℤ) (a : PeerAddr) : Option AddrMessage :=
  if a.v6 then
    (validLifetime now a.validUntil).map fun valid =>
      { v6 := true
        prefixlen := a.mask
        local_ := a.addr
        cacheinfo := some (preferredLifetime now a.preferredUntil, valid)
        noPrefixRoute := hasFlag a.flags DEVADDR_OFFLINK }
  else
    some
      { v6 := false
        prefixlen := a.mask
        local_ := a.addr
        broadcast := nonzeroAttribute a.broadcast
        address := nonzeroAttribute a.pointToPoint }

/-- The calls as writes to the kernel's table. -/
def applyAddrCall (kernel : AddrTable) : KernelCall PeerAddr → AddrTable
  | .add a => write kernel a.kernelKey ()
  | .del a => erase kernel a.kernelKey

theorem interfaceUpdateProtoAddr_calls (refused : Bool) (nodeNew nodeOld : Option PeerAddr)
    (kernel : AddrTable) :
    (interfaceUpdateProtoAddr (nodeNew.map (·.toDeviceAddr)) (nodeOld.map (·.toDeviceAddr))
      kernel).2 =
      (interfaceUpdateProtoAddrCalls refused nodeNew nodeOld).2.foldl applyAddrCall kernel := by
  cases nodeNew with
  | none =>
    cases nodeOld with
    | none => rfl
    | some old =>
      simp only [interfaceUpdateProtoAddr, interfaceUpdateProtoAddrCalls, Option.map_some,
        Option.map_none]
      split_ifs <;> rfl
  | some new =>
    cases nodeOld with
    | none =>
      simp only [interfaceUpdateProtoAddr, interfaceUpdateProtoAddrCalls, Option.map_some,
        Option.map_none, PeerAddr.prepared]
      split_ifs <;> rfl
    | some old =>
      let keep := keepAddr old.toDeviceAddr new.prepared.toDeviceAddr
      let sent := (!keep || replaceAddr old.toDeviceAddr new.prepared.toDeviceAddr) &&
        !new.prepared.external
      let deleted := old.enabled && !keep && !old.external
      change _ = List.foldl applyAddrCall kernel
        ((if deleted then [.del old] else []) ++ if sent then [.add new.prepared] else [])
      rw [List.foldl_append, apply_ite (List.foldl applyAddrCall kernel),
        apply_ite (List.foldl applyAddrCall _)]
      rfl

/-- The calls of `interface_update_proto_route`, and the new route after it. -/
def interfaceUpdateProtoRouteCalls (iface : RouteParams) (enabled refused : Bool)
    (nodeNew nodeOld : Option DeviceRoute) : Option DeviceRoute × List (KernelCall DeviceRoute) :=
  let keep := keepRoute nodeOld nodeNew
  let dels :=
    match nodeOld with
    | some old => if !old.external && old.enabled && !keep then [.del old] else []
    | none => []
  match nodeNew with
  | some new =>
    let enabled := enableRoute iface enabled new
    let sent := !new.external && !keep && enabled
    (some { new with enabled, failed := new.failed || (sent && refused) },
      dels ++ if sent then [.add new] else [])
  | none => (none, dels)

def RTN_MULTICAST : ℕ := 5
def RTN_BLACKHOLE : ℕ := 6
def RTN_UNREACHABLE : ℕ := 7
def RTN_PROHIBIT : ℕ := 8
def RTN_FAILED_POLICY : ℕ := 12

/-- `enum rt_scope_t`, as far as it is used. -/
inductive RtScope
  | universe | link | host
  deriving DecidableEq

/-- What the message of `system_rt` says. The table is in the header if it is small. -/
structure RouteMessage where
  v6 : Bool
  dstLen : ℕ
  srcLen : ℕ
  headerTable : ℕ
  protocol : ℕ
  scope : RtScope
  type : ℕ
  onlink : Bool
  dst : Option ℕ
  src : Option ℕ
  priority : Option ℤ
  gateway : Option ℕ
  oif : Option ℕ
  table : Option ℕ
  mtu : Option ℕ
  deriving DecidableEq

/-- The route names a table of its own or that of its interface. -/
def DeviceRoute.ownTable (r : DeviceRoute) : Bool :=
  hasFlag r.flags DEVROUTE_TABLE || hasFlag r.flags DEVROUTE_SRCTABLE

/-- The scope of a new route on a device, or on none. -/
def routeScope (dev : Option ℕ) (r : DeviceRoute) : RtScope :=
  let scope :=
    if dev.isNone then .universe else if r.nexthop ≠ 0 then .universe else .link
  if hasFlag r.flags DEVROUTE_TYPE then
    if r.type = RTN_LOCAL ∨ r.type = RTN_NAT then .host
    else if r.type = RTN_BROADCAST ∨ r.type = RTN_MULTICAST ∨ r.type = RTN_ANYCAST then .link
    else if r.type = RTN_BLACKHOLE ∨ r.type = RTN_UNREACHABLE ∨ r.type = RTN_PROHIBIT ∨
      r.type = RTN_FAILED_POLICY then .universe
    else scope
  else scope

/-- The device of the message: a route that drops packets has none. -/
def routeOif (dev : Option ℕ) (r : DeviceRoute) : Option ℕ :=
  if hasFlag r.flags DEVROUTE_TYPE ∧ (r.type = RTN_BLACKHOLE ∨ r.type = RTN_UNREACHABLE ∨
    r.type = RTN_PROHIBIT ∨ r.type = RTN_FAILED_POLICY) then none else dev

/-- `rtm_table`. -/
def routeHeaderTable (r : DeviceRoute) : ℕ :=
  let table := if r.ownTable then r.table else RT_TABLE_MAIN
  if hasFlag r.flags DEVROUTE_TYPE && !r.ownTable &&
    [RTN_LOCAL, RTN_BROADCAST, RTN_NAT, RTN_ANYCAST].contains r.type then RT_TABLE_LOCAL
  else if table < 256 then table else 0

/-- `system_rt` for a new route on a device with this `ifindex`. -/
def systemRt (dev : Option ℕ) (r : DeviceRoute) : RouteMessage where
  v6 := r.v6
  dstLen := r.mask
  srcLen := r.sourcemask
  headerTable := routeHeaderTable r
  protocol := if hasFlag r.flags DEVROUTE_PROTO then r.proto else RTPROT_STATIC
  scope := routeScope dev r
  type :=
    if hasFlag r.flags DEVROUTE_TYPE then r.type
    else if dev.isNone then RTN_UNREACHABLE else RTN_UNICAST
  onlink := hasFlag r.flags DEVROUTE_ONLINK
  dst := if r.mask ≠ 0 then some r.addr else none
  src := if r.sourcemask ≠ 0 then some r.source else none
  priority := if 0 < r.metric then some r.metric else none
  gateway := nonzeroAttribute r.nexthop
  oif := routeOif dev r
  table := if r.ownTable ∧ 256 ≤ r.table then some r.table else none
  mtu := if hasFlag r.flags DEVROUTE_MTU then some r.mtu else none

/-- The calls as writes to the kernel's table. -/
def applyRouteCall (kernel : RouteTable) : KernelCall DeviceRoute → RouteTable
  | .add r => write kernel r.kernelKey r.kernelValue
  | .del r => erase kernel r.kernelKey

theorem interfaceUpdateProtoRoute_calls (iface : RouteParams) (enabled refused : Bool)
    (nodeNew nodeOld : Option DeviceRoute) (kernel : RouteTable) :
    (interfaceUpdateProtoRoute iface enabled nodeNew nodeOld kernel).2 =
      (interfaceUpdateProtoRouteCalls iface enabled refused nodeNew nodeOld).2.foldl
        applyRouteCall kernel := by
  cases nodeNew with
  | none =>
    cases nodeOld with
    | none => rfl
    | some old =>
      simp only [interfaceUpdateProtoRoute, interfaceUpdateProtoRouteCalls]
      split_ifs <;> rfl
  | some new =>
    cases nodeOld with
    | none =>
      simp only [interfaceUpdateProtoRoute, interfaceUpdateProtoRouteCalls]
      split_ifs <;> rfl
    | some old =>
      simp only [interfaceUpdateProtoRoute, interfaceUpdateProtoRouteCalls, List.foldl_append,
        apply_ite (List.foldl applyRouteCall _)]
      rfl

/-- An enabled address gives way to one that the tree takes for the same. -/
structure AddrUpdate where
  old : PeerAddr
  new : PeerAddr
  same : addrCmp new.toDeviceAddr old.toDeviceAddr = 0
  enabled : old.enabled = true

/-- An enabled route gives way to one that the tree takes for the same. -/
structure RouteUpdate where
  old : DeviceRoute
  new : DeviceRoute
  same : routeDiff new old = 0
  enabled : old.enabled = true

/-- What the kernel is to know of an address: nothing, if it is external. -/
def PeerAddr.message (now : ℤ) (a : PeerAddr) : Option AddrMessage :=
  if a.external then none else systemAddr now a

/-- What the kernel is to know of a route: nothing, if it is external or not enabled. -/
def DeviceRoute.message (dev : Option ℕ) (r : DeviceRoute) : Option RouteMessage :=
  if !r.external && r.enabled then some (systemRt dev r) else none

/-- Unless the new address is added, all that would be sent for it would be sent for the old
one. -/
def AddrUpdate.Sound (u : AddrUpdate) : Prop :=
  ∀ refused : Bool,
    let (a, calls) := interfaceUpdateProtoAddrCalls refused (some u.new) (some u.old)
    (∀ call ∈ calls, call.adds = false) →
      ∀ a' ∈ a, ∀ now, ∀ m ∈ a'.message now, u.old.message now = some m

/-- Unless the new route is added, all that would be sent for it would be sent for the old
one. -/
def RouteUpdate.Sound (u : RouteUpdate) : Prop :=
  ∀ (iface : RouteParams) (enabled refused : Bool) (dev : Option ℕ),
    let (r, calls) := interfaceUpdateProtoRouteCalls iface enabled refused (some u.new)
      (some u.old)
    (∀ call ∈ calls, call.adds = false) → ∀ r' ∈ r, ∀ m ∈ r'.message dev, u.old.message dev = some m

/-- The callback adds an address of its own for another reason than its peer. -/
def AddrUpdate.Forced (u : AddrUpdate) : Prop :=
  u.old.failed = true ∨ u.new.v6 = false ∧ u.new.prepared.broadcast ≠ u.old.broadcast ∨
    u.new.validUntil ≠ u.old.validUntil ∨ u.new.preferredUntil ≠ u.old.preferredUntil

theorem defaultBroadcast_same (a : DeviceAddr) :
    (defaultBroadcast a).flags = a.flags ∧ (defaultBroadcast a).mask = a.mask ∧
      (defaultBroadcast a).addr = a.addr ∧ (defaultBroadcast a).validUntil = a.validUntil ∧
      (defaultBroadcast a).preferredUntil = a.preferredUntil := by
  unfold defaultBroadcast
  split_ifs <;> exact ⟨rfl, rfl, rfl, rfl, rfl⟩

theorem AddrUpdate.key (u : AddrUpdate) :
    u.new.flags = u.old.flags ∧ u.new.mask = u.old.mask ∧ u.new.addr = u.old.addr := by
  have hsame := u.same
  unfold addrCmp at hsame
  split_ifs at hsame with hflags hmask
  · exact absurd (memcmp_eq_zero.mp hsame) hflags
  · exact absurd (memcmp_eq_zero.mp hsame) hmask
  · exact ⟨not_not.mp hflags, not_not.mp hmask, memcmp_eq_zero.mp hsame⟩

theorem adds_append_iff {α : Type} (deleted sent : Bool) (a b : α) :
    (∀ call ∈ (if deleted then [KernelCall.del a] else []) ++ if sent then [.add b] else [],
      call.adds = false) ↔ sent = false := by
  cases deleted <;> cases sent <;> simp [KernelCall.adds]

/-- No address is added just if it is external, or nothing forces the callback. -/
theorem AddrUpdate.silent_iff (u : AddrUpdate) (refused : Bool) :
    (∀ call ∈ (interfaceUpdateProtoAddrCalls refused (some u.new) (some u.old)).2,
      call.adds = false) ↔ u.new.external = true ∨ ¬u.Forced := by
  obtain ⟨hflags, -, -, hvalid, hpreferred⟩ := defaultBroadcast_same u.new.toDeviceAddr
  have hv6 : (defaultBroadcast u.new.toDeviceAddr).v6 = u.new.v6 := by
    rw [DeviceAddr.v6, hflags, DeviceAddr.v6]
  have hkeep : keepAddr u.old.toDeviceAddr u.new.prepared.toDeviceAddr = true ↔
      u.old.failed = false ∧
        ¬(u.new.v6 = false ∧ u.new.prepared.broadcast ≠ u.old.broadcast) := by
    cases hnew : u.new.v6 with
    | true => simp [keepAddr, PeerAddr.prepared, hv6, hnew, hflags, u.key.1]
    | false => simp [keepAddr, PeerAddr.prepared, hv6, hnew, hflags, u.key.1]
  have hreplace : replaceAddr u.old.toDeviceAddr u.new.prepared.toDeviceAddr = false ↔
      u.new.validUntil = u.old.validUntil ∧ u.new.preferredUntil = u.old.preferredUntil := by
    simp only [replaceAddr, PeerAddr.prepared, hvalid, hpreferred, Bool.or_eq_false_iff,
      bne_eq_false_iff_eq]
    exact and_congr eq_comm eq_comm
  have hexternal : u.new.prepared.external = u.new.external := by
    simp [PeerAddr.prepared, DeviceAddr.external, hflags]
  have hcalls : (∀ call ∈ (interfaceUpdateProtoAddrCalls refused (some u.new) (some u.old)).2,
      call.adds = false) ↔
      ((!keepAddr u.old.toDeviceAddr u.new.prepared.toDeviceAddr ||
        replaceAddr u.old.toDeviceAddr u.new.prepared.toDeviceAddr) &&
          !u.new.prepared.external) = false := adds_append_iff _ _ _ _
  have hforced : ¬u.Forced ↔ keepAddr u.old.toDeviceAddr u.new.prepared.toDeviceAddr = true ∧
      replaceAddr u.old.toDeviceAddr u.new.prepared.toDeviceAddr = false := by
    rw [hkeep, hreplace, AddrUpdate.Forced]
    simp only [not_or, not_not, Bool.not_eq_true, and_assoc]
  rw [hcalls, hexternal, hforced]
  simp only [Bool.and_eq_false_iff, Bool.or_eq_false_iff, Bool.not_eq_false', or_comm]

theorem nonzeroAttribute_inj {a b : ℕ} (h : nonzeroAttribute a = nonzeroAttribute b) : a = b := by
  unfold nonzeroAttribute at h
  split_ifs at h with ha hb
  · exact ha.trans hb.symm
  · exact Option.some.inj h

theorem AddrUpdate.message_eq (u : AddrUpdate) (hforced : ¬u.Forced)
    (hpeer : u.new.v6 = true ∨ u.new.pointToPoint = u.old.pointToPoint) (now : ℤ) :
    u.new.prepared.message now = u.old.message now := by
  obtain ⟨hflags, hmask, haddr, hvalid, hpreferred⟩ := defaultBroadcast_same u.new.toDeviceAddr
  obtain ⟨huflags, humask, huaddr⟩ := u.key
  simp only [AddrUpdate.Forced, not_or, not_and, not_not] at hforced
  obtain ⟨-, hbroadcast, huvalid, hupreferred⟩ := hforced
  have hexternal : u.new.prepared.external = u.old.external := by
    simp only [PeerAddr.prepared, DeviceAddr.external, hflags, huflags]
  have hv6 : u.new.prepared.v6 = u.old.v6 := by
    simp only [PeerAddr.prepared, DeviceAddr.v6, hflags, huflags]
  have hnew : u.new.v6 = u.old.v6 := by simp only [DeviceAddr.v6, huflags]
  have hsame : systemAddr now u.new.prepared = systemAddr now u.old := by
    unfold systemAddr
    rw [hv6]
    cases hold : u.old.v6 with
    | true =>
      simp only [if_true, PeerAddr.prepared, hflags, huflags, hmask, humask, haddr, huaddr, hvalid,
        huvalid, hpreferred, hupreferred]
    | false =>
      have hpeer : u.new.pointToPoint = u.old.pointToPoint :=
        hpeer.resolve_left (by simp [hnew, hold])
      have hbroadcast : u.new.prepared.broadcast = u.old.broadcast :=
        hbroadcast (hnew.trans hold)
      simp only [Bool.false_eq_true, if_false, hbroadcast]
      simp only [PeerAddr.prepared, hmask, humask, haddr, huaddr, hpeer]
  rw [PeerAddr.message, PeerAddr.message, hexternal, hsame]

theorem pointToPoint_eq {now : ℤ} {a b : PeerAddr} (ha : a.v6 = false) (hb : b.v6 = false)
    (h : systemAddr now a = systemAddr now b) : a.pointToPoint = b.pointToPoint := by
  simp only [systemAddr, ha, hb, Bool.false_eq_true, if_false, Option.some.injEq,
    AddrMessage.mk.injEq] at h
  exact nonzeroAttribute_inj h.2.2.2.2.1

theorem AddrUpdate.sound_iff (u : AddrUpdate) :
    u.Sound ↔ u.new.v6 = true ∨ u.new.external = true ∨
      u.new.pointToPoint = u.old.pointToPoint ∨ u.Forced := by
  constructor
  · intro hsound
    by_contra hcond
    simp only [not_or, Bool.not_eq_true] at hcond
    obtain ⟨hv6, hexternal, hpeer, hforced⟩ := hcond
    have hsilent := (u.silent_iff false).mpr (Or.inr hforced)
    have hflags := (defaultBroadcast_same u.new.toDeviceAddr).1
    have hprepared : u.new.prepared.external = false := by
      simpa only [PeerAddr.prepared, DeviceAddr.external, hflags] using hexternal
    have hv6' : u.new.prepared.v6 = false := by
      simpa only [PeerAddr.prepared, DeviceAddr.v6, hflags] using hv6
    have hold : u.old.external = false := by
      simpa only [DeviceAddr.external, u.key.1] using hexternal
    have hv6Old : u.old.v6 = false := by simpa only [DeviceAddr.v6, u.key.1] using hv6
    have hmessage : systemAddr 0 u.new.prepared = u.new.prepared.message 0 := by
      rw [PeerAddr.message, hprepared]
      rfl
    obtain ⟨m, hm⟩ : ∃ m, systemAddr 0 u.new.prepared = some m := by
      rw [systemAddr, hv6']
      exact ⟨_, rfl⟩
    have hsame : u.old.message 0 = some m :=
      hsound false hsilent _ rfl 0 m (hmessage.symm.trans hm)
    rw [PeerAddr.message, hold] at hsame
    have hpeerEq : u.new.prepared.pointToPoint = u.old.pointToPoint :=
      pointToPoint_eq hv6' hv6Old (hm.trans hsame.symm)
    exact hpeer hpeerEq
  · intro hcond refused hsilent a ha now m hm
    obtain rfl : _ = a := Option.some.inj ha
    have hm : u.new.prepared.message now = some m := hm
    have hflags := (defaultBroadcast_same u.new.toDeviceAddr).1
    have hexternal : u.new.external = false := by
      cases hexternal : u.new.external with
      | false => rfl
      | true =>
        have hprepared : u.new.prepared.external = true := by
          simpa only [PeerAddr.prepared, DeviceAddr.external, hflags] using hexternal
        simp [PeerAddr.message, hprepared] at hm
    have hforced := ((u.silent_iff refused).mp hsilent).resolve_left (by simp [hexternal])
    have hpeer : u.new.v6 = true ∨ u.new.pointToPoint = u.old.pointToPoint := by
      simpa [hexternal, hforced] using hcond
    rw [← u.message_eq hforced hpeer now, hm]

theorem RouteUpdate.sound (u : RouteUpdate) : u.Sound := by
  intro iface enabled refused dev hsilent r hr m hm
  obtain rfl : _ = r := Option.some.inj hr
  obtain ⟨hflags, hmetric, htable, hmask, hsourcemask, haddr, hsource⟩ := routeDiff_eq_zero u.same
  have hsent : (!u.new.external && !keepRoute (some u.old) (some u.new) &&
      enableRoute iface enabled u.new) = false := (adds_append_iff _ _ _ _).mp hsilent
  have hm : (if !u.new.external && enableRoute iface enabled u.new then some (systemRt dev u.new)
      else none) = some m := hm
  have hlive : (!u.new.external && enableRoute iface enabled u.new) = true := by
    by_contra hlive
    rw [if_neg hlive] at hm
    cases hm
  obtain ⟨hexternal, henable⟩ := Bool.and_eq_true_iff.mp hlive
  have hkeep : keepRoute (some u.old) (some u.new) = true := by
    simpa [hexternal, henable] using hsent
  simp only [keepRoute, Bool.and_eq_true, beq_iff_eq] at hkeep
  obtain ⟨⟨⟨⟨hnexthop, hmtu⟩, htype⟩, hproto⟩, -⟩ := hkeep
  rw [if_pos hlive] at hm
  have hold : (!u.old.external && u.old.enabled) = true := by
    simpa only [DeviceRoute.external, hflags, u.enabled, Bool.and_true] using hexternal
  have hnew : u.new = { u.old with enabled := u.new.enabled, failed := u.new.failed } := by
    simp only [← hflags, ← hmetric, ← htable, ← hmask, ← hsourcemask, ← haddr, ← hsource, hnexthop,
      hmtu, htype, hproto]
  rw [DeviceRoute.message, if_pos hold, ← hm, hnew]
  rfl

/-- What is skipped is what the kernel has, but for the address at the other end of a
point-to-point link. -/
theorem skipped_update_sound_iff (u : AddrUpdate) (r : RouteUpdate) :
    (u.Sound ↔ u.new.v6 = true ∨ u.new.external = true ∨
      u.new.pointToPoint = u.old.pointToPoint ∨ u.Forced) ∧ r.Sound :=
  ⟨u.sound_iff, r.sound⟩

/-- The other end of the link gets a new address, and the kernel is not told. -/
theorem peer_change_skipped : ¬∀ u : AddrUpdate, u.Sound := by
  intro hsound
  let a : PeerAddr :=
    { enabled := true, broadcast := 4294967295, flags := 0, mask := 32, addr := 10
      pointToPoint := 11 }
  let b : PeerAddr := { a with pointToPoint := 12 }
  have hcond := (AddrUpdate.sound_iff ⟨a, b, by decide, rfl⟩).mp (hsound _)
  revert hcond
  unfold AddrUpdate.Forced
  decide

end Netifd
