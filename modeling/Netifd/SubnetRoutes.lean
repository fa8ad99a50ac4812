import Netifd.RouteMirror

/-!
# The subnet routes of addresses

Where an interface has a metric or a routing table, `interface_handle_subnet_route` installs a
route for the subnet of each address and records it in the address. The record goes where the
address goes: an address that is sent again comes without one.
-/

namespace Netifd
open MirroredTable GuardedRuns

def RTPROT_KERNEL : ℕ := 2

/-- `struct device_addr` with its route `subnet`, if that is set. -/
structure SubnetAddr extends DeviceAddr where
  subnet : Option DeviceRoute := none
  deriving DecidableEq

def clearIfAddr (v6 : Bool) (addr mask : ℕ) : ℕ :=
  let host := 2 ^ ((if v6 then 128 else 32) - mask)
  addr / host * host

/-- The flags without `DEVROUTE_PROTO`. -/
def clearProto (flags : ℕ) : ℕ :=
  if hasFlag flags DEVROUTE_PROTO then flags - 2 ^ DEVROUTE_PROTO else flags

/-- `iface->metric || addr->policy_table`, with the table that the address has been given. -/
def explicitSubnet (iface : RouteParams) (a : DeviceAddr) : Bool :=
  iface.metric != 0 || (if a.v6 then iface.ip6table else iface.ip4table) != 0

namespace SubnetAddr

def offlink (a : SubnetAddr) : Bool := hasFlag a.flags DEVADDR_OFFLINK

/-- `addr->subnet` as it is when a route is installed, on top of what it was. -/
def subnetRoute (iface : RouteParams) (a : SubnetAddr) : DeviceRoute :=
  interfaceSetRouteInfo iface
    { a.subnet.getD { flags := 0, mask := 0 } with
      flags := clearProto a.flags
      mask := a.mask
      addr := clearIfAddr a.v6 a.addr a.mask
      proto := RTPROT_KERNEL }

end SubnetAddr

/-- The subnet routes that the kernel has. -/
abbrev SubnetTable := Table RouteKey Unit

/-- `interface_handle_subnet_route`: what it leaves in the address. -/
def interfaceHandleSubnetRoute (iface : RouteParams) (a : SubnetAddr) (add : Bool) : SubnetAddr :=
  if a.offlink then a
  else if !add then { a with subnet := none }
  else { a with subnet := some (a.subnetRoute iface) }

/-- What it does to the kernel; the route that it deletes before it adds its own is the one
that the kernel makes by itself. -/
def handleSubnetRouteKernel (iface : RouteParams) (a : SubnetAddr) (add : Bool)
    (kernel : SubnetTable) : SubnetTable :=
  if a.offlink then kernel
  else if !add then
    match a.subnet with
    | none => kernel
    | some r => erase kernel r.kernelKey
  else write kernel (a.subnetRoute iface).kernelKey ()

/-- `interface_update_proto_addr`, as far as it concerns subnet routes. -/
def interfaceUpdateSubnet (iface : RouteParams) (nodeNew nodeOld : Option SubnetAddr)
    (kernel : SubnetTable) : Option SubnetAddr × SubnetTable :=
  let aNew := nodeNew.map fun a => { a with toDeviceAddr := defaultBroadcast a.toDeviceAddr }
  let keep :=
    match aNew, nodeOld with
    | some aNew, some aOld => keepAddr aOld.toDeviceAddr aNew.toDeviceAddr
    | _, _ => false
  let replace :=
    match aNew, nodeOld with
    | some aNew, some aOld => replaceAddr aOld.toDeviceAddr aNew.toDeviceAddr
    | _, _ => false
  let kernel :=
    match nodeOld with
    | some aOld =>
      if aOld.enabled && !keep && !aOld.external then
        handleSubnetRouteKernel iface aOld false kernel
      else kernel
    | none => kernel
  match aNew with
  | some aNew =>
    let aNew := { aNew with enabled := true }
    if (!keep || replace) && !aNew.external && explicitSubnet iface aNew.toDeviceAddr then
      (some (interfaceHandleSubnetRoute iface aNew true),
        handleSubnetRouteKernel iface aNew true kernel)
    else (some aNew, kernel)
  | none => (none, kernel)

/-- One step of the loop of `interface_ip_set_enabled` over the addresses: the address after
it, and what happens to the kernel. -/
def setSubnetEnabled (iface : RouteParams) (enabled : Bool) (a : SubnetAddr) : SubnetAddr :=
  if a.external || a.enabled == enabled then a
  else if enabled then
    if explicitSubnet iface a.toDeviceAddr then
      { interfaceHandleSubnetRoute iface a true with enabled }
    else { a with enabled }
  else { interfaceHandleSubnetRoute iface a false with enabled }

def setSubnetEnabledKernel (iface : RouteParams) (enabled : Bool) (kernel : SubnetTable)
    (a : SubnetAddr) : SubnetTable :=
  if a.external || a.enabled == enabled then kernel
  else if enabled then
    if explicitSubnet iface a.toDeviceAddr then handleSubnetRouteKernel iface a true kernel
    else kernel
  else handleSubnetRouteKernel iface a false kernel

/-- The order of the tree of addresses. -/
def subnetCmp (k1 k2 : SubnetAddr) : ℤ := addrCmp k1.toDeviceAddr k2.toDeviceAddr

/-- The addresses of `struct interface_ip_settings`, and the kernel's subnet routes. -/
structure SubnetSettings where
  enabled : Bool := true
  addr : Vlist SubnetAddr := {}
  kernel : SubnetTable := fun _ => none

/-- An address as it comes out of `calloc`. -/
def freshSubnet (a : DeviceAddr) : SubnetAddr := { toDeviceAddr := freshAddr a }

/-- The operations of the tree of addresses, on subnet routes. -/
def subnetStep (iface : RouteParams) (s : SubnetSettings) : AddrOp → SubnetSettings
  | .updateStart => { s with addr := s.addr.startUpdate }
  | .add a =>
    let (addr, kernel) := s.addr.add subnetCmp (interfaceUpdateSubnet iface) (freshSubnet a)
      s.kernel
    { s with addr, kernel }
  | .updateComplete =>
    let (addr, kernel) := s.addr.flush (interfaceUpdateSubnet iface) s.kernel
    { s with addr, kernel }
  | .setEnabled enabled =>
    { enabled
      addr :=
        { s.addr with
          nodes := s.addr.nodes.map fun n =>
            { n with value := setSubnetEnabled iface enabled n.value } }
      kernel := s.addr.values.foldl (setSubnetEnabledKernel iface enabled) s.kernel }
  | .delete a =>
    let (addr, kernel) := s.addr.delete subnetCmp (interfaceUpdateSubnet iface)
      { toDeviceAddr := a } s.kernel
    { s with addr, kernel }
  | .flush =>
    let (addr, kernel) := s.addr.flushAll (interfaceUpdateSubnet iface) s.kernel
    { s with addr, kernel }

/-- The address is meant to have an explicit subnet route in the kernel. -/
def SubnetAddr.routed (iface : RouteParams) (a : SubnetAddr) : Bool :=
  a.live && !a.offlink && explicitSubnet iface a.toDeviceAddr

/-- The key of its route. -/
def SubnetAddr.routeKey (iface : RouteParams) (a : SubnetAddr) : RouteKey :=
  (SubnetAddr.subnetRoute iface { a with subnet := none }).kernelKey

/-- The keys of the routes of all addresses that are meant to have one. -/
abbrev subnetRoutes (iface : RouteParams) : List SubnetAddr → List (RouteKey × Unit) :=
  livePairs (SubnetAddr.routed iface) (SubnetAddr.routeKey iface) fun _ => ()

/-- The kernel has exactly the subnet routes of the addresses that are enabled, neither
off-link nor external. -/
def SubnetMirror (iface : RouteParams) (s : SubnetSettings) : Prop :=
  Mirrors s.kernel (subnetRoutes iface s.addr.values)

/-- A route that is recorded is that of the address, which is meant to have one. -/
def SubnetAddr.Recorded (iface : RouteParams) (a : SubnetAddr) : Prop :=
  ∀ r, a.subnet = some r → a.routed iface = true ∧
    r = SubnetAddr.subnetRoute iface { a with subnet := none }

def SubnetsRecorded (iface : RouteParams) (s : SubnetSettings) : Prop :=
  ∀ a ∈ s.addr.values, a.Recorded iface

theorem subnetCmp_eq_zero {a b : SubnetAddr} (h : subnetCmp a b = 0) :
    a.flags = b.flags ∧ a.mask = b.mask ∧ a.addr = b.addr := by
  unfold subnetCmp addrCmp at h
  split_ifs at h with hflags hmask
  · exact absurd (memcmp_eq_zero.mp h) hflags
  · exact absurd (memcmp_eq_zero.mp h) hmask
  · exact ⟨not_not.mp hflags, not_not.mp hmask, memcmp_eq_zero.mp h⟩

theorem subnetRoute_congr (iface : RouteParams) {a b : SubnetAddr} (hflags : a.flags = b.flags)
    (hmask : a.mask = b.mask) (haddr : a.addr = b.addr) (hsubnet : a.subnet = b.subnet) :
    a.subnetRoute iface = b.subnetRoute iface := by
  simp only [SubnetAddr.subnetRoute, DeviceAddr.v6, hflags, hmask, haddr, hsubnet]

theorem routeKey_congr (iface : RouteParams) {a b : SubnetAddr} (hflags : a.flags = b.flags)
    (hmask : a.mask = b.mask) (haddr : a.addr = b.addr) : a.routeKey iface = b.routeKey iface := by
  simp only [SubnetAddr.routeKey, SubnetAddr.subnetRoute, DeviceAddr.v6, hflags, hmask, haddr,
    Option.getD_none]

/-- The address may have an explicit subnet route in the kernel while it is enabled. -/
def SubnetAddr.routable (iface : RouteParams) (a : SubnetAddr) : Bool :=
  !a.external && !a.offlink && explicitSubnet iface a.toDeviceAddr

theorem routed_eq (iface : RouteParams) (a : SubnetAddr) :
    a.routed iface = (a.enabled && a.routable iface) := by
  simp only [SubnetAddr.routed, SubnetAddr.routable, DeviceAddr.live, Bool.and_assoc]

theorem routable_congr (iface : RouteParams) {a b : SubnetAddr} (hflags : a.flags = b.flags) :
    a.routable iface = b.routable iface := by
  have hv6 : a.v6 = b.v6 := by simp only [DeviceAddr.v6, hflags]
  have hexternal : a.external = b.external := by simp only [DeviceAddr.external, hflags]
  simp only [SubnetAddr.routable, SubnetAddr.offlink, explicitSubnet, hflags, hv6, hexternal]

theorem subnetRoute_again (iface : RouteParams) (a : SubnetAddr) :
    SubnetAddr.subnetRoute iface
        { a with subnet := some (SubnetAddr.subnetRoute iface { a with subnet := none }) } =
      SubnetAddr.subnetRoute iface { a with subnet := none } := by
  simp only [SubnetAddr.subnetRoute, Option.getD_some, Option.getD_none, interfaceSetRouteInfo,
    setRouteMetric, setRouteTable]
  cases hmetric : hasFlag (clearProto a.flags) DEVROUTE_METRIC <;>
    cases htable : hasFlag (clearProto a.flags) DEVROUTE_TABLE <;>
    simp [htable, DeviceRoute.v6]

theorem SubnetAddr.Recorded.subnetRoute {iface : RouteParams} {a : SubnetAddr}
    (h : a.Recorded iface) :
    a.subnetRoute iface = SubnetAddr.subnetRoute iface { a with subnet := none } := by
  cases hsubnet : a.subnet with
  | none => exact subnetRoute_congr iface rfl rfl rfl hsubnet
  | some r =>
    rw [← subnetRoute_again iface a, ← (h r hsubnet).2]
    exact subnetRoute_congr iface rfl rfl rfl hsubnet

/-- Whether the route of the address is recorded. -/
def SubnetAddr.isRecorded (a : SubnetAddr) : Bool := a.subnet.isSome

theorem deleteSubnet_kernel {iface : RouteParams} {a : SubnetAddr} (h : a.Recorded iface)
    (kernel : SubnetTable) : handleSubnetRouteKernel iface a false kernel =
      if a.isRecorded then erase kernel (a.routeKey iface) else kernel := by
  unfold handleSubnetRouteKernel SubnetAddr.isRecorded
  cases hsubnet : a.subnet with
  | none => simp
  | some r =>
    obtain ⟨hrouted, rfl⟩ := h r hsubnet
    have honlink : a.offlink = false := by
      simp only [SubnetAddr.routed, Bool.and_eq_true, Bool.not_eq_true'] at hrouted
      exact hrouted.1.2
    simp [honlink, SubnetAddr.routeKey]

theorem SubnetAddr.Recorded.live {iface : RouteParams} {a : SubnetAddr} (h : a.Recorded iface)
    (hrec : a.isRecorded = true) : a.routed iface = true := by
  obtain ⟨r, hr⟩ := Option.isSome_iff_exists.mp hrec
  exact (h r hr).1

theorem removeSubnet_kernel {iface : RouteParams} {old : SubnetAddr} (h : old.Recorded iface)
    (kernel : SubnetTable) : (interfaceUpdateSubnet iface none (some old) kernel).2 =
      if old.isRecorded then erase kernel (old.routeKey iface) else kernel := by
  have hunfold : (interfaceUpdateSubnet iface none (some old) kernel).2 =
      if old.enabled && !old.external then handleSubnetRouteKernel iface old false kernel
      else kernel := by simp [interfaceUpdateSubnet]
  rw [hunfold, deleteSubnet_kernel h]
  cases hrec : old.isRecorded with
  | false => simp
  | true =>
    have hrouted := h.live hrec
    rw [routed_eq, SubnetAddr.routable] at hrouted
    simp only [Bool.and_eq_true, Bool.not_eq_true'] at hrouted
    simp [hrouted.1, hrouted.2.1.1]

theorem disableSubnet_kernel {iface : RouteParams} {a : SubnetAddr} (h : a.Recorded iface)
    (kernel : SubnetTable) : setSubnetEnabledKernel iface false kernel a =
      if a.isRecorded then erase kernel (a.routeKey iface) else kernel := by
  have hunfold : setSubnetEnabledKernel iface false kernel a =
      if a.external || !a.enabled then kernel
      else handleSubnetRouteKernel iface a false kernel := by simp [setSubnetEnabledKernel]
  rw [hunfold, deleteSubnet_kernel h]
  cases hrec : a.isRecorded with
  | false => simp
  | true =>
    have hrouted := h.live hrec
    rw [routed_eq, SubnetAddr.routable] at hrouted
    simp only [Bool.and_eq_true, Bool.not_eq_true'] at hrouted
    simp [hrouted.1, hrouted.2.1.1]

theorem foldl_removeRecorded {iface : RouteParams} {f : SubnetTable → SubnetAddr → SubnetTable}
    {l : List SubnetAddr} (hf : ∀ kernel, ∀ a ∈ l, f kernel a =
      if a.isRecorded then erase kernel (a.routeKey iface) else kernel) (kernel : SubnetTable) :
    l.foldl f kernel =
      ((l.filter SubnetAddr.isRecorded).map (SubnetAddr.routeKey iface)).foldl erase kernel := by
  rw [List.foldl_ext f _ kernel hf]
  exact foldl_remove (fun _ _ => rfl) kernel l

/-- The route of each address that goes is recorded, and shared with no address that stays, or
else it is not recorded and shared with one that stays, or that goes and has it recorded. -/
def RemovalOk (iface : RouteParams) (gone kept : List SubnetAddr) : Prop :=
  ∀ a ∈ gone, a.routed iface = true →
    (a.isRecorded = true → ∀ b ∈ kept, b.routed iface = true →
      b.routeKey iface ≠ a.routeKey iface) ∧
    (a.isRecorded = false →
      (∃ b ∈ gone, b.isRecorded = true ∧ b.routeKey iface = a.routeKey iface) ∨
      ∃ b ∈ kept, b.routed iface = true ∧ b.routeKey iface = a.routeKey iface)

theorem removeSubnets_mirrors_iff {iface : RouteParams} {s : SubnetSettings}
    (hrecorded : SubnetsRecorded iface s) (h : SubnetMirror iface s)
    {f : SubnetTable → SubnetAddr → SubnetTable} {gone kept : List SubnetAddr}
    (hl : ∀ a, a ∈ s.addr.values ↔ a ∈ gone ∨ a ∈ kept)
    (hf : ∀ kernel, ∀ a, a.Recorded iface → f kernel a =
      if a.isRecorded then erase kernel (a.routeKey iface) else kernel) :
    Mirrors (gone.foldl f s.kernel) (subnetRoutes iface kept) ↔ RemovalOk iface gone kept := by
  have hgone : ∀ a ∈ gone, a.Recorded iface := fun a ha => hrecorded a ((hl a).mpr (.inl ha))
  rw [foldl_removeRecorded fun kernel a ha => hf kernel a (hgone a ha)]
  exact mirrors_removeRecorded_iff h (fun a ha => (hrecorded a ha).live) hl

/-- A new address without a record. -/
def bareSubnet (a : DeviceAddr) : SubnetAddr := { toDeviceAddr := addedAddr a }

/-- A new address in the form that it has after the callback. -/
def addedSubnet (iface : RouteParams) (a : DeviceAddr) (silent : Bool) : SubnetAddr :=
  if !silent && (freshSubnet a).routable iface then
    { bareSubnet a with subnet := some ((bareSubnet a).subnetRoute iface) }
  else bareSubnet a

theorem addedAddr_flags (a : DeviceAddr) :
    (addedAddr a).flags = a.flags ∧ (addedAddr a).mask = a.mask ∧ (addedAddr a).addr = a.addr := by
  unfold addedAddr defaultBroadcast freshAddr
  split_ifs <;> exact ⟨rfl, rfl, rfl⟩

theorem addedSubnet_addr (iface : RouteParams) (a : DeviceAddr) (silent : Bool) :
    (addedSubnet iface a silent).toDeviceAddr = addedAddr a := by
  unfold addedSubnet
  split_ifs <;> rfl

theorem addedSubnet_routed (iface : RouteParams) (a : DeviceAddr) (silent : Bool) :
    (addedSubnet iface a silent).routed iface = (freshSubnet a).routable iface := by
  have haddr := addedSubnet_addr iface a silent
  have hflags : (addedSubnet iface a silent).flags = (freshSubnet a).flags := by
    rw [haddr, (addedAddr_flags a).1]
    rfl
  have henabled : (addedSubnet iface a silent).enabled = true := by rw [haddr]; rfl
  rw [routed_eq, routable_congr iface hflags, henabled, Bool.true_and]

theorem addedSubnet_key (iface : RouteParams) (a : DeviceAddr) (silent : Bool) :
    (addedSubnet iface a silent).routeKey iface = (freshSubnet a).routeKey iface := by
  obtain ⟨hflags, hmask, haddr⟩ := addedAddr_flags a
  apply routeKey_congr
  · rw [addedSubnet_addr, hflags]
    rfl
  · rw [addedSubnet_addr, hmask]
    rfl
  · rw [addedSubnet_addr, haddr]
    rfl

theorem addedSubnet_recorded (iface : RouteParams) (a : DeviceAddr) (silent : Bool) :
    (addedSubnet iface a silent).Recorded iface := by
  intro r hr
  have hrouted := addedSubnet_routed iface a silent
  unfold addedSubnet at hr hrouted ⊢
  split_ifs at hr hrouted ⊢ with hnew
  · obtain rfl := Option.some.inj hr
    simp only [Bool.and_eq_true] at hnew
    exact ⟨hrouted.trans hnew.2, rfl⟩
  · cases hr

/-- The address is kept without a word to the kernel, and without its record. -/
def keptUnrecorded (a : DeviceAddr) (old : Option SubnetAddr) : Bool :=
  keptSilently a (old.map (·.toDeviceAddr))

/-- A new address that is not kept silently gets its route and records it. -/
theorem addSubnet_spec (iface : RouteParams) (a : DeviceAddr) {old : Option SubnetAddr}
    (kernel : SubnetTable)
    (hold : ∀ o, old = some o → subnetCmp (freshSubnet a) o = 0 ∧ o.Recorded iface) :
    interfaceUpdateSubnet iface (some (freshSubnet a)) old kernel =
      (some (addedSubnet iface a (keptUnrecorded a old)),
        if !keptUnrecorded a old && (freshSubnet a).routable iface then
          write kernel ((freshSubnet a).routeKey iface) ()
        else kernel) := by
  have hkey : (bareSubnet a).routeKey iface = (freshSubnet a).routeKey iface := by
    obtain ⟨hflags, hmask, haddr⟩ := addedAddr_flags a
    exact routeKey_congr iface hflags hmask haddr
  have hroutable : (bareSubnet a).routable iface = (freshSubnet a).routable iface :=
    routable_congr iface (addedAddr_flags a).1
  -- what is done for an address that is not kept silently
  have hadd : ∀ kernel : SubnetTable,
      (if !(bareSubnet a).external && explicitSubnet iface (bareSubnet a).toDeviceAddr then
          (some (interfaceHandleSubnetRoute iface (bareSubnet a) true),
            handleSubnetRouteKernel iface (bareSubnet a) true kernel)
        else (some (bareSubnet a), kernel)) =
      (some (addedSubnet iface a false), if (freshSubnet a).routable iface then
        write kernel ((freshSubnet a).routeKey iface) () else kernel) := by
    intro kernel
    rw [← hroutable, ← hkey]
    unfold addedSubnet
    rw [← hroutable]
    unfold SubnetAddr.routable interfaceHandleSubnetRoute handleSubnetRouteKernel
    cases (bareSubnet a).external <;> cases (bareSubnet a).offlink <;>
      cases explicitSubnet iface (bareSubnet a).toDeviceAddr <;> simp [SubnetAddr.routeKey]
    all_goals rfl
  cases old with
  | none => exact hadd kernel
  | some o =>
    obtain ⟨hcmp, hrecorded⟩ := hold o rfl
    obtain ⟨hflags, hmask, haddr⟩ := subnetCmp_eq_zero hcmp
    have hkeyOld : o.routeKey iface = (freshSubnet a).routeKey iface :=
      (routeKey_congr iface hflags hmask haddr).symm
    have hroutableOld : o.routable iface = (freshSubnet a).routable iface :=
      (routable_congr iface hflags).symm
    have hremoved := removeSubnet_kernel hrecorded kernel
    cases hkeep : keepAddr o.toDeviceAddr (defaultBroadcast (freshAddr a)) with
    | false =>
      have hsilent : keptUnrecorded a (some o) = false := by
        simp [keptUnrecorded, keptSilently, hkeep]
      have hstep : interfaceUpdateSubnet iface (some (freshSubnet a)) (some o) kernel =
          if !(bareSubnet a).external && explicitSubnet iface (bareSubnet a).toDeviceAddr then
            (some (interfaceHandleSubnetRoute iface (bareSubnet a) true),
              handleSubnetRouteKernel iface (bareSubnet a) true
                (interfaceUpdateSubnet iface none (some o) kernel).2)
          else (some (bareSubnet a), (interfaceUpdateSubnet iface none (some o) kernel).2) := by
        simp [interfaceUpdateSubnet, freshSubnet, hkeep]
        rfl
      rw [hstep, hadd, hremoved, hsilent, hkeyOld]
      cases hroutable' : (freshSubnet a).routable iface with
      | true =>
        cases o.isRecorded <;> simp [write_erase]
      | false =>
        have hunrec : o.isRecorded = false := by
          rw [← Bool.not_eq_true]
          intro hrec
          have hrouted := hrecorded.live hrec
          rw [routed_eq, hroutableOld, hroutable'] at hrouted
          simp at hrouted
        simp [hunrec]
    | true =>
      cases hreplace : replaceAddr o.toDeviceAddr (defaultBroadcast (freshAddr a)) with
      | true =>
        have hsilent : keptUnrecorded a (some o) = false := by
          simp [keptUnrecorded, keptSilently, hkeep, hreplace]
        have hstep : interfaceUpdateSubnet iface (some (freshSubnet a)) (some o) kernel =
            if !(bareSubnet a).external && explicitSubnet iface (bareSubnet a).toDeviceAddr then
              (some (interfaceHandleSubnetRoute iface (bareSubnet a) true),
                handleSubnetRouteKernel iface (bareSubnet a) true kernel)
            else (some (bareSubnet a), kernel) := by
          simp [interfaceUpdateSubnet, freshSubnet, hkeep, hreplace]
          rfl
        rw [hstep, hadd, hsilent]
        rfl
      | false =>
        have hsilent : keptUnrecorded a (some o) = true := by
          simp [keptUnrecorded, keptSilently, hkeep, hreplace]
        have hbare : addedSubnet iface a true = bareSubnet a := by simp [addedSubnet]
        rw [hsilent, hbare]
        simp [interfaceUpdateSubnet, freshSubnet, hkeep, hreplace]
        rfl

/-- The steps that keep the kernel in line: a disabled address is not kept silently unless its
route is there for another one, and what goes leaves no route that is not recorded and takes
none that another address has, too. -/
def SubnetStepOk (iface : RouteParams) (s : SubnetSettings) : AddrOp → Prop
  | .add a => ∀ old, s.addr.find subnetCmp (freshSubnet a) = some old →
      keptUnrecorded a (some old) = true → old.enabled = false →
      (freshSubnet a).routable iface = true →
      ∃ b ∈ (s.addr.erase subnetCmp (freshSubnet a)).values, b.routed iface = true ∧
        b.routeKey iface = (freshSubnet a).routeKey iface
  | .delete a => ∀ old, s.addr.find subnetCmp { toDeviceAddr := a } = some old →
      RemovalOk iface [old] (s.addr.erase subnetCmp { toDeviceAddr := a }).values
  | .updateComplete => RemovalOk iface s.addr.staleValues s.addr.keptValues
  | .setEnabled false => RemovalOk iface s.addr.values []
  | .flush => RemovalOk iface s.addr.values []
  | _ => True

theorem find_recorded {iface : RouteParams} {s : SubnetSettings} (h : SubnetsRecorded iface s)
    {a : SubnetAddr} (old : SubnetAddr) (hold : s.addr.find subnetCmp a = some old) :
    subnetCmp a old = 0 ∧ old.Recorded iface := by
  obtain ⟨hcmp, hperm⟩ := Vlist.find_some subnetCmp hold
  exact ⟨hcmp, h old (hperm.symm.subset List.mem_cons_self)⟩

theorem addSubnet_values {iface : RouteParams} {s : SubnetSettings} (h : SubnetsRecorded iface s)
    (a : DeviceAddr) : (subnetStep iface s (.add a)).addr.values.Perm
      (addedSubnet iface a (keptUnrecorded a (s.addr.find subnetCmp (freshSubnet a))) ::
        (s.addr.erase subnetCmp (freshSubnet a)).values) := by
  have hvalues := Vlist.add_values subnetCmp (interfaceUpdateSubnet iface) s.addr (freshSubnet a)
    s.kernel
  rwa [addSubnet_spec iface a s.kernel fun old hold => find_recorded h old hold] at hvalues

/-- Adding an address keeps the mirror just if the step is a good one. -/
theorem addSubnet_mirrors_iff {iface : RouteParams} {s : SubnetSettings}
    (hrecorded : SubnetsRecorded iface s) (h : SubnetMirror iface s) (a : DeviceAddr) :
    SubnetMirror iface (subnetStep iface s (.add a)) ↔ SubnetStepOk iface s (.add a) := by
  have hfound : ∀ old, s.addr.find subnetCmp (freshSubnet a) = some old →
      subnetCmp (freshSubnet a) old = 0 ∧ old.Recorded iface :=
    fun old hold => find_recorded hrecorded old hold
  have hperm := Vlist.find_perm subnetCmp s.addr (freshSubnet a)
  have hvalues := addSubnet_values hrecorded a
  have hkernel : (subnetStep iface s (.add a)).kernel =
      (interfaceUpdateSubnet iface (some (freshSubnet a)) (s.addr.find subnetCmp (freshSubnet a))
        s.kernel).2 := rfl
  rw [addSubnet_spec iface a s.kernel hfound] at hkernel
  generalize hsilent : keptUnrecorded a (s.addr.find subnetCmp (freshSubnet a)) = silent at *
  have hmirror : SubnetMirror iface (subnetStep iface s (.add a)) ↔
      Mirrors (subnetStep iface s (.add a)).kernel (subnetRoutes iface
        (addedSubnet iface a silent :: (s.addr.erase subnetCmp (freshSubnet a)).values)) :=
    ⟨fun hm => hm.congr (livePairs_perm hvalues), fun hm => hm.congr (livePairs_perm hvalues.symm)⟩
  have hkey : ∀ old ∈ s.addr.find subnetCmp (freshSubnet a),
      old.routeKey iface = (addedSubnet iface a silent).routeKey iface := by
    intro old hold
    obtain ⟨hflags, hmask, haddr⟩ := subnetCmp_eq_zero (hfound old hold).1
    rw [addedSubnet_key]
    exact (routeKey_congr iface hflags hmask haddr).symm
  have hsame : ∀ old ∈ s.addr.find subnetCmp (freshSubnet a),
      old.routable iface = (freshSubnet a).routable iface := by
    intro old hold
    exact (routable_congr iface (subnetCmp_eq_zero (hfound old hold).1).1).symm
  rw [hmirror, hkernel]
  cases hroutable : (freshSubnet a).routable iface with
  | false =>
    have hdead : (addedSubnet iface a silent).routed iface = false := by
      rw [addedSubnet_routed, hroutable]
    have hold : ∀ old ∈ s.addr.find subnetCmp (freshSubnet a), old.routed iface = false := by
      intro old hold
      rw [routed_eq, hsame old hold, hroutable, Bool.and_false]
    have hstill := mirrors_put_dead h hperm hdead hold
    simp [SubnetStepOk, hroutable, hstill]
  | true =>
    have hlive : (addedSubnet iface a silent).routed iface = true := by
      rw [addedSubnet_routed, hroutable]
    cases silent with
    | false =>
      have hwrite := mirrors_put_written h hperm hkey hlive
      rw [addedSubnet_key] at hwrite
      have hok : SubnetStepOk iface s (.add a) := by
        intro old hold hkept
        rw [hold, hkept] at hsilent
        cases hsilent
      simp [hwrite, hok]
    | true =>
      simp only [Bool.not_true, Bool.false_and, Bool.false_eq_true, if_false]
      rw [mirrors_put_kept_iff h hperm hkey hlive, addedSubnet_key]
      cases hold : s.addr.find subnetCmp (freshSubnet a) with
      | none => simp [keptUnrecorded, keptSilently, hold] at hsilent
      | some old =>
        rw [hold] at hsilent
        have hroutable' := (hsame old hold).trans hroutable
        cases henabled : old.enabled <;>
          simp [SubnetStepOk, hold, hsilent, hroutable, routed_eq, henabled, hroutable']

theorem deleteSubnet_mirrors_iff {iface : RouteParams} {s : SubnetSettings}
    (hrecorded : SubnetsRecorded iface s) (h : SubnetMirror iface s) (a : DeviceAddr) :
    SubnetMirror iface (subnetStep iface s (.delete a)) ↔ SubnetStepOk iface s (.delete a) := by
  cases hold : s.addr.find subnetCmp { toDeviceAddr := a } with
  | none =>
    have hsame : subnetStep iface s (.delete a) = s := by simp [subnetStep, Vlist.delete, hold]
    simp [hsame, h, SubnetStepOk, hold]
  | some old =>
    obtain ⟨-, hperm⟩ := Vlist.find_some subnetCmp hold
    have hstep : SubnetMirror iface (subnetStep iface s (.delete a)) ↔
        Mirrors ([old].foldl (fun kernel old =>
          (interfaceUpdateSubnet iface none (some old) kernel).2) s.kernel)
          (subnetRoutes iface (s.addr.erase subnetCmp { toDeviceAddr := a }).values) := by
      simp [SubnetMirror, subnetStep, Vlist.delete, hold]
    rw [hstep, removeSubnets_mirrors_iff hrecorded h (fun b => by simp [hperm.mem_iff])
      fun kernel b hb => removeSubnet_kernel hb kernel]
    simp [SubnetStepOk, hold]

theorem setSubnetEnabled_values (iface : RouteParams) (s : SubnetSettings) (enabled : Bool) :
    (subnetStep iface s (.setEnabled enabled)).addr.values =
      s.addr.values.map (setSubnetEnabled iface enabled) := by
  simp [subnetStep, Vlist.values, Function.comp_def]

theorem interfaceHandleSubnetRoute_addr (iface : RouteParams) (a : SubnetAddr) (add : Bool) :
    (interfaceHandleSubnetRoute iface a add).toDeviceAddr = a.toDeviceAddr := by
  unfold interfaceHandleSubnetRoute
  split_ifs <;> rfl

theorem interfaceUpdateSubnet_addr (iface : RouteParams) (nodeNew nodeOld : Option SubnetAddr)
    (kernel : SubnetTable) (addrs : AddrTable) :
    (interfaceUpdateSubnet iface nodeNew nodeOld kernel).1.map (·.toDeviceAddr) =
      (interfaceUpdateProtoAddr (nodeNew.map (·.toDeviceAddr)) (nodeOld.map (·.toDeviceAddr))
        addrs).1 := by
  cases nodeNew with
  | none => rfl
  | some a =>
    simp only [interfaceUpdateSubnet, interfaceUpdateProtoAddr, Option.map_some]
    split_ifs
    · simp [interfaceHandleSubnetRoute_addr]
    · rfl

theorem setSubnetEnabled_addr (iface : RouteParams) (enabled : Bool) (a : SubnetAddr) :
    (setSubnetEnabled iface enabled a).toDeviceAddr = setAddrEnabled enabled a.toDeviceAddr := by
  have haddr := interfaceHandleSubnetRoute_addr iface a
  unfold setSubnetEnabled setAddrEnabled
  cases hexternal : a.external with
  | true => simp
  | false =>
    cases a with
    | mk addr subnet =>
      cases enabled <;> cases henabled : addr.enabled <;>
        cases explicitSubnet iface addr <;> simp_all <;> rw [← henabled]

theorem setSubnetEnabled_key (iface : RouteParams) (enabled : Bool) (a : SubnetAddr) :
    (setSubnetEnabled iface enabled a).routeKey iface = a.routeKey iface := by
  have haddr := setSubnetEnabled_addr iface enabled a
  have hsame : (setAddrEnabled enabled a.toDeviceAddr).flags = a.flags ∧
      (setAddrEnabled enabled a.toDeviceAddr).mask = a.mask ∧
      (setAddrEnabled enabled a.toDeviceAddr).addr = a.addr := by
    unfold setAddrEnabled
    split_ifs <;> exact ⟨rfl, rfl, rfl⟩
  rw [← haddr] at hsame
  exact routeKey_congr iface hsame.1 hsame.2.1 hsame.2.2

theorem setSubnetEnabled_routed (iface : RouteParams) (enabled : Bool) (a : SubnetAddr) :
    (setSubnetEnabled iface enabled a).routed iface = (enabled && a.routable iface) := by
  have haddr := setSubnetEnabled_addr iface enabled a
  have hflags : (setSubnetEnabled iface enabled a).flags = a.flags := by
    rw [haddr, setAddrEnabled]
    split_ifs <;> rfl
  rw [routed_eq, routable_congr iface hflags, haddr, setAddrEnabled]
  split_ifs with hexternal
  · simp [SubnetAddr.routable, hexternal]
  · rfl

theorem emptied_mirrors_iff {iface : RouteParams} {s t : SubnetSettings}
    (hrecorded : SubnetsRecorded iface s) (h : SubnetMirror iface s)
    {f : SubnetTable → SubnetAddr → SubnetTable} (hkernel : t.kernel = s.addr.values.foldl f s.kernel)
    (hnone : ∀ b ∈ t.addr.values, b.routed iface = false)
    (hf : ∀ kernel, ∀ a, a.Recorded iface → f kernel a =
      if a.isRecorded then erase kernel (a.routeKey iface) else kernel) :
    SubnetMirror iface t ↔ RemovalOk iface s.addr.values [] := by
  have hempty : subnetRoutes iface t.addr.values = subnetRoutes iface [] := livePairs_eq_nil hnone
  rw [SubnetMirror, hempty, hkernel]
  exact removeSubnets_mirrors_iff hrecorded h (fun b => by simp) hf

/-- The addresses that get their routes when all are enabled. -/
def unroutedSubnets (iface : RouteParams) : List SubnetAddr → List (RouteKey × Unit) :=
  livePairs (fun a => !a.enabled && a.routable iface) (SubnetAddr.routeKey iface) fun _ => ()

theorem enableSubnets_kernel {iface : RouteParams} {l : List SubnetAddr}
    (h : ∀ a ∈ l, a.Recorded iface) (kernel : SubnetTable) :
    l.foldl (setSubnetEnabledKernel iface true) kernel =
      (unroutedSubnets iface l).foldl (fun kernel p => write kernel p.1 p.2) kernel := by
  induction l generalizing kernel with
  | nil => rfl
  | cons a l ih =>
    have hkey : (a.subnetRoute iface).kernelKey = a.routeKey iface :=
      congrArg DeviceRoute.kernelKey (h a List.mem_cons_self).subnetRoute
    rw [List.foldl_cons, ih fun b hb => h b (List.mem_cons_of_mem a hb)]
    cases hexternal : a.external <;> cases henabled : a.enabled <;>
      cases hoff : a.offlink <;> cases hexplicit : explicitSubnet iface a.toDeviceAddr <;>
      simp [setSubnetEnabledKernel, handleSubnetRouteKernel, unroutedSubnets, livePairs,
        SubnetAddr.routable, hexternal, henabled, hoff, hexplicit, hkey]

theorem enableSubnets_mirrors {iface : RouteParams} {s : SubnetSettings}
    (hrecorded : SubnetsRecorded iface s) (h : SubnetMirror iface s) :
    SubnetMirror iface (subnetStep iface s (.setEnabled true)) := by
  rw [SubnetMirror, setSubnetEnabled_values]
  change Mirrors (s.addr.values.foldl (setSubnetEnabledKernel iface true) s.kernel) _
  rw [enableSubnets_kernel hrecorded, mirrors_writeAll_iff h]
  · exact fun _ _ _ _ _ => rfl
  · rintro ⟨k, v⟩
    simp only [unroutedSubnets, mem_livePairs, List.mem_map, exists_exists_and_eq_and,
      setSubnetEnabled_routed, setSubnetEnabled_key, ← exists_or]
    apply exists_congr
    intro a
    cases henabled : a.enabled <;> simp [routed_eq, henabled]

theorem subnetStep_mirrors_iff {iface : RouteParams} (s : SubnetSettings) (op : AddrOp)
    (hrecorded : SubnetsRecorded iface s) (h : SubnetMirror iface s) :
    SubnetMirror iface (subnetStep iface s op) ↔ SubnetStepOk iface s op := by
  cases op with
  | updateStart => exact iff_of_true h trivial
  | add a => exact addSubnet_mirrors_iff hrecorded h a
  | updateComplete =>
    exact removeSubnets_mirrors_iff hrecorded h s.addr.mem_values
      fun kernel a ha => removeSubnet_kernel ha kernel
  | setEnabled enabled =>
    cases enabled with
    | false =>
      refine emptied_mirrors_iff hrecorded h rfl ?_ fun kernel a ha => disableSubnet_kernel ha kernel
      intro b hb
      rw [setSubnetEnabled_values] at hb
      obtain ⟨a, -, rfl⟩ := List.mem_map.mp hb
      exact setSubnetEnabled_routed iface false a
    | true => exact iff_of_true (enableSubnets_mirrors hrecorded h) trivial
  | delete a => exact deleteSubnet_mirrors_iff hrecorded h a
  | flush =>
    have hvalues : (subnetStep iface s .flush).addr.values = [] :=
      Vlist.flushAll_values (interfaceUpdateSubnet iface) s.addr s.kernel
    refine emptied_mirrors_iff hrecorded h ?_ (by simp [hvalues])
      fun kernel a ha => removeSubnet_kernel ha kernel
    rw [← s.addr.staleValues_flushAll]
    rfl

theorem setSubnetEnabled_recorded {iface : RouteParams} {a : SubnetAddr} (h : a.Recorded iface)
    (enabled : Bool) : (setSubnetEnabled iface enabled a).Recorded iface := by
  by_cases hsame : (a.external || a.enabled == enabled) = true
  · have heq : setSubnetEnabled iface enabled a = a := by rw [setSubnetEnabled, if_pos hsame]
    rwa [heq]
  · obtain ⟨hexternal, hchange⟩ : a.external = false ∧ a.enabled ≠ enabled := by
      simpa using hsame
    intro r hr
    have haddr := setSubnetEnabled_addr iface enabled a
    rw [setAddrEnabled, if_neg (by simp [hexternal])] at haddr
    cases enabled with
    | true =>
      have hnone : a.subnet = none := by
        by_contra hrec
        have hrouted := h.live (Option.isSome_iff_ne_none.mpr hrec)
        simp [routed_eq, hchange] at hrouted
      rw [setSubnetEnabled_routed]
      simp only [setSubnetEnabled, hexternal, interfaceHandleSubnetRoute] at hr
      cases hexplicit : explicitSubnet iface a.toDeviceAddr <;> cases hoff : a.offlink <;>
        simp [hchange, hexplicit, hoff, hnone] at hr
      subst hr
      refine ⟨by simp [SubnetAddr.routable, hexternal, hoff, hexplicit], ?_⟩
      apply subnetRoute_congr
      · rw [haddr]
      · rw [haddr]
      · rw [haddr]
      · exact hnone
    | false =>
      simp only [setSubnetEnabled, hexternal, interfaceHandleSubnetRoute] at hr
      cases hoff : a.offlink <;> simp [hchange, hoff] at hr
      have hrouted := (h r hr).1
      simp [SubnetAddr.routed, hoff] at hrouted

theorem erase_recorded {iface : RouteParams} {s : SubnetSettings} (h : SubnetsRecorded iface s)
    (a b : SubnetAddr) (hb : b ∈ (s.addr.erase subnetCmp a).values) : b.Recorded iface := by
  rw [Vlist.erase_values] at hb
  exact h b (List.eraseP_subset hb)

theorem subnetStep_recorded {iface : RouteParams} (s : SubnetSettings) (op : AddrOp)
    (h : SubnetsRecorded iface s) : SubnetsRecorded iface (subnetStep iface s op) := by
  intro b hb
  cases op with
  | updateStart => exact h b hb
  | add a =>
    rcases List.mem_cons.mp ((addSubnet_values h a).subset hb) with rfl | hrest
    · exact addedSubnet_recorded iface a _
    · exact erase_recorded h _ b hrest
  | updateComplete => exact h b ((s.addr.mem_values b).mpr (.inr hb))
  | setEnabled enabled =>
    rw [setSubnetEnabled_values] at hb
    obtain ⟨a, ha, rfl⟩ := List.mem_map.mp hb
    exact setSubnetEnabled_recorded (h a ha) enabled
  | delete a =>
    cases hold : s.addr.find subnetCmp { toDeviceAddr := a } with
    | none =>
      have hsame : subnetStep iface s (.delete a) = s := by simp [subnetStep, Vlist.delete, hold]
      exact h b (hsame ▸ hb)
    | some old =>
      have herased : (subnetStep iface s (.delete a)).addr =
          s.addr.erase subnetCmp { toDeviceAddr := a } := by simp [subnetStep, Vlist.delete, hold]
      exact erase_recorded h _ b (herased ▸ hb)
  | flush =>
    have hvalues : (subnetStep iface s .flush).addr.values = [] :=
      Vlist.flushAll_values (interfaceUpdateSubnet iface) s.addr s.kernel
    rw [hvalues] at hb
    cases hb

/-- From the start, with no addresses, the kernel has the right subnet routes in every state
of a run if and only if every step of it is a good one. -/
theorem subnet_mirror_of_run (iface : RouteParams) (enabled : Bool) (ops : List AddrOp) :
    (∀ n, SubnetMirror iface (run (subnetStep iface) { enabled } (ops.take n))) ↔
      AllOk (subnetStep iface) (SubnetStepOk iface) { enabled } ops := by
  have hstart : SubnetMirror iface { enabled } := mirrors_empty
  have hrecorded : SubnetsRecorded iface { enabled } := by simp [SubnetsRecorded, Vlist.values]
  exact run_property_iff (fun s op => subnetStep_recorded s op)
    (fun s op => subnetStep_mirrors_iff s op) hrecorded hstart ops

/-- An address that is sent again unchanged loses the record of its route, which stays when
the address is removed. -/
theorem subnet_mirror_broken :
    ¬∀ ops, SubnetMirror { metric := 10 } (run (subnetStep { metric := 10 }) {} ops) := by
  intro h
  have hmirror := h [.updateStart, .add { flags := 0, mask := 24, addr := 256 }, .updateComplete,
    .updateStart, .add { flags := 0, mask := 24, addr := 256 }, .updateComplete, .flush]
  have hkernel := (hmirror (SubnetAddr.routeKey { metric := 10 }
    { flags := 0, mask := 24, addr := 256 }) ()).mp (by decide)
  revert hkernel
  decide

end Netifd
