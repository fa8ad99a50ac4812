import Netifd.InterfaceState
import Netifd.SubnetRoutes
import Mathlib.Data.Finset.Basic

/-!
# Policy rules and the routes of delegated prefixes

An interface with routing tables has policy rules, and an address out of a delegated prefix has
rules and a route. They are removed by calls that take the tables and the metric from the
interfaces as they are by then.
-/

namespace Netifd.PolicyRules
open GuardedRuns

def IPRULE_PRIORITY_NW : ℕ := 90000
def IPRULE_PRIORITY_REJECT : ℕ := 4200000000

/-- What a rule or a route names of a device. -/
structure NetDevice where
  ifname : String
  ifindex : ℕ
  deriving DecidableEq

/-- `struct iprule`, where a flag that is not set is an absent value. -/
structure IpRule where
  v6 : Bool
  priority : ℕ
  src : Option (ℕ × ℕ) := none
  dest : Option (ℕ × ℕ) := none
  lookup : Option ℕ := none
  action : Option String := none
  inDev : Option String := none
  deriving DecidableEq

/-- What `system_add_iprule` and `system_add_route` install and the calls of
`system_del_iprule` and `system_del_route` name. -/
inductive Installed
  | rule (rule : IpRule)
  | route (dev : NetDevice) (route : DeviceRoute)
  deriving DecidableEq

/-- An interface, with the `enabled` of its `config_ip` and its `proto_ip`. -/
structure PolicyIface where
  params : RouteParams := {}
  l3Dev : Option NetDevice := none
  state : InterfaceState := .down
  configIp : Bool := true
  protoIp : Bool := true
  policyRulesSet : Bool := false

/-- `struct device_prefix_assignment`, with the address that it gets. -/
structure PrefixAddress where
  name : String
  addr : ℕ
  length : ℕ
  enabled : Bool := false
  deriving DecidableEq

/-- `struct device_prefix` with its uplink. -/
structure DelegatedPrefix where
  iface : Option String
  assignments : List PrefixAddress

/-- The interfaces, the list of prefixes, and what each interface has installed. -/
structure PolicyState where
  ifaces : String → PolicyIface
  prefixes : List DelegatedPrefix := []
  installed : Finset (String × Installed) := ∅

/-- Calls that add, or calls that delete. -/
def issue (add : Bool) (calls : List (String × Installed)) (s : PolicyState) : PolicyState :=
  { s with
    installed := calls.foldl (fun installed c =>
      if add then insert c installed else installed.erase c) s.installed }

def modifyIface (i : String) (f : PolicyIface → PolicyIface) (s : PolicyState) : PolicyState :=
  { s with ifaces := Function.update s.ifaces i (f (s.ifaces i)) }

def setIpSourcePolicy (v6 : Bool) (priority : ℕ) (addr : Option (ℕ × ℕ)) (table : ℕ)
    (inDev : Option NetDevice) (action : Option String) (src : Bool) : Installed :=
  .rule {
    v6, priority
    src := if src then addr else none
    dest := if src then none else addr
    lookup := if table ≠ 0 then some table else none
    action := if table ≠ 0 then none else action
    inDev := inDev.map (·.ifname) }

/-- `(v6) ? iface->ip6table : iface->ip4table`. -/
def ipTable (params : RouteParams) (v6 : Bool) : ℕ :=
  if v6 then params.ip6table else params.ip4table

def setIpLoPolicy (v6 : Bool) (params : RouteParams) (dev : NetDevice) : List Installed :=
  if ipTable params v6 = 0 then []
  else
    [.rule {
      v6
      priority := (IPRULE_PRIORITY_NW + dev.ifindex) % 2 ^ 32
      lookup := some (ipTable params v6)
      inDev := some "lo" }]

/-- The rules at the end of `interface_ip_set_enabled`. -/
def policyRules (params : RouteParams) (dev : NetDevice) : List Installed :=
  setIpLoPolicy true params dev ++ setIpLoPolicy false params dev ++
    [setIpSourcePolicy true ((IPRULE_PRIORITY_REJECT + dev.ifindex) % 2 ^ 32) none 0 (some dev)
      (some "failed_policy") true]

namespace PrefixAddress
variable (a : PrefixAddress) (dev : NetDevice)

/-- The rule by which what comes from an address looks into the table of the uplink. -/
def tableRule (table : ℕ) : List Installed :=
  if table ≠ 0 then
    [setIpSourcePolicy true IPRULE_PRIORITY_NW (some (a.addr, a.length)) table (some dev) none true]
  else []

/-- The rule for what finds no route there. -/
def rejectRule : Installed :=
  setIpSourcePolicy true IPRULE_PRIORITY_REJECT (some (a.addr, a.length)) 0 (some dev)
    (some "unreachable") true

/-- The route of `interface_set_prefix_address`. -/
def route (params : RouteParams) : DeviceRoute :=
  let mask := if a.length < 64 then 64 else a.length
  interfaceSetRouteInfo params { flags := 1, mask, addr := clearIfAddr true a.addr mask }

end PrefixAddress

/-- `prefix->iface->ip6table`. -/
def uplinkTable (s : PolicyState) (p : DelegatedPrefix) : ℕ :=
  match p.iface with
  | some uplink => (s.ifaces uplink).params.ip6table
  | none => 0

/-- `interface_set_prefix_address` for the interface that an assignment names: the assignment
after it, and its calls; `fails` are the addresses that the system does not take. -/
def interfaceSetPrefixAddress (fails : ℕ → Bool) (s : PolicyState) (p : DelegatedPrefix)
    (a : PrefixAddress) (add : Bool) : PrefixAddress × List Installed :=
  let iface := s.ifaces a.name
  match iface.l3Dev with
  | none => (a, [])
  | some dev =>
    if !add && a.enabled then
      ({ a with enabled := false },
        (if p.iface.isSome then a.tableRule dev (uplinkTable s p) ++ [a.rejectRule dev] else []) ++
          [.route dev (a.route iface.params)])
    else if add && (iface.state == .up || iface.state == .setup) && !fails a.addr then
      ({ a with enabled := true },
        (if p.iface.isSome && !a.enabled then
          a.rejectRule dev :: a.tableRule dev (uplinkTable s p) else []) ++
          [.route dev { a.route iface.params with metric := iface.params.metric }])
    else (a, [])

/-- The calls for some assignments of a prefix, each in the name of its interface. -/
def prefixCalls (fails : ℕ → Bool) (s : PolicyState) (p : DelegatedPrefix)
    (assignments : List PrefixAddress) (add : Bool) : List (String × Installed) :=
  assignments.flatMap fun a => (interfaceSetPrefixAddress fails s p a add).2.map (a.name, ·)

/-- The loop of `interface_ip_set_enabled` over the prefixes. -/
def setPrefixAddresses (fails : ℕ → Bool) (s : PolicyState) (i : String) (enabled : Bool) :
    PolicyState :=
  let calls := s.prefixes.flatMap fun p =>
    prefixCalls fails s p (p.assignments.filter (·.name = i)) enabled
  { issue enabled calls s with
    prefixes := s.prefixes.map fun p =>
      { p with
        assignments := p.assignments.map fun a =>
          if a.name = i then (interfaceSetPrefixAddress fails s p a enabled).1 else a } }

/-- The end of `interface_ip_set_enabled`. -/
def setPolicyRules (s : PolicyState) (i : String) (dev : NetDevice) (enabled : Bool) :
    PolicyState :=
  if (s.ifaces i).policyRulesSet ≠ enabled then
    modifyIface i (fun iface => { iface with policyRulesSet := enabled })
      (issue enabled ((policyRules (s.ifaces i).params dev).map (i, ·)) s)
  else s

/-- `interface_ip_set_enabled` of the `config_ip` or the `proto_ip` of an interface. -/
def interfaceIpSetEnabled (fails : ℕ → Bool) (s : PolicyState) (i : String)
    (config enabled : Bool) : PolicyState :=
  let s := modifyIface i (fun iface =>
    if config then { iface with configIp := enabled } else { iface with protoIp := enabled }) s
  match (s.ifaces i).l3Dev with
  | none => s
  | some dev => setPolicyRules (setPrefixAddresses fails s i enabled) i dev enabled

/-- `interface_ip_flush` of the `proto_ip`, as far as it concerns prefixes. -/
def flushPrefixes (s : PolicyState) (i : String) : PolicyState :=
  let calls := (s.prefixes.filter (·.iface = some i)).flatMap fun p =>
    prefixCalls (fun _ => false) s p p.assignments false
  { issue false calls s with prefixes := s.prefixes.filter (·.iface ≠ some i) }

/-- The addresses are removed, and the prefixes of an interface with them. -/
def disableIp (s : PolicyState) (i : String) : PolicyState :=
  let s := interfaceIpSetEnabled (fun _ => false) s i true false
  let s := interfaceIpSetEnabled (fun _ => false) s i false false
  flushPrefixes s i

def markInterfaceDown (s : PolicyState) (i : String) : PolicyState :=
  if (s.ifaces i).state = .down then s
  else disableIp (modifyIface i (fun iface => { iface with state := .down }) s) i

/-- `IFPEV_DOWN` in `interface_proto_event_cb`. -/
def interfaceProtoDown (s : PolicyState) (i : String) : PolicyState :=
  if (s.ifaces i).state = .down then s
  else modifyIface i (fun iface => { iface with l3Dev := none }) (markInterfaceDown s i)

/-- `interface_set_l3_dev` up to `device_add_user`; what it enables again are steps of their
own. -/
def interfaceSetL3Dev (s : PolicyState) (i : String) (dev : Option NetDevice) : PolicyState :=
  if (s.ifaces i).l3Dev = dev then s
  else modifyIface i (fun iface => { iface with l3Dev := dev }) (disableIp s i)

/-- `interface_change_config`, which only takes note of a change that needs a reload. -/
def interfaceChangeConfig (fails : ℕ → Bool) (s : PolicyState) (i : String)
    (params : RouteParams) (reload : Bool) : PolicyState :=
  let old := s.ifaces i
  let reloadIp := old.params.metric != params.metric ||
    old.params.noDefaultroute != params.noDefaultroute ||
    old.params.ip4table != params.ip4table || old.params.ip6table != params.ip6table
  let s := modifyIface i (fun iface => { iface with params }) s
  if !reload && reloadIp then
    let s := interfaceIpSetEnabled fails s i true false
    let s := interfaceIpSetEnabled fails s i false false
    let s := interfaceIpSetEnabled fails s i false old.protoIp
    interfaceIpSetEnabled fails s i true old.configIp
  else s

/-- Whatever the allocation of assignments comes to, none of them is enabled at first. -/
def freshAssignments (assignments : List PrefixAddress) : List PrefixAddress :=
  assignments.map fun a => { a with enabled := false }

/-- All addresses out of a prefix are set, which is put in its place; the loops in
`interface_update_prefix` and `interface_update_prefix_assignments`. -/
def addAssignments (fails : ℕ → Bool) (s : PolicyState) (p : DelegatedPrefix)
    (place : DelegatedPrefix → List DelegatedPrefix) : PolicyState :=
  { issue true (prefixCalls fails s p p.assignments true) s with
    prefixes := place { p with
      assignments := p.assignments.map fun a => (interfaceSetPrefixAddress fails s p a true).1 } }

/-- A prefix goes, with all that is installed for its assignments. -/
def dropPrefix (s : PolicyState) (n : ℕ) (p : DelegatedPrefix) : PolicyState :=
  { issue false (prefixCalls (fun _ => false) s p p.assignments false) s with
    prefixes := s.prefixes.eraseIdx n }

/-- What can happen to the rules and the routes of prefixes. An interface goes up and down by
several of these steps, between which there may be steps of others. -/
inductive PolicyOp
  | changeConfig (fails : ℕ → Bool) (i : String) (params : RouteParams) (reload : Bool)
  | setState (i : String) (state : InterfaceState)
  | setEnabled (fails : ℕ → Bool) (i : String) (config enabled : Bool)
  | setL3Dev (i : String) (dev : Option NetDevice)
  | markDown (i : String)
  | protoDown (i : String)
  | addPrefix (fails : ℕ → Bool) (iface : Option String) (assignments : List PrefixAddress)
  | sendPrefixAgain (fails : ℕ → Bool) (n : ℕ)
  | updateAssignments (fails : ℕ → Bool) (n : ℕ) (assignments : List PrefixAddress)
  | removePrefix (n : ℕ)

/-- The steps; a prefix that is sent again takes its assignments along. -/
def policyStep (s : PolicyState) : PolicyOp → PolicyState
  | .changeConfig fails i params reload => interfaceChangeConfig fails s i params reload
  | .setState i state => modifyIface i (fun iface => { iface with state }) s
  | .setEnabled fails i config enabled => interfaceIpSetEnabled fails s i config enabled
  | .setL3Dev i dev => interfaceSetL3Dev s i dev
  | .markDown i => markInterfaceDown s i
  | .protoDown i => interfaceProtoDown s i
  | .addPrefix fails iface assignments =>
    addAssignments fails s { iface, assignments := freshAssignments assignments }
      (· :: s.prefixes)
  | .sendPrefixAgain fails n =>
    match s.prefixes[n]? with
    | some p => addAssignments fails s p (· :: s.prefixes.eraseIdx n)
    | none => s
  | .updateAssignments fails n assignments =>
    match s.prefixes[n]? with
    | some p =>
      addAssignments fails (dropPrefix s n p)
        { p with assignments := freshAssignments assignments } (s.prefixes.set n ·)
    | none => s
  | .removePrefix n =>
    match s.prefixes[n]? with
    | some p => dropPrefix s n p
    | none => s

/-- What a deletion removes for an assignment that is enabled. -/
def prefixInstalled (s : PolicyState) (p : DelegatedPrefix) (a : PrefixAddress) :
    List (String × Installed) :=
  match (s.ifaces a.name).l3Dev with
  | none => []
  | some dev =>
    ((if p.iface.isSome then a.tableRule dev (uplinkTable s p) ++ [a.rejectRule dev] else []) ++
      [Installed.route dev (a.route (s.ifaces a.name).params)]).map (a.name, ·)

/-- One of the rules of an interface, which has them set. -/
def PolicyAccounted (s : PolicyState) (c : String × Installed) : Prop :=
  (s.ifaces c.1).policyRulesSet = true ∧
    ∃ dev, (s.ifaces c.1).l3Dev = some dev ∧ c.2 ∈ policyRules (s.ifaces c.1).params dev

/-- A rule or the route of an enabled assignment. -/
def PrefixAccounted (s : PolicyState) (c : String × Installed) : Prop :=
  ∃ p ∈ s.prefixes, ∃ a ∈ p.assignments, a.enabled = true ∧ c ∈ prefixInstalled s p a

/-- All that is installed will be named. -/
def Accounted (s : PolicyState) : Prop :=
  ∀ c ∈ s.installed, PolicyAccounted s c ∨ PrefixAccounted s c

/-- Nothing of an interface is installed. -/
def Clean (s : PolicyState) (i : String) : Prop := ∀ c ∈ s.installed, c.1 ≠ i

theorem mem_issue_add {calls : List (String × Installed)} {s : PolicyState}
    {c : String × Installed} :
    c ∈ (issue true calls s).installed ↔ c ∈ s.installed ∨ c ∈ calls := by
  simp only [issue, if_true]
  induction calls generalizing s with
  | nil => simp
  | cons d calls ih =>
    have hrest := @ih { s with installed := insert d s.installed }
    simp only [List.foldl_cons, List.mem_cons] at hrest ⊢
    rw [hrest, Finset.mem_insert]
    tauto

theorem mem_issue_delete {calls : List (String × Installed)} {s : PolicyState}
    {c : String × Installed} :
    c ∈ (issue false calls s).installed ↔ c ∈ s.installed ∧ c ∉ calls := by
  simp only [issue, Bool.false_eq_true, if_false]
  induction calls generalizing s with
  | nil => simp
  | cons d calls ih =>
    have hrest := @ih { s with installed := s.installed.erase d }
    simp only [List.foldl_cons, List.mem_cons] at hrest ⊢
    rw [hrest, Finset.mem_erase]
    tauto

theorem prefixInstalled_name {s : PolicyState} {p : DelegatedPrefix} {a : PrefixAddress}
    {c : String × Installed} (h : c ∈ prefixInstalled s p a) : c.1 = a.name := by
  unfold prefixInstalled at h
  cases hdev : (s.ifaces a.name).l3Dev with
  | none => simp [hdev] at h
  | some dev =>
    simp only [hdev] at h
    obtain ⟨_, _, rfl⟩ := List.mem_map.mp h
    rfl

theorem prefixInstalled_congr {s s' : PolicyState} (p : DelegatedPrefix) {a : PrefixAddress}
    (hdev : (s'.ifaces a.name).l3Dev = (s.ifaces a.name).l3Dev)
    (hparams : ∀ i, (s'.ifaces i).params = (s.ifaces i).params) :
    prefixInstalled s' p a = prefixInstalled s p a := by
  have huplink : uplinkTable s' p = uplinkTable s p := by
    unfold uplinkTable
    cases p.iface with
    | none => rfl
    | some uplink => simp only [hparams]
  unfold prefixInstalled
  rw [hdev, huplink, hparams]

theorem Accounted.congr {s s' : PolicyState} (h : Accounted s)
    (hinstalled : ∀ c ∈ s'.installed, c ∈ s.installed)
    (hprefixes : ∀ p ∈ s.prefixes, p ∈ s'.prefixes)
    (hparams : ∀ i, (s'.ifaces i).params = (s.ifaces i).params)
    (hiface : ∀ c ∈ s'.installed, (s'.ifaces c.1).l3Dev = (s.ifaces c.1).l3Dev ∧
      ((s.ifaces c.1).policyRulesSet = true → (s'.ifaces c.1).policyRulesSet = true)) :
    Accounted s' := by
  intro c hc
  obtain ⟨hdev, hset⟩ := hiface c hc
  rcases h c (hinstalled c hc) with ⟨hold, hpolicy⟩ | ⟨p, hp, a, ha, henabled, hmem⟩
  · left
    rw [PolicyAccounted, hdev, hparams]
    exact ⟨hset hold, hpolicy⟩
  · right
    refine ⟨p, hprefixes p hp, a, ha, henabled, ?_⟩
    rw [prefixInstalled_name hmem] at hdev
    rwa [prefixInstalled_congr p hdev hparams]

theorem Accounted.issue_add {s : PolicyState} (h : Accounted s) {calls : List (String × Installed)}
    (hcalls : ∀ c ∈ calls, PolicyAccounted s c ∨ PrefixAccounted s c) :
    Accounted (issue true calls s) := by
  intro c hc
  rcases mem_issue_add.mp hc with hold | hnew
  · exact h c hold
  · exact hcalls c hnew

theorem Accounted.issue_delete {s : PolicyState} (h : Accounted s)
    (calls : List (String × Installed)) : Accounted (issue false calls s) :=
  fun c hc => h c (mem_issue_delete.mp hc).1

section Assignment

variable (fails : ℕ → Bool) (s : PolicyState) (p : DelegatedPrefix) (a : PrefixAddress)

theorem route_metric (params : RouteParams) :
    { a.route params with metric := params.metric } = a.route params := by
  have hown : hasFlag 1 DEVROUTE_METRIC = false := by decide
  simp only [PrefixAddress.route, interfaceSetRouteInfo, setRouteTable, setRouteMetric, hown,
    Bool.not_false, if_true]
  split_ifs <;> rfl

variable {a}

theorem set_of_none (add : Bool) (hdev : (s.ifaces a.name).l3Dev = none) :
    interfaceSetPrefixAddress fails s p a add = (a, []) := by
  simp only [interfaceSetPrefixAddress, hdev]

theorem delete_of_enabled {dev : NetDevice} (hdev : (s.ifaces a.name).l3Dev = some dev)
    (henabled : a.enabled = true) :
    interfaceSetPrefixAddress fails s p a false = ({ a with enabled := false },
      (if p.iface.isSome then a.tableRule dev (uplinkTable s p) ++ [a.rejectRule dev] else []) ++
        [.route dev (a.route (s.ifaces a.name).params)]) := by
  simp [interfaceSetPrefixAddress, hdev, henabled]

theorem delete_of_disabled (henabled : a.enabled = false) :
    interfaceSetPrefixAddress fails s p a false = (a, []) := by
  cases hdev : (s.ifaces a.name).l3Dev <;> simp [interfaceSetPrefixAddress, hdev, henabled]

theorem add_of_some {dev : NetDevice} (hdev : (s.ifaces a.name).l3Dev = some dev) :
    interfaceSetPrefixAddress fails s p a true =
      if ((s.ifaces a.name).state == .up || (s.ifaces a.name).state == .setup) && !fails a.addr then
        ({ a with enabled := true },
          (if p.iface.isSome && !a.enabled then
            a.rejectRule dev :: a.tableRule dev (uplinkTable s p) else []) ++
            [.route dev (a.route (s.ifaces a.name).params)])
      else (a, []) := by
  simp only [interfaceSetPrefixAddress, hdev, Bool.not_true, Bool.false_and, Bool.false_eq_true,
    if_false, Bool.true_and, route_metric]

theorem add_fst {dev : NetDevice} (hdev : (s.ifaces a.name).l3Dev = some dev) :
    (interfaceSetPrefixAddress fails s p a true).1 =
      if ((s.ifaces a.name).state == .up || (s.ifaces a.name).state == .setup) && !fails a.addr then
        { a with enabled := true }
      else a := by
  rw [add_of_some fails s p hdev, apply_ite Prod.fst]

theorem set_fst (add : Bool) :
    ∃ enabled, (interfaceSetPrefixAddress fails s p a add).1 = { a with enabled } := by
  cases hdev : (s.ifaces a.name).l3Dev with
  | none => exact ⟨a.enabled, by rw [set_of_none fails s p add hdev]⟩
  | some dev =>
    cases add with
    | false =>
      cases henabled : a.enabled with
      | false => exact ⟨a.enabled, by rw [delete_of_disabled fails s p henabled]⟩
      | true => exact ⟨false, by rw [delete_of_enabled fails s p hdev henabled]⟩
    | true =>
      rw [add_fst fails s p hdev]
      split_ifs
      · exact ⟨true, rfl⟩
      · exact ⟨a.enabled, rfl⟩

theorem set_installed (add : Bool) :
    prefixInstalled s p (interfaceSetPrefixAddress fails s p a add).1 = prefixInstalled s p a := by
  obtain ⟨enabled, hset⟩ := set_fst fails s p add
  rw [hset]
  rfl

theorem delete_calls (henabled : a.enabled = true) :
    (interfaceSetPrefixAddress fails s p a false).2.map (a.name, ·) = prefixInstalled s p a := by
  unfold prefixInstalled
  cases hdev : (s.ifaces a.name).l3Dev with
  | none => rw [set_of_none fails s p false hdev]; rfl
  | some dev => rw [delete_of_enabled fails s p hdev henabled]

theorem add_calls {c : Installed} (hc : c ∈ (interfaceSetPrefixAddress fails s p a true).2) :
    (interfaceSetPrefixAddress fails s p a true).1.enabled = true ∧
      (a.name, c) ∈ prefixInstalled s p a := by
  unfold prefixInstalled
  cases hdev : (s.ifaces a.name).l3Dev with
  | none => simp [set_of_none fails s p true hdev] at hc
  | some dev =>
    rw [add_of_some fails s p hdev] at hc ⊢
    by_cases hup : (((s.ifaces a.name).state == .up || (s.ifaces a.name).state == .setup) &&
        !fails a.addr) = true
    · rw [if_pos hup] at hc ⊢
      refine ⟨rfl, List.mem_map_of_mem ?_⟩
      cases huplink : p.iface.isSome && !a.enabled with
      | true =>
        have hsome : p.iface.isSome = true := (Bool.and_eq_true_iff.mp huplink).1
        simp only [huplink, if_true] at hc
        simp only [hsome, if_true]
        simp only [List.mem_append, List.mem_cons, List.not_mem_nil, or_false] at hc ⊢
        tauto
      | false =>
        simp only [huplink, Bool.false_eq_true, if_false, List.nil_append] at hc
        exact List.mem_append_right _ hc
    · rw [if_neg hup] at hc
      exact absurd hc List.not_mem_nil

theorem add_enabled (henabled : a.enabled = true) :
    (interfaceSetPrefixAddress fails s p a true).1.enabled = true := by
  cases hdev : (s.ifaces a.name).l3Dev with
  | none => rwa [set_of_none fails s p true hdev]
  | some dev =>
    rw [add_fst fails s p hdev]
    split_ifs
    · rfl
    · exact henabled

end Assignment

theorem mem_prefixCalls {fails : ℕ → Bool} {s : PolicyState} {p : DelegatedPrefix}
    {assignments : List PrefixAddress} {add : Bool} {c : String × Installed} :
    c ∈ prefixCalls fails s p assignments add ↔ ∃ a ∈ assignments,
      c ∈ (interfaceSetPrefixAddress fails s p a add).2.map (a.name, ·) := List.mem_flatMap

theorem mem_delete_calls {fails : ℕ → Bool} {s : PolicyState} {p : DelegatedPrefix}
    {assignments : List PrefixAddress} {a : PrefixAddress} {c : String × Installed}
    (ha : a ∈ assignments) (henabled : a.enabled = true) (hc : c ∈ prefixInstalled s p a) :
    c ∈ prefixCalls fails s p assignments false := by
  rw [mem_prefixCalls]
  exact ⟨a, ha, by rwa [delete_calls fails s p henabled]⟩

section SetEnabled

variable (fails : ℕ → Bool) {s : PolicyState} {i : String}

theorem setPrefixAddresses_enable (h : Accounted s) :
    Accounted (setPrefixAddresses fails s i true) := by
  have hkeep : ∀ p ∈ s.prefixes, ∀ a ∈ p.assignments, ∀ c, c ∈ prefixInstalled s p a →
      (a.enabled = true ∨ (a.name = i ∧
        (interfaceSetPrefixAddress fails s p a true).1.enabled = true)) →
      PrefixAccounted (setPrefixAddresses fails s i true) c := by
    intro p hp a ha c hc henabled
    refine ⟨_, List.mem_map_of_mem hp, _, List.mem_map_of_mem ha, ?_⟩
    by_cases hname : a.name = i
    · rw [if_pos hname]
      refine ⟨?_, (set_installed fails s p true).symm ▸ hc⟩
      rcases henabled with henabled | ⟨-, henabled⟩
      · exact add_enabled fails s p henabled
      · exact henabled
    · rw [if_neg hname]
      refine ⟨?_, hc⟩
      rcases henabled with henabled | ⟨hsame, -⟩
      · exact henabled
      · exact absurd hsame hname
  intro c hc
  rcases mem_issue_add.mp hc with hold | hnew
  · rcases h c hold with hpolicy | ⟨p, hp, a, ha, henabled, hmem⟩
    · exact Or.inl hpolicy
    · exact Or.inr (hkeep p hp a ha c hmem (Or.inl henabled))
  · right
    obtain ⟨p, hp, hcall⟩ := List.mem_flatMap.mp hnew
    obtain ⟨a, ha, hcall⟩ := mem_prefixCalls.mp hcall
    obtain ⟨ha, hname⟩ := List.mem_filter.mp ha
    obtain ⟨call, hmade, rfl⟩ := List.mem_map.mp hcall
    obtain ⟨henabled, hmem⟩ := add_calls fails s p hmade
    exact hkeep p hp a ha _ hmem (Or.inr ⟨by simpa using hname, henabled⟩)

theorem setPrefixAddresses_disable (h : Accounted s) :
    Accounted (setPrefixAddresses fails s i false) ∧
      ∀ c ∈ (setPrefixAddresses fails s i false).installed, c.1 = i → PolicyAccounted s c := by
  have hsplit : ∀ c ∈ (setPrefixAddresses fails s i false).installed, PolicyAccounted s c ∨
      (c.1 ≠ i ∧ PrefixAccounted (setPrefixAddresses fails s i false) c) := by
    intro c hc
    obtain ⟨hold, hkept⟩ := mem_issue_delete.mp hc
    rcases h c hold with hpolicy | ⟨p, hp, a, ha, henabled, hmem⟩
    · exact Or.inl hpolicy
    · right
      have hname : a.name ≠ i := by
        intro hname
        apply hkept
        apply List.mem_flatMap_of_mem hp
        exact mem_delete_calls (List.mem_filter.mpr ⟨ha, by simpa using hname⟩) henabled hmem
      refine ⟨prefixInstalled_name hmem ▸ hname, _, List.mem_map_of_mem hp, _,
        List.mem_map_of_mem ha, ?_⟩
      rw [if_neg hname]
      exact ⟨henabled, hmem⟩
  constructor
  · intro c hc
    rcases hsplit c hc with hpolicy | ⟨-, hprefix⟩
    · exact Or.inl hpolicy
    · exact Or.inr hprefix
  · intro c hc hi
    rcases hsplit c hc with hpolicy | ⟨hne, -⟩
    · exact hpolicy
    · exact absurd hi hne

@[simp] theorem modifyIface_same (f : PolicyIface → PolicyIface) :
    (modifyIface i f s).ifaces i = f (s.ifaces i) := Function.update_self ..

theorem modifyIface_of_ne (f : PolicyIface → PolicyIface) {j : String} (h : j ≠ i) :
    (modifyIface i f s).ifaces j = s.ifaces j := Function.update_of_ne h ..

theorem modifyIface_field {β : Type} {f : PolicyIface → PolicyIface} (g : PolicyIface → β)
    (h : ∀ iface, g (f iface) = g iface) (j : String) :
    g ((modifyIface i f s).ifaces j) = g (s.ifaces j) := by
  by_cases hj : j = i
  · rw [hj, modifyIface_same, h]
  · rw [modifyIface_of_ne f hj]

theorem Accounted.modify (h : Accounted s) {f : PolicyIface → PolicyIface}
    (hparams : ∀ iface, (f iface).params = iface.params)
    (hdev : ∀ iface, (f iface).l3Dev = iface.l3Dev)
    (hset : ∀ iface, iface.policyRulesSet = true → (f iface).policyRulesSet = true) :
    Accounted (modifyIface i f s) := by
  refine h.congr (fun _ => id) (fun _ => id) (modifyIface_field PolicyIface.params hparams) ?_
  intro c _
  refine ⟨modifyIface_field PolicyIface.l3Dev hdev c.1, ?_⟩
  by_cases hi : c.1 = i
  · rw [hi, modifyIface_same]
    exact hset _
  · rw [modifyIface_of_ne f hi]
    exact id

theorem Accounted.modify_clean (h : Accounted s) (hclean : Clean s i)
    {f : PolicyIface → PolicyIface} (hparams : ∀ iface, (f iface).params = iface.params) :
    Accounted (modifyIface i f s) := by
  refine h.congr (fun _ => id) (fun _ => id) (modifyIface_field PolicyIface.params hparams) ?_
  intro c hc
  rw [modifyIface_of_ne f (hclean c hc)]
  exact ⟨rfl, id⟩

theorem setPolicyRules_enable (h : Accounted s) {dev : NetDevice}
    (hdev : (s.ifaces i).l3Dev = some dev) : Accounted (setPolicyRules s i dev true) := by
  unfold setPolicyRules
  split_ifs with hset
  · have hmarked :
        Accounted (modifyIface i (fun iface => { iface with policyRulesSet := true }) s) :=
      h.modify (fun _ => rfl) (fun _ => rfl) fun _ _ => rfl
    apply hmarked.issue_add
    intro c hc
    obtain ⟨rule, hrule, rfl⟩ := List.mem_map.mp hc
    left
    simp only [PolicyAccounted, modifyIface_same]
    exact ⟨trivial, dev, hdev, hrule⟩
  · exact h

theorem setPolicyRules_disable (h : Accounted s) {dev : NetDevice}
    (hdev : (s.ifaces i).l3Dev = some dev)
    (hrules : ∀ c ∈ s.installed, c.1 = i → PolicyAccounted s c) :
    Accounted (setPolicyRules s i dev false) ∧ Clean (setPolicyRules s i dev false) i := by
  unfold setPolicyRules
  split_ifs with hset
  · have hclean : Clean (issue false ((policyRules (s.ifaces i).params dev).map (i, ·)) s) i := by
      intro c hc hi
      obtain ⟨hold, hkept⟩ := mem_issue_delete.mp hc
      obtain ⟨-, dev', hdev', hrule⟩ := hrules c hold hi
      rw [hi] at hdev' hrule
      obtain rfl : dev' = dev := Option.some.inj (hdev'.symm.trans hdev)
      apply hkept
      rw [← hi] at hrule ⊢
      exact List.mem_map_of_mem hrule
    exact ⟨(h.issue_delete _).modify_clean hclean fun _ => rfl, hclean⟩
  · refine ⟨h, fun c hc hi => hset ?_⟩
    have hpolicy := (hrules c hc hi).1
    simp [← hi, hpolicy]

theorem Accounted.clean_of_none (h : Accounted s) (hdev : (s.ifaces i).l3Dev = none) :
    Clean s i := by
  intro c hc hi
  rcases h c hc with ⟨-, dev, hsome, -⟩ | ⟨p, -, a, -, -, hmem⟩
  · rw [hi, hdev] at hsome
    cases hsome
  · have hname : a.name = i := (prefixInstalled_name hmem).symm.trans hi
    simp [prefixInstalled, hname, hdev] at hmem

theorem ipSetEnabled_keeps (h : Accounted s) (config enabled : Bool) :
    Accounted (interfaceIpSetEnabled fails s i config enabled) ∧
      (enabled = false → Clean (interfaceIpSetEnabled fails s i config enabled) i) := by
  unfold interfaceIpSetEnabled
  have hmarked : Accounted (modifyIface i (fun iface =>
      if config then { iface with configIp := enabled } else { iface with protoIp := enabled }) s) := by
    apply h.modify
    · intro iface
      cases config <;> rfl
    · intro iface
      cases config <;> rfl
    · intro iface hset
      cases config <;> exact hset
  dsimp only
  generalize modifyIface i (fun iface =>
    if config then { iface with configIp := enabled } else { iface with protoIp := enabled }) s = s
    at hmarked
  cases hdev : (s.ifaces i).l3Dev with
  | none => exact ⟨hmarked, fun _ => hmarked.clean_of_none hdev⟩
  | some dev =>
    cases enabled with
    | true =>
      have hloop := setPrefixAddresses_enable fails (i := i) hmarked
      exact ⟨setPolicyRules_enable hloop hdev, nofun⟩
    | false =>
      obtain ⟨hloop, hrules⟩ := setPrefixAddresses_disable fails (i := i) hmarked
      obtain ⟨haccounted, hclean⟩ := setPolicyRules_disable hloop hdev hrules
      exact ⟨haccounted, fun _ => hclean⟩

end SetEnabled

section Prefixes

variable {fails : ℕ → Bool} {s : PolicyState} {i : String}

theorem Accounted.drop (h : Accounted s) {calls : List (String × Installed)}
    {prefixes : List DelegatedPrefix}
    (hkept : ∀ p ∈ s.prefixes, p ∈ prefixes ∨ ∀ c ∈ prefixCalls (fun _ => false) s p p.assignments false,
      c ∈ calls) : Accounted { issue false calls s with prefixes } := by
  intro c hc
  obtain ⟨hold, hleft⟩ := mem_issue_delete.mp hc
  rcases h c hold with hpolicy | ⟨p, hp, a, ha, henabled, hmem⟩
  · exact Or.inl hpolicy
  · rcases hkept p hp with hin | hcalls
    · exact Or.inr ⟨p, hin, a, ha, henabled, hmem⟩
    · exact absurd (hcalls c (mem_delete_calls ha henabled hmem)) hleft

theorem flushPrefixes_accounted (h : Accounted s) : Accounted (flushPrefixes s i) := by
  apply h.drop
  intro p hp
  by_cases huplink : p.iface = some i
  · right
    intro c hc
    apply List.mem_flatMap_of_mem (List.mem_filter.mpr ⟨hp, by simpa using huplink⟩) hc
  · left
    exact List.mem_filter.mpr ⟨hp, by simpa using huplink⟩

theorem mem_eraseIdx_of_ne {n : ℕ} {p q : DelegatedPrefix} (hp : s.prefixes[n]? = some p)
    (hq : q ∈ s.prefixes) : q = p ∨ q ∈ s.prefixes.eraseIdx n := by
  obtain ⟨hlt, rfl⟩ := List.getElem?_eq_some_iff.mp hp
  exact List.mem_cons.mp ((List.getElem_cons_eraseIdx_perm hlt).mem_iff.mpr hq)

theorem dropPrefix_accounted (h : Accounted s) {n : ℕ} {p : DelegatedPrefix}
    (hp : s.prefixes[n]? = some p) : Accounted (dropPrefix s n p) := by
  apply h.drop
  intro q hq
  rcases mem_eraseIdx_of_ne hp hq with rfl | hrest
  · exact Or.inr fun _ => id
  · exact Or.inl hrest

theorem addAssignments_accounted {p : DelegatedPrefix}
    {place : DelegatedPrefix → List DelegatedPrefix} (hplace : ∀ q, q ∈ place q)
    (h : Accounted { s with prefixes := p :: s.prefixes })
    (hkept : ∀ q, ∀ r ∈ s.prefixes, r ≠ p → r ∈ place q) :
    Accounted (addAssignments fails s p place) := by
  have hmem : ∀ a ∈ p.assignments, ∀ c, c ∈ prefixInstalled s p a →
      (interfaceSetPrefixAddress fails s p a true).1.enabled = true →
      PrefixAccounted (addAssignments fails s p place) c := by
    intro a ha c hc henabled
    exact ⟨_, hplace _, _, List.mem_map_of_mem ha, henabled, (set_installed fails s p true).symm ▸ hc⟩
  intro c hc
  rcases mem_issue_add.mp hc with hold | hnew
  · rcases h c hold with hpolicy | ⟨q, hq, a, ha, henabled, hinstalled⟩
    · exact Or.inl hpolicy
    · right
      by_cases hsame : q = p
      · subst hsame
        exact hmem a ha c hinstalled (add_enabled fails s q henabled)
      · have hrest : q ∈ s.prefixes := (List.mem_cons.mp hq).resolve_left hsame
        exact ⟨q, hkept _ q hrest hsame, a, ha, henabled, hinstalled⟩
  · right
    obtain ⟨a, ha, hcall⟩ := mem_prefixCalls.mp hnew
    obtain ⟨call, hmade, rfl⟩ := List.mem_map.mp hcall
    obtain ⟨henabled, hinstalled⟩ := add_calls fails s p hmade
    exact hmem a ha _ hinstalled henabled

end Prefixes

section Down

variable {fails : ℕ → Bool} {s : PolicyState} {i : String}

theorem disableIp_keeps (h : Accounted s) :
    Accounted (disableIp s i) ∧ Clean (disableIp s i) i := by
  obtain ⟨hfirst, -⟩ := ipSetEnabled_keeps (fun _ => false) (i := i) h true false
  obtain ⟨hsecond, hclean⟩ := ipSetEnabled_keeps (fun _ => false) (i := i) hfirst false false
  refine ⟨flushPrefixes_accounted hsecond, fun c hc => ?_⟩
  exact hclean rfl c (mem_issue_delete.mp hc).1

theorem markInterfaceDown_keeps (h : Accounted s) (hstate : (s.ifaces i).state ≠ .down) :
    Accounted (markInterfaceDown s i) ∧ Clean (markInterfaceDown s i) i := by
  rw [markInterfaceDown, if_neg hstate]
  apply disableIp_keeps
  exact h.modify (fun _ => rfl) (fun _ => rfl) fun _ => id

theorem protoDown_accounted (h : Accounted s) : Accounted (interfaceProtoDown s i) := by
  unfold interfaceProtoDown
  split_ifs with hstate
  · exact h
  · obtain ⟨hdown, hclean⟩ := markInterfaceDown_keeps h hstate
    exact hdown.modify_clean hclean fun _ => rfl

theorem setL3Dev_accounted (h : Accounted s) (dev : Option NetDevice) :
    Accounted (interfaceSetL3Dev s i dev) := by
  unfold interfaceSetL3Dev
  split_ifs
  · exact h
  · obtain ⟨hdisabled, hclean⟩ := disableIp_keeps (i := i) h
    exact hdisabled.modify_clean hclean fun _ => rfl

end Down

/-- Nothing is installed that was made out of a value that the reload changes: no rule for a
table of the interface, no route of an address out of a prefix, no rule for an address out of a
prefix of the interface. -/
structure ReloadOk (s : PolicyState) (i : String) (params : RouteParams) : Prop where
  rules : ∀ v6, ipTable params v6 ≠ ipTable (s.ifaces i).params v6 →
    ∀ dev, (s.ifaces i).l3Dev = some dev →
      ∀ c ∈ setIpLoPolicy v6 (s.ifaces i).params dev, (i, c) ∉ s.installed
  routes : params.metric ≠ (s.ifaces i).params.metric ∨
      params.ip6table ≠ (s.ifaces i).params.ip6table →
    ∀ dev, (s.ifaces i).l3Dev = some dev → ∀ p ∈ s.prefixes, ∀ a ∈ p.assignments, a.name = i →
      (i, .route dev (a.route (s.ifaces i).params)) ∉ s.installed
  uplink : params.ip6table ≠ (s.ifaces i).params.ip6table →
    ∀ p ∈ s.prefixes, p.iface = some i → ∀ a ∈ p.assignments,
      ∀ dev, (s.ifaces a.name).l3Dev = some dev →
        ∀ c ∈ a.tableRule dev (s.ifaces i).params.ip6table, (a.name, c) ∉ s.installed

/-- A reload finds nothing installed that it would change. -/
def PolicyOk (s : PolicyState) : PolicyOp → Prop
  | .changeConfig _ i params _ => ReloadOk s i params
  | _ => True

section Reload

variable {s : PolicyState} {i : String} {params : RouteParams}

theorem setIpLoPolicy_congr {params params' : RouteParams} {v6 : Bool}
    (h : ipTable params' v6 = ipTable params v6) (dev : NetDevice) :
    setIpLoPolicy v6 params' dev = setIpLoPolicy v6 params dev := by
  rw [setIpLoPolicy, h, setIpLoPolicy]

theorem route_congr {params params' : RouteParams} (a : PrefixAddress)
    (hmetric : params'.metric = params.metric) (htable : params'.ip6table = params.ip6table) :
    a.route params' = a.route params := by
  have hown : hasFlag 1 DEVROUTE_METRIC = false := by decide
  have hinet6 : hasFlag 1 DEVADDR_INET6 = true := by decide
  simp only [PrefixAddress.route, interfaceSetRouteInfo, setRouteTable, setRouteMetric,
    DeviceRoute.v6, hown, hinet6, hmetric, htable, Bool.not_false, if_true]

theorem mem_prefixInstalled {s : PolicyState} {p : DelegatedPrefix} {a : PrefixAddress}
    {c : String × Installed} : c ∈ prefixInstalled s p a ↔
      c.1 = a.name ∧ ∃ dev, (s.ifaces a.name).l3Dev = some dev ∧
        (p.iface.isSome = true ∧ (c.2 ∈ a.tableRule dev (uplinkTable s p) ∨ c.2 = a.rejectRule dev) ∨
          c.2 = .route dev (a.route (s.ifaces a.name).params)) := by
  obtain ⟨j, r⟩ := c
  unfold prefixInstalled
  cases (s.ifaces a.name).l3Dev with
  | none => simp
  | some dev =>
    cases p.iface.isSome with
    | false => simp
    | true =>
      simp [and_comm, eq_comm, or_assoc]
      tauto

/-- New parameters for an interface, when nothing is installed that they would change. -/
theorem Accounted.set_params (h : Accounted s) (hok : ReloadOk s i params) :
    Accounted (modifyIface i (fun iface => { iface with params }) s) := by
  have hdev := modifyIface_field (s := s) (i := i) (f := fun iface => { iface with params })
    PolicyIface.l3Dev fun _ => rfl
  have hset := modifyIface_field (s := s) (i := i) (f := fun iface => { iface with params })
    PolicyIface.policyRulesSet fun _ => rfl
  intro c hc
  rcases h c hc with ⟨hold, dev, hsome, hrule⟩ | ⟨p, hp, a, ha, henabled, hmem⟩
  · refine Or.inl ⟨(hset c.1).trans hold, dev, (hdev c.1).trans hsome, ?_⟩
    by_cases hi : c.1 = i
    · rw [hi] at hsome hrule
      have hc' : (i, c.2) ∈ s.installed := by rwa [← hi]
      have hlo : ∀ v6, c.2 ∈ setIpLoPolicy v6 (s.ifaces i).params dev →
          c.2 ∈ setIpLoPolicy v6 params dev := by
        intro v6 hv6
        by_cases htable : ipTable params v6 = ipTable (s.ifaces i).params v6
        · rwa [setIpLoPolicy_congr htable]
        · exact absurd hc' (hok.rules v6 htable dev hsome _ hv6)
      rw [hi, modifyIface_same]
      simp only [policyRules, List.mem_append, or_assoc] at hrule ⊢
      rcases hrule with h6 | h4 | hfailed
      · exact Or.inl (hlo true h6)
      · exact Or.inr (Or.inl (hlo false h4))
      · exact Or.inr (Or.inr hfailed)
    · rwa [modifyIface_of_ne _ hi]
  · refine Or.inr ⟨p, hp, a, ha, henabled, ?_⟩
    rw [mem_prefixInstalled] at hmem ⊢
    obtain ⟨hname, dev, hsome, hkind⟩ := hmem
    have hc' : (a.name, c.2) ∈ s.installed := by rwa [← hname]
    refine ⟨hname, dev, (hdev a.name).trans hsome, ?_⟩
    rcases hkind with ⟨huplink, htable | hreject⟩ | hroute
    · refine Or.inl ⟨huplink, Or.inl ?_⟩
      by_cases hsame : uplinkTable (modifyIface i (fun iface => { iface with params }) s) p =
          uplinkTable s p
      · rwa [hsame]
      · exfalso
        cases hp' : p.iface with
        | none => simp [hp'] at huplink
        | some uplink =>
          simp only [uplinkTable, hp'] at hsame htable
          by_cases hi : uplink = i
          · subst hi
            rw [modifyIface_same] at hsame
            exact hok.uplink hsame p hp hp' a ha dev hsome _ htable hc'
          · rw [modifyIface_of_ne _ hi] at hsame
            exact hsame rfl
    · exact Or.inl ⟨huplink, Or.inr hreject⟩
    · right
      by_cases hi : a.name = i
      · rw [hi, modifyIface_same]
        rw [hi] at hsome hroute hc'
        by_cases hsame : params.metric = (s.ifaces i).params.metric ∧
            params.ip6table = (s.ifaces i).params.ip6table
        · rw [hroute, route_congr a hsame.1 hsame.2]
        · have hchange := not_and_or.mp hsame
          have hnone := hok.routes hchange dev hsome p hp a ha hi
          exact absurd (hroute ▸ hc') hnone
      · rwa [modifyIface_of_ne _ hi]

theorem changeConfig_accounted (fails : ℕ → Bool) (h : Accounted s) (hok : ReloadOk s i params)
    (reload : Bool) : Accounted (interfaceChangeConfig fails s i params reload) := by
  have hparams := h.set_params hok
  unfold interfaceChangeConfig
  dsimp only
  split_ifs
  · have hconfig := (ipSetEnabled_keeps fails (i := i) hparams true false).1
    have hproto := (ipSetEnabled_keeps fails (i := i) hconfig false false).1
    have hproto' := (ipSetEnabled_keeps fails (i := i) hproto false
      (s.ifaces i).protoIp).1
    exact (ipSetEnabled_keeps fails hproto' true (s.ifaces i).configIp).1
  · exact hparams

end Reload

/-- One step, where a reload changes nothing that something is installed for. -/
theorem policyStep_accounted (s : PolicyState) (op : PolicyOp) (h : Accounted s)
    (hok : PolicyOk s op) : Accounted (policyStep s op) := by
  cases op with
  | changeConfig fails i params reload => exact changeConfig_accounted fails h hok reload
  | setState i state => exact h.modify (fun _ => rfl) (fun _ => rfl) fun _ => id
  | setEnabled fails i config enabled => exact (ipSetEnabled_keeps fails h config enabled).1
  | setL3Dev i dev => exact setL3Dev_accounted h dev
  | markDown i =>
    by_cases hstate : (s.ifaces i).state = .down
    · rwa [policyStep, markInterfaceDown, if_pos hstate]
    · exact (markInterfaceDown_keeps h hstate).1
  | protoDown i => exact protoDown_accounted h
  | addPrefix fails iface assignments =>
    apply addAssignments_accounted (fun q => List.mem_cons_self)
    · exact h.congr (fun _ => id) (fun _ => List.mem_cons_of_mem _) (fun _ => rfl)
        fun _ _ => ⟨rfl, id⟩
    · exact fun q r hr _ => List.mem_cons_of_mem _ hr
  | sendPrefixAgain fails n =>
    cases hp : s.prefixes[n]? with
    | none => simpa only [policyStep, hp] using h
    | some p =>
      simp only [policyStep, hp]
      apply addAssignments_accounted (fun q => List.mem_cons_self)
      · exact h.congr (fun _ => id) (fun _ => List.mem_cons_of_mem _) (fun _ => rfl)
          fun _ _ => ⟨rfl, id⟩
      · intro q r hr hne
        exact List.mem_cons_of_mem _ ((mem_eraseIdx_of_ne hp hr).resolve_left hne)
  | updateAssignments fails n assignments =>
    cases hp : s.prefixes[n]? with
    | none => simpa only [policyStep, hp] using h
    | some p =>
      obtain ⟨hlt, -⟩ := List.getElem?_eq_some_iff.mp hp
      have hmem : ∀ q r, r ∈ q :: s.prefixes.eraseIdx n → r ∈ s.prefixes.set n q :=
        fun q r hr => (List.set_perm_cons_eraseIdx hlt q).mem_iff.mpr hr
      simp only [policyStep, hp]
      apply addAssignments_accounted fun q => hmem q q List.mem_cons_self
      · exact (dropPrefix_accounted h hp).congr (fun _ => id) (fun _ => List.mem_cons_of_mem _)
          (fun _ => rfl) fun _ _ => ⟨rfl, id⟩
      · exact fun q r hr _ => hmem q r (List.mem_cons_of_mem _ hr)
  | removePrefix n =>
    cases hp : s.prefixes[n]? with
    | none => simpa only [policyStep, hp] using h
    | some p => simpa only [policyStep, hp] using dropPrefix_accounted h hp

/-- From the start, with nothing installed, `interface_ip_set_enabled` removes all that was
installed for an interface whenever it disables it, in every run whose reloads change nothing
that something is installed for. -/
theorem policy_removed_of_run (ifaces : String → PolicyIface) (ops : List PolicyOp)
    (hok : AllOk policyStep PolicyOk { ifaces } ops) (n : ℕ) (fails : ℕ → Bool) (i : String)
    (config : Bool) :
    ∀ c ∈ (interfaceIpSetEnabled fails (run policyStep { ifaces } (ops.take n)) i config
      false).installed, c.1 ≠ i := by
  have hstart : Accounted { ifaces } := fun c hc => absurd hc (Finset.notMem_empty c)
  have hrun := run_property_of_allOk policyStep_accounted hstart hok n
  exact (ipSetEnabled_keeps fails hrun config false).2 rfl

/-- A reload while nothing is installed, and then an uplink that goes up. -/
def uplinkOps : List PolicyOp :=
  [.changeConfig (fun _ => false) "wan" { ip4table := 6 } false,
    .setL3Dev "wan" (some ⟨"eth0", 2⟩), .setState "wan" .setup,
    .setEnabled (fun _ => false) "wan" true true]

def uplinkIfaces : String → PolicyIface := fun _ => { params := { ip4table := 5 } }

def uplinkRule : IpRule := { v6 := false, priority := 90002, lookup := some 6, inDev := some "lo" }

/-- Its rule is there, and is removed when it goes down. -/
theorem policy_removed_of_run_uplink :
    ("wan", .rule uplinkRule) ∈
        (run policyStep { ifaces := uplinkIfaces } (uplinkOps.take 4)).installed ∧
      ("wan", .rule uplinkRule) ∉
        (interfaceIpSetEnabled (fun _ => false)
          (run policyStep { ifaces := uplinkIfaces } (uplinkOps.take 4)) "wan" true
          false).installed := by
  have hok : AllOk policyStep PolicyOk { ifaces := uplinkIfaces } uplinkOps := by
    refine ⟨⟨?_, ?_, ?_⟩, trivial, trivial, trivial, trivial⟩
    · exact fun _ _ _ _ c _ hc => Finset.notMem_empty _ hc
    · exact fun _ _ _ p hp => absurd hp List.not_mem_nil
    · exact fun _ p hp => absurd hp List.not_mem_nil
  refine ⟨by decide +kernel, fun hrule => ?_⟩
  exact policy_removed_of_run uplinkIfaces uplinkOps hok 4 _ "wan" true _ hrule rfl

/-- A reload gives an interface that is up another table: the rule for the old one stays. -/
theorem policy_rule_stays :
    ¬∀ ifaces ops fails i config,
      ∀ c ∈ (interfaceIpSetEnabled fails (run policyStep { ifaces } ops) i config false).installed,
        c.1 ≠ i := by
  intro h
  have hgone := h (fun _ => { params := { ip4table := 5 }, l3Dev := some ⟨"eth0", 2⟩ })
    [.setState "wan" .setup, .setEnabled (fun _ => false) "wan" true true, .setState "wan" .up,
      .changeConfig (fun _ => false) "wan" { ip4table := 6 } false] (fun _ => false) "wan" true
    ("wan", .rule { v6 := false, priority := 90002, lookup := some 5, inDev := some "lo" })
    (by decide +kernel)
  exact hgone rfl

end Netifd.PolicyRules
