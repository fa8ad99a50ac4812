import Netifd.VersionedLists
import Netifd.PrefixAssignment

/-!
# The configuration of an interface

The fields that `interface_alloc` and `__interface_add` read off the configuration, and the
reload path `interface_change_config` that copies them into an interface which exists.
-/

namespace Netifd

/-- The value of an attribute; of an array only its strings matter, anything else in it is
skipped. -/
inductive BlobValue
  | string (s : String)
  | bool (b : Bool)
  | int32 (n : ℕ)
  | array (elements : List (Option String))
  deriving DecidableEq

/-- `struct blob_attr *config`, as its attributes by name. -/
abbrev Blob := String → Option BlobValue

namespace Blob

def getString (b : Blob) (name : String) : Option String :=
  match b name with
  | some (.string s) => some s
  | _ => none

def getU32 (b : Blob) (name : String) : Option ℕ :=
  match b name with
  | some (.int32 n) => some n
  | _ => none

def getArray (b : Blob) (name : String) : Option (List String) :=
  match b name with
  | some (.array elements) => some (elements.filterMap id)
  | _ => none

/-- `blobmsg_get_bool_default`. -/
def getBoolDefault (b : Blob) (name : String) (val : Bool) : Bool :=
  match b name with
  | some (.bool x) => x
  | _ => val

/-- `uci_blob_check_equal`. -/
def checkEqual (c1 c2 : Blob) (params : List String) : Bool :=
  params.all fun name => c1 name == c2 name

end Blob

/-- `struct proto_handler`, with its flags. -/
structure ProtoHandler where
  name : String
  immediate : Bool := false
  nodev : Bool := false
  initAvailable : Bool := false
  renewAvailable : Bool := false
  forceLinkDefault : Bool := false
  lastError : Bool := false
  teardownOnL3LinkDown : Bool := false
  noTask : Bool := false
  configParams : Option (List String) := none
  deriving DecidableEq

def noProto : ProtoHandler := { name := "none", immediate := true }

structure DnsServer where
  v6 : Bool
  addr : ℕ
  deriving DecidableEq

/-- `enum interface_id_selection_type`. -/
inductive IfaceIdSelection
  | fixed | random | eui64
  deriving DecidableEq

/-- The part of `struct interface_ip_settings` that is configured. -/
structure InterfaceIpSettings where
  noDefaultroute : Bool := false
  noDns : Bool := false
  noDelegation : Bool := false
  dnsServers : VlistSimple DnsServer := {}
  dnsSearch : VlistSimple String := {}

/-- The part of `struct interface` that is configured. -/
structure Interface extends AssignedInterface where
  ifname : Option String := none
  parentIfname : Option String := none
  config : Blob := fun _ => none
  protoHandler : ProtoHandler := noProto
  deviceConfig : Bool := false
  autostart : Bool := true
  configAutostart : Bool := true
  forceLink : Bool := false
  dynamic : Bool := false
  metric : ℤ := 0
  dnsMetric : ℤ := 0
  ip4table : ℕ := 0
  ip6table : ℕ := 0
  protoIp : InterfaceIpSettings := {}
  configIp : InterfaceIpSettings := {}
  assignmentIfaceIdSelection : IfaceIdSelection := .fixed
  assignmentFixedIfaceId : ℕ := 1

/-- What the code takes from its libraries and from the running system: the parsing of
addresses and of hexadecimal numbers, the names of routing tables, the protocol handlers. -/
structure ConfigEnv where
  inetPton : Bool → String → Option ℕ
  strtol16 : String → ℤ
  resolveRtTable : String → Option ℕ
  handlers : String → Option ProtoHandler

section Parsing

variable (env : ConfigEnv)

/-- An `int` assigned from an unsigned number. -/
def toInt32 (n : ℤ) : ℤ := Int.bmod n (2 ^ 32)

def protoAttachInterface (protoName : Option String) : ProtoHandler :=
  match protoName with
  | none => noProto
  | some name => if name = "none" then noProto else (env.handlers name).getD noProto

def interfaceAddDnsServer (tree : VlistSimple DnsServer) (str : String) : VlistSimple DnsServer :=
  match env.inetPton false str with
  | some addr => tree.add { v6 := false, addr }
  | none =>
    match env.inetPton true str with
    | some addr => tree.add { v6 := true, addr }
    | none => tree

/-- The fixed interface id, if `str` is an address with network id zero. -/
def parseIfaceId (str : String) : ℕ :=
  match env.inetPton true str with
  | some addr => if addr / 2 ^ 64 = 0 then addr else 1
  | none => 1

/-- The selection of the interface id and the fixed id. -/
def ifaceIdOf : Option String → IfaceIdSelection × ℕ
  | none => (.fixed, 1)
  | some str =>
    if str = "random" then (.random, 1)
    else if str = "eui64" then (.eui64, 1)
    else (.fixed, parseIfaceId env str)

/-- `strtol(hint, NULL, 16) & ~((1 << (64 - length)) - 1)`, or `-1` without a hint. -/
def hintOf (length : ℕ) : Option String → ℤ
  | none => -1
  | some str =>
    let hint := env.strtol16 str
    toInt32 (hint - hint % 2 ^ (64 - length))

def interfaceAlloc (name : String) (config : Blob) : Interface :=
  let protoHandler := protoAttachInterface env (config.getString "proto")
  let autostart := config.getBoolDefault "auto" true
  let length := ((config.getU32 "ip6assign").getD 0) % 2 ^ 8
  let ifaceId := ifaceIdOf env (config.getString "ip6ifaceid")
  { name
    protoHandler
    autostart
    configAutostart := autostart
    forceLink := config.getBoolDefault "force_link" protoHandler.forceLinkDefault
    protoIp :=
      { noDefaultroute := !config.getBoolDefault "defaultroute" true
        noDns := !config.getBoolDefault "peerdns" true
        noDelegation := !config.getBoolDefault "delegate" true }
    configIp :=
      { dnsServers := ((config.getArray "dns").getD []).foldl (interfaceAddDnsServer env) {}
        dnsSearch := ((config.getArray "dns_search").getD []).foldl VlistSimple.add {} }
    dnsMetric := toInt32 ((config.getU32 "dns_metric").getD 0)
    metric := toInt32 ((config.getU32 "metric").getD 0)
    assignmentLength := length
    assignmentIfaceIdSelection := ifaceId.1
    assignmentFixedIfaceId := ifaceId.2
    assignmentHint := hintOf env length (config.getString "ip6hint")
    -- each class is put in front of those before it
    assignmentClasses := ((config.getArray "ip6class").getD []).reverse
    assignmentWeight := toInt32 ((config.getU32 "ip6weight").getD 0)
    ip4table := ((config.getString "ip4table").bind env.resolveRtTable).getD 0
    ip6table := ((config.getString "ip6table").bind env.resolveRtTable).getD 0 }

def interfaceSetDynamic (iface : Interface) : Interface :=
  { iface with dynamic := true, autostart := true }

/-- `__interface_add`, up to the insertion into the table. -/
def interfaceAddConfig (iface : Interface) (config : Blob) (isAlias : Bool) : Option Interface :=
  if isAlias then
    match config.getString "interface" with
    | some parent => some { iface with parentIfname := some parent, config }
    | none => none
  else some { iface with ifname := config.getString "ifname", config }

/-- `interface_add_alias`, up to the insertion into the table. -/
def interfaceAddAlias (iface : Interface) (config : Blob) : Option Interface :=
  if iface.protoHandler.nodev then none else interfaceAddConfig iface config true

/-- The attributes of a device, `device_attr_list`. -/
def deviceAttrs : List String :=
  ["type", "mtu", "mtu6", "macaddr", "txqueuelen", "enabled", "ipv6", "promisc", "rpfilter",
    "acceptlocal", "igmpversion", "mldversion", "neighreachabletime", "neighgcstaletime", "rps",
    "xps", "dadtransmits", "multicast_to_unicast", "multicast_router", "multicast_fast_leave",
    "multicast", "learning", "unicast_flood", "sendredirects", "neighlocktime"]

/-- `config_parse_interface`; an interface of its own bridge leaves the device attributes to
the bridge. -/
def configParseInterface (name : String) (config : Blob) (bridge isAlias : Bool) :
    Option Interface :=
  let iface :=
    { interfaceAlloc env name config with
      deviceConfig := !bridge && deviceAttrs.any fun attr => (config attr).isSome }
  if isAlias then interfaceAddAlias iface config else interfaceAddConfig iface config false

/-- The records that are handed to the table of interfaces: from the configuration file, or
from a request to add a dynamic interface. -/
inductive Parsed : Interface → Prop
  | config {name : String} {config : Blob} {bridge isAlias : Bool} {iface : Interface}
      (h : configParseInterface env name config bridge isAlias = some iface) : Parsed iface
  | dynamic {name : String} {config : Blob} {iface : Interface}
      (h : interfaceAddConfig (interfaceAlloc env name config) config false = some iface) :
      Parsed iface

end Parsing

/-- `interface_device_config_changed`; `dev` says that the interface has a main device. -/
def interfaceDeviceConfigChanged (dev : Bool) (ifOld ifNew : Interface) : Bool :=
  if !dev then false
  else if ifOld.deviceConfig ≠ ifNew.deviceConfig then true
  else if !ifNew.deviceConfig then false
  else !ifNew.config.checkEqual ifOld.config deviceAttrs

/-- The loop of `interface_merge_assignment_data` over the new classes: what is left of the
old ones, and whether a change was seen. -/
def compareClasses : List String → List String → Bool → List String × Bool
  | old, [], changed => (old, changed)
  | [], _ :: _, _ => ([], true)
  | cOld :: old, c :: new, changed =>
    if changed then (cOld :: old, true)
    else if cOld ≠ c then (cOld :: old, false)
    else compareClasses old new false

/-- `interface_merge_assignment_data`: the merged record, and whether the assignments have
to be refreshed. -/
def interfaceMergeAssignmentData (old new : Interface) : Interface × Bool :=
  let changed :=
    old.assignmentHint != new.assignmentHint ||
    old.assignmentLength != new.assignmentLength ||
    old.assignmentIfaceIdSelection != new.assignmentIfaceIdSelection ||
    old.assignmentWeight != new.assignmentWeight ||
    (old.assignmentIfaceIdSelection == .fixed &&
      old.assignmentFixedIfaceId != new.assignmentFixedIfaceId) ||
    old.assignmentClasses.isEmpty != new.assignmentClasses.isEmpty
  let rest := compareClasses old.assignmentClasses new.assignmentClasses changed
  let changed := rest.2 || !rest.1.isEmpty
  let old := { old with assignmentClasses := new.assignmentClasses }
  if changed then
    ({ old with
        assignmentHint := new.assignmentHint
        assignmentLength := new.assignmentLength
        assignmentIfaceIdSelection := new.assignmentIfaceIdSelection
        assignmentFixedIfaceId := new.assignmentFixedIfaceId
        assignmentWeight := new.assignmentWeight }, true)
  else (old, false)

/-- What a reload does: the new record, and which actions it leads to. -/
structure ConfigChange where
  iface : Interface
  reload : Bool
  reloadIp : Bool
  refreshAssignments : Bool

/-- The fields that `interface_change_config` copies one by one. -/
def copyConfig (ifOld ifNew : Interface) : Interface :=
  { ifOld with
    config := ifNew.config
    autostart :=
      if ifOld.configAutostart ≠ ifNew.configAutostart then ifNew.configAutostart
      else ifOld.autostart
    deviceConfig := ifNew.deviceConfig
    configAutostart := ifNew.configAutostart
    ifname := ifNew.ifname
    parentIfname := ifNew.parentIfname
    protoHandler := ifNew.protoHandler
    forceLink := ifNew.forceLink
    dnsMetric := ifNew.dnsMetric
    metric := ifNew.metric
    ip4table := ifNew.ip4table
    ip6table := ifNew.ip6table
    protoIp :=
      { ifOld.protoIp with
        noDns := ifNew.protoIp.noDns
        noDefaultroute := ifNew.protoIp.noDefaultroute }
    configIp :=
      { ifOld.configIp with
        dnsServers := ifOld.configIp.dnsServers.replace ifNew.configIp.dnsServers
        dnsSearch := ifOld.configIp.dnsSearch.replace ifNew.configIp.dnsSearch } }

/-- `interface_change_config`, up to the actions. -/
def interfaceChangeConfig (dev : Bool) (ifOld ifNew : Interface) : ConfigChange :=
  let merged := interfaceMergeAssignmentData (copyConfig ifOld ifNew) ifNew
  { iface := merged.1
    reload :=
      ifOld.parentIfname != ifNew.parentIfname ||
      interfaceDeviceConfigChanged dev ifOld ifNew ||
      (ifOld.ifname != ifNew.ifname || ifOld.protoHandler != ifNew.protoHandler) ||
      (match ifOld.protoHandler.configParams with
        | none => false
        | some params => !ifOld.config.checkEqual ifNew.config params) ||
      (ifOld.configAutostart != ifNew.configAutostart && ifOld.configAutostart)
    reloadIp :=
      ifOld.metric != ifNew.metric ||
      ifOld.protoIp.noDefaultroute != ifNew.protoIp.noDefaultroute ||
      ifOld.ip4table != ifNew.ip4table || ifOld.ip6table != ifNew.ip6table
    refreshAssignments := merged.2 }

/-- The interfaces in the table: added with some configuration and reloaded with others.
Between reloads the code writes `autostart`, `dynamic` and the DNS data of the protocol, and
the end of an update flushes the static DNS data. -/
inductive Existing (env : ConfigEnv) : Interface → Prop
  | added {iface : Interface} (h : Parsed env iface) : Existing env iface
  | reloaded (dev : Bool) {ifOld ifNew : Interface} (hold : Existing env ifOld)
      (hnew : Parsed env ifNew) : Existing env (interfaceChangeConfig dev ifOld ifNew).iface
  | ran {iface : Interface} (h : Existing env iface) (autostart dynamic : Bool)
      (dnsServers : VlistSimple DnsServer) (dnsSearch : VlistSimple String) :
      Existing env
        { iface with autostart, dynamic, protoIp := { iface.protoIp with dnsServers, dnsSearch } }
  | updated {iface : Interface} (h : Existing env iface) :
      Existing env
        { iface with
          configIp :=
            { iface.configIp with
              dnsServers := iface.configIp.dnsServers.flush
              dnsSearch := iface.configIp.dnsSearch.flush } }

/-- The assignment parameters that matter: the fixed id only where it is selected. -/
def Interface.effectiveAssignment (iface : Interface) :
    ℕ × ℤ × ℤ × IfaceIdSelection × Option ℕ :=
  (iface.assignmentLength, iface.assignmentHint, iface.assignmentWeight,
    iface.assignmentIfaceIdSelection,
    if iface.assignmentIfaceIdSelection = .fixed then some iface.assignmentFixedIfaceId else none)

/-- Two records agree in all that the configuration determines. -/
structure SameConfiguration (a b : Interface) : Prop where
  config : a.config = b.config
  protoHandler : a.protoHandler = b.protoHandler
  ifname : a.ifname = b.ifname
  parentIfname : a.parentIfname = b.parentIfname
  deviceConfig : a.deviceConfig = b.deviceConfig
  configAutostart : a.configAutostart = b.configAutostart
  forceLink : a.forceLink = b.forceLink
  dnsMetric : a.dnsMetric = b.dnsMetric
  metric : a.metric = b.metric
  ip4table : a.ip4table = b.ip4table
  ip6table : a.ip6table = b.ip6table
  noDefaultroute : a.protoIp.noDefaultroute = b.protoIp.noDefaultroute
  noDns : a.protoIp.noDns = b.protoIp.noDns
  noDelegation : a.protoIp.noDelegation = b.protoIp.noDelegation
  dnsServers : a.configIp.dnsServers.values = b.configIp.dnsServers.values
  dnsSearch : a.configIp.dnsSearch.values = b.configIp.dnsSearch.values
  assignment : a.effectiveAssignment = b.effectiveAssignment
  classes : a.assignmentClasses = b.assignmentClasses

theorem compareClasses_same {old new : List String} {changed : Bool}
    (h : compareClasses old new changed = ([], false)) : old = new ∧ changed = false := by
  induction old generalizing new changed with
  | nil => cases new <;> simp_all [compareClasses]
  | cons cOld old ih =>
    cases new with
    | nil => simp [compareClasses] at h
    | cons c new =>
      simp only [compareClasses] at h
      split_ifs at h with hchanged hne
      · simp at h
      · simp at h
      · obtain ⟨rfl, _⟩ := ih h
        exact ⟨by rw [not_not.mp hne], by simpa using hchanged⟩

theorem interfaceMergeAssignmentData_eq (old new : Interface) :
    ∃ fixedId, (new.assignmentIfaceIdSelection = .fixed → fixedId = new.assignmentFixedIfaceId) ∧
      (interfaceMergeAssignmentData old new).1 =
        { old with
          assignmentClasses := new.assignmentClasses
          assignmentHint := new.assignmentHint
          assignmentLength := new.assignmentLength
          assignmentIfaceIdSelection := new.assignmentIfaceIdSelection
          assignmentFixedIfaceId := fixedId
          assignmentWeight := new.assignmentWeight } := by
  unfold interfaceMergeAssignmentData
  simp only
  split_ifs with hchanged
  · exact ⟨new.assignmentFixedIfaceId, fun _ => rfl, rfl⟩
  · -- nothing has changed, so that every comparison came out equal
    simp only [Bool.or_eq_true, not_or, Bool.not_eq_true, Bool.not_eq_false',
      List.isEmpty_iff] at hchanged
    obtain ⟨-, hsame⟩ := compareClasses_same (Prod.ext hchanged.2 hchanged.1)
    simp only [Bool.or_eq_false_iff, Bool.and_eq_false_iff, bne_eq_false_iff_eq] at hsame
    obtain ⟨⟨⟨⟨⟨hhint, hlength⟩, hselection⟩, hweight⟩, hfixed⟩, -⟩ := hsame
    refine ⟨old.assignmentFixedIfaceId, ?_, ?_⟩
    · intro hnew
      rw [hselection, hnew] at hfixed
      simpa using hfixed
    · rw [← hhint, ← hlength, ← hselection, ← hweight]

theorem interfaceChangeConfig_iface (dev : Bool) (ifOld ifNew : Interface) :
    ∃ fixedId,
      (ifNew.assignmentIfaceIdSelection = .fixed → fixedId = ifNew.assignmentFixedIfaceId) ∧
      (interfaceChangeConfig dev ifOld ifNew).iface =
        { copyConfig ifOld ifNew with
          assignmentClasses := ifNew.assignmentClasses
          assignmentHint := ifNew.assignmentHint
          assignmentLength := ifNew.assignmentLength
          assignmentIfaceIdSelection := ifNew.assignmentIfaceIdSelection
          assignmentFixedIfaceId := fixedId
          assignmentWeight := ifNew.assignmentWeight } :=
  interfaceMergeAssignmentData_eq (copyConfig ifOld ifNew) ifNew

/-- The static DNS data of an interface in the table are as the last flush left them. -/
def DnsSettled (iface : Interface) : Prop :=
  iface.configIp.dnsServers.Settled ∧ iface.configIp.dnsSearch.Settled

instance (iface : Interface) : Decidable (DnsSettled iface) :=
  inferInstanceAs (Decidable (_ ∧ _))

theorem interfaceAlloc_dnsSettled (env : ConfigEnv) (name : String) (config : Blob) :
    DnsSettled (interfaceAlloc env name config) := by
  refine ⟨VlistSimple.Settled.foldl ?_ VlistSimple.settled_empty _,
    VlistSimple.Settled.foldl (fun _ value h => h.add value) VlistSimple.settled_empty _⟩
  intro tree str h
  unfold interfaceAddDnsServer
  split
  · exact h.add _
  · split
    · exact h.add _
    · exact h

theorem interfaceAddConfig_configIp {iface iface' : Interface} {config : Blob} {isAlias : Bool}
    (h : interfaceAddConfig iface config isAlias = some iface') :
    iface'.configIp = iface.configIp := by
  unfold interfaceAddConfig at h
  split_ifs at h
  · split at h <;> cases h
    rfl
  · cases h
    rfl

theorem Parsed.dnsSettled {env : ConfigEnv} {iface : Interface} (h : Parsed env iface) :
    DnsSettled iface := by
  cases h with
  | @config name config bridge isAlias iface h =>
    have halloc := interfaceAlloc_dnsSettled env name config
    have hip : iface.configIp = (interfaceAlloc env name config).configIp := by
      simp only [configParseInterface, interfaceAddAlias] at h
      split_ifs at h
      all_goals
        have hadd := interfaceAddConfig_configIp h
        exact hadd
    simpa [DnsSettled, hip] using halloc
  | @dynamic name config iface h =>
    have halloc := interfaceAlloc_dnsSettled env name config
    simpa [DnsSettled, interfaceAddConfig_configIp h] using halloc

theorem Existing.dnsSettled {env : ConfigEnv} {iface : Interface} (h : Existing env iface) :
    DnsSettled iface := by
  induction h with
  | added h => exact h.dnsSettled
  | @reloaded dev ifOld ifNew hold hnew ih =>
    obtain ⟨fixedId, -, hiface⟩ := interfaceChangeConfig_iface dev ifOld ifNew
    rw [hiface]
    exact ⟨ih.1.replace _, ih.2.replace _⟩
  | ran h autostart dynamic dnsServers dnsSearch ih => exact ih
  | updated h ih => exact ⟨ih.1.flush, ih.2.flush⟩

/-- The record with `no_delegation` as given. -/
def Interface.withDelegation (iface : Interface) (noDelegation : Bool) : Interface :=
  { iface with protoIp := { iface.protoIp with noDelegation } }

theorem interfaceChangeConfig_withDelegation (dev : Bool) {ifOld : Interface}
    (hsettled : DnsSettled ifOld) (ifNew : Interface) :
    SameConfiguration ((interfaceChangeConfig dev ifOld ifNew).iface.withDelegation
      ifNew.protoIp.noDelegation) ifNew := by
  obtain ⟨fixedId, hfixed, hiface⟩ := interfaceChangeConfig_iface dev ifOld ifNew
  rw [hiface]
  constructor
  case dnsServers => exact VlistSimple.replace_values hsettled.1 _
  case dnsSearch => exact VlistSimple.replace_values hsettled.2 _
  case assignment =>
    simp only [Interface.withDelegation, Interface.effectiveAssignment, Prod.mk.injEq, true_and]
    by_cases hselection : ifNew.assignmentIfaceIdSelection = .fixed
    · simp [hselection, hfixed hselection]
    · simp [hselection]
  all_goals rfl

theorem interfaceChangeConfig_noDelegation (dev : Bool) (ifOld ifNew : Interface) :
    (interfaceChangeConfig dev ifOld ifNew).iface.protoIp.noDelegation =
      ifOld.protoIp.noDelegation := by
  obtain ⟨fixedId, -, hiface⟩ := interfaceChangeConfig_iface dev ifOld ifNew
  rw [hiface]
  rfl

/-- A reload makes an existing interface the same as a fresh one of the new configuration,
exactly if the option that it does not copy is the same in both. -/
theorem interfaceChangeConfig_sameConfiguration {env : ConfigEnv} (dev : Bool)
    {ifOld : Interface} (hold : Existing env ifOld) (ifNew : Interface) :
    SameConfiguration (interfaceChangeConfig dev ifOld ifNew).iface ifNew ↔
      ifOld.protoIp.noDelegation = ifNew.protoIp.noDelegation := by
  have hkept := interfaceChangeConfig_noDelegation dev ifOld ifNew
  constructor
  · intro hsame
    exact hkept.symm.trans hsame.noDelegation
  · intro hdelegation
    have hsame := interfaceChangeConfig_withDelegation dev hold.dnsSettled ifNew
    rw [← hdelegation, ← hkept] at hsame
    exact hsame

/-- A system without protocol handlers, on which nothing can be resolved. -/
def bareEnv : ConfigEnv where
  inetPton _ _ := none
  strtol16 _ := 0
  resolveRtTable _ := none
  handlers _ := none

/-- The interface `wan` with the option `delegate` and a class of prefixes. -/
def wanConfig (delegate : Bool) (ip6class : String) : Blob
  | "delegate" => some (.bool delegate)
  | "ip6class" => some (.array [some ip6class])
  | _ => none

def wanInterface (delegate : Bool) (ip6class : String) : Interface :=
  { interfaceAlloc bareEnv "wan" (wanConfig delegate ip6class) with
    config := wanConfig delegate ip6class }

theorem wanInterface_parsed (delegate : Bool) (ip6class : String) :
    Parsed bareEnv (wanInterface delegate ip6class) :=
  @Parsed.dynamic bareEnv "wan" (wanConfig delegate ip6class) _ rfl

/-- A reload that changes the classes only. -/
theorem interfaceChangeConfig_sameConfiguration_wan : SameConfiguration
    (interfaceChangeConfig true (wanInterface false "a") (wanInterface false "b")).iface
    (wanInterface false "b") :=
  (interfaceChangeConfig_sameConfiguration true (.added (wanInterface_parsed false "a")) _).mpr rfl

/-- A reload that switches delegation off leaves it on. -/
theorem noDelegation_not_reloaded : ¬SameConfiguration
    (interfaceChangeConfig true (wanInterface true "a") (wanInterface false "a")).iface
    (wanInterface false "a") := by
  intro h
  have hsame := h.noDelegation
  revert hsame
  decide

end Netifd
