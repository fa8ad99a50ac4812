import Netifd.InterfaceConfiguration
import Netifd.Netmask
import Netifd.RankedLists

/-!
# Rules of the configuration

`iprule.c`: a section of the configuration becomes a rule, the rules of a reload are put into a
tree, and what changes in the tree is told to the kernel by `system_iprule` of `system-linux.c`.
The kernel is a list for each family.
-/

namespace Netifd.IpRules

/-- What `struct iprule` has from `flags` on, which is the key of the tree. A flag that is not set
is an absent value. -/
structure RuleKey where
  v6 : Bool
  invert : Bool := false
  inDev : Option String := none
  outDev : Option String := none
  src : Option (ℕ × ℕ) := none
  dest : Option (ℕ × ℕ) := none
  priority : Option ℕ := none
  tos : Option ℕ := none
  fwmark : Option ℕ := none
  fwmask : Option ℕ := none
  lookup : Option ℕ := none
  action : Option ℕ := none
  gotoid : Option ℕ := none
  deriving DecidableEq

/-- `struct iprule`. -/
structure IpRule extends RuleKey where
  order : ℕ
  deriving DecidableEq

/-- What a reload finds in the system: the device of an interface, and the tables. -/
structure RuleEnv where
  l3Dev : String → Option String
  resolveRtTable : String → Option ℕ

/-- A system in which one table has a name. -/
def mainTable : RuleEnv where
  l3Dev _ := none
  resolveRtTable
    | "main" => some 254
    | _ => none

/-- A section, as its attributes and whether it is of type `rule6`. -/
abbrev RuleSection := Blob × Bool

/-- `strtoul(s, &end, 0)` into an `unsigned int`, of a string that is a number and nothing else. -/
def wholeNumber (s : List Char) : Option ℕ :=
  let (n, e) := strtoulAuto s
  if e = s ∨ e ≠ [] then none else some (n % 2 ^ 32)

/-- `iprule_parse_mark`: the mark, and the mask if there is one. -/
def ipruleParseMark (mark : List Char) : Option (ℕ × Option ℕ) :=
  match splitSlash mark with
  | none => (wholeNumber mark).map (·, none)
  | some (mark, mask) => do
    let n ← wholeNumber mark
    let m ← wholeNumber mask
    pure (n, some m)

def systemRtnAton (src : String) : Option ℕ :=
  match src with
  | "local" => some 2
  | "nat" => some 10
  | "broadcast" => some 3
  | "anycast" => some 4
  | "multicast" => some 5
  | "prohibit" => some 8
  | "unreachable" => some 7
  | "blackhole" => some 6
  | "xresolve" => some 11
  | "unicast" => some 1
  | "throw" => some 9
  | "failed_policy" => some 12
  | _ => (wholeNumber src.toList).filter (· ≤ 255)

/-- An attribute that may be missing, but has to be right if it is there. -/
def given {α β : Type} (cur : Option α) (parse : α → Option β) : Option (Option β) :=
  match cur with
  | none => some none
  | some a => (parse a).map some

/-- `iprule_add` up to the tree. The netmask is that of `calloc` where the text has none. -/
def parseRule (env : RuleEnv) (attr : Blob) (v6 : Bool) (order : ℕ) : Option IpRule := do
  let inDev ← given (attr.getString "in") env.l3Dev
  let outDev ← given (attr.getString "out") env.l3Dev
  let src ← given (attr.getString "src") fun s => parseIpAndNetmask v6 s.toList 0
  let dest ← given (attr.getString "dest") fun s => parseIpAndNetmask v6 s.toList 0
  let tos ← given (attr.getU32 "tos") fun n => some (n % 2 ^ 32) |>.filter (· ≤ 255)
  let mark ← given (attr.getString "mark") fun s => ipruleParseMark s.toList
  let lookup ← given (attr.getString "lookup") env.resolveRtTable
  let action ← given (attr.getString "action") systemRtnAton
  pure {
    v6, inDev, outDev, src, dest, tos, lookup, action, order
    invert := attr.getBoolDefault "invert" false
    priority := (attr.getU32 "priority").map (· % 2 ^ 32)
    fwmark := mark.map (·.1)
    fwmask := mark.bind (·.2)
    gotoid := (attr.getU32 "goto").map (· % 2 ^ 32) }

/-- A request for one rule: `struct rtmsg`, where zero says nothing, and the attributes after it. -/
structure RuleMessage where
  v6 : Bool
  invert : Bool
  srcLen : ℕ
  dstLen : ℕ
  tos : ℕ
  table : ℕ
  type : ℕ
  ifname : Option String
  oifname : Option String
  src : Option ℕ
  dst : Option ℕ
  priority : Option ℕ
  fwmark : Option ℕ
  fwmask : Option ℕ
  tableAttr : Option ℕ
  goto : Option ℕ
  deriving DecidableEq

def RTN_UNICAST : ℕ := 1
def FR_ACT_GOTO : ℕ := 2
def FR_ACT_NOP : ℕ := 3

/-- `system_iprule`, up to the call of the kernel. -/
def systemIprule (rule : IpRule) (new : Bool) : RuleMessage where
  v6 := rule.v6
  invert := rule.invert
  srcLen := (rule.src.map (·.2)).getD 0
  dstLen := (rule.dest.map (·.2)).getD 0
  tos := rule.tos.getD 0
  table := (rule.lookup.filter (· < 256)).getD 0
  type :=
    match rule.action with
    | some action => action
    | none =>
      if rule.gotoid.isSome then FR_ACT_GOTO
      else if rule.lookup.isNone then FR_ACT_NOP
      else if new then RTN_UNICAST else 0
  ifname := rule.inDev
  oifname := rule.outDev
  src := rule.src.map (·.1)
  dst := rule.dest.map (·.1)
  -- a rule that has no priority gets that of its place, which only the first request says
  priority := rule.priority <|> if new then some rule.order else none
  fwmark := rule.fwmark
  fwmask := rule.fwmask
  tableAttr := rule.lookup.filter (256 ≤ ·)
  goto := rule.gotoid

/-- The rules of the kernel for each family, in the order in which they are tried. -/
abbrev RuleTable := Bool → List RuleMessage

/-- The place of a rule among the others. -/
def RuleMessage.rank (m : RuleMessage) : ℕ := m.priority.getD 0

/-- The rule has all that a request says. -/
def RuleMessage.carries (req m : RuleMessage) : Bool :=
  (!req.invert || m.invert) && (req.srcLen == 0 || req.srcLen == m.srcLen) &&
    (req.dstLen == 0 || req.dstLen == m.dstLen) && (req.tos == 0 || req.tos == m.tos) &&
    (req.table == 0 || req.table == m.table) && (req.type == 0 || req.type == m.type) &&
    (req.ifname.isNone || req.ifname == m.ifname) &&
    (req.oifname.isNone || req.oifname == m.oifname) &&
    (req.src.isNone || req.src == m.src) && (req.dst.isNone || req.dst == m.dst) &&
    (req.priority.isNone || req.priority == m.priority) &&
    (req.fwmark.isNone || req.fwmark == m.fwmark) &&
    (req.fwmask.isNone || req.fwmask == m.fwmask) &&
    (req.tableAttr.isNone || req.tableAttr == m.tableAttr) && (req.goto.isNone || req.goto == m.goto)

/-- `RTM_NEWRULE`: the rule comes after those of its priority. -/
def newRule (req : RuleMessage) (kernel : RuleTable) : RuleTable :=
  Function.update kernel req.v6
    ((kernel req.v6).orderedInsert (fun a b => a.rank < b.rank) req)

/-- `RTM_DELRULE`: the first rule goes that has all that is asked for. -/
def delRule (req : RuleMessage) (kernel : RuleTable) : RuleTable :=
  Function.update kernel req.v6 ((kernel req.v6).eraseP req.carries)

def systemAddIprule (rule : IpRule) : RuleTable → RuleTable := newRule (systemIprule rule true)

def systemDelIprule (rule : IpRule) : RuleTable → RuleTable := delRule (systemIprule rule false)

/-- The rules of `system_flush_iprules`, after the kernel has dropped all that it had. -/
def baseRules (v6 : Bool) : List IpRule :=
  [(0, 255), (32766, 254)].map (fun (priority, table) =>
    { v6, priority := some priority, lookup := some table, order := 0 }) ++
  if v6 then [] else [{ v6, priority := some 32767, lookup := some 253, order := 0 }]

def systemFlushIprules : RuleTable :=
  (baseRules false ++ baseRules true).foldl (fun kernel rule => systemAddIprule rule kernel)
    fun _ => []

/-- `memcmp` on the keys, of which the bytes and their order are those of the machine. -/
structure KeyOrder where
  cmp : RuleKey → RuleKey → ℤ
  eq_zero : ∀ a b, cmp a b = 0 ↔ a = b

def ruleCmp (memcmp : KeyOrder) (a b : IpRule) : ℤ := memcmp.cmp a.toRuleKey b.toRuleKey

def ipruleUpdateRule (new old : Option IpRule) (kernel : RuleTable) : Option IpRule × RuleTable :=
  let kernel := match old with
    | some rule => systemDelIprule rule kernel
    | none => kernel
  let kernel := match new with
    | some rule => systemAddIprule rule kernel
    | none => kernel
  (new, kernel)

/-- The variables of `iprule.c`, and the kernel. -/
structure RuleState where
  iprules : Vlist IpRule := {}
  flushed : Bool := false
  counter : Bool → ℕ := fun _ => 0
  kernel : RuleTable := fun _ => []

/-- `iprule_add`: the counter goes on even if the section is no rule. -/
def ipruleAdd (memcmp : KeyOrder) (env : RuleEnv) (s : RuleState) (sect : RuleSection) :
    RuleState :=
  let order := s.counter sect.2
  let s := { s with counter := Function.update s.counter sect.2 ((order + 1) % 2 ^ 32) }
  match parseRule env sect.1 sect.2 order with
  | none => s
  | some rule =>
    let (iprules, kernel) := s.iprules.add (ruleCmp memcmp) ipruleUpdateRule rule s.kernel
    { s with iprules, kernel }

def ipruleUpdateStart (s : RuleState) : RuleState where
  iprules := s.iprules.startUpdate
  flushed := true
  counter := fun _ => 1
  kernel := if s.flushed then s.kernel else systemFlushIprules

def ipruleUpdateComplete (s : RuleState) : RuleState :=
  let (iprules, kernel) := s.iprules.flush ipruleUpdateRule s.kernel
  { s with iprules, kernel }

/-- A reload, as `config_init_rules` sees it. -/
structure RuleReload where
  env : RuleEnv
  sections : List RuleSection

def configInitRules (memcmp : KeyOrder) (s : RuleState) (r : RuleReload) : RuleState :=
  ipruleUpdateComplete (r.sections.foldl (ipruleAdd memcmp r.env) (ipruleUpdateStart s))

end Netifd.IpRules
