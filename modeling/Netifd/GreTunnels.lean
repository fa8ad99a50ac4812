import Netifd.InterfaceConfiguration
import Netifd.Netmask

/-!
# GRE tunnels

`system_add_gre_tunnel` of `system-linux.c` with the way to it in `system_add_ip_tunnel`, and the
two tables of attributes of `system.c`. One table is that of the tunnel, the other one that of
the data of a GRE tunnel; each has an enumeration of its own.
-/

namespace Netifd.GreTunnels

/-- `enum tunnel_param`. -/
def TUNNEL_ATTR_TYPE : ℕ := 0
def TUNNEL_ATTR_REMOTE : ℕ := 1
def TUNNEL_ATTR_LOCAL : ℕ := 2
def TUNNEL_ATTR_DF : ℕ := 4
def TUNNEL_ATTR_TTL : ℕ := 5
def TUNNEL_ATTR_TOS : ℕ := 6
def TUNNEL_ATTR_LINK : ℕ := 9

/-- `enum gre_data`. -/
def GRE_DATA_IKEY : ℕ := 0
def GRE_DATA_OKEY : ℕ := 1
def GRE_DATA_ICSUM : ℕ := 2
def GRE_DATA_OCSUM : ℕ := 3
def GRE_DATA_ISEQNO : ℕ := 4
def GRE_DATA_OSEQNO : ℕ := 5

/-- `enum blobmsg_type`, as far as it is asked for. -/
inductive BlobType
  | string | bool | int32 | array | table
  deriving DecidableEq

def BlobType.of : BlobValue → BlobType
  | .string _ => .string
  | .bool _ => .bool
  | .int32 _ => .int32
  | .array _ => .array

def tunnelAttrs : List (String × BlobType) :=
  [("mode", .string), ("remote", .string), ("local", .string), ("mtu", .int32), ("df", .bool),
    ("ttl", .int32), ("tos", .string), ("6rd-prefix", .string), ("6rd-relay-prefix", .string),
    ("link", .string), ("fmrs", .array), ("data", .table)]

def greDataAttrs : List (String × BlobType) :=
  [("ikey", .int32), ("okey", .int32), ("icsum", .bool), ("ocsum", .bool), ("iseqno", .bool),
    ("oseqno", .bool)]

/-- `blobmsg_parse`: the attributes of the right type, by their place in the policy. -/
def blobmsgParse (policy : List (String × BlobType)) (attr : Blob) (i : ℕ) : Option BlobValue :=
  policy[i]?.bind fun (name, type) => (attr name).filter (BlobType.of · = type)

/-- `blobmsg_get_u32`. -/
def getU32 : BlobValue → ℕ
  | .int32 n => n % 2 ^ 32
  | _ => 0

/-- `blobmsg_get_bool`, which looks at the first byte whatever the type is. -/
def getBool : BlobValue → Bool
  | .bool b => b
  | .int32 n => getU32 (.int32 n) / 2 ^ 24 != 0
  | .string s => s != ""
  | .array elements => !elements.isEmpty

/-- `blobmsg_get_string`. -/
def getString : BlobValue → String
  | .string s => s
  | _ => ""

/-- The attributes of a tunnel, and those in its table `data`. -/
structure TunnelConfig where
  attrs : Blob
  data : Option Blob := none

/-- The flags of `linux/if_tunnel.h`. -/
def GRE_CSUM : BitVec 16 := 0x8000
def GRE_KEY : BitVec 16 := 0x2000
def GRE_SEQ : BitVec 16 := 0x1000

/-- The attributes `IFLA_GRE_*` of a message. -/
inductive GreAttr
  | link (ifindex : ℕ)
  | source (addr : ℕ)
  | remote (addr : ℕ)
  | encapLimit (limit : ℕ)
  | flowinfo (tclass : ℕ)
  | useOrigTclass
  | pmtudisc (df : Bool)
  | tos (tos : ℕ)
  | ttl (ttl : ℕ)
  | oflags (flags : BitVec 16)
  | iflags (flags : BitVec 16)
  | okey (key : ℕ)
  | ikey (key : ℕ)
  deriving DecidableEq

structure GreMessage where
  kind : String
  attrs : List GreAttr

def einval : ℤ := -22

/-- `nla_put`, of an attribute that is left out if its value is zero. -/
def putUnless (zero : Bool) (a : GreAttr) : List GreAttr := if zero then [] else [a]

/-- `strtoul(s, &end, 16)`: the result and the string at `end`. -/
def strtoulHex (s : List Char) : ℕ × List Char :=
  let (negative, body) := readSign (s.dropWhile isspace)
  let digits := match body with
    | '0' :: x :: d :: rest =>
      if (x == 'x' || x == 'X') && isDigitOf 16 d then d :: rest else body
    | _ => body
  if digits.takeWhile (isDigitOf 16) = [] then (0, s)
  else (unsignedLong negative (readDigits 16 digits).1, (readDigits 16 digits).2)

def systemTosAton (src : List Char) : Option ℕ :=
  let (n, e) := strtoulHex src
  if e = src ∨ e ≠ [] ∨ 255 < n % 2 ^ 32 then none else some (n % 2 ^ 32)

/-- The type of service: `inherit` is one for IPv4, and no number for IPv6. -/
inductive GreTos
  | value (tos : ℕ)
  | inherit

def greTos : Option BlobValue → Except ℤ GreTos
  | none => pure (.value 0)
  | some cur =>
    if getString cur = "inherit" then pure .inherit
    else
      match systemTosAton (getString cur).toList with
      | some tos => pure (.value tos)
      | none => throw einval

/-- An address, if there is one. -/
def greAddr (v6 : Bool) : Option BlobValue → Except ℤ (Option ℕ)
  | none => pure none
  | some cur =>
    match inetPton v6 (getString cur).toList with
    | some addr => pure (some addr)
    | none => throw einval

/-- The keys and flags of one direction. -/
structure GreFlags where
  key : ℕ := 0
  flags : BitVec 16 := 0

def GreFlags.set (f : GreFlags) (flag : BitVec 16) : Option BlobValue → GreFlags
  | some cur => if getBool cur then { f with flags := f.flags ||| flag } else f
  | none => f

def GreFlags.setKey (f : GreFlags) (key : ℕ) : GreFlags :=
  { f with key, flags := if key ≠ 0 then f.flags ||| GRE_KEY else f.flags }

/-- The part on `TUNNEL_ATTR_DATA`: the flags of packets that come in, and of those that go out. -/
def greData (tb : ℕ → Option BlobValue) (data : Option Blob) : GreFlags × GreFlags :=
  match data with
  | none => ({}, {})
  | some data =>
    let tbData := blobmsgParse greDataAttrs data
    let i : GreFlags := match tbData GRE_DATA_IKEY with
      | some cur => GreFlags.setKey {} (getU32 cur)
      | none => {}
    let o : GreFlags := match tbData GRE_DATA_OKEY with
      | some cur => GreFlags.setKey {} (getU32 cur)
      | none => {}
    let i := i.set GRE_CSUM (tbData GRE_DATA_ICSUM)
    let o := o.set GRE_CSUM (tbData GRE_DATA_OCSUM)
    let i := i.set GRE_SEQ (tbData GRE_DATA_ISEQNO)
    -- this one is looked for in the table of the tunnel
    let o := o.set GRE_SEQ (tb GRE_DATA_OSEQNO)
    (i, o)

def inMulticast (addr : ℕ) : Bool := addr / 2 ^ 28 == 14

/-- A tunnel to a group has the group as its key unless another is given. -/
def GreFlags.multicast (f : GreFlags) (remote : Option ℕ) : GreFlags :=
  match remote with
  | some addr => if inMulticast addr ∧ f.key = 0 then f.setKey addr else f
  | none => f

/-- The flags and keys, at the end of the message. -/
def flagAttrs (i o : GreFlags) : List GreAttr :=
  putUnless (o.flags == 0) (.oflags o.flags) ++ putUnless (i.flags == 0) (.iflags i.flags) ++
    putUnless (o.key == 0) (.okey o.key) ++ putUnless (i.key == 0) (.ikey i.key)

/-- `system_add_gre_tunnel` up to the call of the kernel. -/
def systemAddGreTunnel (kind : String) (link : ℕ) (tb : ℕ → Option BlobValue)
    (data : Option Blob) (v6 : Bool) : Except ℤ GreMessage := do
  let ttl := ((tb TUNNEL_ATTR_TTL).map getU32).getD 0
  let tos ← greTos (tb TUNNEL_ATTR_TOS)
  let (i, o) := greData tb data
  let source ← greAddr v6 (tb TUNNEL_ATTR_LOCAL)
  let remote ← greAddr v6 (tb TUNNEL_ATTR_REMOTE)
  let addrs := putUnless (link == 0) (.link link) ++ source.toList.map GreAttr.source ++
    remote.toList.map GreAttr.remote
  if v6 then
    let tclass := match tos with
      | .value tos => putUnless (tos == 0) (.flowinfo tos)
      | .inherit => [.useOrigTclass]
    let ttl := if ttl = 0 then 64 else ttl
    pure { kind, attrs := addrs ++ [.encapLimit 4] ++ tclass ++ [.ttl (ttl % 2 ^ 8)] ++
      flagAttrs i o }
  else
    let o := o.multicast remote
    let i := i.multicast remote
    let setDf := ((tb TUNNEL_ATTR_DF).map getBool).getD true
    -- a ttl and no discovery of the mtu do not go together
    if !setDf && ttl != 0 then throw einval
    let ttl := if setDf && ttl == 0 then 64 else ttl
    let tos := match tos with
      | .value tos => tos
      | .inherit => 1
    pure { kind, attrs := addrs ++ [.pmtudisc setDf, .tos tos] ++
      putUnless (ttl == 0) (.ttl (ttl % 2 ^ 8)) ++ flagAttrs i o }

/-- The modes that make a GRE tunnel, with the kind of the link and the family. -/
def greMode (mode : String) : Option (String × Bool) :=
  if mode = "greip" then some ("gre", false)
  else if mode = "gretapip" then some ("gretap", false)
  else if mode = "greip6" then some ("ip6gre", true)
  else if mode = "gretapip6" then some ("ip6gretap", true)
  else none

/-- The device below a tunnel: that of the interface of the name, if there is one. -/
def tunnelLink (ifindexOf : String → Option ℕ) : Option BlobValue → Except ℤ ℕ
  | none => pure 0
  | some cur =>
    match ifindexOf (getString cur) with
    | some ifindex => pure ifindex
    | none => throw einval

/-- `system_add_ip_tunnel`, without a message for the modes that make other tunnels; `ifindexOf`
is the index of the layer 3 device of an interface, zero if that has none. -/
def systemAddIpTunnel (ifindexOf : String → Option ℕ) (config : TunnelConfig) :
    Except ℤ (Option GreMessage) := do
  let tb := blobmsgParse tunnelAttrs config.attrs
  match tb TUNNEL_ATTR_TYPE with
  | none => throw einval
  | some mode =>
    if 255 < ((tb TUNNEL_ATTR_TTL).map getU32).getD 0 then throw einval
    let link ← tunnelLink ifindexOf (tb TUNNEL_ATTR_LINK)
    match greMode (getString mode) with
    | none => pure none
    | some (kind, v6) => some <$> systemAddGreTunnel kind link tb config.data v6

namespace TunnelConfig
variable (config : TunnelConfig)

/-- The table of the attributes outside of `data`. -/
def tb (i : ℕ) : Option BlobValue := blobmsgParse tunnelAttrs config.attrs i

/-- An option of the data is true. -/
def option (name : String) : Bool := config.data.bind (· name) == some (.bool true)

/-- A key of the data, zero if it is not there. -/
def key (name : String) : ℕ :=
  match config.data.bind (· name) with
  | some (.int32 n) => n % 2 ^ 32
  | _ => 0

/-- The kind of the link and the family. -/
def mode : Option (String × Bool) := (config.tb TUNNEL_ATTR_TYPE).bind (greMode ∘ getString)

/-- The other end of an IPv4 tunnel is a group. -/
def toGroup : Bool :=
  config.mode.any fun (_, v6) => !v6 && (config.tb TUNNEL_ATTR_REMOTE).any fun cur =>
    (inetPton false (getString cur).toList).any inMulticast

end TunnelConfig

namespace GreMessage
variable (msg : GreMessage)

def oflags : BitVec 16 :=
  (msg.attrs.findSome? fun
    | .oflags flags => some flags
    | _ => none).getD 0

def iflags : BitVec 16 :=
  (msg.attrs.findSome? fun
    | .iflags flags => some flags
    | _ => none).getD 0

end GreMessage

/-- A flag is set in a word of flags. -/
def isSet (flags flag : BitVec 16) : Bool := flags &&& flag != 0

/-- The flags of a message are those that the options say. -/
structure FlagsMatch (config : TunnelConfig) (msg : GreMessage) : Prop where
  icsum : isSet msg.iflags GRE_CSUM = config.option "icsum"
  ocsum : isSet msg.oflags GRE_CSUM = config.option "ocsum"
  iseqno : isSet msg.iflags GRE_SEQ = config.option "iseqno"
  oseqno : isSet msg.oflags GRE_SEQ = config.option "oseqno"
  ikey : isSet msg.iflags GRE_KEY = (config.key "ikey" != 0 || config.toGroup)
  okey : isSet msg.oflags GRE_KEY = (config.key "okey" != 0 || config.toGroup)

/-- With the same data the flags are the same, but that of the key if the other end is a group. -/
structure FlagsAgree (config config' : TunnelConfig) (msg msg' : GreMessage) : Prop where
  csum : isSet msg'.iflags GRE_CSUM = isSet msg.iflags GRE_CSUM ∧
    isSet msg'.oflags GRE_CSUM = isSet msg.oflags GRE_CSUM
  seq : isSet msg'.iflags GRE_SEQ = isSet msg.iflags GRE_SEQ ∧
    isSet msg'.oflags GRE_SEQ = isSet msg.oflags GRE_SEQ
  key : config'.toGroup = config.toGroup →
    isSet msg'.iflags GRE_KEY = isSet msg.iflags GRE_KEY ∧
      isSet msg'.oflags GRE_KEY = isSet msg.oflags GRE_KEY

/-- Each option has its own flag, and nothing outside of the data changes one. -/
structure GreSound (config : TunnelConfig) (msg : GreMessage) : Prop where
  flags : FlagsMatch config msg
  others : ∀ ifindexOf config' msg', config'.data = config.data →
    systemAddIpTunnel ifindexOf config' = .ok (some msg') → FlagsAgree config config' msg msg'

/-- The word of the flags. -/
def flagWord (key csum seq : Bool) : BitVec 16 :=
  (if key then GRE_KEY else 0) ||| (if csum then GRE_CSUM else 0) ||| (if seq then GRE_SEQ else 0)

theorem isSet_flagWord (key csum seq : Bool) :
    isSet (flagWord key csum seq) GRE_KEY = key ∧ isSet (flagWord key csum seq) GRE_CSUM = csum ∧
      isSet (flagWord key csum seq) GRE_SEQ = seq := by
  cases key <;> cases csum <;> cases seq <;> decide

theorem flagWord_or_key (csum seq : Bool) :
    flagWord false csum seq ||| GRE_KEY = flagWord true csum seq := by
  cases csum <;> cases seq <;> rfl

/-- The word of flags that go out, of an attribute. -/
def GreAttr.oflags? : GreAttr → Option (BitVec 16)
  | .oflags flags => some flags
  | _ => none

/-- The word of flags that come in, of an attribute. -/
def GreAttr.iflags? : GreAttr → Option (BitVec 16)
  | .iflags flags => some flags
  | _ => none

theorem oflags_eq (msg : GreMessage) :
    msg.oflags = (msg.attrs.findSome? GreAttr.oflags?).getD 0 := rfl

theorem iflags_eq (msg : GreMessage) :
    msg.iflags = (msg.attrs.findSome? GreAttr.iflags?).getD 0 := rfl

variable {i o : GreFlags} {l : List GreAttr}

variable {f : GreAttr → Option (BitVec 16)} {a : GreAttr} {zero : Bool}

theorem findSome?_putUnless_append (ha : f a = none) :
    (putUnless zero a ++ l).findSome? f = l.findSome? f := by
  cases zero <;> simp [putUnless, ha]

theorem findSome?_putUnless (ha : f a = none) : (putUnless zero a).findSome? f = none := by
  cases zero <;> simp [putUnless, ha]

theorem oflags_of_flagAttrs : ((flagAttrs i o).findSome? GreAttr.oflags?).getD 0 = o.flags := by
  have hkeys : (putUnless (i.flags == 0) (.iflags i.flags) ++
      (putUnless (o.key == 0) (.okey o.key) ++ putUnless (i.key == 0) (.ikey i.key))).findSome?
        GreAttr.oflags? = none := by
    rw [findSome?_putUnless_append rfl, findSome?_putUnless_append rfl, findSome?_putUnless rfl]
  rw [flagAttrs, List.append_assoc, List.append_assoc, List.findSome?_append, hkeys]
  by_cases ho : o.flags = 0#16 <;> simp [putUnless, ho, GreAttr.oflags?]

theorem iflags_of_flagAttrs : ((flagAttrs i o).findSome? GreAttr.iflags?).getD 0 = i.flags := by
  have hkeys : (putUnless (o.key == 0) (.okey o.key) ++
      putUnless (i.key == 0) (.ikey i.key)).findSome? GreAttr.iflags? = none := by
    rw [findSome?_putUnless_append rfl, findSome?_putUnless rfl]
  rw [flagAttrs, List.append_assoc, List.append_assoc, findSome?_putUnless_append rfl,
    List.findSome?_append, hkeys]
  by_cases hi : i.flags = 0#16 <;> simp [putUnless, hi, GreAttr.iflags?]

/-- An attribute that holds no flags. -/
def GreAttr.Flagless (a : GreAttr) : Prop := a.oflags? = none ∧ a.iflags? = none

theorem flags_of_append {msg : GreMessage} (hmsg : msg.attrs = l ++ flagAttrs i o)
    (hl : ∀ a ∈ l, a.Flagless) : msg.iflags = i.flags ∧ msg.oflags = o.flags := by
  have hiflags : l.findSome? GreAttr.iflags? = none :=
    List.findSome?_eq_none_iff.mpr fun a ha => (hl a ha).2
  have hoflags : l.findSome? GreAttr.oflags? = none :=
    List.findSome?_eq_none_iff.mpr fun a ha => (hl a ha).1
  rw [iflags_eq, oflags_eq, hmsg, List.findSome?_append, List.findSome?_append, hiflags, hoflags]
  exact ⟨iflags_of_flagAttrs, oflags_of_flagAttrs⟩

theorem flagless_append {l l' : List GreAttr} (hl : ∀ a ∈ l, a.Flagless)
    (hl' : ∀ a ∈ l', a.Flagless) : ∀ a ∈ l ++ l', a.Flagless := by
  intro a ha
  rcases List.mem_append.mp ha with ha | ha
  exacts [hl a ha, hl' a ha]

theorem flagless_putUnless (ha : a.Flagless) : ∀ b ∈ putUnless zero a, b.Flagless := by
  intro b hb
  cases zero
  · rwa [List.mem_singleton.mp hb]
  · cases hb

theorem flagless_addrs (link : ℕ) (source remote : Option ℕ) :
    ∀ a ∈ putUnless (link == 0) (.link link) ++ source.toList.map GreAttr.source ++
      remote.toList.map GreAttr.remote, a.Flagless := by
  refine flagless_append (flagless_append (flagless_putUnless ⟨rfl, rfl⟩) ?_) ?_
  · intro a ha
    obtain ⟨addr, -, rfl⟩ := List.mem_map.mp ha
    exact ⟨rfl, rfl⟩
  · intro a ha
    obtain ⟨addr, -, rfl⟩ := List.mem_map.mp ha
    exact ⟨rfl, rfl⟩

variable {config : TunnelConfig} {tb : ℕ → Option BlobValue}

theorem getBool_of_parse {policy : List (String × BlobType)} {data : Blob} {j : ℕ} {name : String}
    (hj : policy[j]? = some (name, .bool)) :
    (blobmsgParse policy data j).any getBool = (data name == some (.bool true)) := by
  have hparse : blobmsgParse policy data j = (data name).filter (BlobType.of · = .bool) := by
    rw [blobmsgParse, hj, Option.bind_some]
  rw [hparse]
  generalize data name = cur
  rcases cur with _ | _ | b | _ | _
  case some.bool => cases b <;> rfl
  all_goals rfl

theorem getU32_of_parse {policy : List (String × BlobType)} {data : Blob} {j : ℕ} {name : String}
    (hj : policy[j]? = some (name, .int32)) :
    ((blobmsgParse policy data j).map getU32).getD 0 = match data name with
      | some (.int32 n) => n % 2 ^ 32
      | _ => 0 := by
  have hparse : blobmsgParse policy data j = (data name).filter (BlobType.of · = .int32) := by
    rw [blobmsgParse, hj, Option.bind_some]
  rw [hparse]
  generalize data name = cur
  rcases cur with _ | _ | _ | _ | _ <;> rfl

@[simp]
theorem GreFlags.set_key (f : GreFlags) (flag : BitVec 16) (cur : Option BlobValue) :
    (f.set flag cur).key = f.key := by
  rcases cur with _ | cur
  · rfl
  · rw [GreFlags.set]
    split <;> rfl

@[simp]
theorem GreFlags.set_flags (f : GreFlags) (flag : BitVec 16) (cur : Option BlobValue) :
    (f.set flag cur).flags = f.flags ||| if cur.any getBool then flag else 0 := by
  rcases cur with _ | cur
  · exact BitVec.or_zero.symm
  · rw [GreFlags.set, Option.any_some]
    cases getBool cur
    · exact BitVec.or_zero.symm
    · rfl

/-- The flags of one direction start with those of its key. -/
def keyFlags (cur : Option BlobValue) : GreFlags :=
  match cur with
  | some cur => GreFlags.setKey {} (getU32 cur)
  | none => {}

theorem keyFlags_key (cur : Option BlobValue) :
    (keyFlags cur).key = (cur.map getU32).getD 0 := by
  cases cur <;> rfl

theorem keyFlags_flags (cur : Option BlobValue) :
    (keyFlags cur).flags = if (cur.map getU32).getD 0 != 0 then GRE_KEY else 0 := by
  rcases cur with _ | cur
  · rfl
  · by_cases hkey : getU32 cur = 0 <;> simp [keyFlags, GreFlags.setKey, hkey]

theorem key_of_parse {data : Blob} {j : ℕ} {name : String} (hdata : config.data = some data)
    (hj : greDataAttrs[j]? = some (name, .int32)) :
    ((blobmsgParse greDataAttrs data j).map getU32).getD 0 = config.key name := by
  rw [getU32_of_parse hj, TunnelConfig.key, hdata, Option.bind_some]

theorem option_of_parse {data : Blob} {j : ℕ} {name : String} (hdata : config.data = some data)
    (hj : greDataAttrs[j]? = some (name, .bool)) :
    (blobmsgParse greDataAttrs data j).any getBool = config.option name := by
  rw [getBool_of_parse hj, TunnelConfig.option, hdata, Option.bind_some]

theorem greData_fst : (greData tb config.data).1.key = config.key "ikey" ∧
    (greData tb config.data).1.flags =
      flagWord (config.key "ikey" != 0) (config.option "icsum") (config.option "iseqno") := by
  rcases hdata : config.data with _ | data
  · simp [greData, TunnelConfig.key, TunnelConfig.option, hdata, flagWord]
  · have hgre : (greData tb (some data)).1 =
        ((keyFlags (blobmsgParse greDataAttrs data GRE_DATA_IKEY)).set GRE_CSUM
          (blobmsgParse greDataAttrs data GRE_DATA_ICSUM)).set GRE_SEQ
            (blobmsgParse greDataAttrs data GRE_DATA_ISEQNO) := rfl
    have hkey := key_of_parse hdata (show greDataAttrs[GRE_DATA_IKEY]? = _ from rfl)
    have hcsum := option_of_parse hdata (show greDataAttrs[GRE_DATA_ICSUM]? = _ from rfl)
    have hseq := option_of_parse hdata (show greDataAttrs[GRE_DATA_ISEQNO]? = _ from rfl)
    rw [hgre, GreFlags.set_key, GreFlags.set_key, GreFlags.set_flags, GreFlags.set_flags,
      keyFlags_key, keyFlags_flags, hkey, hcsum, hseq]
    exact ⟨rfl, rfl⟩

theorem greData_snd (hseq : (tb GRE_DATA_OSEQNO).any getBool = false) :
    (greData tb config.data).2.key = config.key "okey" ∧
      (greData tb config.data).2.flags =
        flagWord (config.key "okey" != 0) (config.option "ocsum") false := by
  rcases hdata : config.data with _ | data
  · simp [greData, TunnelConfig.key, TunnelConfig.option, hdata, flagWord]
  · have hgre : (greData tb (some data)).2 =
        ((keyFlags (blobmsgParse greDataAttrs data GRE_DATA_OKEY)).set GRE_CSUM
          (blobmsgParse greDataAttrs data GRE_DATA_OCSUM)).set GRE_SEQ (tb GRE_DATA_OSEQNO) := rfl
    have hkey := key_of_parse hdata (show greDataAttrs[GRE_DATA_OKEY]? = _ from rfl)
    have hcsum := option_of_parse hdata (show greDataAttrs[GRE_DATA_OCSUM]? = _ from rfl)
    rw [hgre, GreFlags.set_key, GreFlags.set_key, GreFlags.set_flags, GreFlags.set_flags,
      keyFlags_key, keyFlags_flags, hkey, hcsum, hseq]
    exact ⟨rfl, rfl⟩

theorem getBool_ttl (httl : ((config.tb TUNNEL_ATTR_TTL).map getU32).getD 0 ≤ 255) :
    (config.tb GRE_DATA_OSEQNO).any getBool = false := by
  have hparse : config.tb TUNNEL_ATTR_TTL = (config.attrs "ttl").filter (BlobType.of · = .int32) :=
    rfl
  change (config.tb TUNNEL_ATTR_TTL).any getBool = false
  rw [hparse] at httl ⊢
  rcases hcur : config.attrs "ttl" with _ | _ | _ | n | _ <;> rw [hcur] at httl
  case some.int32 =>
    have hn : getU32 (.int32 n) ≤ 255 := httl
    have hzero : getU32 (.int32 n) / 2 ^ 24 = 0 := Nat.div_eq_of_lt (by omega)
    change getBool (.int32 n) = false
    rw [getBool, hzero]
    rfl
  all_goals rfl

theorem pos_of_inMulticast {addr : ℕ} (h : inMulticast addr = true) : addr ≠ 0 := by
  rintro rfl
  cases h

theorem multicast_flags {f : GreFlags} {csum seq : Bool} (remote : Option ℕ)
    (hf : f.flags = flagWord (f.key != 0) csum seq) :
    (f.multicast remote).flags = flagWord (f.key != 0 || remote.any inMulticast) csum seq := by
  rcases remote with _ | addr
  · simpa [GreFlags.multicast] using hf
  · rw [GreFlags.multicast, Option.any_some]
    by_cases hkey : f.key = 0
    · cases hgroup : inMulticast addr
      · simpa [hkey] using hf
      · have haddr := pos_of_inMulticast hgroup
        rw [if_pos ⟨rfl, hkey⟩, GreFlags.setKey, if_pos haddr, hf, hkey]
        exact flagWord_or_key csum seq
    · have hset : (f.key != 0) = true := bne_iff_ne.mpr hkey
      rw [hset] at hf ⊢
      rw [if_neg fun hgroup => hkey hgroup.2, hf, Bool.true_or]

theorem any_of_greAddr {v6 : Bool} {cur : Option BlobValue} {addr : Option ℕ} (p : ℕ → Bool)
    (h : greAddr v6 cur = .ok addr) :
    (cur.any fun cur => (inetPton v6 (getString cur).toList).any p) = addr.any p := by
  rcases cur with _ | cur
  · cases h
    rfl
  · rw [greAddr] at h
    rw [Option.any_some]
    split at h
    · next addr' haddr =>
      cases h
      rw [haddr]
    · cases h

/-- What comes before the flags of a message holds none. -/
theorem greTunnel_attrs {kind : String} {link : ℕ} {data : Option Blob} {v6 : Bool}
    {msg : GreMessage} (h : systemAddGreTunnel kind link tb data v6 = .ok msg) :
    ∃ remote, greAddr v6 (tb TUNNEL_ATTR_REMOTE) = .ok remote ∧
      msg.iflags = (if v6 then (greData tb data).1
        else (greData tb data).1.multicast remote).flags ∧
      msg.oflags = (if v6 then (greData tb data).2
        else (greData tb data).2.multicast remote).flags := by
  rw [systemAddGreTunnel] at h
  rcases htos : greTos (tb TUNNEL_ATTR_TOS) with _ | tos <;> rw [htos] at h
  · cases h
  rcases hsource : greAddr v6 (tb TUNNEL_ATTR_LOCAL) with _ | source
  · simp [hsource, bind, Except.bind] at h
  rcases hremote : greAddr v6 (tb TUNNEL_ATTR_REMOTE) with _ | remote
  · simp [hsource, hremote, bind, Except.bind] at h
  refine ⟨remote, rfl, ?_⟩
  simp only [hsource, hremote, bind, Except.bind] at h
  cases v6
  · rw [if_neg Bool.false_ne_true] at h
    split at h
    · cases h
    · cases h
      refine flags_of_append rfl (flagless_append (flagless_append (flagless_addrs _ _ _) ?_)
        (flagless_putUnless ⟨rfl, rfl⟩))
      simp [GreAttr.Flagless, GreAttr.oflags?, GreAttr.iflags?]
  · rw [if_pos rfl] at h
    cases h
    refine flags_of_append rfl (flagless_append (flagless_append (flagless_append
      (flagless_addrs _ _ _) ?_) ?_) ?_)
    · simp [GreAttr.Flagless, GreAttr.oflags?, GreAttr.iflags?]
    · cases tos
      · exact flagless_putUnless ⟨rfl, rfl⟩
      · simp [GreAttr.Flagless, GreAttr.oflags?, GreAttr.iflags?]
    · simp [GreAttr.Flagless, GreAttr.oflags?, GreAttr.iflags?]

theorem greTunnel_of_accepted {ifindexOf : String → Option ℕ} {msg : GreMessage}
    (h : systemAddIpTunnel ifindexOf config = .ok (some msg)) :
    ((config.tb TUNNEL_ATTR_TTL).map getU32).getD 0 ≤ 255 ∧ ∃ kind v6 link,
      config.mode = some (kind, v6) ∧
        systemAddGreTunnel kind link config.tb config.data v6 = .ok msg := by
  have htb : (blobmsgParse tunnelAttrs config.attrs) = config.tb := rfl
  simp only [systemAddIpTunnel, htb, bind, Except.bind] at h
  split at h
  · cases h
  · next mode hmode =>
    split at h
    · cases h
    · next httl =>
      refine ⟨not_lt.mp httl, ?_⟩
      rcases hlink : tunnelLink ifindexOf (config.tb TUNNEL_ATTR_LINK) with _ | link <;>
        rw [hlink] at h
      · cases h
      rcases hkind : greMode (getString mode) with _ | ⟨kind, v6⟩ <;> rw [hkind] at h
      · cases h
      rcases htunnel : systemAddGreTunnel kind link config.tb config.data v6 with _ | msg' <;>
        simp only [htunnel] at h
      · cases h
      · cases h
        exact ⟨kind, v6, link, by rw [TunnelConfig.mode, hmode]; exact hkind, htunnel⟩

theorem flags_of_accepted {ifindexOf : String → Option ℕ} {msg : GreMessage}
    (h : systemAddIpTunnel ifindexOf config = .ok (some msg)) :
    msg.iflags = flagWord (config.key "ikey" != 0 || config.toGroup) (config.option "icsum")
        (config.option "iseqno") ∧
      msg.oflags = flagWord (config.key "okey" != 0 || config.toGroup) (config.option "ocsum")
        false := by
  obtain ⟨httl, kind, v6, link, hmode, htunnel⟩ := greTunnel_of_accepted h
  obtain ⟨remote, hremote, hiflags, hoflags⟩ := greTunnel_attrs htunnel
  obtain ⟨hikey, hin⟩ := @greData_fst config config.tb
  obtain ⟨hokey, hout⟩ := @greData_snd config config.tb (getBool_ttl httl)
  have hgroup : config.toGroup = (!v6 && remote.any inMulticast) := by
    rw [TunnelConfig.toGroup, hmode, Option.any_some]
    cases v6
    · rw [any_of_greAddr inMulticast hremote]
    · rfl
  rw [hiflags, hoflags, hgroup, ← hikey, ← hokey]
  rw [← hikey] at hin
  rw [← hokey] at hout
  cases v6
  · exact ⟨multicast_flags remote hin, multicast_flags remote hout⟩
  · rw [Bool.not_true, Bool.false_and, Bool.or_false, Bool.or_false]
    exact ⟨hin, hout⟩

theorem others_of_accepted {ifindexOf : String → Option ℕ} {msg : GreMessage}
    (h : systemAddIpTunnel ifindexOf config = .ok (some msg))
    (ifindexOf' : String → Option ℕ) (config' : TunnelConfig) (msg' : GreMessage)
    (hdata : config'.data = config.data)
    (h' : systemAddIpTunnel ifindexOf' config' = .ok (some msg')) :
    FlagsAgree config config' msg msg' := by
  obtain ⟨hi, ho⟩ := flags_of_accepted h
  obtain ⟨hi', ho'⟩ := flags_of_accepted h'
  have hkey (name : String) : config'.key name = config.key name := by
    rw [TunnelConfig.key, hdata, TunnelConfig.key]
  have hoption (name : String) : config'.option name = config.option name := by
    rw [TunnelConfig.option, hdata, TunnelConfig.option]
  rw [hkey, hoption, hoption] at hi'
  rw [hkey, hoption] at ho'
  refine ⟨⟨?_, ?_⟩, ⟨?_, ?_⟩, fun hgroup => ⟨?_, ?_⟩⟩
  · rw [hi, hi', (isSet_flagWord _ _ _).2.1, (isSet_flagWord _ _ _).2.1]
  · rw [ho, ho', (isSet_flagWord _ _ _).2.1, (isSet_flagWord _ _ _).2.1]
  · rw [hi, hi', (isSet_flagWord _ _ _).2.2, (isSet_flagWord _ _ _).2.2]
  · rw [ho, ho', (isSet_flagWord _ _ _).2.2, (isSet_flagWord _ _ _).2.2]
  · rw [hi, hi', hgroup]
  · rw [ho, ho', hgroup]

/-- The flags of an accepted tunnel are those that its options say exactly if no sequence numbers
are asked for in packets that go out. -/
theorem greSound_iff {ifindexOf : String → Option ℕ} {msg : GreMessage}
    (h : systemAddIpTunnel ifindexOf config = .ok (some msg)) :
    GreSound config msg ↔ config.option "oseqno" = false := by
  obtain ⟨hi, ho⟩ := flags_of_accepted h
  constructor
  · rintro ⟨hflags, -⟩
    rw [← hflags.oseqno, ho, (isSet_flagWord _ _ _).2.2]
  · intro hoseqno
    refine ⟨⟨?_, ?_, ?_, ?_, ?_, ?_⟩, others_of_accepted h⟩
    · rw [hi, (isSet_flagWord _ _ _).2.1]
    · rw [ho, (isSet_flagWord _ _ _).2.1]
    · rw [hi, (isSet_flagWord _ _ _).2.2]
    · rw [ho, (isSet_flagWord _ _ _).2.2, hoseqno]
    · rw [hi, (isSet_flagWord _ _ _).1]
    · rw [ho, (isSet_flagWord _ _ _).1]

/-- A GRE tunnel to a host with a key and checksums. -/
def greKeyed : TunnelConfig where
  attrs
    | "mode" => some (.string "greip")
    | "remote" => some (.string "10.0.0.1")
    | "ttl" => some (.int32 64)
    | _ => none
  data := some fun
    | "ikey" => some (.int32 7)
    | "icsum" => some (.bool true)
    | _ => none

/-- The same tunnel with sequence numbers in what goes out. -/
def greSequenced : TunnelConfig :=
  { greKeyed with
    data := some fun
      | "ikey" => some (.int32 7)
      | "icsum" => some (.bool true)
      | "oseqno" => some (.bool true)
      | _ => none }

/-- The message of both. -/
def greKeyedMessage : GreMessage where
  kind := "gre"
  attrs := [.remote 167772161, .pmtudisc true, .tos 0, .ttl 64, .iflags 0xa000, .ikey 7]

theorem greSound_keyed : GreSound greKeyed greKeyedMessage := by
  have haccepted : systemAddIpTunnel (fun _ => none) greKeyed = .ok (some greKeyedMessage) := rfl
  exact (greSound_iff haccepted).mpr (by decide)

/-- The sequence numbers of packets that go out are left out of the message. -/
theorem greSequenced_not_sound :
    systemAddIpTunnel (fun _ => none) greSequenced = .ok (some greKeyedMessage) ∧
      ¬GreSound greSequenced greKeyedMessage := by
  refine ⟨rfl, fun hsound => ?_⟩
  have hseq := hsound.flags.oseqno
  revert hseq
  decide

end Netifd.GreTunnels
