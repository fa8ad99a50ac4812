import Netifd.Comparators
import Netifd.FileChecksum
import Netifd.InterfaceConfiguration

/-!
# The resolver's file

`interface_write_resolv_conf` of `interface-ip.c` writes the name servers and the search domains of
all interfaces that are up into a new file, which replaces the old one if their checks differ. So
an old file with the same check stays, but a change of a few characters in a row is never missed.
The characters of a string are its bytes here.
-/

namespace Netifd.ResolvConf
open FileChecksum WrappedOrder

abbrev Bytes := List (BitVec 8)

def bytes (s : List Char) : Bytes := s.map fun c => BitVec.ofNat 8 c.toNat

def newline : BitVec 8 := 10

/-- What the file depends on of `struct interface`: the name and the metrics, the name of the device
and the settings. -/
structure Interface where
  iface : AdmittedResolv
  ifname : String
  up : Bool
  configIp : InterfaceIpSettings
  protoIp : InterfaceIpSettings

section Code
variable (inetNtop : DnsServer → Option String)

/-- `IN6_IS_ADDR_LINKLOCAL` of an address of its family. -/
def isLinkLocal (s : DnsServer) : Bool := s.v6 && s.addr / 2 ^ 118 == 0x3FA

/-- What follows `nameserver`. -/
def serverText (dev : String) (s : DnsServer) : Option Bytes :=
  (inetNtop s).map fun str =>
    if isLinkLocal s then bytes str.toList ++ bytes "%".toList ++ bytes dev.toList
    else bytes str.toList

def serverLine (text : Bytes) : Bytes := bytes "nameserver ".toList ++ text

def searchLine (name : String) : Bytes := bytes "search ".toList ++ bytes name.toList

def interfaceLine (name : String) : Bytes := bytes "# Interface ".toList ++ bytes name.toList

def writeResolvConfEntries (ip : InterfaceIpSettings) (dev : String) : List Bytes :=
  (ip.dnsServers.values.filterMap (serverText inetNtop dev)).map serverLine ++
    ip.dnsSearch.values.map searchLine

/-- `resolv_conf_iface_cmp`, as an `int`. -/
def resolvConfIfaceCmp (a b : Interface) : ℤ := wrapped AdmittedResolv.diff a.iface b.iface

/-- `avl_insert` into a tree without duplicates, as the list of its entries. Where the comparator
orders the entries it does not matter where the search begins. -/
def avlInsert (entry : Interface) : List Interface → List Interface
  | [] => [entry]
  | e :: entries =>
    if resolvConfIfaceCmp entry e < 0 then entry :: e :: entries
    else if resolvConfIfaceCmp entry e = 0 then e :: entries
    else e :: avlInsert entry entries

/-- The interface is up and has entries. -/
def hasEntries (iface : Interface) : Bool :=
  iface.up && !(iface.protoIp.dnsSearch.values.isEmpty && iface.protoIp.dnsServers.values.isEmpty &&
    iface.configIp.dnsSearch.values.isEmpty && iface.configIp.dnsServers.values.isEmpty)

def resolvConfIfaceEntries (interfaces : List Interface) : List Interface :=
  (interfaces.filter hasEntries).foldl (fun entries iface => avlInsert iface entries) []

/-- What is written for one interface. -/
def interfaceLines (iface : Interface) : List Bytes :=
  interfaceLine iface.iface.iface.name ::
    (writeResolvConfEntries inetNtop iface.configIp iface.ifname ++
      if iface.protoIp.noDns then []
      else writeResolvConfEntries inetNtop iface.protoIp iface.ifname)

def interfaceWriteDnsEntries (interfaces : List Interface) : Bytes :=
  ((resolvConfIfaceEntries interfaces).flatMap (interfaceLines inetNtop)).flatMap fun line =>
    line ++ [newline]

/-- The file and the one that is written first. -/
structure Files where
  conf : Option Bytes
  tmp : Option Bytes

/-- Whether the new file can be opened, the old one be read, and the new one be renamed. -/
structure Answers where
  openTmp : Bool
  openConf : Bool
  rename : Bool

/-- `interface_write_resolv_conf`, with the table of `crc32_file`. -/
def interfaceWriteResolvConf (answers : Answers) (interfaces : List Interface) (files : Files)
    (static : Option CrcTable) : Files × Option CrcTable :=
  let files := { files with tmp := none }
  if !answers.openTmp then (files, static)
  else
    let new := interfaceWriteDnsEntries inetNtop interfaces
    let files := { files with tmp := some new }
    let (crcnew, static) := crc32File static new
    let (crcold, static) :=
      match if answers.openConf then files.conf else none with
      | some old => crc32File static old
      | none => (crcnew + 1, static)
    if crcold = crcnew then ({ files with tmp := none }, static)
    else if answers.rename then ({ conf := files.tmp, tmp := none }, static)
    else ({ files with tmp := none }, static)

end Code

/-- The key of an interface. -/
def Interface.key (i : Interface) := i.iface.key

/-- Interfaces with names of their own and with metrics whose differences fit. -/
structure Interfaces where
  list : List Interface
  names : (list.map fun i => i.iface.iface.name).Nodup
  fits : ∀ a ∈ list, ∀ b ∈ list, Fits (a.iface.diff b.iface)

theorem diff_decides : Decides AdmittedResolv.key AdmittedResolv.diff where
  neg a b := resolvConfIfaceCmp_decides.neg a.iface b.iface
  swap a b := resolvConfIfaceCmp_decides.swap a.iface b.iface

section Order

variable {entry : Interface} {entries : List Interface}

theorem cmp_fits {a b : Interface} (h : Fits (a.iface.diff b.iface)) :
    resolvConfIfaceCmp a b = a.iface.diff b.iface := h.bmod_eq

theorem avlInsert_perm (hfits : ∀ e ∈ entries, Fits (entry.iface.diff e.iface))
    (hnew : ∀ e ∈ entries, entry.key ≠ e.key) :
    (avlInsert entry entries).Perm (entry :: entries) := by
  induction entries with
  | nil => exact List.Perm.refl _
  | cons e entries ih =>
    have hcmp := cmp_fits (hfits e List.mem_cons_self)
    have hne : resolvConfIfaceCmp entry e ≠ 0 := by
      rw [hcmp, Ne, diff_decides.zero]
      exact hnew e List.mem_cons_self
    rw [avlInsert, if_neg hne]
    split
    · exact List.Perm.refl _
    · have hrest := ih (fun e he => hfits e (List.mem_cons_of_mem _ he))
        fun e he => hnew e (List.mem_cons_of_mem _ he)
      exact (hrest.cons e).trans (List.Perm.swap entry e entries)

theorem avlInsert_sorted (hfits : ∀ e ∈ entries, Fits (entry.iface.diff e.iface))
    (hnew : ∀ e ∈ entries, entry.key ≠ e.key)
    (hsorted : entries.Pairwise fun a b => a.key < b.key) :
    (avlInsert entry entries).Pairwise fun a b => a.key < b.key := by
  induction entries with
  | nil => exact List.pairwise_singleton _ _
  | cons e entries ih =>
    obtain ⟨hfirst, hrest⟩ := List.pairwise_cons.mp hsorted
    have hcmp := cmp_fits (hfits e List.mem_cons_self)
    have hne : resolvConfIfaceCmp entry e ≠ 0 := by
      rw [hcmp, Ne, diff_decides.zero]
      exact hnew e List.mem_cons_self
    have hfits' : ∀ e ∈ entries, Fits (entry.iface.diff e.iface) :=
      fun e he => hfits e (List.mem_cons_of_mem _ he)
    have hnew' : ∀ e ∈ entries, entry.key ≠ e.key :=
      fun e he => hnew e (List.mem_cons_of_mem _ he)
    rw [avlInsert, if_neg hne]
    split
    · rename_i hlt
      rw [hcmp, diff_decides.neg] at hlt
      apply List.pairwise_cons.mpr ⟨_, hsorted⟩
      intro a ha
      rcases List.mem_cons.mp ha with rfl | ha
      · exact hlt
      · exact hlt.trans (hfirst a ha)
    · rename_i hge
      rw [hcmp, diff_decides.neg, not_lt] at hge
      apply List.pairwise_cons.mpr ⟨_, ih hfits' hnew' hrest⟩
      intro a ha
      rcases List.mem_cons.mp ((avlInsert_perm hfits' hnew').subset ha) with rfl | ha
      · exact lt_of_le_of_ne hge (hnew e List.mem_cons_self).symm
      · exact hfirst a ha

theorem Interfaces.key_ne (t : Interfaces) {a b : Interface} {l : List Interface}
    (hsub : (a :: b :: l).Subperm t.list) : a.key ≠ b.key := by
  obtain ⟨l', hperm, hsublist⟩ := hsub
  have hnames := (hperm.map fun i => i.iface.iface.name).nodup_iff.mp
    (t.names.sublist (hsublist.map _))
  simp only [List.map_cons, List.nodup_cons, List.mem_cons, not_or] at hnames
  intro hkey
  have hname := congrArg (fun k => (ofLex (ofLex k).2).2) hkey
  exact hnames.1.1 hname

theorem foldl_entries (t : Interfaces) (l entries : List Interface)
    (hsub : (l ++ entries).Subperm t.list)
    (hsorted : entries.Pairwise fun a b => a.key < b.key) :
    (l.foldl (fun entries iface => avlInsert iface entries) entries).Perm (l ++ entries) ∧
      (l.foldl (fun entries iface => avlInsert iface entries) entries).Pairwise
        fun a b => a.key < b.key := by
  induction l generalizing entries with
  | nil => exact ⟨List.Perm.refl _, hsorted⟩
  | cons i l ih =>
    have hi : i ∈ t.list := hsub.subset List.mem_cons_self
    have hfits : ∀ e ∈ entries, Fits (i.iface.diff e.iface) := fun e he =>
      t.fits i hi e (hsub.subset (List.mem_append_right _ he))
    have hnew : ∀ e ∈ entries, i.key ≠ e.key := by
      intro e he
      obtain ⟨before, after, rfl⟩ := List.append_of_mem he
      have hpair : (i :: e :: []).Sublist (i :: l ++ (before ++ e :: after)) := by
        apply List.Sublist.cons_cons
        apply List.singleton_sublist.mpr
        simp
      exact t.key_ne (hpair.subperm.trans hsub)
    have hinsert := avlInsert_perm hfits hnew
    have hmoved : (l ++ avlInsert i entries).Perm (i :: l ++ entries) :=
      (hinsert.append_left l).trans List.perm_middle
    obtain ⟨hperm, hpairs⟩ := ih (avlInsert i entries) (hmoved.subperm.trans hsub)
      (avlInsert_sorted hfits hnew hsorted)
    exact ⟨hperm.trans hmoved, hpairs⟩

theorem entries_sorted (t : Interfaces) :
    (resolvConfIfaceEntries t.list).Perm (t.list.filter hasEntries) ∧
      (resolvConfIfaceEntries t.list).Pairwise fun a b => a.key < b.key := by
  have hsub : (t.list.filter hasEntries ++ []).Subperm t.list := by
    rw [List.append_nil]
    exact List.filter_sublist.subperm
  have hentries := foldl_entries t (t.list.filter hasEntries) [] hsub List.Pairwise.nil
  rw [List.append_nil] at hentries
  exact hentries

end Order

/-- The lines of a file that ends with one. -/
def lines (content : Bytes) : List Bytes := (content.splitOn newline).dropLast

/-- What stands behind a keyword. -/
def behind (keyword line : Bytes) : Option Bytes :=
  if keyword.isPrefixOf line then some (line.drop keyword.length) else none

/-- The name servers that a resolver reads. -/
def nameservers (content : Bytes) : List Bytes :=
  (lines content).filterMap (behind (bytes "nameserver ".toList))

/-- The search domains that a resolver reads. -/
def searchDomains (content : Bytes) : List Bytes :=
  (lines content).filterMap (behind (bytes "search ".toList))

section Reading

variable (inetNtop : DnsServer → Option String)

/-- No text contains a newline. -/
structure Plain (interfaces : List Interface) : Prop where
  address : ∀ s str, inetNtop s = some str → newline ∉ bytes str.toList
  name : ∀ i ∈ interfaces, newline ∉ bytes i.iface.iface.name.toList
  ifname : ∀ i ∈ interfaces, newline ∉ bytes i.ifname.toList
  configSearch : ∀ i ∈ interfaces, ∀ d ∈ i.configIp.dnsSearch.values, newline ∉ bytes d.toList
  protoSearch : ∀ i ∈ interfaces, ∀ d ∈ i.protoIp.dnsSearch.values, newline ∉ bytes d.toList

/-- The name servers that are to be used for an interface. -/
def usedServers (i : Interface) : List Bytes :=
  i.configIp.dnsServers.values.filterMap (serverText inetNtop i.ifname) ++
    if i.protoIp.noDns then []
    else i.protoIp.dnsServers.values.filterMap (serverText inetNtop i.ifname)

/-- The search domains that are to be used for it. -/
def usedDomains (i : Interface) : List Bytes :=
  (i.configIp.dnsSearch.values ++ if i.protoIp.noDns then [] else i.protoIp.dnsSearch.values).map
    fun d => bytes d.toList

theorem lines_flatMap {ls : List Bytes} (h : ∀ l ∈ ls, newline ∉ l) :
    lines (ls.flatMap fun line => line ++ [newline]) = ls := by
  induction ls with
  | nil => rfl
  | cons l ls ih =>
    have hrest := ih fun l hl => h l (List.mem_cons_of_mem _ hl)
    have hsplit := List.splitOn_append_cons_self_of_not_mem (h l List.mem_cons_self)
      (ls.flatMap fun line => line ++ [newline])
    rw [lines] at hrest ⊢
    rw [List.flatMap_cons, List.append_assoc, List.singleton_append, hsplit,
      List.dropLast_cons_of_ne_nil (List.splitOn_ne_nil _ _), hrest]

theorem behind_append (keyword text : Bytes) : behind keyword (keyword ++ text) = some text := by
  simp [behind]

theorem filterMap_behind {keyword : Bytes} {ls : List Bytes}
    (h : ∀ l ∈ ls, keyword.isPrefixOf l = false) : ls.filterMap (behind keyword) = [] := by
  rw [List.filterMap_eq_nil_iff]
  intro l hl
  rw [behind, if_neg (by simp [h l hl])]

theorem filterMap_behind_map (keyword : Bytes) (texts : List Bytes) :
    (texts.map (keyword ++ ·)).filterMap (behind keyword) = texts := by
  rw [List.filterMap_map]
  have hsome : behind keyword ∘ (keyword ++ ·) = some := funext (behind_append keyword)
  rw [hsome, List.filterMap_some]

theorem behind_entries (ip : InterfaceIpSettings) (dev : String) :
    (writeResolvConfEntries inetNtop ip dev).filterMap (behind (bytes "nameserver ".toList)) =
        ip.dnsServers.values.filterMap (serverText inetNtop dev) ∧
      (writeResolvConfEntries inetNtop ip dev).filterMap (behind (bytes "search ".toList)) =
        ip.dnsSearch.values.map fun d => bytes d.toList := by
  rw [writeResolvConfEntries, List.filterMap_append, List.filterMap_append]
  constructor
  · have hsearch : ∀ l ∈ ip.dnsSearch.values.map searchLine,
        (bytes "nameserver ".toList).isPrefixOf l = false := by
      intro l hl
      obtain ⟨d, -, rfl⟩ := List.mem_map.mp hl
      rfl
    rw [filterMap_behind hsearch, List.append_nil]
    exact filterMap_behind_map _ _
  · have hserver : ∀ l ∈ (ip.dnsServers.values.filterMap (serverText inetNtop dev)).map serverLine,
        (bytes "search ".toList).isPrefixOf l = false := by
      intro l hl
      obtain ⟨text, -, rfl⟩ := List.mem_map.mp hl
      rfl
    have hmap : ip.dnsSearch.values.map searchLine =
        (ip.dnsSearch.values.map fun d => bytes d.toList).map (bytes "search ".toList ++ ·) := by
      rw [List.map_map]
      rfl
    rw [filterMap_behind hserver, List.nil_append, hmap, filterMap_behind_map]

theorem behind_interface (i : Interface) :
    (interfaceLines inetNtop i).filterMap (behind (bytes "nameserver ".toList)) =
        usedServers inetNtop i ∧
      (interfaceLines inetNtop i).filterMap (behind (bytes "search ".toList)) = usedDomains i := by
  obtain ⟨hserver, hsearch⟩ := behind_entries inetNtop i.configIp i.ifname
  obtain ⟨hserver', hsearch'⟩ := behind_entries inetNtop i.protoIp i.ifname
  have hname : behind (bytes "nameserver ".toList) (interfaceLine i.iface.iface.name) = none := rfl
  have hname' : behind (bytes "search ".toList) (interfaceLine i.iface.iface.name) = none := rfl
  rw [interfaceLines, List.filterMap_cons_none hname, List.filterMap_cons_none hname',
    List.filterMap_append, List.filterMap_append, hserver, hsearch, usedServers, usedDomains]
  constructor
  · split
    · rfl
    · rw [hserver']
  · split
    · rw [List.filterMap_nil, List.append_nil, List.append_nil]
    · rw [hsearch', List.map_append]

/-- No line that is written contains a newline. -/
theorem Plain.line {interfaces : List Interface} (h : Plain inetNtop interfaces) {i : Interface}
    (hi : i ∈ interfaces) {l : Bytes} (hl : l ∈ interfaceLines inetNtop i) : newline ∉ l := by
  have hserver : ∀ s text, serverText inetNtop i.ifname s = some text → newline ∉ text := by
    intro s text htext
    obtain ⟨str, hstr, rfl⟩ := Option.map_eq_some_iff.mp htext
    have haddress := h.address s str hstr
    have hifname := h.ifname i hi
    have hpercent : newline ∉ bytes "%".toList := by decide
    split
    · exact List.not_mem_append (List.not_mem_append haddress hpercent) hifname
    · exact haddress
  have hentries : ∀ ip : InterfaceIpSettings,
      (∀ d ∈ ip.dnsSearch.values, newline ∉ bytes d.toList) →
      ∀ l ∈ writeResolvConfEntries inetNtop ip i.ifname, newline ∉ l := by
    intro ip hsearch l hl
    rcases List.mem_append.mp hl with hl | hl
    · obtain ⟨text, htext, rfl⟩ := List.mem_map.mp hl
      obtain ⟨s, -, hs⟩ := List.mem_filterMap.mp htext
      have hkeyword : newline ∉ bytes "nameserver ".toList := by decide
      exact List.not_mem_append hkeyword (hserver s text hs)
    · obtain ⟨d, hd, rfl⟩ := List.mem_map.mp hl
      have hkeyword : newline ∉ bytes "search ".toList := by decide
      exact List.not_mem_append hkeyword (hsearch d hd)
  rcases List.mem_cons.mp hl with rfl | hl
  · have hkeyword : newline ∉ bytes "# Interface ".toList := by decide
    exact List.not_mem_append hkeyword (h.name i hi)
  · rcases List.mem_append.mp hl with hl | hl
    · exact hentries i.configIp (h.configSearch i hi) l hl
    · split at hl
      · cases hl
      · exact hentries i.protoIp (h.protoSearch i hi) l hl

end Reading

/-- A resolver reads from the file the name servers and the search domains of the interfaces that
are up: those of the configuration and, unless they are not to be used, those of the protocol, in
the order of the DNS metrics, of the metrics and of the names. -/
theorem resolv_conf_read (inetNtop : DnsServer → Option String) (t : Interfaces)
    (hplain : Plain inetNtop t.list) :
    ∃ order : List Interface, order.Perm (t.list.filter hasEntries) ∧
      order.Pairwise (fun a b => a.key < b.key) ∧
      nameservers (interfaceWriteDnsEntries inetNtop t.list) =
        order.flatMap (usedServers inetNtop) ∧
      searchDomains (interfaceWriteDnsEntries inetNtop t.list) = order.flatMap usedDomains := by
  obtain ⟨hperm, hsorted⟩ := entries_sorted t
  refine ⟨resolvConfIfaceEntries t.list, hperm, hsorted, ?_⟩
  have hline : ∀ l ∈ (resolvConfIfaceEntries t.list).flatMap (interfaceLines inetNtop),
      newline ∉ l := by
    intro l hl
    obtain ⟨i, hi, hmem⟩ := List.mem_flatMap.mp hl
    exact hplain.line inetNtop (List.mem_of_mem_filter (hperm.subset hi)) hmem
  rw [nameservers, searchDomains, interfaceWriteDnsEntries, lines_flatMap hline,
    List.filterMap_flatMap, List.filterMap_flatMap]
  constructor
  · exact List.flatMap_congr fun i _ => (behind_interface inetNtop i).1
  · exact List.flatMap_congr fun i _ => (behind_interface inetNtop i).2

/-- `vpn` has a domain and a server of its own, and comes after `wan`. -/
def twoInterfaces : Interfaces where
  list :=
    [{ iface := ⟨{ name := "vpn", dnsMetric := 10 }, by decide, by decide⟩, ifname := "tun0",
        up := true, configIp := {},
        protoIp := { dnsServers := { list := [⟨⟨false, 1⟩, 1⟩] },
                     dnsSearch := { list := [⟨"lan", 1⟩] } } },
      { iface := ⟨{ name := "wan" }, by decide, by decide⟩, ifname := "eth0", up := true,
        configIp := { dnsServers := { list := [⟨⟨false, 2⟩, 1⟩] } }, protoIp := {} }]
  names := by decide
  fits a ha b hb := by
    simp only [List.mem_cons, List.not_mem_nil, or_false] at ha hb
    rcases ha with rfl | rfl <;> rcases hb with rfl | rfl <;> constructor <;> decide

def twoServers (s : DnsServer) : Option String :=
  if s.addr = 1 then some "192.0.2.1" else some "192.0.2.2"

theorem twoServers_plain : Plain twoServers twoInterfaces.list := by
  refine ⟨fun s str hstr => ?_, by decide, by decide, by decide, by decide⟩
  rw [twoServers] at hstr
  split at hstr <;> cases hstr <;> decide

theorem resolv_conf_read_two :
    nameservers (interfaceWriteDnsEntries twoServers twoInterfaces.list) =
        [bytes "192.0.2.2".toList, bytes "192.0.2.1".toList] ∧
      ∃ order : List Interface, order.Perm (twoInterfaces.list.filter hasEntries) ∧
        order.Pairwise (fun a b => a.key < b.key) ∧
        nameservers (interfaceWriteDnsEntries twoServers twoInterfaces.list) =
          order.flatMap (usedServers twoServers) ∧
        searchDomains (interfaceWriteDnsEntries twoServers twoInterfaces.list) =
          order.flatMap usedDomains :=
  ⟨by decide, resolv_conf_read twoServers twoInterfaces twoServers_plain⟩

/-- A call of `interface_write_resolv_conf`. -/
structure Write where
  answers : Answers
  interfaces : Interfaces

section Runs

variable (inetNtop : DnsServer → Option String)

def Write.content (c : Write) : Bytes := interfaceWriteDnsEntries inetNtop c.interfaces.list

/-- The files and the table after a call. -/
def write (s : Files × Option CrcTable) (c : Write) : Files × Option CrcTable :=
  interfaceWriteResolvConf inetNtop c.answers c.interfaces.list s.1 s.2

/-- What a call does to the files: nothing is left behind, and where the new file can be written
and renamed, the file that there is then has the same check. -/
structure Written (answers : Answers) (new : Bytes) (files files' : Files) : Prop where
  tmp : files'.tmp = none
  conf : files'.conf = files.conf ∨ files'.conf = some new
  current : answers.openTmp = true → answers.rename = true →
    files'.conf = some new ∨ ∃ old, files.conf = some old ∧ files'.conf = some old ∧
      crc32 old = crc32 new

/-- The contents differ at most in four bytes one after the other. -/
def Near (old new : Bytes) : Prop :=
  ∃ before change change' after : Bytes, change.length ≤ 4 ∧ change'.length = change.length ∧
    old = before ++ change ++ after ∧ new = before ++ change' ++ after

theorem Near.eq {old new : Bytes} (h : Near old new) (hcheck : crc32 old = crc32 new) :
    old = new := by
  obtain ⟨before, change, change', after, hlen, hsame, rfl, rfl⟩ := h
  rw [crc32_window hlen hsame hcheck]

variable {inetNtop}

theorem write_written {s : Files × Option CrcTable} (hstatic : s.2.getD crcvals = crcvals)
    (c : Write) : Written c.answers (c.content inetNtop) s.1 (write inetNtop s c).1 ∧
      (write inetNtop s c).2.getD crcvals = crcvals := by
  obtain ⟨files, static⟩ := s
  rw [write, interfaceWriteResolvConf]
  cases hopen : c.answers.openTmp with
  | false => exact ⟨⟨rfl, .inl rfl, fun htmp => Bool.noConfusion (hopen.symm.trans htmp)⟩, hstatic⟩
  | true =>
    simp only [Bool.not_true, Bool.false_eq_true, if_false, crc32File_eq hstatic]
    cases hold : if c.answers.openConf then files.conf else none with
    | none =>
      have hne : ∀ crcnew : BitVec 32, crcnew + 1 ≠ crcnew := by simp
      dsimp only
      rw [if_neg (hne _)]
      split_ifs with hrename
      · exact ⟨⟨rfl, .inr rfl, fun _ _ => .inl rfl⟩, rfl⟩
      · exact ⟨⟨rfl, .inl rfl, fun _ h => absurd h hrename⟩, rfl⟩
    | some old =>
      have hconf : files.conf = some old := by
        split at hold
        · exact hold
        · exact absurd hold (by simp)
      simp only [crc32File_eq Option.getD_some]
      split_ifs with hsame hrename
      · exact ⟨⟨rfl, .inl rfl, fun _ _ => .inr ⟨old, hconf, hconf, hsame⟩⟩, rfl⟩
      · exact ⟨⟨rfl, .inr rfl, fun _ _ => .inl rfl⟩, rfl⟩
      · exact ⟨⟨rfl, .inl rfl, fun _ h => absurd h hrename⟩, rfl⟩

variable (inetNtop)

theorem static_of_writes (writes : List Write) {s : Files × Option CrcTable}
    (hstatic : s.2.getD crcvals = crcvals) :
    (writes.foldl (write inetNtop) s).2.getD crcvals = crcvals := by
  induction writes generalizing s with
  | nil => exact hstatic
  | cons c writes ih =>
    rw [List.foldl_cons]
    exact ih (write_written hstatic c).2

end Runs

/-- The server that `wan` has learned, which may change. -/
def learnedServer (n : ℕ) : Write where
  answers := ⟨true, true, true⟩
  interfaces.list :=
    [{ iface := ⟨{ name := "wan" }, by decide, by decide⟩, ifname := "eth0", up := true,
        configIp := {}, protoIp := { dnsServers := { list := [⟨⟨false, n⟩, 1⟩] } } }]
  interfaces.names := List.nodup_singleton _
  interfaces.fits a ha b hb := by
    obtain rfl := List.mem_singleton.mp ha
    obtain rfl := List.mem_singleton.mp hb
    rw [(diff_decides.zero _ _).mpr rfl]
    constructor <;> decide

end Netifd.ResolvConf
