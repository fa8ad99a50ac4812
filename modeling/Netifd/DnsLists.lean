import Netifd.GuardedRuns
import Netifd.InterfaceConfiguration
import Netifd.Netmask

/-!
# Lists of name servers

What `proto_ip` of an interface lists of name servers and search domains while it is updated again
and again. The versions of a list are of type `int` here.
-/

namespace Netifd.VlistSimple

variable {α : Type}

/-- `vlist_simple_update`, which overflows. -/
def updateInt (tree : VlistSimple α) : VlistSimple α :=
  { tree with version := toInt32 (tree.version + 1) }

/-- `vlist_simple_replace`: both lists. -/
def replaceInt (dest old : VlistSimple α) : VlistSimple α × VlistSimple α :=
  (flush (old.values.foldl add dest.updateInt), { old with list := [] })

/-- A node that is left behind by a flush. -/
def Kept (version : ℤ) (n : VlistSimpleNode α) : Prop := n.version = version ∨ n.version = -1

theorem flush_added (tree : VlistSimple α) (l : List α) :
    (flush (l.foldl add tree)).values =
      if tree.version = -1 then [] else tree.flush.values ++ l := by
  rw [foldl_add, values, flush, List.filter_append, List.map_append]
  split_ifs with hall
  · simp [hall]
  · have hnew : (l.map fun value => ({ value, version := tree.version } : VlistSimpleNode α)).filter
        (fun n => (n.version == tree.version || n.version == -1) && tree.version != -1) =
        l.map fun value => { value, version := tree.version } := by
      refine List.filter_eq_self.mpr ?_
      intro n hn
      obtain ⟨value, -, rfl⟩ := List.mem_map.mp hn
      simp [hall]
    rw [hnew, List.map_map]
    congr 1
    exact List.map_id l

theorem flush_eq_nil {tree : VlistSimple α} (hall : tree.version ≠ -1) :
    tree.flush.values = [] ↔ ∀ n ∈ tree.list, ¬Kept tree.version n := by
  rw [values, List.map_eq_nil_iff, flush, List.filter_eq_nil_iff]
  simp [Kept, hall]

theorem replaceInt_values_iff (dest old : VlistSimple α) :
    (dest.replaceInt old).1.values = old.values ↔
      if dest.updateInt.version = -1 then old.values = []
      else ∀ n ∈ dest.list, ¬Kept dest.updateInt.version n := by
  rw [replaceInt, flush_added]
  split_ifs with hall
  · exact eq_comm
  · rw [List.append_left_eq_self, flush_eq_nil hall]
    rfl

/-- The nodes are of the present version, which is the number of some update. -/
structure Current (k : ℕ) (tree : VlistSimple α) : Prop where
  version : ∃ v : ℤ, -1 ≤ v ∧ v ≤ k + 1 ∧ tree.version = toInt32 v ∧ (v = -1 → tree.list = [])
  nodes : ∀ n ∈ tree.list, n.version = tree.version

theorem current_empty : Current 0 ({} : VlistSimple α) :=
  ⟨⟨1, by decide, by decide, rfl, fun _ => rfl⟩, by simp⟩

theorem toInt32_neg_one : toInt32 (-1) = -1 := by decide

theorem toInt32_ne {v w : ℤ} (hlt : v < w) (hdiff : w < v + 2 ^ 32) : toInt32 v ≠ toInt32 w := by
  intro heq
  simp only [toInt32, Int.bmod_eq_emod] at heq
  split_ifs at heq <;> omega

/-- After an update, just the entries are there that were added in it. -/
theorem Current.cycle {k : ℕ} {tree : VlistSimple α} (h : Current k tree) (hk : k < 2 ^ 31 - 1)
    (l : List α) : (flush (l.foldl add tree.updateInt)).values = l ∧
      Current (k + 1) (flush (l.foldl add tree.updateInt)) := by
  obtain ⟨v, hlow, hhigh, hversion, hflushed⟩ := h.version
  have hnext : tree.updateInt.version = toInt32 (v + 1) := by
    simp [updateInt, hversion, toInt32]
  have hall : tree.updateInt.version ≠ -1 := by
    rw [hnext, ← toInt32_neg_one]
    exact (toInt32_ne (by omega) (by omega)).symm
  have hstale : ∀ n ∈ tree.updateInt.list, ¬Kept tree.updateInt.version n := by
    intro n hn
    have hn' : n.version = toInt32 v := (h.nodes n hn).trans hversion
    have hv : -1 < v := by
      refine lt_of_le_of_ne hlow fun heq => ?_
      rw [updateInt, hflushed heq.symm] at hn
      cases hn
    rw [Kept, hn', hnext]
    rintro (heq | heq)
    · exact toInt32_ne (by omega) (by omega) heq
    · exact toInt32_ne hv (by omega) (toInt32_neg_one.trans heq.symm)
  have hvalues : (flush (l.foldl add tree.updateInt)).values = l := by
    rw [flush_added, if_neg hall, (flush_eq_nil hall).mpr hstale, List.nil_append]
  refine ⟨hvalues, ⟨⟨v + 1, by omega, by omega, ?_, by omega⟩, ?_⟩⟩
  · rw [foldl_add]
    exact hnext
  · intro n hn
    rw [foldl_add, flush] at hn ⊢
    obtain ⟨hmem, hkept⟩ := List.mem_filter.mp hn
    rcases List.mem_append.mp hmem with hold | hnew
    · have hkept : Kept tree.updateInt.version n := by simpa [Kept, hall] using hkept
      exact absurd hkept (hstale n hold)
    · obtain ⟨value, -, rfl⟩ := List.mem_map.mp hnew
      rfl

theorem flushAll_list (tree : VlistSimple α) : tree.flushAll.list = [] := by
  simp [flushAll, flush]

theorem current_flushAll (k : ℕ) (tree : VlistSimple α) : Current k tree.flushAll := by
  refine ⟨⟨-1, le_rfl, by omega, toInt32_neg_one.symm, fun _ => flushAll_list tree⟩, ?_⟩
  rw [flushAll_list]
  simp

end Netifd.VlistSimple

namespace Netifd.DnsLists
open GuardedRuns VlistSimple

/-- An entry that is added during an update. -/
inductive DnsEntry
  | server (str : String)
  | search (str : String)

section Code
variable (env : ConfigEnv)

/-- `interface_add_dns_server` or `interface_add_dns_search_domain`. -/
def addDnsEntry (ip : InterfaceIpSettings) : DnsEntry → InterfaceIpSettings
  | .server str => { ip with dnsServers := interfaceAddDnsServer env ip.dnsServers str }
  | .search str => { ip with dnsSearch := ip.dnsSearch.add str }

/-- `interface_ip_update_start`. The lists of `config_ip` are left alone. -/
def interfaceIpUpdateStart (isConfigIp : Bool) (ip : InterfaceIpSettings) : InterfaceIpSettings :=
  if isConfigIp then ip
  else { ip with dnsServers := ip.dnsServers.updateInt, dnsSearch := ip.dnsSearch.updateInt }

def interfaceIpUpdateComplete (ip : InterfaceIpSettings) : InterfaceIpSettings :=
  { ip with dnsServers := ip.dnsServers.flush, dnsSearch := ip.dnsSearch.flush }

def interfaceIpFlush (ip : InterfaceIpSettings) : InterfaceIpSettings :=
  { ip with dnsServers := ip.dnsServers.flushAll, dnsSearch := ip.dnsSearch.flushAll }

/-- What happens to `proto_ip`: an update with some entries, or a flush. -/
inductive DnsStep
  | cycle (entries : List DnsEntry)
  | flush

def dnsStep (ip : InterfaceIpSettings) : DnsStep → InterfaceIpSettings
  | .cycle entries =>
    interfaceIpUpdateComplete (entries.foldl (addDnsEntry env) (interfaceIpUpdateStart false ip))
  | .flush => interfaceIpFlush ip

/-- The server that a text stands for. -/
def serverOf (str : String) : Option DnsServer :=
  ((env.inetPton false str).map fun addr => { v6 := false, addr }).or
    ((env.inetPton true str).map fun addr => { v6 := true, addr })

/-- The servers and the domains among some entries. -/
def servers (entries : List DnsEntry) : List DnsServer :=
  entries.filterMap fun
    | .server str => serverOf env str
    | .search _ => none

def domains (entries : List DnsEntry) : List String :=
  entries.filterMap fun
    | .server _ => none
    | .search str => some str

/-- How many updates there are. -/
def cycles (steps : List DnsStep) : ℕ :=
  steps.countP fun
    | .cycle _ => true
    | .flush => false

/-- After each update of a run the lists hold just its entries. -/
def Reflected (steps : List DnsStep) : Prop :=
  ∀ before after entries, steps = before ++ .cycle entries :: after →
    let ip := run (dnsStep env) {} (before ++ [.cycle entries])
    ip.dnsServers.values = servers env entries ∧ ip.dnsSearch.values = domains entries

end Code

section Runs

variable {env : ConfigEnv} {k : ℕ} {ip : InterfaceIpSettings}

theorem interfaceAddDnsServer_eq (tree : VlistSimple DnsServer) (str : String) :
    interfaceAddDnsServer env tree str = ((serverOf env str).map tree.add).getD tree := by
  unfold interfaceAddDnsServer serverOf
  cases env.inetPton false str with
  | some addr => rfl
  | none => cases env.inetPton true str <;> rfl

theorem foldl_addDnsEntry (entries : List DnsEntry) (ip : InterfaceIpSettings) :
    entries.foldl (addDnsEntry env) ip =
      { ip with
        dnsServers := (servers env entries).foldl VlistSimple.add ip.dnsServers
        dnsSearch := (domains entries).foldl VlistSimple.add ip.dnsSearch } := by
  induction entries generalizing ip with
  | nil => rfl
  | cons entry entries ih =>
    rw [List.foldl_cons, ih]
    cases entry with
    | server str =>
      simp only [addDnsEntry, interfaceAddDnsServer_eq, servers, domains, List.filterMap_cons]
      cases serverOf env str <;> rfl
    | search str => rfl

/-- Both lists are of the present version. -/
structure ListsCurrent (k : ℕ) (ip : InterfaceIpSettings) : Prop where
  dnsServers : Current k ip.dnsServers
  dnsSearch : Current k ip.dnsSearch

theorem ListsCurrent.cycle (h : ListsCurrent k ip) (hk : k < 2 ^ 31 - 1)
    (entries : List DnsEntry) :
    ListsCurrent (k + 1) (dnsStep env ip (.cycle entries)) ∧
      (dnsStep env ip (.cycle entries)).dnsServers.values = servers env entries ∧
      (dnsStep env ip (.cycle entries)).dnsSearch.values = domains entries := by
  obtain ⟨hservers, hcurrent⟩ := h.dnsServers.cycle hk (servers env entries)
  obtain ⟨hsearch, hcurrent'⟩ := h.dnsSearch.cycle hk (domains entries)
  rw [dnsStep, foldl_addDnsEntry]
  exact ⟨⟨hcurrent, hcurrent'⟩, hservers, hsearch⟩

theorem listsCurrent_run (steps : List DnsStep) (hfew : cycles steps < 2 ^ 31) :
    ListsCurrent (cycles steps) (run (dnsStep env) {} steps) := by
  induction steps using List.reverseRecOn with
  | nil => exact ⟨current_empty, current_empty⟩
  | append_singleton steps step ih =>
    have hsplit : cycles (steps ++ [step]) = cycles steps + cycles [step] := List.countP_append
    have hcurrent := ih (by omega)
    rw [run, List.foldl_append]
    cases step with
    | cycle entries =>
      have hone : cycles [.cycle entries] = 1 := rfl
      rw [hsplit, hone]
      exact (hcurrent.cycle (by omega) entries).1
    | flush => exact ⟨current_flushAll _ _, current_flushAll _ _⟩

end Runs

/-- The lists reflect the last update, and a replacement empties the second list and leaves just
its entries in the first, unless it keeps entries of that, or the next version means that all
are deleted. -/
theorem dns_lists_of_run (env : ConfigEnv) {steps : List DnsStep} (hfew : cycles steps < 2 ^ 31) :
    Reflected env steps ∧ ∀ (α : Type) (dest old : VlistSimple α),
      (dest.replaceInt old).2.values = [] ∧
      ((dest.replaceInt old).1.values = old.values ↔
        if dest.updateInt.version = -1 then old.values = []
        else ∀ n ∈ dest.list, n.version ≠ dest.updateInt.version ∧ n.version ≠ -1) := by
  refine ⟨?_, fun α dest old => ⟨rfl, ?_⟩⟩
  · rintro before after entries rfl
    have hsplit : cycles (before ++ .cycle entries :: after) =
        cycles before + (cycles after + 1) := by
      simp [cycles]
    have hcurrent := @listsCurrent_run env before (by omega)
    rw [run, List.foldl_append]
    exact (hcurrent.cycle (by omega) entries).2
  · rw [replaceInt_values_iff]
    simp only [Kept, not_or]

/-- Two updates with a flush between them. -/
def twoUpdates : List DnsStep :=
  [.cycle [.server "10.0.0.1", .search "lan"], .flush, .cycle [.search "home", .server "::1"]]

/-- Addresses as they are read by `inet_pton`. -/
def dnsEnv : ConfigEnv where
  inetPton v6 str := inetPton v6 str.toList
  strtol16 _ := 0
  resolveRtTable _ := none
  handlers _ := none

theorem dns_lists_of_two_updates :
    (run (dnsStep dnsEnv) {} twoUpdates).dnsServers.values = [{ v6 := true, addr := 1 }] ∧
      (run (dnsStep dnsEnv) {} twoUpdates).dnsSearch.values = ["home"] := by
  have hfew : cycles twoUpdates < 2 ^ 31 := by decide
  have hlast := (dns_lists_of_run dnsEnv hfew).1 (twoUpdates.take 2) [] _ rfl
  have hservers : servers dnsEnv [.search "home", .server "::1"] = [{ v6 := true, addr := 1 }] := by
    decide
  rwa [hservers] at hlast

/-- An entry that is never deleted stays in front of those of the other list. -/
theorem replaced_list_keeps : ¬∀ dest old : VlistSimple String,
    (dest.replaceInt old).1.values = old.values ∧ (dest.replaceInt old).2.values = [] := by
  intro h
  have hvalues := (h { list := [⟨"lan", -1⟩] } { list := [⟨"home", 1⟩] }).1
  exact absurd hvalues (by decide)

end Netifd.DnsLists
