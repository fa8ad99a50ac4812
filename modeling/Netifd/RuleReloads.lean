import Netifd.IpRules

/-!
# Reloads of the rules

What the kernel has after each reload of the rules, and the deletions on which this depends: a
request to delete says less of a rule than the kernel has, and may meet another rule first.
-/

namespace Netifd.IpRules
open RankedLists

/-- The rules of the sections, each with its place among those of its family. -/
def configuredRules (env : RuleEnv) : (Bool → ℕ) → List RuleSection → List IpRule
  | _, [] => []
  | place, (attr, v6) :: sections =>
    (parseRule env attr v6 (place v6)).toList ++
      configuredRules env (Function.update place v6 (place v6 + 1)) sections

/-- Of equal rules the last one. -/
def distinctRules : List IpRule → List IpRule
  | [] => []
  | r :: rules =>
    if rules.any (·.toRuleKey == r.toRuleKey) then distinctRules rules
    else r :: distinctRules rules

/-- The rules of a family. -/
def ofFamily (v6 : Bool) (rules : List IpRule) : List IpRule := rules.filter (·.v6 == v6)

/-- The requests for rules. -/
def messages (rules : List IpRule) : List RuleMessage := rules.map (systemIprule · true)

/-- The kernel has the rules that are always there and those of a list, in the order of their
priorities. -/
structure Installed (rules : List IpRule) (kernel : RuleTable) : Prop where
  perm (v6 : Bool) : (kernel v6).Perm (messages (baseRules v6 ++ ofFamily v6 rules))
  ranked (v6 : Bool) : Ranked RuleMessage.rank (kernel v6)

/-- The kernel has just the distinct rules of a configuration, and those that have no priority of
their own in the order in which they stand there. -/
structure RulesMatch (rules : List IpRule) (kernel : RuleTable) : Prop where
  installed : Installed (distinctRules rules) kernel
  inOrder (v6 : Bool) :
    (messages ((ofFamily v6 (distinctRules rules)).filter (·.priority.isNone))).Sublist (kernel v6)

/-- The first rule that has all that the request says is the one which is meant. -/
def CleanDelete (rule : IpRule) (kernel : RuleTable) : Prop :=
  (kernel rule.v6).find? (systemIprule rule false).carries = some (systemIprule rule true)

instance (rule : IpRule) (kernel : RuleTable) : Decidable (CleanDelete rule kernel) :=
  inferInstanceAs (Decidable (_ = _))

/-- The deletions of a flush. -/
def CleanFlush : RuleTable → List IpRule → Prop
  | _, [] => True
  | kernel, rule :: rules => CleanDelete rule kernel ∧ CleanFlush (systemDelIprule rule kernel) rules

instance decidableCleanFlush : ∀ kernel rules, Decidable (CleanFlush kernel rules)
  | _, [] => isTrue trivial
  | kernel, rule :: rules =>
    have := decidableCleanFlush (systemDelIprule rule kernel) rules
    inferInstanceAs (Decidable (CleanDelete rule kernel ∧ _))

section Runs
variable (memcmp : KeyOrder)

/-- The deletion for a section whose rule is there already. -/
def CleanSection (env : RuleEnv) (s : RuleState) (sect : RuleSection) : Prop :=
  ∀ rule ∈ parseRule env sect.1 sect.2 (s.counter sect.2),
    ∀ old ∈ s.iprules.find (ruleCmp memcmp) rule, CleanDelete old s.kernel

def CleanSections (env : RuleEnv) : RuleState → List RuleSection → Prop
  | _, [] => True
  | s, sect :: sections => CleanSection memcmp env s sect ∧
      CleanSections env (ipruleAdd memcmp env s sect) sections

instance (env : RuleEnv) (s : RuleState) (sect : RuleSection) :
    Decidable (CleanSection memcmp env s sect) :=
  inferInstanceAs (Decidable (∀ rule ∈ parseRule env sect.1 sect.2 (s.counter sect.2),
    ∀ old ∈ s.iprules.find (ruleCmp memcmp) rule, CleanDelete old s.kernel))

instance decidableCleanSections (env : RuleEnv) :
    ∀ s sections, Decidable (CleanSections memcmp env s sections)
  | _, [] => isTrue trivial
  | s, sect :: sections =>
    have := decidableCleanSections env (ipruleAdd memcmp env s sect) sections
    inferInstanceAs (Decidable (CleanSection memcmp env s sect ∧ _))

/-- The state before the flush of a reload. -/
def refilled (s : RuleState) (r : RuleReload) : RuleState :=
  r.sections.foldl (ipruleAdd memcmp r.env) (ipruleUpdateStart s)

/-- All deletions of a reload hit what they are for, and the counters do not wrap around. -/
structure CleanReload (s : RuleState) (r : RuleReload) : Prop where
  short : r.sections.length < 2 ^ 32
  sections : CleanSections memcmp r.env (ipruleUpdateStart s) r.sections
  flush : CleanFlush (refilled memcmp s r).kernel (refilled memcmp s r).iprules.staleValues

/-- All reloads of a run are clean. -/
def CleanRun : RuleState → List RuleReload → Prop
  | _, [] => True
  | s, r :: reloads => CleanReload memcmp s r ∧ CleanRun (configInitRules memcmp s r) reloads

end Runs

theorem ofFamily_cons (v6 : Bool) (rule : IpRule) (rules : List IpRule) :
    ofFamily v6 (rule :: rules) =
      if rule.v6 = v6 then rule :: ofFamily v6 rules else ofFamily v6 rules := by
  by_cases h : rule.v6 = v6 <;> simp [ofFamily, h]

theorem ofFamily_perm {rules rules' : List IpRule} (h : rules.Perm rules') (v6 : Bool) :
    (ofFamily v6 rules).Perm (ofFamily v6 rules') := h.filter _

theorem Installed.congr {rules rules' : List IpRule} {kernel : RuleTable}
    (h : Installed rules kernel) (hperm : rules.Perm rules') : Installed rules' kernel where
  perm v6 := (h.perm v6).trans (((ofFamily_perm hperm v6).append_left _).map _)
  ranked := h.ranked

theorem systemAddIprule_apply (rule : IpRule) (kernel : RuleTable) (v6 : Bool) :
    systemAddIprule rule kernel v6 =
      if v6 = rule.v6 then (kernel v6).orderedInsert (fun a b => a.rank < b.rank)
        (systemIprule rule true)
      else kernel v6 := by
  have hv6 : (systemIprule rule true).v6 = rule.v6 := rfl
  rw [systemAddIprule, newRule, Function.update_apply, hv6]
  split_ifs with h
  · rw [h]
  · rfl

theorem systemDelIprule_apply (rule : IpRule) (kernel : RuleTable) (v6 : Bool) :
    systemDelIprule rule kernel v6 =
      if v6 = rule.v6 then (kernel v6).eraseP (systemIprule rule false).carries
      else kernel v6 := by
  have hv6 : (systemIprule rule false).v6 = rule.v6 := rfl
  rw [systemDelIprule, delRule, Function.update_apply, hv6]
  split_ifs with h
  · rw [h]
  · rfl

theorem messages_cons_perm (base rules : List IpRule) (rule : IpRule) :
    (messages (base ++ rule :: rules)).Perm (systemIprule rule true :: messages (base ++ rules)) :=
  List.perm_middle.map (systemIprule · true)

theorem Installed.add {rules : List IpRule} {kernel : RuleTable} (h : Installed rules kernel)
    (rule : IpRule) : Installed (rule :: rules) (systemAddIprule rule kernel) := by
  constructor
  · intro v6
    rw [systemAddIprule_apply, ofFamily_cons]
    by_cases hv6 : rule.v6 = v6
    · rw [if_pos hv6, if_pos hv6.symm]
      have hinsert := List.perm_orderedInsert (fun a b => RuleMessage.rank a < RuleMessage.rank b)
        (systemIprule rule true) (kernel v6)
      exact (hinsert.trans ((h.perm v6).cons _)).trans (messages_cons_perm _ _ rule).symm
    · rw [if_neg hv6, if_neg (Ne.symm hv6)]
      exact h.perm v6
  · intro v6
    rw [systemAddIprule_apply]
    split_ifs
    · exact (h.ranked v6).orderedInsert _
    · exact h.ranked v6

theorem Installed.delete {rules : List IpRule} {rule : IpRule} {kernel : RuleTable}
    (h : Installed (rule :: rules) kernel) (hclean : CleanDelete rule kernel) :
    Installed rules (systemDelIprule rule kernel) := by
  constructor
  · intro v6
    have hperm := h.perm v6
    rw [systemDelIprule_apply]
    rw [ofFamily_cons] at hperm
    by_cases hv6 : rule.v6 = v6
    · subst hv6
      rw [if_pos rfl] at hperm ⊢
      have hmoved := hperm.trans (messages_cons_perm _ _ rule)
      exact List.Perm.cons_inv ((perm_eraseP hclean).symm.trans hmoved)
    · rw [if_neg hv6] at hperm
      rwa [if_neg (Ne.symm hv6)]
  · intro v6
    rw [systemDelIprule_apply]
    split_ifs
    · exact (h.ranked v6).sublist List.eraseP_sublist
    · exact h.ranked v6

theorem installed_flushed : Installed [] systemFlushIprules where
  perm v6 := by cases v6 <;> decide
  ranked v6 := by cases v6 <;> decide

section Tree
variable {memcmp : KeyOrder}

theorem ruleCmp_eq_zero {a b : IpRule} :
    (ruleCmp memcmp a b == 0) = (a.toRuleKey == b.toRuleKey) := by
  rw [ruleCmp, Bool.eq_iff_iff, beq_iff_eq, beq_iff_eq, memcmp.eq_zero]

/-- No two rules in the tree have the same key. -/
def Keyed (rules : List IpRule) : Prop := rules.Pairwise fun a b => a.toRuleKey ≠ b.toRuleKey

theorem Keyed.perm {rules rules' : List IpRule} (h : Keyed rules) (hperm : rules.Perm rules') :
    Keyed rules' := (hperm.pairwise_iff fun h => h.symm).mp h

theorem erase_nodes (memcmp : KeyOrder) {tree : Vlist IpRule} (h : Keyed tree.values)
    (rule : IpRule) :
    (tree.erase (ruleCmp memcmp) rule).nodes =
      tree.nodes.filter (·.value.toRuleKey != rule.toRuleKey) := by
  have hpairwise : tree.nodes.Pairwise fun n m =>
      ¬((ruleCmp memcmp rule n.value == 0) = true ∧ (ruleCmp memcmp rule m.value == 0) = true) := by
    refine (List.pairwise_map.mp h).imp ?_
    rintro n m hne ⟨hn, hm⟩
    rw [ruleCmp_eq_zero, beq_iff_eq] at hn hm
    exact hne (hn.symm.trans hm)
  rw [Vlist.erase, eraseP_eq_filter hpairwise]
  refine List.filter_congr fun n _ => ?_
  rw [ruleCmp_eq_zero, Bool.beq_comm]
  rfl

theorem add_nodes (memcmp : KeyOrder) {tree : Vlist IpRule} (h : Keyed tree.values) (rule : IpRule)
    (kernel : RuleTable) :
    (tree.add (ruleCmp memcmp) ipruleUpdateRule rule kernel).1.nodes.Perm
      ({ value := rule, version := tree.version } ::
        tree.nodes.filter (·.value.toRuleKey != rule.toRuleKey)) := by
  rw [← erase_nodes memcmp h rule]
  exact Vlist.place_perm (ruleCmp memcmp) rule _ _

theorem distinctRules_append (rules : List IpRule) (rule : IpRule) :
    distinctRules (rules ++ [rule]) =
      (distinctRules rules).filter (·.toRuleKey != rule.toRuleKey) ++ [rule] := by
  induction rules with
  | nil => rfl
  | cons r rules ih =>
    rw [List.cons_append, distinctRules, distinctRules, List.any_append, ih]
    cases hlater : rules.any (·.toRuleKey == r.toRuleKey)
    · by_cases hkey : rule.toRuleKey = r.toRuleKey
      · simp [hkey]
      · simp [hkey, Ne.symm hkey]
    · simp

theorem Installed.put {tree : Vlist IpRule} {kernel : RuleTable} (h : Installed tree.values kernel)
    (rule : IpRule)
    (hclean : ∀ old ∈ tree.find (ruleCmp memcmp) rule, CleanDelete old kernel) :
    Installed (tree.add (ruleCmp memcmp) ipruleUpdateRule rule kernel).1.values
      (tree.add (ruleCmp memcmp) ipruleUpdateRule rule kernel).2 := by
  have hadd := Vlist.add_values (ruleCmp memcmp) ipruleUpdateRule tree rule kernel
  refine Installed.congr ?_ hadd.symm
  have hfound := Vlist.find_perm (ruleCmp memcmp) tree rule
  rw [Vlist.add]
  cases hold : tree.find (ruleCmp memcmp) rule with
  | none =>
    rw [hold] at hfound
    exact (h.congr hfound).add rule
  | some old =>
    rw [hold] at hfound
    exact ((h.congr hfound).delete (hclean old hold)).add rule

theorem Installed.flush {stale kept : List IpRule} {kernel : RuleTable}
    (h : Installed (stale ++ kept) kernel) (hclean : CleanFlush kernel stale) :
    Installed kept
      (stale.foldl (fun kernel old => (ipruleUpdateRule none (some old) kernel).2) kernel) := by
  induction stale generalizing kernel with
  | nil => exact h
  | cons rule stale ih => exact ih (h.delete hclean.1) hclean.2

end Tree

section Reloads
variable {memcmp : KeyOrder} {env : RuleEnv}

/-- Between two reloads every node is of the present version. -/
structure Settled (s : RuleState) : Prop where
  pos : 0 < s.iprules.version
  current : ∀ n ∈ s.iprules.nodes, n.version = s.iprules.version
  keyed : Keyed s.iprules.values
  installed : Installed s.iprules.values (if s.flushed then s.kernel else systemFlushIprules)

/-- In the middle of a reload the nodes are of the last version, or they are the distinct ones of
the rules that have been added. -/
structure Refilling (done : List IpRule) (s : RuleState) : Prop where
  pos : 1 < s.iprules.version
  recent : ∀ n ∈ s.iprules.nodes,
    n.version = s.iprules.version ∨ n.version = s.iprules.version - 1
  keyed : Keyed s.iprules.values
  kept : s.iprules.keptValues.Perm (distinctRules done)
  flushed : s.flushed = true
  installed : Installed s.iprules.values s.kernel

theorem Settled.init (kernel : RuleTable) : Settled { kernel } := by
  refine ⟨Int.one_pos, fun n hn => ?_, List.Pairwise.nil, ?_⟩
  · cases hn
  · change Installed [] (if false = true then kernel else systemFlushIprules)
    rw [if_neg Bool.false_ne_true]
    exact installed_flushed

theorem Settled.start {s : RuleState} (h : Settled s) : Refilling [] (ipruleUpdateStart s) where
  pos := Int.lt_add_of_pos_left 1 h.pos
  recent n hn := .inr (by
    rw [h.current n hn]
    exact (Int.add_sub_cancel _ _).symm)
  keyed := h.keyed
  kept := by
    have hstale : s.iprules.startUpdate.nodes.filter (!s.iprules.startUpdate.stale ·) = [] := by
      refine List.filter_eq_nil_iff.mpr fun n hn => ?_
      have hpos := h.pos
      have hversion : n.version = s.iprules.version := h.current n hn
      simp only [Vlist.stale, Vlist.startUpdate, hversion, Bool.not_not, Bool.and_eq_true,
        Bool.or_eq_true, beq_iff_eq]
      omega
    have hkept : s.iprules.startUpdate.keptValues = [] := by rw [Vlist.keptValues, hstale]; rfl
    rw [ipruleUpdateStart, hkept]
    exact .refl _
  flushed := rfl
  installed := h.installed

/-- A rule is put into the tree. -/
theorem Refilling.put {done : List IpRule} {s : RuleState} (h : Refilling done s) (rule : IpRule)
    (hclean : ∀ old ∈ s.iprules.find (ruleCmp memcmp) rule, CleanDelete old s.kernel)
    (counter : Bool → ℕ) :
    Refilling (done ++ [rule])
      { s with
        counter
        iprules := (s.iprules.add (ruleCmp memcmp) ipruleUpdateRule rule s.kernel).1
        kernel := (s.iprules.add (ruleCmp memcmp) ipruleUpdateRule rule s.kernel).2 } := by
  have hnodes := add_nodes memcmp h.keyed rule s.kernel
  refine ⟨h.pos, ?_, ?_, ?_, h.flushed, h.installed.put rule hclean⟩
  · intro n hn
    rcases List.mem_cons.mp (hnodes.subset hn) with rfl | hn
    · exact .inl rfl
    · exact h.recent n (List.mem_of_mem_filter hn)
  · have hvalues := hnodes.map VlistNode.value
    refine Keyed.perm ?_ hvalues.symm
    refine List.pairwise_cons.mpr ⟨fun b hb => ?_, ?_⟩
    · obtain ⟨n, hn, rfl⟩ := List.mem_map.mp hb
      exact (bne_iff_ne.mp (List.mem_filter.mp hn).2).symm
    · exact h.keyed.sublist (List.filter_sublist.map _)
  · have hpos := h.pos
    have hnew : (!s.iprules.stale { value := rule, version := s.iprules.version }) = true := by
      have hne : s.iprules.version ≠ -1 := by omega
      simp [Vlist.stale, hne]
    have hrest : ((s.iprules.nodes.filter (·.value.toRuleKey != rule.toRuleKey)).filter
        (!s.iprules.stale ·)).map VlistNode.value =
          s.iprules.keptValues.filter (·.toRuleKey != rule.toRuleKey) := by
      rw [Vlist.keptValues, List.filter_map, List.filter_filter, List.filter_filter]
      refine congrArg _ (List.filter_congr fun n _ => Bool.and_comm _ _)
    have hkept := (hnodes.filter (!s.iprules.stale ·)).map VlistNode.value
    rw [List.filter_cons_of_pos (p := fun n => !s.iprules.stale n) hnew, List.map_cons,
      hrest] at hkept
    rw [distinctRules_append]
    exact (hkept.trans ((h.kept.filter _).cons rule)).trans (List.perm_append_singleton _ _).symm

/-- The counters of the code, as long as they do not wrap around. -/
structure Counts (counter place : Bool → ℕ) (room : ℕ) : Prop where
  eq (v6 : Bool) : counter v6 = place v6 % 2 ^ 32
  le (v6 : Bool) : place v6 + room ≤ 2 ^ 32

theorem Counts.next {counter place : Bool → ℕ} {room : ℕ} (h : Counts counter place (room + 1))
    (v6 : Bool) : counter v6 = place v6 ∧
      Counts (Function.update counter v6 ((counter v6 + 1) % 2 ^ 32))
        (Function.update place v6 (place v6 + 1)) room := by
  have hplace : counter v6 = place v6 := by
    rw [h.eq]
    have hroom := h.le v6
    exact Nat.mod_eq_of_lt (by omega)
  refine ⟨hplace, fun w => ?_, fun w => ?_⟩
  · rw [Function.update_apply, Function.update_apply, hplace]
    split_ifs
    · rfl
    · exact h.eq w
  · have hroom := h.le w
    rw [Function.update_apply]
    split_ifs with hw
    · subst hw
      omega
    · omega

theorem ipruleAdd_eq (memcmp : KeyOrder) (env : RuleEnv) (s : RuleState) (attr : Blob)
    (v6 : Bool) : ipruleAdd memcmp env s (attr, v6) =
      let counter := Function.update s.counter v6 ((s.counter v6 + 1) % 2 ^ 32)
      match parseRule env attr v6 (s.counter v6) with
      | none => { s with counter }
      | some rule =>
        { s with
          counter
          iprules := (s.iprules.add (ruleCmp memcmp) ipruleUpdateRule rule s.kernel).1
          kernel := (s.iprules.add (ruleCmp memcmp) ipruleUpdateRule rule s.kernel).2 } := by
  cases hrule : parseRule env attr v6 (s.counter v6) with
  | none => simp only [ipruleAdd, hrule]
  | some rule => simp only [ipruleAdd, hrule]

/-- The tree holds the distinct ones of the rules that the sections make. -/
theorem Refilling.sections {sections : List RuleSection} {place : Bool → ℕ} {done : List IpRule}
    {s : RuleState} (h : Refilling done s) (hcounts : Counts s.counter place sections.length)
    (hclean : CleanSections memcmp env s sections) :
    Refilling (done ++ configuredRules env place sections)
      (sections.foldl (ipruleAdd memcmp env) s) := by
  induction sections generalizing place done s with
  | nil => rwa [configuredRules, List.append_nil]
  | cons sect sections ih =>
    obtain ⟨attr, v6⟩ := sect
    obtain ⟨hsect, hrest⟩ := hclean
    obtain ⟨hplace, hnext⟩ := hcounts.next v6
    have hadd := ipruleAdd_eq memcmp env s attr v6
    rw [List.foldl_cons, configuredRules, ← List.append_assoc, ← hplace]
    rw [hplace] at hnext
    cases hrule : parseRule env attr v6 (s.counter v6) with
    | none =>
      rw [hrule] at hadd
      have hsame : Refilling done (ipruleAdd memcmp env s (attr, v6)) := by
        rw [hadd]
        exact ⟨h.pos, h.recent, h.keyed, h.kept, h.flushed, h.installed⟩
      rw [Option.toList_none, List.append_nil, hplace]
      refine ih hsame ?_ hrest
      rwa [hadd, hplace]
    | some rule =>
      rw [hrule] at hadd
      have hput : Refilling (done ++ [rule]) (ipruleAdd memcmp env s (attr, v6)) := by
        rw [hadd]
        exact h.put rule (hsect rule hrule) _
      rw [Option.toList_some, hplace]
      refine ih hput ?_ hrest
      rwa [hadd, hplace]

theorem Refilling.flush {done : List IpRule} {s : RuleState} (h : Refilling done s)
    (hclean : CleanFlush s.kernel s.iprules.staleValues) :
    Settled (ipruleUpdateComplete s) ∧ Installed (distinctRules done)
      (ipruleUpdateComplete s).kernel := by
  have hperm : s.iprules.values.Perm (s.iprules.staleValues ++ s.iprules.keptValues) := by
    rw [Vlist.staleValues, Vlist.keptValues, ← List.map_append]
    exact ((List.filter_append_perm s.iprules.stale s.iprules.nodes).map _).symm
  have hinstalled := (h.installed.congr hperm).flush hclean
  refine ⟨⟨Int.lt_trans Int.one_pos h.pos, ?_, ?_, ?_⟩, hinstalled.congr h.kept⟩
  · intro n hn
    obtain ⟨hn, hstale⟩ := List.mem_filter.mp hn
    have hpos := h.pos
    have hrecent := h.recent n hn
    simp only [Vlist.stale, Bool.not_not, Bool.and_eq_true, Bool.or_eq_true, beq_iff_eq] at hstale
    change n.version = s.iprules.version
    omega
  · exact h.keyed.sublist (List.filter_sublist.map _)
  · have hflushed : (ipruleUpdateComplete s).flushed = true := h.flushed
    rw [if_pos hflushed]
    exact hinstalled

theorem Settled.reload {s : RuleState} {r : RuleReload} (h : Settled s)
    (hclean : CleanReload memcmp s r) : Settled (configInitRules memcmp s r) ∧
      Installed (distinctRules (configuredRules r.env (fun _ => 1) r.sections))
        (configInitRules memcmp s r).kernel := by
  have hcounts : Counts (ipruleUpdateStart s).counter (fun _ => 1) r.sections.length := by
    have hshort := hclean.short
    exact ⟨fun _ => rfl, fun _ => by omega⟩
  exact (h.start.sections hcounts hclean.sections).flush hclean.flush

theorem parseRule_order {attr : Blob} {v6 : Bool} {order : ℕ} {rule : IpRule}
    (h : parseRule env attr v6 order = some rule) : rule.v6 = v6 ∧ rule.order = order := by
  obtain ⟨inDev, -, h⟩ := Option.bind_eq_some_iff.mp h
  obtain ⟨outDev, -, h⟩ := Option.bind_eq_some_iff.mp h
  obtain ⟨src, -, h⟩ := Option.bind_eq_some_iff.mp h
  obtain ⟨dest, -, h⟩ := Option.bind_eq_some_iff.mp h
  obtain ⟨tos, -, h⟩ := Option.bind_eq_some_iff.mp h
  obtain ⟨mark, -, h⟩ := Option.bind_eq_some_iff.mp h
  obtain ⟨lookup, -, h⟩ := Option.bind_eq_some_iff.mp h
  obtain ⟨action, -, h⟩ := Option.bind_eq_some_iff.mp h
  cases h
  exact ⟨rfl, rfl⟩

/-- Rules of a family have their places in the order in which they stand. -/
def Placed (rules : List IpRule) : Prop :=
  rules.Pairwise fun a b => a.v6 = b.v6 → a.order < b.order

theorem place_le {sections : List RuleSection} {place : Bool → ℕ} {rule : IpRule}
    (h : rule ∈ configuredRules env place sections) : place rule.v6 ≤ rule.order := by
  induction sections generalizing place with
  | nil => cases h
  | cons sect sections ih =>
    obtain ⟨attr, v6⟩ := sect
    rcases List.mem_append.mp h with hrule | hrest
    · obtain ⟨rfl, horder⟩ := parseRule_order (Option.mem_toList.mp hrule)
      exact horder.ge
    · have hle := ih hrest
      rw [Function.update_apply] at hle
      split_ifs at hle with hv6
      · rw [← hv6] at hle
        omega
      · exact hle

theorem configuredRules_placed (sections : List RuleSection) (place : Bool → ℕ) :
    Placed (configuredRules env place sections) := by
  induction sections generalizing place with
  | nil => exact List.Pairwise.nil
  | cons sect sections ih =>
    obtain ⟨attr, v6⟩ := sect
    rw [configuredRules]
    refine List.pairwise_append.mpr ⟨?_, ih _, ?_⟩
    · cases parseRule env attr v6 (place v6)
      · exact List.Pairwise.nil
      · exact List.pairwise_singleton _ _
    · intro a ha b hb hfamily
      obtain ⟨rfl, horder⟩ := parseRule_order (Option.mem_toList.mp ha)
      have hle := place_le hb
      rw [← hfamily, Function.update_self] at hle
      omega

theorem distinctRules_sublist (rules : List IpRule) : (distinctRules rules).Sublist rules := by
  induction rules with
  | nil => exact .refl _
  | cons r rules ih =>
    rw [distinctRules]
    split_ifs
    · exact ih.cons r
    · exact ih.cons_cons r

theorem rank_of_isNone {rule : IpRule} (h : rule.priority.isNone = true) :
    (systemIprule rule true).rank = rule.order := by
  have hpriority : (systemIprule rule true).priority = some rule.order := by
    rw [systemIprule, Option.isNone_iff_eq_none.mp h]
    rfl
  rw [RuleMessage.rank, hpriority, Option.getD_some]

theorem Installed.rulesMatch {rules : List IpRule} {kernel : RuleTable} (hplaced : Placed rules)
    (h : Installed (distinctRules rules) kernel) : RulesMatch rules kernel := by
  refine ⟨h, fun v6 => (h.ranked v6).sublist_of_subperm ?_ ?_⟩
  · refine List.pairwise_map.mpr ?_
    have hsub : ((ofFamily v6 (distinctRules rules)).filter (·.priority.isNone)).Sublist rules :=
      (List.filter_sublist.trans List.filter_sublist).trans (distinctRules_sublist rules)
    refine (hplaced.sublist hsub).imp_of_mem ?_
    intro a b ha hb hlt
    obtain ⟨ha, hapriority⟩ := List.mem_filter.mp ha
    obtain ⟨hb, hbpriority⟩ := List.mem_filter.mp hb
    have hav6 : a.v6 = v6 := beq_iff_eq.mp (List.mem_filter.mp ha).2
    have hbv6 : b.v6 = v6 := beq_iff_eq.mp (List.mem_filter.mp hb).2
    rw [rank_of_isNone hapriority, rank_of_isNone hbpriority]
    exact hlt (hav6.trans hbv6.symm)
  · have hsub : (messages ((ofFamily v6 (distinctRules rules)).filter (·.priority.isNone))).Sublist
        (messages (baseRules v6 ++ ofFamily v6 (distinctRules rules))) :=
      (List.filter_sublist.trans (List.sublist_append_right _ _)).map _
    exact hsub.subperm.trans (h.perm v6).symm.subperm

theorem Settled.run {s : RuleState} {reloads : List RuleReload} (h : Settled s)
    (hclean : CleanRun memcmp s reloads) : Settled (reloads.foldl (configInitRules memcmp) s) := by
  induction reloads generalizing s with
  | nil => exact h
  | cons r reloads ih => exact ih (h.reload hclean.1).1 hclean.2

theorem cleanRun_append {s : RuleState} {before after : List RuleReload}
    (h : CleanRun memcmp s (before ++ after)) :
    CleanRun memcmp s before ∧ CleanRun memcmp (before.foldl (configInitRules memcmp) s) after := by
  induction before generalizing s with
  | nil => exact ⟨trivial, h⟩
  | cons r before ih => exact ⟨⟨h.1, (ih h.2).1⟩, (ih h.2).2⟩

/-- After every reload of a run in which each deletion hits what it is for, the kernel has the
rules of the last configuration. -/
theorem rulesMatch_of_run {kernel : RuleTable} {reloads : List RuleReload} {r : RuleReload}
    (hclean : CleanRun memcmp { kernel } (reloads ++ [r])) :
    RulesMatch (configuredRules r.env (fun _ => 1) r.sections)
      ((reloads ++ [r]).foldl (configInitRules memcmp) { kernel }).kernel := by
  obtain ⟨hbefore, hlast⟩ := cleanRun_append hclean
  rw [List.foldl_append]
  have hreload := ((Settled.init kernel).run hbefore).reload hlast.1
  exact hreload.2.rulesMatch (configuredRules_placed _ _)

end Reloads

/-- The first difference of two lists. -/
def lexCmp {α : Type} (cmp : α → α → ℤ) : List α → List α → ℤ
  | [], [] => 0
  | [], _ :: _ => -1
  | _ :: _, [] => 1
  | a :: l, b :: l' => if cmp a b = 0 then lexCmp cmp l l' else cmp a b

theorem lexCmp_eq_zero {α : Type} {cmp : α → α → ℤ} (h : ∀ a b, cmp a b = 0 ↔ a = b)
    (l l' : List α) : lexCmp cmp l l' = 0 ↔ l = l' := by
  induction l generalizing l' with
  | nil => cases l' <;> simp [lexCmp]
  | cons a l ih =>
    cases l' with
    | nil => simp [lexCmp]
    | cons b l' =>
      rw [lexCmp, List.cons.injEq]
      split_ifs with hab
      · rw [ih, ← h a b]
        simp [hab]
      · rw [← h a b]
        simp [hab]

def nameBytes (name : Option String) : List ℕ :=
  match name with
  | none => []
  | some s => s.toList.map Char.toNat ++ [0]

theorem nameBytes_injective : Function.Injective nameBytes := by
  rintro (_ | s) (_ | s') h
  · rfl
  · simp [nameBytes] at h
  · simp [nameBytes] at h
  · have hchars := List.append_cancel_right h
    rw [List.map_inj_right fun a b => Char.toNat_inj.mp] at hchars
    rw [String.toList_inj.mp hchars]

/-- `rule->flags`. -/
def RuleKey.flags (k : RuleKey) : ℕ :=
  [k.v6, false, k.inDev.isSome, k.outDev.isSome, k.src.isSome, k.dest.isSome, k.priority.isSome,
    k.tos.isSome, k.fwmark.isSome, k.fwmask.isSome, k.lookup.isSome, k.action.isSome,
    k.gotoid.isSome].foldr (fun b n => b.toNat + 2 * n) 0

/-- The key in memory, where each number has its most significant byte first. -/
def RuleKey.fields (k : RuleKey) : List (List ℕ) :=
  [[k.flags], [k.invert.toNat], [k.v6.toNat], nameBytes k.inDev, nameBytes k.outDev,
    (k.src.map (·.2)).toList, (k.src.map (·.1)).toList, (k.dest.map (·.2)).toList,
    (k.dest.map (·.1)).toList, k.priority.toList, k.tos.toList, k.fwmark.toList, k.fwmask.toList,
    k.lookup.toList, k.action.toList, k.gotoid.toList]

theorem pair_injective {a b : Option (ℕ × ℕ)} (hsnd : (a.map (·.2)).toList = (b.map (·.2)).toList)
    (hfst : (a.map (·.1)).toList = (b.map (·.1)).toList) : a = b := by
  rcases a with _ | ⟨x, m⟩ <;> rcases b with _ | ⟨y, n⟩ <;> simp_all

theorem option_injective {a b : Option ℕ} (h : a.toList = b.toList) : a = b := by
  rcases a with _ | a <;> rcases b with _ | b <;> simp_all

theorem bool_injective {a b : Bool} (h : a.toNat = b.toNat) : a = b := by
  cases a <;> cases b <;> simp_all

theorem RuleKey.fields_injective : Function.Injective RuleKey.fields := by
  intro a b h
  simp only [RuleKey.fields, List.cons.injEq, and_true] at h
  obtain ⟨-, hinvert, hv6, hin, hout, hsmask, hsrc, hdmask, hdest, hpriority, htos, hmark, hmask,
    hlookup, haction, hgoto⟩ := h
  have hsrc := pair_injective hsmask hsrc
  have hdest := pair_injective hdmask hdest
  obtain ⟨⟩ := a
  obtain ⟨⟩ := b
  simp only [RuleKey.mk.injEq]
  exact ⟨bool_injective hv6, bool_injective hinvert, nameBytes_injective hin,
    nameBytes_injective hout, hsrc, hdest, option_injective hpriority,
    option_injective htos, option_injective hmark, option_injective hmask,
    option_injective hlookup, option_injective haction, option_injective hgoto⟩

/-- `memcmp` on a machine whose numbers have the most significant byte first. -/
def bigEndian : KeyOrder where
  cmp a b := lexCmp (lexCmp fun x y : ℕ => (x : ℤ) - y) a.fields b.fields
  eq_zero a b := by
    rw [lexCmp_eq_zero (lexCmp_eq_zero fun x y => by omega)]
    exact RuleKey.fields_injective.eq_iff

/-- A rule for a network, and one for everything. -/
def fromNetwork : RuleSection :=
  (fun
    | "src" => some (.string "10.1.0.0/16")
    | "lookup" => some (.string "main")
    | _ => none, false)

def fromAll : RuleSection :=
  (fun
    | "lookup" => some (.string "main")
    | _ => none, false)

/-- The rule for everything, at a priority of its own. -/
def fromAllAt : RuleSection :=
  (fun
    | "lookup" => some (.string "main")
    | "priority" => some (.int32 100)
    | _ => none, false)

/-- A configuration with all but the second, and one that has only the last. -/
def twoRules : RuleReload := ⟨mainTable, [fromNetwork, fromAllAt]⟩
def oneRule : RuleReload := ⟨mainTable, [fromAllAt]⟩

/-- The rule for the network is taken away. -/
theorem rulesMatch_of_two_reloads : CleanRun bigEndian {} ([twoRules] ++ [oneRule]) ∧
    RulesMatch (configuredRules oneRule.env (fun _ => 1) oneRule.sections)
      (([twoRules] ++ [oneRule]).foldl (configInitRules bigEndian) {}).kernel := by
  have hclean : CleanRun bigEndian {} ([twoRules] ++ [oneRule]) :=
    ⟨⟨by decide, by decide +kernel, by decide +kernel⟩,
      ⟨by decide, by decide +kernel, by decide +kernel⟩, trivial⟩
  exact ⟨hclean, rulesMatch_of_run hclean⟩

/-- Two rules without a priority of their own. -/
def overlapping : RuleReload := ⟨mainTable, [fromNetwork, fromAll]⟩

/-- The same configuration twice: the request to delete the rule for everything meets the other
one first. -/
theorem reload_deletes_another :
    ¬RulesMatch (configuredRules overlapping.env (fun _ => 1) overlapping.sections)
      ([overlapping, overlapping].foldl (configInitRules bigEndian) {}).kernel := by
  intro hmatch
  have hperm := hmatch.installed.perm false
  revert hperm
  decide +kernel

end Netifd.IpRules
