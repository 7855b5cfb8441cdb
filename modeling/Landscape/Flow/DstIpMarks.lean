import Landscape.Flow.DstIpRules

/-! What an installation of marks leaves in the data plane, and what a save leaves in the store. -/
namespace Landscape.Flow
open Capped Geo Route Store Function List AList

variable {geo : GeoData} {rules rs : List WanIpRuleConfig} {f : FlowId} {m : FlowIpMaps}
  {r : WanIpRuleConfig} {i : IpMarkInfo} {flows : List FlowId}

def enabledRules (rules : List WanIpRuleConfig) (f : FlowId) : List WanIpRuleConfig :=
  (rules.filter (·.flowId = f)).filter (·.enable)

theorem mem_enabledRules :
    r ∈ enabledRules rules f ↔ r ∈ rules ∧ r.flowId = f ∧ r.enable = true := by
  simp only [enabledRules, mem_filter, decide_eq_true_eq, and_assoc]

def Holds (fam : IpFamily) (t : FlowIpTrie) (ips : List IpMarkInfo) : Prop :=
  ∀ n v, t.lookup n = some v ↔ ∃ i ∈ ips, i.cidr.ip.family = fam ∧ i.cidr.net = n ∧ i.value = v

def Marked (geo : GeoData) (m : FlowIpMaps) (f : FlowId) (rules : List WanIpRuleConfig) : Prop :=
  ∃ order, order.Perm rules ∧ order.Pairwise (fun a b => a.index ≤ b.index) ∧
    ∀ fam, ∃ t, (m fam).lookup f = some t ∧ Holds fam t (convertConfigToRuntimeRule geo order)

def rangesOf (geo : GeoData) (rules : List WanIpRuleConfig) : List IpConfig :=
  rules.flatMap (·.ranges geo)

def networksOf (fam : IpFamily) (ranges : List IpConfig) : List IpNet :=
  (ranges.filter fun c => c.ip.family = fam).map (·.net)

/-- Every range is a network, no two are the same one, and a trie has room for those of a family. -/
def Fits (geo : GeoData) (rules : List WanIpRuleConfig) : Prop :=
  (∀ c ∈ rangesOf geo rules, c.net.accepted = true) ∧
  (∀ c ∈ rangesOf geo rules, ∀ c' ∈ rangesOf geo rules, c.net = c'.net → c = c') ∧
  ∀ fam ∈ [IpFamily.ipv4, IpFamily.ipv6],
    (networksOf fam (rangesOf geo rules)).dedup.length ≤ ipMatchMaxEntries

instance : Decidable (Fits geo rules) := by
  unfold Fits
  infer_instance

theorem Fits.room (h : Fits geo rules) (fam : IpFamily) :
    (networksOf fam (rangesOf geo rules)).dedup.length ≤ ipMatchMaxEntries :=
  h.2.2 fam (by cases fam <;> simp)

theorem keepFirst_sublist (seen : List IpConfig) (is : List IpMarkInfo) :
    (keepFirst seen is).Sublist is := by
  induction is generalizing seen with
  | nil => exact .slnil
  | cons i is ih =>
    unfold keepFirst
    split
    · exact (ih seen).cons i
    · exact (ih _).cons_cons i

theorem keepFirst_fresh {seen : List IpConfig} {is : List IpMarkInfo}
    (hi : i ∈ keepFirst seen is) : i.cidr ∉ seen := by
  induction is generalizing seen with
  | nil => cases hi
  | cons j is ih =>
    unfold keepFirst at hi
    split at hi
    · exact ih hi
    · rename_i hj
      rcases mem_cons.mp hi with rfl | hi
      · exact hj
      · exact fun h => ih hi (mem_cons_of_mem _ h)

theorem keepFirst_nodup (seen : List IpConfig) (is : List IpMarkInfo) :
    ((keepFirst seen is).map (·.cidr)).Nodup := by
  induction is generalizing seen with
  | nil => exact .nil
  | cons i is ih =>
    unfold keepFirst
    split
    · exact ih seen
    · refine nodup_cons.mpr ⟨?_,ih _⟩
      intro hi
      obtain ⟨j,hj,hcidr⟩ := mem_map.mp hi
      exact keepFirst_fresh hj (hcidr ▸ mem_cons_self)

theorem cidr_mem_ranges (hi : i ∈ convertConfigToRuntimeRule geo rules) :
    i.cidr ∈ rangesOf geo rules := by
  obtain ⟨r,hr,him⟩ := mem_flatMap.mp ((keepFirst_sublist _ _).subset hi)
  obtain ⟨c,hc,rfl⟩ := mem_map.mp him
  exact mem_flatMap.mpr ⟨r,hr,hc⟩

theorem Fits.mono (h : Fits geo rules) (hsub : rs ⊆ rules) : Fits geo rs := by
  have hranges : rangesOf geo rs ⊆ rangesOf geo rules := by
    intro c hc
    obtain ⟨r,hr,hcr⟩ := mem_flatMap.mp hc
    exact mem_flatMap.mpr ⟨r,hsub hr,hcr⟩
  refine ⟨fun c hc => h.1 c (hranges hc),fun c hc c' hc' => h.2.1 c (hranges hc) c'
    (hranges hc'),?_⟩
  intro fam _
  refine le_trans (dedup_length_mono ?_) (h.room fam)
  exact map_subset _ (filter_subset _ hranges)

theorem convert_nets_nodup (h : Fits geo rules) :
    ((convertConfigToRuntimeRule geo rules).map (·.cidr.net)).Nodup := by
  have hcidrs := keepFirst_nodup [] (rules.flatMap (·.marks geo))
  change ((convertConfigToRuntimeRule geo rules).map (IpConfig.net ∘ IpMarkInfo.cidr)).Nodup
  rw [← map_map]
  refine List.Nodup.map_on ?_ hcidrs
  intro c hc c' hc' hnet
  obtain ⟨i,hi,rfl⟩ := mem_map.mp hc
  obtain ⟨j,hj,rfl⟩ := mem_map.mp hc'
  exact h.2.1 _ (cidr_mem_ranges hi) _ (cidr_mem_ranges hj) hnet

theorem updateBatch_eq {ips : List IpMarkInfo} {t : FlowIpTrie} (nets : List IpNet)
    (hacc : ∀ i ∈ ips, i.cidr.net.accepted = true) (hnodup : (ips.map (·.cidr.net)).Nodup)
    (hnew : ∀ i ∈ ips, i.cidr.net ∉ t) (hnets : ∀ i ∈ ips, i.cidr.net ∈ nets)
    (hkeys : t.keys ⊆ nets) (hroom : nets.dedup.length ≤ ipMatchMaxEntries) :
    ∃ t', updateBatch ips t = some t' ∧ ∀ n v, t'.lookup n = some v ↔
        t.lookup n = some v ∨ ∃ i ∈ ips, i.cidr.net = n ∧ i.value = v := by
  induction ips generalizing t with
  | nil => exact ⟨t,rfl,by simp⟩
  | cons i is ih =>
    rw [map_cons, nodup_cons] at hnodup
    have hi := hnets i mem_cons_self
    have hins := tryInsert_of_subset (v := i.value) hi hkeys hroom
    obtain ⟨t',ht',hlook⟩ := ih (t := t.insert i.cidr.net i.value)
      (fun j hj => hacc j (mem_cons_of_mem _ hj)) hnodup.2
      (fun j hj hmem => by
        rcases (mem_insert _).mp hmem with heq | hmem
        · exact hnodup.1 (mem_map.mpr ⟨j,hj,heq⟩)
        · exact hnew j (mem_cons_of_mem _ hj) hmem)
      (fun j hj => hnets j (mem_cons_of_mem _ hj))
      (fun n hn => by
        rcases (mem_insert _).mp (mem_keys.mpr hn) with rfl | hn
        · exact hi
        · exact hkeys (mem_keys.mp hn))
    refine ⟨t',?_,?_⟩
    · rw [updateBatch, if_pos (hacc i mem_cons_self), hins]
      exact ht'
    · intro n v
      rw [hlook]
      by_cases hn : n = i.cidr.net
      · subst hn
        have hnone : t.lookup i.cidr.net = none :=
          lookup_eq_none.mpr (hnew i mem_cons_self)
        simp [hnone]
      · simp [lookup_insert_ne hn, Ne.symm hn]

theorem addMarkIpRules_eq (h : Fits geo rules) (fam : IpFamily) :
    ∃ t, addMarkIpRules fam (convertConfigToRuntimeRule geo rules) = some t ∧
      Holds fam t (convertConfigToRuntimeRule geo rules) := by
  have hsub : ((convertConfigToRuntimeRule geo rules).filter
      fun i => i.cidr.ip.family = fam).Sublist (convertConfigToRuntimeRule geo rules) :=
    filter_sublist
  obtain ⟨t,ht,hlook⟩ := updateBatch_eq (t := ∅) (networksOf fam (rangesOf geo rules))
    (fun i hi => h.1 _ (cidr_mem_ranges (hsub.subset hi)))
    ((convert_nets_nodup h).sublist (hsub.map _))
    (fun i _ => notMem_empty _)
    (fun i hi => mem_map.mpr ⟨i.cidr,mem_filter.mpr
      ⟨cidr_mem_ranges (hsub.subset hi),(mem_filter.mp hi).2⟩,rfl⟩)
    (by simp) (h.room fam)
  refine ⟨t,ht,?_⟩
  intro n v
  rw [hlook]
  simp [and_assoc]

theorem updateFlowDstIpMap_eq (hfit : Fits geo (rs.filter (·.enable)))
    (hf : f ∈ flows) (hkeys : ∀ fam, (m fam).keys ⊆ flows)
    (hroom : flows.dedup.length ≤ flowIpMaxEntries) :
    ∃ m', updateFlowDstIpMap geo f rs m = (.done, m') ∧ Marked geo m' f (rs.filter (·.enable)) ∧
      (∀ g ≠ f, ∀ fam, (m' fam).lookup g = (m fam).lookup g) ∧
      ∀ fam g, g ∈ m' fam ↔ g ∈ m fam ∨ g = f := by
  have hperm : (sortByIndex (rs.filter (·.enable))).Perm (rs.filter (·.enable)) :=
    perm_insertionSort _ _
  have hsorted : (sortByIndex (rs.filter (·.enable))).Pairwise fun a b => a.index ≤ b.index :=
    pairwise_insertionSort _ _
  have hfit' := hfit.mono hperm.subset
  obtain ⟨t4,ht4,hold4⟩ := addMarkIpRules_eq hfit' .ipv4
  obtain ⟨t6,ht6,hold6⟩ := addMarkIpRules_eq hfit' .ipv6
  have hins4 := tryInsert_of_subset (v := t4) hf (hkeys .ipv4) hroom
  have hins6 := tryInsert_of_subset (v := t6) hf (hkeys .ipv6) hroom
  have hmaps : updateFlowDstIpMap geo f rs m =
      (.done, update (update m .ipv4 ((m .ipv4).insert f t4)) .ipv6 ((m .ipv6).insert f t6)) := by
    simp [updateFlowDstIpMap, addWanIpMark, createInnerFlowMatchMap, ht4, ht6, hins4, hins6]
  refine ⟨_,hmaps,⟨_,hperm,hsorted,?_⟩,?_,?_⟩
  · intro fam
    cases fam with
    | ipv4 => exact ⟨t4,by simp,hold4⟩
    | ipv6 => exact ⟨t6,by simp,hold6⟩
  · intro g hg fam
    cases fam <;> simp [lookup_insert_ne hg]
  · intro fam g
    cases fam <;> simp [or_comm]

/-- What a walk over flows leaves: the marks of the flows on it are those of the rules it is
given. -/
theorem applyConfigs_eq {flowIds : List FlowId} {configs : List WanIpRuleConfig}
    (hfit : ∀ f ∈ flowIds, Fits geo (enabledRules configs f)) (hflows : flowIds ⊆ flows)
    (hkeys : ∀ fam, (m fam).keys ⊆ flows) (hroom : flows.dedup.length ≤ flowIpMaxEntries) :
    ∃ m', applyConfigs geo configs flowIds m = (.done, m') ∧
      (∀ f ∈ flowIds, Marked geo m' f (enabledRules configs f)) ∧
      (∀ g ∉ flowIds, ∀ fam, (m' fam).lookup g = (m fam).lookup g) ∧
      ∀ fam g, g ∈ m' fam ↔ g ∈ m fam ∨ g ∈ flowIds := by
  induction flowIds generalizing m with
  | nil => exact ⟨m,rfl,by simp,by simp,by simp⟩
  | cons f flowIds ih =>
    rw [cons_subset] at hflows
    obtain ⟨m₁,hm₁,hmarked,hother,hmem⟩ := updateFlowDstIpMap_eq
      (hfit f mem_cons_self) hflows.1 hkeys hroom
    obtain ⟨m₂,hm₂,hmarked₂,hother₂,hmem₂⟩ := ih (m := m₁)
      (fun g hg => hfit g (mem_cons_of_mem _ hg)) hflows.2
      (fun fam g hg => by
        rcases (hmem fam g).mp (mem_keys.mpr hg) with hg | rfl
        · exact hkeys fam (mem_keys.mp hg)
        · exact hflows.1)
    refine ⟨m₂,?_,?_,?_,?_⟩
    · rw [applyConfigs, hm₁]
      exact hm₂
    · intro g hg
      by_cases hin : g ∈ flowIds
      · exact hmarked₂ g hin
      · -- the head of the walk, which the rest of it leaves alone
        obtain rfl : g = f := (mem_cons.mp hg).resolve_right hin
        obtain ⟨order,hperm,hsorted,htries⟩ := hmarked
        refine ⟨order,hperm,hsorted,?_⟩
        intro fam
        rw [hother₂ g hin fam]
        exact htries fam
    · intro g hg fam
      rw [mem_cons, not_or] at hg
      rw [hother₂ g hg.2 fam, hother g hg.1 fam]
    · intro fam g
      rw [hmem₂, hmem, mem_cons, or_assoc]

theorem enabledRules_nodup (hk : Keyed rules) : (enabledRules rules f).Nodup :=
  ((List.Nodup.of_map _ hk).filter _).filter _

theorem enabledRules_perm (hk : Keyed rules) (hk' : Keyed rs)
    (h : ∀ r : WanIpRuleConfig, r.flowId = f → r.enable = true → (r ∈ rs ↔ r ∈ rules)) :
    (enabledRules rs f).Perm (enabledRules rules f) := by
  rw [perm_ext_iff_of_nodup (enabledRules_nodup hk') (enabledRules_nodup hk)]
  intro r
  rw [mem_enabledRules, mem_enabledRules]
  constructor
  · rintro ⟨hr,hf,he⟩
    exact ⟨(h r hf he).mp hr,hf,he⟩
  · rintro ⟨hr,hf,he⟩
    exact ⟨(h r hf he).mpr hr,hf,he⟩

section Save
variable {now : Nat} {configs rows : List WanIpRuleConfig} {changes : List (Change WanIpRuleConfig)}

theorem change_flow (h : checkedUpsertMany now rules configs = some (changes, rows)) :
    changes.map (fun c => c.new.flowId) = configs.map (·.flowId) :=
  checkedUpsertMany_map (fun _ _ => rfl) h

theorem mem_rows_of_untouched (h : checkedUpsertMany now rules configs = some (changes, rows))
    (hk : Keyed rules) (hcross : ∀ c ∈ configs, validateCross rules c = true)
    (hr : r.flowId ∉ configs.map (·.flowId)) : r ∈ rows ↔ r ∈ rules := by
  have hup := (checkedUpsertMany_upserted h).1
  constructor
  · intro hmem
    rcases hup.back r hmem with hmem | ⟨c,hc,rfl⟩
    · exact hmem
    · exact absurd (change_flow h ▸ mem_map.mpr ⟨c,hc,rfl⟩) hr
  · intro hmem
    rcases hup.kept r hmem with hmem' | ⟨c,hc,hid⟩
    · exact hmem'
    · obtain ⟨config,hconfig,ts,hnew⟩ := hup.source c hc
      have hid' : config.id = r.id := by
        rw [hnew] at hid
        exact hid
      -- the stored rule of this id has the flow of the new one
      have hflow := hcross config hconfig
      have hfind : find rules config.id = some r := hid' ▸ find_of_mem hk hmem
      rw [validateCross, hfind, Option.all_some, decide_eq_true_eq] at hflow
      exact absurd (mem_map.mpr ⟨config,hconfig,hflow.symm⟩) hr

def TakesWholeFlows (rules configs : List WanIpRuleConfig) : Prop :=
  (configs.map (·.id)).Nodup ∧
    ∀ r ∈ rules, r.enable = true → r.flowId ∈ configs.map (·.flowId) → r.id ∈ configs.map (·.id)

instance : Decidable (TakesWholeFlows rules configs) := by
  unfold TakesWholeFlows
  infer_instance

theorem TakesWholeFlows.perm (h : checkedUpsertMany now rules configs = some (changes, rows))
    (hk : Keyed rules) (hwhole : TakesWholeFlows rules configs) (hf : f ∈ configs.map (·.flowId)) :
    (enabledRules (changes.map (·.new)) f).Perm (enabledRules rows f) := by
  obtain ⟨hup,hkeyed⟩ := checkedUpsertMany_upserted h
  have hids : (changes.map (·.new)).map (·.id) = configs.map (·.id) := by
    rw [map_map]
    exact checkedUpsertMany_map (g := WanIpRuleConfig.id) (fun _ _ => rfl) h
  have hk' : Keyed (changes.map (·.new)) := by
    change ((changes.map (·.new)).map (·.id)).Nodup
    rw [hids]
    exact hwhole.1
  have hnews := (checkedUpsertMany_replaces h hwhole.1 hk).1
  refine enabledRules_perm (hkeyed hk) hk' ?_
  intro r hflow he
  constructor
  · intro hr
    obtain ⟨c,hc,rfl⟩ := mem_map.mp hr
    exact hnews c hc
  · intro hr
    rcases hup.back r hr with hold | ⟨c,hc,rfl⟩
    · -- a row that was there before: the batch names it, so it is one of the new ones
      have hid := hwhole.2 r hold he (hflow ▸ hf)
      rw [← hids, map_map] at hid
      obtain ⟨c,hc,hcid⟩ := mem_map.mp hid
      have heq : c.new = r := inj_on_of_nodup_map (hkeyed hk) (hnews c hc) hr hcid
      exact mem_map.mpr ⟨c,hc,heq⟩
    · exact mem_map.mpr ⟨c,hc,rfl⟩

end Save

end Landscape.Flow
