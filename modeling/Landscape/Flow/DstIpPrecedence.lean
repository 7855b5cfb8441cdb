import Landscape.Flow.DstIpInForce

/-! Which rule answers an address, over whole histories of the service. -/
namespace Landscape.Flow
open Geo Route Run List

/-- The marks of a flow answer the addresses in the ranges of its rules; where the range is the
longest one around the address, with a rule of the smallest index among those that list it. -/
structure Answers (geo : GeoData) (rules : List WanIpRuleConfig) (t : FlowIpTrie) (a : IpAddr) :
    Prop where
  found : (trieLookup t.lookup a).isSome = true ↔ ∃ c ∈ rangesOf geo rules, c.net.Contains a
  first : ∀ c ∈ rangesOf geo rules, c.net.Contains a →
    (∀ c' ∈ rangesOf geo rules, c'.net.Contains a → c'.net.len ≤ c.net.len) →
    ∃ r ∈ rules, c ∈ r.ranges geo ∧ (∀ r' ∈ rules, c ∈ r'.ranges geo → r.index ≤ r'.index) ∧
      trieLookup t.lookup a = some ⟨r.mark.toU32,r.index.toUInt16⟩

variable {geo : GeoData} {rules order : List WanIpRuleConfig} {f : FlowId} {m : FlowIpMaps}
  {i : IpMarkInfo}

theorem find_of_mem_keepFirst {seen : List IpConfig} {is : List IpMarkInfo}
    (hi : i ∈ keepFirst seen is) :
    is.find? (·.cidr = i.cidr) = some i := by
  induction is generalizing seen with
  | nil => cases hi
  | cons j is ih =>
    have hfresh := keepFirst_fresh hi
    unfold keepFirst at hi
    split at hi
    · rename_i hj
      have hne : j.cidr ≠ i.cidr := fun heq => hfresh (heq ▸ hj)
      rw [find?_cons_of_neg (by simpa using hne)]
      exact ih hi
    · rcases mem_cons.mp hi with rfl | hi
      · exact find?_cons_of_pos (by simp)
      · have hne : j.cidr ≠ i.cidr := fun heq => keepFirst_fresh hi (heq ▸ mem_cons_self)
        rw [find?_cons_of_neg (by simpa using hne)]
        exact ih hi

/-- A mark that is converted is the one of the first rule that lists its range. -/
theorem first_of_mem_convert (hsorted : order.Pairwise fun a b => a.index ≤ b.index)
    (hi : i ∈ convertConfigToRuntimeRule geo order) :
    ∃ r ∈ order, i ∈ r.marks geo ∧ ∀ r' ∈ order, i.cidr ∈ r'.ranges geo → r.index ≤ r'.index := by
  have hfind := find_of_mem_keepFirst hi
  rw [find?_flatMap, findSome?_eq_some_iff] at hfind
  obtain ⟨before,r,after,rfl,hr,hbefore⟩ := hfind
  refine ⟨r,by simp,mem_of_find?_eq_some hr,?_⟩
  intro r' hr' hc
  rcases mem_append.mp hr' with hr' | hr'
  · have hnone := find?_eq_none.mp (hbefore r' hr') _ (mem_map.mpr ⟨_,hc,rfl⟩)
    simp at hnone
  · rcases mem_cons.mp hr' with rfl | hr'
    · exact UInt32.le_refl _
    · exact rel_of_pairwise_cons (pairwise_append.mp hsorted).2.1 hr'

theorem contains_family {n : IpNet} {a : IpAddr} (h : n.Contains a) : n.family = a.family := by
  cases n <;> cases a <;> first | rfl | exact h.elim

theorem Marked.answers (h : Marked geo m f rules) (hfit : Fits geo rules) (a : IpAddr) :
    ∃ t ∈ (m a.family).lookup f, Answers geo rules t a := by
  obtain ⟨order,hperm,hsorted,htries⟩ := h
  obtain ⟨t,ht,hholds⟩ := htries a.family
  have hranges : ∀ c, c ∈ rangesOf geo order ↔ c ∈ rangesOf geo rules :=
    fun c => (hperm.flatMap_right _).mem_iff
  -- every network of the trie is that of a range, and every range around the address is in it
  have hback : ∀ n, (t.lookup n).isSome = true → ∃ c ∈ rangesOf geo rules, c.net = n := by
    intro n hn
    obtain ⟨v,hv⟩ := Option.isSome_iff_exists.mp hn
    obtain ⟨i,hi,-,hnet,-⟩ := (hholds n v).mp hv
    exact ⟨i.cidr,(hranges _).mp (cidr_mem_ranges hi),hnet⟩
  have hmark : ∀ c ∈ rangesOf geo rules, c.net.Contains a →
      ∃ i ∈ convertConfigToRuntimeRule geo order, i.cidr = c ∧ t.lookup c.net = some i.value := by
    intro c hc hin
    obtain ⟨r,hr,hcr⟩ := mem_flatMap.mp ((hranges c).mpr hc)
    have hmem : (⟨r.mark,c,r.index.toUInt16⟩ : IpMarkInfo) ∈ order.flatMap (·.marks geo) :=
      mem_flatMap.mpr ⟨r,hr,mem_map.mpr ⟨c,hcr,rfl⟩⟩
    obtain ⟨i,hi,rfl⟩ := (keepFirst_covers [] hmem).resolve_left not_mem_nil
    exact ⟨i,hi,rfl,(hholds _ _).mpr ⟨i,hi,by rw [← contains_family hin, family_net],rfl,rfl⟩⟩
  refine ⟨t,ht,?_,?_⟩
  · rw [trieLookup_isSome]
    constructor
    · rintro ⟨n,-,hsome,hn⟩
      obtain ⟨c,hc,rfl⟩ := hback n hsome
      exact ⟨c,hc,hn⟩
    · rintro ⟨c,hc,hn⟩
      obtain ⟨i,-,-,hi⟩ := hmark c hc hn
      exact ⟨c.net,hfit.1 c hc,by rw [hi, Option.isSome_some],hn⟩
  · intro c hc hn hmax
    obtain ⟨i,hi,rfl,hlook⟩ := hmark c hc hn
    obtain ⟨r,hr,him,hfirst⟩ := first_of_mem_convert hsorted hi
    obtain ⟨c,hcr,rfl⟩ := mem_map.mp him
    refine ⟨r,hperm.mem_iff.mp hr,hcr,fun r' hr' => hfirst r' (hperm.mem_iff.mpr hr'),?_⟩
    refine trieLookup_of_longest (hfit.1 c hc) hn hlook ?_
    intro n' hn' hlt
    by_contra hsome
    obtain ⟨c',hc',rfl⟩ := hback n' (Option.isSome_iff_ne_none.mpr hsome)
    exact absurd (hmax c' hc' hn') (Nat.not_le_of_lt hlt)

/-- Whatever the history: an address is answered by the enabled stored rules of its flow, the
longest range first and the smallest index of those that list it. -/
theorem dst_ip_precedence {s₀ s : DstIpState} (h₀ : Begins s₀)
    (hrun : Runs dstIpStep WholeFlows s₀ s) {r : WanIpRuleConfig} (hr : r ∈ s.rules) (a : IpAddr) :
    ∃ t ∈ (s.maps a.family).lookup r.flowId, Answers s.geo (enabledRules s.rules r.flowId) t a := by
  have hinv : DstIpInv s := hrun.invariant DstIpInv (fun _ _ _ h he hs => (h.step he hs).1) h₀.inv
  exact (hinv.inForce r.flowId (.inr (mem_map.mpr ⟨r,hr,rfl⟩))).answers (hinv.room.fits _) a

def tenRule (n : Nat) (index : UInt32) (lens : List UInt32) (updateAt : Nat) : WanIpRuleConfig :=
  ⟨n,index,true,⟨.redirect,false,n.toUInt8⟩,
    lens.map fun len => .config ⟨.v4 0x0a010000,len⟩,defaultFlowId,updateAt⟩

def tenRules : List WanIpRuleConfig :=
  [tenRule 1 2 [16] 5, tenRule 2 1 [8, 16] 20, tenRule 3 0 [8] 30]

def tenEvents : List DstIpEvent :=
  [.checkedSet 20 (tenRule 2 1 [8, 16] 0), .checkedSet 30 (tenRule 3 0 [8] 0)]

theorem dst_ip_precedence_saved : ∃ s₀ s, Begins s₀ ∧ Runs dstIpStep WholeFlows s₀ s ∧
    enabledRules s.rules defaultFlowId = tenRules ∧ ∃ t ∈ (s.maps .ipv4).lookup defaultFlowId,
      trieLookup t.lookup (.v4 0x0a010001) = some ⟨(tenRule 2 1 [] 0).mark.toU32,1⟩ := by
  obtain ⟨s₀,hstart⟩ : ∃ s₀, startDstIp [tenRule 1 2 [16] 5] [] (fun _ => []) [0] = some s₀ :=
    Option.isSome_iff_exists.mp (by decide +kernel)
  have hbegins : Begins s₀ :=
    ⟨[tenRule 1 2 [16] 5],[],fun _ => [],[0],nodup_singleton _,by decide +kernel,hstart⟩
  obtain ⟨s,hrun,hrules⟩ : ∃ s, Runs dstIpStep WholeFlows s₀ s ∧
      enabledRules s.rules defaultFlowId = tenRules := by
    have h : ((startDstIp [tenRule 1 2 [16] 5] [] (fun _ => []) [0]).all fun s =>
        (stepsWithin dstIpStep (fun s e => decide (WholeFlows s e)) s tenEvents).any fun s =>
          decide (enabledRules s.rules defaultFlowId = tenRules)) = true := by decide +kernel
    rw [hstart] at h
    exact runs_of_decide _ _ _ _ _ h
  have hmem : tenRule 1 2 [16] 5 ∈ s.rules := by
    have hin : tenRule 1 2 [16] 5 ∈ enabledRules s.rules defaultFlowId := by simp [hrules, tenRules]
    exact (mem_enabledRules.mp hin).1
  obtain ⟨t,ht,hans⟩ : ∃ t ∈ (s.maps .ipv4).lookup defaultFlowId,
      Answers s.geo (enabledRules s.rules defaultFlowId) t (.v4 0x0a010001) :=
    dst_ip_precedence hbegins hrun hmem (.v4 0x0a010001)
  rw [hrules] at hans
  have hranges : rangesOf s.geo tenRules =
      [⟨.v4 0x0a010000,16⟩, ⟨.v4 0x0a010000,8⟩, ⟨.v4 0x0a010000,16⟩, ⟨.v4 0x0a010000,8⟩] := rfl
  obtain ⟨r,hr,hc,hmin,hlook⟩ := hans.first ⟨.v4 0x0a010000,16⟩ (by rw [hranges]; decide)
    (by decide) (by rw [hranges]; decide)
  refine ⟨s₀,s,hbegins,hrun,hrules,t,ht,hlook.trans ?_⟩
  simp only [tenRules, mem_cons, not_mem_nil, or_false] at hr
  rcases hr with rfl | rfl | rfl
  · have hle := hmin (tenRule 2 1 [8, 16] 20) (by simp [tenRules])
      (by simp [WanIpRuleConfig.ranges, tenRule, IpSource.resolve])
    exact absurd hle (by decide)
  · rfl
  · simp [WanIpRuleConfig.ranges, tenRule, IpSource.resolve] at hc

end Landscape.Flow
