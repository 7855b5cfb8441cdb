import Landscape.Flow.DstIpMarks
import Landscape.Lib.Run

/-! The marks of every flow against its stored rules, over whole histories of the service. -/
namespace Landscape.Flow
open Capped Geo Route Run Store Function List Option AList

variable {geo : GeoData} {rules rs : List WanIpRuleConfig} {f g : FlowId} {m : FlowIpMaps}
  {s s' : DstIpState} {r : WanIpRuleConfig}

/-- The marks of a flow are those of its enabled stored rules. -/
def InForce (s : DstIpState) (f : FlowId) : Prop := Marked s.geo s.maps f (enabledRules s.rules f)

/-- The data plane takes the rules, next to the flows that have marks already. -/
def Room (m : FlowIpMaps) (geo : GeoData) (rules : List WanIpRuleConfig) : Prop :=
  (∀ r ∈ rules, Fits geo (enabledRules rules r.flowId)) ∧
    ((m .ipv4).keys ++ rules.map (·.flowId)).dedup.length ≤ flowIpMaxEntries

instance : Decidable (Room m geo rules) := by
  unfold Room
  infer_instance

theorem enabledRules_eq_nil (hf : f ∉ rules.map (·.flowId)) : enabledRules rules f = [] := by
  rw [eq_nil_iff_forall_not_mem]
  intro r hr
  obtain ⟨hmem,hflow,-⟩ := mem_enabledRules.mp hr
  exact hf (mem_map.mpr ⟨r,hmem,hflow⟩)

theorem Room.fits (h : Room m geo rules) (f : FlowId) : Fits geo (enabledRules rules f) := by
  by_cases hf : f ∈ rules.map (·.flowId)
  · obtain ⟨r,hr,rfl⟩ := mem_map.mp hf
    exact h.1 r hr
  · rw [enabledRules_eq_nil hf]
    exact ⟨by simp [rangesOf],by simp [rangesOf],by simp [rangesOf, networksOf]⟩

structure DstIpInv (s : DstIpState) : Prop where
  keyed : Keyed s.rules
  observing : s.observing = true
  agree : ∀ fam f, f ∈ s.maps fam ↔ f ∈ s.maps .ipv4
  room : Room s.maps s.geo s.rules
  inForce : ∀ f, f ∈ s.maps .ipv4 ∨ f ∈ s.rules.map (·.flowId) → InForce s f

def Advances (s s' : DstIpState) : Prop :=
  DstIpInv s' ∧ ∀ f, f ∈ s.maps .ipv4 → f ∈ s'.maps .ipv4

theorem DstIpInv.has_marks (h : DstIpInv s) (hr : r ∈ s.rules) : r.flowId ∈ s.maps .ipv4 := by
  obtain ⟨_,-,-,htries⟩ := h.inForce r.flowId (.inr (mem_map.mpr ⟨r,hr,rfl⟩))
  obtain ⟨t,ht,-⟩ := htries .ipv4
  exact lookup_isSome.mp (ht ▸ rfl)

theorem DstIpInv.keys (h : DstIpInv s) (fam : IpFamily) {flows : List FlowId} :
    (s.maps fam).keys ⊆ (s.maps .ipv4).keys ++ flows := by
  intro f hf
  exact mem_append_left _ (mem_keys.mp ((h.agree fam f).mp (mem_keys.mpr hf)))

theorem InForce.keep (h : InForce s f)
    (hmaps : ∀ fam, (s'.maps fam).lookup f = (s.maps fam).lookup f)
    (hrules : (enabledRules s'.rules f).Perm (enabledRules s.rules f))
    (hgeo : s'.geo = s.geo ∨ enabledRules s'.rules f = []) : InForce s' f := by
  obtain ⟨order,hperm,hsorted,htries⟩ := h
  refine ⟨order,hperm.trans hrules.symm,hsorted,?_⟩
  have hconv : convertConfigToRuntimeRule s'.geo order =
      convertConfigToRuntimeRule s.geo order := by
    rcases hgeo with hgeo | hnil
    · rw [hgeo]
    · have hempty := hperm.trans hrules.symm
      rw [hnil, perm_nil] at hempty
      rw [hempty]
      rfl
  intro fam
  rw [hmaps fam, hconv]
  exact htries fam

theorem DstIpInv.touch (h : DstIpInv s) (touched : List FlowId) (hkeyed : Keyed s'.rules)
    (hobs : s'.observing = true) (hroom : Room s.maps s'.geo s'.rules)
    (hmem : ∀ fam f, f ∈ s'.maps fam ↔ f ∈ s.maps fam ∨ f ∈ touched)
    (hknown : ∀ f ∈ touched, f ∈ s.maps .ipv4 ∨ f ∈ s'.rules.map (·.flowId))
    (htouched : ∀ f ∈ touched, InForce s' f)
    (hkept : ∀ f ∉ touched, ∀ fam, (s'.maps fam).lookup f = (s.maps fam).lookup f)
    (hrules : ∀ f ∉ touched, (enabledRules s'.rules f).Perm (enabledRules s.rules f))
    (hgeo : s'.geo = s.geo ∨ ∀ f ∉ touched, enabledRules s'.rules f = [])
    (hold : ∀ f ∈ s'.rules.map (·.flowId), f ∉ touched → f ∈ s.rules.map (·.flowId)) :
    Advances s s' := by
  refine ⟨⟨hkeyed,hobs,?_,⟨hroom.1,?_⟩,?_⟩,fun f hf => (hmem .ipv4 f).mpr (.inl hf)⟩
  · intro fam f
    rw [hmem, hmem, h.agree fam f]
  · refine le_trans (dedup_length_mono ?_) hroom.2
    refine append_subset.mpr ⟨?_,subset_append_right _ _⟩
    intro f hf
    rcases (hmem .ipv4 f).mp (mem_keys.mpr hf) with hf | hf
    · exact mem_append_left _ (mem_keys.mp hf)
    · exact mem_append.mpr ((hknown f hf).imp mem_keys.mp id)
  · intro f hf
    by_cases hin : f ∈ touched
    · exact htouched f hin
    · have hbefore : f ∈ s.maps .ipv4 ∨ f ∈ s.rules.map (·.flowId) := by
        rcases hf with hf | hf
        · exact .inl (((hmem .ipv4 f).mp hf).resolve_right hin)
        · exact .inr (hold f hf hin)
      exact (h.inForce f hbefore).keep (hkept f hin) (hrules f hin) (hgeo.imp_right
        fun hg => hg f hin)

variable {rows : List WanIpRuleConfig} {flowIds : List FlowId} {fam : IpFamily}

theorem DstIpInv.refresh (h : DstIpInv s) (hkeyed : Keyed rows) (hroom : Room s.maps s.geo rows)
    (hknown : f ∈ s.maps .ipv4 ∨ f ∈ rows.map (·.flowId))
    (hrows : ∀ r : WanIpRuleConfig, r.flowId ≠ f → (r ∈ rows ↔ r ∈ s.rules)) :
    Advances s (refreshFlow { s with rules := rows } f) := by
  have hf : f ∈ (s.maps .ipv4).keys ++ rows.map (·.flowId) :=
    mem_append.mpr (hknown.imp mem_keys.mp id)
  obtain ⟨m',hm',hmarked,hother,hmem⟩ := updateFlowDstIpMap_eq
    (hroom.fits f) hf (fun fam => h.keys fam) hroom.2
  have hstate : refreshFlow { s with rules := rows } f = { s with rules := rows, maps := m' } := by
    simp [refreshFlow, listFlowConfigs, hm']
  rw [hstate]
  refine h.touch [f] hkeyed h.observing hroom ?_ ?_ ?_ ?_ ?_ (.inl rfl) ?_
  · simpa using hmem
  · simpa using hknown
  · intro g hg
    obtain rfl := mem_singleton.mp hg
    exact hmarked
  · simpa using hother
  · intro g hg
    refine enabledRules_perm h.keyed hkeyed ?_
    rintro r rfl -
    exact hrows r (by simpa using hg)
  · intro g hg hne
    obtain ⟨r,hr,rfl⟩ := mem_map.mp hg
    exact mem_map.mpr ⟨r,(hrows r (by simpa using hne)).mp hr,rfl⟩

section Save
variable {now : Nat} {configs rows : List WanIpRuleConfig} {changes : List (Change WanIpRuleConfig)}
  {flowIds : List FlowId}

theorem checkedUpsertFlowRules_eq
    (h : checkedUpsertFlowRules now s configs = some (changes, rows)) :
    checkedUpsertMany now s.rules configs = some (changes, rows) ∧
      ∀ c ∈ configs, validateCross s.rules c = true := by
  unfold checkedUpsertFlowRules at h
  split at h
  · rename_i hok
    rw [Bool.and_eq_true, List.all_eq_true] at hok
    exact ⟨h,hok.1⟩
  · cases h

theorem DstIpInv.saveOne (h : DstIpInv s) (hone : configs.length = 1)
    (hsave : checkedUpsertFlowRules now s configs = some (changes, rows))
    (hroom : Room s.maps s.geo rows) :
    Advances s (notifyChanged { s with rules := rows } flowIds changes) := by
  obtain ⟨hmany,hcross⟩ := checkedUpsertFlowRules_eq hsave
  obtain ⟨config,rfl⟩ := length_eq_one_iff.mp hone
  have hflow := change_flow hmany
  obtain ⟨c,rfl⟩ : ∃ c, changes = [c] := by
    have hlen := congrArg length hflow
    rw [length_map, length_map] at hlen
    exact length_eq_one_iff.mp hlen
  obtain ⟨hup,hkeyed⟩ := checkedUpsertMany_upserted hmany
  have hstored : c.new ∈ rows :=
    (checkedUpsertMany_replaces hmany (by simp) h.keyed).1 c mem_cons_self
  refine h.refresh (hkeyed h.keyed) hroom (.inr (mem_map.mpr ⟨c.new,hstored,rfl⟩)) ?_
  intro r hr
  refine mem_rows_of_untouched hmany h.keyed hcross ?_
  rw [← hflow]
  simpa using hr

theorem DstIpInv.saveBatch (h : DstIpInv s) (hlen : configs.length ≠ 1)
    (hwalk : WalkOf flowIds configs) (hwhole : TakesWholeFlows s.rules configs)
    (hsave : checkedUpsertFlowRules now s configs = some (changes, rows))
    (hroom : Room s.maps s.geo rows) :
    Advances s (notifyChanged { s with rules := rows } flowIds changes) := by
  obtain ⟨hmany,hcross⟩ := checkedUpsertFlowRules_eq hsave
  have hflow := change_flow hmany
  obtain ⟨hup,hkeyed⟩ := checkedUpsertMany_upserted hmany
  have hnews := (checkedUpsertMany_replaces hmany hwhole.1 h.keyed).1
  have hmemWalk : ∀ {f}, f ∈ flowIds ↔ f ∈ configs.map (·.flowId) := by
    intro f
    rw [hwalk.mem_iff, mem_dedup]
  have hstored : ∀ f ∈ flowIds, f ∈ rows.map (·.flowId) := by
    intro f hf
    rw [hmemWalk, ← hflow] at hf
    obtain ⟨c,hc,rfl⟩ := mem_map.mp hf
    exact mem_map.mpr ⟨c.new,hnews c hc,rfl⟩
  have hperm := fun f (hf : f ∈ flowIds) => hwhole.perm hmany h.keyed (hmemWalk.mp hf)
  obtain ⟨m',hm',hmarked,hother,hmem⟩ := applyConfigs_eq
    (fun f hf => (hroom.fits f).mono (hperm f hf).subset)
    (fun f hf => mem_append_right _ (hstored f hf)) (fun fam => h.keys fam) hroom.2
  have hstate : notifyChanged { s with rules := rows } flowIds changes =
      { s with rules := rows, maps := m' } := by
    unfold notifyChanged
    split
    · rename_i c
      have hl := congrArg length hflow
      rw [length_map, length_map] at hl
      exact absurd hl.symm hlen
    · simp [hm']
  rw [hstate]
  have huntouched : ∀ r : WanIpRuleConfig, r.flowId ∉ flowIds → (r ∈ rows ↔ r ∈ s.rules) :=
    fun r hr => mem_rows_of_untouched hmany h.keyed hcross (fun hin => hr (hmemWalk.mpr hin))
  refine h.touch flowIds (hkeyed h.keyed) h.observing hroom hmem (fun f hf => .inr (hstored f hf))
    ?_ hother ?_ (.inl rfl) ?_
  · intro f hf
    obtain ⟨order,hord,hsorted,htries⟩ := hmarked f hf
    exact ⟨order,hord.trans (hperm f hf),hsorted,htries⟩
  · intro g hg
    refine enabledRules_perm h.keyed (hkeyed h.keyed) ?_
    rintro r rfl -
    exact huntouched r hg
  · intro g hg hne
    obtain ⟨r,hr,rfl⟩ := mem_map.mp hg
    exact mem_map.mpr ⟨r,(huntouched r hne).mp hr,rfl⟩

end Save

theorem DstIpInv.delete (h : DstIpInv s) {id : Uuid} {old : WanIpRuleConfig}
    (hdel : deleteAndGet s.rules id = (some old, rows)) :
    Advances s (refreshFlow { s with rules := rows } old.flowId) := by
  obtain ⟨hfind,rfl⟩ := Prod.mk.inj hdel
  obtain ⟨hold,hid⟩ := find_eq_some hfind
  have hsub : (s.rules.filter fun r => Row.id r ≠ id).Sublist s.rules := filter_sublist
  have hroom : Room s.maps s.geo (s.rules.filter fun r => Row.id r ≠ id) := by
    refine ⟨?_,le_trans (dedup_length_mono ?_) h.room.2⟩
    · intro r hr
      exact (h.room.1 r (hsub.subset hr)).mono ((hsub.filter _).filter _).subset
    · exact append_subset.mpr ⟨subset_append_left _ _,
        fun f hf => mem_append_right _ ((hsub.map _).subset hf)⟩
  refine h.refresh (keyed_delete h.keyed) hroom (.inl (h.has_marks hold)) ?_
  intro r hr
  constructor
  · exact fun hmem => hsub.subset hmem
  · intro hmem
    refine mem_filter.mpr ⟨hmem,?_⟩
    -- another row of this id would be the deleted one
    have hne : Row.id r ≠ id := by
      intro hrid
      have heq : r = old := inj_on_of_nodup_map h.keyed hmem hold (hrid.trans hid.symm)
      exact hr (congrArg WanIpRuleConfig.flowId heq)
    simpa using hne

theorem DstIpInv.load (h : DstIpInv s) {geo : GeoData} (hkeyed : Keyed rows)
    (hwalk : WalkOf flowIds rows) (hroom : Room s.maps geo rows)
    (hrows : ∀ f ∉ rows.map (·.flowId), enabledRules s.rules f = []) :
    Advances s (applyLoadedConfigs { s with rules := rows, geo := geo } flowIds) := by
  have hmemWalk : ∀ {f}, f ∈ flowIds ↔ f ∈ rows.map (·.flowId) := by
    intro f
    rw [hwalk.mem_iff, mem_dedup]
  obtain ⟨m',hm',hmarked,hother,hmem⟩ := applyConfigs_eq
    (fun f _ => hroom.fits f) (fun f hf => mem_append_right _ (hmemWalk.mp hf))
    (fun fam => h.keys fam) hroom.2
  have hstate : applyLoadedConfigs { s with rules := rows, geo := geo } flowIds =
      { s with rules := rows, geo := geo, maps := m', observing := true } := by
    simp [applyLoadedConfigs, hm']
  have hnone : ∀ f ∉ flowIds, enabledRules rows f = [] :=
    fun f hf => enabledRules_eq_nil fun hin => hf (hmemWalk.mpr hin)
  rw [hstate]
  refine h.touch flowIds hkeyed rfl hroom hmem (fun f hf => .inr (hmemWalk.mp hf)) hmarked hother ?_
    (.inr hnone) ?_
  · intro f hf
    rw [hnone f hf, hrows f fun hin => hf (hmemWalk.mpr hin)]
  · intro f hf hne
    exact absurd (hmemWalk.mpr hf) hne

/-- Every batch of more than one rule names all enabled rules of its flows, each once, and the data
plane takes the rules that are stored then. -/
def WholeFlows (s : DstIpState) : DstIpEvent → Prop
  | .checkedSet now config =>
    ∀ saved ∈ checkedUpsertFlowRules now s [config], Room s.maps s.geo saved.2
  | .checkedSetList now configs _ =>
    (configs.length ≠ 1 → TakesWholeFlows s.rules configs) ∧
      ∀ saved ∈ checkedUpsertFlowRules now s configs, Room s.maps s.geo saved.2
  | .delete _ => True
  | .geoIpUpdated geo _ => Room s.maps geo s.rules

instance (s : DstIpState) (e : DstIpEvent) : Decidable (WholeFlows s e) := by
  cases e <;> unfold WholeFlows <;> infer_instance

theorem DstIpInv.step (h : DstIpInv s) {e : DstIpEvent} (he : WholeFlows s e)
    (hs : dstIpStep s e = some s') : Advances s s' := by
  have hsame : Advances s s := ⟨h,fun _ => id⟩
  cases e with
  | checkedSet now config =>
    simp only [dstIpStep] at hs
    split at hs
    · exact some.inj hs ▸ hsame
    · rename_i changes rows hsave
      exact some.inj hs ▸ h.saveOne rfl hsave (he _ hsave)
  | checkedSetList now configs flowIds =>
    simp only [dstIpStep] at hs
    split at hs
    · exact some.inj hs ▸ hsame
    · rename_i changes rows hsave
      split at hs
      · rename_i hwalk
        rw [← some.inj hs]
        by_cases hlen : configs.length = 1
        · exact h.saveOne hlen hsave (he.2 _ hsave)
        · exact h.saveBatch hlen hwalk (he.1 hlen) hsave (he.2 _ hsave)
      · cases hs
  | delete id =>
    simp only [dstIpStep] at hs
    split at hs
    · exact some.inj hs ▸ hsame
    · rename_i old rows hdel
      exact some.inj hs ▸ h.delete hdel
  | geoIpUpdated geo flowIds =>
    simp only [dstIpStep] at hs
    rw [if_pos h.observing] at hs
    split at hs
    · rename_i hwalk
      rw [← some.inj hs]
      exact h.load h.keyed hwalk he fun f hf => enabledRules_eq_nil hf
    · cases hs

def Begins (s : DstIpState) : Prop :=
  ∃ rules flows geo flowIds, Keyed rules ∧ Room (fun _ => ∅) geo rules ∧
    startDstIp rules flows geo flowIds = some s

theorem Begins.inv (h : Begins s) : DstIpInv s := by
  obtain ⟨rules,flows,geo,flowIds,hkeyed,hroom,hstart⟩ := h
  have hempty : DstIpInv ⟨[],flows,geo,fun _ => ∅,true⟩ :=
    ⟨nodup_nil,rfl,by simp,⟨by simp,by simp [flowIpMaxEntries]⟩,by simp⟩
  unfold startDstIp at hstart
  dsimp only at hstart
  split at hstart
  · rename_i hok
    rw [← some.inj hstart]
    exact (hempty.load hkeyed hok.1 hroom fun _ _ => rfl).1
  · cases hstart

/-- Whatever the history of such operations: every flow that had a rule at some time has the marks
of its enabled stored rules, in the order of their index. -/
theorem in_force_of_wholeFlows {s₀ s₁ s₂ : DstIpState} (h₀ : Begins s₀)
    (h₁ : Runs dstIpStep WholeFlows s₀ s₁) (h₂ : Runs dstIpStep WholeFlows s₁ s₂)
    {r : WanIpRuleConfig} (hr : r ∈ s₁.rules) : InForce s₂ r.flowId := by
  have hinv₁ : DstIpInv s₁ := h₁.invariant DstIpInv (fun _ _ _ h he hs => (h.step he hs).1) h₀.inv
  have hinv₂ : DstIpInv s₂ ∧ r.flowId ∈ s₂.maps .ipv4 :=
    h₂.invariant (fun s => DstIpInv s ∧ r.flowId ∈ s.maps .ipv4)
      (fun _ _ _ h he hs => (h.1.step he hs).imp_right fun hkept => hkept _ h.2)
        ⟨hinv₁,hinv₁.has_marks hr⟩
  exact hinv₂.1.inForce r.flowId (.inl hinv₂.2)

/-! Sample rules of the default flow. -/

private def sampleRule (n : Nat) (updateAt : Nat) : WanIpRuleConfig where
  id := n
  index := n.toUInt32
  enable := true
  mark := ⟨.redirect,false,1⟩
  source := [.config ⟨.v4 (n.toUInt32 <<< 24),8⟩]
  flowId := defaultFlowId
  updateAt := updateAt

private def noGeo : GeoData := fun _ => []

private def sampleEvents : List DstIpEvent :=
  [.checkedSetList 10 [sampleRule 1 5, sampleRule 2 0] [0], .checkedSet 20 (sampleRule 3 0),
    .delete 2, .geoIpUpdated noGeo [0]]

theorem in_force_sample : ∃ s₀ s₁ s₂, Begins s₀ ∧ Runs dstIpStep WholeFlows s₀ s₁ ∧
    Runs dstIpStep WholeFlows s₁ s₂ ∧ sampleRule 1 5 ∈ s₁.rules ∧ s₂.rules.length = 2 ∧
      InForce s₂ defaultFlowId := by
  obtain ⟨s₀,hstart⟩ : ∃ s₀, startDstIp [sampleRule 1 5] [] noGeo [0] = some s₀ :=
    isSome_iff_exists.mp (by decide +kernel)
  have hbegins : Begins s₀ :=
    ⟨[sampleRule 1 5],[],noGeo,[0],nodup_singleton _,by decide +kernel,hstart⟩
  have hrule : sampleRule 1 5 ∈ s₀.rules := by
    have h : ((startDstIp [sampleRule 1 5] [] noGeo [0]).all fun s => sampleRule 1 5 ∈ s.rules) =
        true := by decide +kernel
    rw [hstart] at h
    simpa using h
  obtain ⟨s₂,hrun,hlen⟩ : ∃ s₂, Runs dstIpStep WholeFlows s₀ s₂ ∧ s₂.rules.length = 2 := by
    have h : ((startDstIp [sampleRule 1 5] [] noGeo [0]).all fun s =>
        (stepsWithin dstIpStep (fun s e => decide (WholeFlows s e)) s sampleEvents).any fun s =>
          decide (s.rules.length = 2)) = true := by decide +kernel
    rw [hstart] at h
    exact runs_of_decide _ _ _ _ _ h
  exact ⟨s₀,s₀,s₂,hbegins,.refl,hrun,hrule,hlen,in_force_of_wholeFlows hbegins .refl hrun hrule⟩

theorem keepFirst_covers (seen : List IpConfig) {is : List IpMarkInfo} {i : IpMarkInfo}
    (hi : i ∈ is) :
    i.cidr ∈ seen ∨ ∃ j ∈ keepFirst seen is, j.cidr = i.cidr := by
  induction is generalizing seen with
  | nil => cases hi
  | cons j is ih =>
    unfold keepFirst
    rcases mem_cons.mp hi with rfl | hi
    · split
      · exact .inl (by assumption)
      · exact .inr ⟨i,mem_cons_self,rfl⟩
    · split
      · exact ih seen hi
      · rcases ih (j.cidr :: seen) hi with hin | ⟨k,hk,hcidr⟩
        · rcases mem_cons.mp hin with heq | hin
          · exact .inr ⟨j,mem_cons_self,heq.symm⟩
          · exact .inl hin
        · exact .inr ⟨k,mem_cons_of_mem _ hk,hcidr⟩

theorem InForce.mark {c : IpConfig} (h : InForce s f)
    (hr : r ∈ enabledRules s.rules f) (hc : c ∈ r.ranges s.geo) :
    (((s.maps c.ip.family).lookup f).bind fun t => t.lookup c.net).isSome = true := by
  obtain ⟨order,hperm,-,htries⟩ := h
  obtain ⟨t,ht,hholds⟩ := htries c.ip.family
  have hmark : (⟨r.mark,c,r.index.toUInt16⟩ : IpMarkInfo) ∈ order.flatMap (·.marks s.geo) :=
    mem_flatMap.mpr ⟨r,hperm.symm.subset hr,mem_map.mpr ⟨c,hc,rfl⟩⟩
  obtain ⟨i,hi,hcidr⟩ := (keepFirst_covers [] hmark).resolve_left (by simp)
  have hlook : t.lookup c.net = some i.value :=
    (hholds _ _).mpr ⟨i,hi,by rw [hcidr],by rw [hcidr],rfl⟩
  rw [ht, bind_some, hlook, isSome_some]

def AlwaysInForce : Prop :=
  ∀ rules flows geo flowIds s₀ s₁ s₂, Keyed rules → startDstIp rules flows geo flowIds = some s₀ →
    Runs dstIpStep (fun _ _ => True) s₀ s₁ → Runs dstIpStep (fun _ _ => True) s₁ s₂ →
      ∀ r ∈ s₁.rules, InForce s₂ r.flowId

/-- Two rules are saved together for a flow that has a third one: its mark goes. -/
theorem in_force_fails : ¬AlwaysInForce := by
  intro halways
  obtain ⟨s₀,hstart⟩ : ∃ s₀, startDstIp [sampleRule 1 5] [] noGeo [0] = some s₀ :=
    isSome_iff_exists.mp (by decide +kernel)
  let lost (s : DstIpState) : Prop := sampleRule 1 5 ∈ enabledRules s.rules 0 ∧
    ∀ t ∈ (s.maps .ipv4).lookup 0, t.lookup (IpConfig.net ⟨.v4 0x1000000,8⟩) = none
  obtain ⟨s₂,hrun,hrule,hnone⟩ : ∃ s₂, Runs dstIpStep (fun _ _ => True) s₀ s₂ ∧ lost s₂ := by
    have h : ((startDstIp [sampleRule 1 5] [] noGeo [0]).all fun s =>
        (stepsWithin dstIpStep (fun _ _ => true) s
          [.checkedSetList 10 [sampleRule 2 0, sampleRule 3 0] [0]]).any
          fun s => decide (lost s)) = true := by
      decide +kernel
    rw [hstart] at h
    exact runs_of_steps _ _ _ _ h
  have hkeyed : Keyed [sampleRule 1 5] := nodup_singleton _
  have hin := halways _ _ _ _ s₀ s₂ s₂ hkeyed hstart hrun .refl _ (mem_enabledRules.mp hrule).1
  have hmark := hin.mark (c := ⟨.v4 0x1000000,8⟩) hrule mem_cons_self
  obtain ⟨t,ht,hlook⟩ := bind_eq_some_iff.mp (isSome_iff_exists.mp hmark).choose_spec
  cases (hnone t ht).symm.trans hlook

end Landscape.Flow
