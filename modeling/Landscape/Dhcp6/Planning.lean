import Landscape.Dhcp6.Delegation

/-! The address plan of all LAN interfaces: configurations are saved one at a time, and the blocks
of different groups are disjoint as long as parents on different interfaces start at the same
address or do not overlap. -/
namespace Landscape.Dhcp6
open Checks Lpm Run List Option

variable {ctx : PdPrefixContextMap} {prefixMap : IAPrefixMap} {g g' : LanPrefixGroupConfig}
  {sn sn' : SubnetState}
  {parent p p' : Ipv6Addr × UInt8} {e e' : ExpandedPrefixEntry} {a : Ipv6Addr}
  {c c' pending : LanIPv6ServiceConfigV2} {saved saved' : List LanIPv6ServiceConfigV2}

def saveStep (ctx : PdPrefixContextMap) (saved : List LanIPv6ServiceConfigV2)
    (pending : LanIPv6ServiceConfigV2) : Option (List LanIPv6ServiceConfigV2) :=
  match accepts pending saved ctx with
  | .ok () => some (buildMergedConfigs pending saved)
  | .error _ => none

/-- The prefixes of the moment are those that the checks knew. -/
def Consistent (ctx : PdPrefixContextMap) (prefixMap : IAPrefixMap) : Prop :=
  ∀ link c, ctx link = some c → c.actualPrefix = (prefixMap link).map (·.actualPrefix)

/-- The blocks that a subnet stands for: its /64 if it is advertised or used for IA_NA, and the
prefixes that can be delegated. -/
inductive Block (sn : SubnetState) : Ipv6Addr × UInt8 → Prop where
  | subnet (h : sn.hasRa ∨ sn.isNa) : Block sn (sn.subPrefix, sn.subPrefixLen)
  | delegable (r : PdRange) (idx : UInt32) (hpd : sn.pdConfig = some r) (hs : r.startIdx ≤ idx)
      (he : idx ≤ r.endIdx) :
      Block sn (computeDelegatedPrefix r.parent r.parentLen r.poolLen idx, r.poolLen)

/-- Blocks of different groups are disjoint, on one interface or on two. -/
def BlocksApart (ctx : PdPrefixContextMap) (saved : List LanIPv6ServiceConfigV2) : Prop :=
  ∀ prefixMap, Consistent ctx prefixMap → ∀ c ∈ saved, ∀ c' ∈ saved,
    ∀ sn ∈ computeSubnets c.config.prefixGroups prefixMap c.config.lifetime,
    ∀ sn' ∈ computeSubnets c'.config.prefixGroups prefixMap c'.config.lifetime,
    (c.ifaceName, sn.groupId) ≠ (c'.ifaceName, sn'.groupId) →
    ∀ p p', Block sn p → Block sn' p' → ∀ a, InPrefix a p → ¬InPrefix a p'

theorem expandedParentKey_of_consistent (hc : Consistent ctx prefixMap)
    (hv : g.validateWithPdContext (some ctx) = .ok ())
    (h : resolveParent prefixMap g.parent = some parent) :
    g.parent.expandedParentKey (some ctx) = .resolved parent.1 := by
  cases hp : g.parent with
  | static base len =>
    rw [hp] at h
    exact some.inj h ▸ rfl
  | pd link snapshot =>
    rw [hp] at h
    simp only [LanPrefixGroupConfig.validateWithPdContext, andThen_eq_ok, checkParent, hp,
      ifSome_eq_ok, reject_eq_ok, some.injEq, forall_eq'] at hv
    obtain ⟨known,hknown⟩ := ne_none_iff_exists'.mp hv.2.1.2
    simp only [resolveParent] at h
    split at h
    · rename_i actual expected hload
      obtain ⟨status,hstatus,hactual⟩ := bind_eq_some_iff.mp hload
      obtain ⟨-,hactual⟩ := ite_none_right_eq_some.mp hactual
      obtain ⟨rfl,rfl⟩ := Prod.mk.inj (some.inj hactual)
      obtain ⟨-,h⟩ := ite_none_right_eq_some.mp h
      have hlink := hc link known hknown
      rw [hstatus, map_some] at hlink
      simp only [PrefixParentSource.expandedParentKey, bind_some, hknown, hlink]
      exact some.inj h ▸ rfl
    · cases h

theorem toNat_of_checkedAllocateSubnet {idx : Nat} {sub router : Ipv6Addr}
    (hdvd : 2 ^ (128 - parent.2.toNat) ∣ parent.1.toNat)
    (h : checkedAllocateSubnet parent.1 parent.2 64 idx = some (sub, router)) :
    parent.2.toNat ≤ 64 ∧ sub.toNat = parent.1.toNat + idx * 2 ^ 64 := by
  obtain ⟨hfits,hnet,-⟩ := div_of_checkedAllocateSubnet h
  rw [subnetAt, Nat.div_mul_cancel hdvd] at hnet
  exact ⟨hfits.1,hnet⟩

theorem exists_entry_of_slot {idx : UInt32} (ctx : Option PdPrefixContextMap)
    (h : g.ra.any (·.poolIndex = idx) ∨ g.na.any (·.poolIndex = idx)) :
    ∃ e ∈ activeEntries g .slaacDhcpv6 ctx, e.startIndex = idx ∧ e.endIndex = idx ∧
    e.poolLen = 64 := by
  have hentry : ∀ kind, ⟨g.parent.expandedParentKey
    ctx,g.parent.resolvedParentPrefixLen,kind,idx,idx,64⟩ ∈
      activeEntries g .slaacDhcpv6 ctx → ∃ e ∈ activeEntries g .slaacDhcpv6 ctx,
        e.startIndex = idx ∧ e.endIndex = idx ∧ e.poolLen = 64 := fun _ he => ⟨_,he,rfl,rfl,rfl⟩
  simp only [Option.any_eq_true, decide_eq_true_eq] at h
  rcases h with ⟨ra,hra,rfl⟩ | ⟨na,hna,rfl⟩
  · exact hentry .ra (by simp [activeEntries, hra])
  · exact hentry .na (by simp [activeEntries, hna])

/-- The checks look at every block of a group, wherever its parent is. -/
theorem span_of_block (ctx : Option PdPrefixContextMap) (hfrom : FromGroup prefixMap g parent sn)
    (h64 : sn.hasRa ∨ sn.isNa → sn.subPrefixLen = 64)
    (hb : Block sn p) : ∃ e ∈ activeEntries g .slaacDhcpv6 ctx,
      ∀ a, InPrefix a p → e.lo parent.1.toNat ≤ a.toNat ∧ a.toNat < e.hi parent.1.toNat := by
  have haligned := resolveParent_aligned hfrom.resolved
  cases hb with
  | subnet h =>
    obtain ⟨idx,hidx,router,halloc⟩ := hfrom.slot (h64 h)
    obtain ⟨hlen,hnet⟩ := toNat_of_checkedAllocateSubnet haligned halloc
    obtain ⟨e,he,hs,hend,hpool⟩ := exists_entry_of_slot ctx hidx
    refine ⟨e,he,fun a ha => ?_⟩
    rw [h64 h] at ha
    have hdvd : 2 ^ 64 ∣ sn.subPrefix.toNat := by
      rw [hnet]
      exact Nat.dvd_add (Nat.dvd_trans (Nat.pow_dvd_pow 2 (by omega)) haligned)
        (Nat.dvd_mul_left _ _)
    have hblock : 128 - (64 : UInt8).toNat = 64 := rfl
    have hin : sn.subPrefix.toNat ≤ a.toNat ∧ a.toNat < sn.subPrefix.toNat + 2 ^ 64 :=
      (contains_around_iff_of_dvd hdvd).mp ha
    rw [hnet] at hin
    rw [ExpandedPrefixEntry.lo, ExpandedPrefixEntry.hi, hs, hend, hpool, hblock,
      Nat.succ_mul, ← Nat.add_assoc]
    exact hin
  | delegable r idx hpd hs he =>
    obtain ⟨e,hmem,-,hspan⟩ := exists_entry_of_pdSubnetConfig (hfrom.pd.symm.trans hpd)
    refine ⟨e,hmem,fun a ha => ?_⟩
    have hgood := good_of_pdSubnetConfig hfrom.resolved (hfrom.pd.symm.trans hpd)
    have hparent : r.parent = parent.1 := by
      obtain ⟨pd,-,hr⟩ := map_eq_some_iff.mp (hfrom.pd.symm.trans hpd)
      exact hr ▸ rfl
    rw [← (hspan _).1, ← (hspan _).2, ← hparent]
    exact hgood.span_delegated (UInt32.le_iff_toNat_le.mp hs) (UInt32.le_iff_toNat_le.mp he) ha

def SlotsApart (e e' : ExpandedPrefixEntry) : Prop :=
  ∀ i, e.globalSlotInterval = some i → ∀ i', e'.globalSlotInterval = some i' →
    i.1 > i'.2 ∨ i'.1 > i.2

theorem SlotsApart.symm (h : SlotsApart e e') : SlotsApart e' e :=
  fun i hi i' hi' => (h i' hi' i hi).symm

theorem ExpandedPrefixEntry.Fits.exists_slots (h : e.Fits) :
    ∃ first last, e.globalSlotInterval = some (first, last) ∧
    ∀ base, e.lo base = base + first * 2 ^ 64 ∧ e.hi base = base + (last + 1) * 2 ^ 64 := by
  have hpool := h.pool
  have hsplit : 2 ^ (128 - e.poolLen.toNat) = 2 ^ (64 - e.poolLen.toNat) * 2 ^ 64 := by
    rw [← Nat.pow_add]
    congr 1
    omega
  have hnone : ¬(e.poolLen = 0 ∨ e.poolLen > 64 ∨ e.startIndex > e.endIndex) := by
    have hpos := h.pos
    have horder := h.order
    have h0 : (0 : UInt8).toNat = 0 := rfl
    have h64 : (64 : UInt8).toNat = 64 := rfl
    simp only [← UInt8.toNat_inj, gt_iff_lt, UInt8.lt_iff_toNat_lt, UInt32.lt_iff_toNat_lt]
    omega
  refine ⟨_,_,if_neg hnone,fun base => ⟨?_,?_⟩⟩
  · rw [lo, hsplit, Nat.mul_assoc]
  · have hpos :=
      Nat.mul_pos (Nat.succ_pos e.endIndex.toNat) (Nat.two_pow_pos (64 - e.poolLen.toNat))
    rw [Nat.sub_add_cancel hpos, hi, hsplit, Nat.mul_assoc]

theorem SlotsApart.spansApart (h : SlotsApart e e') (hf : e.Fits) (hf' : e'.Fits) (base : Nat) :
    SpansApart e base e' base := by
  obtain ⟨first,last,hslots,hspan⟩ := hf.exists_slots
  obtain ⟨first',last',hslots',hspan'⟩ := hf'.exists_slots
  unfold SpansApart
  rw [(hspan base).1, (hspan base).2, (hspan' base).1, (hspan' base).2]
  rcases h _ hslots _ hslots' with hlt | hlt
  · exact .inr (Nat.add_le_add_left (Nat.mul_le_mul_right _ hlt) base)
  · exact .inl (Nat.add_le_add_left (Nat.mul_le_mul_right _ hlt) base)

theorem mem_sourcedEntries {configs : List LanIPv6ServiceConfigV2} {ctx : Option PdPrefixContextMap}
    (hc : c ∈ configs) (hg : g ∈ c.config.prefixGroups)
    (he : e ∈ activeEntries g .slaacDhcpv6 ctx) :
    ∃ i, (allGroups configs)[i]? = some (c.ifaceName, g) ∧
      ⟨i,c.ifaceName,g.groupId,e⟩ ∈ sourcedEntries configs ctx := by
  have hmem : (c.ifaceName, g) ∈ allGroups configs :=
    mem_flatMap.mpr ⟨c,hc,mem_map.mpr ⟨g,hg,rfl⟩⟩
  obtain ⟨i,hi⟩ := mem_iff_getElem?.mp hmem
  refine ⟨i,hi,mem_flatMap.mpr ⟨((c.ifaceName, g), i),?_,mem_map.mpr ⟨e,he,rfl⟩⟩⟩
  exact mem_zipIdx_iff_getElem?.mpr hi

def Checked (left right : SourcedEntry) : Prop :=
  left.groupInstance ≠ right.groupInstance → SlotsApart left.entry right.entry

instance : Std.Symm Checked := ⟨fun _ _ h hne => (h hne.symm).symm⟩

theorem checked_of_checkSlots {left right : SourcedEntry} (h : checkSlots left right = .ok ()) :
    Checked left right := by
  intro hne i hi i' hi'
  rw [checkSlots, if_neg (fun hsame => hne hsame.1)] at h
  simp only [ifSome_eq_ok, reject_eq_ok] at h
  exact not_not.mp (h i hi i' hi')

theorem slotsApart_of_accepts (h : validateGlobalPrefixConflicts pending saved (some ctx) = .ok ())
    (hc : c ∈ buildMergedConfigs pending saved) (hc' : c' ∈ buildMergedConfigs pending saved)
    (hne : c.ifaceName ≠ c'.ifaceName) (hg : g ∈ c.config.prefixGroups)
    (hg' : g' ∈ c'.config.prefixGroups) (he : e ∈ activeEntries g .slaacDhcpv6 (some ctx))
    (he' : e' ∈ activeEntries g' .slaacDhcpv6 (some ctx)) :
    SlotsApart e e' := by
  simp only [validateGlobalPrefixConflicts, andThen_eq_ok, checkPairs_eq_ok] at h
  have hpairs := h.2.imp checked_of_checkSlots
  obtain ⟨i,hi,hmem⟩ := mem_sourcedEntries hc hg he
  obtain ⟨i',hi',hmem'⟩ := mem_sourcedEntries hc' hg' he'
  have hinstance : i ≠ i' := by
    rintro rfl
    exact hne (congrArg Prod.fst (some.inj (hi.symm.trans hi')))
  exact hpairs.forall hmem hmem' (fun heq => hinstance (congrArg SourcedEntry.groupInstance heq))
    hinstance

def knownParent (ctx : PdPrefixContextMap) (g : LanPrefixGroupConfig) : Option (Ipv6Addr × UInt8) :=
  match g.parent.expandedParentKey (some ctx) with
  | .resolved network => some (network, g.parent.resolvedParentPrefixLen)
  | .pdFallback _ => none

def parentsFit (ctx : PdPrefixContextMap) (g g' : LanPrefixGroupConfig) : Bool :=
  match knownParent ctx g, knownParent ctx g' with
  | some p, some p' => p.1 == p'.1 || !prefixesOverlap p p'
  | _, _ => true

/-- The parents of a configuration fit those that are saved for other interfaces. -/
def fitsPlan (ctx : PdPrefixContextMap) (saved : List LanIPv6ServiceConfigV2)
    (pending : LanIPv6ServiceConfigV2) : Bool :=
  saved.all fun c => c.ifaceName == pending.ifaceName ||
    c.config.prefixGroups.all fun g => pending.config.prefixGroups.all fun g' => parentsFit ctx g g'

def ParentsApart (ctx : PdPrefixContextMap) (g g' : LanPrefixGroupConfig) : Prop :=
  ∀ p p', knownParent ctx g = some p → knownParent ctx g' = some p' → p.1 = p'.1 ∨
    p.1.toNat + 2 ^ (128 - p.2.toNat) ≤ p'.1.toNat ∨ p'.1.toNat + 2 ^ (128 - p'.2.toNat) ≤ p.1.toNat

theorem ParentsApart.symm (h : ParentsApart ctx g g') : ParentsApart ctx g' g :=
  fun p p' hp hp' => (h p' p hp' hp).imp Eq.symm Or.symm

theorem knownParent_aligned (h : knownParent ctx g = some p) :
    2 ^ (128 - p.2.toNat) ∣ p.1.toNat := by
  have hbase := (base_aligned g.parent (some ctx)).1
  unfold knownParent at h
  split at h
  · rename_i network hkey
    rw [hkey] at hbase
    exact some.inj h ▸ hbase
  · cases h

theorem parentsApart_of_parentsFit (h : parentsFit ctx g g' = true) : ParentsApart ctx g g' := by
  intro p p' hp hp'
  rw [parentsFit, hp, hp'] at h
  simp only [Bool.or_eq_true, beq_iff_eq, Bool.not_eq_true'] at h
  exact h.imp id (apart_of_not_prefixesOverlap (knownParent_aligned hp) (knownParent_aligned hp'))

structure Plan (ctx : PdPrefixContextMap) (saved : List LanIPv6ServiceConfigV2) : Prop where
  names : ∀ c ∈ saved, ∀ c' ∈ saved, c.ifaceName = c'.ifaceName → c = c'
  planned : ∀ c ∈ saved, Planned c.config.prefixGroups (some ctx)
  slots : ∀ c ∈ saved, ∀ c' ∈ saved, c.ifaceName ≠ c'.ifaceName →
    ∀ g ∈ c.config.prefixGroups, ∀ g' ∈ c'.config.prefixGroups,
      ∀ e ∈ activeEntries g .slaacDhcpv6 (some ctx),
    ∀ e' ∈ activeEntries g' .slaacDhcpv6 (some ctx), SlotsApart e e'
  parents : ∀ c ∈ saved, ∀ c' ∈ saved, c.ifaceName ≠ c'.ifaceName →
    ∀ g ∈ c.config.prefixGroups, ∀ g' ∈ c'.config.prefixGroups, ParentsApart ctx g g'

theorem Plan.exists_entry (h : Plan ctx saved) (hcons : Consistent ctx prefixMap) (hc : c ∈ saved)
    (hsn : sn ∈ computeSubnets c.config.prefixGroups prefixMap c.config.lifetime)
    (hb : Block sn p) :
    ∃ g ∈ c.config.prefixGroups, sn.groupId = g.groupId ∧
    ∃ e ∈ activeEntries g .slaacDhcpv6 (some ctx),
      ∃ network, g.parent.expandedParentKey (some ctx) = .resolved network ∧
      e.parent = .resolved network ∧
        e.parentPrefixLen = g.parent.resolvedParentPrefixLen ∧ e.Fits ∧
        ∀ a, InPrefix a p → e.lo network.toNat ≤ a.toNat ∧ a.toNat < e.hi network.toNat := by
  have hplan := h.planned c hc
  obtain ⟨g,hg,parent,hfrom,h64⟩ := own_of_mem_computeSubnets hplan.ids hsn
  obtain ⟨e,he,hspan⟩ := span_of_block (some ctx) hfrom h64 hb
  obtain ⟨hparent,hlen,-⟩ := mem_activeEntries he
  have hkey := expandedParentKey_of_consistent hcons (hplan.valid g hg) hfrom.resolved
  exact ⟨g,hg,hfrom.group,e,he,parent.1,hkey,hparent.trans hkey,hlen,
    fits_of_validate (hplan.valid g hg) he,hspan⟩

theorem ParentsApart.spansApart {network network' : Ipv6Addr} (h : ParentsApart ctx g g')
    (hslots : SlotsApart e e') (hf : e.Fits) (hf' : e'.Fits)
    (hkey : g.parent.expandedParentKey (some ctx) = .resolved network)
    (hkey' : g'.parent.expandedParentKey (some ctx) = .resolved network')
    (hlen : e.parentPrefixLen = g.parent.resolvedParentPrefixLen)
    (hlen' : e'.parentPrefixLen = g'.parent.resolvedParentPrefixLen) :
    SpansApart e network.toNat e' network'.toNat := by
  have hknown : knownParent ctx g = some (network, e.parentPrefixLen) :=
    by rw [knownParent, hkey, hlen]
  have hknown' : knownParent ctx g' = some (network', e'.parentPrefixLen) :=
    by rw [knownParent, hkey', hlen']
  rcases h _ _ hknown hknown' with heq | happ
  · obtain rfl : network = network' := heq
    exact hslots.spansApart hf hf' network.toNat
  · exact spansApart_of_networks hf hf' happ

theorem Plan.blocksApart (h : Plan ctx saved) : BlocksApart ctx saved := by
  intro prefixMap hcons c hc c' hc' sn hsn sn' hsn' hne p p' hb hb' a ha ha'
  obtain ⟨g,hg,hid,e,he,network,hkey,hparent,hlen,hf,hspan⟩ := h.exists_entry hcons hc hsn hb
  obtain ⟨g',hg',hid',e',he',network',hkey',hparent',hlen',hf',hspan'⟩ :=
    h.exists_entry hcons hc' hsn' hb'
  have hapart : SpansApart e network.toNat e' network'.toNat := by
    by_cases hname : c.ifaceName = c'.ifaceName
    · -- one interface: its own checks have compared the addresses
      obtain rfl := h.names c hc c' hc' hname
      have hgroups : g ≠ g' := by
        rintro rfl
        exact hne (Prod.ext rfl (hid.trans hid'.symm))
      have hcomp : parentsAreComparable e e' = true :=
        by rw [parentsAreComparable, hparent, hparent']
      have happ := (h.planned c hc).apart g hg g' hg' hgroups e he e' he' hcomp
      rw [hparent, hparent'] at happ
      exact happ
    · exact (h.parents c hc c' hc' hname g hg g' hg').spansApart
        (h.slots c hc c' hc' hname g hg g' hg' e he e' he') hf hf' hkey hkey' hlen hlen'
  have hin := hspan a ha
  have hin' := hspan' a ha'
  unfold SpansApart at hapart
  omega

theorem mem_buildMergedConfigs : c ∈ buildMergedConfigs pending saved ↔
    c ∈ saved ∧ c.ifaceName ≠ pending.ifaceName ∨ c = pending := by
  simp [buildMergedConfigs]

theorem fits_of_fitsPlan (h : fitsPlan ctx saved pending = true) (hc : c ∈ saved)
    (hne : c.ifaceName ≠ pending.ifaceName) (hg : g ∈ c.config.prefixGroups)
    (hg' : g' ∈ pending.config.prefixGroups) : ParentsApart ctx g g' := by
  have hc' := all_eq_true.mp h c hc
  rw [beq_false_of_ne hne, Bool.false_or] at hc'
  exact parentsApart_of_parentsFit (all_eq_true.mp (all_eq_true.mp hc' g hg) g' hg')

theorem accepts_eq_ok : accepts pending saved ctx = .ok () ↔
    validateGlobalPrefixConflicts pending saved (some ctx) = .ok () ∧
      pending.config.validateWithPdContext (some ctx) = .ok () := by
  unfold accepts
  cases pending.config.validateWithPdContext (some ctx) <;> simp [Except.mapError]

/-- A save compares all slots again, and its own addresses; the parents are compared by the
condition. -/
theorem Plan.step (h : Plan ctx saved) (hfits : fitsPlan ctx saved pending = true)
    (hs : saveStep ctx saved pending = some saved') : Plan ctx saved' := by
  unfold saveStep at hs
  split at hs
  · rename_i hok
    obtain rfl := some.inj hs
    obtain ⟨hglobal,hown⟩ := accepts_eq_ok.mp hok
    simp only [LanIPv6ConfigV2.validateWithPdContext, andThen_eq_ok] at hown
    have hplanned := planned_of_validate hown.1
    refine ⟨?_,?_,?_,?_⟩
    · intro c hc c' hc' hname
      rcases mem_buildMergedConfigs.mp hc with ⟨hc,hne⟩ | rfl
      · rcases mem_buildMergedConfigs.mp hc' with ⟨hc',-⟩ | rfl
        · exact h.names c hc c' hc' hname
        · exact absurd hname hne
      · rcases mem_buildMergedConfigs.mp hc' with ⟨-,hne'⟩ | rfl
        · exact absurd hname.symm hne'
        · rfl
    · intro c hc
      rcases mem_buildMergedConfigs.mp hc with ⟨hc,-⟩ | rfl
      · exact h.planned c hc
      · exact hplanned
    · intro c hc c' hc' hname g hg g' hg' e he e' he'
      exact slotsApart_of_accepts hglobal hc hc' hname hg hg' he he'
    · intro c hc c' hc' hname g hg g' hg'
      rcases mem_buildMergedConfigs.mp hc with ⟨hold,hne⟩ | rfl
      · rcases mem_buildMergedConfigs.mp hc' with ⟨hold',-⟩ | rfl
        · exact h.parents c hold c' hold' hname g hg g' hg'
        · exact fits_of_fitsPlan hfits hold hne hg hg'
      · rcases mem_buildMergedConfigs.mp hc' with ⟨hold',hne'⟩ | rfl
        · exact (fits_of_fitsPlan hfits hold' hne' hg' hg).symm
        · exact absurd rfl hname
  · cases hs

/-- If the parents of each configuration that is saved fit those of the other interfaces, the blocks
of different groups are disjoint after every save. -/
theorem blocksApart_of_fitsPlan
    (hr : Runs (saveStep ctx) (fun saved pending => fitsPlan ctx saved pending = true) [] saved) :
    BlocksApart ctx saved := by
  have hstart : Plan ctx [] :=
    ⟨fun _ h => (nomatch h),fun _ h => (nomatch h),fun _ h => (nomatch h),fun _ h => (nomatch h)⟩
  exact (hr.invariant (Plan ctx) (fun _ _ _ h hfits hs => h.step hfits hs) hstart).blocksApart

def advertising (ifaceName : String) (base : Ipv6Addr) (len : UInt8) (poolIndex : UInt32) :
    LanIPv6ServiceConfigV2 :=
  ⟨ifaceName,⟨.slaac,300,⟨false,false⟩,[⟨"lan",.static base len,some ⟨poolIndex⟩,none,none⟩],none⟩⟩

theorem blocksApart_sample : ∃ saved,
    Runs (saveStep fun _ => none)
      (fun saved pending => fitsPlan (fun _ => none) saved pending = true) [] saved ∧
      saved.length = 2 ∧ BlocksApart (fun _ => none) saved := by
  refine runs_and (runs_of_decide _ _
    [advertising "br0" 0xfd000000_00000000_00000000_00000000 56 17,
    advertising "br1" 0xfd000000_00000000_00000000_00000000 56 18] _ _ (by decide +kernel)) ?_
  exact fun _ hrun _ => blocksApart_of_fitsPlan hrun

def AlwaysBlocksApart : Prop :=
  ∀ (ctx : PdPrefixContextMap) (saved : List LanIPv6ServiceConfigV2),
    Runs (saveStep ctx) (fun _ _ => True) [] saved → BlocksApart ctx saved

def wide : LanIPv6ServiceConfigV2 := advertising "br0" 0xfd000000_00000000_00000000_00000000 56 17

def narrow : LanIPv6ServiceConfigV2 := advertising "br1" 0xfd000000_00000010_00000000_00000000 60 1

theorem exists_block {net : Ipv6Addr}
    (h : (computeSubnets c.config.prefixGroups prefixMap c.config.lifetime).any
    (fun sn => sn.hasRa && sn.subPrefix == net && sn.subPrefixLen == 64) = true) :
    ∃ sn ∈ computeSubnets c.config.prefixGroups prefixMap c.config.lifetime,
    Block sn (net, 64) := by
  obtain ⟨sn,hmem,hsn⟩ := any_eq_true.mp h
  simp only [Bool.and_eq_true, beq_iff_eq] at hsn
  obtain ⟨⟨hra,rfl⟩,hlen⟩ := hsn
  exact ⟨sn,hmem,hlen ▸ Block.subnet (.inl hra)⟩

/-- Slots are compared whatever the parents are, so both interfaces advertise the same /64. -/
theorem blocksApart_fails : ¬AlwaysBlocksApart := by
  intro h
  obtain ⟨saved,hrun,rfl⟩ :=
    runs_of_steps (saveStep fun _ => none) [] [wide, narrow] (· = [wide, narrow])
    (by decide +kernel)
  have hnone : Consistent (fun _ => none) fun _ => none := fun _ _ hlink => (nomatch hlink)
  obtain ⟨sn,hsn,hb⟩ : ∃ sn ∈ computeSubnets wide.config.prefixGroups (fun _ => none)
    wide.config.lifetime,
      Block sn (0xfd000000_00000011_00000000_00000000, 64) := exists_block (by decide +kernel)
  obtain ⟨sn',hsn',hb'⟩ : ∃ sn ∈ computeSubnets narrow.config.prefixGroups (fun _ => none)
    narrow.config.lifetime,
      Block sn (0xfd000000_00000011_00000000_00000000, 64) := exists_block (by decide +kernel)
  have hnames : wide.ifaceName ≠ narrow.ifaceName := by decide
  have hin : InPrefix 0xfd000000_00000011_00000000_00000000
      (0xfd000000_00000011_00000000_00000000, 64) := by
    decide
  exact h _ _ hrun _ hnone wide (by simp) narrow (by simp) sn hsn sn' hsn'
    (fun heq => hnames (congrArg Prod.fst heq)) _ _ hb hb' _ hin hin

end Landscape.Dhcp6
