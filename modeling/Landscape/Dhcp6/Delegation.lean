import Landscape.Dhcp6.Blocks
import Landscape.Dhcp6.Pd

/-! Delegated prefixes are within their parents and do not overlap, as long as the parents of groups
that are fed from different sources do not. -/
namespace Landscape.Dhcp6
open Lpm Run Option

variable {s s' : PdStatus} {duid : Duid} {key : PdSlotKey} {a : Ipv6Addr} {p : Route}
  {r r' : PdRange} {g g' : LanPrefixGroupConfig} {groups : List LanPrefixGroupConfig}
  {prefixMap : IAPrefixMap} {parent parent' : Ipv6Addr × UInt8} {idx : UInt32} {lifetime : UInt32}

def InPrefix (a : Ipv6Addr) (p : Route) : Prop := (Net.around p.2.toNat p.1).Contains a

instance (a : Ipv6Addr) (p : Route) : Decidable (InPrefix a p) :=
  inferInstanceAs (Decidable ((Net.around p.2.toNat p.1).Contains a))

def PdRange.entry (r : PdRange) : ExpandedPrefixEntry :=
  ⟨.resolved r.parent,r.parentLen,.iaPd,r.startIdx,r.endIdx,r.poolLen⟩

structure PdRange.Good (r : PdRange) : Prop where
  fits : r.entry.Fits
  aligned : 2 ^ (128 - r.parentLen.toNat) ∣ r.parent.toNat

section
variable (h : r.Good) (hidx : idx.toNat ≤ r.endIdx.toNat)
include h hidx

theorem PdRange.Good.mul_lt :
    idx.toNat * 2 ^ (128 - r.poolLen.toNat) < 2 ^ (128 - r.parentLen.toNat) := by
  have hhi := h.fits.hi_le 0
  have hle := Nat.mul_le_mul_right (2 ^ (128 - r.poolLen.toNat)) hidx
  have hpos := Nat.two_pow_pos (128 - r.poolLen.toNat)
  simp only [ExpandedPrefixEntry.hi, PdRange.entry, Nat.zero_add, Nat.succ_mul] at hhi
  omega

theorem PdRange.Good.toNat_delegated :
    (computeDelegatedPrefix r.parent r.parentLen r.poolLen idx).toNat =
      r.parent.toNat + idx.toNat * 2 ^ (128 - r.poolLen.toNat) := by
  have hmask : ¬r.parentLen ≥ 128 := by
    have hparent := h.fits.parent
    have hpool := h.fits.pool
    simp only [PdRange.entry] at hparent hpool
    have h128 : (128 : UInt8).toNat = 128 := rfl
    rw [ge_iff_le, UInt8.le_iff_toNat_le]
    omega
  have hnet : r.parent &&& (BitVec.allOnes 128 <<< (128 - r.parentLen.toNat)) = r.parent := by
    apply BitVec.eq_of_toNat_eq
    rw [toNat_and_mask, Nat.div_mul_cancel h.aligned]
  unfold computeDelegatedPrefix
  dsimp only
  rw [if_neg hmask, hnet]
  exact toNat_or_shiftLeft _ h.aligned (h.mul_lt hidx) (Nat.sub_le _ _)

theorem PdRange.Good.inPrefix_delegated :
    InPrefix a (computeDelegatedPrefix r.parent r.parentLen r.poolLen idx, r.poolLen) ↔
      r.parent.toNat + idx.toNat * 2 ^ (128 - r.poolLen.toNat) ≤ a.toNat ∧
      a.toNat < r.parent.toNat + idx.toNat * 2 ^ (128 - r.poolLen.toNat) + 2 ^
      (128 - r.poolLen.toNat) := by
  have hdvd : 2 ^ (128 - r.poolLen.toNat) ∣
      (computeDelegatedPrefix r.parent r.parentLen r.poolLen idx).toNat := by
    rw [h.toNat_delegated hidx]
    have hparent := h.fits.parent
    simp only [PdRange.entry] at hparent
    exact Nat.dvd_add (Nat.dvd_trans (Nat.pow_dvd_pow 2 (by omega)) h.aligned)
      (Nat.dvd_mul_left _ _)
  unfold InPrefix
  rw [contains_around_iff_of_dvd hdvd, h.toNat_delegated hidx]

end

theorem PdRange.Good.span_delegated (h : r.Good) (hs : r.startIdx.toNat ≤ idx.toNat)
    (hidx : idx.toNat ≤ r.endIdx.toNat)
    (ha : InPrefix a (computeDelegatedPrefix r.parent r.parentLen r.poolLen idx, r.poolLen)) :
    r.entry.lo r.parent.toNat ≤ a.toNat ∧ a.toNat < r.entry.hi r.parent.toNat := by
  rw [h.inPrefix_delegated hidx] at ha
  have hlo := Nat.mul_le_mul_right (2 ^ (128 - r.poolLen.toNat)) hs
  have hhi := Nat.mul_le_mul_right (2 ^ (128 - r.poolLen.toNat)) hidx
  simp only [ExpandedPrefixEntry.lo, ExpandedPrefixEntry.hi, PdRange.entry, Nat.succ_mul]
  omega

theorem PdRange.Good.inPrefix_parent (h : r.Good) : InPrefix a (r.parent, r.parentLen) ↔
    r.parent.toNat ≤ a.toNat ∧ a.toNat < r.parent.toNat + 2 ^ (128 - r.parentLen.toNat) :=
  contains_around_iff_of_dvd h.aligned

def rangeOf (s : PdStatus) (groupId : String) : Option PdRange :=
  s.pdConfig.bind fun config =>
    s.pdRanges.find? fun r => r.groupId = groupId && r.poolLen ≤ config.delegatePrefixLen

theorem mem_of_rangeOf {groupId : String} (h : rangeOf s groupId = some r) :
    r ∈ s.pdRanges ∧ r.groupId = groupId := by
  obtain ⟨config,-,h⟩ := bind_eq_some_iff.mp h
  refine ⟨List.mem_of_find?_eq_some h,?_⟩
  have hp := List.find?_some h
  simp only [Bool.and_eq_true, decide_eq_true_eq] at hp
  exact hp.1

theorem resolvePdKey_some (h : resolvePdKey s key = some p) : ∃ r, rangeOf s key.1 = some r ∧
    r.startIdx.toNat ≤ key.2.toNat ∧ key.2.toNat ≤ r.endIdx.toNat ∧
    p = (computeDelegatedPrefix r.parent r.parentLen r.poolLen key.2, r.poolLen) := by
  obtain ⟨config,hconfig,h⟩ := bind_eq_some_iff.mp h
  obtain ⟨r,hr,h⟩ := bind_eq_some_iff.mp h
  have hrange : rangeOf s key.1 = some r := by
    rw [rangeOf, hconfig]
    exact hr
  refine ⟨r,hrange,?_⟩
  unfold resolvePdPrefix at h
  rw [List.find?_cons_of_pos (by simp [(mem_of_rangeOf hrange).2]), bind_some] at h
  split at h
  · cases h
  split at h
  · cases h
  · rename_i hbounds
    obtain ⟨-,h⟩ := ite_none_left_eq_some.mp h
    simp only [not_or, gt_iff_lt, UInt32.lt_iff_toNat_lt] at hbounds
    exact ⟨by omega,by omega,(some.inj h).symm⟩

/-- Slots and leases agree; prefixes of different clients are disjoint, and each one is within the
parent of its group. -/
structure Delegates (s : PdStatus) : Prop where
  inverse : Inverse s
  disjoint : ∀ d d' p p', d ≠ d' → getPdPrefix s d = some p → getPdPrefix s d' = some p' →
    ∀ a, InPrefix a p → ¬InPrefix a p'
  contained : ∀ d l p, s.pdLeasesByDuid.lookup d = some l → resolvePdKey s l.key = some p →
    ∃ r, rangeOf s l.groupId = some r ∧ ∀ a, InPrefix a p → InPrefix a (r.parent, r.parentLen)

structure RangesGood (ranges : List PdRange) : Prop where
  good : ∀ r ∈ ranges, r.Good
  apart : ∀ r ∈ ranges, ∀ r' ∈ ranges, r.groupId ≠ r'.groupId →
    SpansApart r.entry r.parent.toNat r'.entry r'.parent.toNat

theorem PdRange.Good.delegated_apart {idx' : UInt32} (h : r.Good)
    (hidx : idx.toNat ≤ r.endIdx.toNat) (hidx' : idx'.toNat ≤ r.endIdx.toNat)
    (hne : idx.toNat ≠ idx'.toNat)
    (ha : InPrefix a (computeDelegatedPrefix r.parent r.parentLen r.poolLen idx, r.poolLen)) :
    ¬InPrefix a (computeDelegatedPrefix r.parent r.parentLen r.poolLen idx', r.poolLen) := by
  rw [h.inPrefix_delegated hidx] at ha
  rw [h.inPrefix_delegated hidx']
  rcases Nat.lt_or_gt_of_ne hne with hlt | hlt
  · have hle := mul_add_le hlt (2 ^ (128 - r.poolLen.toNat))
    omega
  · have hle := mul_add_le hlt (2 ^ (128 - r.poolLen.toNat))
    omega

theorem delegates_of_rangesGood (hi : Inverse s) (hr : RangesGood s.pdRanges) : Delegates s := by
  refine ⟨hi,?_,?_⟩
  · intro d d' p p' hne hp hp' a ha
    obtain ⟨l,hl,hp⟩ := bind_eq_some_iff.mp hp
    obtain ⟨l',hl',hp'⟩ := bind_eq_some_iff.mp hp'
    obtain ⟨r,hrange,hs,he,rfl⟩ := resolvePdKey_some hp
    obtain ⟨r',hrange',hs',he',rfl⟩ := resolvePdKey_some hp'
    obtain ⟨hmem,hid⟩ := mem_of_rangeOf hrange
    obtain ⟨hmem',hid'⟩ := mem_of_rangeOf hrange'
    by_cases hgroup : l.groupId = l'.groupId
    · -- one group: the slots are different
      have heq : r = r' := by
        have hsame : rangeOf s l.key.1 = rangeOf s l'.key.1 := congrArg (rangeOf s) hgroup
        exact some.inj (hrange.symm.trans (hsame.trans hrange'))
      subst heq
      refine (hr.good r hmem).delegated_apart he he' ?_ ha
      intro hidx
      have hkey : l.key = l'.key := Prod.ext hgroup (UInt32.toNat_inj.mp hidx)
      have hown := (hi l.key d).mpr ⟨l,hl,rfl⟩
      have hown' := (hi l.key d').mpr ⟨l',hl',hkey.symm⟩
      exact hne (some.inj (hown.symm.trans hown'))
    · intro ha'
      have hapart := hr.apart r hmem r' hmem' fun heq => hgroup (hid.symm.trans (heq.trans hid'))
      have hspan := (hr.good r hmem).span_delegated hs he ha
      have hspan' := (hr.good r' hmem').span_delegated hs' he' ha'
      unfold SpansApart at hapart
      omega
  · intro d l p hl hp
    obtain ⟨r,hrange,hs,he,rfl⟩ := resolvePdKey_some hp
    have hgood := hr.good r (mem_of_rangeOf hrange).1
    refine ⟨r,hrange,fun a ha => ?_⟩
    have hspan := hgood.span_delegated hs he ha
    have hhi := hgood.fits.hi_le r.parent.toNat
    rw [hgood.inPrefix_parent]
    simp only [ExpandedPrefixEntry.lo, PdRange.entry] at hspan hhi
    omega

theorem fits_of_validPd {pd : PdPrefixRangeConfig} {key : ExpandedParentKey} {len : UInt8}
    (h : validPd g len = some pd) :
    (⟨key,len,.iaPd,pd.startIndex,pd.endIndex,pd.poolLen⟩ : ExpandedPrefixEntry).Fits := by
  have hvalid := (filter_eq_some_iff.mp h).2
  simp only [Bool.and_eq_true, decide_eq_true_eq, gt_iff_lt, UInt8.le_iff_toNat_le,
    UInt8.lt_iff_toNat_lt, UInt32.le_iff_toNat_le] at hvalid
  obtain ⟨⟨⟨hpool,hparent⟩,horder⟩,hlimit⟩ := hvalid
  have h64 : (64 : UInt8).toNat = 64 := rfl
  exact ⟨Nat.zero_lt_of_lt hparent,hpool,hparent,horder,Nat.lt_of_lt_of_le hlimit
    (blockLimit_le (by omega))⟩

/-- A range of a recomputation is that of a group whose parent is there. -/
theorem exists_group_of_range (hids : (groups.map (·.groupId)).Nodup)
    (h : r ∈ pdRangesOf (computeSubnets groups prefixMap lifetime)) :
    ∃ g ∈ groups, ∃ parent, resolveParent prefixMap g.parent = some parent ∧
    pdSubnetConfig g parent = some r := by
  rcases mem_foldl_addRange h with h | ⟨sn,hsn,hpd⟩
  · cases h
  · obtain ⟨g,hg,parent,hfrom,-⟩ := own_of_mem_computeSubnets hids hsn
    exact ⟨g,hg,parent,hfrom.resolved,hfrom.pd.symm.trans hpd⟩

theorem good_of_pdSubnetConfig (hparent : resolveParent prefixMap g.parent = some parent)
    (h : pdSubnetConfig g parent = some r) : r.Good := by
  obtain ⟨pd,hpd,rfl⟩ := map_eq_some_iff.mp h
  exact ⟨fits_of_validPd hpd,resolveParent_aligned hparent⟩

/-- The checks look at the range of a group, wherever its parent is. -/
theorem exists_entry_of_pdSubnetConfig {ctx : Option PdPrefixContextMap}
    (h : pdSubnetConfig g parent = some r) :
    ∃ e ∈ activeEntries g .slaacDhcpv6 ctx, e.parent = g.parent.expandedParentKey ctx ∧
      ∀ base, r.entry.lo base = e.lo base ∧ r.entry.hi base = e.hi base := by
  obtain ⟨pd,hpd,rfl⟩ := map_eq_some_iff.mp h
  have hgroup := (filter_eq_some_iff.mp hpd).1
  refine ⟨⟨g.parent.expandedParentKey ctx,g.parent.resolvedParentPrefixLen,.iaPd,pd.startIndex,
    pd.endIndex,pd.poolLen⟩,?_,rfl,fun _ => ⟨rfl,rfl⟩⟩
  simp [activeEntries, hgroup]

def overlapping (prefixMap : IAPrefixMap) (g g' : LanPrefixGroupConfig) : Bool :=
  match resolveParent prefixMap g.parent, resolveParent prefixMap g'.parent with
  | some parent, some parent' => prefixesOverlap parent parent'
  | _, _ => false

/-- Groups that delegate from different sources have parents that do not overlap. -/
def sourcesApart (groups : List LanPrefixGroupConfig) (prefixMap : IAPrefixMap) : Bool :=
  groups.all fun g => groups.all fun g' =>
    decide (g.parent.source = g'.parent.source) || g.pd.isNone || g'.pd.isNone ||
      !overlapping prefixMap g g'

theorem spansApart_of_parents (hr : r.Good) (hr' : r'.Good)
    (h : prefixesOverlap (r.parent, r.parentLen) (r'.parent, r'.parentLen) = false) :
    SpansApart r.entry r.parent.toNat r'.entry r'.parent.toNat :=
  spansApart_of_networks hr.fits hr'.fits (apart_of_not_prefixesOverlap hr.aligned hr'.aligned h)

/-- Ranges whose parents come from one source: the checks of the interface have compared them, at 0
if the prefix of the link was not known. -/
theorem spansApart_of_planned (hplan : Planned groups none) (hg : g ∈ groups) (hg' : g' ∈ groups)
    (hne : g ≠ g') (hsource : g.parent.source = g'.parent.source)
    (hparent : resolveParent prefixMap g.parent = some parent)
    (hparent' : resolveParent prefixMap g'.parent = some parent')
    (hr : pdSubnetConfig g parent = some r) (hr' : pdSubnetConfig g' parent' = some r') :
    SpansApart r.entry parent.1.toNat r'.entry parent'.1.toNat := by
  obtain ⟨e,he,hkey,hspan⟩ := exists_entry_of_pdSubnetConfig hr
  obtain ⟨e',he',hkey',hspan'⟩ := exists_entry_of_pdSubnetConfig hr'
  have happ := hplan.apart g hg g' hg' hne e he e' he'
  rw [parentsAreComparable, hkey, hkey'] at happ
  have hgoal : SpansApart e parent.1.toNat e' parent'.1.toNat := by
    cases hp : g.parent with
    | static base len =>
      cases hp' : g'.parent with
      | static base' len' =>
        rw [hp] at hparent happ
        rw [hp'] at hparent' happ
        exact some.inj hparent ▸ some.inj hparent' ▸ happ rfl
      | pd link' snapshot' =>
        rw [hp, hp'] at hsource
        cases hsource
    | pd link snapshot =>
      cases hp' : g'.parent with
      | static base' len' =>
        rw [hp, hp'] at hsource
        cases hsource
      | pd link' snapshot' =>
        rw [hp, hp'] at hsource
        obtain rfl := SubnetSource.pd.inj hsource
        rw [hp] at hparent happ
        rw [hp'] at hparent' happ
        have hsame := some.inj ((resolveParent_pd hparent).symm.trans (resolveParent_pd hparent'))
        rw [hsame]
        exact (happ (decide_eq_true rfl)).shift
  unfold SpansApart at hgoal ⊢
  rw [(hspan _).1, (hspan _).2, (hspan' _).1, (hspan' _).2]
  exact hgoal

theorem rangesGood_of_planned (hplan : Planned groups none)
    (hsources : sourcesApart groups prefixMap = true) :
    RangesGood (pdRangesOf (computeSubnets groups prefixMap lifetime)) := by
  refine ⟨?_,?_⟩
  · intro r hr
    obtain ⟨g,-,parent,hparent,hpd⟩ := exists_group_of_range hplan.ids hr
    exact good_of_pdSubnetConfig hparent hpd
  · intro r hr r' hr' hid
    obtain ⟨g,hg,parent,hparent,hpd⟩ := exists_group_of_range hplan.ids hr
    obtain ⟨g',hg',parent',hparent',hpd'⟩ := exists_group_of_range hplan.ids hr'
    have hgood := good_of_pdSubnetConfig hparent hpd
    have hgood' := good_of_pdSubnetConfig hparent' hpd'
    have hpair := List.all_eq_true.mp (List.all_eq_true.mp hsources g hg) g' hg'
    obtain ⟨pd,hvalid,rfl⟩ := map_eq_some_iff.mp hpd
    obtain ⟨pd',hvalid',rfl⟩ := map_eq_some_iff.mp hpd'
    by_cases hsource : g.parent.source = g'.parent.source
    · refine spansApart_of_planned hplan hg hg' ?_ hsource hparent hparent' hpd hpd'
      exact fun heq => hid (congrArg LanPrefixGroupConfig.groupId heq)
    · rw [(filter_eq_some_iff.mp hvalid).1, (filter_eq_some_iff.mp hvalid').1,
        decide_eq_false hsource, overlapping, hparent, hparent'] at hpair
      exact spansApart_of_parents hgood hgood' (Bool.not_eq_true' _ ▸ hpair)

/-- The groups of a recomputation have passed the checks of the interface. -/
def Accepted : PdEvent → Prop
  | .recomputeAndDiff groups _ => validatePrefixGroups groups = .ok ()
  | _ => True

/-- And those that delegate from different sources have parents that do not overlap at that
moment. -/
def AcceptedApart : PdEvent → Prop
  | .recomputeAndDiff groups prefixMap =>
    validatePrefixGroups groups = .ok () ∧ sourcesApart groups prefixMap = true
  | _ => True

theorem pdRanges_newPdLease (now : Nat) : (newPdLease now duid s).2.pdRanges = s.pdRanges := by
  unfold newPdLease
  split
  · rfl
  · split <;> rfl

theorem pdRanges_offerPd (now : Nat) : (offerPd now duid s).2.pdRanges = s.pdRanges := by
  unfold offerPd
  split
  · rfl
  · split
    · split
      · rfl
      · exact pdRanges_newPdLease now
    · exact pdRanges_newPdLease now

theorem pdRanges_confirmPd (now : Nat) : (confirmPd now duid s).2.pdRanges = s.pdRanges := by
  unfold confirmPd
  split
  · rfl
  · split <;> rfl

theorem pdRanges_releasePd : (releasePd duid s).2.pdRanges = s.pdRanges := by
  unfold releasePd
  split <;> rfl

theorem pdRanges_releaseAll (ds : List Duid) (s : PdStatus) :
    (releaseAll ds s).2.pdRanges = s.pdRanges := by
  induction ds generalizing s with
  | nil => rfl
  | cons d ds ih => exact (ih _).trans pdRanges_releasePd

theorem RangesGood.step {e : PdEvent} (h : RangesGood s.pdRanges) (he : AcceptedApart e)
    (hs : pdStep s e = some s') : RangesGood s'.pdRanges := by
  cases e with
  | offerPd now duid =>
    obtain rfl := some.inj hs
    rw [pdRanges_offerPd]
    exact h
  | confirmPd now duid =>
    obtain rfl := some.inj hs
    rw [pdRanges_confirmPd]
    exact h
  | releasePd duid =>
    obtain rfl := some.inj hs
    rw [pdRanges_releasePd]
    exact h
  | cleanExpiredPd now =>
    obtain rfl := some.inj hs
    rw [cleanExpiredPd, pdRanges_releaseAll]
    exact h
  | recomputeAndDiff groups prefixMap =>
    obtain rfl := some.inj hs
    exact rangesGood_of_planned (planned_of_validate he.1) he.2

/-- As long as the parents of groups that delegate from different sources do not overlap, slots and
leases agree and the prefixes of different clients are disjoint and within their parents. -/
theorem delegates_of_sourcesApart {pdConfig : Option DHCPv6IAPDConfig} {preferred valid : UInt32}
    (hr : Runs pdStep (fun _ e => AcceptedApart e) (PdStatus.new pdConfig preferred valid) s) :
    Delegates s := by
  have hstart : Inverse (PdStatus.new pdConfig preferred valid) ∧
      RangesGood (PdStatus.new pdConfig preferred valid).pdRanges :=
    ⟨inverse_new valid,fun _ h => (nomatch h),fun _ h => (nomatch h)⟩
  have hinv := hr.invariant (fun s => Inverse s ∧ RangesGood s.pdRanges)
    (fun _ _ _ h he hs => ⟨h.1.step hs,h.2.step he hs⟩) hstart
  exact delegates_of_rangesGood hinv.1 hinv.2

instance : (e : PdEvent) → Decidable (AcceptedApart e)
  | .recomputeAndDiff groups prefixMap =>
    inferInstanceAs (Decidable (validatePrefixGroups groups = .ok () ∧
      sourcesApart groups prefixMap = true))
  | .offerPd .. | .confirmPd .. | .releasePd _ | .cleanExpiredPd _ => .isTrue trivial

instance : (e : PdEvent) → Decidable (Accepted e)
  | .recomputeAndDiff groups _ => inferInstanceAs (Decidable (validatePrefixGroups groups = .ok ()))
  | .offerPd .. | .confirmPd .. | .releasePd _ | .cleanExpiredPd _ => .isTrue trivial

def staticGroup : LanPrefixGroupConfig :=
  ⟨"static",.static 0x20010db8_00000010_00000000_00000000 60,none,none,some ⟨64,1,1⟩⟩

def linkGroup : LanPrefixGroupConfig := ⟨"link",.pd 1 56,none,none,some ⟨64,17,17⟩⟩

def linkPrefix (ip : Ipv6Addr) : IAPrefixMap :=
  fun link => if link = 1 then some (.new 56 ⟨300,600,56,ip,0⟩) else none

def twoClients (ip : Ipv6Addr) : List PdEvent :=
  [.recomputeAndDiff [staticGroup, linkGroup] (linkPrefix ip), .offerPd 0 [1], .confirmPd 0 [1],
    .offerPd 0 [2], .confirmPd 0 [2]]

/-- With 2001:db8:1::/56 on the link, each client has a prefix of its own. -/
theorem delegates_sample : ∃ s,
    Runs pdStep (fun _ e => AcceptedApart e) (.new (some ⟨64,300,600⟩) 300 600) s ∧
      (getPdPrefix s [1]).isSome ∧ (getPdPrefix s [2]).isSome ∧ Delegates s := by
  obtain ⟨s,hrun,h₁,h₂⟩ := runs_of_decide pdStep (.new (some ⟨64,300,600⟩) 300 600)
    (twoClients 0x20010db8_00010000_00000000_00000000)
    (fun s => (getPdPrefix s [1]).isSome ∧ (getPdPrefix s [2]).isSome) (fun _ e => AcceptedApart e)
      (by decide +kernel)
  exact ⟨s,hrun,h₁,h₂,delegates_of_sourcesApart hrun⟩

def AlwaysDelegates : Prop :=
  ∀ (pdConfig : Option DHCPv6IAPDConfig) (preferred valid : UInt32) (s : PdStatus),
    Runs pdStep (fun _ e => Accepted e) (.new pdConfig preferred valid) s → Delegates s

/-- With 2001:db8::/56 on the link, both clients are given 2001:db8:0:11::/64: the checks do not
compare a static parent with one that is not known yet. -/
theorem delegates_fails : ¬AlwaysDelegates := by
  intro h
  obtain ⟨s,hrun,h₁,h₂⟩ := runs_of_decide pdStep (.new (some ⟨64,300,600⟩) 300 600)
    (twoClients 0x20010db8_00000000_00000000_00000000)
    (fun s => getPdPrefix s [1] = some (0x20010db8_00000011_00000000_00000000, 64) ∧
      getPdPrefix s [2] = some (0x20010db8_00000011_00000000_00000000, 64)) (fun _ e => Accepted e)
        (by decide +kernel)
  have hin : InPrefix 0x20010db8_00000011_00000000_00000000
      (0x20010db8_00000011_00000000_00000000, 64) := by
    decide
  exact (h _ _ _ s hrun).disjoint [1] [2] _ _ (by decide) h₁ h₂ _ hin hin

end Landscape.Dhcp6
