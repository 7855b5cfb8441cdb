import Landscape.Dhcp6.Allocate

/-! The address blocks of prefix groups as ranges of numbers, and what the checks say about them. -/
namespace Landscape.Dhcp6
open Checks Lpm List Option UInt8

variable {ip : Ipv6Addr} {len : UInt8} {e e' : ExpandedPrefixEntry} {base base' : Nat}
  {g g' : LanPrefixGroupConfig} {ctx : Option PdPrefixContextMap} {parentLen : UInt8}
  {mode : IPv6ServiceMode} {n n' : Nat}

theorem toNat_normalizePrefix : (normalizePrefix ip len).toNat =
    ip.toNat / 2 ^ (128 - len.toNat) * 2 ^ (128 - len.toNat) := by
  unfold normalizePrefix
  split
  · rename_i h0
    subst h0
    rw [show 128 - (0 : UInt8).toNat = 128 from rfl, Nat.div_eq_of_lt ip.isLt, Nat.zero_mul]
    rfl
  · split
    · rename_i h128
      have hlen : 128 - len.toNat = 0 := by
        have := le_iff_toNat_le.mp h128
        have h : (128 : UInt8).toNat = 128 := rfl
        omega
      simp [hlen]
    · exact toNat_and_mask

theorem dvd_normalizePrefix : 2 ^ (128 - len.toNat) ∣ (normalizePrefix ip len).toNat := by
  rw [toNat_normalizePrefix]
  exact Nat.dvd_mul_left _ _

theorem normalizePrefix_of_dvd (h : 2 ^ (128 - len.toNat) ∣ ip.toNat) :
    normalizePrefix ip len = ip := by
  apply BitVec.eq_of_toNat_eq
  rw [toNat_normalizePrefix, Nat.div_mul_cancel h]

theorem normalizePrefix_normalizePrefix {len len' : UInt8} (h : len ≤ len') :
    normalizePrefix (normalizePrefix ip len) len' = normalizePrefix ip len := by
  apply normalizePrefix_of_dvd
  have hle := le_iff_toNat_le.mp h
  exact Nat.dvd_trans (Nat.pow_dvd_pow 2 (by omega)) dvd_normalizePrefix

structure ExpandedPrefixEntry.Fits (e : ExpandedPrefixEntry) : Prop where
  pos : 0 < e.poolLen.toNat
  pool : e.poolLen.toNat ≤ 64
  parent : e.parentPrefixLen.toNat < e.poolLen.toNat
  order : e.startIndex.toNat ≤ e.endIndex.toNat
  capacity : e.endIndex.toNat < 2 ^ (e.poolLen.toNat - e.parentPrefixLen.toNat)

def ExpandedPrefixEntry.lo (e : ExpandedPrefixEntry) (base : Nat) : Nat :=
  base + e.startIndex.toNat * 2 ^ (128 - e.poolLen.toNat)

def ExpandedPrefixEntry.hi (e : ExpandedPrefixEntry) (base : Nat) : Nat :=
  base + (e.endIndex.toNat + 1) * 2 ^ (128 - e.poolLen.toNat)

theorem ExpandedPrefixEntry.Fits.hi_le (h : e.Fits) (base : Nat) :
    e.hi base ≤ base + 2 ^ (128 - e.parentPrefixLen.toNat) := by
  have hsplit : 2 ^ (128 - e.parentPrefixLen.toNat) =
      2 ^ (e.poolLen.toNat - e.parentPrefixLen.toNat) * 2 ^ (128 - e.poolLen.toNat) := by
    rw [← Nat.pow_add]
    congr 1
    have := h.parent
    have := h.pool
    omega
  rw [hsplit]
  exact Nat.add_le_add_left (Nat.mul_le_mul_right _ h.capacity) base

theorem mul_add_le {i j : Nat} (h : i < j) (b : Nat) : i * b + b ≤ j * b := by
  rw [← Nat.succ_mul]
  exact Nat.mul_le_mul_right b h

theorem add_le_of_dvd_of_lt {a b c : Nat} (hb : a ∣ b) (hc : a ∣ c) (h : b < c) : b + a ≤ c := by
  obtain ⟨m,rfl⟩ := hb
  obtain ⟨n,rfl⟩ := hc
  have hmn := Nat.lt_of_mul_lt_mul_left h
  exact Nat.mul_le_mul_left a hmn

theorem ExpandedPrefixEntry.Fits.addressInterval_eq (h : e.Fits)
    (hdvd : 2 ^ (128 - e.parentPrefixLen.toNat) ∣ e.parent.base) (hlt : e.parent.base < 2 ^ 128) :
    e.addressInterval = some (e.lo e.parent.base, e.hi e.parent.base - 1) := by
  have hhi :=
    Nat.le_trans (h.hi_le e.parent.base)
      (add_le_of_dvd_of_lt hdvd (Nat.pow_dvd_pow 2 (Nat.sub_le _ _)) hlt)
  have hpos := Nat.two_pow_pos (128 - e.poolLen.toNat)
  have hdvd' : 2 ^ (128 - e.poolLen.toNat) ∣ e.parent.base + e.endIndex.toNat * 2 ^
      (128 - e.poolLen.toNat) := by
    have hparent := h.parent
    exact Nat.dvd_add (Nat.dvd_trans (Nat.pow_dvd_pow 2 (by omega)) hdvd) (Nat.dvd_mul_left _ _)
  have hmul := Nat.mul_le_mul_right (2 ^ (128 - e.poolLen.toNat)) h.order
  have hnone : ¬(e.poolLen = 0 ∨ e.poolLen > 128 ∨ e.poolLen < e.parentPrefixLen) := by
    have hpool := h.pool
    have hparent := h.parent
    simp only [← UInt8.toNat_inj, gt_iff_lt, UInt8.lt_iff_toNat_lt]
    have h0 : (0 : UInt8).toNat = 0 := rfl
    have h128 : (128 : UInt8).toNat = 128 := rfl
    omega
  unfold ExpandedPrefixEntry.hi ExpandedPrefixEntry.lo at *
  rw [Nat.succ_mul] at hhi ⊢
  have hlast : e.parent.base + e.endIndex.toNat * 2 ^ (128 - e.poolLen.toNat) |||
      (2 ^ (128 - e.poolLen.toNat) - 1) =
        e.parent.base + (e.endIndex.toNat * 2 ^ (128 - e.poolLen.toNat) +
        2 ^ (128 - e.poolLen.toNat)) - 1 := by
    obtain ⟨m,hm⟩ := hdvd'
    rw [hm, ← Nat.two_pow_add_eq_or_of_lt (Nat.sub_lt hpos Nat.one_pos), ← hm]
    omega
  unfold addressInterval
  rw [if_neg hnone]
  simp only [checkedMul, checkedAdd]
  rw [if_pos (by omega), if_pos (by omega)]
  simp only [Option.bind_eq_bind, Option.bind_some, Option.pure_def]
  rw [if_pos (by omega), if_pos (by omega)]
  simp only [Option.bind_some]
  rw [hlast]

theorem blockLimit_le {bits : Nat} (h : bits ≤ 64) : blockLimit bits ≤ 2 ^ bits := by
  unfold blockLimit
  split
  · exact Nat.le_refl _
  · obtain rfl : bits = 64 := by omega
    omega

theorem lt_of_groupHasCapacity {startIndex endIndex : UInt32} {targetLen : UInt8}
    (h : groupHasCapacity startIndex endIndex targetLen parentLen = true)
    (ht : targetLen.toNat ≤ 64) :
    endIndex.toNat < 2 ^ (targetLen.toNat - parentLen.toNat) ∧
    startIndex.toNat ≤ endIndex.toNat := by
  unfold groupHasCapacity at h
  split at h
  · cases h
  simp only [Bool.and_eq_true, decide_eq_true_eq] at h
  exact ⟨Nat.lt_of_lt_of_le h.1 (blockLimit_le (by omega)),UInt32.le_iff_toNat_le.mp h.2⟩

theorem mem_activeEntries (he : e ∈ activeEntries g mode ctx) :
    e.parent = g.parent.expandedParentKey ctx ∧
    e.parentPrefixLen = g.parent.resolvedParentPrefixLen ∧
      ((∃ ra, g.ra = some ra ∧ e.startIndex = ra.poolIndex ∧ e.endIndex = ra.poolIndex ∧
        e.poolLen = 64) ∨
        (∃ na, g.na = some na ∧ e.startIndex = na.poolIndex ∧ e.endIndex = na.poolIndex ∧
          e.poolLen = 64) ∨
        ∃ pd, g.pd = some pd ∧ e.startIndex = pd.startIndex ∧ e.endIndex = pd.endIndex ∧
          e.poolLen = pd.poolLen) := by
  simp only [activeEntries, mem_append, mem_toList, map_eq_some_iff] at he
  rcases he with (⟨ra,hra,rfl⟩ | ⟨na,hna,rfl⟩) | ⟨pd,hpd,rfl⟩
  · split at hra
    · cases hra
    · exact ⟨rfl,rfl,.inl ⟨ra,hra,rfl,rfl,rfl⟩⟩
  · split at hna
    · cases hna
    · exact ⟨rfl,rfl,.inr (.inl ⟨na,hna,rfl,rfl,rfl⟩)⟩
  · split at hpd
    · cases hpd
    · exact ⟨rfl,rfl,.inr (.inr ⟨pd,hpd,rfl,rfl,rfl⟩)⟩

theorem fits_of_checkSubnet {kind : PrefixGroupServiceKind} {poolIndex : UInt32}
    (h : checkSubnet kind poolIndex parentLen = .ok ()) (hs : e.startIndex = poolIndex)
    (he : e.endIndex = poolIndex) (hl : e.poolLen = 64) (hp : e.parentPrefixLen = parentLen) :
    e.Fits := by
  simp only [checkSubnet, andThen_eq_ok, reject_eq_ok, Bool.not_eq_false] at h
  obtain ⟨-,hparent,hcapacity⟩ := h
  have h64 : (64 : UInt8).toNat = 64 := rfl
  have hlt := lt_of_groupHasCapacity hcapacity (Nat.le_of_eq h64)
  have hparent' : parentLen.toNat < 64 := by
    have := mt le_iff_toNat_le.mpr hparent
    omega
  exact ⟨by rw [hl]; decide,by rw [hl]; decide,by rw [hl, hp]; exact hparent',by rw [hs, he],
    by rw [he, hl, hp]; exact hlt.1⟩

/-- The entries of a group that passes its checks are within their parent. -/
theorem fits_of_validate (h : g.validateWithPdContext ctx = .ok ())
    (he : e ∈ activeEntries g mode ctx) : e.Fits := by
  simp only [LanPrefixGroupConfig.validateWithPdContext, andThen_eq_ok, reject_eq_ok,
    ifSome_eq_ok] at h
  obtain ⟨-,-,hpd₁,hra,hna,hpd₂⟩ := h
  obtain ⟨-,hlen,hkind⟩ := mem_activeEntries he
  rcases hkind with ⟨ra,hr,hs,hend,hpool⟩ | ⟨na,hn,hs,hend,hpool⟩ | ⟨pd,hp,hs,hend,hpool⟩
  · exact fits_of_checkSubnet (hra ra hr) hs hend hpool hlen
  · exact fits_of_checkSubnet (hna na hn) hs hend hpool hlen
  · obtain ⟨hpoolLen,-⟩ := hpd₁ pd hp
    obtain ⟨-,hparent,hcapacity⟩ := hpd₂ pd hp
    have h64 : (64 : UInt8).toNat = 64 := rfl
    simp only [← UInt8.toNat_inj, gt_iff_lt, UInt8.lt_iff_toNat_lt, not_or] at hpoolLen
    rw [le_iff_toNat_le] at hparent
    have hlt := lt_of_groupHasCapacity (by simpa using hcapacity) (by omega)
    refine ⟨?_,?_,?_,?_,?_⟩
    · rw [hpool]
      omega
    · rw [hpool]
      omega
    · rw [hpool, hlen]
      omega
    · rw [hs, hend]
      exact hlt.2
    · rw [hend, hpool, hlen]
      exact hlt.1

/-- Where the checks see the parent of an entry: it starts at a multiple of its size. -/
theorem base_aligned (p : PrefixParentSource) (ctx : Option PdPrefixContextMap) :
    2 ^ (128 - p.resolvedParentPrefixLen.toNat) ∣ (p.expandedParentKey ctx).base ∧
      (p.expandedParentKey ctx).base < 2 ^ 128 := by
  unfold PrefixParentSource.expandedParentKey
  split
  · exact ⟨dvd_normalizePrefix,BitVec.isLt _⟩
  · split
    · exact ⟨dvd_normalizePrefix,BitVec.isLt _⟩
    · exact ⟨Nat.dvd_zero _,Nat.two_pow_pos 128⟩

def SpansApart (e : ExpandedPrefixEntry) (base : Nat) (e' : ExpandedPrefixEntry) (base' : Nat) :
    Prop :=
  e.hi base ≤ e'.lo base' ∨ e'.hi base' ≤ e.lo base

theorem SpansApart.symm (h : SpansApart e base e' base') : SpansApart e' base' e base := Or.symm h

/-- Moving both parents by the same distance changes nothing. -/
theorem SpansApart.shift (h : SpansApart e 0 e' 0) : SpansApart e base e' base := by
  unfold SpansApart ExpandedPrefixEntry.lo ExpandedPrefixEntry.hi at *
  omega

theorem spansApart_of_validateExpandedPair (hf : e.Fits) (hf' : e'.Fits)
    (ha : 2 ^ (128 - e.parentPrefixLen.toNat) ∣ e.parent.base ∧ e.parent.base < 2 ^ 128)
    (ha' : 2 ^ (128 - e'.parentPrefixLen.toNat) ∣ e'.parent.base ∧ e'.parent.base < 2 ^ 128)
    (h : validateExpandedPair e e' false = .ok ()) :
    SpansApart e e.parent.base e' e'.parent.base := by
  simp only [validateExpandedPair, Bool.false_and, Bool.false_eq_true, if_false, ifSome_eq_ok,
    reject_eq_ok, hf.addressInterval_eq ha.1 ha.2, hf'.addressInterval_eq ha'.1 ha'.2,
    some.injEq, forall_eq'] at h
  unfold SpansApart
  omega

theorem parentsAreComparable_comm : parentsAreComparable e e' = parentsAreComparable e' e := by
  unfold parentsAreComparable
  cases e.parent <;> cases e'.parent <;> simp [eq_comm]

theorem nodup_of_checkGroupIds {seen : List String} {groups : List LanPrefixGroupConfig}
    (h : checkGroupIds seen groups = .ok ()) :
    (groups.map (·.groupId)).Nodup ∧ ∀ g ∈ groups, g.groupId ∉ seen := by
  induction groups generalizing seen with
  | nil => simp
  | cons g groups ih =>
    simp only [checkGroupIds, andThen_eq_ok, reject_eq_ok] at h
    obtain ⟨hnodup,hseen⟩ := ih h.2
    refine ⟨?_,?_⟩
    · rw [map_cons, nodup_cons]
      refine ⟨?_,hnodup⟩
      intro hmem
      obtain ⟨g',hg',hid⟩ := mem_map.mp hmem
      exact hseen g' hg' (hid ▸ mem_cons_self)
    · intro g' hg'
      rcases mem_cons.mp hg' with rfl | hg'
      · exact h.1
      · exact fun hs => hseen g' hg' (mem_cons_of_mem _ hs)

def EntriesApart (ctx : Option PdPrefixContextMap) (g g' : LanPrefixGroupConfig) : Prop :=
  ∀ e ∈ activeEntries g .slaacDhcpv6 ctx, ∀ e' ∈ activeEntries g' .slaacDhcpv6 ctx,
    parentsAreComparable e e' = true → SpansApart e e.parent.base e' e'.parent.base

instance (ctx : Option PdPrefixContextMap) : Std.Symm (EntriesApart ctx) :=
  ⟨fun _ _ h e he e' he' hcomp => (h e' he' e he (parentsAreComparable_comm.trans hcomp)).symm⟩

/-- What `validate_prefix_groups_with_pd_context` establishes. -/
structure Planned (groups : List LanPrefixGroupConfig) (ctx : Option PdPrefixContextMap) :
    Prop where
  ids : (groups.map (·.groupId)).Nodup
  valid : ∀ g ∈ groups, g.validateWithPdContext ctx = .ok ()
  apart : ∀ g ∈ groups, ∀ g' ∈ groups, g ≠ g' → EntriesApart ctx g g'

theorem entry_aligned (he : e ∈ activeEntries g mode ctx) :
    2 ^ (128 - e.parentPrefixLen.toNat) ∣ e.parent.base ∧ e.parent.base < 2 ^ 128 := by
  obtain ⟨hparent,hlen,-⟩ := mem_activeEntries he
  rw [hparent, hlen]
  exact base_aligned g.parent ctx

theorem planned_of_validate {groups : List LanPrefixGroupConfig}
    (h : validatePrefixGroupsWithPdContext groups ctx = .ok ()) : Planned groups ctx := by
  simp only [validatePrefixGroupsWithPdContext, andThen_eq_ok, checkAll_eq_ok,
    checkPairs_eq_ok] at h
  obtain ⟨hids,hgroups,hpairs⟩ := h
  have hvalid : ∀ g ∈ groups, g.validateWithPdContext ctx = .ok () := fun g hg => (hgroups g hg).1
  refine ⟨(nodup_of_checkGroupIds hids).1,hvalid,?_⟩
  have hapart : groups.Pairwise (EntriesApart ctx) := by
    refine hpairs.imp_of_mem ?_
    intro g g' hg hg' hpair e he e' he' hcomp
    have hok := hpair e he e' he'
    rw [if_pos hcomp] at hok
    exact spansApart_of_validateExpandedPair (fits_of_validate (hvalid g hg) he)
      (fits_of_validate (hvalid g' hg') he') (entry_aligned he) (entry_aligned he') hok
  exact fun g hg g' hg' hne => hapart.forall hg hg' hne

def linkNetwork (prefixMap : IAPrefixMap) (linkId : Uuid) : Option Ipv6Addr :=
  (loadForLan prefixMap linkId).map fun p => normalizePrefix p.1.prefixIp p.1.prefixLen

theorem resolveParent_aligned {prefixMap : IAPrefixMap} {p : PrefixParentSource}
    {parent : Ipv6Addr × UInt8} (h : resolveParent prefixMap p = some parent) :
    2 ^ (128 - parent.2.toNat) ∣ parent.1.toNat := by
  unfold resolveParent at h
  split at h
  · exact some.inj h ▸ dvd_normalizePrefix
  · split at h
    · split at h
      · exact some.inj h ▸ dvd_normalizePrefix
      · cases h
    · cases h

/-- The prefix is at least as large as what was expected, so the parent starts where the prefix
does, whatever length the group takes. -/
theorem resolveParent_pd {prefixMap : IAPrefixMap} {linkId : Uuid} {snapshot : UInt8}
    {parent : Ipv6Addr × UInt8} (h : resolveParent prefixMap (.pd linkId snapshot) = some parent) :
    linkNetwork prefixMap linkId = some parent.1 := by
  simp only [resolveParent] at h
  unfold linkNetwork
  split at h
  · rename_i actual expected hload
    rw [hload]
    split at h
    · rename_i hfits
      obtain rfl := some.inj h
      have hle : actual.prefixLen ≤ snapshot := by
        obtain ⟨status,-,hstatus⟩ := bind_eq_some_iff.mp hload
        split at hstatus
        · rename_i hmeets
          obtain ⟨rfl,rfl⟩ := Prod.mk.inj (some.inj hstatus)
          have hmeets' := of_decide_eq_true hmeets
          have hfits' := of_decide_eq_true hfits
          rw [le_iff_toNat_le] at hmeets' hfits' ⊢
          omega
        · cases hstatus
      exact congrArg some (normalizePrefix_normalizePrefix hle).symm
    · cases h
  · cases h

def prefixesOverlap (p p' : Ipv6Addr × UInt8) : Bool :=
  let len := if p.2 ≤ p'.2 then p.2 else p'.2
  normalizePrefix p.1 len == normalizePrefix p'.1 len

/-- The smaller of two networks is in one block of the size of the larger one. -/
theorem networks_apart {k k' : Nat} (hk : k' ≤ k) (hn : 2 ^ k ∣ n) (hn' : 2 ^ k' ∣ n')
    (h : n / 2 ^ k ≠ n' / 2 ^ k) : n + 2 ^ k ≤ n' ∨ n' + 2 ^ k' ≤ n := by
  rcases Nat.lt_or_gt_of_ne h with hlt | hlt
  · left
    calc n + 2 ^ k = n / 2 ^ k * 2 ^ k + 2 ^ k := by rw [Nat.div_mul_cancel hn]
      _ ≤ n' / 2 ^ k * 2 ^ k := mul_add_le hlt _
      _ ≤ n' := Nat.div_mul_le_self _ _
  · right
    exact add_le_of_dvd_of_lt hn' (Nat.dvd_trans (Nat.pow_dvd_pow 2 hk) hn)
      (Nat.lt_of_div_lt_div hlt)

/-- Prefixes that do not overlap are apart as ranges. -/
theorem apart_of_not_prefixesOverlap {p p' : Ipv6Addr × UInt8}
    (hp : 2 ^ (128 - p.2.toNat) ∣ p.1.toNat) (hp' : 2 ^ (128 - p'.2.toNat) ∣ p'.1.toNat)
    (h : prefixesOverlap p p' = false) :
    p.1.toNat + 2 ^ (128 - p.2.toNat) ≤ p'.1.toNat ∨
    p'.1.toNat + 2 ^ (128 - p'.2.toNat) ≤ p.1.toNat := by
  have hne : ∀ len, (if p.2 ≤ p'.2 then p.2 else p'.2) = len →
      p.1.toNat / 2 ^ (128 - len.toNat) ≠ p'.1.toNat / 2 ^ (128 - len.toNat) := by
    rintro len rfl heq
    refine absurd (BitVec.eq_of_toNat_eq ?_) (ne_of_beq_false h)
    rw [toNat_normalizePrefix, toNat_normalizePrefix, heq]
  by_cases hle : p.2 ≤ p'.2
  · have hle' := le_iff_toNat_le.mp hle
    exact networks_apart (by omega) hp hp' (hne p.2 (if_pos hle))
  · have hle' := mt le_iff_toNat_le.mpr hle
    exact (networks_apart (by omega) hp' hp (hne p'.2 (if_neg hle)).symm).symm

/-- Entries of parents that are apart. -/
theorem spansApart_of_networks (hf : e.Fits) (hf' : e'.Fits)
    (h : n + 2 ^ (128 - e.parentPrefixLen.toNat) ≤ n' ∨
      n' + 2 ^ (128 - e'.parentPrefixLen.toNat) ≤ n) :
    SpansApart e n e' n' := by
  have hhi := hf.hi_le n
  have hhi' := hf'.hi_le n'
  have hlo : n ≤ e.lo n := Nat.le_add_right _ _
  have hlo' : n' ≤ e'.lo n' := Nat.le_add_right _ _
  unfold SpansApart
  omega

variable {prefixMap : IAPrefixMap} {lifetime : UInt32} {sn sn' : SubnetState}
  {result : List SubnetState} {parent : Ipv6Addr × UInt8} {groups : List LanPrefixGroupConfig}

structure FromGroup (prefixMap : IAPrefixMap) (g : LanPrefixGroupConfig) (parent : Ipv6Addr × UInt8)
    (sn : SubnetState) : Prop where
  group : sn.groupId = g.groupId
  resolved : resolveParent prefixMap g.parent = some parent
  pd : sn.pdConfig = pdSubnetConfig g parent
  slot : sn.subPrefixLen = 64 → ∃ idx : UInt32, (g.ra.any (·.poolIndex = idx) ∨
    g.na.any (·.poolIndex = idx)) ∧
    ∃ router, checkedAllocateSubnet parent.1 parent.2 64 idx.toNat = some (sn.subPrefix, router)

theorem mem_markNa {groupId : String} (h : sn ∈ markNa groupId result) :
    ∃ sn₀ ∈ result, sn = sn₀ ∨ sn₀.groupId = groupId ∧ sn = { sn₀ with isNa := true } := by
  induction result with
  | nil => cases h
  | cons x rest ih =>
    unfold markNa at h
    split at h
    · rcases mem_cons.mp h with rfl | h
      · exact ⟨sn,mem_cons_self,.inl rfl⟩
      · obtain ⟨sn₀,hmem,hsn⟩ := ih h
        exact ⟨sn₀,mem_cons_of_mem x hmem,hsn⟩
    · split at h
      · rename_i hid
        rcases mem_cons.mp h with rfl | h
        · exact ⟨x,mem_cons_self,.inr ⟨hid,rfl⟩⟩
        · exact ⟨sn,mem_cons_of_mem x h,.inl rfl⟩
      · exact ⟨sn,h,.inl rfl⟩

theorem FromGroup.markNa (h : FromGroup prefixMap g parent sn) :
    FromGroup prefixMap g parent { sn with isNa := true } := ⟨h.group,h.resolved,h.pd,h.slot⟩

section
variable (hparent : resolveParent prefixMap g.parent = some parent)
include hparent

theorem fromGroup_subnet {idx preferred valid : UInt32} {hasRa isNa : Bool}
    (hidx : g.ra.any (·.poolIndex = idx) ∨ g.na.any (·.poolIndex = idx))
    (h : subnet g parent idx preferred valid hasRa isNa = some sn) :
    FromGroup prefixMap g parent sn ∧ sn.subPrefixLen = 64 := by
  obtain ⟨⟨subPrefix,router⟩,halloc,rfl⟩ := map_eq_some_iff.mp h
  exact ⟨⟨rfl,hparent,rfl,fun _ => ⟨idx,hidx,router,halloc⟩⟩,rfl⟩

theorem mem_addRa (h : sn ∈ addRa g parent lifetime result) :
    FromGroup prefixMap g parent sn ∧ sn.subPrefixLen = 64 ∨ sn ∈ result := by
  unfold addRa at h
  split at h
  · rename_i ra hra
    rcases mem_append.mp h with h | h
    · exact .inr h
    · exact .inl (fromGroup_subnet hparent (.inl (by simp [hra])) (mem_toList.mp h))
  · exact .inr h

theorem mem_addNa (h : sn ∈ addNa g parent result) :
    FromGroup prefixMap g parent sn ∧ sn.subPrefixLen = 64 ∨
      sn ∈ result ∨ ∃ sn₀ ∈ result, sn₀.groupId = g.groupId ∧ sn = { sn₀ with isNa := true } := by
  unfold addNa at h
  split at h
  · rename_i na hna
    split at h
    · obtain ⟨sn₀,hmem,rfl | hmarked⟩ := mem_markNa h
      · exact .inr (.inl hmem)
      · exact .inr (.inr ⟨sn₀,hmem,hmarked⟩)
    · rcases mem_append.mp h with h | h
      · exact .inr (.inl h)
      · exact .inl (fromGroup_subnet hparent (.inr (by simp [hna])) (mem_toList.mp h))
  · exact .inr (.inl h)

theorem mem_addPdOnly (h : sn ∈ addPdOnly g parent result) :
    FromGroup prefixMap g parent sn ∧ ¬(sn.hasRa ∨ sn.isNa) ∨ sn ∈ result := by
  unfold addPdOnly at h
  split at h
  · split at h
    · rename_i pd hpd
      rcases mem_append.mp h with h | h
      · exact .inr h
      · obtain rfl := mem_singleton.mp h
        refine .inl ⟨⟨rfl,hparent,rfl,fun hlen => ?_⟩,by simp⟩
        -- a group that delegates has a parent larger than a /64
        have hvalid := (filter_eq_some_iff.mp hpd).2
        simp only [Bool.and_eq_true, decide_eq_true_eq, gt_iff_lt, le_iff_toNat_le,
          lt_iff_toNat_lt] at hvalid
        have h64 : (64 : UInt8).toNat = 64 := rfl
        have hlen' : parent.2.toNat = 64 := (congrArg toNat hlen).trans h64
        omega
    · exact .inr h
  · exact .inr h

end

def Own (prefixMap : IAPrefixMap) (g : LanPrefixGroupConfig) (sn : SubnetState) : Prop :=
  ∃ parent, FromGroup prefixMap g parent sn ∧ (sn.hasRa ∨ sn.isNa → sn.subPrefixLen = 64)

/-- The subnets of a group are its own or were there before; one of those that were there may be
marked if it has the group's id. -/
theorem mem_addGroup (h : sn ∈ addGroup prefixMap lifetime result g) :
    Own prefixMap g sn ∨ sn ∈ result ∨
      ∃ sn₀ ∈ result, sn₀.groupId = g.groupId ∧ sn = { sn₀ with isNa := true } := by
  unfold addGroup at h
  split at h
  · exact .inr (.inl h)
  · split at h
    · exact .inr (.inl h)
    · rename_i parent hparent
      rcases mem_addPdOnly hparent h with ⟨hfrom,hnone⟩ | h
      · exact .inl ⟨parent,hfrom,fun hany => absurd hany hnone⟩
      · rcases mem_addNa hparent h with ⟨hfrom,hlen⟩ | h | ⟨sn₀,hmem,hid,rfl⟩
        · exact .inl ⟨parent,hfrom,fun _ => hlen⟩
        · rcases mem_addRa hparent h with ⟨hfrom,hlen⟩ | h
          · exact .inl ⟨parent,hfrom,fun _ => hlen⟩
          · exact .inr (.inl h)
        · rcases mem_addRa hparent hmem with ⟨hfrom,hlen⟩ | hmem
          · exact .inl ⟨parent,hfrom.markNa,fun _ => hlen⟩
          · exact .inr (.inr ⟨sn₀,hmem,hid,rfl⟩)

/-- With ids of their own, groups do not touch each other's subnets. -/
theorem own_of_mem_foldl (hids : (groups.map (·.groupId)).Nodup)
    (hresult : ∀ sn ∈ result, ∀ g ∈ groups, sn.groupId ≠ g.groupId)
    (h : sn ∈ groups.foldl (addGroup prefixMap lifetime) result) :
    sn ∈ result ∨ ∃ g ∈ groups, Own prefixMap g sn := by
  induction groups generalizing result with
  | nil => exact .inl h
  | cons g groups ih =>
    rw [map_cons, nodup_cons] at hids
    have hother : ∀ x ∈ result, x.groupId ≠ g.groupId := fun x hx => hresult x hx g mem_cons_self
    have hmem : ∀ x ∈ addGroup prefixMap lifetime result g, Own prefixMap g x ∨ x ∈ result := by
      intro x hx
      rcases mem_addGroup hx with hown | hx | ⟨x₀,hx₀,hid,-⟩
      · exact .inl hown
      · exact .inr hx
      · exact absurd hid (hother x₀ hx₀)
    have hnext : ∀ x ∈ addGroup prefixMap lifetime result g, ∀ g' ∈ groups,
        x.groupId ≠ g'.groupId := by
      intro x hx g' hg' hid
      rcases hmem x hx with ⟨_,hfrom,-⟩ | hx
      · exact hids.1 (mem_map.mpr ⟨g',hg',hid.symm.trans hfrom.group⟩)
      · exact hresult x hx g' (mem_cons_of_mem g hg') hid
    rcases ih hids.2 hnext h with h | ⟨g',hg',hown⟩
    · rcases hmem sn h with hown | h
      · exact .inr ⟨g,mem_cons_self,hown⟩
      · exact .inl h
    · exact .inr ⟨g',mem_cons_of_mem g hg',hown⟩

theorem own_of_mem_computeSubnets (hids : (groups.map (·.groupId)).Nodup)
    (h : sn ∈ computeSubnets groups prefixMap lifetime) : ∃ g ∈ groups, Own prefixMap g sn :=
  (own_of_mem_foldl hids (by simp) h).resolve_left (by simp)

theorem mem_foldl_addRange {subnets : List SubnetState} {ranges : List PdRange} {r : PdRange}
    (h : r ∈ subnets.foldl addRange ranges) :
    r ∈ ranges ∨ ∃ sn ∈ subnets, sn.pdConfig = some r := by
  induction subnets generalizing ranges with
  | nil => exact .inl h
  | cons sn subnets ih =>
    rcases ih h with h | ⟨sn',hmem,hpd⟩
    · unfold addRange at h
      split at h
      · rename_i pd hpd
        split at h
        · exact .inl h
        · rcases mem_append.mp h with h | h
          · exact .inl h
          · exact .inr ⟨sn,mem_cons_self,hpd.trans (congrArg some (mem_singleton.mp h).symm)⟩
      · exact .inl h
    · exact .inr ⟨sn',mem_cons_of_mem sn hmem,hpd⟩

end Landscape.Dhcp6
