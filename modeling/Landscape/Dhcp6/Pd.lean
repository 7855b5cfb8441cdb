import Landscape.Dhcp6.Subnets
import Landscape.Lib.Run

/-! The delegation of prefixes by the DHCPv6 server and the routes to the delegated prefixes. Slots
and leases are inverse to each other, whatever the server is asked for. -/
namespace Landscape.Dhcp6
open Table Option

abbrev Route := Ipv6Addr × UInt8

structure PdLease where
  groupId : String
  subIndex : UInt32
  relativeOfferTime : Nat
  validTime : UInt32
  preferredTime : UInt32
  clientAddr : Ipv6Addr
  activeRoutes : List Route
  deriving DecidableEq

abbrev PdSlotKey := String × UInt32

variable (now : Nat) (l : PdLease)

def PdLease.key : PdSlotKey := (l.groupId, l.subIndex)

structure PdStatus where
  pdConfig : Option DHCPv6IAPDConfig
  cachedSubnets : List SubnetState
  pdRanges : List PdRange
  pdLeasesByDuid : AList fun _ : Duid => PdLease
  pdOwnersBySlot : AList fun _ : PdSlotKey => Duid
  preferredLifetime : UInt32
  validLifetime : UInt32

def PdStatus.new (pdConfig : Option DHCPv6IAPDConfig) (preferredLifetime validLifetime : UInt32) :
    PdStatus := ⟨pdConfig,[],[],∅,∅,preferredLifetime,validLifetime⟩

def recomputeAndDiff (groups : List LanPrefixGroupConfig) (prefixMap : IAPrefixMap) (s : PdStatus) :
    SubnetDiff × PdStatus :=
  let newSubnets := computeSubnets groups prefixMap s.preferredLifetime
  (diffSubnets s.cachedSubnets newSubnets,
    { s with cachedSubnets := newSubnets, pdRanges := pdRangesOf newSubnets })

def computeDelegatedPrefix (base : Ipv6Addr) (baseLen delegateLen : UInt8) (subIndex : UInt32) :
    Ipv6Addr :=
  let mask :=
    if baseLen ≥ 128 then BitVec.allOnes 128 else BitVec.allOnes 128 <<< (128 - baseLen.toNat)
  (base &&& mask) ||| (BitVec.ofNat 128 subIndex.toNat <<< (128 - delegateLen.toNat))

def resolvePdPrefix (ranges : List PdRange) (key : PdSlotKey) : Option Route :=
  (ranges.find? (·.groupId = key.1)).bind fun range =>
    if range.poolLen = 0 ∨ range.poolLen > 64 then none
    else if key.2 < range.startIdx ∨ key.2 > range.endIdx then none
    else
      let maxBlocks := if range.parentLen ≥ 128 then 0 else 2 ^ (128 - range.parentLen.toNat)
      if key.2.toNat ≥ maxBlocks then none
      else some (computeDelegatedPrefix range.parent range.parentLen range.poolLen key.2,
        range.poolLen)

variable (duid : Duid) (s : PdStatus)

def resolvePdKey (key : PdSlotKey) : Option Route :=
  s.pdConfig.bind fun config =>
    (s.pdRanges.find? fun r => r.groupId = key.1 && r.poolLen ≤ config.delegatePrefixLen).bind
      fun range => resolvePdPrefix [range] key

def firstFreeIndex (s : PdStatus) (groupId : String) : Nat → UInt32 → Option PdSlotKey
  | 0, _ => none
  | count + 1, idx =>
    if (groupId, idx) ∈ s.pdOwnersBySlot then firstFreeIndex s groupId count (idx + 1)
    else some (groupId, idx)

def PdRange.size (r : PdRange) : Nat := r.endIdx.toNat + 1 - r.startIdx.toNat

def findFreePdSlot : Option PdSlotKey :=
  s.pdConfig.bind fun config =>
    s.pdRanges.findSome? fun range =>
      if range.poolLen > config.delegatePrefixLen then none
      else firstFreeIndex s range.groupId range.size range.startIdx

def pdOffer (now : Nat) (key : PdSlotKey) : PdLease :=
  let t := offerLifetime s.preferredLifetime
  ⟨key.1,key.2,now,t,t,0,[]⟩

def newPdLease : Option Route × PdStatus :=
  match findFreePdSlot s with
  | none => (none, s)
  | some key =>
    match resolvePdKey s key with
    | none => (none, s)
    | some route =>
      (some route, { s with
        pdLeasesByDuid := s.pdLeasesByDuid.insert duid (pdOffer s now key)
        pdOwnersBySlot := s.pdOwnersBySlot.insert key duid })

def reusable (duid : Duid) (lease : PdLease) : Option Route :=
  if s.pdOwnersBySlot.lookup lease.key = some duid then resolvePdKey s lease.key else none

def dropPdLease (lease : PdLease) (s : PdStatus) : PdStatus :=
  { s with
    pdLeasesByDuid := s.pdLeasesByDuid.erase duid
    pdOwnersBySlot := s.pdOwnersBySlot.erase lease.key }

def offerPd : Option Route × PdStatus :=
  if s.pdConfig.isNone then (none, s)
  else
    match s.pdLeasesByDuid.lookup duid with
    | some lease =>
      match reusable s duid lease with
      | some route => (some route, s)
      | none => newPdLease now duid (dropPdLease duid lease s)
    | none => newPdLease now duid s

def confirmPd : Bool × PdStatus :=
  if s.pdConfig.isNone then (false, s)
  else
    match s.pdLeasesByDuid.lookup duid with
    | some lease =>
      let lease := { lease with
        validTime := s.validLifetime
        preferredTime := s.preferredLifetime
        relativeOfferTime := now }
      (true, { s with pdLeasesByDuid := s.pdLeasesByDuid.insert duid lease })
    | none => (false, s)

structure ExpiredPd where
  route : Route
  subIndex : UInt32
  duid : Duid
  activeRoutes : List Route

def releasePd : Option ExpiredPd × PdStatus :=
  match s.pdLeasesByDuid.lookup duid with
  | none => (none, s)
  | some lease =>
    let s := dropPdLease duid lease s
    ((resolvePdKey s lease.key).map fun route => ⟨route,lease.subIndex,duid,lease.activeRoutes⟩, s)

def releaseAll : List Duid → PdStatus → List ExpiredPd × PdStatus
  | [], s => ([], s)
  | d :: ds, s =>
    let (expired, s) := releasePd d s
    let (rest, s) := releaseAll ds s
    (expired.toList ++ rest, s)

def pdExpired : Bool := now > l.relativeOfferTime + l.validTime.toNat

def cleanExpiredPd : List ExpiredPd × PdStatus :=
  releaseAll ((s.pdLeasesByDuid.entries.filter fun e => pdExpired now e.2).map (·.1)) s

def getPdPrefix (duid : Duid) : Option Route :=
  (s.pdLeasesByDuid.lookup duid).bind fun lease => resolvePdKey s lease.key

def updatePdRoutes (clientAddr : Ipv6Addr) (routes : List Route) (s : PdStatus) :
    Option (List Route) × PdStatus :=
  match s.pdLeasesByDuid.lookup duid with
  | none => (none, s)
  | some lease =>
    let lease' := { lease with activeRoutes := routes, clientAddr := clientAddr }
    (some lease.activeRoutes, { s with pdLeasesByDuid := s.pdLeasesByDuid.insert duid lease' })

structure PdRouteCleanup where
  subIndex : UInt32
  routes : List Route

def routeIsCurrent (l : PdLease) : Bool :=
  match resolvePdKey s l.key with
  | some expected => l.activeRoutes == [expected]
  | none => false

def stale (l : PdLease) : Bool := !l.activeRoutes.isEmpty && !routeIsCurrent s l

def dropStale (l : PdLease) : PdLease :=
  if stale s l then { l with activeRoutes := [] } else l

def reconcilePdRoutes : List PdRouteCleanup × PdStatus :=
  ((s.pdLeasesByDuid.entries.filter fun e => stale s e.2).map
    fun e => ⟨e.2.subIndex,e.2.activeRoutes⟩,
    { s with pdLeasesByDuid := mapVals (dropStale s) s.pdLeasesByDuid })

def drainAllPdRoutes : List Route × PdStatus :=
  let (expired, s) := releaseAll s.pdLeasesByDuid.keys s
  (expired.flatMap (·.activeRoutes), s)

structure PdRouteChange where
  duid : Duid
  oldRoutes : List Route
  newRoutes : List Route
  subIndex : UInt32
  validTime : UInt32

def oldRoutesOf (prevPrefix : Option Route) (route : Route) : List Route :=
  match prevPrefix with
  | some prev => if prev ≠ route then [prev] else []
  | none => []

/-- `handle_request_or_renew` for an IA_PD. -/
def requestPd (clientAddr : Ipv6Addr) (validLifetime : UInt32) (s : PdStatus) :
    List PdRouteChange × PdStatus :=
  let prevPrefix := getPdPrefix s duid
  let s := (confirmPd now duid (offerPd now duid s).2).2
  match getPdPrefix s duid with
  | none => ([], s)
  | some route =>
    let subIndex := ((s.pdLeasesByDuid.lookup duid).map (·.subIndex)).getD 0
    ([⟨duid,oldRoutesOf prevPrefix route,[route],subIndex,validLifetime⟩],
      (updatePdRoutes duid clientAddr [route] s).2)

/-- `handle_release` for an IA_PD. -/
def handleReleasePd : List PdRouteChange × PdStatus :=
  let (released, s) := releasePd duid s
  (released.toList.map fun r => ⟨duid,r.activeRoutes,[],r.subIndex,0⟩, s)

inductive PdEvent where
  | offerPd (now : Nat) (duid : Duid)
  | confirmPd (now : Nat) (duid : Duid)
  | releasePd (duid : Duid)
  | cleanExpiredPd (now : Nat)
  | recomputeAndDiff (groups : List LanPrefixGroupConfig) (prefixMap : IAPrefixMap)

def pdStep : PdEvent → Option PdStatus
  | .offerPd now duid => some (offerPd now duid s).2
  | .confirmPd now duid => some (confirmPd now duid s).2
  | .releasePd duid => some (releasePd duid s).2
  | .cleanExpiredPd now => some (cleanExpiredPd now s).2
  | .recomputeAndDiff groups prefixMap => some (recomputeAndDiff groups prefixMap s).2

variable {s s' : PdStatus} {duid : Duid} {lease : PdLease} {key : PdSlotKey} {now : Nat}

def Inverse (s : PdStatus) : Prop :=
  ∀ k d, s.pdOwnersBySlot.lookup k = some d ↔ ∃ l, s.pdLeasesByDuid.lookup d = some l ∧ l.key = k

theorem Inverse.dropPdLease (h : Inverse s) (hl : s.pdLeasesByDuid.lookup duid = some lease) :
    Inverse (dropPdLease duid lease s) := by
  intro k d
  have hk := h k d
  have howner := (h lease.key duid).mpr ⟨lease,hl,rfl⟩
  simp only [Dhcp6.dropPdLease, lookup_erase_eq]
  constructor
  · intro hd
    split at hd
    · cases hd
    rename_i hne
    obtain ⟨l,hl',hkey⟩ := hk.mp hd
    refine ⟨l,?_,hkey⟩
    -- the client of another slot is another one
    have hdd : d ≠ duid := by
      rintro rfl
      exact hne (hkey.symm.trans (congrArg PdLease.key (some.inj (hl'.symm.trans hl))))
    rw [if_neg hdd, hl']
  · rintro ⟨l,hl',rfl⟩
    split at hl'
    · cases hl'
    · rename_i hne
      have hown := hk.mpr ⟨l,hl',rfl⟩
      have hkk : l.key ≠ lease.key := by
        intro heq
        rw [heq, howner] at hown
        exact hne (some.inj hown).symm
      rw [if_neg hkk, hown]

theorem Inverse.insertLease (lease : PdLease) (h : Inverse s)
    (hnew : s.pdLeasesByDuid.lookup duid = none)
    (hfree : s.pdOwnersBySlot.lookup lease.key = none) : Inverse { s with
      pdLeasesByDuid := s.pdLeasesByDuid.insert duid lease
      pdOwnersBySlot := s.pdOwnersBySlot.insert lease.key duid } := by
  intro k d
  have hk := h k d
  simp only [lookup_insert_eq]
  by_cases hd : d = duid
  · subst hd
    simp only [if_true, some.injEq, exists_eq_left']
    constructor
    · intro hkd
      split at hkd
      · rename_i heq
        exact heq.symm
      · obtain ⟨l,hl,-⟩ := hk.mp hkd
        cases hl.symm.trans hnew
    · rintro rfl
      rw [if_pos rfl]
  · rw [if_neg hd, ← hk]
    split
    · rename_i heq
      subst heq
      constructor
      · intro heq
        exact absurd (some.inj heq).symm hd
      · intro hown
        cases hown.symm.trans hfree
    · rfl

theorem Inverse.update {lease' : PdLease} (h : Inverse s)
    (hl : s.pdLeasesByDuid.lookup duid = some lease) (hkey : lease'.key = lease.key) :
    Inverse { s with pdLeasesByDuid := s.pdLeasesByDuid.insert duid lease' } := by
  intro k d
  rw [h k d]
  by_cases hd : d = duid
  · subst hd
    simp [hl, hkey]
  · simp [hd]

theorem firstFreeIndex_spec {groupId : String} {count : Nat} {idx : UInt32}
    (h : firstFreeIndex s groupId count idx = some key) : key ∉ s.pdOwnersBySlot := by
  induction count generalizing idx with
  | zero => cases h
  | succ n ih =>
    simp only [firstFreeIndex] at h
    split at h
    · exact ih h
    · rename_i hfree
      obtain rfl := some.inj h
      exact hfree

theorem free_of_findFreePdSlot (h : findFreePdSlot s = some key) :
    s.pdOwnersBySlot.lookup key = none := by
  obtain ⟨config,-,h⟩ := bind_eq_some_iff.mp h
  obtain ⟨range,-,h⟩ := List.exists_of_findSome?_eq_some h
  split at h
  · cases h
  · exact AList.lookup_eq_none.mpr (firstFreeIndex_spec h)

theorem Inverse.newPdLease (h : Inverse s) (hnew : s.pdLeasesByDuid.lookup duid = none) :
    Inverse (newPdLease now duid s).2 := by
  unfold Dhcp6.newPdLease
  split
  · exact h
  · rename_i key hkey
    split
    · exact h
    · exact h.insertLease (pdOffer s now key) hnew (free_of_findFreePdSlot hkey)

theorem Inverse.offerPd (h : Inverse s) : Inverse (offerPd now duid s).2 := by
  unfold Dhcp6.offerPd
  split
  · exact h
  · split
    · rename_i lease hl
      split
      · exact h
      · exact (h.dropPdLease hl).newPdLease (lookup_erase_eq.trans (if_pos rfl))
    · rename_i hnew
      exact h.newPdLease hnew

theorem Inverse.confirmPd (h : Inverse s) : Inverse (confirmPd now duid s).2 := by
  unfold Dhcp6.confirmPd
  split
  · exact h
  · split
    · rename_i lease hl
      exact h.update hl rfl
    · exact h

theorem Inverse.releasePd (h : Inverse s) : Inverse (releasePd duid s).2 := by
  unfold Dhcp6.releasePd
  split
  · exact h
  · rename_i lease hl
    exact h.dropPdLease hl

theorem Inverse.releaseAll (ds : List Duid) (h : Inverse s) : Inverse (releaseAll ds s).2 := by
  induction ds generalizing s with
  | nil => exact h
  | cons d ds ih => exact ih h.releasePd

theorem Inverse.recompute (h : Inverse s) (groups : List LanPrefixGroupConfig)
    (prefixMap : IAPrefixMap) :
    Inverse (recomputeAndDiff groups prefixMap s).2 := h

theorem Inverse.step {e : PdEvent} (h : Inverse s) (hs : pdStep s e = some s') : Inverse s' := by
  cases e with
  | offerPd now duid => exact some.inj hs ▸ h.offerPd
  | confirmPd now duid => exact some.inj hs ▸ h.confirmPd
  | releasePd duid => exact some.inj hs ▸ h.releasePd
  | cleanExpiredPd now => exact some.inj hs ▸ h.releaseAll _
  | recomputeAndDiff groups prefixMap => exact some.inj hs ▸ h.recompute groups prefixMap

theorem inverse_new {pdConfig : Option DHCPv6IAPDConfig} {preferred : UInt32} (valid : UInt32) :
    Inverse (PdStatus.new pdConfig preferred valid) := by
  intro k d
  simp [PdStatus.new]

end Landscape.Dhcp6
