import Landscape.Flow.EntryRules
import Landscape.Route.Service

/-! The packets of a flow leave by the targets of the flow, as long as the flow id fits into the
mark. -/
namespace Landscape.Flow
open Lpm Route Store Function List Option
open Packet (TcAct replaceFlowId getFlowId)

variable {m : Maps} {p : LanPacket} {k : FlowId} {wan : IpFamily → WanRoutesByOwner}
  {c : FlowConfig} {stored : List FlowConfig} {devices : DevicesById} {links : NetIfaceMap}

/-- The flows pass their own checks and those across flows. -/
structure Valid (devices : DevicesById) (links : NetIfaceMap) (stored : List FlowConfig) :
    Prop where
  keyed : Keyed stored
  each : ∀ c ∈ stored, c.validate = .ok ()
  cross : ∀ c ∈ stored, FlowConfig.validateCross devices links stored c = .ok c

/-- The flow match map has the entries of the flows, and the slots of a flow id are those of a flow
with that id, with the WAN routes of the moment. -/
structure Synced (devices : DevicesById) (stored : List FlowConfig)
    (wan : IpFamily → WanRoutesByOwner) (m : Maps) : Prop where
  flowMatch : ∃ order, order.Perm
    ((buildFlowMatchEntries (listRuntimeConfigs devices stored)).entries.map
    fun e => (e.1, e.2)) ∧ m.flowMatch = writeEntries order
  slots : ∀ f, ∀ c ∈ stored, ∃ c' ∈ stored, c'.flowId = c.flowId ∧
    ∀ slot < flowTargetSlotCount, m.slots f c.flowId slot =
      targetSlots f (flowConfigTargets (wan f) c') slot

/-- The entry that governs a packet: that of its source address, else that of its MAC. -/
def governingFlow (m : Maps) (p : LanPacket) : Option FlowId :=
  (trieLookup (fun n => m.flowMatch (.ip n)) p.saddr).or
    (if p.l3Offset = 0 then none else m.flowMatch (.mac p.hSource))

/-- No destination address rule and no DNS rule of the flow has a mark for the destination. -/
def Unmarked (m : Maps) (p : LanPacket) (k : FlowId) : Prop :=
  ((m.flowIp p.daddr.family k).bind fun rules => trieLookup rules p.daddr) = none ∧
    ((m.flowDns p.daddr.family k).bind fun rules => rules p.daddr) = none

def sendTo (m : Maps) (p : LanPacket) (flow : UInt8) (t : TargetInfo) : TcAct Framing :=
  if t.ifindex = p.ifindex then .redirect t.ifindex .asIs
  else .redirect t.ifindex (framing m (flowVlanId flow) t.isDocker t.mac t.gateAddr)

def ownTargets (wan : IpFamily → WanRoutesByOwner) (c : FlowConfig) (f : IpFamily) :
    List (RouteTargetInfo × UInt32) := usableTargets f (flowConfigTargets (wan f) c)

/-- A packet that no LAN route takes is sent to a target of the flow, or dropped if the flow has
none. -/
def SentByOwn (wan : IpFamily → WanRoutesByOwner) (c : FlowConfig) (m : Maps) (p : LanPacket) :
    Prop :=
  tcLanRedirectCheckInLan m p = .ok →
    (∃ t ∈ ownTargets wan c p.daddr.family,
      (tcUncached m p).1 = sendTo m p c.flowId.toUInt8 t.1.slotValue) ∨
    ownTargets wan c p.daddr.family = [] ∧ (tcUncached m p).1 = .shot

theorem foldSlot_lt (hash : UInt32) : foldSlot hash < flowTargetSlotCount := by
  have hle :=
    Nat.and_le_right (n := (hash ^^^ hash >>> 16 ^^^ (hash ^^^ hash >>> 16) >>> 8).toNat) (m := 15)
  exact Nat.lt_of_le_of_lt hle (by decide)

theorem targetSlot_lt (a : IpAddr) : targetSlot a < flowTargetSlotCount := by
  cases a <;> exact foldSlot_lt _

theorem getFlowId_replaceFlowId (flow : UInt8) : getFlowId (replaceFlowId 0 flow) = flow := by
  have hmask : flow.toUInt32 &&& 255 = flow.toUInt32 := by
    apply UInt32.toNat_inj.mp
    exact Nat.and_two_pow_sub_one_of_lt_two_pow (n := 8) flow.toNat_lt
  have hzero : (0 : UInt32) &&& ~~~255 = 0 := by decide
  unfold getFlowId replaceFlowId Packet.flowIdMask
  rw [hzero, UInt32.zero_or, hmask, UInt8.toUInt8_toUInt32]

theorem flowVerdict_of_governed (hg : governingFlow m p = some k) (hu : Unmarked m p k) :
    flowVerdict m p 0 = some (replaceFlowId 0 k.toUInt8) := by
  have hflow : matchFlowId m p (0 &&& 0xff) = k := by
    unfold matchFlowId
    unfold governingFlow at hg
    cases hip : trieLookup (fun n => m.flowMatch (.ip n)) p.saddr with
    | some flow =>
      rw [hip, some_or] at hg
      exact some.inj hg
    | none =>
      rw [hip, none_or] at hg
      split at hg
      · cases hg
      · rename_i hoff
        rw [if_neg hoff, hg]
        rfl
  unfold flowVerdict
  dsimp only
  rw [hflow, destinationMark, hu.1, hu.2]
  rfl

theorem toUInt32_toUInt8_of_lt (h : k.toNat < 256) : k.toUInt8.toUInt32 = k := by
  apply UInt32.toNat_inj.mp
  exact Nat.mod_eq_of_lt h

theorem tcUncached_of_governed (hmark : p.mark = 0) (hlan : tcLanRedirectCheckInLan m p = .ok)
    (hg : governingFlow m p = some k) (hu : Unmarked m p k) : (tcUncached m p).1 =
      match m.slots p.daddr.family k.toUInt8.toUInt32 (targetSlot p.daddr) with
      | none => .shot
      | some t => sendTo m p k.toUInt8 t := by
  unfold tcUncached
  rw [hlan, hmark, flowVerdict_of_governed hg hu]
  dsimp only
  unfold tcPickWanInLan slotTarget
  rw [getFlowId_replaceFlowId]
  rfl

/-- The packets of a flow with the id leave by the flow, if no other flow has the id and the weights
of its targets do not wrap around to 0. -/
def Isolated (k : FlowId) : Prop :=
  ∀ devices links stored wan m, ∀ c ∈ stored, ∀ p, Valid devices links stored →
    Synced devices stored wan m →
    c.flowId = k → (∀ c' ∈ stored, c'.flowId = k → c' = c) →
    Weighted p.daddr.family (flowConfigTargets (wan p.daddr.family) c) →
    p.mark = 0 → governingFlow m p = some k → Unmarked m p k → SentByOwn wan c m p

theorem isolated_of_lt (hlt : k.toNat < 256) : Isolated k := by
  intro devices links stored wan m c hc p _ hsync hk hown hw hmark hg hu hlan
  obtain ⟨c',hc',hk',hslots⟩ := hsync.slots p.daddr.family c hc
  obtain rfl := hown c' hc' (hk'.trans hk)
  have hslot := hslots _ (targetSlot_lt p.daddr)
  rw [tcUncached_of_governed hmark hlan hg hu, toUInt32_toUInt8_of_lt hlt, ← hk, hslot]
  by_cases hnone : usableTargets p.daddr.family (flowConfigTargets (wan p.daddr.family) c') = []
  · rw [targetSlots_eq_none hnone]
    exact .inr ⟨hnone,rfl⟩
  · obtain ⟨v,hv⟩ := isSome_iff_exists.mp (targetSlots_isSome hw hnone (targetSlot_lt p.daddr))
    obtain ⟨t,ht,rfl⟩ := exists_target_of_targetSlots hv
    rw [hv]
    exact .inl ⟨t,ht,rfl⟩

def macFlow (k : FlowId) : FlowConfig :=
  ⟨1,true,k,[⟨.mac 1⟩],[⟨.interface 1 "wan",1⟩],"","",0⟩

def wanTarget : RouteTargetInfo := ⟨1,2,none,false,false,"wan",.v4 0x64000002,.v4 0x64000001,false⟩

def wanTargets : IpFamily → WanRoutesByOwner := fun _ => AList.singleton (.link 1) wanTarget

def wanLinks : NetIfaceMap := fun link => if link = 1 then some "wan" else none

def macFlowMaps (k : FlowId) : Maps where
  flowMatch := writeEntries [(flowMatchKeyFromRule ⟨.mac 1⟩, k)]
  flowIp _ _ := none
  flowDns _ _ := none
  slots f flow slot :=
    if flow = k then targetSlots f (flowConfigTargets (wanTargets f) (macFlow k)) slot
    else if flow = 0 then some ⟨4,false,.v4 0x65000001,none⟩
    else none
  lan _ := none
  ipMac _ := none
  wanIpBinding _ _ := none
  xdpRedirectAble _ := false

def macPacket : LanPacket := ⟨3,14,1,.v4 0x0a000001,.v4 0x08080808,0⟩

theorem valid_macFlow (hk : k ≠ 0) : Valid (fun _ => none) wanLinks [macFlow k] := by
  refine ⟨nodup_singleton _,?_,?_⟩
  · intro c hc
    obtain rfl := mem_singleton.mp hc
    simp [FlowConfig.validate, macFlow, defaultFlowId, hk, FlowEntryMatchMode.validate,
      firstDuplicate, maxFlowTargets, bind, Except.bind, pure, Except.pure]
  · intro c hc
    obtain rfl := mem_singleton.mp hc
    rfl

theorem synced_macFlow : Synced (fun _ => none) [macFlow k] wanTargets (macFlowMaps k) := by
  refine ⟨⟨_,List.Perm.refl _,rfl⟩,?_⟩
  intro f c hc
  obtain rfl := mem_singleton.mp hc
  refine ⟨_,mem_singleton_self _,rfl,fun slot _ => ?_⟩
  exact if_pos rfl

theorem flowMatch_macFlow : (macFlowMaps k).flowMatch = update (fun _ => none) (.mac 1)
    (some k) := by
  have hentry := entry_mac 1
  change writeEntry (fun _ => none) (flowMatchKeyFromRule ⟨.mac 1⟩, k) = _
  rw [writeEntry, hentry]

theorem ownTargets_macFlow : ownTargets wanTargets (macFlow k) macPacket.daddr.family =
    [(wanTarget, 1)] := rfl

theorem governingFlow_macFlow : governingFlow (macFlowMaps k) macPacket = some k := by
  have hnone : lookup (fun n => (macFlowMaps k).flowMatch (.ip (.v4 n)))
    (.around 32 (0x0a000001 : BitVec 32)) =
      none := by
    rw [← not_isSome_iff_eq_none, lookup_around_isSome]
    rintro ⟨n,-,hsome,-⟩
    cases hsome
  have hmac : (macFlowMaps k).flowMatch (.mac 1) = some k := by rw [flowMatch_macFlow, update_self]
  unfold governingFlow
  exact hmac

/-- The mark has the low byte of the id only, so the packet is dropped or leaves by another flow. -/
theorem not_sentByOwn_macFlow (hge : 256 ≤ k.toNat) :
    ¬SentByOwn wanTargets (macFlow k) (macFlowMaps k) macPacket := by
  intro h
  have hlow : k.toUInt8.toUInt32 ≠ k := by
    intro heq
    have hlt := k.toUInt8.toNat_lt
    rw [← heq, UInt8.toNat_toUInt32] at hge
    omega
  have hact := tcUncached_of_governed (m := macFlowMaps k) (p := macPacket) rfl rfl
    governingFlow_macFlow ⟨rfl,rfl⟩
  have hslot : (macFlowMaps k).slots macPacket.daddr.family k.toUInt8.toUInt32
        (targetSlot macPacket.daddr) =
      if k.toUInt8.toUInt32 = 0 then some ⟨4,false,.v4 0x65000001,none⟩ else none := if_neg hlow
  rw [hslot] at hact
  have hcases := h rfl
  rw [hact, ownTargets_macFlow] at hcases
  rcases hcases with ⟨t,ht,hsent⟩ | ⟨hnone,-⟩
  · obtain rfl := mem_singleton.mp ht
    split at hsent
    · cases hsent
    · rename_i v hv
      split at hv
      · obtain rfl := some.inj hv
        cases hsent
      · cases hv
  · cases hnone

/-- The packets of a flow leave by the flow exactly if its id fits into the mark. -/
theorem isolated_iff (k : FlowId) : Isolated k ↔ k.toNat < 256 := by
  constructor
  · intro h
    by_contra hge
    have hk : k ≠ 0 := by
      rintro rfl
      exact hge (by decide)
    refine not_sentByOwn_macFlow (Nat.le_of_not_lt hge) ?_
    refine h (fun _ => none) wanLinks [macFlow k] wanTargets (macFlowMaps k) (macFlow k)
      (mem_singleton_self _) macPacket (valid_macFlow hk) synced_macFlow rfl ?_ ?_ rfl
      governingFlow_macFlow ⟨rfl,rfl⟩
    · intro c' hc' _
      exact mem_singleton.mp hc'
    · refine .inr ?_
      rw [show usableTargets _ _ = _ from ownTargets_macFlow]
      decide
  · exact isolated_of_lt

def AlwaysIsolated : Prop :=
  ∀ devices links stored wan m, ∀ c ∈ stored, ∀ p, Valid devices links stored →
    Synced devices stored wan m →
    p.mark = 0 → governingFlow m p = some c.flowId → Unmarked m p c.flowId → SentByOwn wan c m p

theorem isolated_fails : ¬AlwaysIsolated := fun h =>
  not_sentByOwn_macFlow (by decide) (h (fun _ => none) wanLinks [macFlow 256] wanTargets
    (macFlowMaps 256)
    (macFlow 256) (mem_singleton_self _) macPacket (valid_macFlow (by decide)) synced_macFlow rfl
    governingFlow_macFlow ⟨rfl,rfl⟩)

end Landscape.Flow
