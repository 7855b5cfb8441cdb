import Landscape.Flow.DstIpRules
import Landscape.Route.WanCache
import Mathlib.Tactic.IntervalCases

/-! The diagnosis of a flow in the web interface: it looks the maps of the data plane up once more
and decides in its own way which flow a client is in and what becomes of its packets. -/
namespace Landscape.Flow
open Packet Route

inductive FlowMatchSource where
  | ipv4
  | ipv6
  | mac
  | default

structure FlowMatchRequest where
  srcMac : Option MacAddr
  srcIpv4 : Option UInt32
  srcIpv6 : Option (BitVec 128)

variable (m : Maps) (flow : FlowId) (req : FlowMatchRequest)

def FlowMatchRequest.src : IpFamily → Option IpAddr
  | .ipv4 => req.srcIpv4.map .v4
  | .ipv6 => req.srcIpv6.map .v6

def pickEffectiveFlow (byMac byIp : Option FlowId) (ipSource : FlowMatchSource) :
    FlowId × FlowMatchSource :=
  match byIp, byMac with
  | some flow, _ => (flow, ipSource)
  | none, some flow => (flow, .mac)
  | none, none => (0, .default)

def traceFlowMatch (f : IpFamily) : FlowId × FlowMatchSource :=
  pickEffectiveFlow (req.srcMac.bind fun mac => m.flowMatch (.mac mac))
    ((req.src f).bind (trieLookup fun n => m.flowMatch (.ip n)))
    (match f with
      | .ipv4 => .ipv4
      | .ipv6 => .ipv6)

def FlowMarkAction.ofU8 (value : UInt8) : FlowMarkAction :=
  if value = flowDirect then .direct
  else if value = flowDrop then .drop
  else if value = flowRedirect then .redirect
  else .keepGoing

def FlowMark.ofU32 (value : UInt32) : FlowMark :=
  ⟨.ofU8 (getFlowAction value),getFlowAllowReusePort value,getFlowId value⟩

structure FlowRuleMatchResult where
  mark : FlowMark
  priority : UInt16

def FlowRuleMatchResult.of (v : MarkValue) : FlowRuleMatchResult := ⟨.ofU32 v.mark,v.priority⟩

inductive FlowVerdictSource where
  | ipRule
  | dnsRule
  | default

def computeEffectiveMark : Option FlowRuleMatchResult → Option FlowRuleMatchResult →
    FlowVerdictSource × FlowMark
  | some ip, some dns => if dns.priority ≤ ip.priority then (.dnsRule, dns.mark)
      else (.ipRule, ip.mark)
  | some ip, none => (.ipRule, ip.mark)
  | none, some dns => (.dnsRule, dns.mark)
  | none, none => (.default, ⟨.keepGoing,false,0⟩)

def traceFlowVerdictSingle (dst : IpAddr) : FlowVerdictSource × FlowMark :=
  computeEffectiveMark
    (((m.flowIp dst.family flow).bind fun rules => trieLookup rules dst).map .of)
    (((m.flowDns dst.family flow).bind fun rules => rules dst).map .of)

def expectedCacheMarkValue (effective : FlowMark) : UInt32 :=
  let value := effective.toU32
  if getFlowAction value = 0 then (value &&& ~~~flowIdMask) ||| (flow &&& flowIdMask) else value

/-! Decoding an encoded mark loses the flow id of an action that has none, which encoding leaves out
again. -/

theorem and_flowIdMask : flow &&& flowIdMask = flow.toUInt8.toUInt32 := by
  rw [← UInt32.toBitVec_inj]
  ext i hi
  interval_cases i <;> simp [-UInt32.toUInt32_toUInt8, flowIdMask]

-- There are 2048 encoded marks to check.
theorem toU32_fields (f : FlowMark) :
    getFlowAction f.toU32 = f.action.toU8 ∧ (FlowMark.ofU32 f.toU32).toU32 = f.toU32 ∧
      (f.action = .direct → replaceFlowId f.toU32 0 = f.toU32) := by
  obtain ⟨action,reuse,id⟩ := f
  rw [← UInt8.ofNat_toNat (x := id)]
  have hid := id.toNat_lt
  generalize id.toNat = n at hid
  revert n
  cases action <;> cases reuse <;> decide +kernel

def verdictOf (mark : UInt32) : Option UInt32 :=
  if getFlowAction mark = flowKeepGoing then some (replaceFlowId mark flow.toUInt8)
  else if getFlowAction mark = flowDirect then some (replaceFlowId mark 0)
  else if getFlowAction mark = flowDrop then none
  else some mark

variable {flow : FlowId}

theorem verdictOf_eq_none {mark : UInt32} :
    (FlowMark.ofU32 mark).action = .drop ↔ verdictOf flow mark = none := by
  unfold FlowMark.ofU32 FlowMarkAction.ofU8 verdictOf
  generalize getFlowAction mark = action
  split_ifs <;> simp_all [flowDrop, flowKeepGoing]

theorem verdictOf_toU32 {f : FlowMark} {v : UInt32} (h : verdictOf flow f.toU32 = some v) :
    expectedCacheMarkValue flow (.ofU32 f.toU32) = v := by
  obtain ⟨haction,hround,hdirect⟩ := toU32_fields f
  simp only [expectedCacheMarkValue]
  rw [hround, and_flowIdMask]
  unfold verdictOf at h
  rw [haction] at h ⊢
  cases hf : f.action <;> rw [hf] at h
  · exact Option.some_inj.mp h
  · rw [hdirect hf] at h
    exact Option.some_inj.mp h
  · cases h
  · exact Option.some_inj.mp h

theorem traceFlowVerdictSingle_mark (dst : IpAddr) :
    (traceFlowVerdictSingle m flow dst).2 = .ofU32 (destinationMark m flow dst 0) := by
  unfold traceFlowVerdictSingle destinationMark
  cases (m.flowDns dst.family flow).bind fun rules => rules dst with
  | none => cases (m.flowIp dst.family flow).bind fun rules => trieLookup rules dst <;> rfl
  | some dns =>
    cases (m.flowIp dst.family flow).bind fun rules => trieLookup rules dst with
    | none =>
      -- The data plane compares with the lowest priority where no address rule matches.
      have hle : dns.priority ≤ 0xffff := Nat.le_of_lt_succ dns.priority.toNat_lt
      exact congrArg FlowMark.ofU32 (if_pos hle).symm
    | some ip =>
      dsimp only [Option.map_some, computeEffectiveMark, FlowRuleMatchResult.of, Option.getD_some]
      split_ifs <;> rfl

theorem traceFlowMatch_flow {m : Maps} {p : LanPacket} {req : FlowMatchRequest}
    (hl3 : p.l3Offset ≠ 0) (hmac : req.srcMac = some p.hSource)
    (hip : req.src p.saddr.family = some p.saddr) :
    (traceFlowMatch m req p.saddr.family).1 = matchFlowId m p 0 := by
  unfold traceFlowMatch matchFlowId pickEffectiveFlow
  rw [hmac, hip, if_neg hl3]
  simp only [Option.bind_some]
  cases trieLookup (fun n => m.flowMatch (.ip n)) p.saddr <;> cases m.flowMatch (.mac p.hSource) <;>
    rfl

/-- The diagnosis of a client agrees with the verdict on its packets: on the flow, on what is
dropped, and on the mark, if that of the destination was encoded. -/
theorem trace_predicts_verdict {m : Maps} {p : LanPacket} {req : FlowMatchRequest}
    (hl3 : p.l3Offset ≠ 0) (hmac : req.srcMac = some p.hSource)
    (hip : req.src p.saddr.family = some p.saddr) :
    let flow := (traceFlowMatch m req p.saddr.family).1
    let mark := (traceFlowVerdictSingle m flow p.daddr).2
    flow = matchFlowId m p 0 ∧ (mark.action = .drop ↔ flowVerdict m p 0 = none) ∧
      ((∃ f : FlowMark, destinationMark m flow p.daddr 0 = f.toU32) →
        ∀ v, flowVerdict m p 0 = some v → expectedCacheMarkValue flow mark = v) := by
  intro flow mark
  have hflow : flow = matchFlowId m p 0 := traceFlowMatch_flow hl3 hmac hip
  have hverdict : flowVerdict m p 0 = verdictOf flow (destinationMark m flow p.daddr 0) := by
    rw [hflow]
    rfl
  rw [hverdict, show mark = _ from traceFlowVerdictSingle_mark m p.daddr]
  refine ⟨hflow,verdictOf_eq_none,?_⟩
  rintro ⟨f,hf⟩ v h
  rw [hf] at h ⊢
  exact verdictOf_toU32 h

def diagnosed : FlowMatchRequest := ⟨some toRemote.hSource,some lanHost,none⟩

def dnsMarked (mark : UInt32) : Maps :=
  { twoWans with flowDns := fun _ _ => some fun _ => some ⟨mark,0⟩ }

def FlowMatchRequest.expectedMark (m : Maps) (p : LanPacket) : UInt32 :=
  let flow := (traceFlowMatch m req p.saddr.family).1
  expectedCacheMarkValue flow (traceFlowVerdictSingle m flow p.daddr).2

theorem trace_predicts_sample : flowVerdict (dnsMarked 0x305) toRemote 0 = some 0x305 ∧
    diagnosed.expectedMark (dnsMarked 0x305) toRemote = 0x305 := by
  obtain ⟨-,-,hmark⟩ :=
    @trace_predicts_verdict (dnsMarked 0x305) toRemote diagnosed (by decide) rfl rfl
  exact ⟨rfl,hmark ⟨⟨.redirect,false,5⟩,rfl⟩ _ rfl⟩

/-- A bit beyond those of a mark is lost by the diagnosis. -/
theorem trace_predicts_fails : ¬∀ (m : Maps) (p : LanPacket) (req : FlowMatchRequest),
    p.l3Offset ≠ 0 →
    req.srcMac = some p.hSource → req.src p.saddr.family = some p.saddr →
    ∀ v, flowVerdict m p 0 = some v → req.expectedMark m p = v :=
  fun hall => absurd (hall (dnsMarked 0x10000) toRemote diagnosed (by decide) rfl rfl _ rfl)
    (by decide)

end Landscape.Flow
