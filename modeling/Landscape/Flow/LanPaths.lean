import Landscape.Flow.Router
import Landscape.Route.WanCache
import Mathlib.Tactic.IntervalCases

/-! LAN routing is written twice, for XDP and for TC. A packet should fare alike in the two
programs. -/
namespace Landscape.Flow
open Packet
open Route

def sentTo : TcAct Framing → Option UInt32
  | .redirect ifindex _ => some ifindex
  | _ => none

/-- The TC program does with the packet what the XDP program has decided: it drops it, or sends it
to the same interface in the same flow. -/
def tcFollows (tc : TcAct Framing × UInt32) : XdpAct → Bool
  | .pass => true
  | .drop => tc.1 = .shot
  | .redirect ifindex => sentTo tc.1 = some ifindex
  | .leave _ mark ifindex _ => sentTo tc.1 = some ifindex ∧ getFlowId tc.2 = getFlowId mark

def bound (m : Maps) (p : LanPacket) (v : CacheValue) : Bool :=
  (m.wanIpBinding v.ifindex p.saddr.family).isSome

/- The forwarding table answers where XDP asks it, for a neighbour of a LAN route that the kernel
   does not know. Without an answer XDP goes on as if there were no such route. -/
def FibAnswers (m : Maps) (p : LanPacket) (fib : Option (UInt32 × MacAddr)) : Prop :=
  ∀ info, trieLookup m.lan p.daddr = some info → info.mac.isSome →
    m.ipMac (if info.routeType = .nextHop then info.addr else p.daddr) = none → fib.isSome

/- XDP follows a WAN-cache entry without a WAN binding if it is docker's or not redirect-able. TC
   passes over every such entry. -/
def UnboundPassed (m : Maps) (wan : RouteCache) (p : LanPacket) : Prop :=
  ∀ v, wan p.key = some v → bound m p v ∨ v.isDocker = false ∧ v.xdpRedirectAble = true

def SendsElsewhere (m : Maps) (p : LanPacket) (mark : UInt32) : Prop :=
  ∀ t, slotTarget m p mark = some t → t.ifindex ≠ p.ifindex

/- The slots decide on a packet of the LAN cache. -/
def Decides (m : Maps) (p : LanPacket) (mark : UInt32) : Prop :=
  SendsElsewhere m p mark ∧ (slotTarget m p mark = none → getFlowId mark ≠ 0)

/- The result `check` of the LAN redirect check counts where the LAN cache does not know the
   target. -/
def LanAlike (m : Maps) (lan : RouteCache) (p : LanPacket) (check : Option XdpAct) : Prop :=
  match lan p.key with
  | some v =>
    if v.ifindex ≠ 0 then v.ifindex ≠ p.ifindex
    else check = some .pass ∨ Decides m p v.markValue
  | none => check = none → ∀ mark, flowVerdict m p 0 = some mark → SendsElsewhere m p mark

def PathsAlike (m : Maps) (wan lan : RouteCache) (p : LanPacket) (check : Option XdpAct) : Prop :=
  match (wan p.key).filter (bound m p) with
  | some v => getFlowId v.markValue = 0
  | none => LanAlike m lan p check

variable {m : Maps} {wan lan : RouteCache} {p : LanPacket} {fib : Option (UInt32 × MacAddr)}
  {mark : UInt32}

@[simp] theorem getFlowId_replaceFlowSource (source : UInt8) :
    getFlowId (replaceFlowSource mark source) = getFlowId mark := by
  unfold getFlowId replaceFlowSource
  rw [← UInt8.toBitVec_inj]
  ext i hi
  interval_cases i <;> simp [flowIdMask, flowSourceMask]

theorem pickWan_follows_iff : tcFollows
    (tcPickWanInLan m p mark, replaceFlowSource mark flowFromLan)
    ((xdpCachePickWan m wan lan p mark).1.getD .drop) = true ↔ SendsElsewhere m p mark := by
  unfold tcPickWanInLan xdpCachePickWan SendsElsewhere
  cases slotTarget m p mark with
  | none => by_cases h : getFlowId mark = 0 <;> simp [h, tcFollows]
  | some t => by_cases h : t.ifindex = p.ifindex <;> simp [h, tcFollows, sentTo]

theorem cached_pickWan (m : Maps) (wan lan : RouteCache) (p : LanPacket) (mark : UInt32) :
    ((xdpCachePickWan m wan lan p mark).1 = none ∧ pickWanAndSendByFlowId m p mark = .unspec ∧
        ¬Decides m p mark) ∨ ∃ act, (xdpCachePickWan m wan lan p mark).1 = some act ∧ act ≠ .pass ∧
        tcFollows (pickWanAndSendByFlowId m p mark, replaceFlowSource mark flowFromLan) act = true ∧
        Decides m p mark := by
  unfold xdpCachePickWan pickWanAndSendByFlowId Decides SendsElsewhere
  cases slotTarget m p mark with
  | none => by_cases h : getFlowId mark = 0 <;> simp [h, tcFollows]
  | some t => by_cases h : t.ifindex = p.ifindex <;> simp [h, tcFollows, sentTo]

theorem follows_unspec_iff {act : XdpAct} : tcFollows (.unspec, mark) act = true ↔ act = .pass := by
  cases act <;> simp [tcFollows, sentTo]

theorem lanRedirectCheck_cases (hfib : FibAnswers m p fib) :
    (xdpLanRedirectCheckInLan m p fib = none ∧ tcLanRedirectCheckInLan m p = .ok) ∨
      ∃ act macs, xdpLanRedirectCheckInLan m p fib = some (act, macs) ∧ (act = .pass ∨
        ∃ i framing, tcLanRedirectCheckInLan m p = .redirect i framing ∧
          (act = .redirect i ∨ act = .leave .tcRedirect 0 i none)) := by
  unfold xdpLanRedirectCheckInLan tcLanRedirectCheckInLan xdpRedirectOrTcHandoff
  cases hroute : trieLookup m.lan p.daddr with
  | none => simp
  | some info =>
    have hfib := hfib info hroute
    dsimp only
    by_cases hwan : info.routeType = .wan
    · by_cases haddr : info.addr = p.daddr <;> simp [hwan, haddr]
    by_cases hin : info.ifindex = p.ifindex
    · simp [hwan, hin]
    by_cases hhere : info.routeType = .lan ∧ info.addr = p.daddr
    · simp [hhere]
    right
    rw [if_neg hwan, if_neg (by tauto), if_neg hwan, if_neg hin, if_neg hhere]
    cases hmac : info.mac with
    | none => by_cases hable : m.xdpRedirectAble info.ifindex = true <;> simp [hable]
    | some mac =>
      dsimp only
      cases hknown : m.ipMac (if info.routeType = .nextHop then info.addr else p.daddr) with
      | some macs => by_cases hable : m.xdpRedirectAble info.ifindex = true <;> simp [hable]
      | none =>
        obtain ⟨⟨out,dst⟩,rfl⟩ := Option.isSome_iff_exists.mp (hfib (by simp [hmac]) hknown)
        by_cases hout : out = p.ifindex <;>
          by_cases hable : m.xdpRedirectAble info.ifindex = true <;> simp [hout, hable]

/- Both programs go on to the LAN cache. -/
theorem lan_follows_iff (hcast : isBroadcastIp p.daddr = false) (hmark : p.mark = 0)
    (hfib : FibAnswers m p fib)
    (htc : searchCacheInLan m wan lan p = searchCacheInLan m noEntries lan p)
    (hxdp : (wan p.key).bind (xdpWanHit m p) = none) : tcFollows (tcRouteLanIngress m wan lan p).1
        (xdpLanRoute m wan lan p ((xdpLanRedirectCheckInLan m p fib).map (·.1))).1 = true ↔
      LanAlike m lan p ((xdpLanRedirectCheckInLan m p fib).map (·.1)) := by
  unfold tcRouteLanIngress xdpLanRoute LanAlike xdpSearchCacheInLan
  rw [htc, hxdp]
  simp only [hcast, Bool.false_eq_true, if_false, searchCacheInLan, noEntries]
  cases lan p.key with
  | none =>
    dsimp only
    obtain ⟨hnone,hok⟩ | ⟨act,macs,hsome,hact⟩ := lanRedirectCheck_cases (m := m) (p := p) hfib
    · simp only [hnone, hok, tcUncached, hmark, Option.map_none]
      cases flowVerdict m p 0 with
      | none => simp [tcFollows]
      | some mark => simp [pickWan_follows_iff]
    · rw [hsome]
      obtain rfl | ⟨i,framing,hred,hsent⟩ := hact
      · simp [tcFollows]
      · obtain rfl | rfl := hsent <;> simp [tcFollows, tcUncached, hred, sentTo, hmark]
  | some v =>
    dsimp only [lanCacheVerdict, xdpLanHit]
    by_cases hv : v.ifindex = 0
    · rw [if_neg (by simpa using hv), if_neg (by simpa using hv), if_neg (by simpa using hv)]
      obtain ⟨hnone,hunspec,hnot⟩ | ⟨act,hsome,hpass,hfollows,hdecides⟩ :=
        cached_pickWan m wan lan p v.markValue
      · rw [hunspec, hnone]
        dsimp only
        rw [follows_unspec_iff]
        cases (xdpLanRedirectCheckInLan m p fib).map (·.1) with
        | some act => simp [hnot]
        | none =>
          dsimp only
          cases flowVerdict m p v.markValue with
          | none => simp [hnot]
          | some mark =>
            obtain ⟨hdrop,-⟩ | ⟨act,hact,hpass,-⟩ := cached_pickWan m wan
                (xdpCachePickWan m wan lan p v.markValue).2 p mark <;> simp [*]
      · rw [hsome]
        simp only [hdecides, or_true, iff_true]
        cases hpick : pickWanAndSendByFlowId m p v.markValue with
        | ok => cases act <;> simp [hpick, tcFollows, sentTo] at hfollows hpass
        | _ => simpa only [hpick] using hfollows
    · rw [if_pos hv, if_pos hv, if_pos hv]
      unfold redirectByCachedTarget
      by_cases h : v.ifindex = p.ifindex <;> simp [h, tcFollows, sentTo]

def cachedAway : RouteCache := fun _ => some ⟨0,false,false,false,2,.v4 0,0⟩

end Landscape.Flow
