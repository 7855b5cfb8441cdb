import Landscape.Nat4.TcNat
import Landscape.Packet.Ipv6Info

/-! `tc_nat6.h` with its maps, and the IPv6 half of `tc_nat.bpf.c`: the prefix translation. A
handler runs from its start to its end. -/
namespace Landscape.Nat6
open Bytes Nat4 Packet Function

structure TimerKey where
  clientSuffix : BitVec 64
  clientPort : UInt16
  idByte : BitVec 8
  l4Protocol : UInt8
  deriving DecidableEq

structure TimerValue where
  serverStatus : CtState
  clientStatus : CtState
  status : TimerStatus
  triggerAddr : Addr6
  triggerPort : UInt16
  isAllowReuse : Bool
  flowId : UInt8
  gress : Gress
  isStatic : Bool
  needPrefixReplace : Bool
  clientPrefix : BitVec 64
  deriving DecidableEq

structure StaticKey where
  port : UInt16
  l4Protocol : UInt8
  ipSuffix : BitVec 64
  deriving DecidableEq

structure WanIpInfo where
  addr : Addr6
  nptMask : BitVec 64
  deriving DecidableEq

structure FragCacheKey where
  l4proto : UInt8
  id : UInt16
  saddr : Addr6
  daddr : Addr6
  deriving DecidableEq

structure State where
  timer : TimerKey → Option TimerValue
  frags : FragCacheKey → Option (UInt16 × UInt16)

def State.empty : State := ⟨fun _ => none,fun _ => none⟩

/-- What a handler finds when it starts: the frame has an Ethernet header or not, the bindings of
the WAN interfaces, the static mappings, and whether the kernel has room for a new entry. -/
structure Env where
  kernel : Kernel
  hasEthHeader : Bool
  wanIpBinding : UInt32 → Option WanIpInfo
  nat6StaticMap : StaticKey → Option (BitVec 64)
  room : Bool

variable (v : TimerValue) (env : Env)

def Env.currentL3Offset : Nat := if env.hasEthHeader then 14 else 0

/-! `nat6_map_ops.h`. -/

variable (l4Protocol : UInt8) (w : WanIpInfo)

/-- The last byte of the prefix has the subnet id; the mask says which of its bits. -/
def WanIpInfo.idMask : BitVec 8 := w.nptMask.setWidth 8

variable (skb : Skb) (idx : ScanIpv6Idx) (mark : UInt32) (mask : BitVec 8)

def idByteOf (hi : BitVec 64) : BitVec 8 := hi.setWidth 8 &&& mask

def nat6IsSamePrefix (a b : BitVec 64) (mask : BitVec 8) : Bool :=
  a >>> 8 == b >>> 8 && a.setWidth 8 &&& ~~~mask == b.setWidth 8 &&& ~~~mask

def nat6StaticNeedsPrefixReplace (lanPrefix : BitVec 64) : Bool := lanPrefix != 0

def nat6StaticLookup (port : UInt16) (suffix : BitVec 64) : Option (BitVec 64) :=
  (env.nat6StaticMap ⟨port,l4Protocol,suffix⟩).or (env.nat6StaticMap ⟨0,l4Protocol,suffix⟩)

variable (pair : Inet6Pair)

def nat6CheckEgressStatic : Option (BitVec 64) :=
  nat6StaticLookup env l4Protocol pair.srcPort pair.srcAddr.lo

inductive StaticResult where
  | miss
  | replace (lanPrefix : BitVec 64)
  | pass

def nat6CheckIngressStatic : StaticResult :=
  match nat6StaticLookup env l4Protocol pair.dstPort pair.dstAddr.lo with
  | none => .miss
  | some lanPrefix => if nat6StaticNeedsPrefixReplace lanPrefix then .replace lanPrefix else .pass

/-! `nat6_ct_timer.h`. -/

def TimerValue.activated : TimerValue :=
  if ctStatusCanActivate v.status then { v with status := .active } else v

def nat6CtAdvance (pktType : PktType) (gress : Gress) (v : TimerValue) : TimerValue :=
  match gress with
  | .ingress => { v with serverStatus := v.serverStatus.afterPkt pktType }.activated
  | .egress => { v with clientStatus := v.clientStatus.afterPkt pktType }.activated

/- What the clean callback does to an entry whose report went through, or did not; none: it is
   deleted. -/
def nat6TimerCleanCallback (reported : Bool) (v : TimerValue) : Option TimerValue :=
  match v.status with
  | .release | .cleanStart => if reported then none else some { v with status := .cleanStart }
  | .active => some (if reported then { v with status := .timeout1 } else v)
  | .timeout1 => some (if reported then { v with status := .timeout2 } else v)
  | .timeout2 => some (if reported then { v with status := .release } else v)
  | _ => some (if reported then { v with status := .timeout2 } else v)

/-! `tc_nat6.h`: egress. -/

def timerKey (l4Protocol : UInt8) (client : Addr6) (port : UInt16) : TimerKey :=
  ⟨client.lo,port,idByteOf mask client.hi,l4Protocol⟩

def updateIpv6CacheValue (v : TimerValue) : TimerValue :=
  let v := { v with clientPrefix := pair.srcAddr.hi, flowId := getFlowId mark }
  if !v.isStatic && pair.dstAddr == v.triggerAddr && pair.dstPort == v.triggerPort then
    { v with isAllowReuse := getFlowAllowReusePort mark }
  else v

def refreshCt6 (v : TimerValue) : TimerValue :=
  if nat6IsSamePrefix v.clientPrefix pair.srcAddr.hi mask then
    v else updateIpv6CacheValue mark pair v

def ct6EgressValue (static : Option (BitVec 64)) : TimerValue where
  serverStatus := .init
  clientStatus := .init
  status := .init
  triggerAddr := pair.dstAddr
  triggerPort := pair.dstPort
  isAllowReuse := static.isSome || getFlowAllowReusePort mark
  flowId := getFlowId mark
  gress := .egress
  isStatic := static.isSome
  needPrefixReplace := static.elim true nat6StaticNeedsPrefixReplace
  clientPrefix := pair.srcAddr.hi

def nptPrefix (hi : BitVec 64) : BitVec 64 := (hi &&& w.nptMask) ||| (w.addr.hi &&& ~~~w.nptMask)

/- The label `do_nptv6`. In an error the quoted destination and the sender of the error are
   replaced. -/
def doNptv6 (b : Buf) (idx : ScanIpv6Idx) (pair : Inet6Pair) : Option Buf :=
  let l3 := env.currentL3Offset
  let newPrefix := nptPrefix w pair.srcAddr.hi
  if idx.isIcmpxError then do
    guard (validateRead b (l3 + 8) 8)
    let oldSender := b.be64 (l3 + 8)
    let check ← nat6L4Checksum idx.l4Offset idx.l4Protocol
    let b ← replaceQuotedPrefix env.kernel b idx (idx.icmpErrorL3Offset + 24) check pair.srcAddr.hi
      newPrefix
    replacePrefix env.kernel b idx (l3 + 8) oldSender (nptPrefix w oldSender)
  else replacePrefix env.kernel b idx (l3 + 8) pair.srcAddr.hi newPrefix

def verdict : Option Buf → TcAct × Skb
  | none => (.shot, skb)
  | some data => (.ok, { skb with data := data })

def Skb.rewritten (replace : Bool) (rewrite : Option Buf) : TcAct × Skb :=
  if replace then verdict skb rewrite else (.ok, skb)

def allowCreate : Bool := !idx.isIcmpxError && pktCanBeginCt idx.pktType

variable (s : State)

def ipv6EgressPrefixCheckAndReplace : (TcAct × Skb) × State :=
  match env.wanIpBinding skb.ifindex with
  | none => ((.shot, skb), s)
  | some w =>
    let key := timerKey w.idMask idx.l4Protocol pair.srcAddr pair.srcPort
    let npt := doNptv6 env w skb.data idx pair
    match s.timer key with
    | some v =>
      let v := nat6CtAdvance idx.pktType .egress (refreshCt6 skb.mark w.idMask pair v)
      (Skb.rewritten skb v.needPrefixReplace npt, { s with timer := update s.timer key (some v) })
    | none =>
      let static := nat6CheckEgressStatic env idx.l4Protocol pair
      if !allowCreate idx then
        match static with
        | none => ((.shot, skb), s)
        | some lanPrefix => (Skb.rewritten skb (nat6StaticNeedsPrefixReplace lanPrefix) npt, s)
      else if !env.room then ((.shot, skb), s)
      else
        let v := nat6CtAdvance idx.pktType .egress (ct6EgressValue skb.mark pair static)
        (Skb.rewritten skb v.needPrefixReplace npt, { s with timer := update s.timer key (some v) })

/-! `tc_nat6.h`: ingress. -/

def ct6IngressValue (clientPrefix : BitVec 64) (needPrefixReplace : Bool) : TimerValue where
  serverStatus := .init
  clientStatus := .init
  status := .init
  triggerAddr := pair.srcAddr
  triggerPort := pair.srcPort
  isAllowReuse := true
  flowId := getFlowId mark
  gress := .ingress
  isStatic := true
  needPrefixReplace := needPrefixReplace
  clientPrefix := clientPrefix

/- The label `do_ingress_nptv6`. In an error the quoted source and the destination are replaced; the
   quoted prefix counts as the old one of both. -/
def doIngressNptv6 (b : Buf) (idx : ScanIpv6Idx) (pair : Inet6Pair) (clientPrefix : BitVec 64) :
    Option Buf :=
  let l3 := env.currentL3Offset
  if idx.isIcmpxError then do
    guard (validateRead b (idx.icmpErrorL3Offset + 8) 8)
    let oldInner := b.be64 (idx.icmpErrorL3Offset + 8)
    let check ← nat6L4Checksum idx.l4Offset idx.l4Protocol
    let b ← replaceQuotedPrefix env.kernel b idx (idx.icmpErrorL3Offset + 8) check oldInner
      clientPrefix
    replacePrefix env.kernel b idx (l3 + 24) oldInner clientPrefix
  else replacePrefix env.kernel b idx (l3 + 24) pair.dstAddr.hi clientPrefix

def TimerValue.admits : Bool :=
  v.isStatic || v.isAllowReuse || l4Protocol == ipprotoIcmpv6 ||
    (pair.srcAddr == v.triggerAddr && pair.srcPort == v.triggerPort)

def ingressOpen : (TcAct × Skb) × State :=
  let key := timerKey w.idMask idx.l4Protocol pair.dstAddr pair.dstPort
  let opened (clientPrefix : BitVec 64) (replace : Bool) : State :=
    let v := nat6CtAdvance idx.pktType .ingress (ct6IngressValue skb.mark pair clientPrefix replace)
    if allowCreate idx && env.room then { s with timer := update s.timer key (some v) } else s
  match nat6CheckIngressStatic env idx.l4Protocol pair with
  | .miss => ((.shot, skb), s)
  | .pass => ((.ok, Nat4.Skb.markStatic skb), opened pair.dstAddr.hi false)
  | .replace lanPrefix =>
    (verdict skb (doIngressNptv6 env skb.data idx pair lanPrefix), opened lanPrefix true)

def ipv6IngressPrefixCheckAndReplace : (TcAct × Skb) × State :=
  match env.wanIpBinding skb.ifindex with
  | none => ((.shot, skb), s)
  | some w =>
    let key := timerKey w.idMask idx.l4Protocol pair.dstAddr pair.dstPort
    match s.timer key with
    | some v =>
      if !v.admits idx.l4Protocol pair then ((.shot, skb), s)
      else
        let s :=
          { s with timer := update s.timer key (some (nat6CtAdvance idx.pktType .ingress v)) }
        if !v.needPrefixReplace || v.clientPrefix == pair.dstAddr.hi then
          ((.ok, if v.isStatic then Nat4.Skb.markStatic skb else skb), s)
        else (verdict skb (doIngressNptv6 env skb.data idx pair v.clientPrefix), s)
    | none => ingressOpen env w skb idx pair s

/-! `tc_nat.bpf.c`. -/

def frag6Track : Option Inet6Pair × State :=
  if idx.fragmentType = .single then (some pair, s)
  else if idx.isIcmpxError then (none, s)
  else
    let key : FragCacheKey := ⟨idx.l4Protocol,idx.fragmentId,pair.srcAddr,pair.dstAddr⟩
    if idx.fragmentType = .first then
      (some pair, { s with frags := update s.frags key (some (pair.srcPort, pair.dstPort)) })
    else ((s.frags key).map fun v => { pair with srcPort := v.1, dstPort := v.2 }, s)

def natV6Prologue (translate : ScanIpv6Idx → Inet6Pair → State → (TcAct × Skb) × State)
    (s : State) : (TcAct × Skb) × State :=
  match scanIpv6Full skb.data env.currentL3Offset with
  | .error _ => ((.ok, skb), s)
  | .ok idx =>
    if shouldNatSkipProtocol idx.l4Protocol then ((.ok, skb), s)
    else
      match skbReadIpv6Info skb.data env.currentL3Offset idx with
      | none => ((.shot, skb), s)
      | some pair =>
        if isBroadcastIp6Pair pair then ((.ok, skb), s)
        else
          match frag6Track idx pair s with
          | (none, s) => ((.shot, skb), s)
          | (some pair, s) => translate idx pair s

def tcNatV6EgressDo : (TcAct × Skb) × State :=
  natV6Prologue env skb (ipv6EgressPrefixCheckAndReplace env skb) s

def tcNatV6IngressDo : (TcAct × Skb) × State :=
  natV6Prologue env skb (ipv6IngressPrefixCheckAndReplace env skb) s

/-! Packets and timers, one after another. The bindings and the static mappings may be others each
time. -/

inductive Event where
  | egress (env : Env) (skb : Skb)
  | ingress (env : Env) (skb : Skb)
  | fire (key : TimerKey) (reported : Bool)

def nat6Step : Event → Option State
  | .egress env skb => some (tcNatV6EgressDo env skb s).2
  | .ingress env skb => some (tcNatV6IngressDo env skb s).2
  | .fire key reported =>
    (s.timer key).map fun v =>
      { s with timer := update s.timer key (nat6TimerCleanCallback reported v) }

end Landscape.Nat6
