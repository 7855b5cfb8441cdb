import Landscape.Nat4.CtTimer

/-! `tc_nat4.h` and the IPv4 half of `tc_nat.bpf.c`: the packet programs. -/
namespace Landscape.Nat4
open Packet

def pktCanBeginCt (pktType : PktType) : Bool :=
  pktType == .connless || pktType == .tcpSyn

def shouldNatSkipProtocol (protocol : UInt8) : Bool :=
  !(protocol == ipprotoTcp || protocol == ipprotoUdp || protocol == ipprotoIcmp ||
    protocol == nexthdrIcmp)

variable (env : Env) (mark ifindex : UInt32) (proto : UInt8) (allowCreateMapping : Bool) (skb : Skb)
  (idx : ScanIpv4Idx) (pair : Inet4Pair)

/-- `frag4_track`; `none` is `TC_ACT_SHOT`. -/
def frag4Track : M (Option Inet4Pair) := do
  if idx.fragmentType = .single then pure (some pair)
  else if idx.isIcmpxError then pure none
  else
    let key : FragCacheKey := ⟨idx.l4Protocol,idx.fragmentId,pair.srcAddr,pair.dstAddr⟩
    if idx.fragmentType = .first then
      if ← fragUpdate key (pair.srcPort, pair.dstPort) then
        match ← fragLookup key with
        | none => pure none
        | some _ => pure (some pair)
      else pure none
    else
      match ← fragLookup key with
      | none => pure none
      | some v => pure (some { pair with srcPort := v.1, dstPort := v.2 })

def nat4CtNewValue (clientAddr : UInt32) (clientPort : UInt16) (gress : Gress)
    (dynIngress : Option Mapping) : TimerValue where
  serverStatus := .init
  clientStatus := .init
  status := if dynIngress.isSome then .pendingRef else .init
  clientAddr := clientAddr
  clientPort := clientPort
  gress := gress
  flowId := getFlowId mark
  generationSnapshot := dynIngress.elim 0 (·.val.generation)
  isStatic := dynIngress.isNone

def nat4CtCreate (ctKey : TimerKey) (clientAddr : UInt32) (clientPort : UInt16)
    (gress : Gress) (dynIngress : Option Mapping) : M (Option Ct) := do
  match ← nat4InsertCt ctKey (nat4CtNewValue mark clientAddr clientPort gress dynIngress) with
  | none => pure none
  | some tv =>
    match dynIngress with
    | none => pure (some tv)
    | some m =>
      if ← nat4StateTryInc m then
        storeStatus tv .init
        pure (some tv)
      else do
        timerDelete ctKey
        pure none

/- `struct nat4_egress_result` with the two out-parameters of the dynamic lookup. -/
structure EgressResult where
  natAddr : UInt32
  natPort : UInt16
  isCreated : Bool
  dynIngress : Option Mapping
  allocItem : PortQueueValue

/- The first half of `nat4_dyn_egress_lookup_and_check`: an existing mapping of the client. -/
def nat4DynEgressReuse (e : EgressMapping) (m : Mapping) : M (Option EgressResult) := do
  let isAncestor := pair.dstAddr == e.val.triggerAddr && pair.dstPort == e.val.triggerPort
  let result : EgressResult := ⟨e.val.addr,e.val.port,false,some m,⟨0,0⟩⟩
  let reuse ← readEgressReuse e
  if !reuse && proto != ipprotoIcmp && !isAncestor then pure none
  else if isAncestor then
    let allow := getFlowAllowReusePort mark
    writeEgressReuse e allow
    writeMappingReuse m allow
    pure (some result)
  else pure (some result)

/- The second half: take a free port and install a mapping pair for it. -/
def nat4DynEgressCreate : M (Option EgressResult) := do
  match env.wanIpBinding ifindex with
  | none => pure none
  | some wanIp =>
    match ← nat4AllocPort env proto with
    | none => pure none
    | some item =>
      let value : EgressMappingValue :=
        { addr := wanIp
          port := item.port
          triggerPort := pair.dstPort
          triggerAddr := pair.dstAddr
          isAllowReuse := getFlowAllowReusePort mark }
      match ← nat4InsertMappings ⟨.egress,proto,pair.srcPort,pair.srcAddr⟩ value
          (item.lastGeneration + 1) with
      | none => do
        let _ ← nat4QueuePush proto item
        pure none
      | some m => pure (some ⟨wanIp,item.port,true,some m,item⟩)

def nat4DynEgressLookupAndCheck : M (Option EgressResult) := do
  let egressKey : MappingKey := ⟨.egress,proto,pair.srcPort,pair.srcAddr⟩
  let create : M (Option EgressResult) :=
    if allowCreateMapping then nat4DynEgressCreate env mark ifindex proto pair else pure none
  match ← egressLookup egressKey with
  | none => create
  | some e =>
    match ← ingressLookup ⟨.ingress,proto,e.val.port,e.val.addr⟩ with
    | none => do
      egressDelete egressKey
      create
    | some m =>
      if m.val.addr ≠ pair.srcAddr ∨ m.val.port ≠ pair.srcPort then
        egressDelete egressKey
        create
      else nat4DynEgressReuse mark proto pair e m

def nat4StEgressEntry : Option StaticValue :=
  let exactKey : MappingKey := ⟨.egress,proto,pair.srcPort,pair.srcAddr⟩
  match env.nat4StaticMap exactKey with
  | some v => some v
  | none => if pair.srcAddr ≠ 0 then env.nat4StaticMap { exactKey with fromAddr := 0 } else none

def nat4StEgressLookup : Option EgressResult := do
  let staticEgress ← nat4StEgressEntry env proto pair
  let _ ← nat4LookupStaticIngress env proto staticEgress.port
  let wanIp ← env.wanIpBinding ifindex
  some ⟨wanIp,staticEgress.port,false,none,⟨0,0⟩⟩

structure LanResult where
  lanAddr : UInt32
  lanPort : UInt16

def nat4DynIngressLookupAndCheck : M (Option (LanResult × Mapping)) := do
  match ← ingressLookup ⟨.ingress,proto,pair.dstPort,pair.dstAddr⟩ with
  | none => pure none
  | some m =>
    let reuse ← readMappingReuse m
    if !reuse && proto != ipprotoIcmp &&
        (pair.srcAddr != m.val.triggerAddr || pair.srcPort != m.val.triggerPort) then pure none
    else pure (some (⟨m.val.addr,m.val.port⟩, m))

def nat4StIngressLookup : Option LanResult :=
  (nat4LookupStaticIngress env proto pair.dstPort).map fun v => ⟨v.addr,v.port⟩

/- The protocol the NAT works on, and whether the packet may open a connection. -/
def natL4Protocol : UInt8 :=
  if idx.isIcmpxError then idx.icmpErrorL4Protocol else idx.l4Protocol

def allowCreate : Bool := !idx.isIcmpxError && pktCanBeginCt idx.pktType

def nat4EgressLookup : M (Option EgressResult) :=
  match nat4StEgressLookup env ifindex proto pair with
  | some result => pure (some result)
  | none => nat4DynEgressLookupAndCheck env mark ifindex proto allowCreateMapping pair

variable (result : EgressResult)

def egressCtKey : TimerKey :=
  ⟨proto,
    { srcAddr := pair.dstAddr
      dstAddr := result.natAddr
      srcPort := if proto = ipprotoIcmp then result.natPort else pair.dstPort
      dstPort := result.natPort }⟩

def nat4EgressRollback : M Unit := do
  match result.isCreated, result.dynIngress with
  | true, some m =>
    let sr ← readStateRef m
    if sr = nat4StateMake nat4StateActive 0 then
      nat4DeleteMappingPair proto result.natAddr result.natPort pair.srcAddr pair.srcPort
      let _ ← nat4QueuePush proto result.allocItem
      pure ()
    else pure ()
  | _, _ => pure ()

def nat4EgressCt : M (Option Ct) := do
  let ctKey := egressCtKey proto pair result
  match ← nat4CtResolve ctKey result.dynIngress with
  | some c => pure (some c)
  | none =>
    if allowCreateMapping then
      match ← nat4CtCreate mark ctKey pair.srcAddr pair.srcPort .egress result.dynIngress with
      | some c => pure (some c)
      | none => do
        nat4EgressRollback proto pair result
        pure none
    else pure none

def rewriteV4 (isModifySource : Bool) (action : Nat4Action) : TcAct × Skb :=
  match modifyHeadersV4 env.kernel skb.data idx.isIcmpxError (natL4Protocol idx)
      env.currentL3Offset idx.l4Offset idx.icmpErrorInnerL4Offset isModifySource action with
  | none => (.shot, skb)
  | some data => (.ok, { skb with data := data })

def egressTranslate : M (TcAct × Skb) := do
  let proto := natL4Protocol idx
  match ← nat4EgressLookup env skb.mark skb.ifindex proto (allowCreate idx) pair with
  | none => pure (.shot, skb)
  | some result =>
    match ← nat4EgressCt skb.mark proto (allowCreate idx) pair result with
    | none => pure (.shot, skb)
    | some c =>
      let out := rewriteV4 env skb idx true
        ⟨pair.srcAddr,pair.srcPort,result.natAddr,result.natPort⟩
      if idx.isIcmpxError then pure out
      else do
        let _ ← nat4CtAdvance idx.pktType .egress c
        pure out

/- What both directions do first: scan, skip what is not translated, read the addresses and
   ports, and take the ports of a later fragment from the first one. -/
def natV4Prologue (translate : ScanIpv4Idx → Inet4Pair → M (TcAct × Skb)) : M (TcAct × Skb) := do
  match scanIpv4Full skb.data env.currentL3Offset with
  | .error _ => pure (.ok, skb)
  | .ok idx =>
    if shouldNatSkipProtocol idx.l4Protocol then pure (.ok, skb)
    else
      match skbReadIpv4Info skb.data env.currentL3Offset idx with
      | none => pure (.shot, skb)
      | some pair =>
        if isBroadcastIp4Pair pair then pure (.ok, skb)
        else
          match ← frag4Track idx pair with
          | none => pure (.shot, skb)
          | some pair => translate idx pair

def tcNatV4EgressDo : M (TcAct × Skb) :=
  natV4Prologue env skb (egressTranslate env skb)

def ingressRewrite (c : Ct) (toAddr : UInt32) (toPort : UInt16) : M (TcAct × Skb) := do
  let out := rewriteV4 env skb idx false ⟨pair.dstAddr,pair.dstPort,toAddr,toPort⟩
  if idx.isIcmpxError then pure out
  else do
    let _ ← nat4CtAdvance idx.pktType .ingress c
    pure out

def Skb.markStatic : Skb :=
  { skb with mark := replaceCacheMask skb.mark ingressStaticMark }

def ingressOpen (ctKey : TimerKey) : M (TcAct × Skb) := do
  let proto := natL4Protocol idx
  match nat4StIngressLookup env proto pair with
  | some result =>
    let skb := Skb.markStatic skb
    let toAddr := if result.lanAddr = 0 then pair.dstAddr else result.lanAddr
    match ← nat4CtCreate skb.mark ctKey toAddr result.lanPort .ingress none with
    | none => pure (.shot, skb)
    | some c => ingressRewrite env skb idx pair c toAddr result.lanPort
  | none =>
    match ← nat4DynIngressLookupAndCheck proto pair with
    | none => pure (.shot, skb)
    | some (result, m) =>
      if ← nat4CanCreateCt m then
        match ← nat4CtCreate skb.mark ctKey result.lanAddr result.lanPort .ingress (some m) with
        | none => pure (.shot, skb)
        | some c => ingressRewrite env skb idx pair c result.lanAddr result.lanPort
      else pure (.shot, skb)

def ingressTranslate : M (TcAct × Skb) := do
  let ctKey : TimerKey := ⟨natL4Protocol idx,pair⟩
  match ← nat4CtIngressResolve ctKey with
  | .unusable => pure (.shot, skb)
  | .ok c =>
    let skb := if c.val.isStatic then Skb.markStatic skb else skb
    ingressRewrite env skb idx pair c c.val.clientAddr c.val.clientPort
  | .miss => if allowCreate idx then ingressOpen env skb idx pair ctKey else pure (.shot, skb)

def tcNatV4IngressDo : M (TcAct × Skb) :=
  natV4Prologue env skb (ingressTranslate env skb)

end Landscape.Nat4
