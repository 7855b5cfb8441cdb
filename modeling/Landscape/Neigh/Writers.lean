import Landscape.Packet.Ipv6
import Landscape.Route.Path

/-! The neighbour bindings `ip_mac_v4` and `ip_mac_v6` and all that writes them: LAN frames,
duplicate address detection, the kernel's forwarding table and its neighbour events, the learn calls
of the address servers, the periodic sync. -/
namespace Landscape.Neigh
open Interleave Route Packet

inductive MacSource where
  | neigh
  | dad
  deriving DecidableEq

structure MacValue where
  ifindex : UInt32
  mac : MacAddr
  devMac : MacAddr
  sourced : MacSource
  deriving DecidableEq

inductive AttestKind where
  | frame
  | dad
  | learn
  | neighbour
  deriving DecidableEq

structure Attestation where
  kind : AttestKind
  ip : IpAddr
  mac : MacAddr

/- Both maps in one, by the family of the key. `evidence` is not part of the program: it collects
   what has been attested so far. -/
structure State where
  ipMac : AList fun _ : IpAddr => MacValue
  evidence : List Attestation

def State.empty : State := ⟨∅,[]⟩

structure FibResult where
  ifindex : UInt32
  dmac : MacAddr
  smac : MacAddr
  nextHop : IpAddr

def FibResult.attests (r : FibResult) : Attestation := ⟨.neighbour,r.nextHop,r.dmac⟩

structure FibParams where
  src : IpAddr
  dst : IpAddr
  totLen : Nat
  ifindex : UInt32
  direct : Bool

inductive Writer where
  | learnSrcIpMac
  | tcLanDao
  | wanRoute
  | lanRoute
  | kprobeNeighUpdate
  | upsertIpMac
  | reconcile

inductive UpdateFlag where
  | any
  | noExist

inductive Op where
  | lookup (a : IpAddr)
  | update (w : Writer) (a : IpAddr) (v : MacValue) (flag : UpdateFlag)
  | delete (a : IpAddr)
  | keys (f : IpFamily)
  | fibLookup (r : Option FibResult)

def Res : Op → Type
  | .lookup _ => Option MacValue
  | .update _ _ _ _ => Bool
  | .delete _ => Unit
  | .keys _ => List IpAddr
  | .fibLookup _ => Option FibResult

def exec : (o : Op) → State → Res o × State
  | .lookup a, s => (s.ipMac.lookup a, s)
  | .update _ a v .any, s => (true, { s with ipMac := s.ipMac.insert a v })
  | .update _ a v .noExist, s =>
    match s.ipMac.lookup a with
    | some _ => (false, s)
    | none => (true, { s with ipMac := s.ipMac.insert a v })
  | .delete a, s => ((), { s with ipMac := s.ipMac.erase a })
  | .keys f, s => (s.ipMac.keys.filter fun a => a.family = f, s)
  | .fibLookup r, s => (r, { s with evidence := r.toList.map (·.attests) ++ s.evidence })

abbrev M := Prog Op Res

def lookupMac (a : IpAddr) : M (Option MacValue) := .perform (Op.lookup a)
def updateMac (w : Writer) (a : IpAddr) (v : MacValue) (flag : UpdateFlag) : M Bool :=
  .perform (Op.update w a v flag)

def deleteMac (a : IpAddr) : M Unit := .perform (Op.delete a)
variable (f : IpFamily)

def macKeys : M (List IpAddr) := .perform (Op.keys f)
def bpfFibLookup (r : Option FibResult) : M (Option FibResult) := .perform (Op.fibLookup r)

structure Packet where
  ingressIfindex : UInt32
  hDest : MacAddr
  hSource : MacAddr
  saddr : IpAddr
  daddr : IpAddr

/- The body `learn_src_ip_mac_{v4,v6}_{xdp,tc}` have in common. -/
def learnSrcIpMac (p : Packet) : M Unit := do
  match ← lookupMac p.saddr with
  | some _ => pure ()
  | none => do
    let _ ← updateMac .learnSrcIpMac p.saddr ⟨p.ingressIfindex,p.hSource,0,.neigh⟩ .noExist
    pure ()

variable (a : BitVec 128) (p : Packet)

def learnSrcIpMacXdp : M Unit := learnSrcIpMac p

def learnSrcIpMacTc (currentL3Offset : Nat) : M Unit :=
  if currentL3Offset = 0 then pure () else learnSrcIpMac p

structure Tables where
  lan : IpAddr → Option LanValue
  fib : FibParams → Option FibResult

/- `redirect` stands for `xdp_redirect_or_tc_handoff`, with the destination and source MAC written
   to the frame, if any. -/
inductive Verdict where
  | aborted
  | pass
  | redirect (ifindex : UInt32) (macs : Option (MacAddr × MacAddr))

def LanValue.hop (info : LanValue) (daddr : IpAddr) : IpAddr :=
  if info.routeType = .nextHop then info.addr else daddr

/- `macKey` is the key the answer of the forwarding table is stored under. -/
def lanRedirectCheckInWan (totLen : Nat) (macKey : LanValue → IpAddr) (p : Packet) (tb : Tables) :
    M Verdict :=
  match tb.lan p.daddr with
  | none => pure .aborted
  | some info =>
    if info.routeType = .wan then pure .pass
    else if info.ifindex = p.ingressIfindex then pure .pass
    else if info.routeType = .lan ∧ info.addr = p.daddr then pure .pass
    else
      match info.mac with
      | none => pure (.redirect info.ifindex none)
      | some devMac => do
        match ← lookupMac (LanValue.hop info p.daddr) with
        | some v => pure (.redirect info.ifindex (some (v.mac, devMac)))
        | none =>
          match ← bpfFibLookup (tb.fib ⟨p.saddr,p.daddr,totLen,p.ingressIfindex,false⟩) with
          | none => pure (.redirect info.ifindex none)
          | some r =>
            if r.ifindex = p.ingressIfindex then pure .pass
            else do
              let _ ← updateMac .wanRoute (macKey info) ⟨r.ifindex,r.dmac,r.smac,.neigh⟩ .any
              pure (.redirect r.ifindex (some (r.dmac, r.smac)))

variable (tb : Tables)

def xdpRoute4LanRedirectCheckInWan : M Verdict :=
  lanRedirectCheckInWan 20 (fun info => LanValue.hop info p.daddr) p tb

/- The IPv6 variant looks the next hop up, but stores the answer under the destination. -/
def xdpRoute6LanRedirectCheckInWan : M Verdict :=
  lanRedirectCheckInWan 0 (fun _ => p.daddr) p tb

def isBroadcastOrMcastMac (dmac : MacAddr) : Bool :=
  dmac == 0xffffffffffff || dmac >>> 32 == 0x3333

def xdpWanRouteIngress (wanAddr : Option IpAddr) (tb : Tables) : M Verdict :=
  if isBroadcastOrMcastMac p.hDest then pure .pass
  else if isBroadcastIp p.daddr then pure .pass
  else if wanAddr = some p.daddr then pure .pass
  else
    match p.daddr with
    | .v4 _ => xdpRoute4LanRedirectCheckInWan p tb
    | .v6 _ => xdpRoute6LanRedirectCheckInWan p tb

/- The result is `none` where the packet goes on to the WAN routes. -/
def lanRedirectCheckInLan (totLen : Nat) (p : Packet) (tb : Tables) : M (Option Verdict) :=
  match tb.lan p.daddr with
  | none => pure none
  | some info =>
    if info.routeType = .wan then pure (if info.addr = p.daddr then some .pass else none)
    else if info.ifindex = p.ingressIfindex then pure (some .pass)
    else if info.routeType = .lan ∧ info.addr = p.daddr then pure (some .pass)
    else
      match info.mac with
      | none => pure (some (.redirect info.ifindex none))
      | some devMac => do
        let hop := LanValue.hop info p.daddr
        match ← lookupMac hop with
        | some v => pure (some (.redirect info.ifindex (some (v.mac, devMac))))
        | none =>
          match ← bpfFibLookup (tb.fib ⟨p.saddr,hop,totLen,p.ingressIfindex,true⟩) with
          | none => pure none
          | some r =>
            if r.ifindex = p.ingressIfindex then pure (some .pass)
            else do
              let _ ← updateMac .lanRoute hop ⟨info.ifindex,r.dmac,devMac,.neigh⟩ .any
              pure (some (.redirect info.ifindex (some (r.dmac, devMac))))

def xdpRoute4LanRedirectCheckInLan : M (Option Verdict) :=
  lanRedirectCheckInLan 20 p tb

def xdpRoute6LanRedirectCheckInLan : M (Option Verdict) :=
  lanRedirectCheckInLan 40 p tb

/-- `xdp_lan_route`, up to the point where the WAN routes decide; a hit in the route cache ends it
before anything is learned. -/
def xdpLanRoute (cacheHit : Bool) (tb : Tables) : M (Option Verdict) :=
  if isBroadcastOrMcastMac p.hDest then pure (some .pass)
  else if isBroadcastIp p.daddr then pure (some .pass)
  else if cacheHit then pure none
  else do
    learnSrcIpMacXdp p
    match p.daddr with
    | .v4 _ => xdpRoute4LanRedirectCheckInLan p tb
    | .v6 _ => xdpRoute6LanRedirectCheckInLan p tb

/-- `tc_route4_lan_ingress` and `tc_route6_lan_ingress`, as far as they write bindings. -/
def tcRouteLanIngress (currentL3Offset : Nat) (cacheHit : Bool) : M Unit :=
  if isBroadcastIp p.daddr then pure ()
  else if cacheHit then pure ()
  else learnSrcIpMacTc p currentL3Offset

inductive ExtHeader where
  | options
  | fragment (off : Nat) (more : Bool)
  | auth
  | other
  deriving DecidableEq

structure Icmp6 where
  type : UInt8
  code : UInt8
  target : Option (BitVec 128)
  deriving DecidableEq

/- The headers after the IPv6 header; `icmp6` is missing where something else follows them. -/
structure SolicitFrame where
  ingressIfindex : UInt32
  currentL3Offset : Nat
  isIpv6 : Bool
  hDest : MacAddr
  hSource : MacAddr
  saddr : BitVec 128
  daddr : BitVec 128
  exts : List ExtHeader
  icmp6 : Option Icmp6

def walkExts : Nat → List ExtHeader → Bool
  | _, [] => true
  | 0, _ :: _ => false
  | n + 1, .options :: rest => walkExts n rest
  | n + 1, .fragment off more :: rest => if off ≠ 0 ∨ more = false then false else walkExts n rest
  | _ + 1, .auth :: _ => false
  | _ + 1, .other :: _ => false

def isSolicitedNodeMulticast : Bool := a >>> 24 == 0xff0200000000000000000001ff

def isTargetSolicitedNode (daddr target : BitVec 128) : Bool :=
  isSolicitedNodeMulticast daddr && daddr.setWidth 24 == target.setWidth 24

def isTargetSolicitedNodeMac (mac : MacAddr) (target : BitVec 128) : Bool :=
  mac >>> 24 == 0x3333ff && mac.setWidth 24 == target.setWidth 24

def isLinkLocalIp6 : Bool := a >>> 118 == 0x3fa
def isMulticastIp6 : Bool := a >>> 120 == 0xff

def SolicitFrame.claimed (p : SolicitFrame) : Option (BitVec 128) :=
  if p.currentL3Offset > 0 ∧ p.isIpv6 = false then none
  else if walkExts ldMaxIpv6ExtNum p.exts = false then none
  else
    match p.icmp6 with
    | none => none
    | some m =>
      if isSolicitedNodeMulticast p.daddr = false then none
      else if p.saddr ≠ 0 then none
      else if m.type ≠ 135 ∨ m.code ≠ 0 then none
      else m.target

structure Ip6DaoEvent where
  ifindex : UInt32
  ip : BitVec 128
  mac : MacAddr

def learnable (p : SolicitFrame) (lan : IpAddr → Option LanValue) (target : BitVec 128) : Bool :=
  target != 0 && !isMulticastIp6 target && !isLinkLocalIp6 target &&
    isTargetSolicitedNode p.daddr target &&
    (match lan (.v6 target) with
      | none => false
      | some info => info.routeType == .lan && info.ifindex == p.ingressIfindex &&
          info.addr != .v6 target) &&
    p.currentL3Offset != 0 && isTargetSolicitedNodeMac p.hDest target

def tcLanDao (p : SolicitFrame) (lan : IpAddr → Option LanValue) : M (Option Ip6DaoEvent) :=
  match p.claimed with
  | none => pure none
  | some target =>
    if learnable p lan target then do
      let event : Ip6DaoEvent := ⟨p.ingressIfindex,target,p.hSource⟩
      let stored ← updateMac .tcLanDao (.v6 target) ⟨p.ingressIfindex,p.hSource,0,.dad⟩ .noExist
      if stored then pure (some event)
      else
        match ← lookupMac (.v6 target) with
        | some existing => pure (if existing.mac ≠ p.hSource then some event else none)
        | none => pure none
    else pure none

structure NeighUpdate where
  key : IpAddr
  ifindex : UInt32
  ha : MacAddr
  devAddr : Option MacAddr
  newLladdr : Option MacAddr
  newState : BitVec 8
  updateFlags : BitVec 32

def nudValid : BitVec 8 := 0x02 ||| 0x04 ||| 0x40 ||| 0x80
def nudFailed : BitVec 8 := 0x20

def NeighUpdate.mac (n : NeighUpdate) : MacAddr := n.newLladdr.getD n.ha

/- The addresses the probe skips differ between the families. -/
def NeighUpdate.skips (n : NeighUpdate) : Bool :=
  match n.key with
  | .v4 a => a == 0
  | .v6 a => isMulticastIp6 a

def macPresent (mac : MacAddr) : Bool :=
  mac.extractLsb' 40 8 != 0 || mac.extractLsb' 32 8 != 0 || mac.extractLsb' 0 8 != 0

def kprobeNeighUpdate (n : NeighUpdate) : M Unit :=
  if n.updateFlags &&& 3 = 0 then pure ()
  else if n.skips then pure ()
  else if n.newState &&& nudValid ≠ 0 then
    if macPresent n.mac then do
      let _ ← updateMac .kprobeNeighUpdate n.key ⟨n.ifindex,n.mac,n.devAddr.getD 0,.neigh⟩ .any
      pure ()
    else pure ()
  else if n.newState = nudFailed then deleteMac n.key
  else pure ()

structure LearnCall where
  ifindex : UInt32
  ip : IpAddr
  mac : MacAddr
  devMac : MacAddr

def upsertIpMac (c : LearnCall) : M Unit := do
  let _ ← updateMac .upsertIpMac c.ip ⟨c.ifindex,c.mac,c.devMac,.neigh⟩ .any
  pure ()

inductive NeighbourState where
  | failed
  | incomplete
  | noarp
  | none
  | valid
  deriving DecidableEq

/- One message of the dump: the last destination, and the last link layer address if it has six
   bytes, not all zero. `device` is missing where the interface has no name any more, and has its
   MAC if that can be read. -/
structure NeighbourMessage where
  state : NeighbourState
  destination : Option IpAddr
  linkLayerAddress : Option MacAddr
  ifindex : UInt32
  device : Option (Option MacAddr)

def isNeighbourIp : IpAddr → Bool
  | .v4 a => a != 0 && a &&& 0xff000000 != 0x7f000000 && a &&& 0xf0000000 != 0xe0000000
  | .v6 a => a != 0 && a != 1 && !isMulticastIp6 a

def neighMsgToEntry (msg : NeighbourMessage) : Option (IpAddr × MacValue) :=
  if msg.state ≠ .valid then none
  else
    match msg.destination with
    | none => none
    | some ip =>
      if ip.family ≠ f ∨ isNeighbourIp ip = false then none
      else
        match msg.linkLayerAddress, msg.device with
        | some mac, some device => some (ip, ⟨msg.ifindex,mac,device.getD 0,.neigh⟩)
        | _, _ => none

def isDadSourced (a : IpAddr) : M Bool :=
  match a with
  | .v4 _ => pure false
  | .v6 _ => do
    match ← lookupMac a with
    | some v => pure (v.sourced = .dad)
    | none => pure false

def collectStale (desired : List IpAddr) : List IpAddr → M (List IpAddr)
  | [] => pure []
  | key :: keys =>
    if key ∈ desired then collectStale desired keys
    else do
      let keep ← isDadSourced key
      let stale ← collectStale desired keys
      pure (if keep then stale else key :: stale)

def deleteStale : List IpAddr → M Unit
  | [] => pure ()
  | key :: keys => do
    deleteMac key
    deleteStale keys

def updateBatch : List (IpAddr × MacValue) → M Unit
  | [] => pure ()
  | (key, v) :: entries => do
    let _ ← updateMac .reconcile key v .any
    updateBatch entries

def reconcileEntriesInMap (entries : List (IpAddr × MacValue)) : M Unit := do
  let keys ← macKeys f
  let stale ← collectStale (entries.map (·.1)) keys
  deleteStale stale
  updateBatch entries

inductive Event where
  | xdpLan (p : Packet) (cacheHit : Bool) (tb : Tables)
  | tcLan (p : Packet) (currentL3Offset : Nat) (cacheHit : Bool)
  | solicit (p : SolicitFrame) (lan : IpAddr → Option LanValue)
  | wan (p : Packet) (wanAddr : Option IpAddr) (tb : Tables)
  | neighUpdate (n : NeighUpdate)
  | learn (c : LearnCall)
  | sync (f : IpFamily) (msgs : List NeighbourMessage)

def discard {α : Type} (p : M α) : M Unit := do
  let _ ← p
  pure ()

def Event.run : Event → M Unit
  | .xdpLan p cacheHit tb => discard (xdpLanRoute p cacheHit tb)
  | .tcLan p l3 cacheHit => tcRouteLanIngress p l3 cacheHit
  | .solicit p lan => discard (tcLanDao p lan)
  | .wan p wanAddr tb => discard (xdpWanRouteIngress p wanAddr tb)
  | .neighUpdate n => kprobeNeighUpdate n
  | .learn c => upsertIpMac c
  | .sync f msgs => reconcileEntriesInMap f (msgs.filterMap (neighMsgToEntry f))

/-- What an event attests by itself: the source of a LAN frame, the claim of a solicitation, the
address a learn call or a valid neighbour of the kernel is about. -/
def Event.attests : Event → List Attestation
  | .xdpLan p _ _ | .tcLan p _ _ => [⟨.frame,p.saddr,p.hSource⟩]
  | .solicit p _ => p.claimed.toList.map fun target => ⟨.dad,.v6 target,p.hSource⟩
  | .wan _ _ _ => []
  | .neighUpdate n => if n.newState &&& nudValid ≠ 0 then [⟨.neighbour,n.key,n.mac⟩] else []
  | .learn c => [⟨.learn,c.ip,c.mac⟩]
  | .sync f msgs => (msgs.filterMap (neighMsgToEntry f)).map fun e => ⟨.neighbour,e.1,e.2.mac⟩

structure Task where
  event : Event
  known : List Attestation

def Task.answered (l : Task) (r : Option FibResult) : Task :=
  { l with known := r.toList.map (·.attests) ++ l.known }

def record (l : Task) : (o : Op) → Res o → Task
  | .fibLookup _, r => l.answered r
  | _, _ => l

def launch (e : Event) (s : State) : Option (State × Thread Op Res Task) :=
  some ({ s with evidence := e.attests ++ s.evidence }, ⟨e.run,⟨e,e.attests⟩⟩)

def machine : Sys Op Res State Task Event := ⟨exec,record,launch⟩

end Landscape.Neigh
