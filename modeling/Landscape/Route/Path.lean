import Landscape.Packet.Base
import Landscape.Route.Lan
import Landscape.Route.Slots

/-! The way of a LAN packet through the data plane: the route caches, the LAN routes, its flow, and
the slot of the flow that decides on the WAN. The functions for the two families differ in the maps
they read only; the maps here are keyed by the family. -/
namespace Landscape.Route
open Packet Function

/- `flow_match_key`, as the trie compares it. -/
inductive FlowMatchKey where
  | mac (mac : MacAddr)
  | ip (net : IpNet)
  deriving DecidableEq

structure MarkValue where
  mark : UInt32
  priority : UInt16
  deriving DecidableEq

structure WanIpInfo where
  addr : IpAddr
  gateway : IpAddr
  deriving DecidableEq

/-- The maps the control plane keeps. `ipMac` gives the MAC of a neighbour and of the device. -/
structure Maps where
  flowMatch : FlowMatchKey → Option FlowId
  flowIp : IpFamily → FlowId → Option (IpNet → Option MarkValue)
  flowDns : IpFamily → FlowId → Option (IpAddr → Option MarkValue)
  slots : SlotMap
  lan : LanMap
  ipMac : IpAddr → Option (MacAddr × MacAddr)
  wanIpBinding : UInt32 → IpFamily → Option WanIpInfo
  xdpRedirectAble : UInt32 → Bool

structure CacheKey where
  localAddr : IpAddr
  remoteAddr : IpAddr
  deriving DecidableEq

structure CacheValue where
  markValue : UInt32
  hasMac : Bool
  isDocker : Bool
  xdpRedirectAble : Bool
  ifindex : UInt32
  gateAddr : IpAddr
  mac : MacAddr
  deriving DecidableEq

abbrev RouteCache := CacheKey → Option CacheValue

structure LanPacket where
  ifindex : UInt32
  l3Offset : Nat
  hSource : MacAddr
  saddr : IpAddr
  daddr : IpAddr
  mark : UInt32

variable (m : Maps) (wan lan : RouteCache) (p : LanPacket)

def LanPacket.key : CacheKey := ⟨p.saddr,p.daddr⟩

def isBroadcastIp6 (a : BitVec 128) : Bool := a >>> 120 == 0xff || a >>> 118 == 0x3fa

def isBroadcastIp : IpAddr → Bool
  | .v4 a => isBroadcastIp4 a
  | .v6 a => isBroadcastIp6 a

/-- What becomes of the frame of a packet that is redirected; `neigh` leaves it to the kernel. -/
inductive Framing where
  | asIs
  | macs (dst src : MacAddr)
  | neigh (nextHop : IpAddr)
  | vlan (id : UInt16)
  deriving DecidableEq

def matchFlowId (default : FlowId) : FlowId :=
  let byMac := if p.l3Offset = 0 then default else (m.flowMatch (.mac p.hSource)).getD default
  (trieLookup (fun n => m.flowMatch (.ip n)) p.saddr).getD byMac

def destinationMark (flow : FlowId) (daddr : IpAddr) (init : UInt32) : UInt32 :=
  let ip := (m.flowIp daddr.family flow).bind fun rules => trieLookup rules daddr
  let mark := (ip.map (·.mark)).getD init
  let priority := (ip.map (·.priority)).getD 0xffff
  match (m.flowDns daddr.family flow).bind fun rules => rules daddr with
  | some dns => if dns.priority ≤ priority then dns.mark else mark
  | none => mark

/-- `route4_flow_verdict` and `route6_flow_verdict`: the mark of the packet, or none if it is
dropped. -/
def flowVerdict (init : UInt32) : Option UInt32 :=
  let flow := matchFlowId m p (init &&& 0xff)
  let mark := destinationMark m flow p.daddr init
  let action := getFlowAction mark
  if action = flowKeepGoing then some (replaceFlowId mark flow.toUInt8)
  else if action = flowDirect then some (replaceFlowId mark 0)
  else if action = flowDrop then none
  else some mark

def foldSlot (hash : UInt32) : Nat :=
  let hash := hash ^^^ (hash >>> 16)
  let hash := hash ^^^ (hash >>> 8)
  (hash &&& 0xf).toNat

def targetSlot : IpAddr → Nat
  | .v4 a => foldSlot a
  | .v6 a => foldSlot (.ofBitVec (a.extractLsb' 96 32 ^^^ a.extractLsb' 64 32))

variable (v : CacheValue) (mark : UInt32)

def slotTarget : Option TargetInfo :=
  m.slots p.daddr.family (getFlowId mark).toUInt32 (targetSlot p.daddr)

def flowVlanId (flow : UInt8) : UInt16 := (flow.toUInt16 &&& ~~~(0xf00 : UInt16)) ||| 0xc00

def framing (vlan : UInt16) (isDocker : Bool) (mac : Option MacAddr) (gateAddr : IpAddr) :
    Framing :=
  if isDocker then .vlan vlan
  else
    match mac with
    | none => .asIs
    | some mac =>
      match m.ipMac gateAddr with
      | some (dst, _) => .macs dst mac
      | none => .neigh gateAddr

def pickWanAndSendByFlowId : TcAct Framing :=
  match slotTarget m p mark with
  | none => if getFlowId mark = 0 then .unspec else .shot
  | some t =>
    if t.ifindex = p.ifindex then .unspec
    else .redirect t.ifindex (framing m (flowVlanId (getFlowId mark)) t.isDocker t.mac t.gateAddr)

def tcPickWanInLan : TcAct Framing :=
  match slotTarget m p mark with
  | none => .shot
  | some t =>
    if t.ifindex = p.ifindex then .redirect t.ifindex .asIs
    else .redirect t.ifindex (framing m (flowVlanId (getFlowId mark)) t.isDocker t.mac t.gateAddr)

def redirectByCachedTarget : TcAct Framing :=
  if v.ifindex = p.ifindex then .unspec
  else .redirect v.ifindex (framing m (flowVlanId (getFlowId v.markValue)) v.isDocker
    (if v.hasMac then some v.mac else none) v.gateAddr)

def wanFraming (wan : WanIpInfo) : Framing :=
  if v.hasMac then
    match m.ipMac p.daddr with
    | some (dst, src) => .macs dst src
    | none =>
      match m.ipMac wan.gateway with
      | some (dst, src) => .macs dst src
      | none => .neigh wan.gateway
  else .asIs

def lanCacheVerdict : TcAct Framing :=
  if v.ifindex ≠ 0 then redirectByCachedTarget m p v else pickWanAndSendByFlowId m p v.markValue

def searchCacheInLan : TcAct Framing × UInt32 :=
  let fromLan := match lan p.key with
    | some v => (lanCacheVerdict m p v, v.markValue)
    | none => (.ok, p.mark)
  match wan p.key with
  | none => fromLan
  | some v =>
    match m.wanIpBinding v.ifindex p.saddr.family with
    | none => fromLan
    | some info => (.redirect v.ifindex (wanFraming m p v info), p.mark)

def setCacheInLan : RouteCache :=
  if (wan p.key).isSome then lan
  else
    match lan p.key with
    | some v => update lan p.key (some { v with markValue := mark })
    | none =>
      let v : CacheValue := match slotTarget m p mark with
        | some t => ⟨mark,t.mac.isSome,t.isDocker,m.xdpRedirectAble t.ifindex,t.ifindex,t.gateAddr,
            t.mac.getD 0⟩
        | none => ⟨mark,false,false,m.xdpRedirectAble 0,0,.v4 0,0⟩
      update lan p.key (some v)

/-- `route4_set_cache_in_wan` and `route6_set_cache_in_wan`, for a packet from `remote` that is
forwarded to `host`; what the LAN cache has stays with the LAN cache. -/
def setCacheInWan (key : CacheKey) (hasMac : Bool) (ifindex : UInt32) : RouteCache :=
  if (lan key).isSome then wan
  else
    match wan key with
    | some v => update wan key (some { v with
        ifindex := ifindex
        hasMac := hasMac
        xdpRedirectAble := m.xdpRedirectAble ifindex })
    | none => update wan key (some ⟨0,hasMac,false,m.xdpRedirectAble ifindex,ifindex,.v4 0,0⟩)

def tcLanRedirectCheckInLan : TcAct Framing :=
  match trieLookup m.lan p.daddr with
  | none => .ok
  | some info =>
    let isZero := info.addr = .v4 0 ∨ info.addr = .v6 0
    if info.routeType = .wan then (if info.addr = p.daddr then .unspec else .ok)
    else if info.ifindex = p.ifindex then
      if info.mac.isSome ∧ ¬isZero ∧ info.addr ≠ p.daddr then
        match m.ipMac p.daddr with
        | some (dst, src) => .redirect info.ifindex (.macs dst src)
        | none => .unspec
      else .unspec
    else if info.routeType = .lan ∧ info.addr = p.daddr then .unspec
    else
      .redirect info.ifindex
        (framing m 0 false info.mac (if info.routeType = .nextHop then info.addr else p.daddr))

def tcUncached : TcAct Framing × UInt32 :=
  match tcLanRedirectCheckInLan m p with
  | .ok =>
    match flowVerdict m p p.mark with
    | none => (.shot, p.mark)
    | some mark => (tcPickWanInLan m p mark, replaceFlowSource mark flowFromLan)
  | act => (act, p.mark)

def tcRouteLanIngress : (TcAct Framing × UInt32) × RouteCache :=
  if isBroadcastIp p.daddr then ((.unspec, p.mark), lan)
  else
    match searchCacheInLan m wan lan p with
    | (.ok, _) =>
      let r := tcUncached m p
      match tcLanRedirectCheckInLan m p, flowVerdict m p p.mark with
      | .ok, some mark => (r, if r.1.redirects then setCacheInLan m wan lan p mark else lan)
      | _, _ => (r, lan)
    | (act, mark) => ((act, replaceFlowSource mark flowFromLan), lan)

/-! The way of a LAN packet on an interface that runs the XDP programs. -/

/- How a packet leaves the XDP program: into the chain of the WAN interface, or handed over to the
   TC programs, in each case with its mark and the MACs written to the frame, if any. -/
inductive XdpExit where
  | pipe
  | tcRedirect
  | docker
  deriving DecidableEq

inductive XdpAct where
  | pass
  | drop
  | redirect (ifindex : UInt32)
  | leave (exit : XdpExit) (mark : UInt32) (ifindex : UInt32) (macs : Option (MacAddr × MacAddr))

def exitOf (isDocker redirectAble : Bool) : XdpExit :=
  if isDocker then .docker else if redirectAble then .pipe else .tcRedirect

/-- `xdp_route4_cache_pick_wan` and `xdp_route6_cache_pick_wan`; no result where the packet goes
on. -/
def xdpCachePickWan : Option XdpAct × RouteCache :=
  match slotTarget m p mark with
  | none => (if getFlowId mark = 0 then none else some .drop, lan)
  | some t =>
    if t.ifindex = p.ifindex then (none, lan)
    else
      let able := m.xdpRedirectAble t.ifindex
      let v : CacheValue := ⟨mark,t.mac.isSome,t.isDocker,able,t.ifindex,t.gateAddr,t.mac.getD 0⟩
      (some (.leave (exitOf t.isDocker able) mark t.ifindex
          (t.mac.bind fun mac => (m.ipMac t.gateAddr).map fun gate => (gate.1, mac))),
        if (wan p.key).isSome then lan else update lan p.key (some v))

/- A hit in the WAN cache. Without a binding of the interface the packet is still handed over to the
   TC programs where the XDP programs cannot redirect to it. -/
def xdpWanHit : Option XdpAct :=
  let info := m.wanIpBinding v.ifindex p.saddr.family
  let macs :=
    if v.hasMac then info.bind fun wan => (m.ipMac p.daddr).or (m.ipMac wan.gateway) else none
  if v.isDocker then some (.leave .docker v.markValue v.ifindex none)
  else if v.xdpRedirectAble = false then some (.leave .tcRedirect v.markValue v.ifindex macs)
  else if info.isSome then some (.leave .pipe v.markValue v.ifindex macs)
  else none

def xdpLanHit : Option XdpAct × RouteCache :=
  if v.ifindex ≠ 0 then
    (some (.leave (exitOf v.isDocker v.xdpRedirectAble) v.markValue v.ifindex
      (if v.isDocker = false ∧ v.hasMac = true then (m.ipMac v.gateAddr).map
        fun gate => (gate.1, v.mac)
        else none)), lan)
  else xdpCachePickWan m wan lan p v.markValue

/-- `xdp_route4_search_cache_in_lan` and `xdp_route6_search_cache_in_lan`: the result if there is
one, the LAN cache, and the mark to go on with. -/
def xdpSearchCacheInLan : Option XdpAct × RouteCache × UInt32 :=
  let fromLan := match lan p.key with
    | some v => let r := xdpLanHit m wan lan p v; (r.1, r.2, v.markValue)
    | none => (none, lan, 0)
  match (wan p.key).bind (xdpWanHit m p) with
  | some act => (some act, lan, 0)
  | none => fromLan

/-- `xdp_lan_route`. The answer of the LAN redirect check comes in as `check`: it depends on the LAN
routes and on the kernel's forwarding table, not on the caches. -/
def xdpLanRoute (check : Option XdpAct) : XdpAct × RouteCache :=
  if isBroadcastIp p.daddr then (.pass, lan)
  else
    match xdpSearchCacheInLan m wan lan p with
    | (some act, lan', _) => (act, lan')
    | (none, lan', mark) =>
      match check with
      | some act => (act, lan')
      | none =>
        match flowVerdict m p mark with
        | none => (.drop, lan')
        | some mark =>
          let r := xdpCachePickWan m wan lan' p mark
          (r.1.getD .drop, r.2)

end Landscape.Route
