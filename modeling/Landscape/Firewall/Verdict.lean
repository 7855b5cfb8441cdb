import Landscape.Firewall.Blacklist
import Landscape.Packet.Ipv6

/-! The firewall stage of the two data paths. -/
namespace Landscape.Firewall
open Packet Route Bytes

structure FragCacheKey where
  l4Proto : UInt8
  id : UInt16
  saddr : IpAddr
  daddr : IpAddr
  deriving DecidableEq

abbrev FragCache := FragCacheKey → Option (UInt16 × UInt16)

structure Env where
  block : BlockMap
  frags : FragCache
  fragUpdateOk : Bool

def blocked (m : BlockMap) (a : IpAddr) : Bool :=
  (trieLookup (fun n => if m n then some () else none) a).isSome

def l3Offset : Nat := 14

def etherType : IpFamily → UInt16
  | .ipv4 => 0x0800
  | .ipv6 => 0x86dd

def headerLen : IpFamily → Nat
  | .ipv4 => 20
  | .ipv6 => 40

def saddrOff : IpFamily → Nat
  | .ipv4 => 12
  | .ipv6 => 8

def daddrOff : IpFamily → Nat
  | .ipv4 => 16
  | .ipv6 => 24

def addrLen : IpFamily → Nat
  | .ipv4 => 4
  | .ipv6 => 16

variable (env : Env) (blockSrc : Bool) (f : IpFamily) (b : Buf)

def readAddr (off : Nat) : IpFamily → IpAddr
  | .ipv4 => .v4 (b.be32 off)
  | .ipv6 => .v6 (.ofNat 128 (b.load off 16))

def icmpProto : IpFamily → UInt8
  | .ipv4 => ipprotoIcmp
  | .ipv6 => ipprotoIcmpv6

def msgType : IpFamily → UInt8 → IcmpMsg
  | .ipv4 => icmpMsgType
  | .ipv6 => icmp6MsgType

def scan : IpFamily → Buf → Nat → Except ScanError IpScannerCtx
  | .ipv4 => scanIpv4
  | .ipv6 => scanIpv6

def quotedRead (errL3 : Nat) : IpFamily → Nat × Nat
  | .ipv4 => (errL3 + 16, 4)
  | .ipv6 => (errL3, 40)

/- `scan_ipv4_into_idx` and `scan_ipv6_into_idx`, whose indices have the same fields. -/
def scanIntoIdx (l3 : Nat) : Except ScanError ScanIpv4Idx := do
  let ctx ← scan f b l3
  let idx := ScanIpv4Idx.ofCtx ctx
  .ok (if idx.fragmentType.headless then { idx with l4Offset := 0 } else idx)

/- `scan_ipv4_upgrade_icmp` and `scan_ipv6_upgrade_icmp`: whether the packet is an ICMP error whose
   quoted packet came from its destination, the index, and the address that stands for its
   source. -/
def scanUpgradeIcmp (l3 : Nat) (idx : ScanIpv4Idx) (saddr : IpAddr) : Bool × ScanIpv4Idx × IpAddr :=
  if !validateRead b idx.l4Offset 8 then (false, idx, saddr)
  else if msgType f (b.u8 idx.l4Offset) != .error then (false, idx, saddr)
  else
    let errL3 := idx.l4Offset + 8
    let idx := { idx with icmpErrorL3Offset := errL3 }
    match scan f b errL3 with
    | .error _ => (false, idx, saddr)
    | .ok inner =>
      if inner.fragmentType.headless then (false, idx, saddr)
      else
        let idx := { idx with
          icmpErrorInnerL4Offset := inner.l4Offset, icmpErrorL4Protocol := inner.l4Protocol }
        if !validateRead b (l3 + daddrOff f) (addrLen f) then (false, idx, saddr)
        else if !validateRead b (errL3 + saddrOff f) (addrLen f) then (false, idx, saddr)
        else if readAddr b (l3 + daddrOff f) f ≠ readAddr b (errL3 + saddrOff f) f then
          (false, idx, saddr)
        else if !validateRead b (quotedRead errL3 f).1 (quotedRead errL3 f).2 then
          (false, idx, saddr)
        else (true, idx, readAddr b (errL3 + daddrOff f) f)

/- `frag4_track` and `frag6_track`: the verdict, the ports and the cache. -/
def fragTrack (idx : ScanIpv4Idx) (saddr daddr : IpAddr) (ports : UInt16 × UInt16) :
    TcAct × (UInt16 × UInt16) × FragCache :=
  if idx.fragmentType = .single then (.ok, ports, env.frags)
  else if idx.isIcmpxError then (.shot, ports, env.frags)
  else
    let key : FragCacheKey := ⟨idx.l4Protocol,idx.fragmentId,saddr,daddr⟩
    if idx.fragmentType = .first then
      if env.fragUpdateOk then (.ok, ports, Function.update env.frags key (some ports))
      else (.shot, ports, env.frags)
    else
      match env.frags key with
      | none => (.shot, ports, env.frags)
      | some v => (.ok, v, env.frags)

/- The end of `fw_do_egress` and `fw_do_ingress`, once a quoted packet has been looked at: the
   fragments are tracked, and the address is looked up. -/
def fwFinish (daddr : IpAddr) (r : Bool × ScanIpv4Idx × IpAddr) : TcAct × FragCache :=
  let (isIcmpx, idx, saddr) := r
  let track : TcAct × FragCache :=
    if isIcmpx then (.ok, env.frags)
    else
      let hasPorts := idx.fragmentType == .first &&
        (idx.l4Protocol == ipprotoTcp || idx.l4Protocol == ipprotoUdp)
      if hasPorts && !validateRead b idx.l4Offset 4 then (.shot, env.frags)
      else
        let ports := if hasPorts then (b.be16 idx.l4Offset, b.be16 (idx.l4Offset + 2)) else (0, 0)
        let t := fragTrack env idx saddr daddr ports
        (t.1, t.2.2)
  if track.1 ≠ .ok then (.shot, track.2)
  else if blocked env.block (if blockSrc then saddr else daddr) then (.shot, track.2)
  else (.ok, track.2)

/- One family of `fw_do_egress` and `fw_do_ingress`; they differ in the address they look up. -/
def fwDoFamily : TcAct × FragCache :=
  match scanIntoIdx f b l3Offset with
  | .error _ => (.ok, env.frags)
  | .ok idx =>
    if !validateRead b l3Offset (headerLen f) then (.ok, env.frags)
    else
      let saddr := readAddr b (l3Offset + saddrOff f) f
      let daddr := readAddr b (l3Offset + daddrOff f) f
      fwFinish env blockSrc b daddr <|
        if !idx.fragmentType.headless && idx.l4Protocol == icmpProto f then
          scanUpgradeIcmp f b l3Offset idx saddr
        else (false, idx, saddr)

def currentPkgType : Option IpFamily :=
  if !validateRead b 0 14 then none
  else if b.be16 12 = etherType .ipv4 then some .ipv4
  else if b.be16 12 = etherType .ipv6 then some .ipv6
  else none

def fwDo : TcAct × FragCache :=
  match currentPkgType b with
  | none => (.ok, env.frags)
  | some f => fwDoFamily env blockSrc f b

def fwDoEgress : Buf → TcAct × FragCache := fwDo env false

def fwDoIngress : Buf → TcAct × FragCache := fwDo env true

inductive XdpVerdict where
  | pass
  | drop
  deriving DecidableEq

def xdpClassifyL3 : Option IpFamily :=
  if b.len < 14 then none
  else if b.be16 12 = etherType .ipv4 then some .ipv4
  else if b.be16 12 = etherType .ipv6 then some .ipv6
  else none

def firewallCheck : XdpVerdict :=
  match xdpClassifyL3 b with
  | none => .pass
  | some f =>
    if b.len < l3Offset + headerLen f then .pass
    else if blocked env.block (readAddr b (l3Offset + if blockSrc then saddrOff f
      else daddrOff f) f) then
      .drop
    else .pass

end Landscape.Firewall
