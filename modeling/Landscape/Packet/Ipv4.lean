import Landscape.Packet.Base

/-! The IPv4 scanner (`scan_ipv4`, `scan_ipv4_full`) and the reader of addresses and
ports (`skb_read_ipv4_info`). Offsets are those of the bytes in the packet. -/
namespace Landscape.Packet
open Bytes

inductive ScanError where
  | err
  | unspec
  deriving DecidableEq

structure IpScannerCtx where
  l4Protocol : UInt8
  fragmentType : FragType
  fragmentOff : UInt16
  fragmentId : UInt16
  l4Offset : Nat

structure ScanIpv4Idx where
  l4Offset : Nat
  fragmentOff : UInt16
  fragmentId : UInt16
  l4Protocol : UInt8
  fragmentType : FragType
  pktType : PktType
  icmpErrorL3Offset : Nat
  icmpErrorInnerL4Offset : Nat
  icmpErrorL4Protocol : UInt8

variable (b : Buf) (l3 : Nat)

def ihlBytes : Nat := (b.u8 l3 &&& 0x0f).toNat * 4

def fragTypeOf (hasOffset mf : Bool) : FragType :=
  match hasOffset, mf with
  | false, false => .single
  | false, true => .first
  | true, true => .middle
  | true, false => .last

def scanIpv4 : Except ScanError IpScannerCtx :=
  if !validateRead b l3 20 then .error .err
  else if b.u8 l3 >>> 4 != 4 then .error .err
  else
    let fragOffHost := b.be16 (l3 + 6)
    let fragmentOff := fragOffHost &&& 0x1fff
    let mf := fragOffHost &&& 0x2000 != 0
    .ok { l4Protocol := b.u8 (l3 + 9)
          fragmentType := fragTypeOf (fragmentOff != 0) mf
          fragmentOff := fragmentOff
          fragmentId := b.be16 (l3 + 4)
          l4Offset := l3 + ihlBytes b l3 }

def icmpMsgType (type : UInt8) : IcmpMsg :=
  if type == 3 || type == 11 || type == 12 then .error
  else if type == 0 || type == 8 || type == 13 || type == 14 then .query
  else .unspec

def tcpPktType (flags : UInt8) : PktType :=
  if flags &&& 0x02 != 0 then .tcpSyn
  else if flags &&& 0x04 != 0 then .tcpRst
  else if flags &&& 0x01 != 0 then .tcpFin
  else if flags &&& 0x10 != 0 then .tcpAck
  else .tcpData

def ScanIpv4Idx.ofCtx (ctx : IpScannerCtx) : ScanIpv4Idx where
  l4Offset := ctx.l4Offset
  fragmentOff := ctx.fragmentOff
  fragmentId := ctx.fragmentId
  l4Protocol := ctx.l4Protocol
  fragmentType := ctx.fragmentType
  pktType := .connless
  icmpErrorL3Offset := 0
  icmpErrorInnerL4Offset := 0
  icmpErrorL4Protocol := 0

variable (idx : ScanIpv4Idx)

/- The quoted packet of an ICMP error: its header has to scan, it must not be a later
   fragment, and its source has to be the outer destination. -/
def scanIpv4IcmpError : Except ScanError ScanIpv4Idx := do
  let errL3 := idx.l4Offset + 8
  let inner ← scanIpv4 b errL3
  if inner.fragmentType.headless then .error .err
  else if !validateRead b (l3 + 16) 4 then .error .err
  else if !validateRead b (errL3 + 12) 4 then .error .err
  else if b.be32 (l3 + 16) != b.be32 (errL3 + 12) then .error .err
  else
    .ok { idx with
          icmpErrorL3Offset := errL3
          icmpErrorInnerL4Offset := inner.l4Offset
          icmpErrorL4Protocol := inner.l4Protocol }

def scanIpv4Full : Except ScanError ScanIpv4Idx := do
  let ctx ← scanIpv4 b l3
  let idx := ScanIpv4Idx.ofCtx ctx
  if idx.fragmentType.headless then .ok { idx with l4Offset := 0 }
  else if idx.l4Protocol == ipprotoTcp then
    if !validateRead b idx.l4Offset 20 then .error .err
    else .ok { idx with pktType := tcpPktType (b.u8 (idx.l4Offset + 13)) }
  else if idx.l4Protocol == ipprotoIcmp then
    if !validateRead b idx.l4Offset 8 then .error .err
    else
      match icmpMsgType (b.u8 idx.l4Offset) with
      | .error => scanIpv4IcmpError b l3 idx
      | .query => .ok idx
      | .unspec => .error .unspec
  else .ok idx

def ScanIpv4Idx.isIcmpxError : Bool :=
  0 < idx.icmpErrorL3Offset && 0 < idx.icmpErrorInnerL4Offset

/- The two port fields. In a quoted packet they belong to the other direction. -/
def skbReadIpv4Ports : Option (UInt16 × UInt16) :=
  let inner := idx.icmpErrorInnerL4Offset
  let l4 := idx.l4Offset
  if idx.icmpErrorL4Protocol == ipprotoTcp then
    if validateRead b inner 4 then some (b.be16 (inner + 2), b.be16 inner) else none
  else if idx.l4Protocol == ipprotoTcp then
    if validateRead b l4 20 then some (b.be16 l4, b.be16 (l4 + 2)) else none
  else if idx.icmpErrorL4Protocol == ipprotoUdp then
    if validateRead b inner 8 then some (b.be16 (inner + 2), b.be16 inner) else none
  else if idx.l4Protocol == ipprotoUdp then
    if validateRead b l4 8 then some (b.be16 l4, b.be16 (l4 + 2)) else none
  else if idx.l4Protocol == ipprotoIcmp then
    let offset := if 0 < inner then inner else l4
    if validateRead b offset 8 then some (b.be16 (offset + 4), b.be16 (offset + 4)) else none
  else some (0, 0)

/-- `skb_read_ipv4_info`; `none` is `TC_ACT_SHOT`. The pair is zeroed before the call. -/
def skbReadIpv4Info : Option Inet4Pair := do
  guard (validateRead b l3 20)
  let daddr := b.be32 (l3 + 16)
  let saddr ←
    if 0 < idx.icmpErrorL3Offset then
      if validateRead b idx.icmpErrorL3Offset 20 then some (b.be32 (idx.icmpErrorL3Offset + 16))
      else none
    else some (b.be32 (l3 + 12))
  if idx.fragmentType.headless then some ⟨saddr,daddr,0,0⟩
  else
    let ports ← skbReadIpv4Ports b idx
    some ⟨saddr,daddr,ports.1,ports.2⟩

end Landscape.Packet
