import Landscape.Packet.Ipv6
import Landscape.Packet.ModifyV4

/-! The IPv6 scanner with the layer-4 header (`scan_ipv6_full`), the reader of addresses and ports
(`skb_read_ipv6_info`), and the writes of the prefix translation. -/
namespace Landscape.Packet
open Bytes

/-- An address in two halves: the translation is about the first. -/
structure Addr6 where
  hi : BitVec 64
  lo : BitVec 64
  deriving DecidableEq

structure Inet6Pair where
  srcAddr : Addr6
  dstAddr : Addr6
  srcPort : UInt16
  dstPort : UInt16
  deriving DecidableEq

def Addr6.isBroadcast (a : Addr6) : Bool := a.hi >>> 56 == 0xff || a.hi >>> 54 == 0x3fa

def isBroadcastIp6Pair (pair : Inet6Pair) : Bool :=
  pair.srcAddr.isBroadcast || pair.dstAddr.isBroadcast

variable (K : Kernel) (b : Buf) (l3 off : Nat)

def addr6At : Addr6 := ⟨b.be64 off,b.be64 (off + 8)⟩

abbrev ScanIpv6Idx := ScanIpv4Idx

variable (idx : ScanIpv6Idx)

/- The quoted packet of an ICMPv6 error: its header has to scan, it must not be a later fragment,
   and its source has to be the outer destination. -/
def scanIpv6IcmpError : Except ScanError ScanIpv6Idx := do
  let errL3 := idx.l4Offset + 8
  let inner ← (scanIpv6 b errL3).mapError fun _ => .err
  if inner.fragmentType.headless then .error .err
  else if !validateRead b (l3 + 24) 16 then .error .err
  else if !validateRead b (errL3 + 8) 16 then .error .err
  else if addr6At b (l3 + 24) ≠ addr6At b (errL3 + 8) then .error .err
  else
    .ok { idx with
          icmpErrorL3Offset := errL3
          icmpErrorInnerL4Offset := inner.l4Offset
          icmpErrorL4Protocol := inner.l4Protocol }

def scanIpv6Full : Except ScanError ScanIpv6Idx := do
  let ctx ← scanIpv6 b l3
  let idx := ScanIpv4Idx.ofCtx ctx
  if idx.fragmentType.headless then .ok { idx with l4Offset := 0 }
  else if idx.l4Protocol == ipprotoTcp then
    if !validateRead b idx.l4Offset 20 then .error .err
    else .ok { idx with pktType := tcpPktType (b.u8 (idx.l4Offset + 13)) }
  else if idx.l4Protocol == ipprotoIcmpv6 then
    if !validateRead b idx.l4Offset 8 then .error .err
    else
      match icmp6MsgType (b.u8 idx.l4Offset) with
      | .error => scanIpv6IcmpError b l3 idx
      | .query => .ok idx
      | .unspec => .error .unspec
  else .ok idx

def skbReadIpv6Ports : Option (UInt16 × UInt16) :=
  let inner := idx.icmpErrorInnerL4Offset
  let l4 := idx.l4Offset
  if idx.icmpErrorL4Protocol == ipprotoTcp then
    if validateRead b inner 20 then some (b.be16 (inner + 2), b.be16 inner) else none
  else if idx.l4Protocol == ipprotoTcp then
    if validateRead b l4 20 then some (b.be16 l4, b.be16 (l4 + 2)) else none
  else if idx.icmpErrorL4Protocol == ipprotoUdp then
    if validateRead b inner 8 then some (b.be16 (inner + 2), b.be16 inner) else none
  else if idx.l4Protocol == ipprotoUdp then
    if validateRead b l4 8 then some (b.be16 l4, b.be16 (l4 + 2)) else none
  else if idx.l4Protocol == ipprotoIcmpv6 then
    let offset := if 0 < inner then inner else l4
    if validateRead b offset 8 then some (b.be16 (offset + 4), b.be16 (offset + 4)) else none
  else some (0, 0)

def skbReadIpv6Info : Option Inet6Pair := do
  guard (validateRead b l3 40)
  let saddr ←
    if 0 < idx.icmpErrorL3Offset then
      if validateRead b idx.icmpErrorL3Offset 40 then some (addr6At b (idx.icmpErrorL3Offset + 24))
      else none
    else some (addr6At b (l3 + 8))
  if idx.fragmentType.headless then some ⟨saddr,addr6At b (l3 + 24),0,0⟩
  else
    let ports ← skbReadIpv6Ports b idx
    some ⟨saddr,addr6At b (l3 + 24),ports.1,ports.2⟩

def storeBe64 (v : BitVec 64) : Option Buf :=
  if off + 8 ≤ b.len then some (b.setBe64 off v) else none

def Kernel.l4CsumReplaceU64 (oldVal newVal : BitVec 64) (pseudo : Bool) : Option Buf := do
  let b ← K.l4CsumReplace b off (.ofBitVec (oldVal.extractLsb' 0 32))
    (.ofBitVec (newVal.extractLsb' 0 32)) 4
    pseudo false
  K.l4CsumReplace b off (.ofBitVec (oldVal.extractLsb' 32 32))
    (.ofBitVec (newVal.extractLsb' 32 32)) 4 pseudo false

def nat6L4Checksum (l4Offset : Nat) (l4Protocol : UInt8) : Option Nat :=
  if l4Protocol == ipprotoTcp then some (l4Offset + 16)
  else if l4Protocol == ipprotoUdp then some (l4Offset + 6)
  else if l4Protocol == ipprotoIcmpv6 then some (l4Offset + 2)
  else none

def replacePrefix (addrOff : Nat) (oldPrefix newPrefix : BitVec 64) : Option Buf := do
  let check ← nat6L4Checksum idx.l4Offset idx.l4Protocol
  K.l4CsumReplaceU64 ((storeBe64 b addrOff newPrefix).getD b) check oldPrefix newPrefix true

def replaceQuotedPrefix (addrOff check : Nat) (oldPrefix newPrefix : BitVec 64) : Option Buf := do
  let innerCheck ← nat6L4Checksum idx.icmpErrorInnerL4Offset idx.icmpErrorL4Protocol
  guard (validateRead b innerCheck 2)
  let oldInner := b.be16 innerCheck
  let b ← storeBe64 b addrOff newPrefix
  let b ← K.l4CsumReplaceU64 b innerCheck oldPrefix newPrefix false
  let b ← K.l4CsumReplaceU64 b check oldPrefix newPrefix false
  guard (validateRead b innerCheck 2)
  K.l4CsumReplace b check oldInner.toUInt32 (b.be16 innerCheck).toUInt32 2 false false

end Landscape.Packet
