import Landscape.Packet.Ipv4

/-! Header rewriting for IPv4 (`modify_headers_v4`), checksums included; where the
scanner finds the headers, and when the checksum helpers succeed. -/
namespace Landscape.Packet
open Bytes

/- The checksum arithmetic of `bpf_l3_csum_replace` and `bpf_l4_csum_replace` is the kernel's.
   Arguments: old checksum, old value, new value, size and flags. -/
structure Kernel where
  l3Csum : UInt16 → UInt32 → UInt32 → Nat → UInt16
  l4Csum : UInt16 → UInt32 → UInt32 → Nat → Bool → Bool → UInt16

variable (nexthdr : UInt8) (K : Kernel) (b : Buf) (off : Nat)

def csumOffsetOk : Bool :=
  off ≤ 0xffff && off % 2 == 0 && off + 2 ≤ b.len

def Kernel.l3CsumReplace (fromVal toVal : UInt32) (size : Nat) : Option Buf :=
  if csumOffsetOk b off then some (b.setBe16 off (K.l3Csum (b.be16 off) fromVal toVal size))
  else none

def Kernel.l4CsumReplace (fromVal toVal : UInt32) (size : Nat)
    (pseudo mangled0 : Bool) : Option Buf :=
  if csumOffsetOk b off then
    some (b.setBe16 off (K.l4Csum (b.be16 off) fromVal toVal size pseudo mangled0))
  else none

structure Nat4Action where
  fromAddr : UInt32
  fromPort : UInt16
  toAddr : UInt32
  toPort : UInt16

/-- `ipv4_update_csum_inner_macro`: an early return leaves the rest undone, and the caller
ignores the result. -/
def ipv4UpdateCsumInner (act : Nat4Action) (l4Pseudo l4Mangled0 : Bool) : Buf :=
  if l4Mangled0 && !validateRead b off 2 then b
  else if !l4Mangled0 || b.be16 off != 0 then
    match K.l3CsumReplace b off act.fromPort.toUInt32 act.toPort.toUInt32 2 with
    | none => b
    | some b' =>
      if l4Pseudo then (K.l3CsumReplace b' off act.fromAddr act.toAddr 4).getD b' else b'
  else b

def ipv4UpdateCsumIcmpErr (icmpCsumOff errIpCheckOff errL4CsumOff : Nat)
    (act : Nat4Action) (errL4Pseudo l4Mangled0 : Bool) : Option Buf := do
  guard (validateRead b errIpCheckOff 2)
  let prev := b.be16 errIpCheckOff
  let b ← K.l3CsumReplace b errIpCheckOff act.fromAddr act.toAddr 4
  guard (validateRead b errIpCheckOff 2)
  let curr := b.be16 errIpCheckOff
  let b ← K.l4CsumReplace b icmpCsumOff prev.toUInt32 curr.toUInt32 2 false false
  let b ←
    if validateRead b errL4CsumOff 2 then
      let prev := b.be16 errL4CsumOff
      let b := ipv4UpdateCsumInner K b errL4CsumOff act errL4Pseudo l4Mangled0
      if validateRead b errL4CsumOff 2 then
        K.l4CsumReplace b icmpCsumOff prev.toUInt32 (b.be16 errL4CsumOff).toUInt32 2 false false
      else none
    else some b
  let b ← K.l4CsumReplace b icmpCsumOff act.fromAddr act.toAddr 4 false false
  K.l4CsumReplace b icmpCsumOff act.fromPort.toUInt32 act.toPort.toUInt32 2 false false

/- Where the port and the checksum of a layer-4 header are, whether the checksum covers the
   addresses, and whether a zero checksum means none. -/
structure L4Layout where
  srcPortOff : Nat
  dstPortOff : Nat
  checkOff : Nat
  pseudo : Bool
  mangle0 : Bool

def l4Layout : Option L4Layout :=
  if nexthdr == ipprotoTcp then some ⟨0,2,16,true,false⟩
  else if nexthdr == ipprotoUdp then some ⟨0,2,6,true,true⟩
  else if nexthdr == ipprotoIcmp then some ⟨4,4,2,false,false⟩
  else none

def modifyL4V4 (lay : L4Layout) (l4Off : Nat) (isModifySource : Bool)
    (act : Nat4Action) : Option Buf := do
  let portOff := if isModifySource then lay.srcPortOff else lay.dstPortOff
  let b ← storeBe16 b (l4Off + portOff) act.toPort
  let b ← K.l4CsumReplace b (l4Off + lay.checkOff) act.fromPort.toUInt32 act.toPort.toUInt32 2
    false lay.mangle0
  if lay.pseudo then
    K.l4CsumReplace b (l4Off + lay.checkOff) act.fromAddr act.toAddr 4 true lay.mangle0
  else some b

/- The quoted packet of an ICMP error: it went the other way, so its other end is rewritten. -/
def modifyIcmpErrorV4 (lay : L4Layout) (l4Off errL4Off : Nat)
    (isModifySource : Bool) (act : Nat4Action) : Option Buf := do
  let portOff := if isModifySource then lay.dstPortOff else lay.srcPortOff
  let addrOff := if isModifySource then 16 else 12
  let b ← storeBe32 b (l4Off + 8 + addrOff) act.toAddr
  let b ← storeBe16 b (errL4Off + portOff) act.toPort
  ipv4UpdateCsumIcmpErr K b (l4Off + 2) (l4Off + 8 + 10) (errL4Off + lay.checkOff) act
    lay.pseudo lay.mangle0

/-- `modify_headers_v4`; `none` is a non-zero return, on which the callers drop the packet. -/
def modifyHeadersV4 (isIcmpxError : Bool) (nexthdr : UInt8)
    (l3 l4Off errL4Off : Nat) (isModifySource : Bool) (act : Nat4Action) : Option Buf := do
  let b ← storeBe32 b (l3 + if isModifySource then 12 else 16) act.toAddr
  let b ← K.l3CsumReplace b (l3 + 10) act.fromAddr act.toAddr 4
  if l4Off = 0 then some b
  else
    let lay ← l4Layout nexthdr
    if isIcmpxError then modifyIcmpErrorV4 K b lay l4Off errL4Off isModifySource act
    else modifyL4V4 K b lay l4Off isModifySource act

variable {b : Buf} {l3 : Nat} {off : Nat}

structure PlainAt (b : Buf) (l3 : Nat) (idx : ScanIpv4Idx) : Prop where
  header : validateRead b l3 20 = true
  l4Offset : idx.l4Offset = l3 + ihlBytes b l3
  errorL3 : idx.icmpErrorL3Offset = 0
  errorL4 : idx.icmpErrorInnerL4Offset = 0
  errorProto : idx.icmpErrorL4Protocol = 0

theorem scanIpv4_plainAt {ctx : IpScannerCtx} (h : scanIpv4 b l3 = .ok ctx) :
    PlainAt b l3 (.ofCtx ctx) := by
  simp only [scanIpv4] at h
  split at h
  · cases h
  · rename_i hread
    split at h
    · cases h
    · cases h
      exact ⟨by simpa using hread,rfl,rfl,rfl,rfl⟩

def l4HeaderLen : Nat := if nexthdr == ipprotoTcp then 20 else 8

theorem Kernel.l3CsumReplace_some (h : csumOffsetOk b off = true)
    (x y : UInt32) (size : Nat) : ∃ v, K.l3CsumReplace b off x y size = some (b.setBe16 off v) :=
  ⟨_,if_pos h⟩

theorem Kernel.l4CsumReplace_some (h : csumOffsetOk b off = true)
    (x y : UInt32) (size : Nat) (pseudo mangled0 : Bool) :
    ∃ v, K.l4CsumReplace b off x y size pseudo mangled0 = some (b.setBe16 off v) :=
  ⟨_,if_pos h⟩

theorem csumOffsetOk_of_validateRead {off' len : Nat} (h : validateRead b off len = true)
    (he : off' % 2 = 0) (hend : off' + 2 ≤ off + len) : csumOffsetOk b off' = true := by
  simp only [validateRead, Bool.and_eq_true, decide_eq_true_eq] at h
  have hmax : maxOffset = 20480 := rfl
  simp only [csumOffsetOk, Bool.and_eq_true, decide_eq_true_eq, beq_iff_eq]
  omega

theorem csumOffsetOk_congr {b b' : Buf} (h : b'.len = b.len) (off : Nat) :
    csumOffsetOk b' off = csumOffsetOk b off := by
  simp [csumOffsetOk, h]

end Landscape.Packet
