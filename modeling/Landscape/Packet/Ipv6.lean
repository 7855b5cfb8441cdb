import Landscape.Packet.Ipv4

/-! The IPv6 scanner (`scan_ipv6`): it follows the extension headers to the upper layer. -/
namespace Landscape.Packet
open Bytes

def nexthdrHop : UInt8 := 0
def nexthdrRouting : UInt8 := 43
def nexthdrFragment : UInt8 := 44
def nexthdrAuth : UInt8 := 51
def nexthdrDest : UInt8 := 60

def ldMaxIpv6ExtNum : Nat := 6

def isOptHeader (nexthdr : UInt8) : Bool :=
  nexthdr == nexthdrHop || nexthdr == nexthdrRouting || nexthdr == nexthdrDest

def isUpperLayer (nexthdr : UInt8) : Bool :=
  nexthdr == ipprotoTcp || nexthdr == ipprotoUdp || nexthdr == nexthdrIcmp

def optHeaderEnd (b : Buf) (pos : Nat) : Nat := pos + ((b.u8 (pos + 1)).toNat + 1) * 8

/- The loop over the extension headers: the upper-layer protocol, its position and that of the last
   fragment header. The authentication header is not followed. -/
def ipv6ExtHeaders (b : Buf) : Nat → UInt8 → Nat → Option Nat →
    Except ScanError (UInt8 × Nat × Option Nat)
  | 0, nexthdr, pos, frag => if isUpperLayer nexthdr then .ok (nexthdr, pos, frag) else .error .err
  | n + 1, nexthdr, pos, frag =>
    if nexthdr == nexthdrAuth then .error .unspec
    else if nexthdr == nexthdrFragment then
      if !validateRead b pos 8 then .error .err
      else ipv6ExtHeaders b n (b.u8 pos) (pos + 8) (some pos)
    else if isOptHeader nexthdr then
      if !validateRead b pos 2 then .error .err
      else ipv6ExtHeaders b n (b.u8 pos) (optHeaderEnd b pos) frag
    else .ok (nexthdr, pos, frag)

/- The fragment id of the scanner is 16 bits wide. -/
def scanIpv6Fragment (b : Buf) (nexthdr : UInt8) (pos : Nat) :
    Option Nat → Except ScanError IpScannerCtx
  | none => .ok ⟨nexthdr,.single,0,0,pos⟩
  | some off =>
    if !validateRead b off 8 then .error .err
    else
      let rawOff := b.be16 (off + 2)
      let fragmentOff := rawOff &&& 0xfff8
      .ok { l4Protocol := nexthdr
            fragmentType := fragTypeOf (fragmentOff != 0) (rawOff &&& 0x0001 != 0)
            fragmentOff := fragmentOff
            fragmentId := (b.be32 (off + 4)).toUInt16
            l4Offset := pos }

def scanIpv6 (b : Buf) (l3 : Nat) : Except ScanError IpScannerCtx :=
  if !validateRead b l3 40 then .error .err
  else if b.u8 l3 >>> 4 != 6 then .error .err
  else do
    let (nexthdr, pos, frag) ← ipv6ExtHeaders b ldMaxIpv6ExtNum (b.u8 (l3 + 6)) (l3 + 40) none
    scanIpv6Fragment b nexthdr pos frag

variable {b : Buf}

theorem ipv6ExtHeaders_ok {n : Nat} {nexthdr nexthdr' : UInt8} {pos pos' : Nat}
    {frag frag' : Option Nat} (hfrag : ∀ off, frag = some off → validateRead b off 8 = true)
    (h : ipv6ExtHeaders b n nexthdr pos frag = .ok (nexthdr', pos', frag')) :
    (∃ k ≤ n * 256, pos' = pos + 8 * k) ∧ ∀ off, frag' = some off →
    validateRead b off 8 = true := by
  induction n generalizing nexthdr pos frag with
  | zero =>
    simp only [ipv6ExtHeaders] at h
    split at h
    · cases h
      exact ⟨⟨0,by omega,rfl⟩,hfrag⟩
    · cases h
  | succ n ih =>
    simp only [ipv6ExtHeaders] at h
    split at h
    · cases h
    split at h
    · split at h
      · cases h
      · rename_i hv
        obtain ⟨⟨k,hk,hpos⟩,hrest⟩ := ih (fun off ho => by cases ho; simpa using hv) h
        exact ⟨⟨k + 1,by omega,by omega⟩,hrest⟩
    split at h
    · split at h
      · cases h
      · obtain ⟨⟨k,hk,hpos⟩,hrest⟩ := ih hfrag h
        have hbyte := (b.u8 (pos + 1)).toNat_lt
        unfold optHeaderEnd at hpos
        exact ⟨⟨k + ((b.u8 (pos + 1)).toNat + 1),by omega,by omega⟩,hrest⟩
    · cases h
      exact ⟨⟨0,by omega,rfl⟩,hfrag⟩

theorem scanIpv6_l4Offset {l3 : Nat} {ctx : IpScannerCtx} (h : scanIpv6 b l3 = .ok ctx) :
    validateRead b l3 40 = true ∧ ∃ k ≤ 1536, ctx.l4Offset = l3 + 40 + 8 * k := by
  unfold scanIpv6 at h
  split at h
  · cases h
  rename_i hread
  split at h
  · cases h
  cases hext : ipv6ExtHeaders b ldMaxIpv6ExtNum (b.u8 (l3 + 6)) (l3 + 40) none with
  | error e => simp [hext, bind, Except.bind] at h
  | ok r =>
    obtain ⟨nexthdr,pos,frag⟩ := r
    have hpos := (ipv6ExtHeaders_ok (fun off ho => by cases ho) hext).1
    simp only [hext, bind, Except.bind] at h
    refine ⟨by simpa using hread,?_⟩
    unfold scanIpv6Fragment at h
    split at h
    · cases h
      exact hpos
    · split at h
      · cases h
      · cases h
        exact hpos

def icmp6MsgType (type : UInt8) : IcmpMsg :=
  if type == 1 || type == 2 || type == 3 || type == 4 then .error
  else if type == 128 || type == 129 then .query
  else .unspec

end Landscape.Packet
