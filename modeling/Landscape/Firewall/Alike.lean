import Landscape.Firewall.Verdict

/-! When the two firewall stages agree. -/
namespace Landscape.Firewall
open Packet Route Bytes
variable {env : Env} {blockSrc : Bool} {f : IpFamily} {b : Buf} {l3 : Nat} {ctx : IpScannerCtx}

def Covered (m : BlockMap) (a : IpAddr) : Prop :=
  ∃ n : IpNet, m n = true ∧ n.accepted = true ∧ n.Contains a

theorem blocked_iff (m : BlockMap) (a : IpAddr) : blocked m a = true ↔ Covered m a := by
  rw [blocked, trieLookup_isSome]
  constructor
  · rintro ⟨n,hacc,hm,hn⟩
    exact ⟨n,by simpa using hm,hacc,hn⟩
  · rintro ⟨n,hm,hacc,hn⟩
    exact ⟨n,hacc,by simp [hm],hn⟩

def Fits6 (b : Buf) : Nat → UInt8 → Nat → Prop
  | 0, _, _ => True
  | n + 1, nexthdr, pos =>
    (nexthdr = nexthdrFragment → pos + 8 ≤ b.len ∧ Fits6 b n (b.u8 pos) (pos + 8)) ∧
    (isOptHeader nexthdr = true → optHeaderEnd b pos ≤ b.len ∧
      Fits6 b n (b.u8 pos) (optHeaderEnd b pos))

/-- None of the first six headers is an authentication header, and after six extension headers TCP,
UDP or ICMPv6 follows. -/
def Readable6 (b : Buf) : Nat → UInt8 → Nat → Prop
  | 0, nexthdr, _ => isUpperLayer nexthdr = true
  | n + 1, nexthdr, pos => nexthdr ≠ nexthdrAuth ∧
    (nexthdr = nexthdrFragment → Readable6 b n (b.u8 pos) (pos + 8)) ∧
    (isOptHeader nexthdr = true → Readable6 b n (b.u8 pos) (optHeaderEnd b pos))

def Readable : IpFamily → Buf → Prop
  | .ipv4, _ => True
  | .ipv6, b => Readable6 b ldMaxIpv6ExtNum (b.u8 (l3Offset + 6)) (l3Offset + 40)

def versionOf : IpFamily → UInt8
  | .ipv4 => 4
  | .ipv6 => 6

def HeadersFit : IpFamily → Buf → Prop
  | .ipv4, b => 20 ≤ ihlBytes b l3Offset ∧ l3Offset + ihlBytes b l3Offset ≤ b.len
  | .ipv6, b => Fits6 b ldMaxIpv6ExtNum (b.u8 (l3Offset + 6)) (l3Offset + 40)

/-- An Ethernet frame with a packet of the family: its headers are there, and where it begins a TCP,
UDP or ICMP message, so are the first eight bytes of that. -/
structure WellFormed (f : IpFamily) (b : Buf) : Prop where
  ether : b.be16 12 = etherType f
  header : l3Offset + headerLen f ≤ b.len
  version : b.u8 l3Offset >>> 4 = versionOf f
  headers : HeadersFit f b
  upper : ∀ ctx, scan f b l3Offset = .ok ctx → ctx.fragmentType.headless = false →
    ctx.l4Protocol = ipprotoTcp ∨ ctx.l4Protocol = ipprotoUdp ∨ ctx.l4Protocol = icmpProto f →
    ctx.l4Offset + 8 ≤ b.len

theorem optHeaderEnd_le (b : Buf) (pos : Nat) : optHeaderEnd b pos ≤ pos + 2048 := by
  have := (b.u8 (pos + 1)).toNat_lt
  simp only [optHeaderEnd]
  omega

theorem le_optHeaderEnd (b : Buf) (pos : Nat) : pos + 8 ≤ optHeaderEnd b pos := by
  simp only [optHeaderEnd]
  omega

theorem not_isOptHeader_fragment : isOptHeader nexthdrFragment = false := by decide

theorem ipv6ExtHeaders_isOk_iff {n : Nat} {nexthdr : UInt8} {pos : Nat} (frag : Option Nat)
    (hpos : pos + n * 2048 ≤ 12342) (hfit : Fits6 b n nexthdr pos) :
    (∃ r, ipv6ExtHeaders b n nexthdr pos frag = .ok r) ↔ Readable6 b n nexthdr pos := by
  induction n generalizing nexthdr pos frag with
  | zero =>
    simp only [ipv6ExtHeaders, Readable6]
    split <;> simp_all
  | succ n ih =>
    obtain ⟨hf,ho⟩ := hfit
    have hmax : maxOffset = 20480 := rfl
    by_cases hauth : nexthdr = nexthdrAuth
    · simp [ipv6ExtHeaders, Readable6, hauth]
    by_cases hfrag : nexthdr = nexthdrFragment
    · subst hfrag
      obtain ⟨hin,hrest⟩ := hf rfl
      have hv : validateRead b pos 8 = true := validateRead_of_le (by omega) (by omega) hin
      have hstep : ipv6ExtHeaders b (n + 1) nexthdrFragment pos frag =
          ipv6ExtHeaders b n (b.u8 pos) (pos + 8) (some pos) := by
        simp [ipv6ExtHeaders, hauth, hv]
      rw [hstep, ih (some pos) (by omega) hrest]
      simp [Readable6, hauth, not_isOptHeader_fragment]
    by_cases hopt : isOptHeader nexthdr = true
    · obtain ⟨hin,hrest⟩ := ho hopt
      have hend := optHeaderEnd_le b pos
      have hbegin := le_optHeaderEnd b pos
      have hv : validateRead b pos 2 = true := validateRead_of_le (by omega) (by omega) (by omega)
      have hstep : ipv6ExtHeaders b (n + 1) nexthdr pos frag =
          ipv6ExtHeaders b n (b.u8 pos) (optHeaderEnd b pos) frag := by
        simp [ipv6ExtHeaders, hauth, hfrag, hopt, hv]
      rw [hstep, ih frag (by omega) hrest]
      simp [Readable6, hauth, hfrag, hopt]
    · simp [ipv6ExtHeaders, Readable6, hauth, hfrag, hopt]

theorem scan_header {ctx : IpScannerCtx} (h : scan f b l3 = .ok ctx) :
    validateRead b l3 (headerLen f) = true ∧ l3 ≤ ctx.l4Offset ∧
      ctx.l4Offset ≤ l3 + headerLen f + 12288 := by
  cases f with
  | ipv4 =>
    simp only [scan, scanIpv4] at h
    split at h
    · cases h
    rename_i hv
    split at h
    · cases h
    cases h
    have hihl : ihlBytes b l3 ≤ 60 := by
      have : (b.u8 l3 &&& 0x0f).toNat ≤ 15 := by
        exact Nat.and_le_right
      simp only [ihlBytes]
      omega
    refine ⟨by simpa [headerLen] using hv,?_,?_⟩
    · show l3 ≤ l3 + _
      omega
    · show l3 + _ ≤ l3 + 20 + 12288
      omega
  | ipv6 =>
    obtain ⟨hv,k,hk,hl4⟩ := scanIpv6_l4Offset h
    refine ⟨hv,by omega,?_⟩
    show ctx.l4Offset ≤ l3 + 40 + 12288
    omega

theorem scan_isOk_iff (h : WellFormed f b) :
    (∃ ctx, scan f b l3Offset = .ok ctx) ↔ Readable f b := by
  have hhdr : validateRead b l3Offset (headerLen f) = true := by
    have := h.header
    refine validateRead_of_le ?_ ?_ this <;> cases f <;> decide
  cases f with
  | ipv4 =>
    refine iff_of_true ?_ trivial
    have hver : (b.u8 l3Offset >>> 4 != 4) = false := by simpa [versionOf] using h.version
    simp [scan, scanIpv4, show validateRead b l3Offset 20 = true from hhdr, hver]
  | ipv6 =>
    have hver : (b.u8 l3Offset >>> 4 != 6) = false := by simpa [versionOf] using h.version
    rw [Readable, ← ipv6ExtHeaders_isOk_iff none (by decide) h.headers]
    simp only [scan, scanIpv6, show validateRead b l3Offset 40 = true from hhdr, hver]
    cases hext : ipv6ExtHeaders b ldMaxIpv6ExtNum (b.u8 (l3Offset + 6)) (l3Offset + 40) none with
    | error e => simp [bind, Except.bind]
    | ok r =>
      obtain ⟨nexthdr,pos,frag⟩ := r
      have hv := (ipv6ExtHeaders_ok (fun off ho => by cases ho) hext).2
      cases frag with
      | none => simp [bind, Except.bind, scanIpv6Fragment]
      | some off => simp [bind, Except.bind, scanIpv6Fragment, hv off rfl]

/-- What a packet quotes: nothing the scanner could read, a packet that did not come from its
destination, or one that did and was sent to `dst`. -/
inductive Quote where
  | none
  | mismatched
  | matching (dst : IpAddr)

def quoteOf (f : IpFamily) (b : Buf) (ctx : IpScannerCtx) : Quote :=
  if ctx.l4Protocol ≠ icmpProto f ∨ msgType f (b.u8 ctx.l4Offset) ≠ .error then .none
  else
    match scan f b (ctx.l4Offset + 8) with
    | .error _ => .none
    | .ok inner =>
      if inner.fragmentType.headless then .none
      else if readAddr b (l3Offset + daddrOff f) f =
        readAddr b (ctx.l4Offset + 8 + saddrOff f) f then
        .matching (readAddr b (ctx.l4Offset + 8 + daddrOff f) f)
      else .mismatched

def srcAddr (f : IpFamily) (b : Buf) : IpAddr := readAddr b (l3Offset + saddrOff f) f

def dstAddr (f : IpFamily) (b : Buf) : IpAddr := readAddr b (l3Offset + daddrOff f) f

def Upgraded (saddr : IpAddr) (r : Bool × ScanIpv4Idx × IpAddr) : Quote → Prop
  | .none => r.1 = false ∧ r.2.2 = saddr ∧ r.2.1.isIcmpxError = false
  | .mismatched => r.1 = false ∧ r.2.2 = saddr ∧ r.2.1.isIcmpxError = true
  | .matching dst => r.1 = true ∧ r.2.2 = dst

structure SameShape (idx : ScanIpv4Idx) (ctx : IpScannerCtx) : Prop where
  fragmentType : idx.fragmentType = ctx.fragmentType
  fragmentId : idx.fragmentId = ctx.fragmentId
  l4Protocol : idx.l4Protocol = ctx.l4Protocol
  l4Offset : ctx.fragmentType.headless = false → idx.l4Offset = ctx.l4Offset

theorem scanUpgradeIcmp_spec (h : WellFormed f b) (hs : scan f b l3Offset = .ok ctx)
    (hl : ctx.fragmentType.headless = false) (hp : ctx.l4Protocol = icmpProto f) {saddr : IpAddr} :
    Upgraded saddr (scanUpgradeIcmp f b l3Offset (.ofCtx ctx) saddr) (quoteOf f b ctx) ∧
      SameShape (scanUpgradeIcmp f b l3Offset (.ofCtx ctx) saddr).2.1 ctx := by
  obtain ⟨hhdr,-,hle⟩ := scan_header hs
  have hmax : maxOffset = 20480 := rfl
  have hlen : headerLen f ≤ 40 := by cases f <;> decide
  have hl3 : l3Offset = 14 := rfl
  have hicmp : validateRead b ctx.l4Offset 8 = true :=
    validateRead_of_le (by omega) (by omega) (h.upper ctx hs hl (.inr (.inr hp)))
  have hshape : ∀ a c e, SameShape
      { ScanIpv4Idx.ofCtx ctx with
        icmpErrorL3Offset := a, icmpErrorInnerL4Offset := c, icmpErrorL4Protocol := e } ctx :=
    fun _ _ _ => ⟨rfl,rfl,rfl,fun _ => rfl⟩
  unfold scanUpgradeIcmp quoteOf
  have hoff : (ScanIpv4Idx.ofCtx ctx).l4Offset = ctx.l4Offset := rfl
  simp only [hoff, hicmp, hp, ne_eq, not_true_eq_false, false_or]
  by_cases hmsg : msgType f (b.u8 ctx.l4Offset) = .error
  · simp only [hmsg, not_true_eq_false, if_false]
    cases hin : scan f b (ctx.l4Offset + 8) with
    | error e => exact ⟨⟨rfl,rfl,rfl⟩,hshape _ 0 0⟩
    | ok inner =>
      obtain ⟨hquoted,hinner,-⟩ := scan_header hin
      by_cases hhead : inner.fragmentType.headless = true
      · simp only [hhead, if_true]
        exact ⟨⟨rfl,rfl,rfl⟩,hshape _ 0 0⟩
      · have hdst : validateRead b (l3Offset + daddrOff f) (addrLen f) = true := by
          refine validateRead_mono hhdr (Nat.le_add_right _ _) ?_
          cases f <;> decide
        have hsrc : validateRead b (ctx.l4Offset + 8 + saddrOff f) (addrLen f) = true := by
          refine validateRead_mono hquoted (Nat.le_add_right _ _) ?_
          cases f <;> simp [saddrOff, addrLen, headerLen]
        have hlast : validateRead b (quotedRead (ctx.l4Offset + 8) f).1
            (quotedRead (ctx.l4Offset + 8) f).2 = true := by
          refine validateRead_mono hquoted ?_ ?_ <;> cases f <;> simp [quotedRead, headerLen]
        simp only [hhead, hdst, hsrc, hlast]
        by_cases heq : readAddr b (l3Offset + daddrOff f) f =
            readAddr b (ctx.l4Offset + 8 + saddrOff f) f
        · simp only [heq, not_true_eq_false, if_true, if_false]
          exact ⟨⟨rfl,rfl⟩,hshape _ _ _⟩
        · simp only [heq, not_false_eq_true, if_true, if_false]
          refine ⟨⟨rfl,rfl,?_⟩,hshape _ _ _⟩
          show (decide (0 < ctx.l4Offset + 8) && decide (0 < inner.l4Offset)) = true
          rw [Bool.and_eq_true, decide_eq_true_eq, decide_eq_true_eq]
          omega
  · have hmsg' : (msgType f (b.u8 ctx.l4Offset) != .error) = true := by simpa using hmsg
    simp only [hmsg, hmsg', not_false_eq_true, if_true]
    exact ⟨⟨rfl,rfl,rfl⟩,hshape 0 0 0⟩

/-- The fragment tracking refuses the packet: the first fragment of its datagram is not in the
cache, or it is one that quotes a packet of somebody else or that the cache does not take. -/
def Refused (env : Env) (f : IpFamily) (b : Buf) (ctx : IpScannerCtx) : Prop :=
  match ctx.fragmentType, quoteOf f b ctx with
  | .single, _ => False
  | .first, .none => env.fragUpdateOk = false
  | .first, .mismatched => True
  | .first, .matching _ => False
  | _, _ => env.frags ⟨ctx.l4Protocol,ctx.fragmentId,srcAddr f b,dstAddr f b⟩ = none

/-- The source a packet is judged by: for a matching ICMP error the destination of what it
quotes. -/
def judgedSrc (f : IpFamily) (b : Buf) (ctx : IpScannerCtx) : IpAddr :=
  match ctx.fragmentType.headless, quoteOf f b ctx with
  | false, .matching dst => dst
  | _, _ => srcAddr f b

theorem fragTrack_shot_iff {idx : ScanIpv4Idx} (hi : SameShape idx ctx) (saddr daddr : IpAddr)
    (ports : UInt16 × UInt16) : (fragTrack env idx saddr daddr ports).1 ≠ .ok ↔
      ctx.fragmentType ≠ .single ∧ (idx.isIcmpxError = true ∨
        (ctx.fragmentType = .first ∧ env.fragUpdateOk = false) ∨ (ctx.fragmentType ≠ .first ∧
          env.frags ⟨ctx.l4Protocol,ctx.fragmentId,saddr,daddr⟩ = none)) := by
  rw [fragTrack, hi.fragmentType, hi.fragmentId, hi.l4Protocol]
  by_cases hsingle : ctx.fragmentType = .single
  · simp [hsingle]
  by_cases hquote : idx.isIcmpxError = true
  · simp [hsingle, hquote]
  by_cases hfirst : ctx.fragmentType = .first
  · cases hok : env.fragUpdateOk <;> simp [hquote, hfirst]
  · cases hc : env.frags ⟨ctx.l4Protocol,ctx.fragmentId,saddr,daddr⟩ <;>
      simp [hsingle, hquote, hfirst, hc]

theorem fwFinish_shot_iff (h : WellFormed f b) (hs : scan f b l3Offset = .ok ctx)
    {r : Bool × ScanIpv4Idx × IpAddr} (hi : SameShape r.2.1 ctx) (daddr : IpAddr) :
    (fwFinish env blockSrc b daddr r).1 = .shot ↔
      (r.1 = false ∧ (fragTrack env r.2.1 r.2.2 daddr (0, 0)).1 ≠ .ok) ∨
        Covered env.block (if blockSrc then r.2.2 else daddr) := by
  have hports : (r.2.1.fragmentType == .first &&
      (r.2.1.l4Protocol == ipprotoTcp || r.2.1.l4Protocol == ipprotoUdp) &&
      !validateRead b r.2.1.l4Offset 4) = false := by
    rw [hi.fragmentType, hi.l4Protocol]
    by_cases hfirst : ctx.fragmentType = .first
    · have hl : ctx.fragmentType.headless = false := by rw [hfirst]; rfl
      rw [hi.l4Offset hl]
      by_cases htcp : ctx.l4Protocol = ipprotoTcp ∨ ctx.l4Protocol = ipprotoUdp
      · obtain ⟨-,-,hle⟩ := scan_header hs
        have hlen : headerLen f ≤ 40 := by cases f <;> decide
        have hin := h.upper ctx hs hl (htcp.imp_right .inl)
        have hmax : maxOffset = 20480 := rfl
        have hl3 : l3Offset = 14 := rfl
        have hv : validateRead b ctx.l4Offset 4 = true :=
          validateRead_of_le (by omega) (by omega) (by omega)
        simp [hv]
      · have : (ctx.l4Protocol == ipprotoTcp || ctx.l4Protocol == ipprotoUdp) = false := by
          simpa using htcp
        simp [this]
    · have : (ctx.fragmentType == .first) = false := by simpa using hfirst
      simp [this]
  have htrack : ∀ ports, (fragTrack env r.2.1 r.2.2 daddr ports).1 =
      (fragTrack env r.2.1 r.2.2 daddr (0, 0)).1 := by
    intro ports
    simp only [fragTrack]
    split
    · rfl
    split
    · rfl
    split <;> split <;> rfl
  rw [← blocked_iff, fwFinish]
  simp only [hports]
  cases hr : r.1 with
  | true => cases hb : blocked env.block (if blockSrc then r.2.2 else daddr) <;> simp
  | false =>
    by_cases hok : (fragTrack env r.2.1 r.2.2 daddr (0, 0)).1 = .ok
    · cases hb : blocked env.block (if blockSrc then r.2.2 else daddr) <;> simp [htrack, hok]
    · simp [htrack, hok]

theorem fwDoFamily_eq (h : WellFormed f b) (hs : scan f b l3Offset = .ok ctx) :
    ∃ r, fwDoFamily env blockSrc f b = fwFinish env blockSrc b (dstAddr f b) r ∧
      SameShape r.2.1 ctx ∧
      (if ctx.fragmentType.headless then r.1 = false ∧ r.2.2 = srcAddr f b ∧
        r.2.1.isIcmpxError = false
        else Upgraded (srcAddr f b) r (quoteOf f b ctx)) := by
  obtain ⟨hhdr,-⟩ := scan_header hs
  cases hl : ctx.fragmentType.headless with
  | true =>
    have hidx : scanIntoIdx f b l3Offset = .ok { ScanIpv4Idx.ofCtx ctx with l4Offset := 0 } := by
      simp [scanIntoIdx, hs, bind, Except.bind, ScanIpv4Idx.ofCtx, hl]
    refine ⟨(false, { ScanIpv4Idx.ofCtx ctx with l4Offset := 0 }, srcAddr f b),?_,
      ⟨rfl,rfl,rfl,fun h => by rw [hl] at h; cases h⟩,rfl,rfl,rfl⟩
    rw [fwDoFamily, hidx]
    simp only [hhdr, show (ScanIpv4Idx.ofCtx ctx).fragmentType = ctx.fragmentType from rfl, hl]
    rfl
  | false =>
    have hidx : scanIntoIdx f b l3Offset = .ok (.ofCtx ctx) := by
      simp [scanIntoIdx, hs, bind, Except.bind, ScanIpv4Idx.ofCtx, hl]
    by_cases hp : ctx.l4Protocol = icmpProto f
    · obtain ⟨hup,hshape⟩ := scanUpgradeIcmp_spec h hs hl hp
      refine ⟨_,?_,hshape,hup⟩
      have hp' : (ctx.l4Protocol == icmpProto f) = true := by simpa using hp
      rw [fwDoFamily, hidx]
      simp only [hhdr, show (ScanIpv4Idx.ofCtx ctx).fragmentType = ctx.fragmentType from rfl, hl,
        show (ScanIpv4Idx.ofCtx ctx).l4Protocol = ctx.l4Protocol from rfl, hp']
      rfl
    · refine ⟨(false, .ofCtx ctx, srcAddr f b),?_,⟨rfl,rfl,rfl,fun _ => rfl⟩,?_⟩
      · have hp' : (ctx.l4Protocol == icmpProto f) = false := by simpa using hp
        rw [fwDoFamily, hidx]
        simp only [hhdr, show (ScanIpv4Idx.ofCtx ctx).fragmentType = ctx.fragmentType from rfl, hl,
          show (ScanIpv4Idx.ofCtx ctx).l4Protocol = ctx.l4Protocol from rfl, hp']
        rfl
      · have hq : quoteOf f b ctx = .none := by simp [quoteOf, hp]
        rw [hq]
        exact ⟨rfl,rfl,rfl⟩

theorem judged_or_refused (h : WellFormed f b) (hs : scan f b l3Offset = .ok ctx) :
    (fwDoFamily env blockSrc f b).1 = .shot ↔
      Refused env f b ctx ∨ Covered env.block
      (if blockSrc then judgedSrc f b ctx else dstAddr f b) := by
  obtain ⟨r,heq,hi,hr⟩ := fwDoFamily_eq h hs
  rw [heq, fwFinish_shot_iff h hs hi, fragTrack_shot_iff hi]
  cases hft : ctx.fragmentType <;>
  all_goals cases hq : quoteOf f b ctx <;>
    simp_all [Refused, judgedSrc, FragType.headless, Upgraded, srcAddr, dstAddr]

/-- The TC stage drops exactly the packets it can read and whose fragment it refuses or whose
judged address is covered. -/
theorem fwDo_shot_iff (h : WellFormed f b) : (fwDo env blockSrc b).1 = .shot ↔
    ∃ ctx, scan f b l3Offset = .ok ctx ∧ (Refused env f b ctx ∨
      Covered env.block (if blockSrc then judgedSrc f b ctx else dstAddr f b)) := by
  have htype : currentPkgType b = some f := by
    have hlen := h.header
    have hl3 : l3Offset = 14 := rfl
    have hv : validateRead b 0 14 = true := validateRead_of_le (by decide) (by decide) (by omega)
    have hether := h.ether
    cases f <;> simp [currentPkgType, hv, hether, etherType]
  rw [fwDo, htype]
  cases hs : scan f b l3Offset with
  | error e => simp [fwDoFamily, scanIntoIdx, hs, bind, Except.bind]
  | ok ctx =>
    simp only [judged_or_refused h hs, Except.ok.injEq]
    constructor
    · intro hc
      exact ⟨ctx,rfl,hc⟩
    · rintro ⟨_,rfl,hc⟩
      exact hc

def outerAddr (f : IpFamily) (blockSrc : Bool) (b : Buf) : IpAddr :=
  if blockSrc then srcAddr f b else dstAddr f b

/-- The XDP stage drops exactly the packets whose outer address is covered. -/
theorem firewallCheck_drop_iff (h : WellFormed f b) :
    firewallCheck env blockSrc b = .drop ↔ Covered env.block (outerAddr f blockSrc b) := by
  have hlen := h.header
  have htype : xdpClassifyL3 b = some f := by
    have hl3 : l3Offset = 14 := rfl
    have hv : ¬b.len < 14 := by omega
    have hether := h.ether
    cases f <;> simp [xdpClassifyL3, hv, hether, etherType]
  have haddr : readAddr b (l3Offset + if blockSrc then saddrOff f else daddrOff f) f =
      outerAddr f blockSrc b := by cases blockSrc <;> rfl
  rw [← blocked_iff, firewallCheck, htype]
  simp only [haddr, if_neg (Nat.not_lt.mpr hlen)]
  cases hb : blocked env.block (outerAddr f blockSrc b) <;> simp

/-- Both stages give the same, and drop what the blacklist covers. -/
def EnforcedAlike (env : Env) (blockSrc : Bool) (f : IpFamily) (b : Buf) : Prop :=
  ((fwDo env blockSrc b).1 = .shot ↔ firewallCheck env blockSrc b = .drop) ∧
  (Covered env.block (outerAddr f blockSrc b) →
    (fwDo env blockSrc b).1 = .shot ∧ firewallCheck env blockSrc b = .drop)

/-- What the TC stage does beyond the outer header makes no difference: it can read the headers of
what it has to drop, the fragments it refuses are to be dropped anyway, and a quoted destination
that stands for the source is covered if the source is, and only then. -/
structure NoDifference (env : Env) (blockSrc : Bool) (f : IpFamily) (b : Buf) : Prop where
  readable : Covered env.block (outerAddr f blockSrc b) → Readable f b
  fragments : ∀ ctx, scan f b l3Offset = .ok ctx → Refused env f b ctx →
    Covered env.block (outerAddr f blockSrc b)
  quotes : ∀ ctx dst, scan f b l3Offset = .ok ctx → ¬Refused env f b ctx →
    ctx.fragmentType.headless = false → blockSrc = true → quoteOf f b ctx = .matching dst →
    (Covered env.block dst ↔ Covered env.block (outerAddr f blockSrc b))

def ipv4Bytes (proto : UInt8) (src dst : List UInt8) : List UInt8 :=
  [0x45, 0, 0, 56, 0, 0, 0, 0, 64, proto, 0, 0] ++ src ++ dst

def ethBytes : List UInt8 := List.replicate 12 0 ++ [0x08, 0x00]

def tcpPacket : Buf :=
  .ofList (ethBytes ++ ipv4Bytes 6 [1, 2, 3, 4] [5, 6, 7, 8] ++ List.replicate 20 0)

/- 1.2.3.4 reports to 5.6.7.8 that 9.9.9.9 cannot be reached. -/
def icmpErrorPacket : Buf :=
  .ofList (ethBytes ++ ipv4Bytes 1 [1, 2, 3, 4] [5, 6, 7, 8] ++ [3, 1, 0, 0, 0, 0, 0, 0] ++
    ipv4Bytes 17 [5, 6, 7, 8] [9, 9, 9, 9] ++ List.replicate 8 0)

def sampleEnv : Env :=
  ⟨fun n => n = .v4 (.around 32 0x01020304),fun _ => none,true⟩

theorem wellFormed_of_check {b : Buf} (hether : b.be16 12 = etherType .ipv4)
    (hheader : l3Offset + headerLen .ipv4 ≤ b.len) (hversion : b.u8 l3Offset >>> 4 = 4)
    (hihl : 20 ≤ ihlBytes b l3Offset ∧ l3Offset + ihlBytes b l3Offset ≤ b.len)
    (hupper : (match scan .ipv4 b l3Offset with
      | .ok ctx => decide (ctx.l4Offset + 8 ≤ b.len)
      | .error _ => true) = true) : WellFormed .ipv4 b := by
  refine ⟨hether,hheader,hversion,hihl,fun ctx hs _ _ => ?_⟩
  rw [hs] at hupper
  exact of_decide_eq_true hupper

end Landscape.Firewall
