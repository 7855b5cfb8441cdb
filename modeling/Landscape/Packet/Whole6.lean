import Landscape.Packet.Ipv6Info
import Landscape.Packet.Quoted

/-! Unfragmented TCP and UDP packets over IPv6: where their headers are, and that the prefix of an
address can be replaced in them. -/
namespace Landscape.Packet
open Bytes Buf
variable {K : Kernel} {b b' : Buf} {l3 : Nat} {idx : ScanIpv6Idx} {pair : Inet6Pair}
  {P : Nat → Prop} {off : Nat}

/-- A TCP or UDP packet that is no fragment, between the two ends `pair`. -/
structure WholeIpv6 (b : Buf) (l3 : Nat) (idx : ScanIpv6Idx) (pair : Inet6Pair) : Prop where
  scan : scanIpv6Full b l3 = .ok idx
  read : skbReadIpv6Info b l3 idx = some pair
  single : idx.fragmentType = .single
  proto : idx.l4Protocol = ipprotoTcp ∨ idx.l4Protocol = ipprotoUdp

theorem scanIpv6IcmpError_eq {idx idx' : ScanIpv6Idx} (h : scanIpv6IcmpError b l3 idx = .ok idx') :
    ∃ k proto, idx' = { idx with
        icmpErrorL3Offset := idx.l4Offset + 8
        icmpErrorInnerL4Offset := idx.l4Offset + 8 + 40 + 8 * k
        icmpErrorL4Protocol := proto } ∧
      validateRead b (idx.l4Offset + 8) 40 = true ∧
      addr6At b (l3 + 24) = addr6At b (idx.l4Offset + 8 + 8) := by
  unfold scanIpv6IcmpError at h
  cases hinner : scanIpv6 b (idx.l4Offset + 8) with
  | error e => simp [hinner, Except.mapError, bind, Except.bind] at h
  | ok inner =>
    obtain ⟨hread,k,-,hk⟩ := scanIpv6_l4Offset hinner
    simp only [hinner, Except.mapError, bind, Except.bind] at h
    split at h
    · cases h
    split at h
    · cases h
    split at h
    · cases h
    split at h
    · cases h
    rename_i hsame
    cases h
    refine ⟨k,inner.l4Protocol,?_,hread,?_⟩
    · rw [hk]
    · exact not_not.mp hsame

structure PlainAt6 (b : Buf) (l3 : Nat) (idx : ScanIpv6Idx) : Prop where
  header : validateRead b l3 40 = true
  l4Offset : ∃ k, idx.l4Offset = l3 + 40 + 8 * k
  errorL3 : idx.icmpErrorL3Offset = 0
  errorL4 : idx.icmpErrorInnerL4Offset = 0
  errorProto : idx.icmpErrorL4Protocol = 0

theorem WholeIpv6.plainAt (h : WholeIpv6 b l3 idx pair) : PlainAt6 b l3 idx := by
  have hscan := h.scan
  have hsingle := h.single
  have hproto := h.proto
  unfold scanIpv6Full at hscan
  cases hctx : scanIpv6 b l3 with
  | error e => simp [hctx, bind, Except.bind] at hscan
  | ok ctx =>
    obtain ⟨hread,k,-,hk⟩ := scanIpv6_l4Offset hctx
    have hl4 : ∃ k, ctx.l4Offset = l3 + 40 + 8 * k := ⟨k,hk⟩
    simp only [hctx, bind, Except.bind] at hscan
    split at hscan
    · rename_i hhead
      cases hscan
      have hs : (ScanIpv4Idx.ofCtx ctx).fragmentType = .single := hsingle
      simp [hs, FragType.headless] at hhead
    split at hscan
    · split at hscan
      · cases hscan
      · cases hscan
        exact ⟨hread,hl4,rfl,rfl,rfl⟩
    split at hscan
    · -- the packet is neither TCP nor UDP then
      rename_i hicmp
      have hidx : idx.l4Protocol = (ScanIpv4Idx.ofCtx ctx).l4Protocol := by
        split at hscan
        · cases hscan
        split at hscan
        · obtain ⟨_,_,rfl,-⟩ := scanIpv6IcmpError_eq hscan
          rfl
        · cases hscan
          rfl
        · cases hscan
      rw [hidx, eq_of_beq hicmp] at hproto
      exact absurd hproto (by decide)
    · cases hscan
      exact ⟨hread,hl4,rfl,rfl,rfl⟩

/-- What the reader gives for such a packet, and how much of the layer-4 header it asks for. -/
theorem WholeIpv6.fields (h : WholeIpv6 b l3 idx pair) :
    pair.srcAddr = addr6At b (l3 + 8) ∧ pair.dstAddr = addr6At b (l3 + 24) ∧
      validateRead b idx.l4Offset (l4HeaderLen idx.l4Protocol) = true := by
  have hat := h.plainAt
  have hread := h.read
  simp only [skbReadIpv6Info, hat.header, hat.errorL3, lt_irrefl, if_false, h.single,
    FragType.headless, Bool.false_eq_true, Option.bind_eq_bind, guard, if_true, Option.bind_some,
      Option.pure_def] at hread
  obtain ⟨ports,hports,hpair⟩ := Option.bind_eq_some_iff.mp hread
  cases hpair
  refine ⟨rfl,rfl,?_⟩
  simp only [skbReadIpv6Ports, hat.errorProto] at hports
  rcases h.proto with hp | hp
  · rw [hp] at hports ⊢
    have hif : (if validateRead b idx.l4Offset 20 then some (_, _) else none) = some ports := hports
    exact (Option.ite_none_right_eq_some.mp hif).1
  · rw [hp] at hports ⊢
    have hif : (if validateRead b idx.l4Offset 8 then some (_, _) else none) = some ports := hports
    exact (Option.ite_none_right_eq_some.mp hif).1

/-- The checksum of a TCP or UDP header that has been read is inside it. -/
theorem exists_l4Checksum {l4 : Nat} {proto : UInt8} (hp : proto = ipprotoTcp ∨ proto = ipprotoUdp)
    (hv : validateRead b l4 (l4HeaderLen proto) = true) (heven : l4 % 2 = 0) :
    ∃ check, nat6L4Checksum l4 proto = some check ∧ validateRead b check 2 = true ∧ check % 2 = 0 ∧
      l4 ≤ check := by
  rcases hp with rfl | rfl
  · have hv' : validateRead b l4 20 = true := hv
    exact ⟨l4 + 16,rfl,validateRead_mono hv' (by omega) (by omega),by omega,by omega⟩
  · have hv' : validateRead b l4 8 = true := hv
    exact ⟨l4 + 6,rfl,validateRead_mono hv' (by omega) (by omega),by omega,by omega⟩

theorem Kernel.l4CsumReplaceU64_writes (K : Kernel) (h : SameBut P b b')
    (hok : csumOffsetOk b off = true) (hP : ∀ i, off ≤ i → i < off + 2 → P i) (x y : BitVec 64)
    (pseudo : Bool) :
    Writes P b (K.l4CsumReplaceU64 b' off x y pseudo) := by
  refine (K.l4CsumReplace_writes h hok hP _).bind ?_
  intro b₁ h₁
  exact K.l4CsumReplace_writes h₁ hok hP _

theorem addr6At_of_sameBut (h : SameBut P b b') (hP : ∀ i, off ≤ i → i < off + 16 → ¬P i) :
    addr6At b' off = addr6At b off := by
  unfold addr6At
  rw [h.be64 (fun i hle hlt => hP i hle (by omega)),
    h.be64 (fun i hle hlt => hP i (by omega) (by omega))]

theorem addr6At_setBe64 (hi : BitVec 64) :
    addr6At (b.setBe64 off hi) off = ⟨hi,(addr6At b off).lo⟩ := by
  rw [addr6At, be64_setBe64, be64_setBe64_of_disjoint _ _ (by omega), addr6At]

theorem addr6At_setBe64_of_disjoint {off' : Nat} (hi : BitVec 64)
    (h : off' + 16 ≤ off ∨ off + 8 ≤ off') :
    addr6At (b.setBe64 off hi) off' = addr6At b off' := by
  rw [addr6At, be64_setBe64_of_disjoint _ _ (by omega), be64_setBe64_of_disjoint _ _ (by omega),
    addr6At]

theorem replacePrefix_writes (off : Nat) {check : Nat}
    (hcheck : nat6L4Checksum idx.l4Offset idx.l4Protocol = some check)
    (hok : csumOffsetOk b check = true) (hfits : off + 8 ≤ b.len)
    (hP : ∀ i, check ≤ i → i < check + 2 → P i) (oldPrefix newPrefix : BitVec 64) :
    Writes P (b.setBe64 off newPrefix) (replacePrefix K b idx off oldPrefix newPrefix) := by
  have hstore : storeBe64 b off newPrefix = some (b.setBe64 off newPrefix) := if_pos hfits
  have hok' : csumOffsetOk (b.setBe64 off newPrefix) check = true :=
    (csumOffsetOk_congr rfl check).trans hok
  unfold replacePrefix
  rw [hcheck, hstore]
  exact K.l4CsumReplaceU64_writes (.refl _ _) hok' hP _ _ _

/-- The prefix of an address of the header is replaced; the other half of the address stays. -/
theorem WholeIpv6.replacePrefix_eq (h : WholeIpv6 b l3 idx pair) (heven : l3 % 2 = 0)
    (hoff : off = l3 + 8 ∨ off = l3 + 24) (oldPrefix newPrefix : BitVec 64) :
    ∃ b', replacePrefix K b idx off oldPrefix newPrefix = some b' ∧
      addr6At b' off = ⟨newPrefix,(addr6At b off).lo⟩ := by
  obtain ⟨k,hk⟩ := h.plainAt.l4Offset
  obtain ⟨check,hcheck,hread,hevenCheck,hbehind⟩ :=
    exists_l4Checksum h.proto h.fields.2.2 (by omega)
  have hlen := validateRead_len h.plainAt.header
  obtain ⟨b',hb',hsame⟩ := replacePrefix_writes (K := K) (P := (l3 + 40 ≤ ·)) off hcheck
    (csumOffsetOk_of_validateRead hread hevenCheck (Nat.le_refl _)) (by omega) (by omega) oldPrefix
      newPrefix
  exact ⟨b',hb',(addr6At_of_sameBut hsame (by omega)).trans (addr6At_setBe64 newPrefix)⟩

/-! ICMPv6 errors about TCP and UDP packets: where the quoted packet is, and that the prefix of its
sender can be replaced together with that of the receiver of the error. -/

/-- An error that is no fragment and quotes the headers of a TCP or UDP packet. The pair is that of
the connection as its replies have it. -/
structure WholeError6 (b : Buf) (l3 : Nat) (idx : ScanIpv6Idx) (pair : Inet6Pair) : Prop where
  scan : scanIpv6Full b l3 = .ok idx
  read : skbReadIpv6Info b l3 idx = some pair
  single : idx.fragmentType = .single
  error : idx.isIcmpxError = true
  proto : idx.icmpErrorL4Protocol = ipprotoTcp ∨ idx.icmpErrorL4Protocol = ipprotoUdp

structure ErrorAt6 (b : Buf) (l3 : Nat) (idx : ScanIpv6Idx) : Prop where
  header : validateRead b l3 40 = true
  l4Offset : ∃ k, idx.l4Offset = l3 + 40 + 8 * k
  l4Protocol : idx.l4Protocol = ipprotoIcmpv6
  icmp : validateRead b idx.l4Offset 8 = true
  errorL3 : idx.icmpErrorL3Offset = idx.l4Offset + 8
  quoted : validateRead b idx.icmpErrorL3Offset 40 = true
  errorL4 : ∃ k, idx.icmpErrorInnerL4Offset = idx.icmpErrorL3Offset + 40 + 8 * k
  sender : addr6At b (l3 + 24) = addr6At b (idx.icmpErrorL3Offset + 8)

theorem WholeError6.errorAt (h : WholeError6 b l3 idx pair) : ErrorAt6 b l3 idx := by
  have hscan := h.scan
  have herror := h.error
  unfold scanIpv6Full at hscan
  cases hctx : scanIpv6 b l3 with
  | error e => simp [hctx, bind, Except.bind] at hscan
  | ok ctx =>
    obtain ⟨hread,k,-,hk⟩ := scanIpv6_l4Offset hctx
    simp only [hctx, bind, Except.bind] at hscan
    split at hscan
    · cases hscan
      cases herror
    split at hscan
    · split at hscan
      · cases hscan
      · cases hscan
        cases herror
    split at hscan
    · rename_i hicmp
      split at hscan
      · cases hscan
      rename_i hv
      split at hscan
      · obtain ⟨k',proto,rfl,hquoted,hsender⟩ := scanIpv6IcmpError_eq hscan
        exact ⟨hread,⟨k,hk⟩,eq_of_beq hicmp,by simpa using hv,rfl,hquoted,⟨k',rfl⟩,hsender⟩
      · cases hscan
        cases herror
      · cases hscan
    · cases hscan
      cases herror

/-- What the reader gives for such an error, and how much of the quoted layer-4 header it asks
for. -/
theorem WholeError6.fields (h : WholeError6 b l3 idx pair) : pair.dstAddr = addr6At b (l3 + 24) ∧
      validateRead b idx.icmpErrorInnerL4Offset (l4HeaderLen idx.icmpErrorL4Protocol) = true := by
  have hat := h.errorAt
  have hread := h.read
  have hpos : 0 < idx.icmpErrorL3Offset := by
    rw [hat.errorL3]
    omega
  simp only [skbReadIpv6Info, hat.header, hat.quoted, hpos, if_true, h.single, FragType.headless,
    Bool.false_eq_true, if_false, Option.bind_eq_bind, guard, Option.bind_some,
      Option.pure_def] at hread
  obtain ⟨ports,hports,hpair⟩ := Option.bind_eq_some_iff.mp hread
  cases hpair
  refine ⟨rfl,?_⟩
  simp only [skbReadIpv6Ports, hat.l4Protocol] at hports
  rcases h.proto with hp | hp
  · rw [hp] at hports ⊢
    have hif : (if validateRead b idx.icmpErrorInnerL4Offset 20 then some (_, _) else none) =
      some ports := hports
    exact (Option.ite_none_right_eq_some.mp hif).1
  · rw [hp] at hports ⊢
    have hif : (if validateRead b idx.icmpErrorInnerL4Offset 8 then some (_, _) else none) =
      some ports := hports
    exact (Option.ite_none_right_eq_some.mp hif).1

theorem WholeError6.replaceQuotedPrefix_eq (h : WholeError6 b l3 idx pair) (heven : l3 % 2 = 0)
    (oldPrefix newPrefix : BitVec 64) :
    ∃ b', replaceQuotedPrefix K b idx (idx.icmpErrorL3Offset + 8)
    (idx.l4Offset + 2) oldPrefix newPrefix = some b' ∧
      b'.len = b.len ∧ addr6At b' (l3 + 24) = addr6At b (l3 + 24) ∧
      addr6At b' (idx.icmpErrorL3Offset + 8) =
      ⟨newPrefix,(addr6At b (idx.icmpErrorL3Offset + 8)).lo⟩ := by
  have hat := h.errorAt
  obtain ⟨k,hk⟩ := hat.l4Offset
  obtain ⟨k',hk'⟩ := hat.errorL4
  have herrL3 := hat.errorL3
  obtain ⟨check,hcheck,hread,hevenCheck,hbehind⟩ := exists_l4Checksum h.proto h.fields.2 (by omega)
  have hlen := validateRead_len hat.quoted
  let b₁ := b.setBe64 (idx.icmpErrorL3Offset + 8) newPrefix
  have hstore : storeBe64 b (idx.icmpErrorL3Offset + 8) newPrefix = some b₁ := if_pos (by omega)
  have hread₁ {b₂ : Buf} (hb : b₂.len = b₁.len) : validateRead b₂ check 2 = true :=
    (validateRead_congr hb _).trans hread
  have hinner : csumOffsetOk b₁ check = true :=
    csumOffsetOk_of_validateRead (hread₁ rfl) hevenCheck (Nat.le_refl _)
  have houter : csumOffsetOk b₁ (idx.l4Offset + 2) = true :=
    (csumOffsetOk_congr rfl _).trans (csumOffsetOk_of_validateRead hat.icmp (by omega) (by omega))
  have hwrites : Writes (fun i => idx.l4Offset + 2 ≤ i ∧ i < idx.icmpErrorL3Offset ∨
    idx.icmpErrorL3Offset + 40 ≤ i) b₁
      (replaceQuotedPrefix K b idx (idx.icmpErrorL3Offset + 8) (idx.l4Offset + 2) oldPrefix
        newPrefix) := by
    simp only [replaceQuotedPrefix, hcheck, hstore, guard, hread, if_true, Option.bind_eq_bind,
      Option.bind_some, Option.pure_def]
    refine (K.l4CsumReplaceU64_writes (.refl _ b₁) hinner (by omega) _ _ _).bind ?_
    intro b₂ h₂
    refine (K.l4CsumReplaceU64_writes h₂ houter (by omega) _ _ _).bind ?_
    intro b₃ h₃
    rw [if_pos (hread₁ h₃.len), Option.bind_some]
    exact K.l4CsumReplace_writes h₃ houter (by omega) _
  obtain ⟨b',hb',hsame⟩ := hwrites
  refine ⟨b',hb',hsame.len,?_,?_⟩
  · rw [addr6At_of_sameBut hsame (by omega), addr6At_setBe64_of_disjoint _ (by omega)]
  · rw [addr6At_of_sameBut hsame (by omega), addr6At_setBe64]

/-- The prefix of the receiver is replaced, in a packet of which only the layout is known. -/
theorem ErrorAt6.replacePrefix_eq (hat : ErrorAt6 b l3 idx) (heven : l3 % 2 = 0)
    (hlen : b'.len = b.len) (oldPrefix newPrefix : BitVec 64) :
    ∃ b'', replacePrefix K b' idx (l3 + 24) oldPrefix newPrefix = some b'' ∧
      addr6At b'' (l3 + 24) = ⟨newPrefix,(addr6At b' (l3 + 24)).lo⟩ ∧
      addr6At b'' (idx.icmpErrorL3Offset + 8) = addr6At b' (idx.icmpErrorL3Offset + 8) := by
  obtain ⟨k,hk⟩ := hat.l4Offset
  have herrL3 := hat.errorL3
  have hheader := validateRead_len hat.header
  have hcheck : nat6L4Checksum idx.l4Offset idx.l4Protocol = some (idx.l4Offset + 2) := by
    rw [hat.l4Protocol]
    rfl
  have hok : csumOffsetOk b' (idx.l4Offset + 2) = true :=
    (csumOffsetOk_congr hlen _).trans (csumOffsetOk_of_validateRead hat.icmp (by omega) (by omega))
  obtain ⟨b'',hb'',hsame⟩ := replacePrefix_writes (K := K)
    (P := fun i => idx.l4Offset + 2 ≤ i ∧ i < idx.icmpErrorL3Offset) (l3 + 24) hcheck hok (by omega)
    (by omega) oldPrefix newPrefix
  refine ⟨b'',hb'',?_,?_⟩
  · rw [addr6At_of_sameBut hsame (by omega), addr6At_setBe64]
  · rw [addr6At_of_sameBut hsame (by omega), addr6At_setBe64_of_disjoint _ (by omega)]

end Landscape.Packet
