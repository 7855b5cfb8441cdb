import Landscape.Packet.ModifyV4

/-! ICMP errors about TCP and UDP packets: where the quoted packet is, and that its sender can be
replaced together with the receiver of the error. -/
namespace Landscape.Packet
open Bytes Buf
variable {K : Kernel} {b b' : Buf} {l3 : Nat} {idx : ScanIpv4Idx} {pair : Inet4Pair}
  {P : Nat → Prop}

/-- An error that is no fragment and quotes the headers of a TCP or UDP packet. The pair is that of
the connection as its replies have it. -/
structure WholeError4 (b : Buf) (l3 : Nat) (idx : ScanIpv4Idx) (pair : Inet4Pair) : Prop where
  scan : scanIpv4Full b l3 = .ok idx
  read : skbReadIpv4Info b l3 idx = some pair
  ihl : 20 ≤ ihlBytes b l3
  quotedIhl : 20 ≤ ihlBytes b idx.icmpErrorL3Offset
  single : idx.fragmentType = .single
  error : idx.isIcmpxError = true
  proto : idx.icmpErrorL4Protocol = ipprotoTcp ∨ idx.icmpErrorL4Protocol = ipprotoUdp

structure ErrorAt (b : Buf) (l3 : Nat) (idx : ScanIpv4Idx) : Prop where
  header : validateRead b l3 20 = true
  l4Offset : idx.l4Offset = l3 + ihlBytes b l3
  l4Protocol : idx.l4Protocol = ipprotoIcmp
  icmp : validateRead b idx.l4Offset 8 = true
  errorL3 : idx.icmpErrorL3Offset = idx.l4Offset + 8
  quoted : validateRead b idx.icmpErrorL3Offset 20 = true
  errorL4 : idx.icmpErrorInnerL4Offset = idx.icmpErrorL3Offset + ihlBytes b idx.icmpErrorL3Offset
  sender : b.be32 (l3 + 16) = b.be32 (idx.icmpErrorL3Offset + 12)

theorem scanIpv4IcmpError_eq {idx idx' : ScanIpv4Idx} (h : scanIpv4IcmpError b l3 idx = .ok idx') :
    ∃ proto, idx' = { idx with
        icmpErrorL3Offset := idx.l4Offset + 8
        icmpErrorInnerL4Offset := idx.l4Offset + 8 + ihlBytes b (idx.l4Offset + 8)
        icmpErrorL4Protocol := proto } ∧
      validateRead b (idx.l4Offset + 8) 20 = true ∧
      b.be32 (l3 + 16) = b.be32 (idx.l4Offset + 8 + 12) := by
  unfold scanIpv4IcmpError at h
  cases hinner : scanIpv4 b (idx.l4Offset + 8) with
  | error e => simp [hinner, bind, Except.bind] at h
  | ok inner =>
    have hat := scanIpv4_plainAt hinner
    have hl4 : inner.l4Offset = idx.l4Offset + 8 + ihlBytes b (idx.l4Offset + 8) := hat.l4Offset
    simp only [hinner, bind, Except.bind] at h
    split at h
    · cases h
    split at h
    · cases h
    split at h
    · cases h
    split at h
    · cases h
    rename_i hsame
    cases h
    refine ⟨inner.l4Protocol,?_,hat.header,?_⟩
    · rw [hl4]
    · simpa using hsame

theorem WholeError4.errorAt (h : WholeError4 b l3 idx pair) : ErrorAt b l3 idx := by
  have hscan := h.scan
  have herror := h.error
  unfold scanIpv4Full at hscan
  cases hctx : scanIpv4 b l3 with
  | error e => simp [hctx, bind, Except.bind] at hscan
  | ok ctx =>
    have hat := scanIpv4_plainAt hctx
    simp only [hctx, bind, Except.bind] at hscan
    split at hscan
    · cases hscan
      cases herror
    split at hscan
    · split at hscan
      · cases hscan
      · cases hscan
        cases herror
    split at hscan
    · rename_i hicmp
      split at hscan
      · cases hscan
      rename_i hread
      split at hscan
      · obtain ⟨proto,rfl,hquoted,hsender⟩ := scanIpv4IcmpError_eq hscan
        exact ⟨hat.header,hat.l4Offset,eq_of_beq hicmp,by simpa using hread,rfl,hquoted,rfl,hsender⟩
      · cases hscan
        cases herror
      · cases hscan
    · cases hscan
      cases herror

/-- What the reader gives for such an error, and how much of the quoted layer-4 header it asks
for. -/
theorem WholeError4.fields (h : WholeError4 b l3 idx pair) :
    pair.dstAddr = b.be32 (l3 + 16) ∧ pair.dstPort = b.be16 idx.icmpErrorInnerL4Offset ∧
      validateRead b idx.icmpErrorInnerL4Offset 4 = true := by
  have hat := h.errorAt
  have hread := h.read
  have hpos : 0 < idx.icmpErrorL3Offset := by
    rw [hat.errorL3]
    omega
  simp only [skbReadIpv4Info, hat.header, hat.quoted, hpos, if_true, h.single, FragType.headless,
    Bool.false_eq_true, if_false, Option.bind_eq_bind, guard, Option.bind_some,
      Option.pure_def] at hread
  obtain ⟨ports,hports,hpair⟩ := Option.bind_eq_some_iff.mp hread
  cases hpair
  simp only [skbReadIpv4Ports, hat.l4Protocol] at hports
  rcases h.proto with hp | hp
  · rw [hp] at hports
    have hif : (if validateRead b idx.icmpErrorInnerL4Offset 4 then some (_, _) else none) =
      some ports := hports
    obtain ⟨hv,hports⟩ := Option.ite_none_right_eq_some.mp hif
    cases hports
    exact ⟨rfl,rfl,hv⟩
  · rw [hp] at hports
    have hif : (if validateRead b idx.icmpErrorInnerL4Offset 8 then some (_, _) else none) =
      some ports := hports
    obtain ⟨hv,hports⟩ := Option.ite_none_right_eq_some.mp hif
    cases hports
    exact ⟨rfl,rfl,validateRead_mono hv (Nat.le_refl _) (by omega)⟩

section
variable (K) (h : SameBut P b b') {off : Nat}
include h

theorem csumOffsetOk_of_sameBut (hok : csumOffsetOk b off = true) : csumOffsetOk b' off = true :=
  (csumOffsetOk_congr h.len off).trans hok

theorem Kernel.l3CsumReplace_writes (hok : csumOffsetOk b off = true)
    (hP : ∀ i, off ≤ i → i < off + 2 → P i) (x y : UInt32) (size : Nat) :
    Writes P b (K.l3CsumReplace b' off x y size) := by
  obtain ⟨v,hv⟩ := K.l3CsumReplace_some (csumOffsetOk_of_sameBut h hok) x y size
  exact ⟨_,hv,h.setBe16 v hP⟩

theorem Kernel.l4CsumReplace_writes (hok : csumOffsetOk b off = true)
    (hP : ∀ i, off ≤ i → i < off + 2 → P i) {y : UInt32} {x : UInt32} {size : Nat} {pseudo : Bool}
    (mangled0 : Bool) :
    Writes P b (K.l4CsumReplace b' off x y size pseudo mangled0) := by
  obtain ⟨v,hv⟩ := K.l4CsumReplace_some (csumOffsetOk_of_sameBut h hok) x y size pseudo mangled0
  exact ⟨_,hv,h.setBe16 v hP⟩

theorem Kernel.l3CsumReplace_same (hP : ∀ i, off ≤ i → i < off + 2 → P i) (x y : UInt32)
    (size : Nat) :
    SameBut P b ((K.l3CsumReplace b' off x y size).getD b') := by
  unfold Kernel.l3CsumReplace
  split
  · exact h.setBe16 _ hP
  · exact h

theorem ipv4UpdateCsumInner_same (hP : ∀ i, off ≤ i → i < off + 2 → P i)
    (act : Nat4Action) (l4Pseudo l4Mangled0 : Bool) :
    SameBut P b (ipv4UpdateCsumInner K b' off act l4Pseudo l4Mangled0) := by
  have hport := K.l3CsumReplace_same h hP act.fromPort.toUInt32 act.toPort.toUInt32 2
  unfold ipv4UpdateCsumInner
  split
  · exact h
  split
  · split
    · exact h
    · rename_i b₁ hb₁
      rw [hb₁] at hport
      split
      · exact K.l3CsumReplace_same hport hP act.fromAddr act.toAddr 4
      · exact hport
  · exact h

end

theorem ipv4UpdateCsumIcmpErr_writes {icmpCsumOff errIpCheckOff errL4CsumOff : Nat}
    (hicmp : csumOffsetOk b icmpCsumOff = true) (hip : csumOffsetOk b errIpCheckOff = true)
    (hread : validateRead b errIpCheckOff 2 = true)
    (hPicmp : ∀ i, icmpCsumOff ≤ i → i < icmpCsumOff + 2 → P i)
    (hPip : ∀ i, errIpCheckOff ≤ i → i < errIpCheckOff + 2 → P i)
    (hPl4 : ∀ i, errL4CsumOff ≤ i → i < errL4CsumOff + 2 → P i) (act : Nat4Action)
    (errL4Pseudo l4Mangled0 : Bool) :
    Writes P b (ipv4UpdateCsumIcmpErr K b icmpCsumOff errIpCheckOff errL4CsumOff act errL4Pseudo
      l4Mangled0) := by
  have hguard {b₁ : Buf} (h : b₁.len = b.len) : validateRead b₁ errIpCheckOff 2 = true :=
    (validateRead_congr h _).trans hread
  have hend {b₃ : Buf} (h₃ : SameBut P b b₃) : Writes P b
      ((K.l4CsumReplace b₃ icmpCsumOff act.fromAddr act.toAddr 4 false false).bind fun b =>
        K.l4CsumReplace b icmpCsumOff act.fromPort.toUInt32 act.toPort.toUInt32 2 false false) := by
    refine (K.l4CsumReplace_writes h₃ hicmp hPicmp _).bind ?_
    intro b₄ h₄
    exact K.l4CsumReplace_writes h₄ hicmp hPicmp _
  simp only [ipv4UpdateCsumIcmpErr, guard, hread, if_true, Option.bind_eq_bind, Option.pure_def,
    Option.bind_some]
  refine (K.l3CsumReplace_writes (.refl _ b) hip hPip _ _ _).bind ?_
  intro b₁ h₁
  rw [if_pos (hguard h₁.len), Option.bind_some]
  refine (K.l4CsumReplace_writes h₁ hicmp hPicmp _).bind ?_
  intro b₂ h₂
  split
  · -- the quoted packet is long enough to have a checksum
    rename_i hv
    have h₃ := ipv4UpdateCsumInner_same K h₂ hPl4 act errL4Pseudo l4Mangled0
    have hv' : validateRead (ipv4UpdateCsumInner K b₂ errL4CsumOff act errL4Pseudo l4Mangled0)
        errL4CsumOff 2 = true :=
      (validateRead_congr (h₃.len.trans h₂.len.symm) _).trans hv
    rw [if_pos hv']
    exact (K.l4CsumReplace_writes h₃ hicmp hPicmp _).bind fun _ => hend
  · exact hend h₂

/-- What is written behind the outer header: the quoted sender, its port, and checksums. -/
theorem modifyIcmpErrorV4_some (lay : L4Layout) (hsrc : lay.srcPortOff = 0)
    (hcheck : 2 ≤ lay.checkOff) {l4 errL4 : Nat} (hicmp : csumOffsetOk b (l4 + 2) = true)
    (hip : csumOffsetOk b (l4 + 8 + 10) = true) (hread : validateRead b (l4 + 8 + 10) 2 = true)
    (hbehind : l4 + 8 + 20 ≤ errL4) (hport : errL4 + 2 ≤ b.len) (act : Nat4Action) :
    ∃ b', modifyIcmpErrorV4 K b lay l4 errL4 false act = some b' ∧
      b'.be32 (l4 + 8 + 12) = act.toAddr ∧
      b'.be16 errL4 = act.toPort ∧ ∀ off, off + 4 ≤ l4 + 2 → b'.be32 off = b.be32 off := by
  let b₁ := (b.setBe32 (l4 + 8 + 12) act.toAddr).setBe16 errL4 act.toPort
  have hlen : b₁.len = b.len := rfl
  have hwrites : Writes (fun i => l4 + 2 ≤ i ∧ i < l4 + 8 + 12 ∨ errL4 + 2 ≤ i) b₁
      (ipv4UpdateCsumIcmpErr K b₁ (l4 + 2) (l4 + 8 + 10) (errL4 + lay.checkOff) act lay.pseudo
        lay.mangle0) := by
    refine ipv4UpdateCsumIcmpErr_writes ?_ ?_ ?_ (by omega) (by omega) (by omega) act lay.pseudo
      lay.mangle0
    · exact (csumOffsetOk_congr hlen _).trans hicmp
    · exact (csumOffsetOk_congr hlen _).trans hip
    · exact (validateRead_congr hlen _).trans hread
  obtain ⟨b',hb',hsame⟩ := hwrites
  have haddr : storeBe32 b (l4 + 8 + 12) act.toAddr = some (b.setBe32 (l4 + 8 + 12) act.toAddr) :=
    if_pos (by omega)
  have hport' : storeBe16 (b.setBe32 (l4 + 8 + 12) act.toAddr) errL4 act.toPort = some b₁ :=
    if_pos hport
  have hrun : modifyIcmpErrorV4 K b lay l4 errL4 false act = some b' := by
    simp only [modifyIcmpErrorV4, Bool.false_eq_true, if_false, hsrc, Nat.add_zero, haddr, hport',
      Option.bind_eq_bind, Option.bind_some]
    exact hb'
  refine ⟨b',hrun,?_,?_,?_⟩
  · rw [hsame.be32 (by omega), be32_setBe16_of_disjoint _ _ (by omega), be32_setBe32]
  · rw [hsame.be16 (by omega), be16_setBe16]
  · intro off hoff
    rw [hsame.be32 (by omega), be32_setBe16_of_disjoint _ _ (by omega),
      be32_setBe32_of_disjoint _ _ (by omega)]

theorem WholeError4.modifyHeadersV4_eq (h : WholeError4 b l3 idx pair) (heven : l3 % 2 = 0)
    (act : Nat4Action) :
    ∃ b', modifyHeadersV4 K b true idx.icmpErrorL4Protocol l3 idx.l4Offset
    idx.icmpErrorInnerL4Offset false act =
        some b' ∧ b'.be32 (l3 + 16) = act.toAddr ∧
        b'.be32 (idx.icmpErrorL3Offset + 12) = act.toAddr ∧
        b'.be16 idx.icmpErrorInnerL4Offset = act.toPort := by
  have hat := h.errorAt
  have hport := validateRead_len h.fields.2.2
  have hl4 := hat.l4Offset
  have herrL3 := hat.errorL3
  have herrL4 := hat.errorL4
  have hihl := h.ihl
  have hihl' := h.quotedIhl
  have hfour : ihlBytes b l3 % 4 = 0 := Nat.mul_mod_left _ 4
  obtain ⟨lay,hlay,hsrc,hcheck⟩ : ∃ lay, l4Layout idx.icmpErrorL4Protocol = some lay ∧
    lay.srcPortOff = 0 ∧
      2 ≤ lay.checkOff := by
    rcases h.proto with hp | hp
    · rw [hp]
      exact ⟨_,rfl,rfl,by decide⟩
    · rw [hp]
      exact ⟨_,rfl,rfl,by decide⟩
  obtain ⟨v,hv⟩ := K.l3CsumReplace_some (b := b.setBe32 (l3 + 16) act.toAddr)
    ((csumOffsetOk_congr rfl (l3 + 10)).trans
      (csumOffsetOk_of_validateRead hat.header (by omega) (by omega)))
    act.fromAddr act.toAddr 4
  let b₁ := (b.setBe32 (l3 + 16) act.toAddr).setBe16 (l3 + 10) v
  have hlen : b₁.len = b.len := rfl
  have hip : validateRead b (idx.l4Offset + 8 + 10) 2 = true :=
    validateRead_mono hat.quoted (by omega) (by omega)
  have hbehind : idx.l4Offset + 8 + 20 ≤ idx.icmpErrorInnerL4Offset := by omega
  obtain ⟨b',hb',haddr,hport',hsame⟩ := modifyIcmpErrorV4_some (K := K) (b := b₁) lay hsrc hcheck
    ((csumOffsetOk_congr hlen _).trans
      (csumOffsetOk_of_validateRead hat.icmp (by omega) (by omega)))
    ((csumOffsetOk_congr hlen _).trans (csumOffsetOk_of_validateRead hip (by omega) (by omega)))
    ((validateRead_congr hlen _).trans hip) hbehind (by omega) act
  have hrun : modifyHeadersV4 K b true idx.icmpErrorL4Protocol l3 idx.l4Offset
      idx.icmpErrorInnerL4Offset false act = some b' := by
    have hfits : l3 + 16 + 4 ≤ b.len := by omega
    have hpos : idx.l4Offset ≠ 0 := by omega
    simp only [modifyHeadersV4, storeBe32, Bool.false_eq_true, if_false, if_pos hfits,
      Option.bind_eq_bind, Option.bind_some, hv, if_neg hpos, hlay, if_true]
    exact hb'
  rw [← herrL3] at haddr
  refine ⟨b',hrun,?_,haddr,hport'⟩
  rw [hsame (l3 + 16) (by omega), be32_setBe16_of_disjoint _ _ (by omega), be32_setBe32]

end Landscape.Packet
