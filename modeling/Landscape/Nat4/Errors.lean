import Landscape.Nat4.TcNat
import Landscape.Packet.Quoted

/-! ICMP errors from outside: they are sent to the client whose packet they quote. -/
namespace Landscape.Nat4
open Interleave Packet
variable {env : Env} {s : State} {skb : Skb} {idx : ScanIpv4Idx} {pair : Inet4Pair} {c : Ct}

theorem natV4Prologue_run (hscan : scanIpv4Full skb.data env.currentL3Offset = .ok idx)
    (hread : skbReadIpv4Info skb.data env.currentL3Offset idx = some pair)
    (hsingle : idx.fragmentType = .single) (hskip : shouldNatSkipProtocol idx.l4Protocol = false)
    (translate : ScanIpv4Idx → Inet4Pair → M (TcAct × Skb)) :
    (natV4Prologue env skb translate).run exec s =
      if isBroadcastIp4Pair pair then ((.ok, skb), s) else (translate idx pair).run exec s := by
  unfold natV4Prologue
  rw [hscan]
  dsimp only
  rw [hskip, if_neg Bool.false_ne_true, hread]
  dsimp only
  split
  · rfl
  · unfold frag4Track
    rw [if_pos hsingle]
    rfl

theorem nat4CtIngressResolve_run {ctKey : TimerKey} {c : Ct} (hct : s.timer ctKey = some c)
    (husable : nat4CtStatusUsable (s.status c) = true) :
    (nat4CtIngressResolve ctKey).run exec s = (.ok c, s) := by
  have hlook : (timerLookup ctKey).run exec s = (some c, s) := by
    rw [← hct]
    rfl
  unfold nat4CtIngressResolve
  rw [run_bind, hlook]
  change (((if nat4CtStatusUsable (s.status c) then CtIngressResolve.ok c else .unusable), s) :
    CtIngressResolve × State) = _
  rw [husable, if_pos rfl]

/-- An error about a packet of the connection of `c`, whose entry is usable. -/
structure Quotes (env : Env) (s : State) (skb : Skb) (idx : ScanIpv4Idx) (pair : Inet4Pair)
    (c : Ct) : Prop where
  whole : WholeError4 skb.data env.currentL3Offset idx pair
  entry : s.timer ⟨idx.icmpErrorL4Protocol,pair⟩ = some c
  usable : nat4CtStatusUsable (s.status c) = true

def Follows (env : Env) (s : State) (skb : Skb) (idx : ScanIpv4Idx) (c : Ct) : Prop :=
  ∃ out s', (tcNatV4IngressDo env skb).run exec s = ((.ok, out), s') ∧
    out.data.be32 (env.currentL3Offset + 16) = c.val.clientAddr ∧
    out.data.be32 (idx.icmpErrorL3Offset + 12) = c.val.clientAddr ∧
    out.data.be16 idx.icmpErrorInnerL4Offset = c.val.clientPort

theorem Quotes.run (h : Quotes env s skb idx pair c) : (tcNatV4IngressDo env skb).run exec s =
      if isBroadcastIp4Pair pair then ((.ok, skb), s)
      else (rewriteV4 env (if c.val.isStatic then Skb.markStatic skb else skb) idx false
        ⟨pair.dstAddr,pair.dstPort,c.val.clientAddr,c.val.clientPort⟩, s) := by
  have hskip : shouldNatSkipProtocol idx.l4Protocol = false := by
    rw [h.whole.errorAt.l4Protocol]
    rfl
  have hproto : natL4Protocol idx = idx.icmpErrorL4Protocol := if_pos h.whole.error
  have htranslate : (ingressTranslate env skb idx pair).run exec s =
      (rewriteV4 env (if c.val.isStatic then Skb.markStatic skb else skb) idx false
        ⟨pair.dstAddr,pair.dstPort,c.val.clientAddr,c.val.clientPort⟩, s) := by
    unfold ingressTranslate
    rw [hproto, run_bind, nat4CtIngressResolve_run h.entry h.usable]
    dsimp only [ingressRewrite]
    rw [if_pos h.whole.error]
    rfl
  rw [tcNatV4IngressDo, natV4Prologue_run h.whole.scan h.whole.read h.whole.single hskip,
    htranslate]

/-- An error about a connection follows it, unless it is taken for a broadcast; then it is passed as
it is. -/
theorem Quotes.follows_iff (h : Quotes env s skb idx pair c)
    (hl3 : env.currentL3Offset = 14 ∨ env.currentL3Offset = 0) : Follows env s skb idx c ↔
      isBroadcastIp4Pair pair = false ∨ pair.dstAddr = c.val.clientAddr ∧
      pair.dstPort = c.val.clientPort := by
  have heven : env.currentL3Offset % 2 = 0 := by
    rcases hl3 with h14 | h0
    · rw [h14]
    · rw [h0]
  have hrun := h.run
  cases hcast : isBroadcastIp4Pair pair with
  | true =>
    rw [hcast, if_pos rfl] at hrun
    obtain ⟨haddr,hport,-⟩ := h.whole.fields
    have hsender := h.whole.errorAt.sender
    constructor
    · rintro ⟨out,s',hout,hdst,-,hp⟩
      rw [hrun] at hout
      cases hout
      exact .inr ⟨haddr.trans hdst,hport.trans hp⟩
    · rintro (hno | ⟨hdst,hp⟩)
      · cases hno
      · have hclient := haddr.symm.trans hdst
        exact ⟨_,_,hrun,hclient,hsender.symm.trans hclient,hport.symm.trans hp⟩
  | false =>
    refine iff_of_true ?_ (.inl rfl)
    have hdata : (if c.val.isStatic then Skb.markStatic skb else skb).data = skb.data := by
      split <;> rfl
    obtain ⟨b',hb',hdst,hsender,hport⟩ := h.whole.modifyHeadersV4_eq (K := env.kernel) heven
      ⟨pair.dstAddr,pair.dstPort,c.val.clientAddr,c.val.clientPort⟩
    have hproto : natL4Protocol idx = idx.icmpErrorL4Protocol := if_pos h.whole.error
    rw [hcast, if_neg Bool.false_ne_true, rewriteV4, hdata, h.whole.error, hproto, hb'] at hrun
    exact ⟨_,_,hrun,hdst,hsender,hport⟩

end Landscape.Nat4
