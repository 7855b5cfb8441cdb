import Landscape.Lib.Run
import Landscape.Nat6.TcNat6
import Landscape.Packet.Whole6

/-! The reply to a packet that the prefix translation passed: it is let in and sent to the client if
the entry of the client admits it and has the client's prefix. -/
namespace Landscape.Nat6
open Nat4 Packet Run Function
variable {env : Env} {s s' : State} {skb : Skb} {idx : ScanIpv6Idx} {pair : Inet6Pair}
  {w : WanIpInfo} {v : TimerValue}

def sourceOf (env : Env) (skb : Skb) : Addr6 := addr6At skb.data (env.currentL3Offset + 8)
def destOf (env : Env) (skb : Skb) : Addr6 := addr6At skb.data (env.currentL3Offset + 24)

/-- The ingress path passes the packet on to `client`. -/
def Reaches (env : Env) (skb : Skb) (s : State) (client : Addr6) : Prop :=
  ∃ out s', tcNatV6IngressDo env skb s = ((.ok, out), s') ∧ destOf env out = client

theorem currentL3Offset_even (env : Env) : env.currentL3Offset % 2 = 0 := by
  unfold Env.currentL3Offset
  split <;> rfl

theorem isIcmpxError_eq_false (h : WholeIpv6 skb.data env.currentL3Offset idx pair) :
    idx.isIcmpxError = false := by
  unfold ScanIpv4Idx.isIcmpxError
  rw [h.plainAt.errorL3]
  rfl

theorem natV6Prologue_of_single (hscan : scanIpv6Full skb.data env.currentL3Offset = .ok idx)
    (hread : skbReadIpv6Info skb.data env.currentL3Offset idx = some pair)
    (hsingle : idx.fragmentType = .single) (hskip : shouldNatSkipProtocol idx.l4Protocol = false)
    (translate : ScanIpv6Idx → Inet6Pair → State → (TcAct × Skb) × State) :
    natV6Prologue env skb translate s =
      if isBroadcastIp6Pair pair then ((.ok, skb), s) else translate idx pair s := by
  unfold natV6Prologue
  rw [hscan]
  dsimp only
  rw [hskip, if_neg Bool.false_ne_true, hread]
  dsimp only
  unfold frag6Track
  rw [if_pos hsingle]

theorem natV6Prologue_eq (h : WholeIpv6 skb.data env.currentL3Offset idx pair)
    (translate : ScanIpv6Idx → Inet6Pair → State → (TcAct × Skb) × State) :
    natV6Prologue env skb translate s =
      if isBroadcastIp6Pair pair then ((.ok, skb), s) else translate idx pair s := by
  have hskip : shouldNatSkipProtocol idx.l4Protocol = false := by
    rcases h.proto with hp | hp
    · rw [hp]
      rfl
    · rw [hp]
      rfl
  exact natV6Prologue_of_single h.scan h.read h.single hskip translate

theorem idByteOf_nptPrefix (hi : BitVec 64) :
    idByteOf w.idMask (nptPrefix w hi) = idByteOf w.idMask hi := by
  unfold idByteOf nptPrefix WanIpInfo.idMask
  ext i hi
  simp only [BitVec.getElem_and, BitVec.getElem_setWidth, BitVec.getLsbD_or, BitVec.getLsbD_and,
    BitVec.getLsbD_not]
  cases w.nptMask.getLsbD i <;> simp

theorem nat6CtAdvance_eq {pktType : PktType} {gress : Gress} :
    ∃ server client status, nat6CtAdvance pktType gress v =
      { v with serverStatus := server, clientStatus := client, status := status } := by
  unfold nat6CtAdvance TimerValue.activated
  cases gress with
  | ingress | egress =>
    dsimp only
    split <;> exact ⟨_,_,_,rfl⟩

def arrival (env : Env) (w : WanIpInfo) (s : State) (proto : UInt8) (pair : Inet6Pair) :
    Option Addr6 :=
  match s.timer (timerKey w.idMask proto pair.dstAddr pair.dstPort) with
  | some v =>
    if v.admits proto pair then
      some (if v.needPrefixReplace then ⟨v.clientPrefix,pair.dstAddr.lo⟩ else pair.dstAddr)
    else none
  | none =>
    match nat6CheckIngressStatic env proto pair with
    | .miss => none
    | .pass => some pair.dstAddr
    | .replace lanPrefix => some ⟨lanPrefix,pair.dstAddr.lo⟩

inductive Outcome (env : Env) (w : WanIpInfo) (skb : Skb) (idx : ScanIpv6Idx) (pair : Inet6Pair)
    (s : State) :
    (TcAct × Skb) × State → Prop
  | dropped (s' : State) (none : arrival env w s idx.l4Protocol pair = none) :
      Outcome env w skb idx pair s ((.shot, skb), s')
  | asIs (out : Skb) (s' : State) (some : arrival env w s idx.l4Protocol pair = some pair.dstAddr)
      (data : out.data = skb.data) : Outcome env w skb idx pair s ((.ok, out), s')
  | rewritten (hi : BitVec 64) (s' : State)
      (some : arrival env w s idx.l4Protocol pair = some ⟨hi,pair.dstAddr.lo⟩) :
      Outcome env w skb idx pair s (verdict skb (doIngressNptv6 env skb.data idx pair hi), s')

theorem outcome_of_ingress (hw : env.wanIpBinding skb.ifindex = some w) (idx : ScanIpv6Idx)
    (pair : Inet6Pair) (s : State) :
    Outcome env w skb idx pair s (ipv6IngressPrefixCheckAndReplace env skb idx pair s) := by
  unfold ipv6IngressPrefixCheckAndReplace
  rw [hw]
  dsimp only
  cases hct : s.timer (timerKey w.idMask idx.l4Protocol pair.dstAddr pair.dstPort) with
  | some v =>
    dsimp only
    split
    · exact .dropped _ (by simp_all [arrival])
    · split
      · refine .asIs _ _ ?_ (by split <;> rfl)
        cases hneed : v.needPrefixReplace <;> simp_all [arrival]
      · exact .rewritten _ _ (by simp_all [arrival])
  | none =>
    dsimp only [ingressOpen]
    split
    · exact .dropped _ (by simp_all [arrival])
    · exact .asIs _ _ (by simp_all [arrival]) rfl
    · exact .rewritten _ _ (by simp_all [arrival])

theorem destOf_rewritten (h : WholeIpv6 skb.data env.currentL3Offset idx pair) (hi : BitVec 64) :
    ∃ out, verdict skb (doIngressNptv6 env skb.data idx pair hi) = (.ok, out) ∧
      destOf env out = ⟨hi,pair.dstAddr.lo⟩ := by
  obtain ⟨b',hb',haddr⟩ :=
    h.replacePrefix_eq (K := env.kernel) (currentL3Offset_even env) (.inr rfl)
    pair.dstAddr.hi hi
  have hnpt : doIngressNptv6 env skb.data idx pair hi = some b' := by
    unfold doIngressNptv6
    rw [isIcmpxError_eq_false h, if_neg Bool.false_ne_true, hb']
  refine ⟨{ skb with data := b' },?_,?_⟩
  · rw [hnpt]
    rfl
  · rw [h.fields.2.1]
    exact haddr

variable {out : Skb} {replace : Bool} {proto : UInt8} {s₁ : State}

theorem reaches_of_passed {dest : Addr6}
    (hrun : tcNatV6IngressDo env skb s = ((.ok, out), s₁)) (hdest : destOf env out = dest)
    {client : Addr6} : Reaches env skb s client ↔ dest = client := by
  constructor
  · rintro ⟨out',s',hout,hclient⟩
    rw [hrun] at hout
    cases hout
    exact hdest.symm.trans hclient
  · intro hclient
    exact ⟨_,_,hrun,hdest.trans hclient⟩

theorem reaches_asIs (h : WholeIpv6 skb.data env.currentL3Offset idx pair) (client : Addr6)
    (hdata : out.data = skb.data) (hrun : tcNatV6IngressDo env skb s = ((.ok, out), s₁)) :
    Reaches env skb s client ↔ pair.dstAddr = client := by
  have hdest : destOf env out = pair.dstAddr := by
    unfold destOf
    rw [hdata, h.fields.2.1]
  exact reaches_of_passed hrun hdest

/-- The ingress path sends a whole packet to where `arrival` says, and nowhere else. -/
theorem reaches_iff (h : WholeIpv6 skb.data env.currentL3Offset idx pair)
    (hcast : isBroadcastIp6Pair pair = false) (hw : env.wanIpBinding skb.ifindex = some w)
    (client : Addr6) :
    Reaches env skb s client ↔ arrival env w s idx.l4Protocol pair = some client := by
  have hrun : tcNatV6IngressDo env skb s = ipv6IngressPrefixCheckAndReplace env skb idx pair s := by
    rw [tcNatV6IngressDo, natV6Prologue_eq h, hcast, if_neg Bool.false_ne_true]
  have houtcome := outcome_of_ingress hw idx pair s
  rw [← hrun] at houtcome
  generalize hres : tcNatV6IngressDo env skb s = res at houtcome
  cases houtcome with
  | dropped s' harrival =>
    rw [harrival]
    refine iff_of_false ?_ nofun
    rintro ⟨out,s',hout,-⟩
    rw [hres] at hout
    cases hout
  | asIs out s' harrival hdata =>
    rw [harrival, Option.some.injEq]
    exact reaches_asIs h client hdata hres
  | rewritten hi s' harrival =>
    obtain ⟨out,hout,hdest⟩ := destOf_rewritten h hi
    rw [hout] at hres
    rw [harrival, Option.some.injEq]
    exact reaches_of_passed hres hdest

def translated (w : WanIpInfo) (replace : Bool) (client : Addr6) : Addr6 :=
  if replace then ⟨nptPrefix w client.hi,client.lo⟩ else client

theorem sourceOf_rewritten (h : WholeIpv6 skb.data env.currentL3Offset idx pair)
    (hrun : Skb.rewritten skb replace (doNptv6 env w skb.data idx pair) = (.ok, out)) :
    sourceOf env out = translated w replace pair.srcAddr := by
  cases replace with
  | false =>
    cases hrun
    exact h.fields.1.symm
  | true =>
    obtain ⟨b',hb',haddr⟩ :=
      h.replacePrefix_eq (K := env.kernel) (currentL3Offset_even env) (.inl rfl)
      pair.srcAddr.hi (nptPrefix w pair.srcAddr.hi)
    have hnpt : doNptv6 env w skb.data idx pair = some b' := by
      unfold doNptv6
      rw [isIcmpxError_eq_false h, if_neg Bool.false_ne_true, hb']
    rw [hnpt] at hrun
    cases hrun
    rw [← h.fields.1] at haddr
    exact haddr

inductive Left (env : Env) (w : WanIpInfo) (skb : Skb) (idx : ScanIpv6Idx) (pair : Inet6Pair)
    (s s' : State) :
    Bool → Prop
  | found (v : TimerValue) (server client : CtState) (status : TimerStatus)
      (old : s.timer (timerKey w.idMask idx.l4Protocol pair.srcAddr pair.srcPort) = some v)
      (new : s'.timer (timerKey w.idMask idx.l4Protocol pair.srcAddr pair.srcPort) =
        some { refreshCt6 skb.mark w.idMask pair v with
          serverStatus := server, clientStatus := client, status := status }) :
      Left env w skb idx pair s s' (refreshCt6 skb.mark w.idMask pair v).needPrefixReplace
  | created (server client : CtState) (status : TimerStatus)
      (old : s.timer (timerKey w.idMask idx.l4Protocol pair.srcAddr pair.srcPort) = none)
      (begins : pktCanBeginCt idx.pktType = true)
      (new : s'.timer (timerKey w.idMask idx.l4Protocol pair.srcAddr pair.srcPort) =
        some { ct6EgressValue skb.mark pair (nat6CheckEgressStatic env idx.l4Protocol pair) with
          serverStatus := server, clientStatus := client, status := status }) :
      Left env w skb idx pair s s' ((nat6CheckEgressStatic env idx.l4Protocol pair).elim true
        nat6StaticNeedsPrefixReplace)
  | static (lanPrefix : BitVec 64)
      (old : s.timer (timerKey w.idMask idx.l4Protocol pair.srcAddr pair.srcPort) = none)
      (late : pktCanBeginCt idx.pktType = false)
      (mapping : nat6CheckEgressStatic env idx.l4Protocol pair = some lanPrefix) (same : s' = s) :
      Left env w skb idx pair s s' (nat6StaticNeedsPrefixReplace lanPrefix)

theorem left_of_passed (h : WholeIpv6 skb.data env.currentL3Offset idx pair)
    (hcast : isBroadcastIp6Pair pair = false)
    (hpass : tcNatV6EgressDo env skb s = ((.ok, out), s')) :
    ∃ w replace, env.wanIpBinding skb.ifindex = some w ∧
    sourceOf env out = translated w replace pair.srcAddr ∧
      Left env w skb idx pair s s' replace := by
  rw [tcNatV6EgressDo, natV6Prologue_eq h, hcast, if_neg Bool.false_ne_true,
    ipv6EgressPrefixCheckAndReplace] at hpass
  cases hw : env.wanIpBinding skb.ifindex with
  | none =>
    rw [hw] at hpass
    cases hpass
  | some w =>
    rw [hw] at hpass
    dsimp only at hpass
    refine ⟨w,?_⟩
    have hcreate : allowCreate idx = pktCanBeginCt idx.pktType := by
      unfold allowCreate
      rw [isIcmpxError_eq_false h, Bool.not_false, Bool.true_and]
    cases hct : s.timer (timerKey w.idMask idx.l4Protocol pair.srcAddr pair.srcPort) with
    | some v =>
      rw [hct] at hpass
      dsimp only at hpass
      obtain ⟨server,client,status,hadv⟩ := nat6CtAdvance_eq
      rw [hadv] at hpass
      obtain ⟨hout,rfl⟩ := Prod.mk.inj hpass
      exact ⟨_,rfl,sourceOf_rewritten h hout,.found v server client status hct (update_self _ _ _)⟩
    | none =>
      rw [hct, hcreate] at hpass
      dsimp only at hpass
      cases hbegin : pktCanBeginCt idx.pktType with
      | false =>
        rw [hbegin, Bool.not_false, if_pos rfl] at hpass
        cases hst : nat6CheckEgressStatic env idx.l4Protocol pair with
        | none =>
          rw [hst] at hpass
          cases hpass
        | some lanPrefix =>
          rw [hst] at hpass
          obtain ⟨hout,rfl⟩ := Prod.mk.inj hpass
          exact ⟨_,rfl,sourceOf_rewritten h hout,.static lanPrefix hct hbegin hst rfl⟩
      | true =>
        rw [hbegin, Bool.not_true, if_neg Bool.false_ne_true] at hpass
        split at hpass
        · cases hpass
        · obtain ⟨server,client,status,hadv⟩ := nat6CtAdvance_eq
          rw [hadv] at hpass
          obtain ⟨hout,rfl⟩ := Prod.mk.inj hpass
          exact ⟨_,rfl,sourceOf_rewritten h hout,.created server client status hct hbegin
            (update_self _ _ _)⟩

def replyPair (pair : Inet6Pair) (source : Addr6) : Inet6Pair :=
  ⟨pair.dstAddr,source,pair.dstPort,pair.srcPort⟩

/-- The reply to a translated source is sent to the client. -/
def SentBack (env : Env) (w : WanIpInfo) (s : State) (proto : UInt8) (pair : Inet6Pair)
    (replace : Bool) : Prop :=
  arrival env w s proto (replyPair pair (translated w replace pair.srcAddr)) = some pair.srcAddr

def Unicast (w : WanIpInfo) (client : Addr6) : Prop :=
  (translated w true client).isBroadcast = false

def Admits (v : TimerValue) (pair : Inet6Pair) : Prop :=
  v.isStatic = true ∨ v.isAllowReuse = true ∨
    (pair.dstAddr = v.triggerAddr ∧ pair.dstPort = v.triggerPort)

/-- What the entry or the mapping of the client has to be for a translated packet. An entry admits
the other end, and has the client's prefix if it seems to. Without an entry the packet makes one or
goes by a static mapping to the client. -/
def KnowsClient (env : Env) (s : State) (w : WanIpInfo) (idx : ScanIpv6Idx) (pair : Inet6Pair) :
    Prop :=
  match s.timer (timerKey w.idMask idx.l4Protocol pair.srcAddr pair.srcPort) with
  | some v => Admits v pair ∧ (v.needPrefixReplace = true → Unicast w pair.srcAddr ∧
      (nat6IsSamePrefix v.clientPrefix pair.srcAddr.hi w.idMask = true →
        v.clientPrefix = pair.srcAddr.hi))
  | none =>
    match nat6CheckEgressStatic env idx.l4Protocol pair with
    | none => Unicast w pair.srcAddr
    | some lanPrefix => lanPrefix = 0 ∨ Unicast w pair.srcAddr ∧
        (pktCanBeginCt idx.pktType = true ∨ lanPrefix = pair.srcAddr.hi)

theorem KnowsClient.admits (h : KnowsClient env s w idx pair)
    (hct : s.timer (timerKey w.idMask idx.l4Protocol pair.srcAddr pair.srcPort) = some v) :
    Admits v pair := by
  unfold KnowsClient at h
  rw [hct] at h
  exact h.1

/-- The state before the packet is such that its reply finds back. -/
def FindsBack (env : Env) (s : State) (skb : Skb) (idx : ScanIpv6Idx) (pair : Inet6Pair) : Prop :=
  isBroadcastIp6Pair pair = true ∨
    ∃ w, env.wanIpBinding skb.ifindex = some w ∧ KnowsClient env s w idx pair

theorem timerKey_source (client : Addr6) (port : UInt16) :
    timerKey w.idMask proto (translated w replace client) port =
    timerKey w.idMask proto client port := by
  cases replace with
  | false => rfl
  | true =>
    unfold timerKey translated
    rw [if_pos rfl, idByteOf_nptPrefix]

theorem translated_lo (client : Addr6) : (translated w replace client).lo = client.lo := by
  cases replace with
  | false => rfl
  | true => rfl

/-- The reply of a translated packet is not taken for multicast if the packet is not. -/
theorem isBroadcast_replyPair (hcast : isBroadcastIp6Pair pair = false) :
    isBroadcastIp6Pair (replyPair pair (translated w replace pair.srcAddr)) = false ↔
      (replace = true → Unicast w pair.srcAddr) := by
  simp only [isBroadcastIp6Pair, Bool.or_eq_false_iff] at hcast
  unfold isBroadcastIp6Pair replyPair Unicast
  rw [hcast.2, Bool.false_or]
  cases replace with
  | false => exact iff_of_true hcast.1 nofun
  | true => exact ⟨fun h _ => h,fun h => h rfl⟩

theorem reaches_reply {reply : Skb} {idx' : ScanIpv6Idx} (hcast : isBroadcastIp6Pair pair = false)
    (h : WholeIpv6 reply.data env.currentL3Offset idx'
      (replyPair pair (translated w replace pair.srcAddr)))
    (hw : env.wanIpBinding reply.ifindex = some w) : Reaches env reply s pair.srcAddr ↔
      (replace = true → Unicast w pair.srcAddr) ∧
      SentBack env w s idx'.l4Protocol pair replace := by
  rw [← isBroadcast_replyPair hcast]
  cases hb : isBroadcastIp6Pair (replyPair pair (translated w replace pair.srcAddr)) with
  | false =>
    rw [reaches_iff h hb hw]
    exact ⟨fun harr => ⟨rfl,harr⟩,And.right⟩
  | true =>
    -- it is passed as it is, to an address that is not the client's
    refine iff_of_false ?_ (fun hno => Bool.noConfusion hno.1)
    have hrun : tcNatV6IngressDo env reply s = ((.ok, reply), s) := by
      rw [tcNatV6IngressDo, natV6Prologue_eq h, hb, if_pos rfl]
    rw [reaches_asIs h _ rfl hrun]
    intro hsame
    have hdst : translated w replace pair.srcAddr = pair.srcAddr := hsame
    simp only [isBroadcastIp6Pair, Bool.or_eq_false_iff] at hcast
    simp only [isBroadcastIp6Pair, replyPair, hdst, hcast.1, hcast.2, Bool.or_self,
      Bool.false_eq_true] at hb

theorem admits_iff (hproto : proto = ipprotoTcp ∨ proto = ipprotoUdp) {source : Addr6} :
    v.admits proto (replyPair pair source) = true ↔ Admits v pair := by
  have hne : (proto == ipprotoIcmpv6) = false := by
    rcases hproto with rfl | rfl <;> rfl
  simp only [TimerValue.admits, hne, replyPair, Bool.or_false, Bool.or_eq_true, Bool.and_eq_true,
    beq_iff_eq, or_assoc]
  rfl

theorem timer_reply :
    s.timer (timerKey w.idMask proto (replyPair pair (translated w replace pair.srcAddr)).dstAddr
      (replyPair pair (translated w replace pair.srcAddr)).dstPort) =
      s.timer (timerKey w.idMask proto pair.srcAddr pair.srcPort) :=
  congrArg s.timer (timerKey_source pair.srcAddr pair.srcPort)

theorem arrival_of_entry (hproto : proto = ipprotoTcp ∨ proto = ipprotoUdp)
    (h : s.timer (timerKey w.idMask proto pair.srcAddr pair.srcPort) = some v) :
    SentBack env w s proto pair v.needPrefixReplace ↔
      Admits v pair ∧ (v.needPrefixReplace = true → v.clientPrefix = pair.srcAddr.hi) := by
  unfold SentBack arrival
  rw [timer_reply, h, ← admits_iff hproto]
  dsimp only
  split
  · rename_i hadm
    rw [Option.some.injEq, hadm, eq_self_iff_true, true_and]
    cases hneed : v.needPrefixReplace with
    | false => exact iff_of_true rfl nofun
    | true =>
      constructor
      · intro haddr _
        exact congrArg Addr6.hi haddr
      · intro hhi
        rw [hhi rfl]
        rfl
  · rename_i hadm
    exact iff_of_false nofun fun hno => hadm hno.1

theorem refreshCt6_fields (mark : UInt32) (mask : BitVec 8) (v : TimerValue) :
    (refreshCt6 mark mask pair v).needPrefixReplace = v.needPrefixReplace ∧
      (Admits (refreshCt6 mark mask pair v) pair ↔ Admits v pair) ∧
      ((refreshCt6 mark mask pair v).clientPrefix = pair.srcAddr.hi ↔
        (nat6IsSamePrefix v.clientPrefix pair.srcAddr.hi mask = true →
          v.clientPrefix = pair.srcAddr.hi)) := by
  unfold refreshCt6
  split
  · rename_i hsame
    exact ⟨rfl,Iff.rfl,fun h _ => h,fun h => h hsame⟩
  · rename_i hsame
    unfold updateIpv6CacheValue
    dsimp only
    split
    · -- only where the entry was made for this other end
      rename_i htrigger
      simp only [Bool.and_eq_true, beq_iff_eq] at htrigger
      have hadm {u : TimerValue} (haddr : u.triggerAddr = v.triggerAddr)
        (hport : u.triggerPort = v.triggerPort) :
          Admits u pair := .inr (.inr ⟨haddr ▸ htrigger.1.2,hport ▸ htrigger.2⟩)
      exact ⟨rfl,iff_of_true (hadm rfl rfl) (hadm rfl rfl),iff_of_true rfl fun h => absurd h hsame⟩
    · exact ⟨rfl,Iff.rfl,iff_of_true rfl fun h => absurd h hsame⟩

theorem needsPrefixReplace_iff {lanPrefix : BitVec 64} :
    nat6StaticNeedsPrefixReplace lanPrefix = true ↔ lanPrefix ≠ 0 := bne_iff_ne

theorem arrival_of_static {lanPrefix : BitVec 64}
    (h : s.timer (timerKey w.idMask proto pair.srcAddr pair.srcPort) = none)
    (hst : nat6CheckEgressStatic env proto pair = some lanPrefix) :
    SentBack env w s proto pair (nat6StaticNeedsPrefixReplace lanPrefix) ↔
      lanPrefix = 0 ∨ lanPrefix = pair.srcAddr.hi := by
  have hlook : nat6CheckIngressStatic env proto (replyPair pair
      (translated w (nat6StaticNeedsPrefixReplace lanPrefix) pair.srcAddr)) =
      if nat6StaticNeedsPrefixReplace lanPrefix then .replace lanPrefix else .pass := by
    unfold nat6CheckIngressStatic
    unfold nat6CheckEgressStatic at hst
    rw [← translated_lo] at hst
    dsimp only [replyPair]
    rw [hst]
  unfold SentBack arrival
  rw [timer_reply, h, hlook]
  by_cases hzero : lanPrefix = 0
  · subst hzero
    exact iff_of_true rfl (.inl rfl)
  · have hneed : nat6StaticNeedsPrefixReplace lanPrefix = true := needsPrefixReplace_iff.mpr hzero
    rw [hneed, if_pos rfl]
    rw [Option.some.injEq, or_iff_right hzero]
    constructor
    · exact congrArg Addr6.hi
    · rintro rfl
      rfl

/-- What is left by the packet is right for its reply if what was there before was. -/
theorem arrival_of_left {room : Bool}
    (hproto : idx.l4Protocol = ipprotoTcp ∨ idx.l4Protocol = ipprotoUdp)
    (h : Left env w skb idx pair s s' replace) :
    (replace = true → Unicast w pair.srcAddr) ∧
    SentBack { env with room } w s' idx.l4Protocol pair replace ↔
      KnowsClient env s w idx pair := by
  unfold KnowsClient
  cases h with
  | found v server client status old new =>
    have hfields := @refreshCt6_fields pair skb.mark w.idMask v
    generalize refreshCt6 skb.mark w.idMask pair v = u at new hfields ⊢
    obtain ⟨hneed,hadm,hhi⟩ := hfields
    have harr : SentBack { env with room } w s' idx.l4Protocol pair u.needPrefixReplace ↔
        Admits u pair ∧ (u.needPrefixReplace = true → u.clientPrefix = pair.srcAddr.hi) :=
      arrival_of_entry
        (v := { u with serverStatus := server, clientStatus := client, status := status })
        hproto new
    rw [old, harr, hneed, hadm, hhi]
    tauto
  | created server client status old begins new =>
    rw [old, begins]
    cases hst : nat6CheckEgressStatic env idx.l4Protocol pair with
    | none =>
      rw [hst] at new
      have harr : SentBack { env with room } w s' idx.l4Protocol pair true :=
        (arrival_of_entry hproto new).mpr ⟨.inr (.inr ⟨rfl,rfl⟩),fun _ => rfl⟩
      exact ⟨fun hno => hno.1 rfl,fun hcast => ⟨fun _ => hcast,harr⟩⟩
    | some lanPrefix =>
      rw [hst] at new
      have harr : SentBack { env with room } w s' idx.l4Protocol pair
          (nat6StaticNeedsPrefixReplace lanPrefix) :=
        (arrival_of_entry hproto new).mpr ⟨.inl rfl,fun _ => rfl⟩
      dsimp only [Option.elim]
      rw [iff_true_intro harr, and_true, needsPrefixReplace_iff, eq_self_iff_true, true_or,
        and_true, imp_iff_not_or, not_not]
  | static lanPrefix old late mapping same =>
    subst same
    have harr : SentBack { env with room } w s' idx.l4Protocol pair
      (nat6StaticNeedsPrefixReplace lanPrefix) ↔
        lanPrefix = 0 ∨ lanPrefix = pair.srcAddr.hi := arrival_of_static old mapping
    rw [old, mapping, late, harr, needsPrefixReplace_iff]
    tauto

section
variable {out reply : Skb} {idx' : ScanIpv6Idx} {room : Bool}
  (h : WholeIpv6 skb.data env.currentL3Offset idx pair)
  (hpass : tcNatV6EgressDo env skb s = ((.ok, out), s'))
  (hreply : WholeIpv6 reply.data env.currentL3Offset idx' (replyPair pair (sourceOf env out)))
  (hproto : idx'.l4Protocol = idx.l4Protocol) (hif : reply.ifindex = skb.ifindex)
include h hpass hreply

/- A packet that is not translated, and one that is. -/
theorem reaches_of_broadcast (hcast : isBroadcastIp6Pair pair = true) :
    Reaches { env with room := room } reply s' pair.srcAddr := by
  rw [tcNatV6EgressDo, natV6Prologue_eq h, hcast, if_pos rfl] at hpass
  cases hpass
  have hsource : sourceOf env skb = pair.srcAddr := h.fields.1.symm
  rw [hsource] at hreply
  have hreply' : WholeIpv6 reply.data ({ env with room := room } : Env).currentL3Offset idx'
      (replyPair pair pair.srcAddr) := hreply
  have hback : isBroadcastIp6Pair (replyPair pair pair.srcAddr) = true := by
    rw [← hcast]
    exact Bool.or_comm _ _
  have hrun : tcNatV6IngressDo { env with room := room } reply s = ((.ok, reply), s) := by
    rw [tcNatV6IngressDo, natV6Prologue_eq hreply', hback, if_pos rfl]
  exact (reaches_asIs hreply' _ rfl hrun).mpr rfl

include hproto hif

theorem reaches_iff_knowsClient (hcast : isBroadcastIp6Pair pair = false) :
    Reaches { env with room := room } reply s' pair.srcAddr ↔
      ∃ w, env.wanIpBinding skb.ifindex = some w ∧ KnowsClient env s w idx pair := by
  obtain ⟨w,replace,hw,hsource,hleft⟩ := left_of_passed h hcast hpass
  rw [hsource] at hreply
  have hreply' : WholeIpv6 reply.data ({ env with room := room } : Env).currentL3Offset idx'
      (replyPair pair (translated w replace pair.srcAddr)) := hreply
  have hw' : ({ env with room := room } : Env).wanIpBinding reply.ifindex = some w := hif ▸ hw
  rw [reaches_reply hcast hreply' hw', hproto, arrival_of_left h.proto hleft]
  constructor
  · intro hknows
    exact ⟨w,hw,hknows⟩
  · rintro ⟨w',hw',hknows⟩
    rw [hw] at hw'
    cases hw'
    exact hknows

/-- The reply to a packet that was passed reaches the client exactly if it finds back. The kernel
may have room for new entries at one time and not at another. -/
theorem reaches_iff_findsBack :
    Reaches { env with room := room } reply s' pair.srcAddr ↔ FindsBack env s skb idx pair := by
  unfold FindsBack
  cases hcast : isBroadcastIp6Pair pair with
  | true => exact iff_of_true (reaches_of_broadcast h hpass hreply hcast) (.inl rfl)
  | false =>
    rw [reaches_iff_knowsClient h hpass hreply hproto hif hcast]
    exact (or_iff_right Bool.false_ne_true).symm

end

def sampleEnv6 : Env :=
  ⟨⟨fun _ _ _ _ => 0,fun _ _ _ _ _ _ => 0⟩,false,fun _ =>
    some ⟨⟨0x20010db800000000,1⟩,0xff⟩,fun _ => none,true⟩

def udp6 (srcNet : List UInt8) (src : UInt8) (dstNet : List UInt8) (dst srcPort dstPort : UInt8) :
    Skb :=
  ⟨.ofList ([0x60, 0, 0, 0, 0, 8, 17, 64] ++ (srcNet ++ [0, 0, 0, 3, 0, 0, 0, 0, 0, 0, 0, src]) ++
    (dstNet ++ [0, 0, 0, 3, 0, 0, 0, 0, 0, 0, 0, dst]) ++ [0, srcPort, 0, dstPort, 0, 8, 0, 0]),0,1⟩

def asked (host : UInt8) : Skb := udp6 [0xfd, 0, 0, 0] 2 [0x20, 1, 0, 0] host 9 53
def answered (host : UInt8) : Skb := udp6 [0x20, 1, 0, 0] host [0x20, 1, 0xd, 0xb8] 2 53 9

def askedPair (host : BitVec 64) : Inet6Pair :=
  ⟨⟨0xfd00000000000003,2⟩,⟨0x2001000000000003,host⟩,9,53⟩

def udp6Idx : ScanIpv6Idx := .ofCtx ⟨17,.single,0,0,40⟩

theorem reaches_sample : ∃ out s', tcNatV6EgressDo sampleEnv6 (asked 1) .empty = ((.ok, out), s') ∧
    WholeIpv6 (asked 1).data sampleEnv6.currentL3Offset udp6Idx (askedPair 1) ∧
    WholeIpv6 (answered 1).data sampleEnv6.currentL3Offset udp6Idx
    (replyPair (askedPair 1) (sourceOf sampleEnv6 out)) ∧
    Reaches { sampleEnv6 with room := false } (answered 1) s' (askedPair 1).srcAddr := by
  have hwhole : WholeIpv6 (asked 1).data sampleEnv6.currentL3Offset udp6Idx (askedPair 1) :=
    ⟨rfl,rfl,rfl,.inr rfl⟩
  have hsource : sourceOf sampleEnv6 (tcNatV6EgressDo sampleEnv6 (asked 1) .empty).1.2 =
      ⟨0x20010db800000003,2⟩ := by
    decide +kernel
  have hback : WholeIpv6 (answered 1).data sampleEnv6.currentL3Offset udp6Idx
    (replyPair (askedPair 1)
      (sourceOf sampleEnv6 (tcNatV6EgressDo sampleEnv6 (asked 1) .empty).1.2)) := by
    exact ⟨rfl,rfl,rfl,.inr rfl⟩
  have hpass : tcNatV6EgressDo sampleEnv6 (asked 1) .empty =
    ((.ok, (tcNatV6EgressDo sampleEnv6 (asked 1) .empty).1.2),
      (tcNatV6EgressDo sampleEnv6 (asked 1) .empty).2) := rfl
  have hfinds : FindsBack sampleEnv6 .empty (asked 1) udp6Idx (askedPair 1) := .inr ⟨_,rfl,rfl⟩
  exact ⟨_,_,hpass,hwhole,hback,(reaches_iff_findsBack hwhole hpass hback rfl rfl).mpr hfinds⟩

def AlwaysReturns : Prop :=
  ∀ s, Runs nat6Step (fun _ _ => True) .empty s →
    ∀ (env : Env) (skb out reply : Skb) (idx idx' : ScanIpv6Idx) (pair : Inet6Pair) (s' : State),
      WholeIpv6 skb.data env.currentL3Offset idx pair →
      tcNatV6EgressDo env skb s = ((.ok, out), s') →
      WholeIpv6 reply.data env.currentL3Offset idx' (replyPair pair (sourceOf env out)) →
      idx'.l4Protocol = idx.l4Protocol → reply.ifindex = skb.ifindex →
        Reaches env reply s' pair.srcAddr

def askedOnce : TimerValue := nat6CtAdvance .connless .egress (ct6EgressValue 0 (askedPair 1) none)

def askedState : State := ⟨update (fun _ => none) ⟨2,9,3,17⟩ (some askedOnce),fun _ => none⟩

/-- From one port a client asks two hosts. The second one is asked, but its answer is dropped. -/
theorem alwaysReturns_fails : ¬AlwaysReturns := by
  intro hall
  have hruns : Runs nat6Step (fun _ _ => True) .empty askedState :=
    .single ⟨.egress sampleEnv6 (asked 1),trivial,rfl⟩
  have hok : (tcNatV6EgressDo sampleEnv6 (asked 2) askedState).1.1 = .ok := by decide +kernel
  have hsource : sourceOf sampleEnv6 (tcNatV6EgressDo sampleEnv6 (asked 2) askedState).1.2 =
      ⟨0x20010db800000003,2⟩ := by
    decide +kernel
  generalize hpass : tcNatV6EgressDo sampleEnv6 (asked 2) askedState = res at hok hsource
  obtain ⟨⟨act,out⟩,s'⟩ := res
  cases hok
  have hwhole : WholeIpv6 (asked 2).data sampleEnv6.currentL3Offset udp6Idx (askedPair 2) :=
    ⟨rfl,rfl,rfl,.inr rfl⟩
  have hback : WholeIpv6 (answered 2).data sampleEnv6.currentL3Offset udp6Idx
      (replyPair (askedPair 2) (sourceOf sampleEnv6 out)) := by
    rw [hsource]
    exact ⟨rfl,rfl,rfl,.inr rfl⟩
  have hreaches : Reaches { sampleEnv6 with room := true } (answered 2) s' (askedPair 2).srcAddr :=
    hall askedState hruns _ _ _ _ _ _ _ _ hwhole hpass hback rfl rfl
  obtain ⟨w,hw,hknows⟩ := (reaches_iff_knowsClient hwhole hpass hback rfl rfl rfl).mp hreaches
  cases hw
  have hadm : Admits askedOnce (askedPair 2) := hknows.admits rfl
  have hother : ¬Admits askedOnce (askedPair 2) := by
    unfold Admits
    decide
  exact hother hadm

end Landscape.Nat6
