import Landscape.Nat4.Errors
import Landscape.Nat4.Exclusivity
import Landscape.Nat6.Returns

/-! ICMPv6 errors from outside. They are looked up as ICMPv6 packets, not as packets of the
connection they are about; with IPv4 they are looked up as the quoted packet. -/
namespace Landscape.Nat6
open Nat4 Packet Run Interleave Function
variable {env : Env} {s : State} {skb : Skb} {idx : ScanIpv6Idx} {pair : Inet6Pair} {w : WanIpInfo}
  {v : TimerValue} {client : Addr6}

/-- An error about a packet of the connection of `v`: the entry is the client's and admits the other
end. -/
structure Quotes (env : Env) (s : State) (skb : Skb) (idx : ScanIpv6Idx) (pair : Inet6Pair)
    (w : WanIpInfo) (v : TimerValue) (client : Addr6) : Prop where
  whole : WholeError6 skb.data env.currentL3Offset idx pair
  binding : env.wanIpBinding skb.ifindex = some w
  entry : s.timer (timerKey w.idMask idx.icmpErrorL4Protocol client pair.dstPort) = some v
  owner : v.clientPrefix = client.hi
  admits : v.admits idx.icmpErrorL4Protocol pair = true
  sender : pair.dstAddr = translated w v.needPrefixReplace client

/-- The error is passed, with the client as its receiver and as the quoted sender. -/
def Follows (env : Env) (s : State) (skb : Skb) (idx : ScanIpv6Idx) (client : Addr6) : Prop :=
  ∃ out s', tcNatV6IngressDo env skb s = ((.ok, out), s') ∧ destOf env out = client ∧
    addr6At out.data (idx.icmpErrorL3Offset + 8) = client

/-- What an error finds under the client's port, taken for the id of an ICMPv6 query. -/
def FindsQuery (env : Env) (s : State) (w : WanIpInfo) (pair : Inet6Pair) (client : Addr6) : Prop :=
  match s.timer (timerKey w.idMask ipprotoIcmpv6 client pair.dstPort) with
  | some e => if e.needPrefixReplace then e.clientPrefix = client.hi else pair.dstAddr = client
  | none =>
    match nat6StaticLookup env ipprotoIcmpv6 pair.dstPort client.lo with
    | none => False
    | some lanPrefix => if lanPrefix = 0 then pair.dstAddr = client else lanPrefix = client.hi

theorem findsQuery_of_none
    (h : s.timer (timerKey w.idMask ipprotoIcmpv6 client pair.dstPort) = none) :
    FindsQuery env s w pair client ↔
    ∃ lanPrefix, nat6StaticLookup env ipprotoIcmpv6 pair.dstPort client.lo = some lanPrefix ∧
      if lanPrefix = 0 then pair.dstAddr = client else lanPrefix = client.hi := by
  unfold FindsQuery
  rw [h]
  cases nat6StaticLookup env ipprotoIcmpv6 pair.dstPort client.lo with
  | none => exact iff_of_false id nofun
  | some lanPrefix =>
    constructor
    · intro hfinds
      exact ⟨lanPrefix,rfl,hfinds⟩
    · rintro ⟨lanPrefix',hsome,hfinds⟩
      cases hsome
      exact hfinds

theorem arrival_iff_findsQuery (h : Quotes env s skb idx pair w v client) :
    arrival env w s ipprotoIcmpv6 pair = some client ↔ FindsQuery env s w pair client := by
  have hkey : timerKey w.idMask ipprotoIcmpv6 pair.dstAddr pair.dstPort =
      timerKey w.idMask ipprotoIcmpv6 client pair.dstPort := by
    rw [h.sender, timerKey_source]
  have hlo : pair.dstAddr.lo = client.lo := by
    rw [h.sender, translated_lo]
  have hwith (hi : BitVec 64) : (⟨hi,client.lo⟩ : Addr6) = client ↔ hi = client.hi := by
    constructor
    · exact congrArg Addr6.hi
    · rintro rfl
      rfl
  unfold arrival FindsQuery
  rw [hkey, hlo]
  cases s.timer (timerKey w.idMask ipprotoIcmpv6 client pair.dstPort) with
  | some e =>
    have hadm : e.admits ipprotoIcmpv6 pair = true := by
      simp [TimerValue.admits]
    dsimp only
    rw [hadm, if_pos rfl, Option.some.injEq]
    split
    · exact hwith _
    · exact Iff.rfl
  | none =>
    unfold nat6CheckIngressStatic
    rw [hlo]
    cases nat6StaticLookup env ipprotoIcmpv6 pair.dstPort client.lo with
    | none => exact iff_of_false (by simp) id
    | some lanPrefix =>
      dsimp only
      by_cases hzero : lanPrefix = 0
      · subst hzero
        have hpass : nat6StaticNeedsPrefixReplace 0 = false := rfl
        rw [hpass, if_neg Bool.false_ne_true, if_pos rfl]
        rw [Option.some.injEq]
      · have hneed := needsPrefixReplace_iff.mpr hzero
        rw [hneed, if_pos rfl, if_neg hzero]
        rw [Option.some.injEq]
        exact hwith _

theorem error_rewritten (h : WholeError6 skb.data env.currentL3Offset idx pair) (hi : BitVec 64) :
    ∃ out, verdict skb (doIngressNptv6 env skb.data idx pair hi) = (.ok, out) ∧
      destOf env out = ⟨hi,pair.dstAddr.lo⟩ ∧
      addr6At out.data (idx.icmpErrorL3Offset + 8) = ⟨hi,pair.dstAddr.lo⟩ := by
  have heven := currentL3Offset_even env
  have hat := h.errorAt
  obtain ⟨b₁,hb₁,hlen,houter,hinner⟩ := h.replaceQuotedPrefix_eq (K := env.kernel) heven
    (skb.data.be64 (idx.icmpErrorL3Offset + 8)) hi
  obtain ⟨b₂,hb₂,houter',hinner'⟩ := hat.replacePrefix_eq (K := env.kernel) heven hlen
    (skb.data.be64 (idx.icmpErrorL3Offset + 8)) hi
  have hread : validateRead skb.data (idx.icmpErrorL3Offset + 8) 8 = true :=
    validateRead_mono hat.quoted (by omega) (by omega)
  have hcheck : nat6L4Checksum idx.l4Offset idx.l4Protocol = some (idx.l4Offset + 2) := by
    rw [hat.l4Protocol]
    rfl
  have hnpt : doIngressNptv6 env skb.data idx pair hi = some b₂ := by
    simp only [doIngressNptv6, h.error, if_true, guard, hread, hcheck, hb₁, Option.bind_eq_bind,
      Option.pure_def, Option.bind_some]
    exact hb₂
  have hlo : (addr6At skb.data (env.currentL3Offset + 24)).lo = pair.dstAddr.lo := by
    rw [h.fields.1]
  refine ⟨{ skb with data := b₂ },?_,?_,?_⟩
  · rw [hnpt]
    rfl
  · unfold destOf
    rw [houter', houter, hlo]
  · dsimp only
    rw [hinner', hinner, ← hat.sender, hlo]

/-- An error about a connection over IPv6 follows it if it finds the client as a query would. -/
theorem Quotes.follows_iff (h : Quotes env s skb idx pair w v client) :
    Follows env s skb idx client ↔
      if isBroadcastIp6Pair pair then pair.dstAddr = client
        else FindsQuery env s w pair client := by
  have hat := h.whole.errorAt
  have hskip : shouldNatSkipProtocol idx.l4Protocol = false := by
    rw [hat.l4Protocol]
    rfl
  have hrun : tcNatV6IngressDo env skb s = if isBroadcastIp6Pair pair then ((.ok, skb), s)
      else ipv6IngressPrefixCheckAndReplace env skb idx pair s :=
    natV6Prologue_of_single h.whole.scan h.whole.read h.whole.single hskip _
  have hpassed {out : Skb} {s₁ : State} {dest : Addr6}
      (hres : tcNatV6IngressDo env skb s = ((.ok, out), s₁)) (hdest : destOf env out = dest)
      (hquoted : addr6At out.data (idx.icmpErrorL3Offset + 8) = dest) :
      Follows env s skb idx client ↔ dest = client := by
    constructor
    · rintro ⟨out',s',hout,hclient,-⟩
      rw [hres] at hout
      cases hout
      exact hdest.symm.trans hclient
    · intro hclient
      exact ⟨_,_,hres,hdest.trans hclient,hquoted.trans hclient⟩
  have hasIs {out : Skb} {s₁ : State} (hres : tcNatV6IngressDo env skb s = ((.ok, out), s₁))
      (hdata : out.data = skb.data) : Follows env s skb idx client ↔ pair.dstAddr = client := by
    refine hpassed hres ?_ ?_
    · rw [destOf, hdata, h.whole.fields.1]
    · rw [hdata, ← hat.sender, h.whole.fields.1]
  split
  · rename_i hcast
    rw [hcast, if_pos rfl] at hrun
    exact hasIs hrun rfl
  · rename_i hcast
    rw [if_neg hcast] at hrun
    have houtcome := outcome_of_ingress h.binding idx pair s
    rw [← hrun] at houtcome
    rw [← arrival_iff_findsQuery h, ← hat.l4Protocol]
    generalize hres : tcNatV6IngressDo env skb s = res at houtcome
    cases houtcome with
    | dropped s' harrival =>
      rw [harrival]
      refine iff_of_false ?_ nofun
      rintro ⟨out,s',hout,-⟩
      rw [hres] at hout
      cases hout
    | asIs out s' harrival hdata =>
      rw [harrival, Option.some.injEq]
      exact hasIs hres hdata
    | rewritten hi s' harrival =>
      obtain ⟨out,hout,hdest,hquoted⟩ := error_rewritten h.whole hi
      rw [hout] at hres
      rw [harrival, Option.some.injEq]
      exact hpassed hres hdest hquoted

/-- Errors about TCP and UDP connections of both families: which of them follow their connection. -/
theorem errors_follow_iff (env : Nat4.Env) (s : Nat4.State) (skb : Skb) (idx : ScanIpv4Idx)
    (pair : Inet4Pair) (c : Ct) (env' : Env) (s' : State) (skb' : Skb) (idx' : ScanIpv6Idx)
    (pair' : Inet6Pair) (w : WanIpInfo) (v : TimerValue) (client : Addr6) :
    (env.currentL3Offset = 14 ∨ env.currentL3Offset = 0 → Nat4.Quotes env s skb idx pair c →
      (Nat4.Follows env s skb idx c ↔ isBroadcastIp4Pair pair = false ∨
        pair.dstAddr = c.val.clientAddr ∧ pair.dstPort = c.val.clientPort)) ∧
    (Quotes env' s' skb' idx' pair' w v client → (Follows env' s' skb' idx' client ↔
        if isBroadcastIp6Pair pair' then pair'.dstAddr = client
          else FindsQuery env' s' w pair' client)) := by
  constructor
  · intro hl3 h
    exact h.follows_iff hl3
  · intro h
    exact h.follows_iff

def refused4 : Skb :=
  ⟨.ofList ([0x45, 0, 0, 56, 0, 0, 0, 0, 64, 1, 0, 0, 9, 9, 9, 9, 1, 1, 1, 1] ++
    [3, 3, 0, 0, 0, 0, 0, 0] ++
    [0x45, 0, 0, 28, 0, 0, 0, 0, 64, 17, 0, 0, 1, 1, 1, 1, 8, 8, 8, 8, 0, 50, 0, 53, 0, 8, 0,
      0]),0,1⟩

def refused6 : Skb :=
  ⟨.ofList ([0x60, 0, 0, 0, 0, 56, 58, 64] ++ [0x20, 1, 0, 0, 0, 0, 0, 3, 0, 0, 0, 0, 0, 0, 0, 7] ++
    [0x20, 1, 0xd, 0xb8, 0, 0, 0, 3, 0, 0, 0, 0, 0, 0, 0, 2] ++ [1, 4, 0, 0, 0, 0, 0, 0] ++
    [0x60, 0, 0, 0, 0, 8, 17, 64] ++ [0x20, 1, 0xd, 0xb8, 0, 0, 0, 3, 0, 0, 0, 0, 0, 0, 0, 2] ++
    [0x20, 1, 0, 0, 0, 0, 0, 3, 0, 0, 0, 0, 0, 0, 0, 1] ++ [0, 9, 0, 53, 0, 8, 0, 0]),0,1⟩

def refused4Idx : ScanIpv4Idx :=
  { ScanIpv4Idx.ofCtx ⟨1,.single,0,0,20⟩ with
    icmpErrorL3Offset := 28, icmpErrorInnerL4Offset := 48, icmpErrorL4Protocol := 17 }

def refused6Idx : ScanIpv6Idx :=
  { ScanIpv4Idx.ofCtx ⟨58,.single,0,0,40⟩ with
    icmpErrorL3Offset := 48, icmpErrorInnerL4Offset := 88, icmpErrorL4Protocol := 17 }

def queriesEnv : Env :=
  { sampleEnv6 with nat6StaticMap := fun k =>
      if k.l4Protocol = 58 ∧ k.ipSuffix = 2 then some 0xfd00000000000003 else none }

theorem asked_state : ∃ s, Runs nat6Step (fun _ _ => True) .empty s ∧
    s.timer ⟨2,9,3,17⟩ = some askedOnce ∧
    s.timer ⟨2,9,3,58⟩ = none :=
  ⟨_,.single ⟨.egress sampleEnv6 (asked 1),trivial,rfl⟩,by decide +kernel,by decide +kernel⟩

def refusedPair : Inet6Pair := replyPair (askedPair 1) ⟨0x20010db800000003,2⟩

theorem refused_quotes {env : Env} (henv : env = sampleEnv6 ∨ env = queriesEnv) {s : State}
    (h : s.timer ⟨2,9,3,17⟩ = some askedOnce) : Quotes env s refused6 refused6Idx refusedPair
      ⟨⟨0x20010db800000000,1⟩,0xff⟩ askedOnce (askedPair 1).srcAddr := by
  rcases henv with rfl | rfl <;> exact ⟨⟨rfl,rfl,rfl,rfl,.inr rfl⟩,rfl,h,rfl,rfl,rfl⟩

theorem errors_follow_sample :
    (∃ s c, Nat4.Quotes sampleEnv s refused4 refused4Idx sampleKey.pairIp c ∧
      Nat4.Follows sampleEnv s refused4 refused4Idx c) ∧
    ∃ s w, Quotes queriesEnv s refused6 refused6Idx refusedPair w askedOnce (askedPair 1).srcAddr ∧
      Follows queriesEnv s refused6 refused6Idx (askedPair 1).srcAddr := by
  have hcheck : (((tcNatV4EgressDo sampleEnv samplePacket).run exec
    (State.seeded sampleConfig)).2.timer
      sampleKey).any (fun c => nat4CtStatusUsable
        (((tcNatV4EgressDo sampleEnv samplePacket).run exec
        (State.seeded sampleConfig)).2.status c)) = true := by
    decide +kernel
  obtain ⟨c,hct,husable⟩ := (Option.any_eq_true _ _).mp hcheck
  generalize (Prog.run exec (tcNatV4EgressDo sampleEnv samplePacket)
    (State.seeded sampleConfig)).2 = s at hct husable
  have hquotes4 : Nat4.Quotes sampleEnv s refused4 refused4Idx sampleKey.pairIp c :=
    ⟨⟨rfl,rfl,by decide,by decide,rfl,rfl,.inr rfl⟩,hct,husable⟩
  obtain ⟨s',-,hentry,hquery⟩ := asked_state
  have hquotes6 := refused_quotes (.inr rfl) hentry
  obtain ⟨h4,h6⟩ :=
    errors_follow_iff sampleEnv s refused4 refused4Idx sampleKey.pairIp c queriesEnv s' refused6
    refused6Idx refusedPair ⟨⟨0x20010db800000000,1⟩,0xff⟩ askedOnce (askedPair 1).srcAddr
  have hfinds : FindsQuery queriesEnv s' ⟨⟨0x20010db800000000,1⟩,0xff⟩ refusedPair
      (askedPair 1).srcAddr :=
    (findsQuery_of_none hquery).mpr ⟨0xfd00000000000003,rfl,rfl⟩
  exact ⟨⟨s,c,hquotes4,(h4 (.inr rfl) hquotes4).mpr (.inl rfl)⟩,s',_,hquotes6,(h6 hquotes6).mpr
    hfinds⟩

def AlwaysFollows : Prop :=
  (∀ (env : Nat4.Env) (cfg : NatConfig) (conf : Conf), env.currentL3Offset = 14 ∨
    env.currentL3Offset = 0 →
    Reach (machine env) (.any _ _ _ _) (Conf.seeded cfg) conf →
    ∀ (skb : Skb) (idx : ScanIpv4Idx) (pair : Inet4Pair) (c : Ct),
      Nat4.Quotes env conf.shared skb idx pair c →
      Nat4.Follows env conf.shared skb idx c) ∧
  ∀ s, Runs nat6Step (fun _ _ => True) .empty s →
    ∀ (env : Env) (skb : Skb) (idx : ScanIpv6Idx) (pair : Inet6Pair) (w : WanIpInfo)
      (v : TimerValue) (client : Addr6),
      Quotes env s skb idx pair w v client → Follows env s skb idx client

/-- The error about the first packet of a client is dropped. -/
theorem alwaysFollows_fails : ¬AlwaysFollows := by
  rintro ⟨-,hall⟩
  obtain ⟨s,hruns,hentry,hquery⟩ := asked_state
  have hquotes := refused_quotes (.inl rfl) hentry
  have hfinds : FindsQuery sampleEnv6 s _ _ _ :=
    hquotes.follows_iff.mp (hall s hruns _ _ _ _ _ _ _ hquotes)
  obtain ⟨lanPrefix,hmapping,-⟩ := (findsQuery_of_none hquery).mp hfinds
  cases hmapping

end Landscape.Nat6
