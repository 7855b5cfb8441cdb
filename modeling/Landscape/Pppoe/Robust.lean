import Landscape.Pppoe.Authenticated

/-! What the peer sends is read within its bounds, but for the challenge of CHAP. -/
namespace Landscape.Pppoe
open Slice Phase Run

section
variable {amb : Ambient} {cfg : Config}

theorem addressed_of_turn {s : Loop} {e : Event} {r : LcpReaction Loop} (h : s.state.addressed)
    (ht : LoopTurn amb cfg s e r) (hok : ∀ err, r.next ≠ .fail err) : r.state.state.addressed ∧
      ∀ res, r.next = .finish res → res.serverMac.length = 6 := by
  cases ht with
  | ended _ _ err => exact absurd rfl (hok err)
  | searching _ _ hmac => exact ⟨hmac,nofun⟩
  | idle s' hsame => exact ⟨by rw [hsame]; exact h,nofun⟩
  | again n s' hn _ hnext =>
    rw [hn] at h
    exact ⟨by rw [hnext]; exact h,nofun⟩
  | packet n raw lcp r hn _ _ hturn =>
    rw [hn] at h
    have hmac : r.state.serverMac.length = 6 := by cases hturn <;> exact h
    refine ⟨?_,fun res hres => ?_⟩
    · dsimp only
      rw [conclude_state]
      exact hmac
    · obtain ⟨-,-,rfl⟩ := conclude_finish hturn hres
      exact hmac

theorem lcp_not_faulted {p : LcpRun}
    (hrun : Runs (step (onEvent amb cfg)) (fun _ _ => True) (lcpStart amb cfg) p) :
    p.outcome ≠ .faulted := by
  refine not_faulted_of_runs (fun s _ => s.state.addressed) hrun ?_ (fun _ => trivial) ?_ nofun
  · intro p e r hmac _ hr hgo
    exact (addressed_of_turn hmac (loopTurn_of_eq hmac hr) (by rw [hgo]; nofun)).1
  · intro p e hmac _
    obtain ⟨r,hr,-⟩ := loopTurn amb cfg hmac e
    exact ⟨r,hr⟩

theorem lcp_serverMac {p : LcpRun} {res : LcpPhaseResult}
    (hrun : Runs (step (onEvent amb cfg)) (fun _ _ => True) (lcpStart amb cfg) p)
    (hres : p.outcome = .returned res) :
    res.serverMac.length = 6 := by
  refine returned_of_runs (fun s _ => s.state.addressed) hrun ?_ (fun _ => trivial)
    (fun res _ _ => res.serverMac.length = 6) ?_ nofun hres
  · intro p e r hmac _ hr hgo
    exact (addressed_of_turn hmac (loopTurn_of_eq hmac hr) (by rw [hgo]; nofun)).1
  · intro p e r res hmac _ hr hfinish
    exact (addressed_of_turn hmac (loopTurn_of_eq hmac hr) (by rw [hfinish]; nofun)).2 res hfinish

end

section
variable {amb : Ambient} {cfg : Config} {lcp : LcpPhaseResult} {ppp : PointToPoint}
  {s : Negotiation}

theorem safe_parsePppPacket (raw : Bytes) (lcp : LcpPhaseResult) :
    Safe (parsePppPacket raw lcp) := by
  refine safe_guard fun hlen => (safe_be16At (by omega)).bind fun _ _ => ?_
  refine safe_guard fun _ => (safe_slice (by omega)).bind fun _ _ => ?_
  refine PPPoEFrame.safe_new.bind fun frame _ => ?_
  cases frame with
  | none => exact safe_ok _
  | some frame => exact safe_guard fun _ => safe_guard fun _ => safe_pointToPoint

theorem safe_lastAddress (ops : List PPPOption) : Safe (lastAddress ops) := by
  refine safe_foldlM (fun acc op => safe_ite (fun h => ?_) fun _ => safe_ok _) ops _
  have hlen : op.data.length ≥ 4 := (of_decide_eq_true h).2
  exact (safe_be32At hlen).thenOk

/-- The value of the challenge lies within the packet. -/
def ChallengeFits (ppp : PointToPoint) : Prop :=
  ∃ size rest, ppp.payload = size :: rest ∧ size.toNat ≤ rest.length

theorem safe_challengeOf_iff : Safe (challengeOf ppp) ↔ ChallengeFits ppp := by
  unfold challengeOf ChallengeFits
  cases hpayload : ppp.payload with
  | nil => exact ⟨fun h => absurd h.of_bind (not_safe_index (Nat.le_refl 0)),nofun⟩
  | cons size rest =>
    have hlen : (size :: rest).length = rest.length + 1 := rfl
    refine ⟨fun h => ⟨size,rest,rfl,?_⟩,?_⟩
    · by_cases hle : size.toNat ≤ rest.length
      · exact hle
      · exact absurd h (not_safe_slice (by omega))
    · rintro ⟨_,_,heq,hle⟩
      cases heq
      exact safe_slice (by omega)

/-- Each challenge that reaches the CHAP authenticator fits. -/
def WellFramed (lcp : LcpPhaseResult) (p : NegotiationRun) : NegotiationEvent → Prop
  | .received raw => ∀ ppp challenge id, parsePppPacket raw lcp = .ok (some ppp) →
    (ppp.isPapAuth || ppp.isChap) = true → p.state.auth = some (.chap challenge id) →
      ppp.isChallenge = true →
    ChallengeFits ppp
  | _ => True

section
variable (hmac : lcp.serverMac.length = 6)
include hmac

theorem safe_sendSession (payload : Bytes) : Safe (sendSession cfg lcp payload) :=
  safe_sendPppoeSessionFrame hmac _ _

theorem safe_handleIpcpPacket (ipcp : IpcpState) : Safe (handleIpcpPacket cfg lcp ppp ipcp) := by
  have hops := PPPOption.safe_fromBytes ppp.payload
  refine safe_ite (fun _ => ?_) fun _ => safe_ite (fun _ => ?_) fun _ =>
    safe_ite (fun _ => ?_) fun _ => safe_guard fun _ => safe_ok _
  · exact hops.bind fun ops _ => (safe_lastAddress ops).thenOk
  · exact hops.bind fun ops _ => (safe_lastAddress ops).bind fun _ _ =>
      (safe_sendSession hmac _).thenOk
  · refine hops.bind fun ops _ => (safe_lastAddress ops).bind fun _ _ => ?_
    exact safe_ite (fun _ => (safe_sendSession hmac _).thenOk) fun _ =>
      safe_ite (fun _ => (safe_sendSession hmac _).thenOk) fun _ => safe_ok _

theorem safe_handleIpv6cpPacket (ipv6cp : Ipv6cpState) :
    Safe (handleIpv6cpPacket cfg lcp ppp ipv6cp) := by
  have hops := PPPOption.safe_fromBytes ppp.payload
  refine safe_ite (fun _ => ?_) fun _ => safe_ite (fun _ => ?_) fun _ =>
    safe_ite (fun _ => ?_) fun _ => safe_guard fun _ => safe_ok _
  · exact hops.thenOk
  · exact hops.bind fun _ _ => (safe_sendSession hmac _).thenOk
  · refine hops.bind fun _ _ => ?_
    exact safe_ite (fun _ => (safe_sendSession hmac _).thenOk) fun _ =>
      safe_ite (fun _ => (safe_sendSession hmac _).thenOk) fun _ => safe_ok _

theorem safe_onIpcp : Safe (onIpcp cfg lcp ppp s) := by
  refine (safe_handleIpcpPacket hmac _).bind fun r _ => ?_
  match r with
  | (_, _, some _) | (_, _, none) => exact safe_ok _

theorem safe_onIpv6cp : Safe (onIpv6cp cfg lcp ppp s) := by
  refine (safe_handleIpv6cpPacket hmac _).bind fun r _ => ?_
  match r with
  | (_, _, some _) | (_, _, none) => exact safe_ok _

theorem safe_onLcpControl : Safe (onLcpControl cfg lcp ppp s) := by
  refine safe_ite (fun _ => (safe_sendSession hmac _).thenOk) fun _ =>
    safe_guard fun _ =>
      safe_ite (fun _ => (safe_sendSession hmac _).thenOk) fun _ =>
        safe_guard fun _ => safe_ite (fun h => ?_) fun _ => safe_ok _
  refine (safe_be16At h.2).bind fun _ _ => ?_
  exact safe_guard fun _ => safe_guard fun _ =>
    safe_guard fun _ => safe_ok _

theorem safe_retryIpv6cp (sent : List Bytes) : Safe (retryIpv6cp cfg lcp s sent) :=
  safe_guard fun _ => safe_guard fun _ =>
    (safe_sendSession hmac _).thenOk

theorem safe_retryNcp : Safe (retryNcp cfg lcp s) :=
  safe_ite (fun _ => safe_retryIpv6cp hmac _) fun _ => safe_guard fun _ =>
    (safe_sendSession hmac _).bind fun _ _ => safe_retryIpv6cp hmac _

theorem safe_retryAuth : Safe (retryAuth cfg lcp s) :=
  safe_guard fun _ => safe_ite
    (fun _ => (safe_mapM (safe_sendSession hmac) _).thenOk) fun _ => safe_ok _

theorem safe_onEcho : Safe (onEcho cfg lcp s) :=
  (safe_sendSession hmac _).bind fun _ _ => safe_guard fun _ => safe_ok _

theorem safe_onAuth_iff : Safe (onAuth amb cfg lcp ppp s) ↔
    ∀ challenge id, s.auth = some (.chap challenge id) → ppp.isChallenge = true →
    ChallengeFits ppp := by
  unfold onAuth
  cases s.auth with
  | none => exact ⟨fun _ _ _ h => (by cases h),fun _ => safe_ok _⟩
  | some authenticator =>
    -- All that follows is safe once the authenticator has come to its result.
    have hrest : Safe (authenticator.handleIncoming amb cfg ppp) ↔
        ∀ challenge id, some authenticator = some (.chap challenge id) → ppp.isChallenge = true →
          ChallengeFits ppp := by
      cases authenticator with
      | pap done =>
        refine ⟨nofun,fun _ => ?_⟩
        exact safe_guard fun _ => safe_ok _
      | chap challenge id =>
        rw [Authenticator.handleIncoming, ← safe_challengeOf_iff]
        by_cases hchallenge : ppp.isChallenge = true
        · rw [if_pos hchallenge]
          refine ⟨fun h _ _ _ _ => h.of_bind,fun h => ?_⟩
          exact (h challenge id rfl hchallenge).thenOk
        · rw [if_neg hchallenge]
          refine ⟨fun _ _ _ _ hyes => absurd hyes hchallenge,fun _ => ?_⟩
          exact safe_guard fun _ => safe_guard fun _ => safe_ok _
    refine Iff.trans ⟨fun h => h.of_bind,fun h => h.bind fun result _ => ?_⟩ hrest
    refine (safe_mapM (safe_sendSession hmac) _).bind fun _ _ => ?_
    exact safe_guard fun _ => safe_ite (fun _ => (safe_sendSession hmac _).bind fun _ _ =>
      (safe_sendSession hmac _).thenOk) fun _ => safe_ok _

theorem safe_onPacket_iff : Safe (onPacket amb cfg lcp ppp s) ↔
    ((ppp.isPapAuth || ppp.isChap) = true → ∀ challenge id, s.auth = some (.chap challenge id) →
      ppp.isChallenge = true → ChallengeFits ppp) := by
  unfold onPacket
  by_cases hauth : (ppp.isPapAuth || ppp.isChap) = true
  · rw [if_pos hauth, safe_onAuth_iff hmac]
    exact ⟨fun h _ => h,fun h => h hauth⟩
  · rw [if_neg hauth]
    refine ⟨fun _ hyes => absurd hyes hauth,fun _ => ?_⟩
    exact safe_ite (fun _ => safe_onIpcp hmac) fun _ =>
      safe_ite (fun _ => safe_onIpv6cp hmac) fun _ =>
      safe_ite (fun _ => safe_onLcpControl hmac) fun _ => safe_ok _

theorem safe_onNegotiation_iff {p : NegotiationRun} (e : NegotiationEvent) :
    Safe (onNegotiation amb cfg lcp p.state e) ↔ WellFramed lcp p e := by
  cases e with
  | received raw =>
    obtain ⟨packet,hpacket⟩ := safe_parsePppPacket raw lcp
    have hframe : onNegotiation amb cfg lcp p.state (.received raw) =
        match packet with
        | none => .ok ⟨p.state,[],.goOn⟩
        | some ppp => onPacket amb cfg lcp ppp p.state := by
      simp only [onNegotiation, onFrame, hpacket]
      cases packet <;> rfl
    rw [hframe]
    cases packet with
    | none =>
      refine ⟨fun _ ppp _ _ hppp => ?_,fun _ => safe_ok _⟩
      rw [hpacket] at hppp
      cases hppp
    | some ppp =>
      refine (safe_onPacket_iff hmac).trans ⟨fun h ppp' challenge id hppp hauth =>
        ?_,fun h hauth challenge id => ?_⟩
      · rw [hpacket] at hppp
        cases hppp
        exact h hauth challenge id
      · exact h ppp challenge id hpacket hauth
  | timeout =>
    refine ⟨fun _ => trivial,fun _ => ?_⟩
    exact safe_ite (fun _ => safe_retryNcp hmac) fun _ => safe_retryAuth hmac
  | echo => exact ⟨fun _ => trivial,fun _ => safe_onEcho hmac⟩
  | stopped | closed => exact ⟨fun _ => trivial,fun _ => safe_ok _⟩

variable (cfg) in
theorem safe_firstStep : Safe (firstStep cfg lcp) := by
  unfold firstStep
  cases Authenticator.ofType lcp.authType with
  | none => exact safe_ok _
  | some authenticator =>
    exact (safe_mapM (safe_sendSession hmac) _).bind fun _ _ =>
      (safe_sendSession hmac _).thenOk

theorem start_not_faulted : (negotiationStart cfg lcp).outcome ≠ .faulted := by
  obtain ⟨r,hr⟩ := safe_firstStep cfg hmac
  rw [negotiationStart, hr]
  intro hfault
  change r.next.outcome = .faulted at hfault
  revert hfault
  cases r.next <;> nofun

end

end

/-- From the first phase to the end of the second, what ends the client is a challenge that does not
fit. -/
theorem faulted_iff_not_wellFramed (amb : Ambient) (cfg : Config) {p : LcpRun}
    (hrun : Runs (step (onEvent amb cfg)) (fun _ _ => True) (lcpStart amb cfg) p) :
    p.outcome ≠ .faulted ∧ ∀ lcp, p.outcome = .returned lcp →
    (negotiationStart cfg lcp).outcome ≠ .faulted ∧
    ∀ q e q', Runs (step (onNegotiation amb cfg lcp)) (fun _ _ => True)
      (negotiationStart cfg lcp) q →
        step (onNegotiation amb cfg lcp) q e = some q' →
        (q'.outcome = .faulted ↔ ¬WellFramed lcp q e) := by
  refine ⟨lcp_not_faulted hrun,fun lcp hres => ?_⟩
  have hmac := lcp_serverMac hrun hres
  refine ⟨start_not_faulted hmac,fun q e q' _ hstep => ?_⟩
  rw [step_faulted_iff hstep, safe_onNegotiation_iff hmac]

def chapAgreement : List Event :=
  [.received samplePado, .received samplePads, .received (peerRequest 0xc223),
    .received (peerAck 1)]

def challenge : Bytes := pppFromPeer 0xc223 1 1 [2, 10, 11, 97]
def emptyChallenge : Bytes := pppFromPeer 0xc223 1 1 []

theorem lcp_sample : ∃ p, Runs (step (onEvent sampleAmbient sampleClient)) (fun _ _ => True)
    (lcpStart sampleAmbient sampleClient) p ∧ p.outcome = .returned (sampleLcp 0xc223) :=
  runs_of_steps _ _ chapAgreement _ (by decide +kernel)

theorem faulted_sample : ∃ p q', Runs (step (onEvent sampleAmbient sampleClient)) (fun _ _ => True)
      (lcpStart sampleAmbient sampleClient) p ∧ p.outcome = .returned (sampleLcp 0xc223) ∧
    step (onNegotiation sampleAmbient sampleClient (sampleLcp 0xc223))
      (negotiationStart sampleClient (sampleLcp 0xc223)) (.received challenge) = some q' ∧
    (q'.outcome = .faulted ↔
      ¬WellFramed (sampleLcp 0xc223) (negotiationStart sampleClient (sampleLcp 0xc223))
      (.received challenge)) := by
  obtain ⟨p,hrun,hres⟩ := lcp_sample
  obtain ⟨q',hstep⟩ : ∃ q', step (onNegotiation sampleAmbient sampleClient (sampleLcp 0xc223))
      (negotiationStart sampleClient (sampleLcp 0xc223)) (.received challenge) = some q' :=
    Option.isSome_iff_exists.mp (by decide +kernel)
  exact ⟨p,q',hrun,hres,hstep,
    ((faulted_iff_not_wellFramed sampleAmbient sampleClient hrun).2 _ hres).2 _ _ q' .refl hstep⟩

def AlwaysRobust : Prop :=
  ∀ amb cfg p, Runs (step (onEvent amb cfg)) (fun _ _ => True) (lcpStart amb cfg) p →
    p.outcome ≠ .faulted ∧
    ∀ lcp, p.outcome = .returned lcp →
      ∀ q, Runs (step (onNegotiation amb cfg lcp)) (fun _ _ => True)
      (negotiationStart cfg lcp) q → q.outcome ≠ .faulted

theorem alwaysRobust_fails : ¬AlwaysRobust := by
  intro h
  obtain ⟨p,hrun,hres⟩ := lcp_sample
  obtain ⟨q,hq,hfault⟩ :=
    runs_of_steps (step (onNegotiation sampleAmbient sampleClient (sampleLcp 0xc223)))
    (negotiationStart sampleClient (sampleLcp 0xc223)) [.received emptyChallenge]
      (·.outcome = .faulted) (by decide +kernel)
  exact ((h sampleAmbient sampleClient p hrun).2 _ hres) q hq hfault

end Landscape.Pppoe
