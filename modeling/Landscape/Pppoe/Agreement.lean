import Landscape.Pppoe.LcpSteps

/-! What the two sides have agreed on when the first phase returns. -/
namespace Landscape.Pppoe
open Phase Run List

abbrev LcpLog := List (Io Event Bytes)

/-- The client sent a Config-Request for the values of the result, and later a Config-Ack with its
identifier came in. -/
def Agreed (cfg : Config) (res : LcpPhaseResult) (log : LcpLog) : Prop :=
  ∃ later between earlier raw ack,
    log = later ++ .got (.received raw) ::
      (between ++ .sent (sessionFrame cfg res.serverMac res.sessionId
      (PointToPoint.requestMru ack.id res.mru res.magicNumber)) :: earlier) ∧
    lcpPacket res.sessionId raw = .ok (some ack) ∧ ack.isAck = true

/-- The peer's values of the result are those of the last Config-Request that the client
acknowledged. -/
def Acknowledged (cfg : Config) (res : LcpPhaseResult) (log : LcpLog) : Prop :=
  ∃ later earlier raw request,
    log = later ++ .sent (sessionFrame cfg res.serverMac res.sessionId request.genAck) ::
      .got (.received raw) :: earlier ∧
    lcpPacket res.sessionId raw = .ok (some request) ∧ request.isRequest = true ∧
    parseLcpRequestOptions request.payload =
      .ok ⟨some res.peerMru,some res.peerMagic,some res.authType⟩ ∧
    ∀ other : PointToPoint,
      .sent (sessionFrame cfg res.serverMac res.sessionId other.genAck) ∉ later

/-- A Config-Ack that counts answers a Config-Request of the session for the values the client now
proposes. -/
def Answered (cfg : Config) (p : LcpRun) : Event → Prop
  | .received raw => ∀ n lcp options, p.state.state = .lcpNegotiating n →
    lcpPacket n.sessionId raw = .ok (some lcp) → lcp.isAck = true →
    parseLcpMruMagicOptions lcp.payload = .ok options → options.mru.isSome = true →
    options.magicNumber.isSome = true →
    .sent (n.requestFrame cfg lcp.id n.ourMru n.ourMagic) ∈ p.log
  | _ => True

variable {amb : Ambient} {cfg : Config} {log : LcpLog} {res : LcpPhaseResult} {n : Negotiating}
  {s : Loop} {p : LcpRun} {e : Event}

theorem Agreed.more (h : Agreed cfg res log) (new : LcpLog) : Agreed cfg res (new ++ log) := by
  obtain ⟨later,between,earlier,raw,ack,rfl,hpacket,hack⟩ := h
  exact ⟨new ++ later,between,earlier,raw,ack,(append_assoc _ _ _).symm,hpacket,hack⟩

theorem Acknowledged.more (h : Acknowledged cfg res log) {new : LcpLog}
    (hnew : ∀ other : PointToPoint,
      .sent (sessionFrame cfg res.serverMac res.sessionId other.genAck) ∉ new) :
    Acknowledged cfg res (new ++ log) := by
  obtain ⟨later,earlier,raw,request,rfl,hpacket,hreq,hparse,hlast⟩ := h
  refine ⟨new ++ later,earlier,raw,request,(append_assoc _ _ _).symm,hpacket,hreq,hparse,?_⟩
  intro other hmem
  obtain hmem | hmem := mem_append.mp hmem
  · exact hnew other hmem
  · exact hlast other hmem

theorem requestFrame_ne (reqId : UInt8) (mru : UInt16) (magic : UInt32) (other : PointToPoint) :
    sessionFrame cfg n.serverMac n.sessionId other.genAck ≠ n.requestFrame cfg reqId mru magic := by
  simp [sessionFrame, Negotiating.requestFrame, PPPoEFrame.convertToPayload, PointToPoint.genAck,
    PointToPoint.requestMru, toBeBytes16]

theorem no_ack_of_request (reqId : UInt8) (mru : UInt16) {magic : UInt32}
    (other : PointToPoint) : Io.sent (sessionFrame cfg n.serverMac n.sessionId other.genAck) ∉
      [Io.sent (n.requestFrame cfg reqId mru magic), Io.got e] := by
  intro hmem
  obtain heq | hmem := mem_cons.mp hmem
  · exact requestFrame_ne reqId mru magic other (Io.sent.inj heq)
  · exact nomatch mem_singleton.mp hmem

theorem no_ack_of_got (frame : Bytes) : Io.sent frame ∉ [(Io.got e : Io Event Bytes)] :=
  fun hmem => nomatch mem_singleton.mp hmem

structure Settled (cfg : Config) (n : Negotiating) (log : LcpLog) : Prop where
  mac : n.serverMac.length = 6
  agreed : n.ourConfigAcked = true → Agreed cfg n.result log
  acknowledged : n.peerConfigReceived = true → Acknowledged cfg n.result log

theorem Settled.packet {raw : Bytes} {lcp : PointToPoint} {r : LcpReaction Negotiating}
    (h : Settled cfg n log) (hpacket : lcpPacket n.sessionId raw = .ok (some lcp))
    (hanswered : ∀ options, lcp.isAck = true → parseLcpMruMagicOptions lcp.payload = .ok options →
      options.mru.isSome = true → options.magicNumber.isSome = true →
      .sent (n.requestFrame cfg lcp.id n.ourMru n.ourMagic) ∈ log)
    (hturn : LcpTurn amb cfg lcp n r) :
    Settled cfg r.state (written log (.received raw) r.sent) := by
  cases hturn with
  | acknowledge mru magic authType hreq hparse hacked =>
    refine ⟨h.mac,fun _ => ?_,fun _ => ?_⟩
    · exact (h.agreed hacked).more [.sent (n.ackFrame cfg lcp), .got (.received raw)]
    · exact ⟨[],log,raw,lcp,rfl,hpacket,hreq,hparse,fun _ => not_mem_nil⟩
  | ask mru magic authType hreq hparse hacked =>
    refine ⟨h.mac,fun hyes => ?_,fun _ => ?_⟩
    · rw [show ((n.heard mru magic authType).asking n.ourMru amb.magicNumber).ourConfigAcked =
        false from hacked] at hyes
      cases hyes
    · refine ⟨[.sent (n.requestFrame cfg (n.cfgReqId + 1) n.ourMru
        amb.magicNumber)],log,raw,lcp,rfl,hpacket,hreq,hparse,fun other hmem => ?_⟩
      exact requestFrame_ne _ _ _ other (Io.sent.inj (mem_singleton.mp hmem))
  | acked options hack hparse hmru hmagic =>
    refine ⟨h.mac,fun _ => ?_,fun hyes => ?_⟩
    · obtain ⟨between,earlier,rfl⟩ := append_of_mem (hanswered options hack hparse hmru hmagic)
      exact ⟨[],between,earlier,raw,lcp,rfl,hpacket,hack⟩
    · exact (h.acknowledged hyes).more fun other => no_ack_of_got _
  | naked mru magic =>
    refine ⟨h.mac,nofun,fun hyes => ?_⟩
    exact (h.acknowledged hyes).more (no_ack_of_request _ mru)
  | refused | ignored =>
    exact ⟨h.mac,fun hyes => (h.agreed hyes).more [.got (.received raw)],
      fun hyes => (h.acknowledged hyes).more fun other => no_ack_of_got _⟩

structure OnCourse (cfg : Config) (s : Loop) (log : LcpLog) : Prop where
  addressed : s.state.addressed
  settled : ∀ n, s.state = .lcpNegotiating n → Settled cfg n log

theorem onCourse_of_fresh (hmac : s.state.addressed) (hfresh : s.state.fresh) :
    OnCourse cfg s log := by
  refine ⟨hmac,fun n hn => ?_⟩
  rw [hn] at hmac hfresh
  refine ⟨hmac,fun hyes => ?_,fun hyes => ?_⟩
  · exact absurd hyes (by rw [hfresh.1]; decide)
  · exact absurd hyes (by rw [hfresh.2]; decide)

theorem onCourse_of_settled (hn : s.state = .lcpNegotiating n)
    (h : Settled cfg n log) : OnCourse cfg s log := by
  refine ⟨?_,fun n' hn' => ?_⟩
  · rw [hn]
    exact h.mac
  · rw [hn] at hn'
    cases hn'
    exact h

/-- Every turn that does not end the phase with an error keeps it on course; the result is that of
the state. -/
theorem OnCourse.turn {r : LcpReaction Loop} (h : OnCourse cfg p.state p.log)
    (hc : Answered cfg p e) (ht : LoopTurn amb cfg p.state e r) (hok : ∀ err, r.next ≠ .fail err) :
    OnCourse cfg r.state (written p.log e r.sent) ∧
      ∀ res, r.next = .finish res → ∃ n, r.state.state = .lcpNegotiating n ∧
      n.ourConfigAcked = true ∧
        n.peerConfigReceived = true ∧ res = n.result := by
  cases ht with
  | ended _ _ err => exact absurd rfl (hok err)
  | searching _ _ hmac hfresh => exact ⟨onCourse_of_fresh hmac hfresh,nofun⟩
  | idle s' hsame =>
    refine ⟨⟨by rw [hsame]; exact h.addressed,fun n hn => ?_⟩,nofun⟩
    have hset := h.settled n (hsame.symm.trans hn)
    exact ⟨hset.mac,fun hyes => (hset.agreed hyes).more [.got e],
      fun hyes => (hset.acknowledged hyes).more fun other => no_ack_of_got _⟩
  | again n s' hn hacked hnext =>
    have hset := h.settled n hn
    refine ⟨onCourse_of_settled hnext ⟨hset.mac,fun hyes => ?_,fun hyes => ?_⟩,nofun⟩
    · exact absurd (hacked.symm.trans hyes) (by decide)
    · exact (hset.acknowledged hyes).more (no_ack_of_request _ n.ourMru)
  | packet n raw lcp r hn he hpacket hturn =>
    subst he
    have hset := (h.settled n hn).packet hpacket
      (fun options => hc n lcp options hn hpacket) hturn
    refine ⟨onCourse_of_settled rfl ?_,fun res hres => ⟨_,rfl,?_⟩⟩
    · dsimp only
      rw [conclude_state, conclude_sent]
      exact hset
    · rw [conclude_state]
      exact conclude_finish hturn hres

/-- An LCP phase that returns has its own request acknowledged, and has acknowledged the
server's. -/
theorem agreement_of_answered {p : LcpRun} {res : LcpPhaseResult}
    (hrun : Runs (step (onEvent amb cfg)) (Answered cfg) (lcpStart amb cfg) p)
    (hres : p.outcome = .returned res) :
    Agreed cfg res p.log ∧ Acknowledged cfg res p.log := by
  refine returned_of_runs (OnCourse cfg) hrun ?_ (fun _ => onCourse_of_fresh trivial trivial)
    (fun res _ log => Agreed cfg res log ∧ Acknowledged cfg res log) ?_ nofun hres
  · intro p e r hcourse hc hr hgo
    exact (hcourse.turn hc (loopTurn_of_eq hcourse.addressed hr) (by rw [hgo]; nofun)).1
  · intro p e r res hcourse hc hr hfinish
    obtain ⟨hnext,hresult⟩ :=
      hcourse.turn hc (loopTurn_of_eq hcourse.addressed hr) (by rw [hfinish]; nofun)
    obtain ⟨n,hn,hacked,hreceived,rfl⟩ := hresult res hfinish
    have hset := hnext.settled n hn
    exact ⟨hset.agreed hacked,hset.acknowledged hreceived⟩

def sampleAmbient : Ambient := ⟨1,7,fun _ => "",fun _ => []⟩

def sampleClient : Config := ⟨#v[2, 0, 0, 0, 0, 1],[97],[98],1492,none⟩

def sampleServer : Bytes := [2, 0, 0, 0, 0, 9]

def fromPeer (ethertype : UInt16) (frame : PPPoEFrame) : Bytes :=
  sampleClient.ifaceMac.toList ++ sampleServer ++ toBeBytes16 ethertype ++ frame.convertToPayload

def pppFromPeer (protocol : UInt16) (code id : UInt8) (payload : Bytes) : Bytes :=
  fromPeer ethPPpoes ⟨1,1,0,5,0,
    (PointToPoint.mk protocol code id (payload.length.toUInt16 + 4) payload).convertToPayload⟩

def samplePado : Bytes := fromPeer ethPPpoed ⟨1,1,0x07,0,0,PPPoETag.encodeHostUniq 1⟩
def samplePads : Bytes := fromPeer ethPPpoed ⟨1,1,0x65,5,0,PPPoETag.encodeHostUniq 1⟩

def peerRequest (authType : UInt16) : Bytes :=
  pppFromPeer 0xc021 1 1 ([1, 4, 5, 0xd4, 3, 4] ++ toBeBytes16 authType ++ [5, 6, 0, 0, 0, 9])

def peerAck (id : UInt8) : Bytes := pppFromPeer 0xc021 2 id [1, 4, 5, 0xd4, 5, 6, 0, 0, 0, 7]

def answers (cfg : Config) (p : LcpRun) : Event → Bool
  | .received raw =>
    match p.state.state with
    | .lcpNegotiating n =>
      match lcpPacket n.sessionId raw with
      | .ok (some lcp) =>
        !lcp.isAck || decide (.sent (n.requestFrame cfg lcp.id n.ourMru n.ourMagic) ∈ p.log)
      | _ => true
    | _ => true
  | _ => true

theorem answered_of_check (h : answers cfg p e = true) : Answered cfg p e := by
  cases e with
  | received raw =>
    intro n lcp options hn hpacket hack _ _ _
    simp only [answers, hn, hpacket, hack, Bool.not_true, Bool.false_or, decide_eq_true_eq] at h
    exact h
  | timeout | stopped | closed => trivial

theorem agreement_sample : ∃ p, Runs (step (onEvent sampleAmbient sampleClient))
    (Answered sampleClient)
      (lcpStart sampleAmbient sampleClient) p ∧
    p.outcome = .returned ⟨5,sampleServer,1492,7,0xc023,1492,9⟩ ∧
    Agreed sampleClient ⟨5,sampleServer,1492,7,0xc023,1492,9⟩ p.log ∧
    Acknowledged sampleClient ⟨5,sampleServer,1492,7,0xc023,1492,9⟩ p.log := by
  refine runs_and (runs_of_check _ _ [.received samplePado, .received samplePads,
    .received (peerRequest 0xc023),
    .received (peerAck 1)] _ (fun _ _ h => answered_of_check h) (by decide +kernel)) ?_
  exact fun _ hrun hres => agreement_of_answered hrun hres

def AlwaysAgreed : Prop :=
  ∀ amb cfg p res, Runs (step (onEvent amb cfg)) (fun _ _ => True) (lcpStart amb cfg) p →
    p.outcome = .returned res → Agreed cfg res p.log ∧ Acknowledged cfg res p.log

def noRequest : Io Event Bytes → Bool
  | .sent frame => frame[22]? ≠ some 1
  | .got _ => true

/-- A Config-Ack before any Config-Request is enough. -/
theorem alwaysAgreed_fails : ¬AlwaysAgreed := by
  intro h
  obtain ⟨p,hrun,hres,hnone⟩ := runs_of_steps (step (onEvent sampleAmbient sampleClient))
    (lcpStart sampleAmbient sampleClient)
    [.received samplePado, .received samplePads, .received (peerAck 77),
      .received (peerRequest 0xc023)]
    (fun p => p.outcome = .returned ⟨5,sampleServer,1492,0,0xc023,1492,9⟩ ∧ p.log.all noRequest)
      (by decide +kernel)
  obtain ⟨later,between,earlier,raw,ack,hlog,-⟩ := (h sampleAmbient sampleClient p _ hrun hres).1
  have hmem : Io.sent (sessionFrame sampleClient sampleServer 5
      (PointToPoint.requestMru ack.id 1492 0)) ∈ p.log := by
    rw [hlog]
    exact mem_append_right _ (mem_cons_of_mem _ (mem_append_right _ mem_cons_self))
  have hcode : (sessionFrame sampleClient sampleServer 5
      (PointToPoint.requestMru ack.id 1492 0))[22]? ≠ some 1 :=
    of_decide_eq_true (all_eq_true.mp hnone _ hmem)
  exact hcode rfl

end Landscape.Pppoe
