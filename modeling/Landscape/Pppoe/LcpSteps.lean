import Landscape.Pppoe.Lcp

/-! What a step of the first phase comes to. No packet is read out of bounds here. -/
namespace Landscape.Pppoe
open Slice Phase Checks

variable {amb : Ambient} {cfg : Config} {serverMac : Bytes}

theorem safe_buildL2Header {dst : Bytes} (h : dst.length = 6) (srcMac : Vector UInt8 6)
    (ethertype : UInt16) :
    Safe (buildL2Header dst srcMac ethertype) := ⟨_,if_pos h⟩

theorem safe_sendPppoeSessionFrame (h : serverMac.length = 6) (sid : UInt16) (payload : Bytes) :
    Safe (sendPppoeSessionFrame cfg serverMac sid payload) :=
  (safe_buildL2Header h _ _).thenOk

variable (amb cfg) {srcMac raw : Bytes} in
theorem safe_sendPadr (h : serverMac.length = 6) {acCookie : Option Bytes} :
    Safe (sendPadr cfg amb.hostUniq serverMac acCookie) :=
  (safe_buildL2Header h _ _).thenOk

theorem safe_extractL2 (data : Bytes) : Safe (extractL2 data) :=
  safe_guard fun hlen => (safe_slice (by omega)).bind fun _ _ =>
    (safe_slice (by omega)).thenOk

theorem length_of_extractL2 {data ethPayload : Bytes}
    (h : extractL2 data = .ok (some (srcMac, ethPayload))) : srcMac.length = 6 := by
  unfold extractL2 at h
  split at h
  · cases h
  · obtain ⟨mac,hmac,h⟩ := bind_eq_ok.mp h
    obtain ⟨rest,-,h⟩ := bind_eq_ok.mp h
    cases h
    exact length_of_slice hmac

theorem safe_pppoeFrame (ethertype : UInt16) : Safe (pppoeFrame ethertype raw) := by
  refine (safe_extractL2 raw).bind fun r _ => ?_
  match r with
  | none => exact safe_ok _
  | some (srcMac, ethPayload) =>
    refine safe_guard fun hlen => (safe_be16At (by omega)).bind fun _ _ => ?_
    refine safe_guard fun _ => (safe_slice (by omega)).bind fun _ _ => ?_
    exact PPPoEFrame.safe_new.thenOk

theorem length_of_pppoeFrame {ethertype : UInt16} {frame : PPPoEFrame}
    (h : pppoeFrame ethertype raw = .ok (some (srcMac, frame))) : srcMac.length = 6 := by
  obtain ⟨r,hr,h⟩ := bind_eq_ok.mp h
  match r, hr, h with
  | none, _, h => cases h
  | some (mac, ethPayload), hr, h =>
    dsimp only at h
    split at h
    · cases h
    obtain ⟨_,-,h⟩ := bind_eq_ok.mp h
    split at h
    · cases h
    · obtain ⟨_,-,h⟩ := bind_eq_ok.mp h
      obtain ⟨f,-,h⟩ := bind_eq_ok.mp h
      obtain ⟨f',-,heq⟩ := Option.map_eq_some_iff.mp (Except.ok.inj h)
      cases heq
      exact length_of_extractL2 hr

variable (amb cfg) {state : Phase1State} in
theorem safe_handleDiscovery (raw : Bytes) : Safe (handleDiscovery amb cfg raw) := by
  refine (safe_pppoeFrame _).bind fun r _ => ?_
  match r with
  | none => exact safe_ok _
  | some (srcMac, frame) =>
    refine safe_guard fun _ => (PPPoETag.safe_fromBytes _).bind fun _ _ => ?_
    exact safe_guard fun _ => safe_guard fun _ => safe_ok _

theorem discovery_eq (h : handleDiscovery amb cfg raw = .ok (some state)) :
    ∃ serverMac acCookie, state = .requestSession serverMac acCookie ∧ serverMac.length = 6 := by
  obtain ⟨r,hr,h⟩ := bind_eq_ok.mp h
  match r, hr, h with
  | none, _, h => cases h
  | some (mac, frame), hr, h =>
    dsimp only at h
    split at h
    · cases h
    obtain ⟨tags,-,h⟩ := bind_eq_ok.mp h
    split at h
    · cases h
    · split at h
      · cases h
      · cases h
        exact ⟨mac,_,rfl,length_of_pppoeFrame hr⟩

variable (amb cfg) in
theorem safe_handleSessionConfirm (raw serverMac : Bytes) :
    Safe (handleSessionConfirm amb cfg raw serverMac) := by
  refine (safe_pppoeFrame _).bind fun r _ => ?_
  match r with
  | none => exact safe_ok _
  | some (srcMac, frame) =>
    refine safe_guard fun _ => (PPPoETag.safe_fromBytes _).bind fun _ _ => ?_
    exact safe_guard fun _ => safe_ok _

theorem sessionConfirm_eq
    (h : handleSessionConfirm amb cfg raw serverMac = .ok (some state)) : ∃ sid,
    state = .lcpNegotiating ⟨serverMac,sid,cfg.requestedMru,0,0,false,0,0,0,false⟩ := by
  obtain ⟨r,-,h⟩ := bind_eq_ok.mp h
  match r, h with
  | none, h => cases h
  | some (mac, frame), h =>
    dsimp only at h
    split at h
    · cases h
    · obtain ⟨tags,-,h⟩ := bind_eq_ok.mp h
      split at h
      · cases h
      · cases h
        exact ⟨_,rfl⟩

theorem safe_mruMagicOption (acc : LcpOptions) (op : PPPOption) : Safe (mruMagicOption acc op) :=
  safe_ite (fun h => (safe_be16At h.2).thenOk) fun _ =>
    safe_ite (fun h => (safe_be32At h.2).thenOk) fun _ => safe_ok _

theorem safe_requestOption (acc : LcpOptions) (op : PPPOption) : Safe (requestOption acc op) :=
  safe_ite (fun h => (safe_be16At h.2).thenOk) fun _ =>
    safe_ite (fun h => (safe_be32At h.2).thenOk) fun _ =>
      safe_ite (fun h => (safe_be16At h.2).thenOk) fun _ => safe_ok _

theorem safe_parseLcpRequestOptions (payload : Bytes) : Safe (parseLcpRequestOptions payload) :=
  (PPPOption.safe_fromBytes payload).bind fun ops _ => safe_foldlM safe_requestOption ops _

theorem safe_parseLcpMruMagicOptions {payload : Bytes} : Safe (parseLcpMruMagicOptions payload) :=
  (PPPOption.safe_fromBytes payload).bind fun ops _ => safe_foldlM safe_mruMagicOption ops _

theorem safe_lcpPacket (sessionId : UInt16) (raw : Bytes) : Safe (lcpPacket sessionId raw) := by
  refine (safe_pppoeFrame _).bind fun r _ => ?_
  match r with
  | none => exact safe_ok _
  | some (_, frame) =>
    exact safe_guard fun _ => safe_pointToPoint.thenOk

def Negotiating.requestFrame (cfg : Config) (n : Negotiating) (reqId : UInt8) (mru : UInt16)
    (magic : UInt32) : Bytes :=
  sessionFrame cfg n.serverMac n.sessionId (PointToPoint.requestMru reqId mru magic)

def Negotiating.ackFrame (cfg : Config) (n : Negotiating) (lcp : PointToPoint) : Bytes :=
  sessionFrame cfg n.serverMac n.sessionId lcp.genAck

theorem send_eq (h : serverMac.length = 6) (sid : UInt16) (payload : Bytes) :
    sendPppoeSessionFrame cfg serverMac sid payload =
    .ok (sessionFrame cfg serverMac sid payload) := by
  rw [sendPppoeSessionFrame, buildL2Header, if_pos h]
  rfl

theorem request_eq {n : Negotiating} (h : n.serverMac.length = 6) :
    n.request cfg = .ok (n.requestFrame cfg n.cfgReqId n.ourMru n.ourMagic) := by
  rw [Negotiating.request, sendLcpConfigRequest, buildL2Header, if_pos h]
  rfl

inductive LcpTurn (amb : Ambient) (cfg : Config) (lcp : PointToPoint) (n : Negotiating) :
    LcpReaction Negotiating → Prop
  | acknowledge (mru : UInt16) (magic : UInt32) (authType : UInt16) : lcp.isRequest = true →
    parseLcpRequestOptions lcp.payload = .ok ⟨some mru,some magic,some authType⟩ →
      n.ourConfigAcked = true →
    LcpTurn amb cfg lcp n ⟨n.heard mru magic authType,[n.ackFrame cfg lcp],.goOn⟩
  | ask (mru : UInt16) (magic : UInt32) (authType : UInt16) : lcp.isRequest = true →
    parseLcpRequestOptions lcp.payload = .ok ⟨some mru,some magic,some authType⟩ →
      n.ourConfigAcked = false →
    LcpTurn amb cfg lcp n ⟨(n.heard mru magic authType).asking n.ourMru amb.magicNumber,
      [n.ackFrame cfg lcp, n.requestFrame cfg (n.cfgReqId + 1) n.ourMru amb.magicNumber],.goOn⟩
  | acked (options : LcpOptions) :
      lcp.isAck = true → parseLcpMruMagicOptions lcp.payload = .ok options →
    options.mru.isSome = true → options.magicNumber.isSome = true →
    LcpTurn amb cfg lcp n ⟨{ n with ourConfigAcked := true },[],.goOn⟩
  | naked (mru : UInt16) (magic : UInt32) :
    LcpTurn amb cfg lcp n ⟨{ n with ourConfigAcked := false }.asking mru magic,
      [n.requestFrame cfg (n.cfgReqId + 1) mru magic],.goOn⟩
  | refused (e : PppoeError) : LcpTurn amb cfg lcp n ⟨n,[],.fail e⟩
  | ignored : LcpTurn amb cfg lcp n ⟨n,[],.goOn⟩

section
variable {lcp : PointToPoint} {n : Negotiating}

theorem lcpTurn_request (hmac : n.serverMac.length = 6) (hreq : lcp.isRequest = true) :
    ∃ r, onLcpRequest amb cfg lcp n = .ok r ∧ LcpTurn amb cfg lcp n r := by
  obtain ⟨options,hparse⟩ := safe_parseLcpRequestOptions lcp.payload
  rw [onLcpRequest, hparse]
  match options, hparse with
  | ⟨some mru,some magic,some authType⟩, hparse =>
    rw [send_eq hmac]
    by_cases hacked : n.ourConfigAcked = true
    · exact ⟨_,if_pos hacked,.acknowledge mru magic authType hreq hparse hacked⟩
    · refine ⟨_,?_,.ask mru magic authType hreq hparse ((Bool.not_eq_true _).mp hacked)⟩
      refine (if_neg hacked).trans ?_
      rw [request_eq (n := (n.heard mru magic authType).asking _ amb.magicNumber) hmac]
      rfl
  | ⟨none,_,_⟩, _ | ⟨some _,none,_⟩, _ | ⟨some _,some _,none⟩, _ => exact ⟨_,rfl,.refused _⟩

theorem lcpTurn_ack (hack : lcp.isAck = true) :
    ∃ r, onLcpAck lcp n = .ok r ∧ LcpTurn amb cfg lcp n r := by
  obtain ⟨options,hparse⟩ := safe_parseLcpMruMagicOptions
  refine ⟨⟨{ n with
    ourConfigAcked := n.ourConfigAcked || (options.mru.isSome && options.magicNumber.isSome) },
    [],.goOn⟩,?_,?_⟩
  · rw [onLcpAck, hparse]
    rfl
  · by_cases hboth : (options.mru.isSome && options.magicNumber.isSome) = true
    · obtain ⟨hmru,hmagic⟩ := Bool.and_eq_true_iff.mp hboth
      rw [hboth, Bool.or_true]
      exact .acked options hack hparse hmru hmagic
    · rw [(Bool.not_eq_true _).mp hboth, Bool.or_false]
      exact .ignored

theorem lcpTurn_nak (hmac : n.serverMac.length = 6) :
    ∃ r, onLcpNak cfg lcp n = .ok r ∧ LcpTurn amb cfg lcp n r := by
  obtain ⟨options,hparse⟩ := safe_parseLcpMruMagicOptions
  rw [onLcpNak, hparse]
  match options with
  | ⟨some mru,some magic,_⟩ =>
    have hrequest : Negotiating.request cfg ({ n with ourConfigAcked := false }.asking
      (min mru n.ourMru) magic) =
        .ok (n.requestFrame cfg (n.cfgReqId + 1) (min mru n.ourMru) magic) := request_eq hmac
    refine ⟨_,?_,.naked (min mru n.ourMru) magic⟩
    change (Negotiating.request cfg _ >>= _) = _
    rw [hrequest]
    rfl
  | ⟨none,_,_⟩ | ⟨some _,none,_⟩ => exact ⟨_,rfl,.ignored⟩

variable (amb cfg lcp) in
theorem lcpTurn (hmac : n.serverMac.length = 6) :
    ∃ r, onLcp amb cfg lcp n = .ok r ∧ LcpTurn amb cfg lcp n r := by
  unfold onLcp
  split
  · exact lcpTurn_request hmac ‹_›
  · split
    · exact lcpTurn_ack ‹_›
    · split
      · exact lcpTurn_nak hmac
      · split
        · exact ⟨_,rfl,.refused _⟩
        · exact ⟨_,rfl,.ignored⟩

end

theorem conclude_state (r : LcpReaction Negotiating) :
    (Negotiating.conclude r).state = r.state := by
  unfold Negotiating.conclude
  split
  · split <;> rfl
  · rfl

theorem conclude_sent (r : LcpReaction Negotiating) : (Negotiating.conclude r).sent = r.sent := by
  unfold Negotiating.conclude
  split
  · split <;> rfl
  · rfl

theorem conclude_finish {lcp : PointToPoint} {n : Negotiating} {r : LcpReaction Negotiating}
    {res : LcpPhaseResult} (hturn : LcpTurn amb cfg lcp n r)
    (h : (Negotiating.conclude r).next = .finish res) :
    r.state.ourConfigAcked = true ∧ r.state.peerConfigReceived = true ∧ res = r.state.result := by
  have hnot : ∀ res, r.next ≠ .finish res := by cases hturn <;> nofun
  unfold Negotiating.conclude at h
  split at h
  · split at h
    · rename_i hboth
      cases h
      exact ⟨hboth.1,hboth.2,rfl⟩
    · exact absurd h (hnot res)
  · exact absurd h (hnot res)

def Phase1State.addressed : Phase1State → Prop
  | .discovering => True
  | .requestSession serverMac _ => serverMac.length = 6
  | .lcpNegotiating n => n.serverMac.length = 6

def Phase1State.fresh : Phase1State → Prop
  | .lcpNegotiating n => n.ourConfigAcked = false ∧ n.peerConfigReceived = false
  | _ => True

inductive LoopTurn (amb : Ambient) (cfg : Config) (s : Loop) (e : Event) : LcpReaction Loop → Prop
  | ended (s' : Loop) (sent : List Bytes) (err : PppoeError) :
      LoopTurn amb cfg s e ⟨s',sent,.fail err⟩
  | searching (s' : Loop) (sent : List Bytes) : s'.state.addressed → s'.state.fresh →
    LoopTurn amb cfg s e ⟨s',sent,.goOn⟩
  | idle (s' : Loop) : s'.state = s.state → LoopTurn amb cfg s e ⟨s',[],.goOn⟩
  | again (n : Negotiating) (s' : Loop) : s.state = .lcpNegotiating n → n.ourConfigAcked = false →
    s'.state = .lcpNegotiating (n.asking n.ourMru n.ourMagic) →
    LoopTurn amb cfg s e ⟨s',[n.requestFrame cfg (n.cfgReqId + 1) n.ourMru n.ourMagic],.goOn⟩
  | packet (n : Negotiating) (raw : Bytes) (lcp : PointToPoint) (r : LcpReaction Negotiating) :
    s.state = .lcpNegotiating n → e = .received raw → lcpPacket n.sessionId raw = .ok (some lcp) →
    LcpTurn amb cfg lcp n r →
    LoopTurn amb cfg s e ⟨{ s with state := .lcpNegotiating (Negotiating.conclude r).state },
      (Negotiating.conclude r).sent,(Negotiating.conclude r).next⟩

section
variable {s : Loop}

theorem loopTurn_discovering (raw : Bytes) (hstate : s.state = .discovering) :
    ∃ r, onReceived amb cfg raw s = .ok r ∧ LoopTurn amb cfg s (.received raw) r := by
  obtain ⟨next,hnext⟩ := safe_handleDiscovery amb cfg raw
  simp only [onReceived, hstate, hnext]
  cases next with
  | none => exact ⟨_,rfl,.idle s rfl⟩
  | some state =>
    obtain ⟨serverMac,acCookie,rfl,hmac⟩ := discovery_eq hnext
    obtain ⟨padr,hpadr⟩ := safe_sendPadr amb cfg hmac
    refine ⟨_,?_,.searching
      { s with state := .requestSession serverMac acCookie, discoveryRetries := 0 } [padr] hmac
      trivial⟩
    change (sendPadr cfg amb.hostUniq serverMac acCookie >>= _) = _
    rw [hpadr]
    rfl

theorem loopTurn_requestSession {acCookie : Option Bytes} (raw : Bytes)
    (hstate : s.state = .requestSession serverMac acCookie) (hmac : serverMac.length = 6) :
    ∃ r, onReceived amb cfg raw s = .ok r ∧ LoopTurn amb cfg s (.received raw) r := by
  obtain ⟨next,hnext⟩ := safe_handleSessionConfirm amb cfg raw serverMac
  simp only [onReceived, hstate, hnext]
  cases next with
  | none => exact ⟨_,rfl,.idle s rfl⟩
  | some state =>
    obtain ⟨sid,rfl⟩ := sessionConfirm_eq hnext
    exact ⟨_,rfl,.searching _ [] hmac ⟨rfl,rfl⟩⟩

theorem loopTurn_negotiating {n : Negotiating} (raw : Bytes) (hstate : s.state = .lcpNegotiating n)
    (hmac : n.serverMac.length = 6) :
    ∃ r, onReceived amb cfg raw s = .ok r ∧ LoopTurn amb cfg s (.received raw) r := by
  obtain ⟨packet,hpacket⟩ := safe_lcpPacket n.sessionId raw
  simp only [onReceived, hstate, handleLcpPacket, hpacket]
  cases packet with
  | none => exact ⟨_,rfl,.idle _ hstate.symm⟩
  | some lcp =>
    obtain ⟨r,hr,hturn⟩ := lcpTurn amb cfg lcp hmac
    refine ⟨_,?_,.packet n raw lcp r hstate rfl hpacket hturn⟩
    simp only [bind, Except.bind, hr]
    rfl

theorem loopTurn_timeout (hmac : s.state.addressed) :
    ∃ r, onTimeout amb cfg s = .ok r ∧ LoopTurn amb cfg s .timeout r := by
  unfold onTimeout
  cases hstate : s.state with
  | discovering =>
    dsimp only
    split
    · exact ⟨_,rfl,.ended _ _ _⟩
    · exact ⟨_,rfl,.searching _ _ trivial trivial⟩
  | requestSession serverMac acCookie =>
    dsimp only
    rw [hstate] at hmac
    obtain ⟨padr,hpadr⟩ := safe_sendPadr amb cfg hmac
    split
    · exact ⟨_,rfl,.ended _ _ _⟩
    · rw [hpadr]
      exact ⟨_,rfl,.searching _ _ hmac trivial⟩
  | lcpNegotiating n =>
    dsimp only
    rw [hstate] at hmac
    have hrequest : Negotiating.request cfg (n.asking n.ourMru n.ourMagic) =
        .ok (n.requestFrame cfg (n.cfgReqId + 1) n.ourMru n.ourMagic) := request_eq hmac
    split
    · exact ⟨_,rfl,.ended _ _ _⟩
    · split
      · exact ⟨_,rfl,.idle _ hstate.symm⟩
      · rename_i hacked
        rw [hrequest]
        exact ⟨_,rfl,.again n _ hstate ((Bool.not_eq_true _).mp hacked) rfl⟩

variable (amb cfg) in
theorem loopTurn (hmac : s.state.addressed) (e : Event) :
    ∃ r, onEvent amb cfg s e = .ok r ∧ LoopTurn amb cfg s e r := by
  cases e with
  | received raw =>
    cases hstate : s.state with
    | discovering => exact loopTurn_discovering raw hstate
    | requestSession serverMac acCookie =>
      rw [hstate] at hmac
      exact loopTurn_requestSession raw hstate hmac
    | lcpNegotiating n =>
      rw [hstate] at hmac
      exact loopTurn_negotiating raw hstate hmac
  | timeout => exact loopTurn_timeout hmac
  | stopped | closed => exact ⟨_,rfl,.ended _ _ _⟩

theorem loopTurn_of_eq (hmac : s.state.addressed) {e : Event} {r : LcpReaction Loop}
    (h : onEvent amb cfg s e = .ok r) : LoopTurn amb cfg s e r := by
  obtain ⟨r',hr',ht⟩ := loopTurn amb cfg hmac e
  rw [h] at hr'
  cases hr'
  exact ht

end

end Landscape.Pppoe
