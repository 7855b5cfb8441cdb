import Landscape.Pppoe.Lcp

/-! The second phase of the PPPoE client: authentication, IPCP and IPv6CP in one loop. -/
namespace Landscape.Pppoe
open Slice Phase

structure AuthResult where
  response : Option Bytes
  done : Bool
  failed : Bool
  deriving DecidableEq

def AuthResult.noop : AuthResult := ⟨none,false,false⟩

inductive Authenticator where
  | pap (done : Bool)
  | chap (challenge : Option Bytes) (challengeId : UInt8)
  deriving DecidableEq

def challengeOf (pkt : PointToPoint) : Read Bytes := do
  let valueSize ← index pkt.payload 0
  slice pkt.payload 1 (1 + valueSize.toNat)

def Authenticator.handleIncoming (amb : Ambient) (cfg : Config) (pkt : PointToPoint) :
    Authenticator → Read (Authenticator × AuthResult)
  | .pap done =>
    if pkt.isAck then return (.pap true, ⟨none,true,false⟩)
      else return (.pap done, ⟨none,true,true⟩)
  | .chap challenge challengeId =>
    if pkt.isChallenge then do
      let challenge ← challengeOf pkt
      let response := PointToPoint.genChapResponse amb.md5 pkt.id cfg.peerId cfg.password challenge
      return (.chap (some challenge) pkt.id, ⟨some response,false,false⟩)
    else if pkt.isChapSuccess then return (.chap challenge challengeId, ⟨none,true,false⟩)
    else if pkt.isChapFailure then return (.chap challenge challengeId, ⟨none,true,true⟩)
    else return (.chap challenge challengeId, .noop)

def Authenticator.outgoingPacket (cfg : Config) : Authenticator → Option Bytes
  | .pap true => none
  | .pap false => some (PointToPoint.genPap cfg.peerId cfg.password).convertToPayload
  | .chap .. => none

def Authenticator.ofType (authType : UInt16) : Option Authenticator :=
  if authType = 0xc023 then some (.pap false)
  else if authType = 0xc223 then some (.chap none 0)
  else none

structure IpcpState where
  reqId : UInt8
  requestingIp : UInt32
  ourIp : Option UInt32
  peerIp : Option UInt32
  retries : Nat
  deriving DecidableEq

def IpcpState.new : IpcpState := ⟨0,0,none,none,0⟩

def IpcpState.done (s : IpcpState) : Bool := s.ourIp.isSome && s.peerIp.isSome

structure Ipv6cpState where
  reqId : UInt8
  ourId : Bytes
  ourConfirmedId : Option Bytes
  peerId : Option Bytes
  rejected : Bool
  retries : Nat
  deriving DecidableEq

def Ipv6cpState.new (mac : Vector UInt8 6) : Ipv6cpState :=
  ⟨0,[mac[0], mac[1], mac[2], 0xff, 0xfe, mac[3], mac[4], mac[5]],none,none,false,0⟩

def Ipv6cpState.done (s : Ipv6cpState) : Bool :=
  s.rejected || (s.ourConfirmedId.isSome && s.peerId.isSome)

structure NegotiationResult where
  clientIp : UInt32
  serverIp : UInt32
  ipv6cpClientId : Option Bytes
  ipv6cpServerId : Option Bytes
  echoReqId : UInt8
  deriving DecidableEq

structure Negotiation where
  auth : Option Authenticator
  authDone : Bool
  authRetries : Nat
  ipcp : IpcpState
  ipv6cp : Ipv6cpState
  echoReqId : UInt8
  echoFailures : Nat
  reports : List (PointToPoint × AuthResult)

def maxAuthRetries : Nat := 3
def maxNcpRetries : Nat := 5
def maxEchoFailures : Nat := 5

def parsePppPacket (raw : Bytes) (lcp : LcpPhaseResult) : Read (Option PointToPoint) :=
  if raw.length < 16 then return none
  else do
    if (← be16At raw 12) ≠ ethPPpoes then return none
    else
      match ← PPPoEFrame.new (← slice raw 14 raw.length) with
      | none => return none
      | some frame =>
        if frame.sid ≠ lcp.sessionId then return none
        else if frame.isTerminate then return none
        else PointToPoint.new frame.payload

section
variable (amb : Ambient) (cfg : Config) (lcp : LcpPhaseResult)

def sendSession (payload : Bytes) : Read Bytes :=
  sendPppoeSessionFrame cfg lcp.serverMac lcp.sessionId payload

def sendIpcpRequestRaw (s : IpcpState) : Read Bytes :=
  sendSession cfg lcp (PointToPoint.getIpcpRequestOnlyClientIp s.reqId
    s.requestingIp).convertToPayload

def sendIpv6cpRequestRaw (s : Ipv6cpState) : Read Bytes :=
  sendSession cfg lcp (PointToPoint.getIpv6cpRequest s.ourId s.reqId).convertToPayload

def sendEchoRequest (echoId : UInt8) : Read Bytes :=
  sendSession cfg lcp (PointToPoint.genEchoRequestWithMagic echoId lcp.magicNumber)

def isAddress (op : PPPOption) : Bool := op.t = 3 ∧ op.data.length ≥ 4

def lastAddress (ops : List PPPOption) : Read (Option UInt32) :=
  ops.foldlM (fun acc op => if isAddress op then do return some (← be32At op.data 0)
    else return acc) none

abbrev NcpReaction (σ : Type) := σ × List Bytes × Option PppoeError

def handleIpcpPacket (ppp : PointToPoint) (s : IpcpState) : Read (NcpReaction IpcpState) := do
  if ppp.isAck then
    let address ← lastAddress (← PPPOption.fromBytes ppp.payload)
    return ({ s with ourIp := address.or s.ourIp }, [], none)
  else if ppp.isNak then
    let suggested ← lastAddress (← PPPOption.fromBytes ppp.payload)
    let asking := { s with reqId := s.reqId + 1, requestingIp := suggested.getD s.requestingIp }
    return (asking, [← sendIpcpRequestRaw cfg lcp asking], none)
  else if ppp.isRequest then
    let ops ← PPPOption.fromBytes ppp.payload
    let announced := { s with peerIp := (← lastAddress ops).or s.peerIp }
    let rejectOptions := (ops.filter fun op => !isAddress op).flatMap (·.convertToPayload)
    if ¬rejectOptions.isEmpty then
      return (announced, [← sendSession cfg lcp (ppp.genReject rejectOptions)], none)
    else if announced.peerIp.isSome then
      return (announced, [← sendSession cfg lcp ppp.genAck], none)
    else return (announced, [], none)
  else if ppp.isReject then return (s, [], some .ipRequiredButRejected)
  else return (s, [], none)

def isInterfaceId (op : PPPOption) : Bool := op.t = 1

def lastInterfaceId (ops : List PPPOption) : Option Bytes :=
  ((ops.filter isInterfaceId).getLast?).map (·.data)

def handleIpv6cpPacket (ppp : PointToPoint) (s : Ipv6cpState) : Read (NcpReaction Ipv6cpState) := do
  if ppp.isAck then
    let confirmed := lastInterfaceId (← PPPOption.fromBytes ppp.payload)
    return ({ s with ourConfirmedId := confirmed.or s.ourConfirmedId }, [], none)
  else if ppp.isNak then
    let suggested := lastInterfaceId (← PPPOption.fromBytes ppp.payload)
    let asking := { s with reqId := s.reqId + 1, ourId := suggested.getD s.ourId }
    return (asking, [← sendIpv6cpRequestRaw cfg lcp asking], none)
  else if ppp.isRequest then
    let ops ← PPPOption.fromBytes ppp.payload
    let announced := { s with peerId := (lastInterfaceId ops).or s.peerId }
    let rejectOptions := (ops.filter fun op => !isInterfaceId op).flatMap (·.convertToPayload)
    if ¬rejectOptions.isEmpty then
      return (announced, [← sendSession cfg lcp (ppp.genReject rejectOptions)], none)
    else if announced.peerId.isSome then
      return (announced, [← sendSession cfg lcp ppp.genAck], none)
    else return (announced, [], none)
  else if ppp.isReject then return ({ s with rejected := true }, [], none)
  else return (s, [], none)

abbrev Step := Reaction Negotiation Bytes NegotiationResult PppoeError

variable (ppp : PointToPoint) (s : Negotiation)

def buildResult : NegotiationResult :=
  ⟨s.ipcp.ourIp.getD 0,s.ipcp.peerIp.getD 0,s.ipv6cp.ourConfirmedId,s.ipv6cp.peerId,s.echoReqId⟩

def Negotiation.conclude (sent : List Bytes) : Step :=
  ⟨s,sent,if s.ipcp.done ∧ s.ipv6cp.done then .finish (buildResult s) else .goOn⟩

def onAuth : Read Step := do
  match s.auth with
  | none => return ⟨s,[],.goOn⟩
  | some authenticator =>
    let (next, result) ← authenticator.handleIncoming amb cfg ppp
    let response ← result.response.toList.mapM (sendSession cfg lcp)
    let reported := { s with reports := (ppp, result) :: s.reports }
    if result.failed then return ⟨{ reported with auth := none },response,.fail
      (.authFailed .refused)⟩
    else if result.done then
      let ipcp := { s.ipcp with reqId := s.ipcp.reqId + 1 }
      let ipv6cp := { s.ipv6cp with reqId := s.ipv6cp.reqId + 1 }
      let requests := [← sendIpcpRequestRaw cfg lcp ipcp, ← sendIpv6cpRequestRaw cfg lcp ipv6cp]
      return ⟨{ reported with authDone := true, auth := none, ipcp := ipcp, ipv6cp := ipv6cp },
        response ++ requests,.goOn⟩
    else return ⟨{ reported with auth := some next },response,.goOn⟩

def onIpcp : Read Step := do
  match ← handleIpcpPacket cfg lcp ppp s.ipcp with
  | (ipcp, sent, some e) => return ⟨{ s with ipcp := ipcp },sent,.fail e⟩
  | (ipcp, sent, none) => return { s with ipcp := ipcp }.conclude sent

def onIpv6cp : Read Step := do
  match ← handleIpv6cpPacket cfg lcp ppp s.ipv6cp with
  | (ipv6cp, sent, some e) => return ⟨{ s with ipv6cp := ipv6cp },sent,.fail e⟩
  | (ipv6cp, sent, none) => return { s with ipv6cp := ipv6cp }.conclude sent

def onProtoReject : Read Step := do
  let proto ← be16At ppp.payload 0
  if proto = 0x8021 then return ⟨s,[],.fail .ipRequiredButRejected⟩
  else if proto = 0x8057 then
    return { s with ipv6cp := { s.ipv6cp with rejected := true } }.conclude []
  else if proto = 0xc023 then return ⟨s,[],.fail (.authFailed .papRejected)⟩
  else return ⟨s,[],.goOn⟩

def onLcpControl : Read Step := do
  if ppp.isEchoRequest then
    return ⟨{ s with echoFailures := 0 },[← sendSession cfg lcp
      (ppp.genReplyWithMagic lcp.magicNumber)],.goOn⟩
  else if ppp.isEchoReply then
    return ⟨{ s with echoFailures := 0, echoReqId := s.echoReqId + 1 },[],.goOn⟩
  else if ppp.isTermination then
    return ⟨s,[← sendSession cfg lcp ppp.getTerminationAck],.fail .peerTerminated⟩
  else if ppp.isTerminationAck then return ⟨s,[],.fail .peerTerminated⟩
  else if ppp.isProtoReject ∧ ppp.payload.length ≥ 2 then onProtoReject ppp s
  else return ⟨s,[],.goOn⟩

def onPacket : Read Step :=
  if ppp.isPapAuth || ppp.isChap then onAuth amb cfg lcp ppp s
  else if ppp.isIpcp then onIpcp cfg lcp ppp s
  else if ppp.isIpv6cp then onIpv6cp cfg lcp ppp s
  else if ppp.isLcpConfig then onLcpControl cfg lcp ppp s
  else return ⟨s,[],.goOn⟩

def onFrame (raw : Bytes) (s : Negotiation) : Read Step := do
  match ← parsePppPacket raw lcp with
  | none => return ⟨s,[],.goOn⟩
  | some ppp => onPacket amb cfg lcp ppp s

def retryAuth : Read Step := do
  let again := { s with authRetries := s.authRetries + 1 }
  if again.authRetries > maxAuthRetries then return ⟨again,[],.fail (.authFailed .timeout)⟩
  else if lcp.authType = 0xc023 then
    return ⟨again,← (s.auth.bind (·.outgoingPacket cfg)).toList.mapM (sendSession cfg lcp),.goOn⟩
  else return ⟨again,[],.goOn⟩

def retryIpv6cp (sent : List Bytes) : Read Step := do
  if s.ipv6cp.done then return ⟨s,sent,.goOn⟩
  else
    let retries := s.ipv6cp.retries + 1
    if retries > maxNcpRetries then
      return { s with ipv6cp := { s.ipv6cp with retries := retries, rejected := true } }.conclude
        sent
    else
      let ipv6cp := { s.ipv6cp with retries := retries, reqId := s.ipv6cp.reqId + 1 }
      return ⟨{ s with ipv6cp := ipv6cp },sent ++ [← sendIpv6cpRequestRaw cfg lcp ipv6cp],.goOn⟩

def retryNcp : Read Step := do
  if s.ipcp.done then retryIpv6cp cfg lcp s []
  else
    let retries := s.ipcp.retries + 1
    if retries > maxNcpRetries then
      return ⟨{ s with ipcp := { s.ipcp with retries := retries } },[],.fail .lcpTimeout⟩
    else
      let ipcp := { s.ipcp with retries := retries, reqId := s.ipcp.reqId + 1 }
      retryIpv6cp cfg lcp { s with ipcp := ipcp } [← sendIpcpRequestRaw cfg lcp ipcp]

def onEcho : Read Step := do
  let sent := [← sendEchoRequest cfg lcp s.echoReqId]
  let failures := s.echoFailures + 1
  if failures > maxEchoFailures then
    return ⟨{ s with echoFailures := failures },sent,.fail (.echoFailed failures)⟩
  else return ⟨{ s with echoFailures := failures },sent,.goOn⟩

inductive NegotiationEvent where
  | received (raw : Bytes)
  | timeout
  | echo
  | stopped
  | closed

def onNegotiation : Handler Negotiation NegotiationEvent Bytes NegotiationResult PppoeError
  | s, .received raw => onFrame amb cfg lcp raw s
  | s, .timeout => if s.authDone then retryNcp cfg lcp s else retryAuth cfg lcp s
  | s, .echo => onEcho cfg lcp s
  | s, .stopped => return ⟨s,[],.fail .serviceStopped⟩
  | s, .closed => return ⟨s,[],.fail .channelClosed⟩

def Negotiation.initial (auth : Option Authenticator) : Negotiation :=
  ⟨auth,false,0,.new,.new cfg.ifaceMac,1,1,[]⟩

def firstStep : Read Step := do
  match Authenticator.ofType lcp.authType with
  | none => return ⟨.initial cfg none,[],.fail (.unsupportedAuthType lcp.authType)⟩
  | some authenticator =>
    let pap ← (authenticator.outgoingPacket cfg).toList.mapM (sendSession cfg lcp)
    return ⟨.initial cfg (some authenticator),pap ++ [← sendEchoRequest cfg lcp 0],.goOn⟩

abbrev NegotiationRun := Progress Negotiation NegotiationEvent Bytes NegotiationResult PppoeError

def negotiationStart : NegotiationRun := begin (.initial cfg none) (firstStep cfg lcp)

end

end Landscape.Pppoe
