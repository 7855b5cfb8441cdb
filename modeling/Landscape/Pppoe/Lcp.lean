import Landscape.Lib.Phase
import Landscape.Pppoe.Frame

/-! The first phase of the PPPoE client: discovery of a server, a session, and the agreement on
LCP. -/
namespace Landscape.Pppoe
open Slice Phase

structure Config where
  ifaceMac : Vector UInt8 6
  peerId : Bytes
  password : Bytes
  requestedMru : UInt16
  acName : Option String

structure Ambient where
  hostUniq : UInt32
  magicNumber : UInt32
  fromUtf8Lossy : Bytes → String
  md5 : Bytes → Bytes

inductive AuthFailure where
  | refused
  | papRejected
  | timeout
  deriving DecidableEq

inductive PppoeError where
  | authFailed (reason : AuthFailure)
  | lcpConfigRejected
  | ipRequiredButRejected
  | unsupportedAuthType (authType : UInt16)
  | discoveryTimeout
  | lcpTimeout
  | echoFailed (failures : Nat)
  | peerTerminated
  | channelClosed
  | serviceStopped
  deriving DecidableEq

def ethPPpoed : UInt16 := 0x8863
def ethPPpoes : UInt16 := 0x8864
def maxDiscoveryRetries : Nat := 5
def maxLcpRetries : Nat := 5

def l2Header (dst : Bytes) (srcMac : Vector UInt8 6) (ethertype : UInt16) : Bytes :=
  dst ++ srcMac.toList ++ toBeBytes16 ethertype

def buildL2Header (dst : Bytes) (srcMac : Vector UInt8 6) (ethertype : UInt16) : Read Bytes :=
  if dst.length = 6 then return l2Header dst srcMac ethertype else .error .outOfBounds

variable (ethertype : UInt16) (amb : Ambient) (cfg : Config) (hostUniq : UInt32)
  (raw serverMac : Bytes) (sid : UInt16) (payload : Bytes)

def sessionFrame : Bytes :=
  l2Header serverMac cfg.ifaceMac ethPPpoes ++
    PPPoEFrame.convertToPayload ⟨1,1,0,sid,payload.length.toUInt16,payload⟩

def sendPppoeSessionFrame : Read Bytes := do
  let l2 ← buildL2Header serverMac cfg.ifaceMac ethPPpoes
  return l2 ++ PPPoEFrame.convertToPayload ⟨1,1,0,sid,payload.length.toUInt16,payload⟩

def broadcast : Bytes := [0xff, 0xff, 0xff, 0xff, 0xff, 0xff]

def sendPadi : Bytes :=
  l2Header broadcast cfg.ifaceMac ethPPpoed ++
    (PPPoEFrame.getDiscoverWithHostUniq hostUniq).convertToPayload

def sendPadr (acCookie : Option Bytes) : Read Bytes := do
  let l2 ← buildL2Header serverMac cfg.ifaceMac ethPPpoed
  return l2 ++ (PPPoEFrame.getRequest hostUniq acCookie).convertToPayload

def sendLcpConfigRequest (reqId : UInt8) (mru : UInt16) (magic : UInt32)
    (serverMac : Bytes) : Read Bytes := do
  let l2 ← buildL2Header serverMac cfg.ifaceMac ethPPpoes
  return l2 ++ (PPPoEFrame.getPppMruConfigRequest sid reqId mru magic).convertToPayload

structure Negotiating where
  serverMac : Bytes
  sessionId : UInt16
  ourMru : UInt16
  ourMagic : UInt32
  cfgReqId : UInt8
  ourConfigAcked : Bool
  peerMru : UInt16
  peerMagic : UInt32
  authType : UInt16
  peerConfigReceived : Bool
  deriving DecidableEq

inductive Phase1State where
  | discovering
  | requestSession (serverMac : Bytes) (acCookie : Option Bytes)
  | lcpNegotiating (n : Negotiating)
  deriving DecidableEq

structure LcpPhaseResult where
  sessionId : UInt16
  serverMac : Bytes
  mru : UInt16
  magicNumber : UInt32
  authType : UInt16
  peerMru : UInt16
  peerMagic : UInt32
  deriving DecidableEq

def extractL2 (data : Bytes) : Read (Option (Bytes × Bytes)) :=
  if data.length < 14 then return none
  else do return some (← slice data 6 12, ← slice data 12 data.length)

def pppoeFrame : Read (Option (Bytes × PPPoEFrame)) := do
  match ← extractL2 raw with
  | none => return none
  | some (srcMac, ethPayload) =>
    if ethPayload.length < 4 then return none
    else if (← be16At ethPayload 0) ≠ ethertype then return none
    else return (← PPPoEFrame.new (← slice ethPayload 2 ethPayload.length)).map (srcMac, ·)

structure Offer where
  acCookie : Option Bytes
  acName : Option Bytes
  matched : Bool

def offerOf (tags : List PPPoETag) : Offer :=
  tags.foldl (fun offer tag =>
    match tag with
    | .hostUniq id => { offer with matched := id = hostUniq }
    | .acCookie cookie => { offer with acCookie := some cookie }
    | .acName name => { offer with acName := some name }
    | _ => offer) ⟨none,none,hostUniq = 0⟩

def acAllowed (acName : Option Bytes) : Bool :=
  match cfg.acName with
  | none => true
  | some allowed => allowed.isEmpty || acName.map amb.fromUtf8Lossy = some allowed

def handleDiscovery : Read (Option Phase1State) := do
  match ← pppoeFrame ethPPpoed raw with
  | none => return none
  | some (srcMac, frame) =>
    if ¬frame.isOffer then return none
    else
      let offer := offerOf amb.hostUniq (← PPPoETag.fromBytes frame.payload)
      if ¬offer.matched then return none
      else if ¬acAllowed amb cfg offer.acName then return none
      else return some (.requestSession srcMac offer.acCookie)

/- Of the tags only the last Host-Uniq counts here. -/
def handleSessionConfirm : Read (Option Phase1State) := do
  match ← pppoeFrame ethPPpoed raw with
  | none => return none
  | some (_, frame) =>
    if ¬frame.isConfirm then return none
    else
      let offer := offerOf amb.hostUniq (← PPPoETag.fromBytes frame.payload)
      if ¬offer.matched then return none
      else return some (.lcpNegotiating
        ⟨serverMac,frame.sid,cfg.requestedMru,0,0,false,0,0,0,false⟩)

structure LcpOptions where
  mru : Option UInt16
  magicNumber : Option UInt32
  authType : Option UInt16

def mruMagicOption (acc : LcpOptions) (op : PPPOption) : Read LcpOptions :=
  if op.isMru ∧ op.data.length ≥ 2 then do return { acc with mru := some (← be16At op.data 0) }
  else if op.isMagicNumber ∧ op.data.length ≥ 4 then
    do return { acc with magicNumber := some (← be32At op.data 0) }
  else return acc

def requestOption (acc : LcpOptions) (op : PPPOption) : Read LcpOptions :=
  if op.isMru ∧ op.data.length ≥ 2 then do return { acc with mru := some (← be16At op.data 0) }
  else if op.isMagicNumber ∧ op.data.length ≥ 4 then
    do return { acc with magicNumber := some (← be32At op.data 0) }
  else if op.isAuthType ∧ op.data.length ≥ 2 then
    do return { acc with authType := some (← be16At op.data 0) }
  else return acc

def parseLcpRequestOptions : Read LcpOptions := do
  (← PPPOption.fromBytes payload).foldlM requestOption ⟨none,none,none⟩

def parseLcpMruMagicOptions : Read LcpOptions := do
  (← PPPOption.fromBytes payload).foldlM mruMagicOption ⟨none,none,none⟩

def lcpPacket (sessionId : UInt16) (raw : Bytes) : Read (Option PointToPoint) := do
  match ← pppoeFrame ethPPpoes raw with
  | none => return none
  | some (_, frame) =>
    if frame.sid ≠ sessionId then return none
    else return (← PointToPoint.new frame.payload).filter (·.isLcpConfig)

variable (lcp : PointToPoint) (n : Negotiating)

def Negotiating.request : Read Bytes :=
  sendLcpConfigRequest cfg n.sessionId n.cfgReqId n.ourMru n.ourMagic n.serverMac

variable (mru : UInt16) (magic : UInt32)

def Negotiating.heard (authType : UInt16) : Negotiating :=
  { n with peerConfigReceived := true, authType := authType, peerMru := mru, peerMagic := magic }

def Negotiating.asking : Negotiating :=
  { n with cfgReqId := n.cfgReqId + 1, ourMru := mru, ourMagic := magic }

abbrev LcpReaction (σ : Type) := Reaction σ Bytes LcpPhaseResult PppoeError

/- The acknowledgment goes out first, then the client's own request. -/
def onLcpRequest : Read (LcpReaction Negotiating) := do
  match ← parseLcpRequestOptions lcp.payload with
  | ⟨some mru,some magic,some authType⟩ =>
    let heard := n.heard mru magic authType
    let ack ← sendPppoeSessionFrame cfg n.serverMac n.sessionId lcp.genAck
    if n.ourConfigAcked then return ⟨heard,[ack],.goOn⟩
    else
      let asking := heard.asking heard.ourMru amb.magicNumber
      return ⟨asking,[ack, ← asking.request cfg],.goOn⟩
  | _ => return ⟨n,[],.fail .lcpConfigRejected⟩

def onLcpAck : Read (LcpReaction Negotiating) := do
  let options ← parseLcpMruMagicOptions lcp.payload
  let acked := options.mru.isSome && options.magicNumber.isSome
  return ⟨{ n with ourConfigAcked := n.ourConfigAcked || acked },[],.goOn⟩

def onLcpNak : Read (LcpReaction Negotiating) := do
  match ← parseLcpMruMagicOptions lcp.payload with
  | ⟨some mru,some magic,_⟩ =>
    let asking := { n with ourConfigAcked := false }.asking (min mru n.ourMru) magic
    return ⟨asking,[← asking.request cfg],.goOn⟩
  | _ => return ⟨n,[],.goOn⟩

def onLcp : Read (LcpReaction Negotiating) :=
  if lcp.isRequest then onLcpRequest amb cfg lcp n
  else if lcp.isAck then onLcpAck lcp n
  else if lcp.isNak then onLcpNak cfg lcp n
  else if lcp.isReject then return ⟨n,[],.fail .lcpConfigRejected⟩
  else return ⟨n,[],.goOn⟩

def Negotiating.result : LcpPhaseResult :=
  ⟨n.sessionId,n.serverMac,n.ourMru,n.ourMagic,n.authType,n.peerMru,n.peerMagic⟩

def Negotiating.conclude (r : LcpReaction Negotiating) : LcpReaction Negotiating :=
  match r.next with
  | .goOn => if r.state.ourConfigAcked ∧
      r.state.peerConfigReceived then { r with next := .finish r.state.result } else r
  | _ => r

def handleLcpPacket : Read (LcpReaction Negotiating) := do
  match ← lcpPacket n.sessionId raw with
  | none => return ⟨n,[],.goOn⟩
  | some lcp => return Negotiating.conclude (← onLcp amb cfg lcp n)

inductive Event where
  | received (raw : Bytes)
  | timeout
  | stopped
  | closed
  deriving DecidableEq

structure Loop where
  state : Phase1State
  discoveryRetries : Nat
  lcpRetries : Nat

def onReceived (s : Loop) : Read (LcpReaction Loop) := do
  match s.state with
  | .discovering =>
    match ← handleDiscovery amb cfg raw with
    | some (.requestSession serverMac acCookie) =>
      let padr ← sendPadr cfg amb.hostUniq serverMac acCookie
      return ⟨{ s with state := .requestSession serverMac acCookie, discoveryRetries := 0 },
        [padr],.goOn⟩
    | some state => return ⟨{ s with state := state, discoveryRetries := 0 },[],.goOn⟩
    | none => return ⟨s,[],.goOn⟩
  | .requestSession serverMac _ =>
    match ← handleSessionConfirm amb cfg raw serverMac with
    | some state => return ⟨{ s with state := state, discoveryRetries := 0 },[],.goOn⟩
    | none => return ⟨s,[],.goOn⟩
  | .lcpNegotiating n =>
    let r ← handleLcpPacket amb cfg raw n
    return ⟨{ s with state := .lcpNegotiating r.state },r.sent,r.next⟩

def onTimeout (s : Loop) : Read (LcpReaction Loop) := do
  match s.state with
  | .discovering =>
    let again := { s with discoveryRetries := s.discoveryRetries + 1 }
    if again.discoveryRetries > maxDiscoveryRetries then return ⟨again,[],.fail .discoveryTimeout⟩
    else return ⟨again,[sendPadi cfg amb.hostUniq],.goOn⟩
  | .requestSession serverMac acCookie =>
    let again := { s with discoveryRetries := s.discoveryRetries + 1 }
    if again.discoveryRetries > maxDiscoveryRetries then return ⟨again,[],.fail .discoveryTimeout⟩
    else return ⟨again,[← sendPadr cfg amb.hostUniq serverMac acCookie],.goOn⟩
  | .lcpNegotiating n =>
    let again := { s with lcpRetries := s.lcpRetries + 1 }
    if again.lcpRetries > maxLcpRetries then return ⟨again,[],.fail .lcpTimeout⟩
    else if n.ourConfigAcked then return ⟨again,[],.goOn⟩
    else
      let asking := n.asking n.ourMru n.ourMagic
      return ⟨{ again with state := .lcpNegotiating asking },[← asking.request cfg],.goOn⟩

def onEvent : Handler Loop Event Bytes LcpPhaseResult PppoeError
  | s, .received raw => onReceived amb cfg raw s
  | s, .timeout => onTimeout amb cfg s
  | s, .stopped => return ⟨s,[],.fail .serviceStopped⟩
  | s, .closed => return ⟨s,[],.fail .channelClosed⟩

abbrev LcpRun := Progress Loop Event Bytes LcpPhaseResult PppoeError

def lcpStart : LcpRun :=
  ⟨⟨.discovering,0,0⟩,.running,[.sent (sendPadi cfg amb.hostUniq)]⟩

end Landscape.Pppoe
