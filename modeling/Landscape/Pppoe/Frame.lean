import Landscape.Lib.Checks
import Landscape.Lib.Slice

/-! The formats of PPPoE discovery and PPP control packets. -/
namespace Landscape.Pppoe
open Slice Checks

abbrev Bytes := List UInt8

def fromBeBytes16 (a b : UInt8) : UInt16 := a.toUInt16 <<< 8 ||| b.toUInt16

def fromBeBytes32 (a b c d : UInt8) : UInt32 :=
  a.toUInt32 <<< 24 ||| b.toUInt32 <<< 16 ||| c.toUInt32 <<< 8 ||| d.toUInt32

def toBeBytes16 (x : UInt16) : Bytes := [(x >>> 8).toUInt8, x.toUInt8]

def toBeBytes32 (x : UInt32) : Bytes :=
  [(x >>> 24).toUInt8, (x >>> 16).toUInt8, (x >>> 8).toUInt8, x.toUInt8]

def be16At (data : Bytes) (i : Nat) : Read UInt16 := do
  return fromBeBytes16 (← index data i) (← index data (i + 1))

def be32At (data : Bytes) (i : Nat) : Read UInt32 := do
  return fromBeBytes32 (← index data i) (← index data (i + 1)) (← index data (i + 2))
    (← index data (i + 3))

variable {data : Bytes} {i : Nat}

theorem safe_be16At (h : i + 1 < data.length) : Safe (be16At data i) :=
  (safe_index (Nat.lt_of_succ_lt h)).bind fun _ _ => (safe_index h).thenOk

theorem safe_be32At (h : i + 3 < data.length) : Safe (be32At data i) :=
  (safe_index (by omega)).bind fun _ _ => (safe_index (by omega)).bind fun _ _ =>
    (safe_index (by omega)).bind fun _ _ => (safe_index h).thenOk

structure PointToPoint where
  protocol : UInt16
  code : UInt8
  id : UInt8
  length : UInt16
  payload : Bytes
  deriving DecidableEq

variable (id : UInt8) (magicNumber : UInt32)

namespace PointToPoint

def new (data : Bytes) : Read (Option PointToPoint) :=
  if data.length < 6 then return none
  else do
    let protocol ← be16At data 0
    let code ← index data 2
    let id ← index data 3
    let length ← be16At data 4
    if length < 4 then return none
    else
      let dataEnd := length.toNat + 2
      if dataEnd > data.length then return none
      else return some ⟨protocol,code,id,length,← slice data 6 dataEnd⟩

section
variable (p : PointToPoint)

def isLcpConfig : Bool := p.protocol = 0xc021
def isPapAuth : Bool := p.protocol = 0xc023
def isIpcp : Bool := p.protocol = 0x8021
def isIpv6cp : Bool := p.protocol = 0x8057
def isChap : Bool := p.protocol = 0xc223
def isRequest : Bool := p.code = 1
def isAck : Bool := p.code = 2
def isNak : Bool := p.code = 3
def isReject : Bool := p.code = 4
def isTermination : Bool := p.code = 5
def isTerminationAck : Bool := p.code = 6
def isProtoReject : Bool := p.code = 8
def isEchoRequest : Bool := p.code = 9
def isEchoReply : Bool := p.code = 10
def isChallenge : Bool := p.code = 1
def isChapSuccess : Bool := p.code = 3
def isChapFailure : Bool := p.code = 4

def convertToPayload : Bytes :=
  toBeBytes16 p.protocol ++ [p.code, p.id] ++ toBeBytes16 p.length ++ p.payload

def genReject (rejectOption : Bytes) : Bytes :=
  toBeBytes16 p.protocol ++ [4, p.id] ++ toBeBytes16 (rejectOption.length.toUInt16 + 4) ++
    rejectOption

def genAck : Bytes := toBeBytes16 p.protocol ++ [2, p.id] ++ toBeBytes16 p.length ++ p.payload

def genReplyWithMagic (magicNumber : UInt32) : Bytes :=
  toBeBytes16 p.protocol ++ [10, p.id] ++ toBeBytes16 8 ++ toBeBytes32 magicNumber

def getTerminationAck : Bytes :=
  toBeBytes16 p.protocol ++ [6, p.id] ++ toBeBytes16 p.length ++ p.payload

end

def requestMru (requestId : UInt8) (mru : UInt16) (magicNumber : UInt32) : Bytes :=
  [0xc0, 0x21, 1, requestId] ++ toBeBytes16 14 ++ [1, 4] ++ toBeBytes16 mru ++ [5, 6] ++
    toBeBytes32 magicNumber

def genEchoRequestWithMagic : Bytes :=
  [0xc0, 0x21, 9, id] ++ toBeBytes16 8 ++ toBeBytes32 magicNumber

def genPap (peerId password : Bytes) : PointToPoint :=
  let payload := peerId.length.toUInt8 :: peerId ++ password.length.toUInt8 :: password
  ⟨0xc023,1,1,payload.length.toUInt16 + 4,payload⟩

def genChapResponse (md5 : Bytes → Bytes) (id : UInt8) (peerId password challenge : Bytes) :
    Bytes :=
  let payload := 16 :: md5 (id :: password ++ challenge) ++ peerId
  [0xc2, 0x23, 2, id] ++ toBeBytes16 (payload.length + 4).toUInt16 ++ payload

def getIpcpRequestOnlyClientIp (ip : UInt32) : PointToPoint :=
  ⟨0x8021,1,id,10,[3, 6] ++ toBeBytes32 ip⟩

def getIpv6cpRequest (ipv6InterfaceId : Bytes) (id : UInt8) : PointToPoint :=
  let options := [1, 0x0a] ++ ipv6InterfaceId
  ⟨0x8057,1,id,options.length.toUInt16 + 4,options⟩

end PointToPoint

theorem safe_pointToPoint : Safe (PointToPoint.new data) := by
  refine safe_guard fun hlen => ?_
  refine (safe_be16At (by omega)).bind fun protocol _ => (safe_index (by omega)).bind fun code _ =>
    (safe_index (by omega)).bind fun id _ => (safe_be16At (by omega)).bind fun length _ => ?_
  refine safe_guard fun hshort => safe_guard fun hend => ?_
  -- A length field of four at least lets the payload start at its place.
  have hfour : 4 ≤ length.toNat := UInt16.le_iff_toNat_le.mp (UInt16.not_lt.mp hshort)
  exact (safe_slice (by omega)).thenOk

structure PPPOption where
  t : UInt8
  length : UInt8
  data : Bytes
  deriving DecidableEq

variable (tagType : UInt16) (op : PPPOption)

namespace PPPOption

def readAt (data : Bytes) (i : Nat) : Read (Option (PPPOption × Option Nat)) :=
  if i + 2 > data.length then return none
  else do
    let t ← index data i
    if t = 0 then return none
    else
      let length ← index data (i + 1)
      if length < 2 then return none
      else
        let dataEnd := i + length.toNat
        if dataEnd > data.length then return none
        else return some (⟨t,length,← slice data (i + 2) dataEnd⟩, some dataEnd)

def fromBytes (data : Bytes) : Read (List PPPOption) := scan (readAt data) data.length 0

def isMru : Bool := op.t = 0x01
def isAuthType : Bool := op.t = 0x03
def isMagicNumber : Bool := op.t = 0x05

def convertToPayload : Bytes := [op.t, op.length] ++ op.data

theorem safe_readAt (data : Bytes) (i : Nat) : Safe (readAt data i) := by
  refine safe_guard fun hlen => (safe_index (by omega)).bind fun t _ => ?_
  refine safe_guard fun _ => (safe_index (by omega)).bind fun length _ => ?_
  refine safe_guard fun hshort => safe_guard fun hend => ?_
  have htwo : 2 ≤ length.toNat := UInt8.le_iff_toNat_le.mp (UInt8.not_lt.mp hshort)
  exact (safe_slice (by omega)).thenOk

theorem safe_fromBytes (data : Bytes) : Safe (fromBytes data) := safe_scan (safe_readAt data) _ _

theorem readAt_of_end (h : data.length ≤ i) : readAt data i = .ok none :=
  if_pos (by omega)

theorem lt_of_readAt {next : Nat} {op : PPPOption}
    (h : readAt data i = .ok (some (op, some next))) : i < next := by
  unfold readAt at h
  split at h
  · cases h
  obtain ⟨t,-,h⟩ := bind_eq_ok.mp h
  split at h
  · cases h
  obtain ⟨length,-,h⟩ := bind_eq_ok.mp h
  split at h
  · cases h
  rename_i hshort
  dsimp only at h
  split at h
  · cases h
  · obtain ⟨payload,-,h⟩ := bind_eq_ok.mp h
    cases h
    have htwo : 2 ≤ length.toNat := UInt8.le_iff_toNat_le.mp (UInt8.not_lt.mp hshort)
    omega

theorem forward_readAt (data : Bytes) : Forward (readAt data) data.length :=
  ⟨fun _ => readAt_of_end,fun _ _ _ => lt_of_readAt⟩

end PPPOption

structure PPPoEFrame where
  ver : UInt8
  t : UInt8
  code : UInt8
  sid : UInt16
  length : UInt16
  payload : Bytes
  deriving DecidableEq

variable (f : PPPoEFrame)

namespace PPPoEFrame

def new (data : Bytes) : Read (Option PPPoEFrame) :=
  if data.length < 6 then return none
  else do
    let first ← index data 0
    let sid ← be16At data 2
    let length ← be16At data 4
    return some ⟨first >>> 4,first &&& 0x0f,← index data 1,sid,length,← slice data 6 data.length⟩

def isOffer : Bool := f.code = 0x07
def isTerminate : Bool := f.code = 0xa7
def isConfirm : Bool := f.code = 0x65

def convertToPayload : Bytes :=
  [f.ver <<< 4 ||| (f.t &&& 0x0f), f.code] ++ toBeBytes16 f.sid ++
    toBeBytes16 f.payload.length.toUInt16 ++ f.payload

theorem safe_new : Safe (new data) := by
  refine safe_guard fun hlen => ?_
  exact (safe_index (by omega)).bind fun _ _ => (safe_be16At (by omega)).bind fun _ _ =>
    (safe_be16At (by omega)).bind fun _ _ => (safe_index (by omega)).bind fun _ _ =>
      (safe_slice (by omega)).thenOk

end PPPoEFrame

inductive PPPoETag where
  | endOfList
  | serviceName (name : Bytes)
  | acName (name : Bytes)
  | hostUniq (id : UInt32)
  | acCookie (cookie : Bytes)
  | vendorSpecific (data : Bytes)
  | credits (credits : UInt32)
  | metrics (data : Bytes)
  | sequenceNumber (number : UInt32)
  | creditScaleFactor (factor : UInt32)
  | relaySessionId (data : Bytes)
  | hurl (data : Bytes)
  | motm (data : Bytes)
  | pppMaxPayload (payload : UInt32)
  | ipRouteAdd (data : Bytes)
  | serviceNameError (data : Bytes)
  | acSystemError (data : Bytes)
  | genericError (data : Bytes)
  | other (tagType : UInt16) (data : Bytes)
  deriving DecidableEq

namespace PPPoETag

def decodeU32 (data : Bytes) : Read (Option UInt32) :=
  if data.length ≠ 4 then return none else do return some (← be32At data 0)

def ofU32 (tag : UInt32 → PPPoETag) (data : Bytes) : Read PPPoETag := do
  match ← decodeU32 data with
  | some value => return tag value
  | none => return .other tagType data

def decode (data : Bytes) : Read (PPPoETag × Bool) := do
  match tagType.toNat with
  | 0x0000 => return (.endOfList, true)
  | 0x0101 => return (.serviceName data, true)
  | 0x0102 => return (.acName data, true)
  | 0x0103 => return (← ofU32 tagType .hostUniq data, true)
  | 0x0104 => return (.acCookie data, true)
  | 0x0105 => return (.vendorSpecific data, true)
  | 0x0106 => return (← ofU32 tagType .credits data, true)
  | 0x0107 => return (.metrics data, true)
  | 0x0108 => return (← ofU32 tagType .sequenceNumber data, true)
  | 0x0109 => return (← ofU32 tagType .creditScaleFactor data, true)
  | 0x0110 => return (.relaySessionId data, true)
  | 0x0111 => return (.hurl data, true)
  | 0x0112 => return (.motm data, true)
  | 0x0120 => return (← ofU32 tagType .pppMaxPayload data, true)
  | 0x0121 => return (.ipRouteAdd data, true)
  | 0x0201 => return (.serviceNameError data, true)
  | 0x0202 => return (.acSystemError data, true)
  | 0x0203 => return (.genericError data, true)
  | _ => return (.other tagType data, false)

def dataAt (data : Bytes) (i : Nat) (tagLen : UInt16) : Read Bytes :=
  if tagLen = 0 then return [] else slice data (i + 4) (4 + i + tagLen.toNat)

def readAt (data : Bytes) (i : Nat) : Read (Option (PPPoETag × Option Nat)) :=
  if 4 + i > data.length then return none
  else do
    let tagType ← be16At data i
    let tagLen ← be16At data (i + 2)
    let next := 4 + i + tagLen.toNat
    if next > data.length then return none
    else
      let tagData ← dataAt data i tagLen
      let (tag, known) ← decode tagType tagData
      return some (tag, if known then some next else none)

def fromBytes (data : Bytes) : Read (List PPPoETag) := scan (readAt data) data.length 0

def encode (data : Bytes) : Bytes :=
  toBeBytes16 tagType ++ toBeBytes16 data.length.toUInt16 ++ data

def encodeHostUniq (id : UInt32) : Bytes := encode 0x0103 (toBeBytes32 id)
def encodeAcCookie (cookie : Bytes) : Bytes := encode 0x0104 cookie

theorem safe_ofU32 (tag : UInt32 → PPPoETag) : Safe (ofU32 tagType tag data) := by
  have hdecode : Safe (decodeU32 data) :=
    safe_guard fun hlen => (safe_be32At (by omega)).thenOk
  refine hdecode.bind fun value _ => ?_
  cases value <;> exact safe_ok _

theorem safe_decode : Safe (decode tagType data) := by
  unfold decode
  split
  all_goals first
    | exact safe_ok _
    | exact (safe_ofU32 _ _).thenOk

theorem safe_readAt (data : Bytes) (i : Nat) : Safe (readAt data i) := by
  refine safe_guard fun hlen => (safe_be16At (by omega)).bind fun tagType _ =>
    (safe_be16At (by omega)).bind fun tagLen _ => safe_guard fun hend => ?_
  have hdata : Safe (dataAt data i tagLen) :=
    safe_guard fun _ => safe_slice (by omega)
  exact hdata.bind fun tagData _ => (safe_decode tagType).thenOk

theorem safe_fromBytes (data : Bytes) : Safe (fromBytes data) := safe_scan (safe_readAt data) _ _

theorem readAt_of_end (h : data.length ≤ i) : readAt data i = .ok none :=
  if_pos (by omega)

theorem lt_of_readAt {next : Nat} {tag : PPPoETag}
    (h : readAt data i = .ok (some (tag, some next))) : i < next := by
  unfold readAt at h
  split at h
  · cases h
  obtain ⟨tagType,-,h⟩ := bind_eq_ok.mp h
  obtain ⟨tagLen,-,h⟩ := bind_eq_ok.mp h
  dsimp only at h
  split at h
  · cases h
  obtain ⟨tagData,-,h⟩ := bind_eq_ok.mp h
  obtain ⟨⟨tag',known⟩,-,h⟩ := bind_eq_ok.mp h
  cases known with
  | false => cases h
  | true =>
    cases h
    omega

theorem forward_readAt (data : Bytes) : Forward (readAt data) data.length :=
  ⟨fun _ => readAt_of_end,fun _ _ _ => lt_of_readAt⟩

end PPPoETag

/-- The loops over the options and over the tags end by themselves: more rounds do not read more. -/
theorem fromBytes_complete (data : Bytes) (more : Nat) :
    scan (PPPOption.readAt data) (data.length + more) 0 = PPPOption.fromBytes data ∧
      scan (PPPoETag.readAt data) (data.length + more) 0 = PPPoETag.fromBytes data :=
  ⟨(PPPOption.forward_readAt data).scan_add (Nat.le_refl _) more,
    (PPPoETag.forward_readAt data).scan_add (Nat.le_refl _) more⟩

namespace PPPoEFrame

/- The frames of discovery start from a literal, whose payload is a service name of no length. -/
def emptyServiceName : Bytes := [1, 1, 0, 0]

def getDiscoverWithHostUniq (hostUniq : UInt32) : PPPoEFrame :=
  ⟨1,1,9,0,4,emptyServiceName ++ PPPoETag.encodeHostUniq hostUniq⟩

def getRequest (hostUniqId : UInt32) (acCookie : Option Bytes) : PPPoEFrame :=
  let payload := emptyServiceName ++
    if hostUniqId ≠ 0 then PPPoETag.encodeHostUniq hostUniqId ++
      acCookie.elim [] PPPoETag.encodeAcCookie else []
  ⟨1,1,25,0,payload.length.toUInt16,payload⟩

def getPppMruConfigRequest (sid : UInt16) (requestId : UInt8) (mru : UInt16)
    (magicNumber : UInt32) : PPPoEFrame :=
  let data := PointToPoint.requestMru requestId mru magicNumber
  ⟨1,1,0,sid,data.length.toUInt16,data⟩

end PPPoEFrame

end Landscape.Pppoe
