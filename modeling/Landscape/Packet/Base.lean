import Landscape.Lib.Bytes

/-! What every program of the data plane shares: verdicts, packets, checked reads,
address classes and the fields of the packet mark. -/
namespace Landscape.Packet
open Bytes

/-- The results of a TC program. `F` says in what frame a packet is redirected; a program without it
redirects none. -/
inductive TcAct (F : Type := Empty) where
  | unspec
  | ok
  | shot
  | redirect (ifindex : UInt32) (framing : F)
  deriving DecidableEq

def TcAct.redirects {F : Type} : TcAct F → Bool
  | .redirect _ _ => true
  | _ => false

def ipprotoIcmp : UInt8 := 1
def ipprotoTcp : UInt8 := 6
def ipprotoUdp : UInt8 := 17
def ipprotoIcmpv6 : UInt8 := 58
def nexthdrIcmp : UInt8 := 58

inductive FragType where
  | single
  | first
  | middle
  | last
  deriving DecidableEq

def FragType.headless : FragType → Bool
  | .single | .first => false
  | .middle | .last => true

inductive PktType where
  | connless
  | tcpData
  | tcpSyn
  | tcpRst
  | tcpFin
  | tcpAck
  deriving DecidableEq

inductive IcmpMsg where
  | error
  | query
  | unspec
  deriving DecidableEq

structure Skb where
  data : Buf
  mark : UInt32
  ifindex : UInt32

def maxOffset : Nat := 20480

variable (original : UInt32) (b : Buf)

/-- `_validate_read`: the bytes are within the packet and within the reader's own limits.
Pulling non-linear data in does not change them. -/
def validateRead (offset len : Nat) : Bool :=
  offset ≤ maxOffset && len ≤ 256 && offset + len ≤ maxOffset && offset + len ≤ b.len

def storeBe32 (off : Nat) (v : UInt32) : Option Buf :=
  if off + 4 ≤ b.len then some (b.setBe32 off v) else none

def storeBe16 (off : Nat) (v : UInt16) : Option Buf :=
  if off + 2 ≤ b.len then some (b.setBe16 off v) else none

structure Inet4Pair where
  srcAddr : UInt32
  dstAddr : UInt32
  srcPort : UInt16
  dstPort : UInt16
  deriving DecidableEq

def isBroadcastIp4 (daddr : UInt32) : Bool :=
  daddr == 0xffffffff || daddr == 0 || daddr &&& 0xf0000000 == 0xe0000000

def isBroadcastIp4Pair (pair : Inet4Pair) : Bool :=
  isBroadcastIp4 pair.srcAddr || isBroadcastIp4 pair.dstAddr

def flowKeepGoing : UInt8 := 0
def flowDirect : UInt8 := 1
def flowDrop : UInt8 := 2
def flowRedirect : UInt8 := 3
def flowFromLan : UInt8 := 2

def flowSourceMask : UInt32 := 0xff000000
def flowActionMask : UInt32 := 0x00007f00
def flowAllowReusePortMask : UInt32 := 0x00008000
def flowIdMask : UInt32 := 0x000000ff

def replaceFlowId (newId : UInt8) : UInt32 :=
  (original &&& ~~~flowIdMask) ||| newId.toUInt32

def replaceFlowSource (newSource : UInt8) : UInt32 :=
  (original &&& ~~~flowSourceMask) ||| (newSource.toUInt32 <<< 24)

def getFlowId : UInt8 := (original &&& flowIdMask).toUInt8

def getFlowAction : UInt8 := ((original &&& flowActionMask) >>> 8).toUInt8

def getFlowAllowReusePort : Bool :=
  original &&& flowAllowReusePortMask != 0

def ingressStaticMark : UInt8 := 1

def replaceCacheMask (newMark : UInt8) : UInt32 :=
  (original &&& ~~~(0x000000ff : UInt32)) ||| newMark.toUInt32

variable {b : Buf} {len : Nat}

theorem validateRead_len {offset : Nat} (h : validateRead b offset len = true) :
    offset + len ≤ b.len := by
  simp only [validateRead, Bool.and_eq_true, decide_eq_true_eq] at h
  exact h.2

theorem validateRead_of_le {off : Nat} (h : off + len ≤ maxOffset) (hlen : len ≤ 256)
    (hb : off + len ≤ b.len) : validateRead b off len = true := by
  simp only [validateRead, Bool.and_eq_true, decide_eq_true_eq]
  omega

theorem validateRead_mono {off off' len' : Nat} (h : validateRead b off len = true)
    (hlo : off ≤ off') (hhi : off' + len' ≤ off + len) : validateRead b off' len' = true := by
  simp only [validateRead, Bool.and_eq_true, decide_eq_true_eq] at h ⊢
  omega

theorem validateRead_congr {b' : Buf} (h : b'.len = b.len) (offset : Nat) :
    validateRead b' offset len = validateRead b offset len := by
  simp [validateRead, h]

end Landscape.Packet
