import Landscape.Dhcp4.Server
import Landscape.Lib.Run

/-! The DHCPv4 client: its messages and its state machine. -/
namespace Landscape.Dhcp4.Client
open Route Dhcp4

inductive MessageType where
  | discover
  | offer
  | request
  | decline
  | ack
  | nak
  | release
  | inform
  | other (code : UInt8)
  deriving DecidableEq

inductive DhcpOption where
  | subnetMask (mask : Ipv4Addr)
  | hostname (name : String)
  | requestedIpAddress (ip : Ipv4Addr)
  | addressLeaseTime (secs : UInt32)
  | messageType (t : MessageType)
  | serverIdentifier (ip : Ipv4Addr)
  | parameterRequestList (codes : List UInt8)
  | renewal (secs : UInt32)
  | rebinding (secs : UInt32)
  | classIdentifier (bytes : List UInt8)
  | clientIdentifier (bytes : List UInt8)
  | other (code : UInt8) (bytes : List UInt8)
  deriving DecidableEq

def DhcpOption.code : DhcpOption → UInt8
  | .subnetMask _ => 1
  | .hostname _ => 12
  | .requestedIpAddress _ => 50
  | .addressLeaseTime _ => 51
  | .messageType _ => 53
  | .serverIdentifier _ => 54
  | .parameterRequestList _ => 55
  | .renewal _ => 58
  | .rebinding _ => 59
  | .classIdentifier _ => 60
  | .clientIdentifier _ => 61
  | .other code _ => code

abbrev DhcpV4Options := AList fun _ : UInt8 => DhcpOption

def insertOption (opts : DhcpV4Options) (o : DhcpOption) : DhcpV4Options := opts.insert o.code o

inductive OpCode where
  | bootRequest
  | bootReply
  | other (code : UInt8)
  deriving DecidableEq

structure DhcpV4Message where
  opcode : OpCode
  xid : UInt32
  broadcast : Bool
  ciaddr : Ipv4Addr
  yiaddr : Ipv4Addr
  siaddr : Ipv4Addr
  chaddr : MacAddr
  opts : DhcpV4Options

def DhcpV4Message.msgType (msg : DhcpV4Message) : Option MessageType :=
  match msg.opts.lookup 53 with
  | some (.messageType t) => some t
  | _ => none

def requestParams : List UInt8 := [1, 3, 6, 15, 26, 28, 12, 42, 51, 119]

variable (xid : UInt32) (mac : MacAddr)

def genDiscover (requestedIp : Option Ipv4Addr) (hostname : String)
    (useBroadcast : Bool) : DhcpV4Message where
  opcode := .bootRequest
  xid := xid
  broadcast := useBroadcast || requestedIp.isNone
  ciaddr := 0
  yiaddr := 0
  siaddr := 0
  chaddr := mac
  opts :=
    let opts := insertOption ∅ (.messageType .discover)
    let opts := match requestedIp with
      | some ip => insertOption opts (.requestedIpAddress ip)
      | none => opts
    insertOption (insertOption opts (.hostname hostname)) (.parameterRequestList requestParams)

def macOctets : List UInt8 :=
  (List.range 6).map fun i => .ofBitVec (mac.extractLsb' (8 * (5 - i)) 8)

def genRequest (ciaddr yiaddr : Ipv4Addr) (options : DhcpV4Options)
    (hostname : String) : DhcpV4Message where
  opcode := .bootRequest
  xid := xid
  broadcast := ciaddr == 0
  ciaddr := ciaddr
  yiaddr := 0
  siaddr := 0
  chaddr := mac
  opts :=
    let opts := insertOption options (.classIdentifier ("MSFT 5.0".toUTF8.toList))
    let opts := insertOption opts (.clientIdentifier (1 :: macOctets mac))
    let opts := insertOption opts (.messageType .request)
    let opts := insertOption opts (.hostname hostname)
    let opts := insertOption opts (.parameterRequestList requestParams)
    if ciaddr = 0 then insertOption opts (.requestedIpAddress yiaddr) else opts

/-! The state machine. Durations and points in time are in nanoseconds. -/

def secs (n : Nat) : Nat := n * 1000000000

def defaultTimeOut : Nat := 4
def maxConnectRetryBackoffSecs : Nat := 10 * 60
def discoverAttemptsPerRound : Nat := 4
def requestAttempts : Nat := 3

def calcConnectRetryBackoffSecs (failureCount : UInt32) : Nat :=
  min (defaultTimeOut * 2 ^ min (failureCount.toNat - 1) 31) maxConnectRetryBackoffSecs

def retryWait (attempts : Nat) (random : UInt8) : Nat :=
  secs (defaultTimeOut * 2 ^ min (attempts - 1) 4 - 1 + (random % 3).toNat)

structure OfferContext where
  yiaddr : Ipv4Addr
  siaddr : Ipv4Addr
  options : DhcpV4Options

structure LeaseContext where
  xid : UInt32
  ciaddr : Ipv4Addr
  yiaddr : Ipv4Addr
  siaddr : Ipv4Addr
  options : DhcpV4Options
  renewAt : Nat
  rebindAt : Nat
  leaseAt : Nat

structure LeaseParams where
  yiaddr : Ipv4Addr
  options : DhcpV4Options
  prefixLen : Nat
  renewTime : Nat
  leaseTime : Nat

inductive DhcpState where
  | discovering (xid : UInt32) (requested : Option Ipv4Addr)
  | requesting (xid : UInt32) (offer : OfferContext)
  | bound (lease : LeaseContext)
  | renewing (lease : LeaseContext)
  | waitToRebind (lease : LeaseContext)
  | rebind (lease : LeaseContext)

inductive FsmAction where
  | send (msg : DhcpV4Message) (dest : Ipv4Addr)
  | scheduleTimer (wait : Nat)
  | bindLease (params : LeaseParams)
  | releaseLease

structure DhcpV4Fsm where
  state : DhcpState
  attempts : Nat
  connectFailureCount : UInt32
  macAddr : MacAddr
  hostname : String

structure Env where
  now : Nat
  xid : UInt32
  random : UInt8

variable (env : Env)

def DhcpV4Fsm.new (macAddr : MacAddr) (hostname : String) : DhcpV4Fsm :=
  ⟨.discovering env.xid none,0,0,macAddr,hostname⟩

variable (f : DhcpV4Fsm) (lease : LeaseContext)

def leaseIp : Ipv4Addr := if lease.yiaddr = 0 then lease.ciaddr else lease.yiaddr

def DhcpV4Fsm.leasedIp : Option Ipv4Addr :=
  match f.state with
  | .bound lease | .renewing lease | .waitToRebind lease | .rebind lease => some (leaseIp lease)
  | _ => none

def broadcastIp : Ipv4Addr := 0xffffffff

def onTimerDiscovering (xid : UInt32) (requested : Option Ipv4Addr) : DhcpV4Fsm × List FsmAction :=
  if f.attempts ≥ discoverAttemptsPerRound then
    let count := if f.connectFailureCount = 0xffffffff then f.connectFailureCount
      else f.connectFailureCount + 1
    ({ f with state := .discovering env.xid none, attempts := 0, connectFailureCount := count },
      [.scheduleTimer (secs (calcConnectRetryBackoffSecs count))])
  else
    let attempts := f.attempts + 1
    let msg := genDiscover xid f.macAddr requested f.hostname (attempts ≤ 2)
    ({ f with state := .discovering xid requested, attempts := attempts },
      [.send msg broadcastIp, .scheduleTimer (retryWait attempts env.random)])

def restartDiscover : DhcpV4Fsm × List FsmAction :=
  onTimerDiscovering env { f with attempts := 0 } env.xid none

def onTimerRequesting (xid : UInt32) (offer : OfferContext) : DhcpV4Fsm × List FsmAction :=
  if f.attempts ≥ requestAttempts then restartDiscover env f
  else
    let attempts := f.attempts + 1
    let options := if (offer.options.lookup 54).isNone ∧ offer.siaddr ≠ 0 then
        insertOption offer.options (.serverIdentifier offer.siaddr)
      else offer.options
    let msg := genRequest xid f.macAddr 0 offer.yiaddr options f.hostname
    ({ f with state := .requesting xid offer, attempts := attempts },
      [.send msg broadcastIp, .scheduleTimer (retryWait attempts env.random)])

def renewOptions (hostname : String) : DhcpV4Options :=
  insertOption (insertOption ∅ (.messageType .request)) (.hostname hostname)

def rebindEarlyAt (now : Nat) (lease : LeaseContext) : Nat :=
  let renewSpan := secs ((lease.rebindAt - lease.renewAt) / 1000000000 / 6)
  if renewSpan ≤ lease.rebindAt then lease.rebindAt - renewSpan else now

def onTimerRenewing : DhcpV4Fsm × List FsmAction :=
  let dest := match lease.options.lookup 54 with
    | some (.serverIdentifier addr) => addr
    | _ => if lease.siaddr ≠ 0 then lease.siaddr else broadcastIp
  let msg :=
    genRequest lease.xid f.macAddr lease.ciaddr lease.yiaddr (renewOptions f.hostname) f.hostname
  if env.now ≥ rebindEarlyAt env.now lease then
    ({ f with state := .waitToRebind lease },
      [.send msg dest, .scheduleTimer (lease.rebindAt - env.now)])
  else
    ({ f with state := .renewing lease },
      [.send msg dest, .scheduleTimer (max ((lease.rebindAt - env.now) / 2) (secs 60))])

def onTimerRebind : DhcpV4Fsm × List FsmAction :=
  if env.now > lease.leaseAt then
    let r := restartDiscover env f
    (r.1, .releaseLease :: r.2)
  else
    let msg := genRequest lease.xid f.macAddr lease.ciaddr lease.yiaddr (renewOptions f.hostname)
      f.hostname
    ({ f with state := .rebind lease },
      [.send msg broadcastIp, .scheduleTimer (max ((lease.leaseAt - env.now) / 2) (secs 60))])

def onTimer : DhcpV4Fsm × List FsmAction :=
  match f.state with
  | .discovering xid requested => onTimerDiscovering env f xid requested
  | .requesting xid offer => onTimerRequesting env f xid offer
  | .bound lease =>
    onTimerRenewing env { f with attempts := 0 }
      { lease with xid := env.xid, ciaddr := lease.yiaddr, yiaddr := 0 }
  | .renewing lease => onTimerRenewing env f lease
  | .waitToRebind lease =>
    onTimerRebind env { f with attempts := 0 } { lease with xid := env.xid, yiaddr := 0 }
  | .rebind lease => onTimerRebind env f lease

def getRenewTimes (options : DhcpV4Options) : Option (Nat × Nat × Nat) :=
  match options.lookup 51 with
  | some (.addressLeaseTime t) =>
    let lease := max t.toNat 2
    let defaultRenew := lease / 2
    let defaultRebind := max (lease * 7 / 8) (defaultRenew + 1)
    let explicitRenew := match options.lookup 58 with
      | some (.renewal t) => if t > 0 then some t.toNat else none
      | _ => none
    let explicitRebind := match options.lookup 59 with
      | some (.rebinding t) => if t > 0 then some t.toNat else none
      | _ => none
    let renewTime := min (max (explicitRenew.getD defaultRenew) 1) (lease - 1)
    let rebindTime := min (max (explicitRebind.getD defaultRebind) (renewTime + 1)) lease
    some (renewTime, rebindTime, lease)
  | _ => none

def currentXid : DhcpState → UInt32
  | .discovering xid _ | .requesting xid _ => xid
  | .bound lease | .renewing lease | .waitToRebind lease | .rebind lease => lease.xid

def expectedYiaddr : DhcpState → Option Ipv4Addr
  | .requesting _ offer => some offer.yiaddr
  | .bound lease | .renewing lease | .waitToRebind lease | .rebind lease => some lease.yiaddr
  | .discovering _ _ => none

def canHandleMessage : DhcpState → MessageType → Bool
  | .discovering _ _, t => t == .offer
  | .bound _, _ => false
  | _, t => t == .ack || t == .nak

def countOnes (a : UInt32) : Nat := ((List.range 32).filter fun i => a.toBitVec.getLsbD i).length

def handleAck (dhcp : DhcpV4Message) : DhcpV4Fsm × List FsmAction :=
  if (expectedYiaddr f.state).any fun expected => ¬(expected = 0 ∨
    dhcp.yiaddr = expected) then (f, [])
  else
    match getRenewTimes dhcp.opts, dhcp.opts.lookup 1 with
    | some (renewTime, rebindingTime, leaseTime), some (.subnetMask mask) =>
      let lease : LeaseContext :=
        { xid := env.xid
          ciaddr := dhcp.ciaddr
          yiaddr := dhcp.yiaddr
          siaddr := dhcp.siaddr
          options := dhcp.opts
          renewAt := env.now + secs renewTime
          rebindAt := env.now + secs rebindingTime
          leaseAt := env.now + secs leaseTime }
      ({ f with state := .bound lease, attempts := 0, connectFailureCount := 0 },
        [.bindLease ⟨dhcp.yiaddr,dhcp.opts,countOnes mask,renewTime,leaseTime⟩,
          .scheduleTimer (secs renewTime)])
    | _, _ => (f, [])

def hadLease : DhcpState → Bool
  | .renewing _ | .waitToRebind _ | .rebind _ => true
  | _ => false

def handleNak : DhcpV4Fsm × List FsmAction :=
  ({ f with state := .discovering env.xid none, attempts := 0 },
    (if hadLease f.state then [.releaseLease] else []) ++ [.scheduleTimer 0])

def onRecv (dhcp : DhcpV4Message) : DhcpV4Fsm × List FsmAction :=
  if dhcp.opcode ≠ .bootReply then (f, [])
  else if dhcp.xid ≠ currentXid f.state then (f, [])
  else
    match dhcp.msgType with
    | none => (f, [])
    | some t =>
      if ¬canHandleMessage f.state t then (f, [])
      else
        match t, f.state with
        | .offer, .discovering _ _ =>
          ({ f with
            state := .requesting dhcp.xid ⟨dhcp.yiaddr,dhcp.siaddr,dhcp.opts⟩
            attempts := 0 }, [.scheduleTimer 0])
        | .ack, .requesting _ _ | .ack, .renewing _ | .ack, .waitToRebind _ | .ack, .rebind _ =>
          handleAck env f dhcp
        | .nak, .requesting _ _ | .nak, .renewing _ | .nak, .waitToRebind _ | .nak, .rebind _ =>
          handleNak env f
        | _, _ => (f, [])

/-- A message is passed over, or it is an offer to a client that is searching, an ACK or a NAK. -/
theorem onRecv_cases (msg : DhcpV4Message) :
    onRecv env f msg = (f, []) ∨ (∃ xid requested offer, f.state = .discovering xid requested ∧
      onRecv env f msg =
        ({ f with state := .requesting msg.xid offer, attempts := 0 }, [.scheduleTimer 0])) ∨
    (msg.msgType = some .ack ∧ onRecv env f msg = handleAck env f msg) ∨
    ((∀ lease, f.state ≠ .bound lease) ∧ onRecv env f msg = handleNak env f) := by
  unfold onRecv
  repeat' split
  all_goals simp_all

inductive FsmEvent where
  | timerFired
  | recv (msg : DhcpV4Message)

def onEvent : FsmEvent → DhcpV4Fsm × List FsmAction
  | .timerFired => onTimer env f
  | .recv msg => onRecv env f msg

end Landscape.Dhcp4.Client
