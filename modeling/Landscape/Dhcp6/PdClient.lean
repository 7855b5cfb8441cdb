import Landscape.Dhcp6.Allocate
import Landscape.Lib.Timed

/-! The client that gets a prefix for a WAN link by DHCPv6 prefix delegation, and what it
installs. -/
namespace Landscape.Dhcp6.PdClient
open Timed Function
open Route (MacAddr)

/- Times are in milliseconds. -/
def secs (n : Nat) : Nat := n * 1000

def ipv6TimeoutDefaultDuraction : Nat := 10
def maxConnectRetryBackoffSecs : Nat := 10 * 60
def ipv6T1Default : Nat := 60 * 60 * 12
def ipv6T2Default : Nat := ipv6T1Default * 8 / 5

def calcConnectRetryBackoffSecs (failureCount : Nat) : Nat :=
  min (ipv6TimeoutDefaultDuraction * 2 ^ min (failureCount - 1) 31) maxConnectRetryBackoffSecs

structure IAPrefix where
  preferredLifetime : UInt32
  validLifetime : UInt32
  prefixLen : UInt8
  prefixIp : Ipv6Addr
  deriving DecidableEq

inductive IapdOption where
  | statusCode (success : Bool)
  | iaPrefix (data : IAPrefix)
  | other
  deriving DecidableEq

structure IAPD where
  id : UInt32
  t1 : UInt32
  t2 : UInt32
  opts : List IapdOption
  deriving DecidableEq

def IapdOption.iaPrefix? : IapdOption → Option IAPrefix
  | .iaPrefix data => some data
  | _ => none

variable (iapd : IAPD)

def IAPD.getIaPrefix : Option IAPrefix := iapd.opts.findSome? (·.iaPrefix?)

inductive MessageType where
  | solicit | advertise | request | confirm | renew | rebind | reply | release | decline
  | reconfigure | other
  deriving DecidableEq

structure Message where
  msgType : MessageType
  xid : UInt32
  clientId : Option Duid
  serverId : Option Duid
  serverUnicast : Option Ipv6Addr
  iapd : Option IAPD
  deriving DecidableEq

/- Where a datagram comes from (`none`: an IPv4 address) and what it decodes to, if it does. -/
structure Datagram where
  source : Option Ipv6Addr
  message : Option Message
  deriving DecidableEq

/- A message the client sends. Left out are the option request and the reconfigure accept of a
   Solicit, which are the same in each. -/
structure SentMessage where
  msgType : MessageType
  xid : UInt32
  clientId : Duid
  serverId : Option Duid
  elapsedTime : Option Nat
  iapd : IAPD
  target : Option Ipv6Addr
  deriving DecidableEq

structure Held where
  serviceId : Duid
  iapd : IAPD
  serverUnicast : Option Ipv6Addr
  boundTime : Nat
  deriving DecidableEq

/- `Confirm`, `Release`, `Decline` and `Stop` are never entered. -/
inductive IpV6PdState where
  | solicit (xid : UInt32)
  | request (xid : UInt32) (serviceId : Duid) (iapd : IAPD) (serverUnicast : Option Ipv6Addr)
    (sendTimes : Nat)
  | bound (xid : UInt32) (held : Held)
  | renew (xid : UInt32) (held : Held) (renewTime : Nat)
  | waitToRebind (xid : UInt32) (held : Held)
  | rebind (xid : UInt32) (held : Held) (rebindTime : Nat)
  deriving DecidableEq

def getNewIpv6Xid (random : UInt32) : UInt32 := random &&& 0x00FFFFFF

def IpV6PdState.getXid : IpV6PdState → UInt32
  | .solicit xid | .request xid .. | .bound xid _ | .renew xid .. | .waitToRebind xid _
  | .rebind xid .. => xid

/- `active_prefix_lease`. -/
def IpV6PdState.held? : IpV6PdState → Option Held
  | .solicit _ | .request .. => none
  | .bound _ held | .renew _ held _ | .waitToRebind _ held | .rebind _ held _ => some held

def IpV6PdState.intoRelease : IpV6PdState → Option (Duid × IAPD × Option Ipv6Addr)
  | .solicit _ => none
  | .request _ serviceId iapd serverUnicast _ => some (serviceId, iapd, serverUnicast)
  | .bound _ held | .renew _ held _ | .waitToRebind _ held | .rebind _ held _ =>
    some (held.serviceId, held.iapd, held.serverUnicast)

def IpV6PdState.canHandleMessage : IpV6PdState → MessageType → Bool
  | .solicit _, .advertise => true
  | .request .., .reply | .renew .., .reply | .waitToRebind .., .reply | .rebind .., .reply => true
  | _, _ => false

def IpV6PdState.serviceId? : IpV6PdState → Option Duid
  | .solicit _ | .bound .. => none
  | .request _ serviceId .. => some serviceId
  | .renew _ held _ | .waitToRebind _ held | .rebind _ held _ => some held.serviceId

structure PdLease where
  prefixIp : Ipv6Addr
  prefixLen : UInt8
  validSecs : UInt32
  preferredSecs : UInt32
  deriving DecidableEq

inductive PdRuntime where
  | idle
  | soliciting
  | requesting
  | bound (lease : PdLease)
  | renewing (lease : PdLease)
  | rebinding (lease : PdLease)
  | stopped
  deriving DecidableEq

inductive IAPrefixEvent where
  | updated
  | expired

/- The WAN address of the link route is `none` if it stays the one the route came with. -/
structure LinkRoute where
  ifaceIp : Option Ipv6Addr
  gatewayIp : Ipv6Addr

structure AddrBinding where
  addr : Ipv6Addr
  gateway : Option Ipv6Addr
  mask : UInt8
  mac : Option MacAddr

/-- What the client has put into the system for its link: the entry of the prefix map, /128
addresses of the interface, default routes by source prefix, the link route and the address
binding. -/
@[ext]
structure Installed where
  prefixMap : Option IPV6PDPrefixStatus
  addrs : Ipv6Addr → Bool
  sourceRoutes : Ipv6Addr × UInt8 → Option Ipv6Addr
  linkRoute : Option LinkRoute
  binding : Option AddrBinding

def Installed.nothing : Installed := ⟨none,fun _ => false,fun _ => none,none,none⟩

structure Trace where
  sent : List (Nat × SentMessage)
  received : List (Nat × Datagram)
  accepted : List (Nat × IAPD)
  events : List (Nat × IAPrefixEvent)

structure Config where
  clientId : Duid
  macAddr : Option MacAddr
  expectedPdLen : UInt8
  sharedWanIid : BitVec 64

structure Client where
  status : IpV6PdState
  timeoutTimes : Nat
  connectFailureCount : Nat
  currentWanAddr : Option Ipv6Addr
  running : Bool
  installed : Installed
  pdRuntime : PdRuntime
  trace : Trace

def leaseProjection : Option PdLease :=
  iapd.getIaPrefix.map fun p => ⟨p.prefixIp,p.prefixLen,p.validLifetime,p.preferredLifetime⟩

def pdRuntimeProjection : IpV6PdState → PdRuntime
  | .solicit _ => .soliciting
  | .request .. => .requesting
  | .bound _ held => (leaseProjection held.iapd).elim .soliciting .bound
  | .renew _ held _ | .waitToRebind _ held => (leaseProjection held.iapd).elim .soliciting .renewing
  | .rebind _ held _ => (leaseProjection held.iapd).elim .soliciting .rebinding

def IAPD.validLifetime (iapd : IAPD) : Nat :=
  iapd.getIaPrefix.elim 0 fun p => secs p.validLifetime.toNat

variable (clientId : Duid) (cfg : Config) (now : Nat) (xid newXid : UInt32) (serviceId : Duid)
  (held : Held) (d : Datagram) (c : Client) (status : IpV6PdState)

def activePrefixRemaining : Option Nat :=
  status.held?.map fun held => held.iapd.validLifetime - (now - held.boundTime)

def IAPD.rebindSecs : Nat := if iapd.t2 = 0 then ipv6T2Default else iapd.t2.toNat

def protocolTimeout (prevTimeoutTimes : Nat) : Nat :=
  match status with
  | .bound _ held => secs held.iapd.t1.toNat
  | .waitToRebind _ held => secs held.iapd.rebindSecs - (now - held.boundTime)
  | _ => secs (ipv6TimeoutDefaultDuraction * prevTimeoutTimes)

def statusTimeoutDuration (prevTimeoutTimes : Nat) : Nat :=
  let timeout := protocolTimeout now status prevTimeoutTimes
  (activePrefixRemaining now status).elim timeout (min timeout)

structure SendStatusOutcome where
  resetTimeout : Bool
  prefixExpired : Bool

def SendStatusOutcome.noChange : SendStatusOutcome := ⟨false,false⟩
def SendStatusOutcome.reset : SendStatusOutcome := ⟨true,false⟩
def SendStatusOutcome.expired : SendStatusOutcome := ⟨true,true⟩

def IAPD.askedFor : IAPD :=
  { iapd with opts := (iapd.getIaPrefix.map IapdOption.iaPrefix).toList }

def elapsedTime (since : Nat) : Nat := (now - since) % 2 ^ 16 / 10

def solicitMessage : SentMessage :=
  ⟨.solicit,xid,clientId,none,none,⟨1,0,0,[]⟩,none⟩

def requestMessage (iapd : IAPD) : SentMessage :=
  ⟨.request,xid,clientId,some serviceId,none,iapd.askedFor,none⟩

def renewMessage (renewTime : Nat) : SentMessage :=
  ⟨.renew,xid,clientId,some held.serviceId,some (elapsedTime now renewTime),held.iapd.askedFor,none⟩

def rebindMessage (rebindTime : Nat) : SentMessage :=
  ⟨.rebind,xid,clientId,none,some (elapsedTime now rebindTime),held.iapd.askedFor,none⟩

def renewingOver : Bool :=
  (now - held.boundTime) / 1000 ≥ held.iapd.rebindSecs / 10 * 8

/-- The new state, what is sent and what follows for the timer, while the prefix is valid; `newXid`
is the id drawn for a new transaction. -/
def sendValid : IpV6PdState → IpV6PdState × Option SentMessage × SendStatusOutcome
  | .solicit xid => (.solicit xid, some (solicitMessage clientId xid), .noChange)
  | .request xid serviceId iapd serverUnicast sendTimes =>
    let msg := requestMessage clientId xid serviceId iapd
    if sendTimes > 4 then (.solicit newXid, some msg, .reset)
    else (.request xid serviceId iapd serverUnicast (sendTimes + 1), some msg, .noChange)
  | .bound _ held => (.renew newXid held now, none, .reset)
  | .renew xid held renewTime =>
    let msg := renewMessage clientId now xid held renewTime
    if renewingOver now held then (.waitToRebind xid held, some msg, .reset)
    else (.renew xid held renewTime, some msg, .noChange)
  | .waitToRebind _ held => (.rebind newXid held now, none, .reset)
  | .rebind xid held rebindTime =>
    (.rebind xid held rebindTime, some (rebindMessage clientId now xid held rebindTime), .noChange)

def sendCurrentStatusPacket : IpV6PdState × Option SentMessage × SendStatusOutcome :=
  if activePrefixRemaining now status = some 0 then (.solicit newXid, none, .expired)
  else sendValid clientId now newXid status

def deriveWanPdAddr (iaPrefix : LDIAPrefix) (sharedWanIid : BitVec 64) : Option Ipv6Addr :=
  let wanPrefix :=
    if iaPrefix.prefixLen < 64 then
      (checkedAllocateSubnet iaPrefix.prefixIp iaPrefix.prefixLen 64 0).map (·.1)
    else if iaPrefix.prefixLen = 64 then some iaPrefix.prefixIp
    else none
  wanPrefix.map fun p => (p &&& (BitVec.allOnes 128 <<< 64)) ||| sharedWanIid.setWidth 128

def Client.send (now : Nat) (msg : Option SentMessage) : Client :=
  { c with trace := { c.trace with sent := (msg.map (now, ·)).toList ++ c.trace.sent } }

def removeIpRoute (i : Installed) : Ipv6Addr × UInt8 → Option Ipv6Addr :=
  i.prefixMap.elim i.sourceRoutes fun status =>
    update i.sourceRoutes (status.actualPrefix.prefixIp, status.actualPrefix.prefixLen) none

def clearActivePdPrefix : Client :=
  { c with
    currentWanAddr := none
    installed :=
      { prefixMap := none
        addrs :=
          c.currentWanAddr.elim c.installed.addrs fun addr => update c.installed.addrs addr false
        sourceRoutes := removeIpRoute c.installed
        linkRoute := none
        binding := none }
    trace := { c.trace with
      events :=
        if c.installed.prefixMap.isSome then (now, .expired) :: c.trace.events
          else c.trace.events } }

def replaceWanAddr (addrs : Ipv6Addr → Bool) (current : Option Ipv6Addr) (wanAddr : Ipv6Addr) :
    Ipv6Addr → Bool :=
  let kept := current.elim addrs fun old => if old ≠ wanAddr then update addrs old false else addrs
  update kept wanAddr true

def installPrefix (gateway : Ipv6Addr) (iaPrefix : LDIAPrefix) (c : Client) : Client :=
  let wanAddr := deriveWanPdAddr iaPrefix cfg.sharedWanIid
  { c with
    currentWanAddr := wanAddr.or c.currentWanAddr
    installed :=
      { prefixMap := some (.new cfg.expectedPdLen iaPrefix)
        addrs := wanAddr.elim c.installed.addrs (replaceWanAddr c.installed.addrs c.currentWanAddr)
        sourceRoutes :=
          update c.installed.sourceRoutes (iaPrefix.prefixIp, iaPrefix.prefixLen) (some gateway)
        linkRoute := some ⟨wanAddr,gateway⟩
        binding := some ⟨iaPrefix.prefixIp,some gateway,iaPrefix.prefixLen,cfg.macAddr⟩ }
    trace := { c.trace with events := (now, .updated) :: c.trace.events } }

/- The loop over the options of the IA_PD: the last status counts, and the last prefix. -/
def IAPD.scan : Bool × Option IAPrefix :=
  iapd.opts.foldl (fun acc opt =>
    match opt with
    | .statusCode success => (success, acc.2)
    | .iaPrefix data => (acc.1, some data)
    | .other => acc) (true, none)

def IAPD.usable : Option IAPrefix := if iapd.scan.1 then iapd.scan.2 else none

def ldiaPrefix (p : IAPrefix) : LDIAPrefix :=
  ⟨p.preferredLifetime,p.validLifetime,p.prefixLen,p.prefixIp,now⟩

def handleAdvertise (msg : Message) (c : Client) : Client × Bool :=
  match (msg.serverId.filter (·.isEmpty = false)), msg.iapd with
  | some serviceId, some iapd =>
    ({ c with status := .request newXid serviceId iapd msg.serverUnicast 0 }, true)
  | _, _ => (c, false)

def acceptReply (source : Ipv6Addr) (held : Held) (p : IAPrefix) (c : Client) : Client :=
  let bound := { c with
    status := .bound newXid held
    trace := { c.trace with accepted := (now, held.iapd) :: c.trace.accepted } }
  installPrefix cfg now source (ldiaPrefix now p) bound

def handleReply (source : Ipv6Addr) (msg : Message)
    (serviceId : Duid) (c : Client) : Client × Bool :=
  if msg.serverId.any (· ≠ serviceId) then (c, false)
  else
    match msg.iapd with
    | none => (c, false)
    | some iapd =>
      match iapd.usable with
      | none => (c, false)
      | some p =>
        (acceptReply cfg now newXid source ⟨serviceId,iapd,msg.serverUnicast,now⟩ p c, true)

/-- The result says whether the timer is set anew. -/
def handlePacket : Client × Bool :=
  match d.source, d.message with
  | none, _ => (c, true)
  | some _, none => (c, true)
  | some source, some msg =>
    if msg.xid ≠ c.status.getXid then (c, false)
    else if msg.clientId.any (· ≠ cfg.clientId) then (c, false)
    else if ¬c.status.canHandleMessage msg.msgType then (c, false)
    else
      match c.status.serviceId? with
      | none => handleAdvertise newXid msg c
      | some serviceId => handleReply cfg now newXid source msg serviceId c

inductive PdEvent where
  | timer
  | datagram (d : Datagram)
  | stop
  deriving DecidableEq

structure Drawn where
  random : UInt32
  event : PdEvent

def IpV6PdState.isSolicit : IpV6PdState → Bool
  | .solicit _ => true
  | _ => false

def IpV6PdState.isBound : IpV6PdState → Bool
  | .bound .. => true
  | _ => false

def Client.publish : Client := { c with pdRuntime := pdRuntimeProjection c.status }

def backOff : Client × Nat :=
  let failures := min (c.connectFailureCount + 1) (2 ^ 32 - 1)
  ({ c with status := .solicit newXid, timeoutTimes := 1, connectFailureCount := failures },
    secs (calcConnectRetryBackoffSecs failures))

def sendStatus : Client × Nat :=
  let r := sendCurrentStatusPacket cfg.clientId now newXid c.status
  let sent := { c with status := r.1 }.send now r.2.1
  let cleared := if r.2.2.prefixExpired then clearActivePdPrefix now sent else sent
  let times := if r.2.2.resetTimeout then 0 else c.timeoutTimes
  ({ cleared with timeoutTimes := times + 1 }.publish, statusTimeoutDuration now r.1 times)

def onTimer : Client × Nat :=
  if c.timeoutTimes > 4 ∧ c.status.isSolicit then backOff newXid c else sendStatus cfg now newXid c

def logged : Client :=
  { c with trace := { c.trace with received := (now, d) :: c.trace.received } }

def afterPacket (r : Client × Bool) : Client × Option Nat :=
  let handled := { r.1 with
    connectFailureCount := if r.1.status.isBound then 0 else r.1.connectFailureCount }
  if r.2 then
    ({ handled with timeoutTimes := 1 }.publish, some (statusTimeoutDuration now handled.status 0))
  else (handled.publish, none)

def onDatagram :
    Client × Option Nat := afterPacket now (handlePacket cfg now newXid d (logged now d c))

def genRelease (iapd : IAPD) (serverUnicast : Option Ipv6Addr) : Option SentMessage :=
  let prefixes := iapd.opts.filterMap (·.iaPrefix?)
  if prefixes.isEmpty then none
  else
    let released := prefixes.map fun p =>
      IapdOption.iaPrefix { p with preferredLifetime := 0, validLifetime := 0 }
    some ⟨.release,newXid,clientId,some serviceId,some 0,⟨iapd.id,0,0,released⟩,serverUnicast⟩

def onStop : Client :=
  let cleared := clearActivePdPrefix now c
  let release := c.status.intoRelease.bind fun r => genRelease cfg.clientId newXid r.1 r.2.1 r.2.2
  { cleared.send now release with running := false, pdRuntime := .stopped }

def onEvent (e : Drawn) : Client × Option Nat :=
  let newXid := getNewIpv6Xid e.random
  if ¬c.running then (c, none)
  else
    match e.event with
    | .timer => ((onTimer cfg now newXid c).1, some (onTimer cfg now newXid c).2)
    | .datagram d => onDatagram cfg now newXid d c
    | .stop => (onStop cfg now newXid c, none)

def PdEvent.isTimer : PdEvent → Bool
  | .timer => true
  | _ => false

def loop : Driven Client Drawn where
  fires e := e.event.isTimer
  handle now c e := onEvent cfg now c e

def start (random : UInt32) : Clocked Client where
  now := now
  deadline := now
  state :=
    { status := .solicit (getNewIpv6Xid random)
      timeoutTimes := 1
      connectFailureCount := 0
      currentWanAddr := none
      running := true
      installed := .nothing
      pdRuntime := .soliciting
      trace := ⟨[],[],[],[]⟩ }

end Landscape.Dhcp6.PdClient
