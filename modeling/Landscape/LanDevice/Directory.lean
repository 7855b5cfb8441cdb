import Landscape.Dhcp4.Server
import Landscape.Dhcp6.Na
import Landscape.Lib.Index

/-! The LAN device directory: the live tables and the events that are folded into them. -/
namespace Landscape.LanDevice
open Index Function
open Dhcp4 (Ipv4Addr)
open Dhcp6 (Ipv6Addr)
open Route (MacAddr)

abbrev Uuid := BitVec 128

inductive AddressSourceV4 where
  | static
  | lease
  | arp
  deriving DecidableEq

def AddressSourceV4.rank : AddressSourceV4 → Nat
  | .static => 0
  | .lease => 1
  | .arp => 2

inductive AddressSourceV6 where
  | static
  | dhcpv6
  | slaac
  deriving DecidableEq

def AddressSourceV6.rank : AddressSourceV6 → Nat
  | .static => 0
  | .dhcpv6 => 1
  | .slaac => 2

inductive IPv6AssignSource where
  | slaac
  | dhcpv6
  deriving DecidableEq

def ipv6InterfaceId (ip : Ipv6Addr) : BitVec 64 := ip.truncate 64

def AddressSourceV6.fromEvent (source : IPv6AssignSource) (enrolledSuffix : Option (BitVec 64))
    (ip : Ipv6Addr) : AddressSourceV6 :=
  if enrolledSuffix = some (ipv6InterfaceId ip) then .static
  else
    match source with
    | .slaac => .slaac
    | .dhcpv6 => .dhcpv6

structure DhcpLeaseTimes where
  ip : Ipv4Addr
  lastRequest : Int
  expires : Int
  deriving DecidableEq

structure LanDeviceEntry where
  entryId : Uuid
  mac : Option MacAddr
  deviceId : Option Uuid
  displayName : Option String
  hostname : Option String
  hostnameFromEnroll : Bool
  enrolledIpv6Suffix : Option (BitVec 64)
  ipv4 : Option Ipv4Addr
  ipv4Source : Option AddressSourceV4
  ipv6Addrs : AList fun _ : Ipv6Addr => AddressSourceV6
  ifaceName : Option String
  lastActive : Int
  arpLastSeen : Option Int
  dhcpLease : Option DhcpLeaseTimes

def LanDeviceEntry.new (entryId : Uuid) (mac : Option MacAddr) (now : Int) : LanDeviceEntry where
  entryId := entryId
  mac := mac
  deviceId := none
  displayName := none
  hostname := none
  hostnameFromEnroll := false
  enrolledIpv6Suffix := none
  ipv4 := none
  ipv4Source := none
  ipv6Addrs := ∅
  ifaceName := none
  lastActive := now
  arpLastSeen := none
  dhcpLease := none

structure EnrolledDevice where
  id : Uuid
  ifaceName : Option String
  name : String
  hostname : Option String
  mac : MacAddr
  ipv4 : Option Ipv4Addr
  ipv6 : Option Ipv6Addr
  deriving DecidableEq

inductive EnrolledDeviceEvent where
  | updated (old : Option EnrolledDevice) (new : EnrolledDevice)
  | deleted (old : EnrolledDevice)

structure IPv4AssignInfo where
  ifaceName : String
  mac : MacAddr
  ip : Ipv4Addr
  hostname : Option String
  deviceId : Option Uuid
  leaseTimeSecs : Option UInt32
  deriving DecidableEq

inductive IPv4AssignEvent where
  | allocated (info : IPv4AssignInfo)
  | expired (info : IPv4AssignInfo)

structure Ipv6AssignAddress where
  ip : Ipv6Addr
  source : IPv6AssignSource
  deriving DecidableEq

structure IPv6AssignInfo where
  ifaceName : String
  mac : MacAddr
  ips : List Ipv6AssignAddress
  deviceId : Option Uuid
  deriving DecidableEq

inductive IPv6AssignEvent where
  | allocated (info : IPv6AssignInfo)
  | expired (info : IPv6AssignInfo)
  | flush (info : IPv6AssignInfo)

inductive IpAddr where
  | v4 (ip : Ipv4Addr)
  | v6 (ip : Ipv6Addr)
  deriving DecidableEq

inductive LanDiscoverySource where
  | arp
  | neighbor
  deriving DecidableEq

structure LanDiscoveryEvent where
  ifaceName : String
  mac : Option MacAddr
  ip : IpAddr
  source : LanDiscoverySource

structure Ambient where
  now : Int
  newId : Uuid
  domainToAscii : String → Option String

structure Directory where
  entries : Uuid → Option LanDeviceEntry
  byMac : MacAddr → Option Uuid
  byIpv4 : Ipv4Addr → Option Uuid
  byIpv6 : Ipv6Addr → Option Uuid
  byDeviceId : Uuid → Option Uuid
  byHostname : String → Option Uuid

def Directory.empty : Directory :=
  ⟨fun _ => none,fun _ => none,fun _ => none,fun _ => none,fun _ => none,fun _ => none⟩

def anonymousTtlMs : Int := 24 * 3600 * 1000
def deviceIdReanchorIdleMs : Int := 600 * 1000

variable (e : LanDeviceEntry) (amb : Ambient) (d : Directory) (now : Int)
  (event : LanDiscoveryEvent) (target id : Uuid)

def Directory.updateEntry (f : LanDeviceEntry → LanDeviceEntry) : Directory :=
  { d with entries := update d.entries id ((d.entries id).map f) }

def resolveOrCreateByMac (mac : MacAddr) : Uuid × Directory :=
  match d.byMac mac with
  | some id => (id, d)
  | none =>
    let id := amb.newId
    (id, { d with
      entries := update d.entries id (some (.new id (some mac) amb.now))
      byMac := update d.byMac mac (some id) })

variable (deviceId : Uuid) (new : EnrolledDevice) (info : IPv4AssignInfo) (hostname : Option String)
  (fromEnroll : Bool) (ip : Ipv4Addr)

def LanDeviceEntry.withoutIpv4 : LanDeviceEntry :=
  if e.ipv4 = some ip then { e with ipv4 := none, ipv4Source := none } else e

def LanDeviceEntry.withoutIpv6 (ip : Ipv6Addr) : LanDeviceEntry :=
  { e with ipv6Addrs := e.ipv6Addrs.erase ip }

/-- The addresses of a family: the index over them, the rank of the evidence an entry has for one,
and the entry without it. -/
structure AddrTable (K : Type) where
  index : Directory → K → Option Uuid
  setIndex : Directory → (K → Option Uuid) → Directory
  ownerRank : Directory → Uuid → K → Nat
  without : LanDeviceEntry → K → LanDeviceEntry
  index_setIndex : ∀ d m, index (setIndex d m) = m
  entries_setIndex : ∀ d m, (setIndex d m).entries = d.entries

def ipv4Table : AddrTable Ipv4Addr where
  index d := d.byIpv4
  setIndex d m := { d with byIpv4 := m }
  ownerRank d owner _ := ((d.entries owner).bind (·.ipv4Source)).elim 255 (·.rank)
  without := LanDeviceEntry.withoutIpv4
  index_setIndex _ _ := rfl
  entries_setIndex _ _ := rfl

def ipv6Table : AddrTable Ipv6Addr where
  index d := d.byIpv6
  setIndex d m := { d with byIpv6 := m }
  ownerRank d owner ip := ((d.entries owner).bind (·.ipv6Addrs.lookup ip)).elim 255 (·.rank)
  without := LanDeviceEntry.withoutIpv6
  index_setIndex _ _ := rfl
  entries_setIndex _ _ := rfl

section Addr
variable {K : Type} [DecidableEq K] (t : AddrTable K) (addr : K)

def claimAddr (rank : Nat) : Bool × Directory :=
  let take (d : Directory) : Directory := t.setIndex d (update (t.index d) addr (some id))
  match (t.index d addr).filter (· ≠ id) with
  | some owner =>
    if rank > t.ownerRank d owner addr then (false, d)
    else (true, take (d.updateEntry owner (t.without · addr)))
  | none => (true, take d)

def releaseAddr : Directory :=
  (t.setIndex d (removeIf (t.index d) addr id)).updateEntry id (t.without · addr)

end Addr

def claimIpv4 (source : AddressSourceV4) : Bool × Directory :=
  claimAddr d id ipv4Table ip source.rank

def releaseIpv4 : Directory := releaseAddr d id ipv4Table ip

def claimIpv6 (ip : Ipv6Addr) (source : AddressSourceV6) : Bool × Directory :=
  claimAddr d id ipv6Table ip source.rank

def LanDeviceEntry.withHostname : LanDeviceEntry :=
  { e with hostname := hostname, hostnameFromEnroll := fromEnroll }

def dropHostnameIndex : Directory :=
  match hostname with
  | some old => { d with byHostname := removeIf d.byHostname old id }
  | none => d

def takeHostname (punycode : String) (previousOwner : Option Uuid)
    (fromEnroll : Bool) : Directory :=
  let take (d : Directory) : Directory :=
    { d with byHostname := update d.byHostname punycode (some id) }.updateEntry id
      (·.withHostname (some punycode) fromEnroll)
  match previousOwner.filter (· ≠ id) with
  | none => take d
  | some owner =>
    let ownerEnrolled := (d.entries owner).any (·.hostnameFromEnroll)
    if ownerEnrolled ∧ ¬fromEnroll then d.updateEntry id (·.withHostname none false)
    else take (d.updateEntry owner (·.withHostname none false))

def claimHostname : Directory :=
  match d.entries id with
  | none => d
  | some current =>
    match hostname with
    | none => (dropHostnameIndex d id current.hostname).updateEntry id (·.withHostname none false)
    | some punycode =>
      let previousOwner := d.byHostname punycode
      if previousOwner = some id ∧ current.hostnameFromEnroll ∧ ¬fromEnroll then d
      else takeHostname (dropHostnameIndex d id current.hostname) id punycode previousOwner
        fromEnroll

def LanDeviceEntry.withIdentity (deviceId : Option Uuid)
    (displayName : Option String) (enrolledIpv6Suffix : Option (BitVec 64)) : LanDeviceEntry :=
  { e with
    deviceId := deviceId
    displayName := displayName
    enrolledIpv6Suffix := enrolledIpv6Suffix }

def LanDeviceEntry.enrolledHostname : Option String :=
  if e.hostnameFromEnroll then e.hostname else none

def stripIdentity (source target deviceId : Uuid) (enrolledHostname : Option String) : Directory :=
  let d := { d with byDeviceId := update d.byDeviceId deviceId (some target) }
  let d := d.updateEntry source (·.withIdentity none none none)
  if enrolledHostname.isSome then claimHostname d source none false else d

def giveIdentity (displayName : Option String)
    (enrolledIpv6Suffix : Option (BitVec 64)) (enrolledHostname : Option String) : Directory :=
  let d := d.updateEntry target (·.withIdentity (some deviceId) displayName enrolledIpv6Suffix)
  match enrolledHostname with
  | some hostname => claimHostname d target (some hostname) true
  | none => d

def transferDeviceId (source target deviceId : Uuid) : Directory :=
  let entry := d.entries source
  let enrolledHostname := entry.bind (·.enrolledHostname)
  giveIdentity (stripIdentity d source target deviceId enrolledHostname) target deviceId
    (entry.bind (·.displayName)) (entry.bind (·.enrolledIpv6Suffix)) enrolledHostname

def setDeviceId : Directory :=
  match (d.byDeviceId deviceId).filter (· ≠ id) with
  | none =>
    { d with byDeviceId := update d.byDeviceId deviceId (some id) }.updateEntry id
      fun e => { e with deviceId := some deviceId }
  | some previous =>
    let idleMs := amb.now - (d.entries previous).elim 0 (·.lastActive)
    if idleMs < deviceIdReanchorIdleMs then d else transferDeviceId d previous id deviceId

def currentIpv4 : Option (Ipv4Addr × AddressSourceV4) :=
  (d.entries id).bind fun e => e.ipv4.bind fun ip => e.ipv4Source.map fun s => (ip, s)

def releaseStaticIpv4 : Directory :=
  match currentIpv4 d id with
  | some (ip, .static) => releaseIpv4 d id ip
  | _ => d

def dropIpv6 (d : Directory) (ip : Ipv6Addr) : Directory := releaseAddr d id ipv6Table ip

def resolveEnrolled (old : Option EnrolledDevice) (new : EnrolledDevice) : Uuid × Directory :=
  match d.byDeviceId new.id, d.byMac new.mac with
  | some holder, some macEntry =>
    if holder ≠ macEntry then
      -- One MAC with two enrolled devices: the holder keeps the identity.
      if (d.entries macEntry).any fun e => e.deviceId.any (· ≠ new.id) then (holder, d)
      else (macEntry, transferDeviceId d holder macEntry new.id)
    else (holder, d)
  | some holder, none => (holder, d)
  | none, some macEntry => (macEntry, d)
  | none, none =>
    match old.bind fun o => d.byMac o.mac with
    | some id => (id, d)
    | none =>
      let created := resolveOrCreateByMac amb d new.mac
      (created.1, created.2.updateEntry created.1 fun e => { e with lastActive := 0 })

def LanDeviceEntry.enroll : LanDeviceEntry :=
  let address : Option Ipv4Addr × Option AddressSourceV4 :=
    match new.ipv4 with
    | some ip => (some ip, some .static)
    | none => if e.ipv4Source = some .static then (none, none) else (e.ipv4, e.ipv4Source)
  { e with
    mac := some new.mac
    deviceId := some new.id
    displayName := some new.name
    enrolledIpv6Suffix := new.ipv6.map ipv6InterfaceId
    ipv4 := address.1
    ipv4Source := address.2
    ifaceName := new.ifaceName }

def anchor (old : Option EnrolledDevice) (new : EnrolledDevice) : Directory :=
  let byMac :=
    match old with
    | some o => if o.mac ≠ new.mac then removeIf d.byMac o.mac id else d.byMac
    | none => d.byMac
  { d with
    byMac := update byMac new.mac (some id)
    byDeviceId := update d.byDeviceId new.id (some id) }

def claimEnrolledIpv4 : Option Ipv4Addr → Directory
  | some ip => (claimIpv4 d id ip .static).2
  | none => releaseStaticIpv4 d id

def writeEnrolled : Directory :=
  let d := claimEnrolledIpv4 d id new.ipv4
  let d := claimHostname d id (new.hostname.bind amb.domainToAscii) new.hostname.isSome
  d.updateEntry id (·.enroll new)

def releaseEnrolled : Directory :=
  let d := claimHostname d id none false
  let d := releaseStaticIpv4 d id
  let staticV6 := (d.entries id).elim [] fun e =>
    (e.ipv6Addrs.entries.filter (·.2 = .static)).map (·.1)
  staticV6.foldl (dropIpv6 id) d

def forgetEnrolled : Directory :=
  let d := { d with byDeviceId := removeIf d.byDeviceId deviceId id }
  (releaseEnrolled d id).updateEntry id (·.withIdentity none none none)

def applyDeviceEvent : EnrolledDeviceEvent → Directory
  | .updated old new =>
    let target := resolveEnrolled amb d old new
    writeEnrolled amb (anchor target.2 target.1 old new) target.1 new
  | .deleted old =>
    match (d.byDeviceId old.id).or (d.byMac old.mac) with
    | some id => forgetEnrolled d id old.id
    | none => d

def bindDeviceId (deviceId : Option Uuid) : Directory :=
  match deviceId with
  | some deviceId => setDeviceId amb d id deviceId
  | none => d

def IPv4AssignInfo.leaseTimes (now : Int) (old : Option DhcpLeaseTimes) : Option DhcpLeaseTimes :=
  match info.leaseTimeSecs with
  | some secs => some ⟨info.ip,now,now + secs.toNat * 1000⟩
  | none => old

def LanDeviceEntry.allocate (take : Bool) : LanDeviceEntry :=
  { e with
    mac := some info.mac
    ipv4 := if take then some info.ip else e.ipv4
    ipv4Source := if take then some .lease else e.ipv4Source
    ifaceName := some info.ifaceName
    lastActive := now
    dhcpLease := info.leaseTimes now e.dhcpLease }

def recordLease : Directory :=
  let current := currentIpv4 d id
  let staticConflict := current.any fun c => c.2 = .static ∧ c.1 ≠ info.ip
  let keepStatic := current.any fun c => c.2 = .static ∧ c.1 = info.ip
  if staticConflict then
    d.updateEntry id fun e =>
      { e with lastActive := amb.now, dhcpLease := info.leaseTimes amb.now e.dhcpLease }
  else
    let claimed := claimIpv4 d id info.ip .lease
    claimed.2.updateEntry id (·.allocate amb.now info (claimed.1 && !keepStatic))

def allocateIpv4 : Directory :=
  let d := recordLease amb (bindDeviceId amb d id info.deviceId) id info
  match info.hostname.bind amb.domainToAscii with
  | some hostname => claimHostname d id (some hostname) false
  | none => d

def LanDeviceEntry.clearLease : LanDeviceEntry :=
  { e with dhcpLease := e.dhcpLease.filter (·.ip ≠ ip) }

def expireHostname : Directory :=
  match hostname with
  | some hostname =>
    if (d.entries id).any fun e : LanDeviceEntry => e.hostname = some hostname then
      claimHostname d id none false
    else d
  | none => d

def expireIpv4 : Directory :=
  let d := releaseIpv4 d id info.ip
  let d := expireHostname d id (info.hostname.bind amb.domainToAscii)
  d.updateEntry id (·.clearLease info.ip)

def applyIpv4Event : IPv4AssignEvent → Directory
  | .allocated info =>
    let target := resolveOrCreateByMac amb d info.mac
    allocateIpv4 amb target.2 target.1 info
  | .expired info =>
    match d.byMac info.mac with
    | some id => expireIpv4 amb d id info
    | none => d

def observeIpv6 (ip : Ipv6Addr) (source : AddressSourceV6) : Directory :=
  let claimed := claimIpv6 d id ip source
  if claimed.1 then
    claimed.2.updateEntry id fun e => { e with ipv6Addrs := e.ipv6Addrs.insert ip source }
  else claimed.2

def observeAll (suffix : Option (BitVec 64)) (ips : List Ipv6AssignAddress) : Directory :=
  ips.foldl (fun d addr => observeIpv6 d id addr.ip (.fromEvent addr.source suffix addr.ip)) d

def clearIpv6 : Directory :=
  let previous := (d.entries id).elim [] (·.ipv6Addrs.keys)
  { d with
    byIpv6 := previous.foldl (fun byIpv6 ip => removeIf byIpv6 ip id) d.byIpv6 }.updateEntry id
    fun e => { e with ipv6Addrs := ∅ }

def enrolledSuffix : Option (BitVec 64) :=
  (d.entries id).bind (·.enrolledIpv6Suffix)

def allocateIpv6 (info : IPv6AssignInfo) : Directory :=
  let d := bindDeviceId amb d id info.deviceId
  let d := observeAll d id (enrolledSuffix d id) info.ips
  d.updateEntry id fun e =>
    { e with mac := some info.mac, ifaceName := some info.ifaceName, lastActive := amb.now }

def flushIpv6 (info : IPv6AssignInfo) : Directory :=
  let d := bindDeviceId amb d id info.deviceId
  let suffix := enrolledSuffix d id
  let d := observeAll (clearIpv6 d id) id suffix info.ips
  d.updateEntry id fun e => { e with mac := some info.mac, ifaceName := some info.ifaceName }

def applyIpv6Event : IPv6AssignEvent → Directory
  | .allocated info =>
    let target := resolveOrCreateByMac amb d info.mac
    allocateIpv6 amb target.2 target.1 info
  | .expired info =>
    match d.byMac info.mac with
    | some id => (info.ips.map (·.ip)).foldl (dropIpv6 id) d
    | none => d
  | .flush info =>
    let target := resolveOrCreateByMac amb d info.mac
    flushIpv6 amb target.2 target.1 info

def Directory.anchorOf : IpAddr → Option Uuid
  | .v4 ip => d.byIpv4 ip
  | .v6 ip => d.byIpv6 ip

def resolveObserved : Uuid × Directory :=
  match event.mac with
  | some mac => resolveOrCreateByMac amb d mac
  | none =>
    match d.anchorOf event.ip with
    | some id => (id, d)
    | none =>
      let id := amb.newId
      (id, { d with entries := update d.entries id (some (.new id none amb.now)) })

def observeIpv4 : Directory :=
  if (currentIpv4 d id).isNone then
    let claimed := claimIpv4 d id ip .arp
    if claimed.1 then
      claimed.2.updateEntry id fun e => { e with ipv4 := some ip, ipv4Source := some .arp }
    else claimed.2
  else d

def observe : IpAddr → Directory
  | .v4 ip => observeIpv4 d id ip
  | .v6 ip =>
    if (d.entries id).any fun e : LanDeviceEntry => ip ∈ e.ipv6Addrs then
      d else observeIpv6 d id ip .slaac

def LanDeviceEntry.seen : LanDeviceEntry :=
  { e with
    ifaceName := some event.ifaceName
    lastActive := now
    arpLastSeen := if event.source = .arp then some now else e.arpLastSeen }

def applyDiscoveryEvent : Directory :=
  let target := resolveObserved amb d event
  let id := target.1
  let d := observe target.2 id event.ip
  let d :=
    match event.mac with
    | some mac => d.updateEntry id fun e => { e with mac := some mac }
    | none => d
  d.updateEntry id (·.seen amb.now event)

def LanDeviceEntry.keep : Bool :=
  e.deviceId.isSome || decide (now - e.lastActive ≤ anonymousTtlMs)

def sweepExpired : Directory :=
  let kept id := (d.entries id).all (·.keep now)
  { entries := fun id => (d.entries id).filter (·.keep now)
    byMac := retain d.byMac kept
    byIpv4 := retain d.byIpv4 kept
    byIpv6 := retain d.byIpv6 kept
    byDeviceId := retain d.byDeviceId kept
    byHostname := retain d.byHostname kept }

inductive Event where
  | device (event : EnrolledDeviceEvent)
  | ipv4 (event : IPv4AssignEvent)
  | ipv6 (event : IPv6AssignEvent)
  | discovery (event : LanDiscoveryEvent)
  | sweep

def apply : Ambient × Event → Directory
  | (amb, .device event) => applyDeviceEvent amb d event
  | (amb, .ipv4 event) => applyIpv4Event amb d event
  | (amb, .ipv6 event) => applyIpv6Event amb d event
  | (amb, .discovery event) => applyDiscoveryEvent amb d event
  | (amb, .sweep) => sweepExpired d amb.now

/-- What a series of events leaves. The seed of the directory is a series of enrolments too. -/
def run (events : List (Ambient × Event)) : Directory := events.foldl apply .empty

end Landscape.LanDevice
