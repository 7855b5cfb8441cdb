import Landscape.Lib.Table
import Landscape.Route.Types

/-! The address assignment of the DHCPv4 server. -/
namespace Landscape.Dhcp4
open Route Table

abbrev Ipv4Addr := UInt32

structure DHCPv4ServerConfig where
  ipRangeStart : Ipv4Addr
  ipRangeEnd : Option Ipv4Addr
  serverIpAddr : Ipv4Addr
  networkMask : UInt8
  addressLeaseTime : Option UInt32
  deriving DecidableEq

inductive InvalidConfig where
  | networkMask (mask : UInt8)
  | serverIpAddr (ip : Ipv4Addr) (mask : UInt8)
  | ipRangeStart (ip : Ipv4Addr) (mask : UInt8)
  | ipRangeStartIsServer (ip : Ipv4Addr)
  | ipRangeEnd (ip : Ipv4Addr) (mask : UInt8)
  | ipRangeEndBelowStart (rangeEnd rangeStart : Ipv4Addr)
  | addressLeaseTime
  deriving DecidableEq

def maskBits (mask : UInt8) : UInt32 := 0xffffffff <<< (32 - mask.toUInt32)

def lastAddress (addr : Ipv4Addr) (mask : UInt8) : Ipv4Addr :=
  (addr &&& maskBits mask) ||| ~~~maskBits mask

def isUsableHost (c : DHCPv4ServerConfig) (ip : Ipv4Addr) : Bool :=
  let network := c.serverIpAddr &&& maskBits c.networkMask
  let broadcast := network ||| ~~~maskBits c.networkMask
  ip &&& maskBits c.networkMask == network && ip != network && ip != broadcast

def DHCPv4ServerConfig.validate (c : DHCPv4ServerConfig) : Except InvalidConfig Unit := do
  if c.networkMask = 0 ∨ c.networkMask > 30 then .error (.networkMask c.networkMask)
  if ¬isUsableHost c c.serverIpAddr then .error (.serverIpAddr c.serverIpAddr c.networkMask)
  if ¬isUsableHost c c.ipRangeStart then .error (.ipRangeStart c.ipRangeStart c.networkMask)
  if c.ipRangeStart = c.serverIpAddr then .error (.ipRangeStartIsServer c.ipRangeStart)
  if let some ipEnd := c.ipRangeEnd then
    let network := c.serverIpAddr &&& maskBits c.networkMask
    if ipEnd &&& maskBits c.networkMask ≠ network ∨ ipEnd = network then
      .error (.ipRangeEnd ipEnd c.networkMask)
    if ipEnd < c.ipRangeStart then .error (.ipRangeEndBelowStart ipEnd c.ipRangeStart)
  if c.addressLeaseTime = some 0 then .error .addressLeaseTime

/-! The state. Times are seconds since the start. -/

def offerValidTime : UInt32 := 20

structure OfferedCache where
  hostname : Option String
  ip : Ipv4Addr
  relativeOfferTime : Nat
  validTime : UInt32
  isStatic : Bool
  prevIp : Option Ipv4Addr
  deriving DecidableEq

variable (c : OfferedCache)

def OfferedCache.expireTime : Nat := c.relativeOfferTime + c.validTime.toNat

inductive IpAllocSource where
  | static (mac : MacAddr)
  | dynamic
  | declined
  deriving DecidableEq

structure StaticBindingEntry where
  ipv4 : Ipv4Addr
  hostname : Option String
  deriving DecidableEq

structure EnrolledDevice where
  mac : MacAddr
  ipv4 : Option Ipv4Addr
  hostname : Option String
  deriving DecidableEq

structure AssignStatus where
  ipRangeStart : Ipv4Addr
  rangeCapacity : UInt32
  staticBindings : AList fun _ : MacAddr => StaticBindingEntry
  ipOwner : AList fun _ : Ipv4Addr => MacAddr
  allocatedHost : AList fun _ : Ipv4Addr => IpAllocSource
  offeredIp : AList fun _ : MacAddr => OfferedCache

variable (hostname : Option String) (now : Nat) (s : AssignStatus) (mac : MacAddr)
  (entry : StaticBindingEntry) (ip : Ipv4Addr)

def staticCache (now : Nat) (validTime : UInt32) :
    OfferedCache := ⟨hostname,ip,now,validTime,true,none⟩

def dynamicCache (now : Nat) (validTime : UInt32) :
    OfferedCache := ⟨hostname,ip,now,validTime,false,none⟩

def takeOver (s : AssignStatus) : AssignStatus :=
  let oldMac := s.ipOwner.lookup ip
  let s := { s with ipOwner := s.ipOwner.insert ip mac }
  match oldMac with
  | some m =>
    if m ≠ mac then
      { s with staticBindings := s.staticBindings.erase m, offeredIp := s.offeredIp.erase m }
    else s
  | none => s

def freeOldIp (old : Option StaticBindingEntry) (s : AssignStatus) : AssignStatus :=
  match old with
  | some e =>
    { s with allocatedHost := s.allocatedHost.erase e.ipv4, ipOwner := s.ipOwner.erase e.ipv4 }
  | none => s

def enroll (device : EnrolledDevice) : AssignStatus :=
  match device.ipv4 with
  | none => s
  | some ipv4 =>
    let old := s.staticBindings.lookup device.mac
    let s := { s with staticBindings := s.staticBindings.insert device.mac ⟨ipv4,device.hostname⟩ }
    let s := takeOver device.mac ipv4 (freeOldIp old s)
    { s with
      allocatedHost := s.allocatedHost.insert ipv4 (.static device.mac)
      offeredIp := s.offeredIp.insert device.mac (staticCache device.hostname ipv4 0 86400) }

def fromConfigAndDevices (config : DHCPv4ServerConfig) (devices : List EnrolledDevice) :
    AssignStatus :=
  let ipAddrEnd := match config.ipRangeEnd with
    | some addr => if addr ≠ 0 then addr else lastAddress config.ipRangeStart config.networkMask
    | none => lastAddress config.ipRangeStart config.networkMask
  devices.foldl enroll
    ⟨config.ipRangeStart,ipAddrEnd - config.ipRangeStart,∅,∅,∅,∅⟩

def expired (c : OfferedCache) : Bool := !c.isStatic && decide (now > c.expireTime)

def expiredIps : List Ipv4Addr :=
  (s.offeredIp.entries.filter fun e => expired now e.2).map fun e => e.2.ip

def cleanExpireIp : AssignStatus :=
  { s with
    offeredIp := retain (fun _ c => !expired now c) s.offeredIp
    allocatedHost :=
      eraseAll (expiredIps now s) (retain (fun _ a => a ≠ .declined) s.allocatedHost) }

def u32Checksum : UInt32 :=
  let b (i : Nat) : UInt32 := .ofBitVec ((mac.extractLsb' (8 * (5 - i)) 8).setWidth 32)
  (b 0 <<< 24) + (b 1 <<< 16) + (b 2 <<< 8) + b 3 + (((b 4 <<< 24) + b 5) <<< 16)

inductive Loop (α : Type) where
  | ended (result : α)
  | divideByZero
  | running

def gaveUp : Bool × AssignStatus :=
  if UInt32.ofNat s.allocatedHost.keys.length = s.rangeCapacity then
    ((expiredIps now s).isEmpty, cleanExpireIp now s)
  else (false, s)

def probed (seed : UInt32) : Ipv4Addr := s.ipRangeStart + seed % s.rangeCapacity

def lease (c : OfferedCache) : AssignStatus :=
  { s with
    offeredIp := s.offeredIp.insert mac c
    allocatedHost := s.allocatedHost.insert c.ip .dynamic }

def probe (now : Nat) (mac : MacAddr) (hostname : Option String) :
    Nat → UInt32 → AssignStatus → Loop (Option Ipv4Addr × AssignStatus)
  | 0, _, _ => .running
  | turns + 1, seed, s =>
    let (full, s) := gaveUp now s
    if full then .ended (none, s)
    else if s.rangeCapacity = 0 then .divideByZero
    else
      let address := probed s seed
      if address ∈ s.allocatedHost then probe now mac hostname turns (seed + 1) s
      else .ended (some address, lease s mac (dynamicCache hostname address now offerValidTime))

def offerIp (turns now : Nat) (mac : MacAddr) (hostname : Option String) (s : AssignStatus) :
    Loop (Option Ipv4Addr × AssignStatus) :=
  match s.staticBindings.lookup mac with
  | some entry =>
    let s := match s.offeredIp.lookup mac with
      | some old =>
        if old.ip ≠ entry.ipv4 then { s with allocatedHost := s.allocatedHost.erase old.ip } else s
      | none => s
    .ended (some entry.ipv4,
      { s with
        offeredIp := s.offeredIp.insert mac
          (staticCache (hostname.or entry.hostname) entry.ipv4 now offerValidTime)
        allocatedHost := s.allocatedHost.insert entry.ipv4 (.static mac) })
  | none =>
    match s.offeredIp.lookup mac with
    | some c => .ended (some c.ip, s)
    | none => probe now mac hostname turns (u32Checksum mac) s

def conflictsWithStaticBinding : Bool :=
  (s.staticBindings.lookup mac).any (·.ipv4 ≠ ip) || (s.ipOwner.lookup ip).any (· ≠ mac)

def isIpInRange : Bool :=
  s.ipRangeStart ≤ ip && ip < s.ipRangeStart + s.rangeCapacity

def OfferedCache.renew (addressLeaseTime : UInt32) : OfferedCache :=
  { c with
    hostname := hostname
    validTime := if c.isStatic then c.validTime else addressLeaseTime
    relativeOfferTime := now }

def ackRequest (hostname : Option String)
    (addressLeaseTime : UInt32) (s : AssignStatus) : Bool × AssignStatus :=
  if conflictsWithStaticBinding s mac ip then (false, s)
  else
    match s.offeredIp.lookup mac with
    | some c =>
      if c.ip = ip then
        (true, { s with
          offeredIp := s.offeredIp.insert mac (c.renew hostname now addressLeaseTime) })
      else (false, s)
    | none =>
      if ip ∈ s.allocatedHost then (false, s)
      else if ¬isIpInRange s ip then (false, s)
      else (true, lease s mac (dynamicCache hostname ip now addressLeaseTime))

def releaseIp (s : AssignStatus) : Bool × AssignStatus :=
  if mac ∈ s.offeredIp then
    (true, { s with offeredIp := s.offeredIp.erase mac, allocatedHost := s.allocatedHost.erase ip })
  else (false, s)

def addDeclineIp (s : AssignStatus) : AssignStatus :=
  if ip ∈ s.allocatedHost then s
  else { s with allocatedHost := s.allocatedHost.insert ip .declined }

def isDynamicOwner (mac : MacAddr) : Bool :=
  (s.offeredIp.lookup mac).any fun c => c.ip = ip && !c.isStatic

def findsDynamicOwner : Option MacAddr → Bool
  | some z => isDynamicOwner s ip z
  | none => s.offeredIp.keys.all fun z => !isDynamicOwner s ip z

def dropOldEntry (s : AssignStatus) : AssignStatus :=
  match s.staticBindings.lookup mac with
  | some e =>
    { s with
      staticBindings := s.staticBindings.erase mac
      ipOwner := s.ipOwner.erase e.ipv4
      allocatedHost :=
        if s.allocatedHost.lookup e.ipv4 = some (.static mac) then s.allocatedHost.erase e.ipv4
        else s.allocatedHost
      offeredIp := s.offeredIp.erase mac }
  | none => s

def reserve (s : AssignStatus) : AssignStatus :=
  { s with
    staticBindings := s.staticBindings.insert mac entry
    allocatedHost := s.allocatedHost.insert entry.ipv4 (.static mac)
    offeredIp := s.offeredIp.insert mac (staticCache entry.hostname entry.ipv4 now 86400) }

def setPrevIp (s : AssignStatus) : AssignStatus :=
  match s.offeredIp.lookup mac with
  | some c => { s with offeredIp := s.offeredIp.insert mac { c with prevIp := some ip } }
  | none => s

def bindMac (s : AssignStatus) : AssignStatus :=
  reserve now mac entry (takeOver mac entry.ipv4 (dropOldEntry mac s))

/-- `owner` is what `find_dynamic_owner_of_ip` finds, if it is asked. -/
def addOrUpdateBinding (turns now : Nat) (mac : MacAddr) (entry : StaticBindingEntry)
    (owner : Option MacAddr) (s : AssignStatus) : Loop AssignStatus :=
  let kicked := if s.allocatedHost.lookup entry.ipv4 = some .dynamic then owner else none
  match kicked with
  | none => .ended (bindMac now mac entry s)
  | some z =>
    let hostname := (s.offeredIp.lookup z).bind (·.hostname)
    let s := bindMac now mac entry { s with offeredIp := s.offeredIp.erase z }
    match offerIp turns now z hostname s with
    | .ended (_, s) => .ended (setPrevIp z entry.ipv4 s)
    | .divideByZero => .divideByZero
    | .running => .running

def removeBinding (s : AssignStatus) : AssignStatus :=
  match s.staticBindings.lookup mac with
  | none => s
  | some e =>
    let s := { s with
      staticBindings := s.staticBindings.erase mac
      ipOwner := s.ipOwner.erase e.ipv4
      offeredIp := s.offeredIp.erase mac }
    if s.allocatedHost.lookup e.ipv4 = some (.static mac) ∧
        ¬s.offeredIp.entries.any (fun x => x.2.ip = e.ipv4 && !x.2.isStatic) then
      { s with allocatedHost := s.allocatedHost.erase e.ipv4 }
    else s

inductive Event where
  | offerIp (turns now : Nat) (mac : MacAddr) (hostname : Option String)
  | ackRequest (now : Nat) (mac : MacAddr) (ip : Ipv4Addr) (hostname : Option String)
    (addressLeaseTime : UInt32)
  | releaseIp (mac : MacAddr) (ip : Ipv4Addr)
  | addDeclineIp (ip : Ipv4Addr)
  | cleanExpireIp (now : Nat)
  | addOrUpdateBinding (turns now : Nat) (mac : MacAddr) (entry : StaticBindingEntry)
    (owner : Option MacAddr)
  | removeBinding (mac : MacAddr)

/-- An operation that does not come to its end leaves no state. -/
def step : Event → Option AssignStatus
  | .offerIp turns now mac hostname =>
    match Dhcp4.offerIp turns now mac hostname s with
    | .ended r => some r.2
    | _ => none
  | .ackRequest now mac ip hostname leaseTime =>
    some (Dhcp4.ackRequest now mac ip hostname leaseTime s).2
  | .releaseIp mac ip => some (Dhcp4.releaseIp mac ip s).2
  | .addDeclineIp ip => some (Dhcp4.addDeclineIp ip s)
  | .cleanExpireIp now => some (Dhcp4.cleanExpireIp now s)
  | .addOrUpdateBinding turns now mac entry owner =>
    if findsDynamicOwner s entry.ipv4 owner then
      match Dhcp4.addOrUpdateBinding turns now mac entry owner s with
      | .ended s => some s
      | _ => none
    else none
  | .removeBinding mac => some (Dhcp4.removeBinding mac s)

end Landscape.Dhcp4
