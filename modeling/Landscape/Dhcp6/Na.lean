import Landscape.Lib.Table
import Landscape.Route.Types

/-! The IA_NA addresses of the DHCPv6 server and the SLAAC addresses it has observed. -/
namespace Landscape.Dhcp6
open Route Table

abbrev Ipv6Addr := BitVec 128
abbrev Duid := List UInt8

variable (order : List Duid) (now t1 t2 : Nat) (duid : Duid) (mac : MacAddr) (ip : Ipv6Addr)

def ipv6Suffix : UInt64 := .ofBitVec (ip.setWidth 64)

/-! The state. Times are seconds since the start. -/

structure DHCPv6IANAConfig where
  maxPrefixLen : UInt8
  poolStart : UInt64
  poolEnd : Option UInt64
  preferredLifetime : UInt32
  validLifetime : UInt32
  deriving DecidableEq

def defaultIaNaPoolSpan : UInt64 := 0xFFFF

structure EnrolledDevice where
  mac : MacAddr
  ipv6 : Option Ipv6Addr
  deriving DecidableEq

structure NaLease where
  suffix : UInt64
  mac : MacAddr
  hostname : Option String
  relativeOfferTime : Nat
  validTime : UInt32
  preferredTime : UInt32
  isStatic : Bool
  prevSuffix : Option UInt64
  deriving DecidableEq

inductive SuffixOwner where
  | staticMac (mac : MacAddr)
  | dynamicDuid (duid : Duid)
  deriving DecidableEq

structure SlaacEntry where
  mac : MacAddr
  relativeActiveTime : Nat
  probePending : Bool
  deriving DecidableEq

structure NaStatus where
  naConfig : Option DHCPv6IANAConfig
  naPoolStart : UInt64
  naRangeCapacity : UInt64
  naLeasesByDuid : AList fun _ : Duid => NaLease
  naOwnersBySuffix : AList fun _ : UInt64 => SuffixOwner
  naStaticByMac : AList fun _ : MacAddr => UInt64
  slaacEntries : AList fun _ : Ipv6Addr => SlaacEntry
  preferredLifetime : UInt32
  validLifetime : UInt32

def saturatingAdd (a b : UInt64) : UInt64 := if a ≤ a + b then a + b else 0xFFFFFFFFFFFFFFFF

def saturatingSub (a b : UInt64) : UInt64 := if b ≤ a then a - b else 0

variable (entry : SlaacEntry) (suffix : UInt64) (excludedSuffix old : Option UInt64)
  (hostname : Option String) (s : NaStatus)

def enroll (device : EnrolledDevice) : NaStatus :=
  match device.ipv6 with
  | none => s
  | some ipv6 =>
    { s with
      naStaticByMac := s.naStaticByMac.insert device.mac (ipv6Suffix ipv6)
      naOwnersBySuffix := s.naOwnersBySuffix.insert (ipv6Suffix ipv6) (.staticMac device.mac) }

def NaStatus.new (naConfig : Option DHCPv6IANAConfig) (devices : List EnrolledDevice)
    (preferredLifetime validLifetime : UInt32) : NaStatus :=
  let start := (naConfig.map (·.poolStart)).getD 0
  let poolEnd := (naConfig.bind (·.poolEnd)).getD (saturatingAdd start defaultIaNaPoolSpan)
  devices.foldl enroll
    ⟨naConfig,start,saturatingSub poolEnd start,∅,∅,∅,∅,preferredLifetime,validLifetime⟩

def maxOfferLifetime : UInt32 := 120

def offerLifetime (lifetime : UInt32) : UInt32 := min (lifetime / 2) maxOfferLifetime

/-! The leases of a MAC. The order in which the map is walked is not known: each call is given one,
`order`, that has all the keys. -/

def walks : Bool :=
  s.naLeasesByDuid.keys.all fun d => order.contains d

def firstLease (p : NaLease → Bool) (s : NaStatus) : Option Duid :=
  order.find? fun d => (s.naLeasesByDuid.lookup d).any p

def staticLeaseDuidForMac : Option Duid :=
  firstLease order (fun l => l.mac = mac && l.isStatic) s

def leaseDuidForMac : Option Duid :=
  (staticLeaseDuidForMac order mac s).or (firstLease order (fun l => l.mac = mac) s)

def removeDynamicOwnerIfMatches (duid : Duid) (s : NaStatus) : NaStatus :=
  if s.naOwnersBySuffix.lookup suffix = some (.dynamicDuid duid) then
    { s with naOwnersBySuffix := s.naOwnersBySuffix.erase suffix }
  else s

def removeNaLease : NaStatus :=
  match s.naLeasesByDuid.lookup duid with
  | none => s
  | some lease =>
    let s := { s with naLeasesByDuid := s.naLeasesByDuid.erase duid }
    if lease.isStatic then s else removeDynamicOwnerIfMatches lease.suffix duid s

def naExpired (l : NaLease) : Bool :=
  !l.isStatic && decide (now > l.relativeOfferTime + l.validTime.toNat)

def expiredDuids : List Duid :=
  (s.naLeasesByDuid.entries.filter fun e => naExpired now e.2).map fun e => e.1

def cleanExpiredNa : NaStatus :=
  (expiredDuids now s).foldl (fun s d => removeNaLease d s) s

def releaseNa : NaStatus := removeNaLease duid s

def dropLeaseOwner (duid : Option Duid) (s : NaStatus) : NaStatus :=
  match duid with
  | some duid =>
    match s.naLeasesByDuid.lookup duid with
    | some lease => removeDynamicOwnerIfMatches lease.suffix duid s
    | none => s
  | none => s

def dropStaticLease : NaStatus :=
  match staticLeaseDuidForMac order mac s with
  | some oldDuid =>
    if oldDuid ≠ duid then { s with naLeasesByDuid := s.naLeasesByDuid.erase oldDuid } else s
  | none => s

def dropSlaac : NaStatus :=
  { s with slaacEntries := retain (fun ip _ => ipv6Suffix ip ≠ suffix) s.slaacEntries }

def insertLease (owner : SuffixOwner) (lease : NaLease) (s : NaStatus) : NaStatus :=
  dropSlaac lease.suffix
    { s with
      naOwnersBySuffix := s.naOwnersBySuffix.insert lease.suffix owner
      naLeasesByDuid := s.naLeasesByDuid.insert duid lease }

def offeredLease (suffix : UInt64) (mac : MacAddr) (hostname : Option String) (now : Nat)
    (isStatic : Bool) (prevSuffix : Option UInt64) : NaLease :=
  let t := offerLifetime s.preferredLifetime
  ⟨suffix,mac,hostname,now,t,t,isStatic,prevSuffix⟩

def insertStaticNaLease (now : Nat) (s : NaStatus) : NaStatus :=
  let previousSuffix := (s.naLeasesByDuid.lookup duid).map (·.suffix)
  let s := dropStaticLease order duid mac (dropLeaseOwner (some duid) s)
  insertLease duid (.staticMac mac)
    (offeredLease s suffix mac hostname now true (previousSuffix.filter (· ≠ suffix))) s

def insertDynamicNaLease (now : Nat)
    (prevSuffix : Option UInt64) (suffix : UInt64) (s : NaStatus) : NaStatus :=
  insertLease duid (.dynamicDuid duid) (offeredLease s suffix mac hostname now false prevSuffix) s

def hashDuid : UInt64 := duid.foldl (fun hash byte => hash * 33 + byte.toUInt64) 5381

def suffixFree (excludedSuffix : Option UInt64) (suffix : UInt64) : Bool :=
  some suffix ≠ excludedSuffix && !decide (suffix ∈ s.naOwnersBySuffix) &&
    s.slaacEntries.keys.all fun ip => ipv6Suffix ip ≠ suffix

def probeSuffix (s : NaStatus) (excludedSuffix : Option UInt64) : Nat → UInt64 → Option UInt64
  | 0, _ => none
  | turns + 1, seed =>
    let suffix := s.naPoolStart + seed % s.naRangeCapacity
    if suffixFree s excludedSuffix suffix then some suffix
    else probeSuffix s excludedSuffix turns (seed + 1)

def findFreeDynamicSuffix :
    Option UInt64 := probeSuffix s excludedSuffix s.naRangeCapacity.toNat (hashDuid duid)

def allocateDynamicNaSuffix (now : Nat)
    (prevSuffix excludedSuffix : Option UInt64) (s : NaStatus) : Option UInt64 × NaStatus :=
  if s.naRangeCapacity = 0 then (none, s)
  else
    match findFreeDynamicSuffix duid excludedSuffix s with
    | some suffix => (some suffix, insertDynamicNaLease duid mac hostname now prevSuffix suffix s)
    | none =>
      if (expiredDuids now s).isEmpty then (none, s)
      else
        let s := cleanExpiredNa now s
        match findFreeDynamicSuffix duid excludedSuffix s with
        | some suffix =>
          (some suffix, insertDynamicNaLease duid mac hostname now prevSuffix suffix s)
        | none => (none, s)

/-- The suffix that is offered; the addresses of the reply are this suffix in the prefixes of the
moment. -/
def offerNa : Option UInt64 × NaStatus :=
  match s.naStaticByMac.lookup mac with
  | some suffix => (some suffix, insertStaticNaLease order duid mac suffix hostname now s)
  | none =>
    match s.naLeasesByDuid.lookup duid with
    | some lease => (some lease.suffix, s)
    | none =>
      if s.naConfig.isNone then (none, s)
      else allocateDynamicNaSuffix duid mac hostname now none none s

def confirmNa : Bool × NaStatus :=
  if s.naConfig.isNone then (false, s)
  else
    match s.naLeasesByDuid.lookup duid with
    | some lease =>
      let lease := { lease with
        validTime := s.validLifetime
        preferredTime := s.preferredLifetime
        relativeOfferTime := now }
      (true, { s with naLeasesByDuid := s.naLeasesByDuid.insert duid lease })
    | none => (false, s)

def consumePrevSuffix : NaStatus :=
  match s.naLeasesByDuid.lookup duid with
  | some lease =>
    { s with naLeasesByDuid := s.naLeasesByDuid.insert duid { lease with prevSuffix := none } }
  | none => s

inductive MacSuffixBindResult where
  | bound
  | alreadyBound
  | staticConflict (owner : MacAddr)
  | invariantViolation

def inDynamicPool (suffix : UInt64) : Bool :=
  s.naPoolStart ≤ suffix && suffix < s.naPoolStart + s.naRangeCapacity

def dropOldOwner : NaStatus :=
  match old with
  | some old =>
    if old ≠ suffix ∧ s.naOwnersBySuffix.lookup old = some (.staticMac mac) then
      { s with naOwnersBySuffix := s.naOwnersBySuffix.erase old }
    else s
  | none => s

def NaLease.restart (l : NaLease) (s : NaStatus) (suffix : UInt64) (isStatic : Bool)
    (prevSuffix : Option UInt64) (now : Nat) : NaLease :=
  offeredLease s suffix l.mac l.hostname now isStatic prevSuffix

/- The client that held the suffix gets the one the MAC had, or any other if the MAC had none. -/
def reassign (duid : Duid) (lease : NaLease) (s : NaStatus) : NaStatus :=
  match old with
  | some old =>
    if old ≠ suffix ∧ inDynamicPool s old ∧ old ∉ s.naOwnersBySuffix then
      { s with
        naOwnersBySuffix := s.naOwnersBySuffix.insert old (.dynamicDuid duid)
        naLeasesByDuid :=
          s.naLeasesByDuid.insert duid (lease.restart s old false (some suffix) now) }
    else s
  | none =>
    if s.naConfig.isSome then
      (allocateDynamicNaSuffix duid lease.mac lease.hostname now (some suffix) (some suffix) s).2
    else s

def evictOccupant (macDuid : Option Duid) (s : NaStatus) : NaStatus :=
  let occupant := s.naOwnersBySuffix.lookup suffix
  let s := { s with naOwnersBySuffix := s.naOwnersBySuffix.erase suffix }
  match occupant with
  | some (.dynamicDuid duid) =>
    if macDuid ≠ some duid then
      match s.naLeasesByDuid.lookup duid with
      | some lease =>
        reassign now suffix old duid lease { s with naLeasesByDuid := s.naLeasesByDuid.erase duid }
      | none => s
    else s
  | _ => s

def moveLease (macDuid : Option Duid) (s : NaStatus) : NaStatus :=
  match macDuid with
  | some duid =>
    match s.naLeasesByDuid.lookup duid with
    | some lease =>
      let prev := if lease.suffix ≠ suffix then some lease.suffix else none
      { s with
        naLeasesByDuid := s.naLeasesByDuid.insert duid (lease.restart s suffix true prev now) }
    | none => s
  | none => s

def claimSuffix : NaStatus :=
  let old := s.naStaticByMac.lookup mac
  let macDuid := leaseDuidForMac order mac s
  let s := { s with naStaticByMac := s.naStaticByMac.insert mac suffix }
  let s := dropLeaseOwner macDuid (dropOldOwner mac suffix old s)
  let s := evictOccupant now suffix old macDuid s
  let s := { s with naOwnersBySuffix := s.naOwnersBySuffix.insert suffix (.staticMac mac) }
  moveLease now suffix macDuid s

def conflictOwner (mac : MacAddr) (suffix : UInt64) : Option MacAddr :=
  match s.naOwnersBySuffix.lookup suffix with
  | some (.staticMac owner) => if owner ≠ mac then some owner else none
  | _ => none

def oldOwnerViolated (mac : MacAddr) (suffix : UInt64) : Bool :=
  (s.naStaticByMac.lookup mac).any fun old =>
    old ≠ suffix && (s.naOwnersBySuffix.lookup old).any fun o => o ≠ .staticMac mac

def bindMacSuffix : MacSuffixBindResult × NaStatus :=
  if s.naStaticByMac.lookup mac = some suffix ∧
      s.naOwnersBySuffix.lookup suffix = some (.staticMac mac) then (.alreadyBound, s)
  else
    match conflictOwner s mac suffix with
    | some owner => (.staticConflict owner, s)
    | none =>
      if oldOwnerViolated s mac suffix then (.invariantViolation, s)
      else (.bound, claimSuffix order now mac suffix s)

def keepOrReassign (oldSuffix : UInt64) (duid : Duid) (lease : NaLease) (s : NaStatus) : NaStatus :=
  if inDynamicPool s oldSuffix ∧ oldSuffix ∉ s.naOwnersBySuffix then
    { s with
      naOwnersBySuffix := s.naOwnersBySuffix.insert oldSuffix (.dynamicDuid duid)
      naLeasesByDuid :=
        s.naLeasesByDuid.insert duid (lease.restart s lease.suffix false (some oldSuffix) now) }
  else if s.naConfig.isSome then
    (allocateDynamicNaSuffix duid lease.mac lease.hostname now (some oldSuffix) none s).2
  else s

def dropBinding (oldSuffix : UInt64) (s : NaStatus) : NaStatus :=
  let s := { s with naStaticByMac := s.naStaticByMac.erase mac }
  if s.naOwnersBySuffix.lookup oldSuffix = some (.staticMac mac) then
    { s with naOwnersBySuffix := s.naOwnersBySuffix.erase oldSuffix }
  else s

def removeMacBinding : NaStatus :=
  match s.naStaticByMac.lookup mac with
  | none => s
  | some oldSuffix =>
    let s := dropBinding mac oldSuffix s
    match staticLeaseDuidForMac order mac s with
    | none => s
    | some duid =>
      match s.naLeasesByDuid.lookup duid with
      | none => s
      | some lease =>
        keepOrReassign now oldSuffix duid lease
          { s with naLeasesByDuid := s.naLeasesByDuid.erase duid }

inductive SlaacResult where
  | recorded
  | conflict

def recordSlaacAddr : SlaacResult × NaStatus :=
  if ipv6Suffix ip ∈ s.naOwnersBySuffix then (.conflict, s)
  else (.recorded, { s with slaacEntries := s.slaacEntries.insert ip ⟨mac,now,false⟩ })

def touchSlaacAddr : Bool × NaStatus :=
  match s.slaacEntries.lookup ip with
  | none => (false, s)
  | some entry =>
    if entry.mac ≠ mac then (false, s)
    else (true, { s with slaacEntries := s.slaacEntries.insert ip { entry with
      relativeActiveTime := now
      probePending := false } })

def touchSlaacProbe : Option MacAddr × NaStatus :=
  match s.slaacEntries.lookup ip with
  | none => (none, s)
  | some entry =>
    if entry.probePending = false then (none, s)
    else (some entry.mac, { s with slaacEntries := s.slaacEntries.insert ip { entry with
      relativeActiveTime := now
      probePending := false } })

structure SlaacSweep where
  toProbe : List Ipv6Addr
  expired : List (Ipv6Addr × MacAddr)

def slaacAge : Nat := now - entry.relativeActiveTime

def probeDue : Bool :=
  slaacAge now entry < t2 && t1 ≤ slaacAge now entry && !entry.probePending

def markProbed : SlaacEntry :=
  if probeDue now t1 t2 entry then { entry with probePending := true } else entry

def slaacExpireSweep : SlaacSweep × NaStatus :=
  let entries := s.slaacEntries.entries
  let kept := retain (fun _ e => slaacAge now e < t2) s.slaacEntries
  (⟨(entries.filter fun e => probeDue now t1 t2 e.2).map (·.1),
    (entries.filter fun e => t2 ≤ slaacAge now e.2).map fun e => (e.1, e.2.mac)⟩,
   { s with slaacEntries := mapVals (markProbed now t1 t2) kept })

inductive AddrSource where
  | slaac
  | dhcpv6Na
  deriving DecidableEq

structure AssignedAddr where
  ip : Ipv6Addr
  mac : Option MacAddr
  duid : Option Duid
  hostname : Option String
  source : AddrSource
  isStatic : Bool
  relativeActiveTime : Nat
  preferredLifetime : UInt32
  validLifetime : UInt32

def ownerDuid : SuffixOwner → Option Duid
  | .staticMac mac => staticLeaseDuidForMac order mac s
  | .dynamicDuid duid => some duid

def ownedAddr (owner : SuffixOwner) (s : NaStatus) : Option AssignedAddr :=
  match (ownerDuid order s owner).bind fun d => (s.naLeasesByDuid.lookup d).map fun l => (d, l) with
  | some (duid, lease) =>
    some ⟨ip,some lease.mac,some duid,lease.hostname,.dhcpv6Na,lease.isStatic,
      lease.relativeOfferTime,lease.preferredTime,lease.validTime⟩
  | none =>
    match owner with
    | .staticMac mac => some ⟨ip,some mac,none,none,.dhcpv6Na,true,0,0,0⟩
    | .dynamicDuid _ => none

def lookupByIp : Option AssignedAddr :=
  match s.slaacEntries.lookup ip with
  | some entry =>
    some ⟨ip,some entry.mac,none,none,.slaac,false,entry.relativeActiveTime,0,0⟩
  | none => (s.naOwnersBySuffix.lookup (ipv6Suffix ip)).bind fun o => ownedAddr order ip o s

inductive NaEvent where
  | offerNa (order : List Duid) (now : Nat) (duid : Duid) (mac : MacAddr) (hostname : Option String)
  | confirmNa (now : Nat) (duid : Duid)
  | consumePrevSuffix (duid : Duid)
  | releaseNa (duid : Duid)
  | cleanExpiredNa (now : Nat)
  | bindMacSuffix (order : List Duid) (now : Nat) (mac : MacAddr) (suffix : UInt64)
  | removeMacBinding (order : List Duid) (now : Nat) (mac : MacAddr)
  | recordSlaacAddr (now : Nat) (mac : MacAddr) (ip : Ipv6Addr)
  | touchSlaacAddr (now : Nat) (mac : MacAddr) (ip : Ipv6Addr)
  | touchSlaacProbe (now : Nat) (ip : Ipv6Addr)
  | slaacExpireSweep (now t1 t2 : Nat)

def naStep : NaEvent → Option NaStatus
  | .offerNa order now duid mac hostname =>
    if walks order s then some (offerNa order now duid mac hostname s).2 else none
  | .confirmNa now duid => some (confirmNa now duid s).2
  | .consumePrevSuffix duid => some (consumePrevSuffix duid s)
  | .releaseNa duid => some (releaseNa duid s)
  | .cleanExpiredNa now => some (cleanExpiredNa now s)
  | .bindMacSuffix order now mac suffix =>
    if walks order s then some (bindMacSuffix order now mac suffix s).2 else none
  | .removeMacBinding order now mac =>
    if walks order s then some (removeMacBinding order now mac s) else none
  | .recordSlaacAddr now mac ip => some (recordSlaacAddr now mac ip s).2
  | .touchSlaacAddr now mac ip => some (touchSlaacAddr now mac ip s).2
  | .touchSlaacProbe now ip => some (touchSlaacProbe now ip s).2
  | .slaacExpireSweep now t1 t2 => some (slaacExpireSweep now t1 t2 s).2

end Landscape.Dhcp6
