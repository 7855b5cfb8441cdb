import Landscape.Dhcp6.Na
import Landscape.Lib.Checks

/-! The prefix groups of the LAN interfaces and the checks a configuration must pass. -/
namespace Landscape.Dhcp6
open Checks

abbrev Uuid := BitVec 128

structure LDIAPrefix where
  preferredLifetime : UInt32
  validLifetime : UInt32
  prefixLen : UInt8
  prefixIp : Ipv6Addr
  lastUpdateTime : Nat
  deriving DecidableEq

inductive PrefixParentSource where
  | static (basePrefix : Ipv6Addr) (parentPrefixLen : UInt8)
  | pd (linkId : Uuid) (expectedPdLenSnapshot : UInt8)
  deriving DecidableEq

structure RaPrefixConfig where
  poolIndex : UInt32
  deriving DecidableEq

structure NaPrefixConfig where
  poolIndex : UInt32
  deriving DecidableEq

structure PdPrefixRangeConfig where
  poolLen : UInt8
  startIndex : UInt32
  endIndex : UInt32
  deriving DecidableEq

structure LanPrefixGroupConfig where
  groupId : String
  parent : PrefixParentSource
  ra : Option RaPrefixConfig
  na : Option NaPrefixConfig
  pd : Option PdPrefixRangeConfig
  deriving DecidableEq

structure DHCPv6IAPDConfig where
  delegatePrefixLen : UInt8
  preferredLifetime : UInt32
  validLifetime : UInt32
  deriving DecidableEq

structure DHCPv6ServerConfig where
  enable : Bool
  iaNa : Option DHCPv6IANAConfig
  iaPd : Option DHCPv6IAPDConfig
  deriving DecidableEq

inductive IPv6ServiceMode where
  | slaac
  | stateful
  | slaacDhcpv6
  deriving DecidableEq

structure RouterFlags where
  managedAddressConfig : Bool
  otherConfig : Bool
  deriving DecidableEq

structure LanIPv6ConfigV2 where
  mode : IPv6ServiceMode
  lifetime : UInt32
  raFlag : RouterFlags
  prefixGroups : List LanPrefixGroupConfig
  dhcpv6 : Option DHCPv6ServerConfig
  deriving DecidableEq

structure LanIPv6ServiceConfigV2 where
  ifaceName : String
  config : LanIPv6ConfigV2
  deriving DecidableEq

structure PdPrefixContext where
  actualPrefix : Option LDIAPrefix

abbrev PdPrefixContextMap := Uuid → Option PdPrefixContext

def normalizePrefix (ip : Ipv6Addr) (len : UInt8) : Ipv6Addr :=
  if len = 0 then 0
  else if len ≥ 128 then ip
  else ip &&& (BitVec.allOnes 128 <<< (128 - len.toNat))

inductive ExpandedParentKey where
  | resolved (network : Ipv6Addr)
  | pdFallback (linkId : Uuid)
  deriving DecidableEq

inductive PrefixGroupServiceKind where
  | ra
  | na
  | iaPd
  deriving DecidableEq

structure ExpandedPrefixEntry where
  parent : ExpandedParentKey
  parentPrefixLen : UInt8
  serviceKind : PrefixGroupServiceKind
  startIndex : UInt32
  endIndex : UInt32
  poolLen : UInt8
  deriving DecidableEq

def PrefixParentSource.resolvedParentPrefixLen : PrefixParentSource → UInt8
  | .static _ parentPrefixLen => parentPrefixLen
  | .pd _ expectedPdLenSnapshot => expectedPdLenSnapshot

def PrefixParentSource.expandedParentKey (p : PrefixParentSource)
    (ctx : Option PdPrefixContextMap) :
    ExpandedParentKey :=
  match p with
  | .static basePrefix parentPrefixLen => .resolved (normalizePrefix basePrefix parentPrefixLen)
  | .pd linkId snapshot =>
    match (ctx.bind fun c => c linkId).bind (·.actualPrefix) with
    | some actual =>
      .resolved (normalizePrefix (normalizePrefix actual.prefixIp actual.prefixLen) snapshot)
    | none => .pdFallback linkId

def parentsAreComparable (a b : ExpandedPrefixEntry) : Bool :=
  match a.parent, b.parent with
  | .resolved _, .resolved _ => true
  | .pdFallback l, .pdFallback r => l = r
  | _, _ => false

def checkedAdd (a b : Nat) : Option Nat := if a + b < 2 ^ 128 then some (a + b) else none

def checkedMul (a b : Nat) : Option Nat := if a * b < 2 ^ 128 then some (a * b) else none

def ExpandedParentKey.base : ExpandedParentKey → Nat
  | .resolved network => network.toNat
  | .pdFallback _ => 0

def ExpandedPrefixEntry.addressInterval (e : ExpandedPrefixEntry) : Option (Nat × Nat) :=
  if e.poolLen = 0 ∨ e.poolLen > 128 ∨ e.poolLen < e.parentPrefixLen then none
  else do
    let blockSize := 2 ^ (128 - e.poolLen.toNat)
    let first ← checkedAdd e.parent.base (← checkedMul e.startIndex.toNat blockSize)
    let lastStart ← checkedAdd e.parent.base (← checkedMul e.endIndex.toNat blockSize)
    return (first, lastStart ||| (blockSize - 1))

def ExpandedPrefixEntry.globalSlotInterval (e : ExpandedPrefixEntry) : Option (Nat × Nat) :=
  if e.poolLen = 0 ∨ e.poolLen > 64 ∨ e.startIndex > e.endIndex then none
  else
    let blockSize := 2 ^ (64 - e.poolLen.toNat)
    some (e.startIndex.toNat * blockSize, (e.endIndex.toNat + 1) * blockSize - 1)

variable (pending : LanIPv6ServiceConfigV2) (existing : List LanIPv6ServiceConfigV2)
  (g : LanPrefixGroupConfig)

def activeEntries (mode : IPv6ServiceMode)
    (ctx : Option PdPrefixContextMap) : List ExpandedPrefixEntry :=
  let entry (kind : PrefixGroupServiceKind) (startIndex endIndex : UInt32) (poolLen : UInt8) :
      ExpandedPrefixEntry :=
    ⟨g.parent.expandedParentKey ctx,g.parent.resolvedParentPrefixLen,kind,startIndex,endIndex,
      poolLen⟩
  let ra := if mode = .stateful then none else g.ra
  let na := if mode = .slaac then none else g.na
  let pd := if mode = .slaac then none else g.pd
  (ra.map fun ra => entry .ra ra.poolIndex ra.poolIndex 64).toList ++
    (na.map fun na => entry .na na.poolIndex na.poolIndex 64).toList ++
    (pd.map fun pd => entry .iaPd pd.startIndex pd.endIndex pd.poolLen).toList

inductive InvalidConfig where
  | emptyGroupId
  | duplicateGroupId (groupId : String)
  | staticParentLen (len : UInt8)
  | pdSnapshotLen (len : UInt8)
  | noPdConfiguration (linkId : Uuid)
  | pdPoolLen (len : UInt8)
  | pdRange (endIndex startIndex : UInt32)
  | reservedIndex (kind : PrefixGroupServiceKind) (index : UInt32)
  | parentTooLong (kind : PrefixGroupServiceKind) (parentLen : UInt8)
  | pdPoolLenParent (poolLen parentLen : UInt8)
  | capacity (kind : PrefixGroupServiceKind) (startIndex endIndex : UInt32) (poolLen : UInt8)
  | conflict
  | lifetime (lifetime : UInt32)
  | noRaGroup (mode : IPv6ServiceMode)
  | noNaGroup
  | noDhcpv6Group
  | managedFlag (mode : IPv6ServiceMode)
  | notUla (basePrefix : Ipv6Addr)
  | dhcpv6Missing (mode : IPv6ServiceMode)
  | dhcpv6Enabled (mode : IPv6ServiceMode)
  | iaNaMaxPrefixLen (len : UInt8)
  | iaNaPoolStart (start : UInt64)
  | iaNaPoolEnd (poolEnd start : UInt64)
  | iaNaPoolEndBound (poolEnd : UInt64)
  | iaNaValidLifetime
  | iaNaPreferredLifetime
  | iaPdDelegatePrefixLen (len : UInt8)
  | iaPdValidLifetime
  | iaPdPreferredLifetime
  deriving DecidableEq

/- `1u64.checked_shl(bits).unwrap_or(u64::MAX)` -/
def blockLimit (bits : Nat) : Nat := if bits < 64 then 2 ^ bits else 2 ^ 64 - 1

def groupHasCapacity (startIndex endIndex : UInt32) (targetLen parentLen : UInt8) : Bool :=
  if targetLen ≤ parentLen then false
  else endIndex.toNat < blockLimit (targetLen.toNat - parentLen.toNat) && startIndex ≤ endIndex

/- `char::is_whitespace`. -/
def isWhitespace (c : Char) : Bool :=
  let n := c.toNat
  0x9 ≤ n && n ≤ 0xd || 0x2000 ≤ n && n ≤ 0x200a ||
    n ∈ [0x20, 0x85, 0xa0, 0x1680, 0x2028, 0x2029, 0x202f, 0x205f, 0x3000]

/- `trim().is_empty()` -/
def isBlank (s : String) : Bool := s.toList.all isWhitespace

def checkParent (parent : PrefixParentSource) (ctx : Option PdPrefixContextMap) :
    Except InvalidConfig Unit :=
  match parent with
  | .static _ len => reject (len < 56 ∨ len > 63) (.staticParentLen len)
  | .pd linkId snapshot => do
    reject (snapshot = 0 ∨ snapshot > 127) (.pdSnapshotLen snapshot)
    ifSome ctx fun c => reject (c linkId = none) (.noPdConfiguration linkId)

def checkSubnet (kind : PrefixGroupServiceKind) (poolIndex : UInt32) (parentLen : UInt8) :
    Except InvalidConfig Unit := do
  reject (poolIndex = 0) (.reservedIndex kind poolIndex)
  reject (64 ≤ parentLen) (.parentTooLong kind parentLen)
  reject (groupHasCapacity poolIndex poolIndex 64 parentLen = false)
    (.capacity kind poolIndex poolIndex 64)

variable (ctx : Option PdPrefixContextMap)

def LanPrefixGroupConfig.validateWithPdContext : Except InvalidConfig Unit := do
  reject (isBlank g.groupId = true) .emptyGroupId
  checkParent g.parent ctx
  ifSome g.pd fun pd => do
    reject (pd.poolLen = 0 ∨ pd.poolLen > 64) (.pdPoolLen pd.poolLen)
    reject (pd.endIndex < pd.startIndex) (.pdRange pd.endIndex pd.startIndex)
  let parentLen := g.parent.resolvedParentPrefixLen
  ifSome g.ra fun ra => checkSubnet .ra ra.poolIndex parentLen
  ifSome g.na fun na => checkSubnet .na na.poolIndex parentLen
  ifSome g.pd fun pd => do
    reject (pd.startIndex = 0) (.reservedIndex .iaPd pd.startIndex)
    reject (pd.poolLen ≤ parentLen) (.pdPoolLenParent pd.poolLen parentLen)
    reject (groupHasCapacity pd.startIndex pd.endIndex pd.poolLen parentLen = false)
      (.capacity .iaPd pd.startIndex pd.endIndex pd.poolLen)

def isRaNaPair (a b : PrefixGroupServiceKind) : Bool :=
  (a = .ra && b = .na) || (a = .na && b = .ra)

def validateExpandedPair (a b : ExpandedPrefixEntry) (allowRaNaShare : Bool) :
    Except InvalidConfig Unit :=
  if allowRaNaShare && isRaNaPair a.serviceKind b.serviceKind then .ok ()
  else
    ifSome a.addressInterval fun (startA, endA) =>
      ifSome b.addressInterval fun (startB, endB) =>
        reject (startA ≤ endB ∧ startB ≤ endA) .conflict

def checkGroupIds (seen : List String) : List LanPrefixGroupConfig → Except InvalidConfig Unit
  | [] => .ok ()
  | g :: groups => do
    reject (g.groupId ∈ seen) (.duplicateGroupId g.groupId)
    checkGroupIds (g.groupId :: seen) groups

def validatePrefixGroupsWithPdContext (groups : List LanPrefixGroupConfig)
    (ctx : Option PdPrefixContextMap) : Except InvalidConfig Unit := do
  let entries (g : LanPrefixGroupConfig) := activeEntries g .slaacDhcpv6 ctx
  checkGroupIds [] groups
  checkAll groups fun g => do
    g.validateWithPdContext ctx
    checkPairs (entries g) fun a b => validateExpandedPair a b true
  checkPairs groups fun g g' =>
    checkAll (entries g) fun left =>
      checkAll (entries g') fun right =>
        if parentsAreComparable left right then validateExpandedPair left right false else .ok ()

def validatePrefixGroups (groups : List LanPrefixGroupConfig) : Except InvalidConfig Unit :=
  validatePrefixGroupsWithPdContext groups none

def wanIidMarker : UInt64 := 0x8000000000000000

def checkLegacyLifetimes (preferred valid : UInt32) (noValid tooShort : InvalidConfig) :
    Except InvalidConfig Unit := do
  reject (valid = 0) noValid
  reject (preferred > valid) tooShort

def DHCPv6ServerConfig.validate (c : DHCPv6ServerConfig) : Except InvalidConfig Unit :=
  if c.enable = false then .ok ()
  else do
    ifSome c.iaNa fun iaNa => do
      reject (iaNa.maxPrefixLen = 0 ∨ iaNa.maxPrefixLen > 127) (.iaNaMaxPrefixLen iaNa.maxPrefixLen)
      reject (iaNa.poolStart ≥ wanIidMarker) (.iaNaPoolStart iaNa.poolStart)
      let poolEnd := iaNa.poolEnd.getD (saturatingAdd iaNa.poolStart defaultIaNaPoolSpan)
      reject (poolEnd ≤ iaNa.poolStart) (.iaNaPoolEnd poolEnd iaNa.poolStart)
      reject (poolEnd > wanIidMarker) (.iaNaPoolEndBound poolEnd)
      checkLegacyLifetimes iaNa.preferredLifetime iaNa.validLifetime .iaNaValidLifetime
        .iaNaPreferredLifetime
    ifSome c.iaPd fun iaPd => do
      reject (iaPd.delegatePrefixLen = 0 ∨ iaPd.delegatePrefixLen > 128)
        (.iaPdDelegatePrefixLen iaPd.delegatePrefixLen)
      checkLegacyLifetimes iaPd.preferredLifetime iaPd.validLifetime .iaPdValidLifetime
        .iaPdPreferredLifetime

def checkDhcpv6 (mode : IPv6ServiceMode) (dhcpv6 : Option DHCPv6ServerConfig) :
    Except InvalidConfig Unit :=
  match dhcpv6 with
  | none => .error (.dhcpv6Missing mode)
  | some dhcpv6 => do
    reject (dhcpv6.enable = false) (.dhcpv6Enabled mode)
    dhcpv6.validate

def isUla (addr : Ipv6Addr) : Bool := (addr >>> 120) &&& 0xfe == 0xfc

def checkRaParentUla : Except InvalidConfig Unit :=
  match g.parent with
  | .static basePrefix _ => reject (g.ra.isSome ∧ isUla basePrefix = false) (.notUla basePrefix)
  | .pd .. => .ok ()

def LanIPv6ConfigV2.checkMode (c : LanIPv6ConfigV2) : Except InvalidConfig Unit :=
  match c.mode with
  | .slaac => do
    reject (c.prefixGroups.any (·.ra.isSome) = false) (.noRaGroup .slaac)
    reject (c.raFlag.managedAddressConfig = true) (.managedFlag .slaac)
    ifSome c.dhcpv6 fun d => reject (d.enable = true) (.dhcpv6Enabled .slaac)
  | .stateful => do
    reject (c.prefixGroups.any (·.na.isSome) = false) .noNaGroup
    reject (c.raFlag.managedAddressConfig = false ∨ c.raFlag.otherConfig = false)
      (.managedFlag .stateful)
    checkDhcpv6 .stateful c.dhcpv6
  | .slaacDhcpv6 => do
    reject (c.prefixGroups.any (·.ra.isSome) = false) (.noRaGroup .slaacDhcpv6)
    checkAll c.prefixGroups checkRaParentUla
    reject (c.raFlag.managedAddressConfig = false ∨ c.raFlag.otherConfig = false)
      (.managedFlag .slaacDhcpv6)
    reject (c.prefixGroups.any (fun g => g.na.isSome || g.pd.isSome) = false) .noDhcpv6Group
    checkDhcpv6 .slaacDhcpv6 c.dhcpv6

def LanIPv6ConfigV2.validateWithPdContext (c : LanIPv6ConfigV2) (ctx : Option PdPrefixContextMap) :
    Except InvalidConfig Unit := do
  validatePrefixGroupsWithPdContext c.prefixGroups ctx
  reject (c.lifetime < 60 ∨ c.lifetime > 65535) (.lifetime c.lifetime)
  c.checkMode

/-! The check across interfaces: slots are compared, whatever the parents are. -/

structure SourcedEntry where
  groupInstance : Nat
  ifaceName : String
  groupId : String
  entry : ExpandedPrefixEntry
  deriving DecidableEq

inductive LanIPv6Error where
  | wanReservedPrefixConflict (e : SourcedEntry)
  | prefixSlotOverlap (overlapStart overlapEnd : Nat) (left right : SourcedEntry)
  | invalid (e : InvalidConfig)
  deriving DecidableEq

def buildMergedConfigs : List LanIPv6ServiceConfigV2 :=
  existing.filter (fun c => c.ifaceName ≠ pending.ifaceName) ++ [pending]

def allGroups (configs : List LanIPv6ServiceConfigV2) : List (String × LanPrefixGroupConfig) :=
  configs.flatMap fun c => c.config.prefixGroups.map fun g => (c.ifaceName, g)

def sourcedEntries (configs : List LanIPv6ServiceConfigV2) (ctx : Option PdPrefixContextMap) :
    List SourcedEntry :=
  (allGroups configs).zipIdx.flatMap fun x =>
    (activeEntries x.1.2 .slaacDhcpv6 ctx).map fun e => ⟨x.2,x.1.1,x.1.2.groupId,e⟩

def checkSlots (left right : SourcedEntry) : Except LanIPv6Error Unit :=
  if left.groupInstance = right.groupInstance ∧
      isRaNaPair left.entry.serviceKind right.entry.serviceKind then .ok ()
  else
    ifSome left.entry.globalSlotInterval fun (startL, endL) =>
      ifSome right.entry.globalSlotInterval fun (startR, endR) =>
        reject (¬(startL > endR ∨ startR > endL))
          (.prefixSlotOverlap (max startL startR) (min endL endR) left right)

def validateGlobalPrefixConflicts : Except LanIPv6Error Unit := do
  let entries := sourcedEntries (buildMergedConfigs pending existing) ctx
  checkAll entries fun s =>
    ifSome s.entry.globalSlotInterval fun i => reject (i.1 = 0) (.wanReservedPrefixConflict s)
  checkPairs entries checkSlots

/-- The checks of `handle_lan_ipv6`. -/
def accepts (ctx : PdPrefixContextMap) : Except LanIPv6Error Unit := do
  validateGlobalPrefixConflicts pending existing (some ctx)
  (pending.config.validateWithPdContext (some ctx)).mapError .invalid

end Landscape.Dhcp6
