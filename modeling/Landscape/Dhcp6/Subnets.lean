import Landscape.Dhcp6.PrefixGroup

/-! The subnets that the prefix groups of an interface give, with the prefixes of the moment. -/
namespace Landscape.Dhcp6

structure IPV6PDPrefixStatus where
  new ::
  expectedPdLen : UInt8
  actualPrefix : LDIAPrefix
  deriving DecidableEq

def IPV6PDPrefixStatus.meetsExpectedPdLen (s : IPV6PDPrefixStatus) : Bool :=
  s.actualPrefix.prefixLen ≤ s.expectedPdLen

abbrev IAPrefixMap := Uuid → Option IPV6PDPrefixStatus

variable (g : LanPrefixGroupConfig) (parent : Ipv6Addr × UInt8) (prefixMap : IAPrefixMap)

def loadForLan (linkId : Uuid) : Option (LDIAPrefix × UInt8) :=
  (prefixMap linkId).bind fun status =>
    if status.meetsExpectedPdLen then some (status.actualPrefix, status.expectedPdLen) else none

def pdExpectationFitsSnapshot (expectedPdLen snapshot : UInt8) : Bool := expectedPdLen ≤ snapshot

def resolveParent : PrefixParentSource → Option (Ipv6Addr × UInt8)
  | .static basePrefix parentPrefixLen =>
    some (normalizePrefix basePrefix parentPrefixLen, parentPrefixLen)
  | .pd linkId snapshot =>
    match loadForLan prefixMap linkId with
    | some (actual, expectedPdLen) =>
      if pdExpectationFitsSnapshot expectedPdLen snapshot then
        some (normalizePrefix (normalizePrefix actual.prefixIp actual.prefixLen) snapshot, snapshot)
      else none
    | none => none

inductive SubnetSource where
  | static
  | pd (linkId : Uuid)
  deriving DecidableEq

def PrefixParentSource.source : PrefixParentSource → SubnetSource
  | .static .. => .static
  | .pd linkId _ => .pd linkId

structure PdRange where
  groupId : String
  parent : Ipv6Addr
  parentLen : UInt8
  poolLen : UInt8
  startIdx : UInt32
  endIdx : UInt32
  deriving DecidableEq

structure SubnetState where
  groupId : String
  subPrefix : Ipv6Addr
  subPrefixLen : UInt8
  subRouter : Ipv6Addr
  poolIndex : UInt32
  raPreferredLifetime : UInt32
  raValidLifetime : UInt32
  hasRa : Bool
  isNa : Bool
  source : SubnetSource
  pdConfig : Option PdRange
  deriving DecidableEq

def ipv6PrefixMask (len : UInt8) : Option Ipv6Addr :=
  if len = 0 then some 0
  else if len ≤ 128 then some (BitVec.allOnes 128 <<< (128 - len.toNat))
  else none

def checkedAllocateSubnet (pdIp : Ipv6Addr) (pdPrefixLen subPrefixLen : UInt8) (subnetIndex : Nat) :
    Option (Ipv6Addr × Ipv6Addr) :=
  if pdPrefixLen > 128 ∨ subPrefixLen > 128 ∨ subPrefixLen < pdPrefixLen then none
  else
    let subnetBits := subPrefixLen.toNat - pdPrefixLen.toNat
    if subnetBits < 128 ∧ subnetIndex ≥ 2 ^ subnetBits then none
    else do
      let parentNetwork := pdIp &&& (← ipv6PrefixMask pdPrefixLen)
      let baseNetwork := (parentNetwork &&& (← ipv6PrefixMask subPrefixLen)).toNat
      let subnetNetwork ←
        if subPrefixLen = 0 then some baseNetwork
        else do checkedAdd baseNetwork (← checkedMul subnetIndex (2 ^ (128 - subPrefixLen.toNat)))
      let routerAddress ←
        if subPrefixLen = 128 then some subnetNetwork else checkedAdd subnetNetwork 1
      return (.ofNat 128 subnetNetwork, .ofNat 128 routerAddress)

def usesWanReservedSubnet : Bool :=
  g.ra.any (·.poolIndex = 0) || g.na.any (·.poolIndex = 0) || g.pd.any (·.startIndex = 0)

def validPd (parentLen : UInt8) : Option PdPrefixRangeConfig :=
  g.pd.filter fun pd =>
    pd.poolLen ≤ 64 && pd.poolLen > parentLen && pd.startIndex ≤ pd.endIndex &&
      decide (pd.endIndex.toNat < blockLimit (pd.poolLen.toNat - parentLen.toNat))

def pdSubnetConfig : Option PdRange :=
  (validPd g parent.2).map fun pd =>
    ⟨g.groupId,parent.1,parent.2,pd.poolLen,pd.startIndex,pd.endIndex⟩

def subnet (poolIndex preferred valid : UInt32) (hasRa isNa : Bool) : Option SubnetState :=
  (checkedAllocateSubnet parent.1 parent.2 64 poolIndex.toNat).map fun (subPrefix, subRouter) =>
    ⟨g.groupId,subPrefix,64,subRouter,poolIndex,preferred,valid,hasRa,isNa,g.parent.source,
      pdSubnetConfig g parent⟩

def markNa (groupId : String) : List SubnetState → List SubnetState
  | [] => []
  | sn :: rest =>
    if rest.any (·.groupId = groupId) then sn :: markNa groupId rest
    else if sn.groupId = groupId then { sn with isNa := true } :: rest
    else sn :: rest

variable (lifetime : UInt32) (result : List SubnetState)

def addRa : List SubnetState :=
  match g.ra with
  | some ra => result ++ (subnet g parent ra.poolIndex lifetime (lifetime * 2) true false).toList
  | none => result

def addNa : List SubnetState :=
  match g.na with
  | some na =>
    if g.ra.any (·.poolIndex = na.poolIndex) then markNa g.groupId result
    else result ++ (subnet g parent na.poolIndex 0 0 false true).toList
  | none => result

def addPdOnly : List SubnetState :=
  if g.ra.isNone ∧ g.na.isNone then
    match validPd g parent.2 with
    | some pd =>
      result ++ [⟨g.groupId,parent.1,parent.2,0,pd.startIndex,0,0,false,false,g.parent.source,
        pdSubnetConfig g parent⟩]
    | none => result
  else result

def addGroup (g : LanPrefixGroupConfig) : List SubnetState :=
  if usesWanReservedSubnet g then result
  else
    match resolveParent prefixMap g.parent with
    | none => result
    | some parent => addPdOnly g parent (addNa g parent (addRa g parent lifetime result))

def computeSubnets (groups : List LanPrefixGroupConfig) (prefixMap : IAPrefixMap)
    (lifetime : UInt32) :
    List SubnetState := groups.foldl (addGroup prefixMap lifetime) []

structure SubnetDiff where
  added : List SubnetState
  removed : List SubnetState

def diffSubnets (old new : List SubnetState) : SubnetDiff :=
  ⟨new.filter (· ∉ old),old.filter (· ∉ new)⟩

def addRange (ranges : List PdRange) (sn : SubnetState) : List PdRange :=
  match sn.pdConfig with
  | some pd => if ranges.any (·.groupId = pd.groupId) then ranges else ranges ++ [pd]
  | none => ranges

def pdRangesOf (subnets : List SubnetState) : List PdRange := subnets.foldl addRange []

end Landscape.Dhcp6
