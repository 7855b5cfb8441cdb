import Landscape.Flow.Config
import Landscape.Lib.Checks
import Landscape.Route.Path

/-! The entry rules of the flows: what a save checks across flows, and the entries of the flow match
map they become. -/
namespace Landscape.Flow
open Checks Lpm Route Store Table Function

abbrev DevicesById := Uuid → Option MacAddr

abbrev NetIfaceMap := Uuid → Option String

inductive ResolvedFlowEntryMatchMode where
  | mac (macAddr : MacAddr)
  | ip (ip : IpAddr) (prefixLen : UInt8)
  deriving DecidableEq

structure ResolvedFlowEntryRule where
  mode : ResolvedFlowEntryMatchMode
  deriving DecidableEq

structure RuntimeFlowConfig where
  flowId : FlowId
  flowMatchRules : List ResolvedFlowEntryRule
  deriving DecidableEq

variable (devices : DevicesById)

def resolveFlowEntryMode : FlowEntryMatchMode → Option FlowEntryMatchMode
  | .device deviceId => (devices deviceId).map .mac
  | mode => some mode

def intoResolvedMatchMode : FlowEntryMatchMode → Option ResolvedFlowEntryMatchMode
  | .mac macAddr => some (.mac macAddr)
  | .ip ip prefixLen => some (.ip ip prefixLen)
  | .device _ => none

def resolveFlowEntryRule (rule : FlowEntryRule) : Option ResolvedFlowEntryRule :=
  match rule.mode with
  | .device deviceId => (devices deviceId).map fun macAddr => ⟨.mac macAddr⟩
  | .mac macAddr => some ⟨.mac macAddr⟩
  | .ip ip prefixLen => some ⟨.ip ip prefixLen⟩

variable (stored : List FlowConfig) (modes : List FlowEntryMatchMode)

def findMissingDeviceId : Option Uuid :=
  modes.findSome? fun
    | .device deviceId => if (devices deviceId).isNone then some deviceId else none
    | _ => none

inductive FlowSaveError where
  | invalid (e : InvalidConfig)
  | unknownLink (linkId : Uuid)

def validateModesResolvable : Except FlowSaveError Unit :=
  ifSome (findMissingDeviceId devices modes)
    fun deviceId => .error (.invalid (.deviceNotFound deviceId))

def resolveModes : List (FlowEntryMatchMode × ResolvedFlowEntryMatchMode) :=
  modes.filterMap fun mode =>
    (resolveFlowEntryMode devices mode).bind fun resolved =>
      (intoResolvedMatchMode resolved).map fun resolved => (mode, resolved)

def findDuplicateResolvedModes : List ResolvedFlowEntryMatchMode →
    List (FlowEntryMatchMode × ResolvedFlowEntryMatchMode) → Option FlowEntryMatchMode
  | _, [] => none
  | seen, (original, resolved) :: rest =>
    if resolved ∈ seen then some original else findDuplicateResolvedModes (resolved :: seen) rest

def FlowConfig.hasMode (c : FlowConfig) (resolved : FlowEntryMatchMode) : Bool :=
  c.flowMatchRules.any fun rule => resolveFlowEntryMode devices rule.mode = some resolved

def findResolvedConflictForModes (configs : List FlowConfig) (excludeId : Uuid)
    (modes : List FlowEntryMatchMode) : Option (FlowEntryMatchMode × FlowConfig) :=
  modes.findSome? fun mode =>
    (resolveFlowEntryMode devices mode).bind fun resolved =>
      (configs.find? fun c => c.id ≠ excludeId && c.hasMode devices resolved).map fun c => (mode, c)

def resolveTargets (links : NetIfaceMap) :
    List WeightedFlowTarget → Except FlowSaveError (List WeightedFlowTarget)
  | [] => .ok []
  | t :: ts => do
    let target ← match t.target with
      | .interface linkId _ =>
        match links linkId with
        | some iface => .ok (.interface linkId iface)
        | none => .error (.unknownLink linkId)
      | .netns containerName => .ok (.netns containerName)
    let rest ← resolveTargets links ts
    return { t with target := target } :: rest

def FlowConfig.validateCross (links : NetIfaceMap) (stored : List FlowConfig) (c : FlowConfig) :
    Except FlowSaveError FlowConfig := do
  let flowTargets ← resolveTargets links c.flowTargets
  let modes := c.flowMatchRules.map (·.mode)
  validateModesResolvable devices modes
  ifSome (findDuplicateResolvedModes [] (resolveModes devices modes)) fun mode =>
    .error (.invalid (.duplicateResolved mode))
  ifSome (findResolvedConflictForModes devices stored c.id modes) fun (mode, other) =>
    .error (.invalid (.conflict mode other.remark other.flowId))
  return { c with flowTargets := flowTargets }

/- Each flow of a batch is checked against what is stored, not against the rest of the batch. -/
def validateBatch (devices : DevicesById) (links : NetIfaceMap) (stored : List FlowConfig) :
    List FlowConfig → Except FlowSaveError (List FlowConfig)
  | [] => .ok []
  | c :: cs => do
    c.validate.mapError .invalid
    let c' ← FlowConfig.validateCross devices links stored c
    let cs' ← validateBatch devices links stored cs
    return c' :: cs'

inductive FlowEvent where
  | save (now : Nat) (links : NetIfaceMap) (configs : List FlowConfig)
  | delete (id : Uuid)

def flowStep : FlowEvent → Option (List FlowConfig)
  | .save now links configs =>
    match validateBatch devices links stored configs with
    | .error _ => some stored
    | .ok configs =>
      match checkedUpsertMany now stored configs with
      | none => some stored
      | some (_, stored) => some stored
  | .delete id => some (deleteAndGet stored id).2

def listRuntimeConfigs : List RuntimeFlowConfig :=
  (stored.filter (·.enable)).map
    fun c => ⟨c.flowId,c.flowMatchRules.filterMap (resolveFlowEntryRule devices)⟩

/-- The key as it is written; `addr` has the MAC or the address in its leading bytes. -/
structure RawFlowMatchKey where
  prefixlen : UInt32
  l3Protocol : UInt8
  isMatchIp : UInt8
  addr : BitVec 128
  deriving DecidableEq

def landscapeIpv4Type : UInt8 := 0
def landscapeIpv6Type : UInt8 := 1
def flowEntryModeMac : UInt8 := 0
def flowEntryModeIp : UInt8 := 1

def flowMatchKeyFromRule (rule : ResolvedFlowEntryRule) : RawFlowMatchKey :=
  match rule.mode with
  | .mac macAddr => ⟨80,0,flowEntryModeMac,macAddr ++ (0 : BitVec 80)⟩
  | .ip (.v4 a) prefixLen =>
    ⟨32 + prefixLen.toUInt32,landscapeIpv4Type,flowEntryModeIp,a.toBitVec ++ (0 : BitVec 96)⟩
  | .ip (.v6 a) prefixLen => ⟨32 + prefixLen.toUInt32,landscapeIpv6Type,flowEntryModeIp,a⟩

/-- The entry of the trie a key is written to; the bits after the prefix do not count. -/
def RawFlowMatchKey.entry (k : RawFlowMatchKey) : FlowMatchKey :=
  let len := k.prefixlen.toNat - 32
  if k.isMatchIp = flowEntryModeMac then .mac (k.addr.extractLsb' 80 48)
  else if k.l3Protocol = landscapeIpv4Type then .ip (.v4 (.around len (k.addr.extractLsb' 96 32)))
  else .ip (.v6 (.around len k.addr))

def runtimePairs (configs : List RuntimeFlowConfig) : List (RawFlowMatchKey × FlowId) :=
  configs.flatMap fun c => c.flowMatchRules.map fun rule => (flowMatchKeyFromRule rule, c.flowId)

def buildFlowMatchEntries (configs : List RuntimeFlowConfig) :
    AList fun _ : RawFlowMatchKey => FlowId :=
  insertAll (runtimePairs configs) ∅

def writeEntry (m : FlowMatchKey → Option FlowId) (e : RawFlowMatchKey × FlowId) :
    FlowMatchKey → Option FlowId :=
  update m e.1.entry (some e.2)

def writeEntries (order : List (RawFlowMatchKey × FlowId)) : FlowMatchKey → Option FlowId :=
  order.foldl writeEntry fun _ => none

theorem entry_mac (macAddr : MacAddr) :
    (flowMatchKeyFromRule ⟨.mac macAddr⟩).entry = .mac macAddr := by
  have haddr : (macAddr ++ (0 : BitVec 80)).extractLsb' 80 48 = macAddr :=
    BitVec.extractLsb'_append_eq_left
  exact congrArg FlowMatchKey.mac haddr

theorem entry_ip (addr : IpAddr) (prefixLen : UInt8) :
    (flowMatchKeyFromRule ⟨.ip addr prefixLen⟩).entry = .ip (.around prefixLen.toNat addr) := by
  have hlen : (32 + prefixLen.toUInt32).toNat - 32 = prefixLen.toNat := by
    have hlt := prefixLen.toNat_lt
    have h32 : (32 : UInt32).toNat = 32 := rfl
    rw [UInt32.toNat_add, UInt8.toNat_toUInt32, h32]
    omega
  cases addr with
  | v4 a =>
    have haddr : (a.toBitVec ++ (0 : BitVec 96)).extractLsb' 96 32 = a.toBitVec :=
      BitVec.extractLsb'_append_eq_left
    have hnet : Net.around ((32 + prefixLen.toUInt32).toNat - 32)
        ((a.toBitVec ++ (0 : BitVec 96)).extractLsb' 96 32) =
          Net.around prefixLen.toNat a.toBitVec := by
      rw [hlen, haddr]
    exact congrArg (fun n => FlowMatchKey.ip (.v4 n)) hnet
  | v6 a => exact congrArg (fun len => FlowMatchKey.ip (.v6 (.around len a))) hlen

end Landscape.Flow
