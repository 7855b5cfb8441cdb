import Landscape.Route.Types
import Landscape.Lib.Store

/-! Flow configurations: entry rules, weighted targets, and what a single one has to satisfy. -/
namespace Landscape.Flow
open Route Store

abbrev Uuid := BitVec 128

inductive FlowEntryMatchMode where
  | mac (macAddr : MacAddr)
  | ip (ip : IpAddr) (prefixLen : UInt8)
  | device (deviceId : Uuid)
  deriving DecidableEq

structure FlowEntryRule where
  mode : FlowEntryMatchMode
  deriving DecidableEq

inductive FlowTarget where
  | interface (linkId : Uuid) (name : String)
  | netns (containerName : String)
  deriving DecidableEq

structure WeightedFlowTarget where
  target : FlowTarget
  weight : UInt32
  deriving DecidableEq

structure FlowConfig where
  id : Uuid
  enable : Bool
  flowId : FlowId
  flowMatchRules : List FlowEntryRule
  flowTargets : List WeightedFlowTarget
  name : String
  remark : String
  updateAt : Nat
  deriving DecidableEq

instance : Row Uuid FlowConfig where
  id := FlowConfig.id
  updateAt := FlowConfig.updateAt
  setUpdateAt c ts := { c with updateAt := ts }
  id_setUpdateAt _ _ := rfl
  updateAt_setUpdateAt _ _ := rfl

def defaultFlowId : FlowId := 0
def maxFlowTargets : Nat := 16

/- `ServiceConfigError::InvalidConfig`, one case for each reason. -/
inductive InvalidConfig where
  | reservedFlowId
  | badPrefixLen (ip : IpAddr) (prefixLen : UInt8) (max : UInt8)
  | zeroWeights
  | tooManyTargets
  | duplicateMode (mode : FlowEntryMatchMode)
  | deviceNotFound (deviceId : Uuid)
  | duplicateResolved (mode : FlowEntryMatchMode)
  | conflict (mode : FlowEntryMatchMode) (remark : String) (flowId : FlowId)
  deriving DecidableEq

def maxPrefixLen : IpAddr → UInt8
  | .v4 _ => 32
  | .v6 _ => 128

def FlowEntryMatchMode.validate : FlowEntryMatchMode → Except InvalidConfig Unit
  | .ip addr len =>
    if len > maxPrefixLen addr then .error (.badPrefixLen addr len (maxPrefixLen addr)) else .ok ()
  | _ => .ok ()

def firstDuplicate : List FlowEntryMatchMode → List FlowEntryMatchMode → Option FlowEntryMatchMode
  | _, [] => none
  | seen, m :: ms => if m ∈ seen then some m else firstDuplicate (m :: seen) ms

def FlowConfig.validate (c : FlowConfig) : Except InvalidConfig Unit := do
  if c.flowId = defaultFlowId then .error .reservedFlowId
  for rule in c.flowMatchRules do rule.mode.validate
  if c.flowTargets ≠ [] ∧ c.flowTargets.all (·.weight = 0) then .error .zeroWeights
  if c.flowTargets.length > maxFlowTargets then .error .tooManyTargets
  match firstDuplicate [] (c.flowMatchRules.map (·.mode)) with
  | some m => .error (.duplicateMode m)
  | none => .ok ()

end Landscape.Flow
