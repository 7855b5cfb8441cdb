import Landscape.Flow.Config
import Landscape.Geo.Ip
import Landscape.Lib.Capped
import Landscape.Route.Path

/-! Destination address rules: the stored rules of a flow are converted to marks, and every
installation replaces the marks of the flow as a whole. -/
namespace Landscape.Flow
open Capped Geo Packet Route Store Function

inductive FlowMarkAction where
  | keepGoing
  | direct
  | drop
  | redirect
  deriving DecidableEq

def FlowMarkAction.toU8 : FlowMarkAction → UInt8
  | .keepGoing => flowKeepGoing
  | .direct => flowDirect
  | .drop => flowDrop
  | .redirect => flowRedirect

structure FlowMark where
  action : FlowMarkAction
  allowReusePort : Bool
  flowId : UInt8
  deriving DecidableEq

def FlowMark.toU32 (val : FlowMark) : UInt32 :=
  let rawAction := val.action.toU8
  let value := rawAction.toUInt32 <<< 8
  let value := if rawAction = flowRedirect then value ||| val.flowId.toUInt32 else value
  if val.allowReusePort then value ||| 0x8000 else value

structure WanIpRuleConfig where
  id : Uuid
  index : UInt32
  enable : Bool
  mark : FlowMark
  source : List IpSource
  flowId : FlowId
  updateAt : Nat
  deriving DecidableEq

instance : Row Uuid WanIpRuleConfig where
  id := WanIpRuleConfig.id
  updateAt := WanIpRuleConfig.updateAt
  setUpdateAt c ts := { c with updateAt := ts }
  id_setUpdateAt _ _ := rfl
  updateAt_setUpdateAt _ _ := rfl

structure IpMarkInfo where
  mark : FlowMark
  cidr : IpConfig
  priority : UInt16
  deriving DecidableEq

def IpMarkInfo.value (i : IpMarkInfo) : MarkValue := ⟨i.mark.toU32,i.priority⟩

variable (rules : List WanIpRuleConfig) (geo : GeoData)

def WanIpRuleConfig.ranges (c : WanIpRuleConfig) : List IpConfig :=
  c.source.flatMap (·.resolve geo)

def WanIpRuleConfig.marks (c : WanIpRuleConfig) : List IpMarkInfo :=
  (c.ranges geo).map fun cidr => ⟨c.mark,cidr,c.index.toUInt16⟩

def keepFirst : List IpConfig → List IpMarkInfo → List IpMarkInfo
  | _, [] => []
  | seen, i :: is => if i.cidr ∈ seen then keepFirst seen is else i :: keepFirst (i.cidr :: seen) is

def convertConfigToRuntimeRule (configs : List WanIpRuleConfig) : List IpMarkInfo :=
  keepFirst [] (configs.flatMap (·.marks geo))

/-! The marks in the data plane: one trie for each flow and family. -/

def ipMatchMaxEntries : Nat := 20840
def flowIpMaxEntries : Nat := 256

abbrev FlowIpTrie := AList fun _ : IpNet => MarkValue
abbrev FlowIpMaps := IpFamily → AList fun _ : FlowId => FlowIpTrie

def updateBatch : List IpMarkInfo → FlowIpTrie → Option FlowIpTrie
  | [], t => some t
  | i :: is, t =>
    if i.cidr.net.accepted then (tryInsert ipMatchMaxEntries i.cidr.net i.value t).bind
      (updateBatch is)
    else none

/-- `add_mark_ip_rules_v4` and `add_mark_ip_rules_v6` on a new map; a refused batch panics. -/
def addMarkIpRules (f : IpFamily) (ips : List IpMarkInfo) : Option FlowIpTrie :=
  updateBatch (ips.filter fun i => i.cidr.ip.family = f) ∅

inductive Outcome where
  | done
  | failed
  | panicked
  deriving DecidableEq

def createInnerFlowMatchMap (f : IpFamily) (flowId : FlowId) (ips : List IpMarkInfo)
    (m : FlowIpMaps) :
    Outcome × FlowIpMaps :=
  match addMarkIpRules f ips with
  | none => (.panicked, m)
  | some t =>
    match tryInsert flowIpMaxEntries flowId t (m f) with
    | none => (.failed, m)
    | some m' => (.done, update m f m')

variable (flowId : FlowId)

/- An error is logged; the caller learns of a panic only. -/
def addWanIpMark (ips : List IpMarkInfo) (m : FlowIpMaps) : Outcome × FlowIpMaps :=
  match createInnerFlowMatchMap .ipv4 flowId ips m with
  | (.done, m) => createInnerFlowMatchMap .ipv6 flowId ips m
  | r => r

def sortByIndex : List WanIpRuleConfig :=
  rules.insertionSort fun a b => a.index ≤ b.index

def updateFlowDstIpMap (rules : List WanIpRuleConfig) (m : FlowIpMaps) : Outcome × FlowIpMaps :=
  addWanIpMark flowId (convertConfigToRuntimeRule geo (sortByIndex (rules.filter (·.enable)))) m

/- `flowIds` is the order in which the set of the flows is walked. -/
def applyConfigs (geo : GeoData) (configs : List WanIpRuleConfig) :
    List FlowId → FlowIpMaps → Outcome × FlowIpMaps
  | [], m => (.done, m)
  | f :: flowIds, m =>
    match updateFlowDstIpMap geo f (configs.filter (·.flowId = f)) m with
    | (.panicked, m) => (.panicked, m)
    | (_, m) => applyConfigs geo configs flowIds m

/-- `observing`: the task that waits for geo updates is alive. -/
structure DstIpState where
  rules : List WanIpRuleConfig
  flows : List FlowId
  geo : GeoData
  maps : FlowIpMaps
  observing : Bool

variable (s : DstIpState)

def listFlowConfigs (flowId : FlowId) : List WanIpRuleConfig :=
  s.rules.filter (·.flowId = flowId)

def refreshFlow (flowId : FlowId) : DstIpState :=
  { s with maps := (updateFlowDstIpMap s.geo flowId (listFlowConfigs s flowId) s.maps).2 }

def ensureFlowExists (flows : List FlowId) (flowId : FlowId) : Bool :=
  flowId = defaultFlowId || flowId ∈ flows

def validateCross (config : WanIpRuleConfig) : Bool :=
  (find rules config.id).all (·.flowId = config.flowId)

/-- `checked_upsert_flow_rules`; `checked_upsert_flow_rule` does the same for one rule. -/
def checkedUpsertFlowRules (now : Nat) (s : DstIpState) (configs : List WanIpRuleConfig) :
    Option (List (Change WanIpRuleConfig) × List WanIpRuleConfig) :=
  if configs.all (validateCross s.rules) &&
    configs.all (fun c => ensureFlowExists s.flows c.flowId) then
    checkedUpsertMany now s.rules configs
  else none

variable (flowIds : List FlowId)

def notifyChanged : List (Change WanIpRuleConfig) → DstIpState
  | [change] => refreshFlow s change.new.flowId
  | changes => { s with maps := (applyConfigs s.geo (changes.map (·.new)) flowIds s.maps).2 }

def WalkOf (configs : List WanIpRuleConfig) : Prop :=
  flowIds.Perm (configs.map (·.flowId)).dedup

instance (flowIds : List FlowId) (configs : List WanIpRuleConfig) :
    Decidable (WalkOf flowIds configs) :=
  inferInstanceAs (Decidable (List.Perm _ _))

inductive DstIpEvent where
  | checkedSet (now : Nat) (config : WanIpRuleConfig)
  | checkedSetList (now : Nat) (configs : List WanIpRuleConfig) (flowIds : List FlowId)
  | delete (id : Uuid)
  | geoIpUpdated (geo : GeoData) (flowIds : List FlowId)

/-- `apply_loaded_configs`, called by the observer. A panic ends its task. -/
def applyLoadedConfigs : DstIpState :=
  let r := applyConfigs s.geo s.rules flowIds s.maps
  { s with maps := r.2, observing := r.1 ≠ .panicked }

/-- One operation from its start to its end; a save that is refused changes nothing. -/
def dstIpStep : DstIpEvent → Option DstIpState
  | .checkedSet now config =>
    match checkedUpsertFlowRules now s [config] with
    | none => some s
    | some (changes, rows) => some (notifyChanged { s with rules := rows } [] changes)
  | .checkedSetList now configs flowIds =>
    match checkedUpsertFlowRules now s configs with
    | none => some s
    | some (changes, rows) =>
      if WalkOf flowIds configs then some (notifyChanged { s with rules := rows } flowIds changes)
      else none
  | .delete id =>
    match deleteAndGet s.rules id with
    | (none, _) => some s
    | (some old, rows) => some (refreshFlow { s with rules := rows } old.flowId)
  | .geoIpUpdated geo flowIds =>
    if s.observing then
      if WalkOf flowIds s.rules then some (applyLoadedConfigs { s with geo := geo } flowIds)
      else none
    else some { s with geo := geo }

/-- `DstIpRuleService::new` on maps without marks; there is no service after a panic. -/
def startDstIp (flows : List FlowId) (geo : GeoData) (flowIds : List FlowId) : Option DstIpState :=
  let s := applyLoadedConfigs ⟨rules,flows,geo,fun _ => ∅,true⟩ flowIds
  if WalkOf flowIds rules ∧ s.observing then some s else none

end Landscape.Flow
