import Landscape.Lib.Broadcast
import Landscape.Lib.Interleave
import Landscape.Route.Slots
import Landscape.Flow.Config

/-! The route service and the flow rule service as tasks over shared state: a lock section, a
transaction, one call of the data plane and one message of the event channel are single steps. -/
namespace Landscape.Route
open Broadcast Interleave Landscape.Flow Store Function

abbrev TargetsByFlow := AList fun _ : FlowId => List (RouteTargetInfo × UInt32)

/-- Hash maps are iterated in an order of their own, over exactly their elements. -/
structure HashOrder where
  wanValues : WanRoutesByOwner → List RouteTargetInfo
  mem_wanValues : ∀ m r, r ∈ wanValues m ↔ ∃ o, m.lookup o = some r
  flowEntries : TargetsByFlow → List (FlowId × List (RouteTargetInfo × UInt32))
  mem_flowEntries : ∀ m k v, (k, v) ∈ flowEntries m ↔ m.lookup k = some v

def wanEventCapacity : Nat := 64

structure State where
  wan : IpFamily → WanRoutesByOwner
  slots : SlotMap
  events : EventQueue
  flows : List FlowConfig

inductive WanRouteUpdate where
  | noop
  | changed (refreshDefaultRouter : Bool)
  deriving DecidableEq

def reconcileWanRoute (routes : WanRoutesByOwner) (owner : RouteOwner) (info : RouteTargetInfo) :
    WanRouteUpdate × WanRoutesByOwner :=
  match routes.lookup owner with
  | some old =>
    if old = info then (.noop, routes)
    else (.changed (info.defaultRoute || old.defaultRoute), routes.insert owner info)
  | none => (.changed info.defaultRoute, routes.insert owner info)

def retainNonDocker (routes : WanRoutesByOwner) : List RouteOwner × WanRoutesByOwner :=
  let dropped := (routes.entries.filter fun e => e.2.isDocker).map (·.1)
  (dropped, dropped.foldl (fun m o => m.erase o) routes)

inductive Op where
  | upsertWan (f : IpFamily) (owner : RouteOwner) (info : RouteTargetInfo)
  | removeWan (f : IpFamily) (owner : RouteOwner)
  | retainWan (f : IpFamily)
  | findDefault (f : IpFamily)
  | cloneWan (f : IpFamily)
  | updateBatch (f : IpFamily) (flow : FlowId) (filtered : List (RouteTargetInfo × UInt32))
  | lookupSlot (f : IpFamily) (flow : FlowId) (slot : Nat)
  | deleteBatch (f : IpFamily) (flow : FlowId) (keys : List Nat)
  | notify
  | listFlows
  | saveFlows (now : Nat) (configs : List FlowConfig)
  | deleteFlow (id : Uuid)

def Res : Op → Type
  | .upsertWan _ _ _ => WanRouteUpdate
  | .removeWan _ _ => Option RouteTargetInfo
  | .retainWan _ => List RouteOwner
  | .findDefault _ => Option RouteTargetInfo
  | .cloneWan _ => WanRoutesByOwner
  | .lookupSlot _ _ _ => Bool
  | .updateBatch _ _ _ | .deleteBatch _ _ _ | .notify => Unit
  | .listFlows => List FlowConfig
  | .saveFlows _ _ => Option (List (Change FlowConfig))
  | .deleteFlow _ => Option FlowConfig

variable (configs : List FlowConfig) (wanInfos : WanRoutesByOwner) (f : IpFamily)
  (owner : RouteOwner) (H : HashOrder)

def exec : (o : Op) → State → Res o × State
  | .upsertWan f owner info, s =>
    let r := reconcileWanRoute (s.wan f) owner info
    (r.1, { s with wan := update s.wan f r.2 })
  | .removeWan f owner, s =>
    ((s.wan f).lookup owner, { s with wan := update s.wan f ((s.wan f).erase owner) })
  | .retainWan f, s =>
    let r := retainNonDocker (s.wan f)
    (r.1, { s with wan := update s.wan f r.2 })
  | .findDefault f, s => ((H.wanValues (s.wan f)).find? (·.defaultRoute), s)
  | .cloneWan f, s => (s.wan f, s)
  | .updateBatch f flow filtered, s =>
    ((), { s with slots := updateSlots f flow filtered s.slots })
  | .lookupSlot f flow slot, s => ((s.slots f flow slot).isSome, s)
  | .deleteBatch f flow keys, s => ((), { s with slots := deleteSlots f flow keys s.slots })
  | .notify, s => ((), { s with events := s.events.send wanEventCapacity })
  | .listFlows, s => (s.flows, s)
  | .saveFlows now configs, s =>
    match checkedUpsertMany now s.flows configs with
    | none => (none, s)
    | some (changes, rows) => (some changes, { s with flows := rows })
  | .deleteFlow id, s =>
    let r := deleteAndGet s.flows id
    (r.1, { s with flows := r.2 })

abbrev M := Prog Op Res

def upsertWan (f : IpFamily) (owner : RouteOwner) (info : RouteTargetInfo) : M WanRouteUpdate :=
  .perform (Op.upsertWan f owner info)

def removeWan (f : IpFamily) (owner : RouteOwner) : M (Option RouteTargetInfo) :=
  .perform (Op.removeWan f owner)

def retainWan (f : IpFamily) : M (List RouteOwner) := .perform (Op.retainWan f)
def findDefault (f : IpFamily) : M (Option RouteTargetInfo) := .perform (Op.findDefault f)
def cloneWan (f : IpFamily) : M WanRoutesByOwner := .perform (Op.cloneWan f)
def updateBatch (f : IpFamily) (flow : FlowId) (filtered : List (RouteTargetInfo × UInt32)) :
    M Unit := .perform (Op.updateBatch f flow filtered)

def lookupSlot (f : IpFamily) (flow : FlowId) (slot : Nat) : M Bool :=
  .perform (Op.lookupSlot f flow slot)

def deleteBatch (f : IpFamily) (flow : FlowId) (keys : List Nat) : M Unit :=
  .perform (Op.deleteBatch f flow keys)

def notifyWanRouteChange : M Unit := .perform Op.notify
def listFlows : M (List FlowConfig) := .perform Op.listFlows
def saveFlows (now : Nat) (configs : List FlowConfig) : M (Option (List (Change FlowConfig))) :=
  .perform (Op.saveFlows now configs)

def deleteFlow (id : Uuid) : M (Option FlowConfig) := .perform (Op.deleteFlow id)

def lookupSlots (f : IpFamily) (flow : FlowId) : List Nat → M (List Nat)
  | [] => pure []
  | slot :: slots => do
    let found ← lookupSlot f flow slot
    let keys ← lookupSlots f flow slots
    pure (if found then slot :: keys else keys)

/-- `clear_wan_route_slots_v4` and `_v6`; the batch is also a step of the task when it found no key
and has nothing to delete. -/
def clearWanRouteSlots (f : IpFamily) (flow : FlowId) : M Unit := do
  let keys ← lookupSlots f flow (List.range flowTargetSlotCount)
  deleteBatch f flow keys

/-- `replace_wan_route_slots_v4_with_map` and `_v6_with_map`. -/
def replaceWanRouteSlots (f : IpFamily) (flow : FlowId)
    (targets : List (RouteTargetInfo × UInt32)) : M Unit :=
  let filtered := usableTargets f targets
  if filtered = [] then clearWanRouteSlots f flow else updateBatch f flow filtered

def syncDefaultWanRoute (defaultRoute : Option RouteTargetInfo) : M Unit :=
  match defaultRoute with
  | some route => replaceWanRouteSlots f defaultFlowId [(route, 1)]
  | none => clearWanRouteSlots f defaultFlowId

def refreshDefaultRouter : M Unit := do
  let ipv4Default ← findDefault .ipv4
  syncDefaultWanRoute .ipv4 ipv4Default
  let ipv6Default ← findDefault .ipv6
  syncDefaultWanRoute .ipv6 ipv6Default

def insertWanRoute (info : RouteTargetInfo) : M Unit := do
  match ← upsertWan f owner info with
  | .noop => pure ()
  | .changed true => do
    refreshDefaultRouter
    notifyWanRouteChange
  | .changed false => notifyWanRouteChange

def removeWanRoute : M Unit := do
  match ← removeWan f owner with
  | none => pure ()
  | some info =>
    if info.defaultRoute then do
      refreshDefaultRouter
      notifyWanRouteChange
    else notifyWanRouteChange

def notifyAll : List RouteOwner → M Unit
  | [] => pure ()
  | _ :: owners => do
    notifyWanRouteChange
    notifyAll owners

def removeAllWanDocker : M Unit := do
  let removedIpv4 ← retainWan .ipv4
  let removedIpv6 ← retainWan .ipv6
  if removedIpv4 = [] ∧ removedIpv6 = [] then pure ()
  else do
    refreshDefaultRouter
    notifyAll (removedIpv4 ++ removedIpv6)

def findRouteTarget : FlowTarget → Option RouteTargetInfo
  | .interface linkId _ => wanInfos.lookup (.link linkId)
  | .netns name => wanInfos.lookup (.netns name)

def flowConfigTargets (c : FlowConfig) : List (RouteTargetInfo × UInt32) :=
  if c.enable then
    c.flowTargets.filterMap fun t => (findRouteTarget wanInfos t.target).map fun r => (r, t.weight)
  else []

def collectTargetRefreshResult : TargetsByFlow :=
  configs.foldl (fun m c => m.insert c.flowId (flowConfigTargets wanInfos c)) ∅

def applyTargetRefresh (f : IpFamily) : List (FlowId × List (RouteTargetInfo × UInt32)) → M Unit
  | [] => pure ()
  | (flow, targets) :: rest => do
    if targets = [] then clearWanRouteSlots f flow else replaceWanRouteSlots f flow targets
    applyTargetRefresh f rest

def syncFlowWanTargets (configs : List FlowConfig) : M Unit := do
  let ipv4Infos ← cloneWan .ipv4
  let ipv6Infos ← cloneWan .ipv6
  applyTargetRefresh .ipv4 (H.flowEntries (collectTargetRefreshResult configs ipv4Infos))
  applyTargetRefresh .ipv6 (H.flowEntries (collectTargetRefreshResult configs ipv6Infos))

def clearFlowWanTargets (flow : FlowId) : M Unit := do
  clearWanRouteSlots .ipv4 flow
  clearWanRouteSlots .ipv6 flow

def syncAllFlowWanTargets : M Unit := do
  let configs ← listFlows
  syncFlowWanTargets H configs

/-- `checked_set` and `checked_set_list` with `notify_changed`. -/
def setFlows (now : Nat) (configs : List FlowConfig) : M Unit := do
  match ← saveFlows now configs with
  | none => pure ()
  | some changes => syncFlowWanTargets H (changes.map (·.new))

/-- `delete` and `delete_flow_cascade` with `notify_deleted`. -/
def deleteFlowConfig (id : Uuid) : M Unit := do
  match ← deleteFlow id with
  | none => pure ()
  | some old => clearFlowWanTargets old.flowId

section Clear
variable {Λ Ev : Type} {S : Sys Op Res State Λ Ev} {C : Contract Op Res Λ} {f : IpFamily}
  {flow : FlowId} {l : Λ} (miss : Λ → Nat → Λ)
  (hallow : ∀ l slot, C.Allowed l (.lookupSlot f flow slot))
  (hfound : ∀ l slot, S.record l (.lookupSlot f flow slot) true = l)
  (hmiss : ∀ l slot, S.record l (.lookupSlot f flow slot) false = miss l slot)
include hallow hfound hmiss

theorem lookupSlots_meets {Q : List Nat → Λ → Prop} (slots : List Nat)
    (h : ∀ keys missing : List Nat, keys.Sublist slots →
      (∀ slot ∈ slots, slot ∈ keys ∨ slot ∈ missing) →
      Q keys (missing.foldl miss l)) :
    Meets S C Q (lookupSlots f flow slots) l := by
  induction slots generalizing l Q with
  | nil => exact .pure (h [] [] (.refl _) (by simp))
  | cons slot slots ih =>
    refine .step (hallow l slot) fun found _ => ?_
    cases found with
    | true =>
      rw [hfound]
      refine .bind (ih fun keys missing hsub hcover => ?_)
      exact .pure (h (slot :: keys) missing (hsub.cons_cons slot) (by grind))
    | false =>
      rw [hmiss]
      refine .bind (ih fun keys missing hsub hcover => ?_)
      exact .pure (h keys (slot :: missing) (hsub.cons slot) (by grind))

/-- A clear comes to its batch with every slot either among the keys or on record as missing. -/
theorem clearWanRouteSlots_meets {Q : Unit → Λ → Prop}
    (h : ∀ keys missing : List Nat, keys.Nodup →
      (∀ slot < flowTargetSlotCount, slot ∈ keys ∨ slot ∈ missing) →
        Meets S C Q (deleteBatch f flow keys) (missing.foldl miss l)) :
    Meets S C Q (clearWanRouteSlots f flow) l := by
  refine .bind (lookupSlots_meets miss hallow hfound hmiss _ fun keys missing hsub hcover => ?_)
  exact h keys missing (hsub.nodup List.nodup_range)
    fun slot hs => hcover slot (List.mem_range.mpr hs)

end Clear

end Landscape.Route
