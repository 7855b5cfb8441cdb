import Landscape.Flow.DstIpRules
import Landscape.Flow.EntryRules
import Landscape.Lib.Epoch
import Landscape.Route.Service

/-! The control plane and the data plane of routing in one machine: the services, the maps they
write, and the LAN cache in front of them. A call runs from its start to its end; the operations on
the maps succeed. -/
namespace Landscape.Flow
open Epoch Route Store Table Function

abbrev FlowMatchTrie := AList fun _ : FlowMatchKey => RawFlowMatchKey × FlowId

abbrev RawEntries := AList fun _ : RawFlowMatchKey => FlowId

variable (m : Maps) (p : LanPacket) (H : HashOrder) (K : KeyOrder) (t : FlowMatchTrie)

def snapshotRawMap : RawEntries := insertAll (t.entries.map (·.2)) ∅

def applyRawMapDiff (deletes : List RawFlowMatchKey)
    (upserts : List (RawFlowMatchKey × FlowId)) : FlowMatchTrie :=
  upserts.foldl (fun t e => t.insert e.1.entry e) (eraseAll (deletes.map (·.entry)) t)

/-- `reconcile_flow_match_entries` without the cache: whether there is a difference, and the trie.
`upserts` is what `diff_raw_map` has to write, in the order in which the hash map lists it. -/
def reconcileFlowMatchEntries (configs : List RuntimeFlowConfig)
    (upserts : List (RawFlowMatchKey × FlowId)) : Option (Bool × FlowMatchTrie) :=
  let current := snapshotRawMap t
  let desired := buildFlowMatchEntries configs
  let deletes := deleteKeys current desired
  if upserts.Perm (upsertEntries current desired) then
    some (!(deletes.isEmpty && upserts.isEmpty), applyRawMapDiff t deletes upserts)
  else none

structure FlowMarkInfo where
  ip : IpAddr
  mark : UInt32
  priority : UInt16
  deriving DecidableEq

abbrev FlowDnsMaps := IpFamily → FlowId → Option (IpAddr → Option MarkValue)

def updateFlowDnsRules (f : IpFamily) (marks : List FlowMarkInfo) (m : IpAddr → Option MarkValue) :
    IpAddr → Option MarkValue :=
  (marks.filter fun i => i.ip.family = f).foldl
    (fun m i => update m i.ip (some ⟨i.mark,i.priority⟩)) m

def refreshFlowDnsInnerMap (flowId : FlowId) (marks : List FlowMarkInfo) (m : FlowDnsMaps) :
    FlowDnsMaps :=
  fun f => update (m f) flowId (some (updateFlowDnsRules f marks fun _ => none))

def updateFlowDnsRule (flowId : FlowId) (marks : List FlowMarkInfo) (m : FlowDnsMaps) :
    FlowDnsMaps :=
  fun f => update (m f) flowId ((m f flowId).map (updateFlowDnsRules f marks))

def xdpRedirectOrTcHandoff (ifindex : UInt32) (macs : Option (MacAddr × MacAddr)) :
    XdpAct × Option (MacAddr × MacAddr) :=
  (if m.xdpRedirectAble ifindex then .redirect ifindex else .leave .tcRedirect 0 ifindex none, macs)

/-- `xdp_route4_lan_redirect_check_in_lan` and its IPv6 counterpart; `fib` is what the forwarding
table of the kernel answers for the next hop. -/
def xdpLanRedirectCheckInLan (fib : Option (UInt32 × MacAddr)) :
    Option (XdpAct × Option (MacAddr × MacAddr)) :=
  match trieLookup m.lan p.daddr with
  | none => none
  | some info =>
    if info.routeType = .wan then (if info.addr = p.daddr then some (.pass, none) else none)
    else if info.ifindex = p.ifindex ∨ (info.routeType = .lan ∧ info.addr = p.daddr) then
      some (.pass, none)
    else
      match info.mac with
      | none => some (xdpRedirectOrTcHandoff m info.ifindex none)
      | some mac =>
        match m.ipMac (if info.routeType = .nextHop then info.addr else p.daddr) with
        | some (dst, _) => some (xdpRedirectOrTcHandoff m info.ifindex (some (dst, mac)))
        | none => fib.map fun (ifindex, dst) =>
            if ifindex = p.ifindex then (.pass, none)
            else xdpRedirectOrTcHandoff m info.ifindex (some (dst, mac))

def noEntries : RouteCache := fun _ => none

def xdpUncached (fib : Option (UInt32 × MacAddr)) : XdpAct × Option (MacAddr × MacAddr) :=
  match xdpLanRedirectCheckInLan m p fib with
  | some r => r
  | none => ((xdpLanRoute m noEntries noEntries p none).1, none)

def lanCacheExec : (o : LanOp) → LanState × RouteCache → LanRes o × (LanState × RouteCache)
  | .update k v, s => ((), ((lanExec K (.update k v) s.1).2, if k.accepted then noEntries else s.2))
  | o, s => ((lanExec K o s.1).1, ((lanExec K o s.1).2, s.2))

def notifyEnd (s : DstIpState) (flowIds : List FlowId) :
    List (Change WanIpRuleConfig) → Outcome × Bool
  | [change] =>
    ((updateFlowDstIpMap s.geo change.new.flowId (listFlowConfigs s change.new.flowId) s.maps).1,
      false)
  | changes =>
    let outcome := (applyConfigs s.geo (changes.map (·.new)) flowIds s.maps).1
    (outcome, outcome ≠ .panicked)

def dstIpEnd (s : DstIpState) : DstIpEvent → Outcome × Bool
  | .checkedSet now config =>
    match checkedUpsertFlowRules now s [config] with
    | none => (.failed, false)
    | some (changes, rows) => notifyEnd { s with rules := rows } [] changes
  | .checkedSetList now configs flowIds =>
    match checkedUpsertFlowRules now s configs with
    | none => (.failed, false)
    | some (changes, rows) => notifyEnd { s with rules := rows } flowIds changes
  | .delete id =>
    match deleteAndGet s.rules id with
    | (none, _) => (.failed, false)
    | (some old, rows) =>
      ((updateFlowDstIpMap s.geo old.flowId (rows.filter (·.flowId = old.flowId)) s.maps).1, false)
  | .geoIpUpdated geo flowIds =>
    if s.observing then
      let outcome := (applyConfigs geo s.rules flowIds s.maps).1
      (outcome, outcome ≠ .panicked)
    else (.failed, false)

structure Router where
  dstIp : DstIpState
  route : State
  lanRoutes : LanState
  flowMatch : FlowMatchTrie
  flowDns : FlowDnsMaps
  ipMac : IpAddr → Option (MacAddr × MacAddr)
  wanIpBinding : UInt32 → IpFamily → Option WanIpInfo
  xdpRedirectAble : UInt32 → Bool
  wan : RouteCache
  lan : RouteCache
  history : History CacheKey Maps

def Router.maps (s : Router) : Maps where
  flowMatch k := (s.flowMatch.lookup k).map (·.2)
  flowIp f flow := ((s.dstIp.maps f).lookup flow).map fun t n => t.lookup n
  flowDns := s.flowDns
  slots := s.route.slots
  lan := s.lanRoutes.map
  ipMac := s.ipMac
  wanIpBinding := s.wanIpBinding
  xdpRedirectAble := s.xdpRedirectAble

inductive Call where
  | dstIp (e : DstIpEvent)
  | saveFlows (now : Nat) (configs : List FlowConfig) (devices : DevicesById)
      (upserts : List (RawFlowMatchKey × FlowId))
  | deleteFlowCascade (id : Uuid) (devices : DevicesById)
      (upserts : List (RawFlowMatchKey × FlowId))
  | refreshFlowMatches (devices : DevicesById) (upserts : List (RawFlowMatchKey × FlowId))
  | syncAllFlowWanTargets
  | insertWanRoute (f : IpFamily) (owner : RouteOwner) (info : RouteTargetInfo)
  | removeWanRoute (f : IpFamily) (owner : RouteOwner)
  | removeAllWanDocker
  | lanRoute (c : LanCall)
  | dnsRules (flowId : FlowId) (marks : List FlowMarkInfo)

variable (s : Router)

def Router.dstIpState : DstIpState := { s.dstIp with flows := s.route.flows.map (·.flowId) }

def Router.invalidateLanCache (called : Bool) : Router :=
  if called then { s with lan := noEntries } else s

def Router.refreshFlowMatches (devices : DevicesById)
    (upserts : List (RawFlowMatchKey × FlowId)) : Option Router :=
  (reconcileFlowMatchEntries s.flowMatch (listRuntimeConfigs devices s.route.flows) upserts).map
    fun (changed, t) => { s with flowMatch := t }.invalidateLanCache changed

def Router.onRoute (p : M Unit) (called : Bool) : Router :=
  { s with route := (p.run (exec H) s.route).2 }.invalidateLanCache called

def Router.perform : Call → Option (Router × Bool)
  | .dstIp e => (dstIpStep s.dstIpState e).map fun d =>
      let r := dstIpEnd s.dstIpState e
      ({ s with dstIp := d }.invalidateLanCache r.2, r.1 ≠ .panicked)
  | .saveFlows now configs devices upserts =>
    match checkedUpsertMany now s.route.flows configs with
    | none => some (s, true)
    | some _ =>
      ((s.onRoute H (setFlows H now configs) true).refreshFlowMatches devices upserts).map (·, true)
  | .deleteFlowCascade id devices upserts =>
    match (deleteAndGet s.route.flows id).1 with
    | none => some (s, true)
    | some old =>
      ((s.onRoute H (deleteFlowConfig id) true).refreshFlowMatches devices upserts).map fun s =>
        ({ s with dstIp := { s.dstIp with
            rules := s.dstIp.rules.filter (·.flowId ≠ old.flowId)
            maps := (addWanIpMark old.flowId [] s.dstIp.maps).2 } }.invalidateLanCache true, true)
  | .refreshFlowMatches devices upserts => (s.refreshFlowMatches devices upserts).map (·, true)
  | .syncAllFlowWanTargets => some (s.onRoute H (Route.syncAllFlowWanTargets H) true, true)
  | .insertWanRoute f owner info => some (s.onRoute H (Route.insertWanRoute f owner info)
      ((reconcileWanRoute (s.route.wan f) owner info).1 = .changed true), true)
  | .removeWanRoute f owner => some (s.onRoute H (Route.removeWanRoute f owner)
      (((s.route.wan f).lookup owner).any (·.defaultRoute)), true)
  | .removeAllWanDocker => some (s.onRoute H Route.removeAllWanDocker
      (!((retainNonDocker (s.route.wan .ipv4)).1.isEmpty &&
        (retainNonDocker (s.route.wan .ipv6)).1.isEmpty)), true)
  | .lanRoute c =>
    let r := (c.run.run (lanCacheExec K) (s.lanRoutes, s.lan)).2
    some ({ s with lanRoutes := r.1, lan := r.2 }, true)
  | .dnsRules flowId marks =>
    some ({ s with
      flowDns := refreshFlowDnsInnerMap flowId marks s.flowDns }.invalidateLanCache true, true)

/- `elsewhere`: what other parts of the system do to the neighbours, the bindings of the WAN
   interfaces, the interfaces XDP can redirect to and the WAN cache. The LAN cache forgets entries
   on its own. -/
inductive RouterEvent where
  | tcPacket (p : LanPacket)
  | xdpPacket (p : LanPacket) (fib : Option (UInt32 × MacAddr))
  | call (c : Call)
  | dnsAnswer (flowId : FlowId) (marks : List FlowMarkInfo)
  | forget (k : CacheKey)
  | elsewhere (ipMac : IpAddr → Option (MacAddr × MacAddr)) (wanIpBinding : UInt32 → IpFamily →
      Option WanIpInfo)
      (xdpRedirectAble : UInt32 → Bool) (wan : RouteCache)

def Router.stored (lan : RouteCache) : Router :=
  { s with lan := lan, history := s.history.store s.lan lan }

def routerStep : RouterEvent → Option Router
  | .tcPacket p => some (s.stored (tcRouteLanIngress s.maps s.wan s.lan p).2)
  | .xdpPacket p fib => some (s.stored
      (xdpLanRoute s.maps s.wan s.lan p ((xdpLanRedirectCheckInLan s.maps p fib).map (·.1))).2)
  | .call c => (s.perform H K c).map fun (s', returned) =>
      if returned then { s' with history := s'.history.change s.maps s'.maps } else s'
  | .dnsAnswer flowId marks => some { s with flowDns := updateFlowDnsRule flowId marks s.flowDns }
  | .forget k => some { s with lan := update s.lan k none }
  | .elsewhere ipMac wanIpBinding xdpRedirectAble wan => some { s with
      ipMac := ipMac, wanIpBinding := wanIpBinding, xdpRedirectAble := xdpRedirectAble, wan := wan }

/-- The LAN cache decides on the packet in the TC program: the search finds something, and nothing
without it. -/
def Router.TcHit (p : LanPacket) : Prop :=
  isBroadcastIp p.daddr = false ∧ (searchCacheInLan s.maps s.wan s.lan p).1 ≠ .ok ∧
    (searchCacheInLan s.maps s.wan noEntries p).1 = .ok

def Router.XdpHit (p : LanPacket) : Prop :=
  isBroadcastIp p.daddr = false ∧ (xdpSearchCacheInLan s.maps s.wan s.lan p).1.isSome ∧
    (xdpSearchCacheInLan s.maps s.wan noEntries p).1 = none

/-- No packet is decided by an entry that is older than a call which changed what would be decided
without the caches. -/
def Router.Coherent : Prop :=
  ∀ p, (s.TcHit p → ∀ x ∈ s.history.since p.key, tcUncached x.1 p = tcUncached x.2 p) ∧
    (s.XdpHit p → ∀ x ∈ s.history.since p.key, ∀ fib, xdpUncached x.1 p fib = xdpUncached x.2 p fib)

def Router.Started : Prop := s.lan = noEntries ∧ s.history.changes = []

end Landscape.Flow
