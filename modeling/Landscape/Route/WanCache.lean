import Landscape.Lib.Run
import Landscape.Nat4.StaticConfig
import Landscape.Route.Path

/-! The WAN cache: a connection that comes in by a static mapping is answered on the interface it
came in by, whatever the flow rules say. Entries are written for packets a static mapping
translates, are consulted first, and never expire. -/
namespace Landscape.Route
open Nat4 Packet Run Table Function
variable {key : CacheKey} {s : WanState}

/- A packet from the WAN. What the connection table and the dynamic mappings say about it comes with
   it; static connections are kept in the state. -/
structure WanPacket where
  ifindex : UInt32
  l3Offset : Nat
  l4Protocol : UInt8
  saddr : UInt32
  sport : UInt16
  daddr : UInt32
  dport : UInt16
  canBeginCt : Bool
  dynamicCt : Option UInt32
  dynamicMapping : Option UInt32

structure StaticCt where
  l4Protocol : UInt8
  remote : UInt32
  remotePort : UInt16
  wanPort : UInt16
  client : UInt32
  deriving DecidableEq

structure WanState where
  maps : Maps
  wan : RouteCache
  lan : RouteCache
  staticMap : StaticEntries
  staticCts : List StaticCt

def StaticCt.carries (ct : StaticCt) (p : WanPacket) : Bool :=
  ct.l4Protocol = p.l4Protocol ∧ ct.remote = p.saddr ∧ ct.remotePort = p.sport ∧
    ct.wanPort = p.dport

/-- `tc_nat_v4_ingress_do` and its XDP counterpart, as far as routing is concerned: the host the
packet is sent on to, whether it gets the static mark, and the static connection it begins. -/
def natIngress (s : WanState) (p : WanPacket) : Option (UInt32 × Bool × Option StaticCt) :=
  match s.staticCts.find? (·.carries p), p.dynamicCt with
  | some ct, _ => some (ct.client, true, none)
  | none, some client => some (client, false, none)
  | none, none =>
    if p.canBeginCt then
      match s.staticMap.lookup ⟨.ingress,p.l4Protocol,p.dport,0⟩ with
      | some v =>
        let host := if v.addr = 0 then p.daddr else v.addr
        some (host, true, some ⟨p.l4Protocol,p.saddr,p.sport,p.dport,host⟩)
      | none => p.dynamicMapping.map fun host => (host, false, none)
    else none

variable (m : Maps) (p : WanPacket) (host : UInt32)

/-- `tc_route4_lan_redirect_check_in_wan`: whether the packet is redirected. A route of type WAN to
another address goes on like a LAN route. -/
def tcRedirectsInWan : Bool :=
  match trieLookup m.lan (.v4 host) with
  | none => false
  | some info =>
    !(info.routeType = .wan && info.addr = .v4 host) && info.ifindex != p.ifindex &&
      !(info.routeType = .lan && info.addr = .v4 host)

/-- `xdp_route4_lan_redirect_check_in_wan`: the same for the XDP program; `fib` is the interface the
forwarding table answers with. -/
def xdpRedirectsInWan (fib : Option UInt32) : Bool :=
  match trieLookup m.lan (.v4 host) with
  | none => false
  | some info =>
    if info.routeType = .wan ∨ info.ifindex = p.ifindex ∨
      (info.routeType = .lan ∧ info.addr = .v4 host) then
      false
    else
      let hop := if info.routeType = .nextHop then info.addr else .v4 host
      if info.mac.isNone ∨ (m.ipMac hop).isSome then m.xdpRedirectAble info.ifindex
      else
        match fib with
        | none => m.xdpRedirectAble info.ifindex
        | some ifindex => if ifindex = p.ifindex then false else m.xdpRedirectAble ifindex

def isCurrentWanPacket : Bool :=
  (m.wanIpBinding p.ifindex .ipv4).any fun info => info.addr = .v4 host

inductive WanProgram where
  | tc
  | xdp (fib : Option UInt32)

/-- The packet is forwarded to the host, in a way after which a static mark is remembered. -/
def forwards (prog : WanProgram) : Bool :=
  !isBroadcastIp4 host && !isCurrentWanPacket m p host &&
    match prog with
    | .tc => tcRedirectsInWan m p host
    | .xdp fib => xdpRedirectsInWan m p host fib

def WanProgram.hasMac : WanProgram → Bool
  | .tc => p.l3Offset > 0
  | .xdp _ => true

/-- `tc_route4_wan_ingress` and `xdp_wan_route_ingress` behind the address translation. -/
def wanIngress (s : WanState) (p : WanPacket) (prog : WanProgram) : WanState :=
  match natIngress s p with
  | none => s
  | some (host, isStatic, ct) =>
    let s := { s with staticCts := ct.toList ++ s.staticCts }
    if isStatic && forwards s.maps p host prog then
      { s with
        wan := setCacheInWan s.maps s.wan s.lan ⟨.v4 host,.v4 p.saddr⟩ (prog.hasMac p) p.ifindex }
    else s

/- What may happen: packets from both sides, static connections a host opens itself and their end,
   syncs of the static mappings, and any change of the other maps. -/
inductive WanEvent where
  | wanPacket (p : WanPacket) (prog : WanProgram)
  | tcLanPacket (p : LanPacket)
  | xdpLanPacket (p : LanPacket) (check : Option XdpAct)
  | hostOpens (ct : StaticCt)
  | ctEnds (ct : StaticCt)
  | syncStaticNat4 (configs : List RuntimeStaticNatMappingV4Config)
  | mapsChange (m : Maps)
  | recreateRouteLanCache

def MapsTo (entries : StaticEntries) (host : UInt32) : Prop :=
  ∃ k v, entries.lookup k = some v ∧ k.gress = .ingress ∧ v.addr = host

def WanState.opens (s : WanState) (ct : StaticCt) : Bool :=
  s.staticMap.keys.any fun k => k.gress = .egress && k.l4proto = ct.l4Protocol &&
    k.fromAddr = ct.client && (s.staticMap.lookup k).any fun v => v.port = ct.wanPort

def wanStep (s : WanState) : WanEvent → Option WanState
  | .wanPacket p prog => some (wanIngress s p prog)
  | .tcLanPacket p => some { s with lan := (tcRouteLanIngress s.maps s.wan s.lan p).2 }
  | .xdpLanPacket p check => some { s with lan := (xdpLanRoute s.maps s.wan s.lan p check).2 }
  | .hostOpens ct => if s.opens ct then some { s with staticCts := ct :: s.staticCts } else none
  | .ctEnds ct => some { s with staticCts := s.staticCts.erase ct }
  | .syncStaticNat4 configs => some { s with
      staticMap := Nat4.updateBatch
        (Nat4.deleteBatch s.staticMap (deleteKeys s.staticMap (buildStaticNat4Entries configs)))
        (upsertEntries s.staticMap (buildStaticNat4Entries configs)) }
  | .mapsChange m => some { s with maps := m }
  | .recreateRouteLanCache => some { s with lan := fun _ => none }

def WanState.start : WanState := ⟨m,fun _ => none,fun _ => none,∅,[]⟩

/-- Whatever packet the host sends to the remote address, on either path, is routed as if the WAN
cache held no entry for the two. -/
def WanState.RoutedByRules (s : WanState) (key : CacheKey) : Prop :=
  ∀ p : LanPacket, p.key = key →
    (tcRouteLanIngress s.maps s.wan s.lan p).1 =
      (tcRouteLanIngress s.maps (update s.wan key none) s.lan p).1 ∧
    ∀ check, (xdpLanRoute s.maps s.wan s.lan p check).1 =
      (xdpLanRoute s.maps (update s.wan key none) s.lan p check).1

/-- A statically translated packet that is forwarded to the host finds the host's own traffic with
the sender in the LAN cache. -/
def AnsweredFirst (s : WanState) : WanEvent → Prop
  | .wanPacket p prog => ∀ ct, natIngress s p = some (host, true, ct) →
      forwards s.maps p host prog = true → (s.lan ⟨.v4 host,.v4 p.saddr⟩).isSome
  | _ => True

theorem setCacheInWan_other {m : Maps} {wan lan : RouteCache} {k : CacheKey} {hasMac : Bool}
    {ifindex : UInt32} (h : key ≠ k) : setCacheInWan m wan lan k hasMac ifindex key = wan key := by
  unfold setCacheInWan
  split
  · rfl
  · cases wan k with
    | none | some v => exact update_of_ne h _ _

/- The WAN cache grows in one way only. -/
theorem wanIngress_wan {p : WanPacket} {prog : WanProgram}
    (h : (wanIngress s p prog).wan key ≠ s.wan key) :
    ∃ host ct, natIngress s p = some (host, true, ct) ∧ forwards s.maps p host prog = true ∧
      key = ⟨.v4 host,.v4 p.saddr⟩ ∧ s.lan key = none := by
  unfold wanIngress at h
  split at h
  · exact absurd rfl h
  · rename_i host isStatic ct hnat
    dsimp only at h
    split at h
    · rename_i hfwd
      simp only [Bool.and_eq_true] at hfwd
      obtain ⟨rfl,hfwd⟩ := hfwd
      have hkey : key = ⟨.v4 host,.v4 p.saddr⟩ := by
        by_contra hne
        exact h (setCacheInWan_other hne)
      refine ⟨host,ct,hnat,hfwd,hkey,?_⟩
      subst hkey
      by_contra hlan
      refine h ?_
      rw [setCacheInWan, if_pos (Option.isSome_iff_ne_none.mpr hlan)]
    · exact absurd rfl h

theorem wan_none_step {host remote : UInt32} {s' : WanState} {e : WanEvent}
    (h : s.wan ⟨.v4 host,.v4 remote⟩ = none) (hok : AnsweredFirst host s e)
    (hs : wanStep s e = some s') :
    s'.wan ⟨.v4 host,.v4 remote⟩ = none := by
  cases e with
  | wanPacket p prog =>
    cases hs
    by_contra hne
    have hchange : (wanIngress s p prog).wan ⟨.v4 host,.v4 remote⟩ ≠
        s.wan ⟨.v4 host,.v4 remote⟩ := by
      rwa [h]
    obtain ⟨host',ct,hnat,hfwd,hkey,hlan⟩ := wanIngress_wan hchange
    cases hkey
    have hsome := hok ct hnat hfwd
    rw [hlan] at hsome
    cases hsome
  | hostOpens ct =>
    simp only [wanStep] at hs
    split at hs
    · cases hs
      exact h
    · cases hs
  | _ =>
    cases hs
    exact h

theorem routed_of_wan_none (h : s.wan key = none) : s.RoutedByRules key := by
  have hsame : update s.wan key none = s.wan := by
    rw [← h, update_eq_self]
  intro p _
  rw [hsame]
  exact ⟨rfl,fun _ => rfl⟩

/-- A host no entry of the static map names is routed by the rules in force. -/
def WanState.ExceptionEnds (s : WanState) (host : UInt32) : Prop :=
  ¬MapsTo s.staticMap host → ∀ remote, s.RoutedByRules ⟨.v4 host,.v4 remote⟩

/-- If the host's own traffic always comes first, the WAN cache never holds an entry of the host,
and its exception ends with the mapping. -/
theorem exception_ends_of_answered {m : Maps} {host : UInt32} {s : WanState}
    (h : Runs wanStep (AnsweredFirst host) (.start m) s) : s.ExceptionEnds host := by
  intro _ remote
  refine routed_of_wan_none ?_
  exact h.invariant (fun s => s.wan ⟨.v4 host,.v4 remote⟩ = none)
    (fun _ _ _ h hok hs => wan_none_step h hok hs) rfl

/- The host `192.168.1.7` behind interface 3, with a mapping of port 8080; the default flow goes out
   of interface 2. The remote address `198.51.100.9` comes in by interface 1. -/
def lanHost : UInt32 := 0xc0a80107
def remoteHost : UInt32 := 0xc6336409

def twoWans : Maps where
  flowMatch _ := none
  flowIp _ _ := none
  flowDns _ _ := none
  slots f flow _ := if f = .ipv4 ∧ flow = 0 then some ⟨2,false,.v4 0x0a000201,none⟩ else none
  lan n := if n = .around 24 (.v4 lanHost) then some ⟨3,.v4 0xc0a80101,none,.lan⟩ else none
  ipMac _ := none
  wanIpBinding i f := if i = 1 ∧ f = .ipv4 then some ⟨.v4 0x0a000102,.v4 0x0a000101⟩ else none
  xdpRedirectAble _ := false

def fromRemote : WanPacket := ⟨1,0,6,remoteHost,40000,0x0a000102,8080,true,none,none⟩

def toRemote : LanPacket := ⟨3,14,0x020000000007,.v4 lanHost,.v4 remoteHost,0⟩

def mapped : List RuntimeStaticNatMappingV4Config := [⟨[⟨8080,80⟩],lanHost,[6]⟩]

def answeredCheck (s : WanState) : WanEvent → Bool
  | .wanPacket p prog =>
    match natIngress s p with
    | some (h, true, _) =>
      decide (h ≠ host) || !forwards s.maps p host prog || (s.lan ⟨.v4 host,.v4 p.saddr⟩).isSome
    | _ => true
  | _ => true

theorem answered_of_check (s : WanState) (e : WanEvent)
    (h : answeredCheck host s e = true) : AnsweredFirst host s e := by
  cases e with
  | wanPacket p prog =>
    intro ct hnat hfwd
    simpa [answeredCheck, hnat, hfwd] using h
  | _ => trivial

/- The host has been talking to the remote address before the latter comes in by the mapping. -/
theorem exception_ends_sample : ∃ s, Runs wanStep (AnsweredFirst lanHost) (.start twoWans) s ∧
    s.staticCts ≠ [] ∧ s.ExceptionEnds lanHost := by
  obtain ⟨s,hs,hpost⟩ := runs_of_check wanStep (.start twoWans)
    [.tcLanPacket toRemote, .syncStaticNat4 mapped, .wanPacket fromRemote .tc, .syncStaticNat4 []]
    (fun s => s.staticCts.isEmpty = false) (answered_of_check lanHost) (by decide +kernel)
  exact ⟨s,hs,by simpa using hpost,exception_ends_of_answered hs⟩

/-- After the mapping is gone the host's packets to the remote address still leave by the interface
the connection came in by. -/
theorem exception_ends_fails : ¬∀ (m : Maps) (host : UInt32) (s : WanState),
    Runs wanStep (fun _ _ => True) (.start m) s → s.ExceptionEnds host := by
  intro hall
  obtain ⟨s,hs,hempty,hdiff⟩ := runs_of_steps wanStep (.start twoWans)
    [.syncStaticNat4 mapped, .wanPacket fromRemote .tc, .syncStaticNat4 []]
    (fun s => s.staticMap.keys = [] ∧ (tcRouteLanIngress s.maps s.wan s.lan toRemote).1 ≠
      (tcRouteLanIngress s.maps (update s.wan toRemote.key none) s.lan toRemote).1)
        (by decide +kernel)
  have hno : ¬MapsTo s.staticMap lanHost := by
    rintro ⟨k,v,hk,-⟩
    have hmem : k ∈ s.staticMap.keys := by
      rw [← AList.mem_keys, ← AList.lookup_isSome, hk]
      rfl
    rw [hempty] at hmem
    cases hmem
  exact hdiff (hall twoWans lanHost s hs hno remoteHost toRemote rfl).1

end Landscape.Route
