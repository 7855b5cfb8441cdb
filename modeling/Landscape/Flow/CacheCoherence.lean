import Landscape.Flow.Router
import Landscape.Lib.Run
import Landscape.Route.DefaultRoute
import Landscape.Route.LanMirror

/-! No entry of the LAN cache outlives a change of the rules, as long as no call changes the maps
without emptying the cache: those that save or delete a single destination address rule do, and
those that take a LAN route away. -/
namespace Landscape.Flow
open Epoch Interleave Route Run Store Function List Option

variable {H : HashOrder} {K : KeyOrder} {s s' : Router} {p : LanPacket}

theorem isSome_of_tcHit (h : s.TcHit p) : (s.lan p.key).isSome := by
  obtain ⟨-,hhit,hmiss⟩ := h
  by_contra hnone
  rw [Bool.not_eq_true, isSome_eq_false_iff, isNone_iff_eq_none] at hnone
  have hsame : searchCacheInLan s.maps s.wan s.lan p =
      searchCacheInLan s.maps s.wan noEntries p := by
    simp only [searchCacheInLan, hnone, noEntries]
  exact hhit (hsame ▸ hmiss)

theorem isSome_of_xdpHit (h : s.XdpHit p) : (s.lan p.key).isSome := by
  obtain ⟨-,hhit,hmiss⟩ := h
  by_contra hnone
  rw [Bool.not_eq_true, isSome_eq_false_iff, isNone_iff_eq_none] at hnone
  have hsame : (xdpSearchCacheInLan s.maps s.wan s.lan p).1 =
      (xdpSearchCacheInLan s.maps s.wan noEntries p).1 := by
    simp only [xdpSearchCacheInLan, hnone, noEntries]
    split <;> rfl
  rw [hsame, hmiss] at hhit
  cases hhit

theorem coherent_of_settled (h : Settled s.lan s.history) : s.Coherent := by
  intro p
  refine ⟨?_,?_⟩
  · intro hhit x hx
    rw [h _ (isSome_of_tcHit hhit) x hx]
  · intro hhit x hx fib
    rw [h _ (isSome_of_xdpHit hhit) x hx]

def DstIpEvent.single : DstIpEvent → Bool
  | .checkedSet _ _ | .delete _ => true
  | .checkedSetList _ configs _ => configs.length = 1
  | .geoIpUpdated _ _ => false

section DstIp
variable {d d' : DstIpState} {e : DstIpEvent} {flowIds : List FlowId}
  {changes : List (Change WanIpRuleConfig)}

theorem notifyEnd_of_length (h : changes.length ≠ 1)
    (hend : (notifyEnd d flowIds changes).2 = false) :
    (notifyEnd d flowIds changes).1 = .panicked := by
  unfold notifyEnd at hend ⊢
  split at hend
  · exact absurd rfl h
  · simpa using hend

theorem marks_of_not_single (he : e.single = false) (hs : dstIpStep d e = some d')
    (hend : (dstIpEnd d e).2 = false) (hret : (dstIpEnd d e).1 ≠ .panicked) : d'.maps = d.maps := by
  cases e with
  | checkedSet now config => cases he
  | delete id => cases he
  | checkedSetList now configs flowIds =>
    unfold dstIpStep at hs
    unfold dstIpEnd at hend hret
    dsimp only at hs hend hret
    split at hs
    · cases hs
      rfl
    · rename_i changes rows hsave
      rw [hsave] at hend hret
      have hlen : changes.length ≠ 1 := by
        unfold checkedUpsertFlowRules at hsave
        split at hsave
        · have hmap :=
            congrArg length (checkedUpsertMany_map (g := fun _ => ()) (fun _ _ => rfl) hsave)
          simp only [DstIpEvent.single, decide_eq_false_iff_not] at he
          rw [length_map, length_map] at hmap
          omega
        · cases hsave
      exact absurd (notifyEnd_of_length hlen hend) hret
  | geoIpUpdated geo flowIds =>
    unfold dstIpStep at hs
    unfold dstIpEnd at hend hret
    dsimp only at hs hend hret
    split at hs
    · rename_i hobs
      rw [if_pos hobs] at hend hret
      simp only [ne_eq, decide_eq_false_iff_not, not_not] at hend
      exact absurd hend hret
    · cases hs
      rfl

end DstIp

def removedBy : LanUpdate → List LanRouteInfo
  | .noop => []
  | .changed removed _ => removed

def dropLanRoutes (m : LanMap) (routes : List LanRouteInfo) : LanMap :=
  routes.foldl (fun m r => if (m.get r.key).isSome then m.set r.key none else m) m

def addWrites (m : LanMap) (info : LanRouteInfo) : Bool :=
  info.key.accepted && info.value.any fun v => m.get info.key ≠ some v

def writtenBy (m : LanMap) : LanUpdate → Bool
  | .noop => false
  | .changed removed added => addWrites (dropLanRoutes m removed) added

section Lan
variable {l : LanState} {c : RouteCache}

theorem run_lookupLan (k : LanKey) :
    (lookupLan k).run (lanCacheExec K) (l, c) = (l.map.get k, (l, c)) := rfl

theorem run_deleteLan (k : LanKey) :
    (deleteLan k).run (lanCacheExec K) (l, c) = ((), ({ l with map := l.map.set k none }, c)) := rfl

theorem run_updateLan (k : LanKey) (v : LanValue) : (updateLan k v).run (lanCacheExec K) (l, c) =
      ((), ({ l with map := l.map.set k (some v) }, if k.accepted then noEntries else c)) := rfl

theorem run_delLanRoute (r : LanRouteInfo) : (delLanRoute r).run (lanCacheExec K) (l, c) =
      ((), ({ l with
        map := if (l.map.get r.key).isSome then l.map.set r.key none else l.map }, c)) := by
  unfold delLanRoute
  rw [run_bind, run_lookupLan]
  cases l.map.get r.key with
  | none => rfl
  | some v => exact run_deleteLan r.key

theorem run_syncRemovedLanRoutes (routes : List LanRouteInfo) :
    (syncRemovedLanRoutes routes).run (lanCacheExec K) (l, c) =
      ((), ({ l with map := dropLanRoutes l.map routes }, c)) := by
  induction routes generalizing l with
  | nil => rfl
  | cons r routes ih =>
    rw [syncRemovedLanRoutes, run_bind, run_delLanRoute, ih]
    rfl

theorem run_addLanRoute (info : LanRouteInfo) :
    ((addLanRoute info).run (lanCacheExec K) (l, c)).2.2 = noEntries ∨
      addWrites l.map info = false ∧
      ((addLanRoute info).run (lanCacheExec K) (l, c)).2 = (l, c) := by
  unfold addLanRoute addWrites
  cases hvalue : info.value with
  | none => exact .inr ⟨by simp,rfl⟩
  | some v =>
    rw [run_bind, run_lookupLan]
    -- the two ways to the write differ in what the lookup has found
    have hwrite : (((updateLan info.key v).run (lanCacheExec K) (l, c)).2.2 = noEntries) ∨
        info.key.accepted = false ∧
          ((updateLan info.key v).run (lanCacheExec K) (l, c)).2 = (l, c) := by
      rw [run_updateLan]
      cases hacc : info.key.accepted with
      | true => exact .inl rfl
      | false => exact .inr ⟨rfl,by simp [LanMap.set, hacc]⟩
    cases hget : l.map.get info.key with
    | none =>
      refine hwrite.imp_right ?_
      rintro ⟨hacc,hrun⟩
      exact ⟨by rw [hacc, Bool.false_and],hrun⟩
    | some existing =>
      dsimp only
      split
      · rename_i heq
        exact .inr ⟨by simp [heq],rfl⟩
      · refine hwrite.imp_right ?_
        rintro ⟨hacc,hrun⟩
        exact ⟨by rw [hacc, Bool.false_and],hrun⟩

theorem run_syncLanUpdate (u : LanUpdate) :
    ((syncLanUpdate u).run (lanCacheExec K) (l, c)).2.2 = noEntries ∨
      writtenBy l.map u = false ∧ ((syncLanUpdate u).run (lanCacheExec K) (l, c)).2.2 = c ∧
        ((syncLanUpdate u).run (lanCacheExec K) (l, c)).2.1.map =
        dropLanRoutes l.map (removedBy u) := by
  cases u with
  | noop => exact .inr ⟨rfl,rfl,rfl⟩
  | changed removed added =>
    unfold syncLanUpdate
    rw [run_bind, run_syncRemovedLanRoutes]
    refine (run_addLanRoute added).imp_right ?_
    rintro ⟨hno,hrun⟩
    exact ⟨hno,by rw [hrun],by rw [hrun]; rfl⟩

def KeepsRoutes (K : KeyOrder) (l : LanState) : LanCall → Prop
  | .insertIpv4 owner info =>
    let u : LanUpdate := (lanExec K (.upsertIpv4 owner info) l).1
    removedBy u = [] ∨ writtenBy l.map u = true
  | .insertIpv6 key info =>
    let u : LanUpdate := (lanExec K (.upsertIpv6 key info) l).1
    removedBy u = [] ∨ writtenBy l.map u = true
  | .removeIpv4 owner => (lanExec K (.removeIpv4 owner) l).1 = []
  | .removeIpv6 ifaceName => (lanExec K (.removeIpv6Iface ifaceName) l).1 = []
  | .removeIpv6ByKey key => (lanExec K (.removeIpv6Key key) l).1 = []

theorem map_upsertIpv6 (key : LanIPv6RouteKey) (info : LanRouteInfo) :
    (lanExec K (.upsertIpv6 key info) l).2.map = l.map := by
  unfold lanExec
  dsimp only
  split <;> rfl

theorem run_update_cases {u : LanUpdate} {l' : LanState} (hmap : l'.map = l.map)
    (h : removedBy u = [] ∨ writtenBy l.map u = true) :
    ((syncLanUpdate u).run (lanCacheExec K) (l', c)).2.2 = noEntries ∨
      ((syncLanUpdate u).run (lanCacheExec K) (l', c)).2.2 = c ∧
        ((syncLanUpdate u).run (lanCacheExec K) (l', c)).2.1.map = l.map := by
  refine (run_syncLanUpdate u).imp_right ?_
  rintro ⟨hno,hc,hrun⟩
  rw [hmap] at hno hrun
  have hnil : removedBy u = [] := h.resolve_right (by rw [hno]; exact Bool.false_ne_true)
  rw [hnil] at hrun
  exact ⟨hc,hrun⟩

theorem lanRoute_cases {call : LanCall} (h : KeepsRoutes K l call) :
    (call.run.run (lanCacheExec K) (l, c)).2.2 = noEntries ∨
      (call.run.run (lanCacheExec K) (l, c)).2.2 = c ∧
        (call.run.run (lanCacheExec K) (l, c)).2.1.map = l.map := by
  have hremove {routes : List LanRouteInfo} {l' : LanState} (hnil : routes = [])
    (hmap : l'.map = l.map) :
      ((syncRemovedLanRoutes routes).run (lanCacheExec K) (l', c)).2.2 = c ∧
        ((syncRemovedLanRoutes routes).run (lanCacheExec K) (l', c)).2.1.map = l.map := by
    subst hnil
    exact ⟨rfl,hmap⟩
  cases call with
  | insertIpv4 owner info => exact run_update_cases rfl h
  | insertIpv6 key info => exact run_update_cases (map_upsertIpv6 key info) h
  | removeIpv4 owner | removeIpv6 ifaceName | removeIpv6ByKey key => exact .inr (hremove h rfl)

end Lan

section Wan
variable {f : IpFamily} {owner : RouteOwner} {info : RouteTargetInfo} {r : State}

theorem slots_insertWanRoute (h : (reconcileWanRoute (r.wan f) owner info).1 ≠ .changed true) :
    ((Route.insertWanRoute f owner info).run (exec H) r).2.slots = r.slots := by
  have hrun : (upsertWan f owner info).run (exec H) r =
      ((reconcileWanRoute (r.wan f) owner info).1,
        { r with wan := update r.wan f (reconcileWanRoute (r.wan f) owner info).2 }) := rfl
  unfold Route.insertWanRoute
  rw [run_bind, hrun]
  generalize hu : (reconcileWanRoute (r.wan f) owner info).1 = u at h
  match u with
  | .noop => rfl
  | .changed true => exact absurd rfl h
  | .changed false => rfl

theorem slots_removeWanRoute (h : ((r.wan f).lookup owner).any (·.defaultRoute) = false) :
    ((Route.removeWanRoute f owner).run (exec H) r).2.slots = r.slots := by
  have hrun : (removeWan f owner).run (exec H) r =
      ((r.wan f).lookup owner, { r with wan := update r.wan f ((r.wan f).erase owner) }) := rfl
  unfold Route.removeWanRoute
  rw [run_bind, hrun]
  generalize (r.wan f).lookup owner = found at h
  match found with
  | none => rfl
  | some info =>
    have hdefault : info.defaultRoute = false := h
    dsimp only
    rw [hdefault]
    rfl

theorem run_retainWan (h : (retainNonDocker (r.wan f)).1 = []) :
    (retainWan f).run (exec H) r =
    ([], { r with wan := update r.wan f (retainNonDocker (r.wan f)).2 }) :=
  Prod.ext h rfl

theorem slots_removeAllWanDocker (h4 : (retainNonDocker (r.wan .ipv4)).1 = [])
    (h6 : (retainNonDocker (r.wan .ipv6)).1 = []) :
    (Route.removeAllWanDocker.run (exec H) r).2.slots = r.slots := by
  have hne : IpFamily.ipv6 ≠ .ipv4 := by decide
  unfold Route.removeAllWanDocker
  rw [run_bind, run_retainWan h4, run_bind, run_retainWan]
  · rfl
  · -- the routes of the other family are still there
    dsimp only
    rw [update_of_ne hne, h6]

end Wan

variable {upserts : List (RawFlowMatchKey × FlowId)} {called : Bool} {prog : M Unit}
  {devices : DevicesById}

theorem flowMatch_of_unchanged {t t' : FlowMatchTrie} {configs : List RuntimeFlowConfig}
    (h : reconcileFlowMatchEntries t configs upserts = some (false, t')) : t' = t := by
  unfold reconcileFlowMatchEntries at h
  dsimp only at h
  split at h
  · simp only [Option.some.injEq, Prod.mk.injEq, Bool.not_eq_false', Bool.and_eq_true,
      List.isEmpty_iff] at h
    obtain ⟨⟨hdel,hup⟩,rfl⟩ := h
    rw [hdel, hup]
    rfl
  · cases h

/-- The calls after which the cache is as good as new: none is about a single destination address
rule, and none takes a LAN route away without writing one. -/
def Refreshing (K : KeyOrder) (s : Router) : RouterEvent → Prop
  | .call (.dstIp e) => e.single = false
  | .call (.lanRoute c) => KeepsRoutes K s.lanRoutes c
  | _ => True

def Refreshed (s s' : Router) (returned : Bool) : Prop :=
  s'.history = s.history ∧ (s'.lan = noEntries ∨ s'.lan = s.lan ∧
    (returned = true → s'.maps = s.maps))

theorem refreshed_invalidate {b : Bool} (hh : s'.history = s.history) (hl : s'.lan = s.lan)
    (hm : called = false → b = true → s'.maps = s.maps) :
    Refreshed s (s'.invalidateLanCache called) b := by
  cases called with
  | true => exact ⟨hh,.inl rfl⟩
  | false => exact ⟨hh,.inr ⟨hl,hm rfl⟩⟩

theorem refreshed_onRoute
    (h : called = false → (prog.run (exec H) s.route).2.slots = s.route.slots) :
    Refreshed s (s.onRoute H prog called) true := by
  refine refreshed_invalidate rfl rfl ?_
  intro hcalled _
  unfold Router.maps
  rw [h hcalled]

theorem refreshed_refreshFlowMatches
    (h : s.refreshFlowMatches devices upserts = some s') : Refreshed s s' true := by
  obtain ⟨⟨changed,t⟩,hrec,rfl⟩ := map_eq_some_iff.mp h
  refine refreshed_invalidate rfl rfl ?_
  rintro rfl _
  rw [flowMatch_of_unchanged hrec]

theorem refreshed_matches
    (h : (s.onRoute H prog true).refreshFlowMatches devices upserts = some s') :
    s'.history = s.history ∧ s'.lan = noEntries := by
  obtain ⟨hh,hl⟩ := refreshed_refreshFlowMatches h
  exact ⟨hh,hl.elim id And.left⟩

theorem perform_refreshed {call : Call} {returned : Bool} (hok : Refreshing K s (.call call))
    (h : s.perform H K call = some (s', returned)) : Refreshed s s' returned := by
  cases call with
  | dstIp e =>
    obtain ⟨d,hs,hd⟩ := Option.map_eq_some_iff.mp h
    obtain ⟨rfl,rfl⟩ := Prod.mk.inj hd
    refine refreshed_invalidate rfl rfl ?_
    intro hend hret
    have hmaps : d.maps = s.dstIpState.maps :=
      marks_of_not_single hok hs hend (of_decide_eq_true hret)
    unfold Router.maps
    rw [hmaps]
    rfl
  | saveFlows now configs devices upserts =>
    unfold Router.perform at h
    dsimp only at h
    split at h
    · cases h
      exact ⟨rfl,.inr ⟨rfl,fun _ => rfl⟩⟩
    · obtain ⟨t,ht,hr⟩ := Option.map_eq_some_iff.mp h
      obtain ⟨rfl,-⟩ := Prod.mk.inj hr
      obtain ⟨hh,hl⟩ := refreshed_matches ht
      exact ⟨hh,.inl hl⟩
  | deleteFlowCascade id devices upserts =>
    unfold Router.perform at h
    dsimp only at h
    split at h
    · cases h
      exact ⟨rfl,.inr ⟨rfl,fun _ => rfl⟩⟩
    · obtain ⟨t,ht,hr⟩ := Option.map_eq_some_iff.mp h
      obtain ⟨rfl,-⟩ := Prod.mk.inj hr
      exact ⟨(refreshed_matches ht).1,.inl rfl⟩
  | refreshFlowMatches devices upserts =>
    obtain ⟨t,ht,hr⟩ := Option.map_eq_some_iff.mp h
    obtain ⟨rfl,rfl⟩ := Prod.mk.inj hr
    exact refreshed_refreshFlowMatches ht
  | syncAllFlowWanTargets =>
    cases h
    exact refreshed_onRoute nofun
  | insertWanRoute f owner info =>
    cases h
    exact refreshed_onRoute fun hno => slots_insertWanRoute (of_decide_eq_false hno)
  | removeWanRoute f owner =>
    cases h
    exact refreshed_onRoute slots_removeWanRoute
  | removeAllWanDocker =>
    cases h
    refine refreshed_onRoute fun hno => ?_
    simp only [Bool.not_eq_false', Bool.and_eq_true, List.isEmpty_iff] at hno
    exact slots_removeAllWanDocker hno.1 hno.2
  | lanRoute c =>
    cases h
    refine ⟨rfl,(lanRoute_cases hok).imp_right ?_⟩
    rintro ⟨hc,hmap⟩
    refine ⟨hc,fun _ => ?_⟩
    unfold Router.maps
    rw [hmap]
  | dnsRules flowId marks =>
    cases h
    exact ⟨rfl,.inl rfl⟩

theorem settled_step {e : RouterEvent} (h : Settled s.lan s.history) (hok : Refreshing K s e)
    (hs : routerStep H K s e = some s') : Settled s'.lan s'.history := by
  cases e with
  | tcPacket p | xdpPacket p fib =>
    cases hs
    exact h.store
  | call c =>
    obtain ⟨⟨t,returned⟩,hperform,rfl⟩ := map_eq_some_iff.mp hs
    obtain ⟨hh,hl⟩ := perform_refreshed hok hperform
    cases returned with
    | false =>
      rcases hl with hl | ⟨hl,-⟩
      · exact settled_of_empty fun k => congrFun hl k
      · exact hh ▸ hl ▸ h
    | true =>
      rcases hl with hl | ⟨hl,hmaps⟩
      · exact settled_of_empty fun k => congrFun hl k
      · have hsame : Settled t.lan t.history := hh ▸ hl ▸ h
        exact hsame.change (hmaps rfl).symm fun _ => id
  | dnsAnswer flowId marks =>
    cases hs
    exact h
  | forget k =>
    cases hs
    refine h.mono fun k' hk' => ?_
    by_cases heq : k' = k
    · subst heq
      simp at hk'
    · simpa [heq] using hk'
  | elsewhere ipMac wanIpBinding xdpRedirectAble wan =>
    cases hs
    exact h

/-- In every run in which the calls empty the cache whenever they change the maps. -/
theorem coherent_of_refreshing (h₀ : s.Started) (hr : Runs (routerStep H K) (Refreshing K) s s') :
    s'.Coherent := by
  have hstart : Settled s.lan s.history := settled_of_empty fun k => congrFun h₀.1 k
  exact coherent_of_settled (hr.invariant (fun s => Settled s.lan s.history)
    (fun _ _ _ h hok hs => settled_step h hok hs) hstart)

/-! A router without rules: one WAN interface, and a host behind interface 3. -/

def bareRouter : Router where
  dstIp := ⟨[],[],fun _ => [],fun _ => ∅,true⟩
  route := ⟨fun _ => ∅,fun _ _ _ => none,⟨0,false⟩,[]⟩
  lanRoutes := .empty
  flowMatch := ∅
  flowDns _ _ := none
  ipMac _ := none
  wanIpBinding _ _ := none
  xdpRedirectAble _ := false
  wan := noEntries
  lan := noEntries
  history := ⟨[],fun _ => 0⟩

def defaultWan : RouteTargetInfo := ⟨1,2,none,true,false,"wan",.v4 0x64000002,.v4 0x64000001,false⟩

def wanComesUp : RouterEvent := .call (.insertWanRoute .ipv4 (.link 1) defaultWan)

def fromHost (daddr : UInt32) : LanPacket := ⟨3,14,1,.v4 0x0a000007,.v4 daddr,0⟩

def dropRule (id : Uuid) (daddr : UInt32) : WanIpRuleConfig where
  id := id
  index := 1
  enable := true
  mark := ⟨.drop,false,0⟩
  source := [.config ⟨.v4 daddr,32⟩]
  flowId := defaultFlowId
  updateAt := 0

def staleHit (p : LanPacket) (s : Router) : Bool :=
  !isBroadcastIp p.daddr && (searchCacheInLan s.maps s.wan s.lan p).1 != .ok &&
    (searchCacheInLan s.maps s.wan noEntries p).1 == .ok &&
    (s.history.since p.key).any fun x => tcUncached x.1 p != tcUncached x.2 p

theorem not_coherent_of_staleHit (h : staleHit p s = true) : ¬s.Coherent := by
  intro hc
  simp only [staleHit, Bool.and_eq_true, Bool.not_eq_true', bne_iff_ne, beq_iff_eq,
    List.any_eq_true] at h
  obtain ⟨⟨⟨hb,hhit⟩,hmiss⟩,x,hx,hne⟩ := h
  exact hne ((hc p).1 ⟨hb,hhit,hmiss⟩ x hx)

def refreshingCheck (_ : Router) : RouterEvent → Bool
  | .call (.dstIp e) => !e.single
  | .call (.lanRoute _) => false
  | _ => true

theorem refreshing_of_check (s : Router) (e : RouterEvent) (h : refreshingCheck s e = true) :
    Refreshing .stored s e := by
  unfold refreshingCheck at h
  unfold Refreshing
  split at h
  · exact (Bool.not_eq_true' _).mp h
  · cases h
  · trivial

theorem coherent_sample : ∃ s', bareRouter.Started ∧
    Runs (routerStep .stored .stored) (Refreshing .stored) bareRouter s' ∧
    (s'.history.changes.any fun x => tcUncached x.1 (fromHost 0x08080808) != tcUncached x.2
      (fromHost 0x08080808)) ∧
    s'.Coherent := by
  obtain ⟨s',hr,hpost⟩ := runs_of_check (routerStep .stored .stored) bareRouter
    [wanComesUp, .tcPacket (fromHost 0x08080808),
      .call (.dstIp (.checkedSetList 1 [dropRule 1 0x08080808, dropRule 2 0x01010101] [0]))]
    (fun s => s.history.changes.any fun x =>
      tcUncached x.1 (fromHost 0x08080808) != tcUncached x.2 (fromHost 0x08080808))
        refreshing_of_check
    (by decide +kernel)
  exact ⟨s',⟨rfl,rfl⟩,hr,hpost,coherent_of_refreshing ⟨rfl,rfl⟩ hr⟩

def AlwaysCoherent : Prop :=
  ∀ (H : HashOrder) (K : KeyOrder) (s s' : Router), s.Started →
    Runs (routerStep H K) (fun _ _ => True) s s' → s'.Coherent

/-- A single rule that drops the packets of a connection is saved, and they go on. -/
theorem alwaysCoherent_fails : ¬AlwaysCoherent := by
  intro hall
  obtain ⟨s',hr,hstale⟩ := runs_of_steps (routerStep .stored .stored) bareRouter
    [wanComesUp, .tcPacket (fromHost 0x08080808),
      .call (.dstIp (.checkedSet 1 (dropRule 1 0x08080808)))]
    (staleHit (fromHost 0x08080808) · = true) (by decide +kernel)
  exact not_coherent_of_staleHit hstale (hall _ _ _ _ ⟨rfl,rfl⟩ hr)

end Landscape.Flow
