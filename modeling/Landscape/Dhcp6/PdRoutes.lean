import Landscape.Dhcp6.Pd

/-! No route to a delegated prefix is forgotten: it is in a lease, or it has been reported for
deletion since it was installed. -/
namespace Landscape.Dhcp6
open Run Table List Option

variable {s s' : PdStatus} {duid : Duid} {lease : PdLease} {now : Nat} {r : Route}

inductive RouteOp where
  | reported (r : Route)
  | installed (r : Route)

/-- The status and what has been done about routes so far, the oldest first. -/
structure RouteState where
  status : PdStatus
  log : List RouteOp

def RouteState.after (x : RouteState) (status : PdStatus) (old new : List Route) : RouteState :=
  ⟨status,x.log ++ old.map .reported ++ new.map .installed⟩

inductive RouteEvent where
  | solicit (now : Nat) (duid : Duid)
  | request (now : Nat) (duid : Duid) (clientAddr : Ipv6Addr) (validLifetime : UInt32)
  | release (duid : Duid)
  | cleanExpiredPd (now : Nat)
  | drainAllPdRoutes
  | prefixChange (groups : List LanPrefixGroupConfig) (prefixMap : IAPrefixMap)

def routeStep (x : RouteState) : RouteEvent → Option RouteState
  | .solicit now duid => some (x.after (offerPd now duid x.status).2 [] [])
  | .request now duid clientAddr validLifetime =>
    let (changes, s) := requestPd now duid clientAddr validLifetime x.status
    some (x.after s (changes.flatMap (·.oldRoutes)) (changes.flatMap (·.newRoutes)))
  | .release duid =>
    let (changes, s) := handleReleasePd duid x.status
    some (x.after s (changes.flatMap (·.oldRoutes)) (changes.flatMap (·.newRoutes)))
  | .cleanExpiredPd now =>
    let (expired, s) := cleanExpiredPd now x.status
    some (x.after s (expired.flatMap (·.activeRoutes)) [])
  | .drainAllPdRoutes =>
    let (routes, s) := drainAllPdRoutes x.status
    some (x.after s routes [])
  | .prefixChange groups prefixMap =>
    let (cleanups, s) := reconcilePdRoutes (recomputeAndDiff groups prefixMap x.status).2
    some (x.after s (cleanups.flatMap (·.routes)) [])

def Active (s : PdStatus) (r : Route) : Prop :=
  ∃ d l, s.pdLeasesByDuid.lookup d = some l ∧ r ∈ l.activeRoutes

/-- Every route that was installed is in a lease, or it was reported for deletion afterwards. -/
def Conserved (x : RouteState) : Prop :=
  ∀ before r after, x.log = before ++ .installed r :: after →
    Active x.status r ∨ .reported r ∈ after

def Current (s : PdStatus) : Prop :=
  ∀ d l, s.pdLeasesByDuid.lookup d = some l →
    l.activeRoutes = [] ∨ ∃ p, resolvePdKey s l.key = some p ∧ l.activeRoutes = [p]

/-- What a step does: routes of leases stay or are reported, and what is installed is in a lease. -/
structure Accounts (s s' : PdStatus) (old new : List Route) : Prop where
  kept : ∀ r, Active s r → Active s' r ∨ r ∈ old
  new : ∀ r ∈ new, Active s' r
  current : Current s'

variable {x : RouteState} {old new : List Route} {clientAddr : Ipv6Addr} {old' : List Route}
  {validLifetime : UInt32}

theorem Conserved.after (h : Conserved x) (ha : Accounts x.status s' old new) :
    Conserved (x.after s' old new) := by
  intro before r after hlog
  have hnew : RouteOp.installed r ∈ old.map .reported ++ new.map .installed → Active s' r := by
    intro hmem
    exact ha.new r (by simpa using hmem)
  simp only [RouteState.after, append_assoc] at hlog
  rcases append_eq_append_iff.mp hlog with ⟨mid,-,hops⟩ | ⟨mid,hold,hops⟩
  · exact .inl (hnew (hops ▸ mem_append_right mid mem_cons_self))
  · cases mid with
    | nil => exact .inl (hnew (hops ▸ mem_cons_self))
    | cons op mid =>
      -- the route was installed before: it is still there, or the step reports it
      obtain ⟨rfl,rfl⟩ := cons.inj hops
      rcases h before r mid hold with hactive | hreported
      · rcases ha.kept r hactive with hactive | hr
        · exact .inl hactive
        · exact .inr (mem_append_right mid (mem_append_left _ (mem_map_of_mem hr)))
      · exact .inr (mem_append_left _ hreported)

theorem Accounts.refl (hc : Current s) : Accounts s s [] [] :=
  ⟨fun _ h => .inl h,fun _ h => (nomatch h),hc⟩

theorem Accounts.trans {s₁ s₂ s₃ : PdStatus} (h : Accounts s₁ s₂ old [])
    (h' : Accounts s₂ s₃ old' new) : Accounts s₁ s₃ (old ++ old') new := by
  refine ⟨fun r hr => ?_,h'.new,h'.current⟩
  rcases h.kept r hr with hr | hr
  · exact (h'.kept r hr).imp_right (mem_append_right old)
  · exact .inr (mem_append_left old' hr)

theorem Accounts.mono (h : Accounts s s' old new) (hsub : old ⊆ old') : Accounts s s' old' new :=
  ⟨fun r hr => (h.kept r hr).imp_right (hsub ·),h.new,h.current⟩

theorem accounts_dropPdLease (hc : Current s) (hl : s.pdLeasesByDuid.lookup duid = some lease) :
    Accounts s (dropPdLease duid lease s) lease.activeRoutes [] := by
  refine ⟨?_,fun _ h => (nomatch h),?_⟩
  · rintro r ⟨d,l,hd,hr⟩
    by_cases heq : d = duid
    · subst heq
      obtain rfl := some.inj (hd.symm.trans hl)
      exact .inr hr
    · exact .inl ⟨d,l,lookup_erase_eq.trans ((if_neg heq).trans hd),hr⟩
  · intro d l hd
    exact hc d l (of_lookup_erase hd).2

/- A lease is written that has the routes of the one it replaces. -/
theorem accounts_insert (hc : Current s)
    (hs : s'.pdLeasesByDuid = s.pdLeasesByDuid.insert duid lease)
    (hres : resolvePdKey s' = resolvePdKey s)
    (hkept : ∀ l, s.pdLeasesByDuid.lookup duid = some l → l.activeRoutes ⊆ lease.activeRoutes)
    (hlease : lease.activeRoutes = [] ∨
      ∃ p, resolvePdKey s lease.key = some p ∧ lease.activeRoutes = [p])
    (hnew : new ⊆ lease.activeRoutes) : Accounts s s' [] new := by
  refine ⟨?_,fun r hr => ⟨duid,lease,by simp [hs],hnew hr⟩,?_⟩
  · rintro r ⟨d,l,hd,hr⟩
    obtain rfl | hne := eq_or_ne d duid
    · exact .inl ⟨d,lease,by simp [hs],hkept l hd hr⟩
    · exact .inl ⟨d,l,by simp [hs, hne, hd],hr⟩
  · intro d l hd
    rw [hs] at hd
    rw [hres]
    rcases of_lookup_insert hd with ⟨-,rfl⟩ | ⟨-,hd⟩
    · exact hlease
    · exact hc d l hd

theorem accounts_newPdLease (hc : Current s) (hnew : s.pdLeasesByDuid.lookup duid = none) :
    Accounts s (newPdLease now duid s).2 [] [] := by
  unfold newPdLease
  split
  · exact .refl hc
  · split
    · exact .refl hc
    · exact accounts_insert hc rfl rfl (by simp [hnew]) (.inl rfl) (nil_subset _)

theorem Current.no_routes (hc : Current s) (hl : s.pdLeasesByDuid.lookup duid = some lease)
    (hnone : resolvePdKey s lease.key = none) : lease.activeRoutes = [] := by
  rcases hc duid lease hl with hempty | ⟨p,hp,-⟩
  · exact hempty
  · cases hp.symm.trans hnone

theorem accounts_offerPd (hi : Inverse s) (hc : Current s) :
    Accounts s (offerPd now duid s).2 [] [] := by
  unfold offerPd
  split
  · exact .refl hc
  · split
    · rename_i lease hl
      split
      · exact .refl hc
      · rename_i hstale
        -- the slot is still the client's, so it has no prefix any more
        have hnone : resolvePdKey s lease.key = none := by
          rw [reusable, if_pos ((hi lease.key duid).mpr ⟨lease,hl,rfl⟩)] at hstale
          exact hstale
        have hdrop := accounts_dropPdLease hc hl
        rw [hc.no_routes hl hnone] at hdrop
        exact hdrop.trans (accounts_newPdLease hdrop.current (lookup_erase_eq.trans (if_pos rfl)))
    · rename_i hnew
      exact accounts_newPdLease hc hnew

theorem accounts_confirmPd (hc : Current s) : Accounts s (confirmPd now duid s).2 [] [] := by
  unfold confirmPd
  split
  · exact .refl hc
  · split
    · rename_i lease hl
      exact accounts_insert hc rfl rfl (by simp [hl]) (hc duid lease hl) (nil_subset _)
    · exact .refl hc

theorem accounts_updatePdRoutes (hc : Current s) (hp : getPdPrefix s duid = some r) :
    Accounts s (updatePdRoutes duid clientAddr [r] s).2 [] [r] := by
  obtain ⟨lease,hl,hresolve⟩ := bind_eq_some_iff.mp hp
  unfold updatePdRoutes
  rw [hl]
  refine accounts_insert hc rfl rfl ?_ (.inr ⟨r,hresolve,rfl⟩) (Subset.refl _)
  intro l hl'
  obtain rfl := some.inj (hl.symm.trans hl')
  rcases hc duid lease hl with hempty | ⟨p,hp',hroutes⟩
  · simp [hempty]
  · obtain rfl := some.inj (hresolve.symm.trans hp')
    simp [hroutes]

theorem accounts_releasePd (duid : Duid) (hc : Current s) :
    Accounts s (releasePd duid s).2 ((releasePd duid s).1.toList.flatMap (·.activeRoutes)) [] := by
  unfold releasePd
  split
  · exact .refl hc
  · rename_i lease hl
    have hdrop := accounts_dropPdLease hc hl
    cases hp : resolvePdKey s lease.key with
    | none =>
      rw [hc.no_routes hl hp] at hdrop
      exact hdrop.mono (nil_subset _)
    | some p =>
      refine hdrop.mono ?_
      have hp' : resolvePdKey (dropPdLease duid lease s) lease.key = some p := hp
      simp [hp']

theorem accounts_releaseAll (ds : List Duid) (hc : Current s) :
    Accounts s (releaseAll ds s).2 ((releaseAll ds s).1.flatMap (·.activeRoutes)) [] := by
  induction ds generalizing s with
  | nil => exact .refl hc
  | cons d ds ih =>
    have hfirst := accounts_releasePd d hc
    have hrest := ih hfirst.current
    refine (hfirst.trans hrest).mono ?_
    simp [releaseAll, flatMap_append]

theorem accounts_requestPd (hi : Inverse s) (hc : Current s) :
    Accounts s (requestPd now duid clientAddr validLifetime s).2
      ((requestPd now duid clientAddr validLifetime s).1.flatMap (·.oldRoutes))
      ((requestPd now duid clientAddr validLifetime s).1.flatMap (·.newRoutes)) := by
  have hoffer : Accounts s (offerPd now duid s).2 [] [] := accounts_offerPd hi hc
  have hconfirm : Accounts s (confirmPd now duid (offerPd now duid s).2).2 [] [] :=
    hoffer.trans (accounts_confirmPd hoffer.current)
  unfold requestPd
  dsimp only
  split
  · exact hconfirm
  · rename_i r hp
    exact (hconfirm.trans (accounts_updatePdRoutes hconfirm.current hp)).mono (nil_subset _)

theorem accounts_handleReleasePd (hc : Current s) : Accounts s (handleReleasePd duid s).2
    ((handleReleasePd duid s).1.flatMap (·.oldRoutes))
    ((handleReleasePd duid s).1.flatMap (·.newRoutes)) := by
  have hrelease := accounts_releasePd duid hc
  unfold handleReleasePd
  dsimp only
  cases hr : (releasePd duid s).1 with
  | none | some expired =>
    rw [hr] at hrelease
    exact hrelease

theorem Inverse.requestPd (h : Inverse s) :
    Inverse (requestPd now duid clientAddr validLifetime s).2 := by
  have hconfirm : Inverse (Dhcp6.confirmPd now duid (Dhcp6.offerPd now duid s).2).2 :=
    h.offerPd.confirmPd
  unfold Dhcp6.requestPd
  dsimp only
  split
  · exact hconfirm
  · unfold updatePdRoutes
    split
    · exact hconfirm
    · rename_i lease hl
      exact hconfirm.update hl rfl

theorem dropStale_key (l : PdLease) : (dropStale s l).key = l.key := by
  unfold dropStale
  split <;> rfl

theorem Inverse.reconcile (h : Inverse s) : Inverse (reconcilePdRoutes s).2 := by
  intro k d
  have hk := h k d
  simp only [reconcilePdRoutes, lookup_mapVals, map_eq_some_iff]
  rw [hk]
  constructor
  · rintro ⟨l,hl,rfl⟩
    exact ⟨_,⟨l,hl,rfl⟩,dropStale_key l⟩
  · rintro ⟨_,⟨l,hl,rfl⟩,rfl⟩
    exact ⟨l,hl,(dropStale_key l).symm⟩

theorem accounts_reconcile :
    Accounts s (reconcilePdRoutes s).2 ((reconcilePdRoutes s).1.flatMap (·.routes)) [] := by
  have hlookup : ∀ d, (reconcilePdRoutes s).2.pdLeasesByDuid.lookup d =
      (s.pdLeasesByDuid.lookup d).map (dropStale s) := fun d => lookup_mapVals _
  refine ⟨?_,fun _ h => (nomatch h),?_⟩
  · rintro r ⟨d,l,hd,hr⟩
    cases hstale : stale s l with
    | true =>
      refine .inr (List.mem_flatMap.mpr ⟨⟨l.subIndex,l.activeRoutes⟩,?_,hr⟩)
      refine List.mem_map.mpr ⟨⟨d,l⟩,List.mem_filter.mpr ⟨?_,hstale⟩,rfl⟩
      exact AList.mem_lookup_iff.mp hd
    | false =>
      refine .inl ⟨d,dropStale s l,(hlookup d).trans (congrArg (Option.map _) hd),?_⟩
      rw [dropStale, hstale]
      exact hr
  · intro d l' hd
    rw [hlookup] at hd
    obtain ⟨l,hl,rfl⟩ := Option.map_eq_some_iff.mp hd
    cases hstale : stale s l with
    | true => exact .inl (by rw [dropStale, if_pos hstale])
    | false =>
      rw [dropStale_key, dropStale, hstale]
      simp only [stale, Bool.and_eq_false_iff, Bool.not_eq_false', List.isEmpty_iff] at hstale
      rcases hstale with hempty | hcurrent
      · exact .inl hempty
      · unfold routeIsCurrent at hcurrent
        split at hcurrent
        · rename_i p hp
          exact .inr ⟨p,hp,by simpa using hcurrent⟩
        · cases hcurrent

structure RoutesKept (x : RouteState) : Prop where
  inverse : Inverse x.status
  current : Current x.status
  conserved : Conserved x

theorem RoutesKept.after (h : RoutesKept x) (ha : Accounts x.status s' old new) (hi : Inverse s') :
    RoutesKept (x.after s' old new) :=
  ⟨hi,ha.current,h.conserved.after ha⟩

theorem RoutesKept.step {x' : RouteState} {e : RouteEvent} (h : RoutesKept x)
    (hs : routeStep x e = some x') : RoutesKept x' := by
  have hi := h.inverse
  have hc := h.current
  cases e with
  | solicit now duid => exact some.inj hs ▸ h.after (accounts_offerPd hi hc) hi.offerPd
  | request now duid clientAddr validLifetime =>
    exact some.inj hs ▸ h.after (accounts_requestPd hi hc) hi.requestPd
  | release duid =>
    exact some.inj hs ▸ h.after (accounts_handleReleasePd hc) hi.releasePd
  | cleanExpiredPd now | drainAllPdRoutes =>
    exact some.inj hs ▸ h.after (accounts_releaseAll _ hc) (hi.releaseAll _)
  | prefixChange groups prefixMap =>
    obtain rfl := some.inj hs
    refine h.after ⟨?_,fun _ h => (nomatch h),accounts_reconcile.current⟩
      (hi.recompute _ _).reconcile
    exact fun r hr => accounts_reconcile.kept r hr

/-- A route that was installed for a client is in a lease or was reported for deletion since,
whatever messages arrive and however the prefixes change. -/
theorem conserved_of_runs {pdConfig : Option DHCPv6IAPDConfig} {preferred valid : UInt32}
    {x : RouteState} (hr : Runs routeStep (fun _ _ => True)
      ⟨PdStatus.new pdConfig preferred valid,[]⟩ x) :
    Conserved x := by
  have hstart : RoutesKept ⟨PdStatus.new pdConfig preferred valid,[]⟩ := by
    refine ⟨inverse_new valid,?_,?_⟩
    · nofun
    · intro before r after hlog
      simp at hlog
  exact (hr.invariant RoutesKept (fun _ _ _ h _ hs => h.step hs) hstart).conserved

def wanGroup : LanPrefixGroupConfig := ⟨"wan",.pd 1 56,none,none,some ⟨60,1,15⟩⟩

def delegated (ip : Ipv6Addr) : IAPrefixMap :=
  fun link => if link = 1 then some (.new 56 ⟨300,600,56,ip,0⟩) else none

def sampleRoutes : List RouteEvent :=
  [.prefixChange [wanGroup] (delegated 0x20010db8_00000000_00000000_00000000),
    .request 0 [1] 0xfe80 600, .solicit 1 [2], .request 2 [2] 0xfe81 600,
    .prefixChange [wanGroup] (delegated 0x20010db8_00000100_00000000_00000000),
    .request 3 [1] 0xfe80 600, .release [2]]

theorem conserved_sample : ∃ x,
    Runs routeStep (fun _ _ => True) ⟨PdStatus.new (some ⟨60,300,600⟩) 300 600,[]⟩ x ∧
      x.log.length = 5 ∧ Conserved x :=
  runs_and (runs_of_steps _ _ sampleRoutes _ (by decide +kernel))
    fun _ hrun _ => conserved_of_runs hrun

end Landscape.Dhcp6
