import Landscape.Route.Service

/-! The slots of the default flow follow the WAN routes. -/
namespace Landscape.Route
open Interleave Landscape.Flow Table Function List AList
variable {H : HashOrder} {s : State} {f : IpFamily} {α : Type}

inductive WanCall where
  | insert (f : IpFamily) (owner : RouteOwner) (info : RouteTargetInfo)
  | remove (f : IpFamily) (owner : RouteOwner)
  | removeAllDocker
  | refreshDefault

def WanCall.run : WanCall → M Unit
  | .insert f owner info => insertWanRoute f owner info
  | .remove f owner => removeWanRoute f owner
  | .removeAllDocker => removeAllWanDocker
  | .refreshDefault => refreshDefaultRouter

def State.empty : State := ⟨fun _ => ∅,fun _ _ _ => none,⟨0,false⟩,[]⟩

/-- The families whose default routes a task has changed without having written the slots, and the
slots that its clear has found missing. -/
structure DefaultLog where
  owes : IpFamily → Bool
  missing : IpFamily → List Nat

def DefaultLog.start : DefaultLog := ⟨fun _ => false,fun _ => []⟩

variable (l : DefaultLog)

def DefaultLog.set (f : IpFamily) (b : Bool) : DefaultLog :=
  ⟨update l.owes f b,update l.missing f []⟩

def DefaultLog.miss (f : IpFamily) (slot : Nat) : DefaultLog :=
  { l with missing := update l.missing f (slot :: l.missing f) }

def DefaultLog.onLookup (f : IpFamily) (slot : Nat) : Bool → DefaultLog
  | true => l
  | false => l.miss f slot

def DefaultLog.onUpsert (f : IpFamily) : WanRouteUpdate → DefaultLog
  | .changed true => l.set f true
  | _ => l

def DefaultLog.onRemove (f : IpFamily) (r : Option RouteTargetInfo) : DefaultLog :=
  if r.any (·.defaultRoute) then l.set f true else l

def DefaultLog.onRetain (f : IpFamily) : List RouteOwner → DefaultLog
  | [] => l
  | _ => l.set f true

def recordDefault : (o : Op) → Res o → DefaultLog
  | .upsertWan f _ _, r => l.onUpsert f r
  | .removeWan f _, r => l.onRemove f r
  | .retainWan f, r => l.onRetain f r
  | .lookupSlot f _ slot, found => l.onLookup f slot found
  | .updateBatch f _ _, _ | .deleteBatch f _ _, _ => l.set f false
  | _, _ => l

def defaultMachine (H : HashOrder) : Sys Op Res State DefaultLog WanCall :=
  ⟨exec H,recordDefault,fun c s => some (s, ⟨c.run,.start⟩)⟩

/- These tasks write the slots of the default flow only, with one default route, and delete them
   only after having looked at all of them. -/
def defaultContract : Contract Op Res DefaultLog where
  Allowed l
    | .updateBatch _ flow filtered =>
      flow = defaultFlowId ∧ ∃ r : RouteTargetInfo, r.defaultRoute = true ∧ filtered = [(r, 1)]
    | .lookupSlot _ flow _ => flow = defaultFlowId
    | .deleteBatch f flow found => flow = defaultFlowId ∧ found.Nodup ∧
        ∀ slot < flowTargetSlotCount, slot ∈ found ∨ slot ∈ l.missing f
    | _ => True
  Answers _
    | .findDefault f, r =>
      ∀ x : RouteTargetInfo, r = some x → x.defaultRoute = true ∧ x.gatewayIp.family = f
    | _, _ => True

def DefaultLog.Settled : Prop := ∀ f, l.owes f = false

abbrev DefaultKeeps (H : HashOrder) (Q : α → DefaultLog → Prop) (p : M α) (l : DefaultLog) : Prop :=
  Meets (defaultMachine H) defaultContract Q p l

variable {l : DefaultLog} {m : WanRoutesByOwner} {r : RouteTargetInfo} {s' : State} {f' : IpFamily}
  {o owner : RouteOwner} {info : RouteTargetInfo}

theorem foldl_miss (f : IpFamily) (l : DefaultLog) (missing : List Nat) :
    (missing.foldl (·.miss f) l).owes = l.owes ∧
      ∀ slot, slot ∈ missing ∨ slot ∈ l.missing f →
      slot ∈ (missing.foldl (·.miss f) l).missing f := by
  induction missing generalizing l with
  | nil => simp
  | cons s missing ih =>
    obtain ⟨howes,hmem⟩ := ih (l.miss f s)
    refine ⟨howes,fun slot hs => hmem slot ?_⟩
    simp only [DefaultLog.miss, update_self, mem_cons] at hs ⊢
    tauto

theorem syncDefaultWanRoute_keeps {Q : Unit → DefaultLog → Prop} {r : Option RouteTargetInfo}
    (hr : ∀ x, r = some x → x.defaultRoute = true ∧ x.gatewayIp.family = f)
    (hQ : ∀ l' : DefaultLog, l'.owes = l.owes → Q () (l'.set f false)) :
    DefaultKeeps H Q (syncDefaultWanRoute f r) l := by
  cases r with
  | none =>
    refine clearWanRouteSlots_meets (·.miss f) (fun _ _ => rfl) (fun _ _ => rfl) (fun _ _ => rfl)
      fun keys missing hn hcover => ?_
    obtain ⟨howes,hmem⟩ := foldl_miss f l missing
    have hall : ∀ slot < flowTargetSlotCount, slot ∈ keys ∨
        slot ∈ (missing.foldl (·.miss f) l).missing f :=
      fun slot hs => (hcover slot hs).imp_right fun h => hmem slot (.inl h)
    exact .step ⟨rfl,hn,hall⟩ fun _ _ => hQ _ howes
  | some x =>
    obtain ⟨hd,hf⟩ := hr x rfl
    have hfilter : usableTargets f [(x, 1)] = [(x, 1)] := by simp [usableTargets, hf]
    rw [syncDefaultWanRoute, replaceWanRouteSlots, hfilter, if_neg (by simp)]
    exact .step ⟨rfl,x,hd,rfl⟩ fun _ _ => hQ l rfl

theorem refreshDefaultRouter_keeps :
    DefaultKeeps H (fun _ => DefaultLog.Settled) refreshDefaultRouter l := by
  refine .step trivial fun r₄ h₄ => ?_
  refine .bind (syncDefaultWanRoute_keeps h₄ fun l₄ _ => ?_)
  refine .step trivial fun r₆ h₆ => ?_
  refine syncDefaultWanRoute_keeps h₆ fun l₆ ho f => ?_
  cases f <;> simp [DefaultLog.set, recordDefault, defaultMachine, ho]

theorem notifyWanRouteChange_keeps (h : l.Settled) :
    DefaultKeeps H (fun _ => DefaultLog.Settled) notifyWanRouteChange l :=
  .step trivial fun _ _ => h

theorem notifyAll_keeps (h : l.Settled) (owners : List RouteOwner) :
    DefaultKeeps H (fun _ => DefaultLog.Settled) (notifyAll owners) l := by
  induction owners with
  | nil => exact .pure h
  | cons o owners ih => exact .step trivial fun _ _ => ih

theorem DefaultLog.start_settled : DefaultLog.start.Settled := fun _ => rfl

/-- Every task that has changed the default routes of a family goes on to write its slots. -/
theorem wanCall_keeps (c : WanCall) :
    DefaultKeeps H (fun _ => DefaultLog.Settled) c.run .start := by
  have hset := DefaultLog.start_settled
  cases c with
  | insert f owner info =>
    refine .step trivial fun r _ => ?_
    match r with
    | .noop => exact .pure hset
    | .changed true =>
      exact refreshDefaultRouter_keeps.call fun _ _ h => notifyWanRouteChange_keeps h
    | .changed false => exact notifyWanRouteChange_keeps hset
  | remove f owner =>
    refine .step trivial fun r _ => ?_
    match r with
    | none => exact .pure hset
    | some info =>
      dsimp only
      split
      · exact refreshDefaultRouter_keeps.call fun _ _ h => notifyWanRouteChange_keeps h
      · rename_i hd
        refine notifyWanRouteChange_keeps ?_
        simpa [recordDefault, defaultMachine, DefaultLog.onRemove, hd] using hset
  | removeAllDocker =>
    refine .step trivial fun r₄ _ => .step trivial fun r₆ _ => ?_
    split
    · rename_i hno
      obtain ⟨rfl,rfl⟩ := hno
      exact .pure hset
    · exact refreshDefaultRouter_keeps.call fun _ _ h => notifyAll_keeps h _
  | refreshDefault => exact refreshDefaultRouter_keeps

def State.HasRoute (s : State) (f : IpFamily) (r : RouteTargetInfo) : Prop :=
  ∃ owner, (s.wan f).lookup owner = some r

def State.NoDefault (s : State) (f : IpFamily) : Prop :=
  ∀ r, s.HasRoute f r → r.defaultRoute = false

/-- The slots of the default flow hold one default route of the state, or are empty because
there is none. -/
def DefaultSlots (s : State) (f : IpFamily) : Prop :=
  (∃ r, s.HasRoute f r ∧ r.defaultRoute = true ∧
      ∀ slot < flowTargetSlotCount, s.slots f defaultFlowId slot = some r.slotValue) ∨
    (s.NoDefault f ∧ ∀ slot < flowTargetSlotCount, s.slots f defaultFlowId slot = none)

def FamilyOk (s : State) : Prop := ∀ f r, s.HasRoute f r → r.gatewayIp.family = f

theorem DefaultSlots.congr (h : DefaultSlots s f)
    (hr : ∀ r, r.defaultRoute = true → (s'.HasRoute f r ↔ s.HasRoute f r))
    (hs : s'.slots f defaultFlowId = s.slots f defaultFlowId) : DefaultSlots s' f := by
  rcases h with ⟨r,hr',hd,hslot⟩ | ⟨hno,hslot⟩
  · exact .inl ⟨r,(hr r hd).mpr hr',hd,by rw [hs]; exact hslot⟩
  · refine .inr ⟨?_,by rw [hs]; exact hslot⟩
    intro r hr'
    cases hd : r.defaultRoute with
    | false => rfl
    | true => rw [← hd]; exact hno r ((hr r hd).mp hr')

theorem hasRoute_update : State.HasRoute { s with wan := update s.wan f m } f' r ↔
      if f' = f then ∃ owner, m.lookup owner = some r else s.HasRoute f' r := by
  by_cases hf : f' = f
  · subst hf
    simp [State.HasRoute]
  · simp [State.HasRoute, hf]

theorem foldl_erase_lookup (dropped : List RouteOwner)
    (h : (dropped.foldl (fun m o => m.erase o) m).lookup o = some r) : m.lookup o = some r := by
  rw [← eraseAll, lookup_eraseAll] at h
  exact (Option.ite_none_left_eq_some.mp h).2

theorem reconcile_default
    (h : (reconcileWanRoute m owner info).1 ≠ .changed true) (hr : r.defaultRoute = true) :
    (∃ o, (reconcileWanRoute m owner info).2.lookup o = some r) ↔ ∃ o, m.lookup o = some r := by
  have hins : info.defaultRoute = false → (∀ old, m.lookup owner = some old →
      old.defaultRoute = false) →
      ((∃ o, (m.insert owner info).lookup o = some r) ↔ ∃ o, m.lookup o = some r) := by
    intro hi hold
    constructor
    · rintro ⟨o,ho⟩
      rcases of_lookup_insert ho with ⟨-,rfl⟩ | ⟨-,ho⟩
      · simp [hi] at hr
      · exact ⟨o,ho⟩
    · rintro ⟨o,ho⟩
      by_cases hoo : o = owner
      · subst hoo
        simp [hold r ho] at hr
      · exact ⟨o,by rwa [lookup_insert_ne hoo]⟩
  unfold reconcileWanRoute at h ⊢
  cases hl : m.lookup owner with
  | none =>
    simp only [hl, ne_eq, WanRouteUpdate.changed.injEq, Bool.not_eq_true] at h ⊢
    exact hins h (by simp [hl])
  | some old =>
    simp only [hl] at h ⊢
    split
    · rfl
    · rename_i hne
      simp only [hne, if_false, ne_eq, WanRouteUpdate.changed.injEq, Bool.or_eq_true, not_or,
        Bool.not_eq_true] at h
      exact hins h.1 (by simp [hl, h.2])

theorem reconcile_lookup
    (h : (reconcileWanRoute m owner info).2.lookup o = some r) :
    r = info ∨ m.lookup o = some r := by
  have hins : (m.insert owner info).lookup o = some r → r = info ∨ m.lookup o = some r := by
    intro h
    rcases of_lookup_insert h with ⟨-,rfl⟩ | ⟨-,h⟩
    · exact .inl rfl
    · exact .inr h
  unfold reconcileWanRoute at h
  split at h
  · split at h
    · exact .inr h
    · exact hins h
  · exact hins h

/-- The routes inserted for a family have a gateway of it. The slots are written before the route
read for them leaves the state; a clear comes to its batch before a default route appears, and with
the slots that it found still there. -/
def currentSchedule : Schedule Op State DefaultLog WanCall where
  starts _ _ := True
  acts s _ _
    | .upsertWan f _ info => info.gatewayIp.family = f
    | .updateBatch f _ filtered => ∀ x ∈ filtered, s.HasRoute f x.1
    | .deleteBatch f flow found => s.NoDefault f ∧ ∀ key ∈ found, (s.slots f flow key).isSome
    | _ => True

/- A task will write the slots, or delete them: those it has missed have not been written since. -/
def DefaultLog.Owes (s : State) (f : IpFamily) (l : DefaultLog) : Prop :=
  l.owes f = true ∧ ∀ slot ∈ l.missing f, s.slots f defaultFlowId slot = none

def DefaultOwed (s : State) (logs : Nat → Option DefaultLog) (f : IpFamily) : Prop :=
  Owed (DefaultSlots s f) (DefaultLog.Owes s f) logs

structure DefaultInv (s : State) (logs : Nat → Option DefaultLog) : Prop where
  family : FamilyOk s
  owed : ∀ f, DefaultOwed s logs f

section Step
variable {logs : Nat → Option DefaultLog} {t : Nat} {l : DefaultLog}

@[simp] theorem set_owes {b : Bool} :
    (l.set f b).owes f' = if f' = f then b else l.owes f' := by
  by_cases hf : f' = f
  · subst hf
    simp [DefaultLog.set]
  · simp [DefaultLog.set, hf]

theorem Owes.set {b : Bool} (ho : l.Owes s f') (hb : f' = f → b = true) :
    (l.set f b).Owes s f' := by
  by_cases hf : f' = f
  · subst hf
    simp [DefaultLog.Owes, DefaultLog.set, hb]
  · simpa [DefaultLog.Owes, DefaultLog.set, hf] using ho

theorem Owes.onLookup {slot : Nat} (ho : l.Owes s f') :
    (l.onLookup f slot (s.slots f defaultFlowId slot).isSome).Owes s f' := by
  cases hs : s.slots f defaultFlowId slot with
  | some v => exact ho
  | none =>
    refine ⟨ho.1,fun k hk => ?_⟩
    by_cases hf : f' = f
    · subst hf
      rcases mem_cons.mp (by simpa [DefaultLog.onLookup, DefaultLog.miss] using hk) with rfl | hk
      · exact hs
      · exact ho.2 k hk
    · exact ho.2 k (by simpa [DefaultLog.onLookup, DefaultLog.miss, hf] using hk)

section
variable (h : DefaultInv s logs) (ht : logs t = some l)
include h ht

theorem defaultInv_wan {m : WanRoutesByOwner} {l' : DefaultLog}
    (hm : ∀ o r, m.lookup o = some r → r.gatewayIp.family = f)
    (hl : l' = l.set f true ∨ l' = l ∧ ∀ r, r.defaultRoute = true →
      ((∃ o, m.lookup o = some r) ↔ s.HasRoute f r)) :
    DefaultInv { s with wan := update s.wan f m } (update logs t (some l')) := by
  refine ⟨?_,fun f' => ?_⟩
  · intro f' r hr
    rw [hasRoute_update] at hr
    split at hr
    · rename_i hf
      obtain ⟨o,ho⟩ := hr
      exact hf ▸ hm o r ho
    · exact h.family f' r hr
  · have hother : f' ≠ f → DefaultSlots s f' →
        DefaultSlots { s with wan := update s.wan f m } f' := by
      intro hf hd
      exact hd.congr (fun r _ => by rw [hasRoute_update, if_neg hf]) rfl
    refine (h.owed f').act ht ?_ ?_
    · intro hd
      by_cases hf : f' = f
      · subst hf
        rcases hl with rfl | ⟨rfl,hsame⟩
        · exact .inr (by simp [DefaultLog.Owes, DefaultLog.set])
        · refine .inl (hd.congr (fun r hr => ?_) rfl)
          rw [hasRoute_update, if_pos rfl]
          exact hsame r hr
      · exact .inl (hother hf hd)
    · intro ho
      rcases hl with rfl | ⟨rfl,-⟩
      · exact .inr (Owes.set ho fun _ => rfl)
      · exact .inr ho

/- The slots of `f` change: the others keep their debts for it, or it has been paid. -/
theorem defaultInv_slots {m : SlotMap}
    (hm : ∀ f', f' ≠ f → m f' defaultFlowId = s.slots f' defaultFlowId)
    (hd : DefaultOwed { s with slots := m } (update logs t (some (l.set f false))) f) :
    DefaultInv { s with slots := m } (update logs t (some (l.set f false))) := by
  refine ⟨h.family,fun f' => ?_⟩
  by_cases hf : f' = f
  · exact hf ▸ hd
  · have hmono : Owed (DefaultSlots { s with slots := m } f')
        (DefaultLog.Owes { s with slots := m } f') logs := by
      refine (h.owed f').mono (fun hd => hd.congr (fun _ _ => Iff.rfl) (hm f' hf)) fun x hx => ?_
      exact ⟨hx.1,fun slot hs => (congrFun (hm f' hf) slot).trans (hx.2 slot hs)⟩
    exact hmono.act ht .inl fun ho => .inr (Owes.set ho fun h => absurd h hf)

theorem defaultInv_delete {keys : List Nat} (hno : s.NoDefault f) (hn : keys.Nodup)
    (hall : ∀ key ∈ keys, (s.slots f defaultFlowId key).isSome)
    (hcover : ∀ slot < flowTargetSlotCount, slot ∈ keys ∨ slot ∈ l.missing f) :
    DefaultInv { s with slots := deleteSlots f defaultFlowId keys s.slots }
      (update logs t (some (l.set f false))) := by
  refine defaultInv_slots h ht (fun f' hf => deleteSlots_other _ (.inl hf)) ?_
  have hnone : DefaultSlots s f →
      ∀ slot < flowTargetSlotCount, s.slots f defaultFlowId slot = none := by
    rintro (⟨r,hr,hd,-⟩ | ⟨-,hnone⟩)
    · simp [hno r hr] at hd
    · exact hnone
  have hkept : DefaultOwed { s with slots := deleteSlots f defaultFlowId keys s.slots } logs f :=
    (h.owed f).mono
      (fun hd => .inr ⟨hno,fun slot hs => deleteSlots_missing keys (hnone hd slot hs)⟩)
      (fun _ hx => ⟨hx.1,fun slot hs => deleteSlots_missing keys (hx.2 slot hs)⟩)
  refine Owed.act hkept ht .inl fun ho => .inl (.inr ⟨hno,fun slot hs => ?_⟩)
  exact (hcover slot hs).elim (deleteSlots_found hn hall) (ho.2 slot)

theorem defaultInv_same (hw : s'.wan = s.wan) (hs : s'.slots = s.slots)
    {l' : DefaultLog} (hl : ∀ f, l.Owes s f → l'.Owes s f) :
    DefaultInv s' (update logs t (some l')) := by
  have hroute : ∀ f r, s'.HasRoute f r ↔ s.HasRoute f r := by
    intro f r
    simp [State.HasRoute, hw]
  refine ⟨fun f r hr => h.family f r ((hroute f r).mp hr),fun f => ?_⟩
  have hkept := (h.owed f).act ht .inl fun ho => .inr (hl f ho)
  refine hkept.mono (fun hd => hd.congr (fun r _ => hroute f r) (by rw [hs])) fun x hx => ?_
  exact ⟨hx.1,by rw [hs]; exact hx.2⟩

theorem defaultInv_upsert (hi : info.gatewayIp.family = f) :
    DefaultInv { s with wan := update s.wan f (reconcileWanRoute (s.wan f) owner info).2 }
      (update logs t (some (l.onUpsert f (reconcileWanRoute (s.wan f) owner info).1))) := by
  refine defaultInv_wan h ht ?_ ?_
  · intro o r hr
    rcases reconcile_lookup hr with rfl | hr
    · exact hi
    · exact h.family f r ⟨o,hr⟩
  · by_cases hc : (reconcileWanRoute (s.wan f) owner info).1 = .changed true
    · exact .inl (by rw [hc]; rfl)
    · refine .inr ⟨?_,fun r hr => reconcile_default hc hr⟩
      unfold DefaultLog.onUpsert
      split
      · contradiction
      · rfl

theorem defaultInv_remove : DefaultInv { s with wan := update s.wan f ((s.wan f).erase owner) }
      (update logs t (some (l.onRemove f ((s.wan f).lookup owner)))) := by
  have hsub : ∀ o r, ((s.wan f).erase owner).lookup o = some r → (s.wan f).lookup o = some r :=
    fun _ _ hr => (of_lookup_erase hr).2
  refine defaultInv_wan h ht (fun o r hr => h.family f r ⟨o,hsub o r hr⟩) ?_
  unfold DefaultLog.onRemove
  split
  · exact .inl rfl
  · rename_i hno
    refine .inr ⟨rfl,fun r hr => ⟨fun ⟨o,ho⟩ => ⟨o,hsub o r ho⟩,?_⟩⟩
    rintro ⟨o,ho⟩
    -- the removed route is not a default one, so `r` belongs to another owner
    have hoo : o ≠ owner := by
      rintro rfl
      simp [ho, hr] at hno
    exact ⟨o,by rwa [lookup_erase_ne hoo]⟩

theorem defaultInv_retain :
    DefaultInv { s with wan := update s.wan f (retainNonDocker (s.wan f)).2 }
      (update logs t (some (l.onRetain f (retainNonDocker (s.wan f)).1))) := by
  refine defaultInv_wan h ht (fun o r hr => h.family f r ⟨o,foldl_erase_lookup _ hr⟩) ?_
  unfold retainNonDocker
  cases (filter (fun e => e.2.isDocker) (s.wan f).entries).map (·.1) with
  | nil => exact .inr ⟨rfl,fun r _ => Iff.rfl⟩
  | cons o dropped => exact .inl rfl

end

end Step

theorem default_outline : Outline (defaultMachine H) defaultContract currentSchedule
    DefaultLog.Settled DefaultInv where
  start s logs t e s' th h ht _ hl := by
    cases hl
    refine ⟨⟨h.family,fun f => (h.owed f).start ht _ .inl⟩,wanCall_keeps e⟩
  act s logs t l o h ht ha hc := by
    cases o with
    | upsertWan f owner info => exact ⟨trivial,defaultInv_upsert h ht ha⟩
    | removeWan f owner => exact ⟨trivial,defaultInv_remove h ht⟩
    | retainWan f => exact ⟨trivial,defaultInv_retain h ht⟩
    | findDefault f =>
      refine ⟨fun x hx => ⟨find?_some hx,?_⟩,defaultInv_same h ht rfl rfl fun _ => id⟩
      exact h.family f x ((H.mem_wanValues _ _).mp (mem_of_find?_eq_some hx))
    | updateBatch f flow filtered =>
      obtain ⟨rfl,r,hr,rfl⟩ := hc
      have hin : s.HasRoute f r := ha (r, 1) (by simp)
      refine ⟨trivial,defaultInv_slots h ht ?_ (.inl ?_)⟩
      · intro f' hf
        exact updateSlots_other _ (.inl hf)
      · exact .inl ⟨r,hin,hr,fun slot hslot => updateSlots_single _ hslot⟩
    | lookupSlot f flow slot =>
      cases hc
      exact ⟨trivial,defaultInv_same h ht rfl rfl fun _ => Owes.onLookup⟩
    | deleteBatch f flow keys =>
      obtain ⟨rfl,hn,hcover⟩ := hc
      exact ⟨trivial,defaultInv_delete h ht ha.1 hn ha.2 hcover⟩
    | saveFlows now configs =>
      refine ⟨trivial,defaultInv_same h ht ?_ ?_ fun _ => id⟩ <;>
      · simp only [defaultMachine, exec]
        split <;> rfl
    | notify | cloneWan f | listFlows | deleteFlow uuid =>
      refine ⟨trivial,defaultInv_same h ht ?_ ?_ fun _ => id⟩ <;> rfl
  finish s logs t l h ht hfin := by
    refine ⟨h.family,fun f => (h.owed f).finish ht ?_⟩
    simp [DefaultLog.Owes, hfin f]

def HashOrder.stored : HashOrder where
  wanValues m := m.entries.map (·.2)
  mem_wanValues m r := by
    rw [mem_map]
    constructor
    · rintro ⟨⟨o,x⟩,hx,rfl⟩
      exact ⟨o,mem_lookup_iff.mpr hx⟩
    · rintro ⟨o,ho⟩
      exact ⟨⟨o,r⟩,mem_lookup_iff.mp ho,rfl⟩
  flowEntries m := m.entries.map fun e => (e.1, e.2)
  mem_flowEntries m k v := by
    rw [mem_map]
    constructor
    · rintro ⟨⟨k',v'⟩,hx,heq⟩
      cases heq
      exact mem_lookup_iff.mpr hx
    · intro h
      exact ⟨⟨k,v⟩,mem_lookup_iff.mp h,rfl⟩

def currentCheck (s : State) (_ : Nat → Option DefaultLog) (_ : Nat) : Op → Bool
  | .upsertWan f _ info => info.gatewayIp.family = f
  | .updateBatch f _ filtered => filtered.all fun x => (s.wan f).entries.any fun e => e.2 = x.1
  | .deleteBatch f flow found =>
    ((s.wan f).entries.all fun e => !e.2.defaultRoute) && found.all
      fun k => (s.slots f flow k).isSome
  | _ => true

theorem current_of_check {logs : Nat → Option DefaultLog} {t : Nat} {o : Op}
    (h : currentCheck s logs t o = true) : currentSchedule.acts s logs t o := by
  cases o with
  | upsertWan f owner info =>
    have hf : info.gatewayIp.family = f := of_decide_eq_true h
    exact hf
  | updateBatch f flow filtered =>
    intro x hx
    simp only [currentCheck, all_eq_true, any_eq_true, decide_eq_true_eq] at h
    obtain ⟨⟨o,r⟩,he,hr⟩ := h x hx
    exact ⟨o,hr ▸ mem_lookup_iff.mpr he⟩
  | deleteBatch f flow keys =>
    simp only [currentCheck, Bool.and_eq_true, all_eq_true, Bool.not_eq_true'] at h
    refine ⟨?_,h.2⟩
    rintro r ⟨o,ho⟩
    exact h.1 ⟨o,r⟩ (mem_lookup_iff.mp ho)
  | _ => trivial

def sampleRoute : RouteTargetInfo :=
  ⟨1,2,none,true,false,"ppp0",.v4 0x01010101,.v4 0x01010102,false⟩

def sampleOwner : RouteOwner := .link 1

def callRun (t : Nat) (call : WanCall) (n : Nat) : List (Label WanCall) :=
  .start t call :: replicate n (.act t)

def comeAndGo : List (Label WanCall) :=
  callRun 0 (.insert .ipv4 sampleOwner sampleRoute) 22 ++ [.finish 0] ++
    callRun 0 (.remove .ipv4 sampleOwner) 38 ++ [.finish 0]

def lateWrite : List (Label WanCall) :=
  callRun 0 (.insert .ipv4 sampleOwner sampleRoute) 2 ++
    callRun 1 (.remove .ipv4 sampleOwner) 38 ++ [.finish 1] ++ replicate 20 (.act 0) ++ [.finish 0]

end Landscape.Route
