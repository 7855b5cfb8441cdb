import Landscape.Route.DefaultRoute

/-! The slots of the flows follow the stored flows and the WAN routes. -/
namespace Landscape.Route
open Broadcast Interleave Landscape.Flow Store Table Function List Bool
variable {H : HashOrder} {s s' : State} {f : IpFamily} {k : FlowId} {α : Type}

/- What the tasks of the flow rule service and of the route service are asked to do; the observer
   runs when an event is pending. -/
inductive FlowCall where
  | wan (call : WanCall)
  | save (now : Nat) (configs : List FlowConfig)
  | delete (id : Uuid)
  | observe

def FlowCall.run (H : HashOrder) : FlowCall → M Unit
  | .wan call => call.run
  | .save now configs =>
    if configs.all fun c => c.validate.isOk then setFlows H now configs else pure ()
  | .delete id => deleteFlowConfig id
  | .observe => syncAllFlowWanTargets H

/-- What a task still has to write, the slots its clears have found missing, whether it has to wake
the observer (or is the observer and has not listed the flows), and what it has read. -/
structure FlowLog where
  owes : IpFamily → FlowId → Bool
  missing : IpFamily → FlowId → List Nat
  wakes : Bool
  source : List FlowConfig
  snap : IpFamily → WanRoutesByOwner
  deleted : Option FlowId

def FlowLog.start : FlowLog := ⟨fun _ _ => false,fun _ _ => [],false,[],fun _ => ∅,none⟩

def FlowLog.observer : FlowLog := { FlowLog.start with wakes := true }

variable (l : FlowLog)

def FlowLog.sync (configs : List FlowConfig) : FlowLog :=
  { l with
    source := configs
    missing := fun _ _ => []
    owes := fun f k => l.owes f k || configs.any fun c => c.flowId = k }

def FlowLog.clear (flow : FlowId) : FlowLog :=
  { l with
    deleted := some flow
    missing := fun _ _ => []
    owes := fun f k => l.owes f k || k = flow }

def FlowLog.miss (f : IpFamily) (flow : FlowId) (slot : Nat) : FlowLog :=
  { l with missing := update l.missing f (update (l.missing f) flow (slot :: l.missing f flow)) }

def FlowLog.onLookup (f : IpFamily) (flow : FlowId) (slot : Nat) : Bool → FlowLog
  | true => l
  | false => l.miss f flow slot

def FlowLog.wake (changed : Bool) : FlowLog := { l with wakes := l.wakes || changed }

def FlowLog.wrote (f : IpFamily) (flow : FlowId) : FlowLog :=
  { l with owes := update l.owes f (update (l.owes f) flow false) }

def FlowLog.onSave : Option (List (Change FlowConfig)) → FlowLog
  | none => l
  | some changes => l.sync (changes.map (·.new))

def FlowLog.onDelete : Option FlowConfig → FlowLog
  | none => l
  | some old => l.clear old.flowId

def FlowLog.onUpsert (r : WanRouteUpdate) : FlowLog := l.wake (r ≠ .noop)
def FlowLog.onRemove (r : Option RouteTargetInfo) : FlowLog := l.wake r.isSome
def FlowLog.onRetain (r : List RouteOwner) : FlowLog := l.wake (r ≠ [])

def recordFlow : (o : Op) → Res o → FlowLog
  | .upsertWan _ _ _, r => l.onUpsert r
  | .removeWan _ _, r => l.onRemove r
  | .retainWan _, r => l.onRetain r
  | .findDefault _, _ => l
  | .cloneWan f, r => { l with snap := update l.snap f r }
  | .lookupSlot f flow slot, found => l.onLookup f flow slot found
  | .updateBatch f flow _, _ | .deleteBatch f flow _, _ => l.wrote f flow
  | .notify, _ => { l with wakes := false }
  | .listFlows, r => { l.sync r with wakes := false }
  | .saveFlows _ _, r => l.onSave r
  | .deleteFlow _, r => l.onDelete r

def flowLaunch (H : HashOrder) (c : FlowCall) (s : State) :
    Option (State × Thread Op Res FlowLog) :=
  match c with
  | .observe =>
    if s.events.pending then some ({ s with events := s.events.recv }, ⟨c.run H,.observer⟩)
    else none
  | _ => some (s, ⟨c.run H,.start⟩)

def flowMachine (H : HashOrder) : Sys Op Res State FlowLog FlowCall :=
  ⟨exec H,recordFlow,flowLaunch H⟩

def FlowLog.Joins (f : IpFamily) (flow : FlowId) (filtered : List (RouteTargetInfo × UInt32)) :
    Prop :=
  l.deleted = none ∧ ∃ c ∈ l.source, c.flowId = flow ∧
    filtered = usableTargets f (flowConfigTargets (l.snap f) c)

/- A slot write of another flow than the default one is what the task has read comes to, or clears
   the flow it has deleted; a clear has looked at all slots. -/
def flowContract : Contract Op Res FlowLog where
  Allowed l
    | .updateBatch f flow filtered => flow = defaultFlowId ∨ l.Joins f flow filtered
    | .deleteBatch f flow keys => flow = defaultFlowId ∨
        (l.deleted = some flow ∨ l.Joins f flow []) ∧ keys.Nodup ∧
          ∀ slot < flowTargetSlotCount, slot ∈ keys ∨ slot ∈ l.missing f flow
    | _ => True
  Answers _ _ _ := True

abbrev FlowKeeps (H : HashOrder) (Q : α → FlowLog → Prop) (p : M α) (l : FlowLog) : Prop :=
  Meets (flowMachine H) flowContract Q p l

def FlowLog.Paid (w : Bool) (l : FlowLog) : Prop := l.wakes = w ∧ ∀ f k, l.owes f k = false

theorem FlowLog.start_paid : FlowLog.start.Paid false := ⟨rfl,fun _ _ => rfl⟩

variable {l : FlowLog} {w : Bool} {configs : List FlowConfig} {flow : FlowId}
  {wan m : WanRoutesByOwner} {c : FlowConfig}

theorem wrote_owes {f' : IpFamily} :
    (l.wrote f flow).owes f' k = if f' = f ∧ k = flow then false else l.owes f' k :=
  update_update_apply l.owes f f' false

theorem FlowLog.Paid.wrote (h : l.Paid w) (f : IpFamily) (flow : FlowId) :
    (l.wrote f flow).Paid w := by
  refine ⟨h.1,fun f' k => ?_⟩
  rw [wrote_owes]
  split
  · rfl
  · exact h.2 f' k

theorem foldl_missed (f : IpFamily) (flow : FlowId) (l : FlowLog) (missing : List Nat) :
    ∃ m, missing.foldl (·.miss f flow) l = { l with missing := m } ∧
      ∀ slot, slot ∈ missing ∨ slot ∈ l.missing f flow → slot ∈ m f flow := by
  induction missing generalizing l with
  | nil => exact ⟨l.missing,rfl,by simp⟩
  | cons slot missing ih =>
    obtain ⟨m,hm,hmem⟩ := ih (l.miss f flow slot)
    refine ⟨m,hm,fun k hk => hmem k ?_⟩
    simp only [FlowLog.miss, update_self, mem_cons] at hk ⊢
    tauto

section Write
variable {targets : List (RouteTargetInfo × UInt32)} {Q : Unit → FlowLog → Prop}
  (hQ : ∀ m, Q () (FlowLog.wrote { l with missing := m } f flow))
include hQ

theorem clearWanRouteSlots_keeps
    (hj : flow = defaultFlowId ∨ l.deleted = some flow ∨ l.Joins f flow []) :
    FlowKeeps H Q (clearWanRouteSlots f flow) l := by
  refine clearWanRouteSlots_meets (·.miss f flow) (fun _ _ => trivial) (fun _ _ => rfl)
    (fun _ _ => rfl)
    fun keys missing hn hcover => ?_
  obtain ⟨m,hm,hmem⟩ := foldl_missed f flow l missing
  rw [hm]
  refine .step (hj.imp_right fun hj => ⟨hj,hn,fun slot hs => ?_⟩) fun _ _ => hQ m
  exact (hcover slot hs).imp_right fun h => hmem slot (.inl h)

theorem replaceWanRouteSlots_keeps
    (hj : flow = defaultFlowId ∨ l.Joins f flow (usableTargets f targets)) :
    FlowKeeps H Q (replaceWanRouteSlots f flow targets) l := by
  unfold replaceWanRouteSlots
  dsimp only
  split
  · rename_i hnil
    exact clearWanRouteSlots_keeps hQ (hj.imp_right fun hj => .inr (hnil ▸ hj))
  · exact .step hj fun _ _ => hQ l.missing

end Write

theorem syncDefault_paid (h : l.Paid w) (r : Option RouteTargetInfo) :
    FlowKeeps H (fun _ => FlowLog.Paid w) (syncDefaultWanRoute f r) l := by
  have hpaid : ∀ m, (FlowLog.wrote { l with missing := m } f defaultFlowId).Paid w :=
    fun _ => h.wrote f defaultFlowId
  cases r with
  | none => exact clearWanRouteSlots_keeps hpaid (.inl rfl)
  | some x => exact replaceWanRouteSlots_keeps hpaid (.inl rfl)

theorem refreshDefaultRouter_paid (h : l.Paid w) :
    FlowKeeps H (fun _ => FlowLog.Paid w) refreshDefaultRouter l := by
  refine .step trivial fun r₄ _ => (syncDefault_paid h r₄).call fun _ _ h => ?_
  exact .step trivial fun r₆ _ => syncDefault_paid h r₆

theorem notifyWanRouteChange_paid (h : l.Paid w) :
    FlowKeeps H (fun _ => FlowLog.Paid false) notifyWanRouteChange l :=
  .step trivial fun _ _ => ⟨rfl,h.2⟩

theorem notifyAll_paid (h : l.Paid w) (owners : List RouteOwner) (hne : owners ≠ [] ∨ w = false) :
    FlowKeeps H (fun _ => FlowLog.Paid false) (notifyAll owners) l := by
  induction owners generalizing l w with
  | nil =>
    cases hne.resolve_left fun h => h rfl
    exact .pure h
  | cons o owners ih =>
    refine .step trivial fun _ _ => ih (w := false) ⟨rfl,h.2⟩ (.inr rfl)

/-- Whoever changes the WAN routes wakes the observer. -/
theorem wanCall_paid (c : WanCall) : FlowKeeps H (fun _ => FlowLog.Paid false) c.run .start := by
  have hpaid : ∀ b, (FlowLog.start.wake b).Paid b := fun _ => ⟨rfl,fun _ _ => rfl⟩
  have hrefresh : ∀ b, FlowKeeps H (fun _ => FlowLog.Paid false)
      (do refreshDefaultRouter; notifyWanRouteChange) (FlowLog.start.wake b) := fun b =>
    (refreshDefaultRouter_paid (hpaid b)).call fun _ _ h => notifyWanRouteChange_paid h
  cases c with
  | insert f owner info =>
    refine .step trivial fun r _ => ?_
    match r with
    | .noop => exact .pure FlowLog.start_paid
    | .changed true => exact hrefresh _
    | .changed false => exact notifyWanRouteChange_paid (hpaid _)
  | remove f owner =>
    refine .step trivial fun r _ => ?_
    match r with
    | none => exact .pure FlowLog.start_paid
    | some info =>
      dsimp only
      split
      · exact hrefresh _
      · exact notifyWanRouteChange_paid (hpaid _)
  | removeAllDocker =>
    refine .step trivial fun r₄ _ => .step trivial fun r₆ _ => ?_
    split
    · rename_i hno
      obtain ⟨rfl,rfl⟩ := hno
      exact .pure FlowLog.start_paid
    · rename_i hno
      refine (refreshDefaultRouter_paid ⟨rfl,fun _ _ => rfl⟩).call fun _ _ h =>
        notifyAll_paid h _ (.inl ?_)
      intro he
      exact hno (append_eq_nil_iff.mp he)
  | refreshDefault => exact refreshDefaultRouter_paid FlowLog.start_paid

theorem collect_eq : collectTargetRefreshResult configs wan =
    insertAll (configs.map fun c => (c.flowId, flowConfigTargets wan c)) ∅ := by
  rw [insertAll, foldl_map]
  rfl

theorem collect_lookup {targets : List (RouteTargetInfo × UInt32)}
    (h : (collectTargetRefreshResult configs wan).lookup k = some targets) :
    ∃ c ∈ configs, c.flowId = k ∧ targets = flowConfigTargets wan c := by
  rw [collect_eq] at h
  rcases mem_of_lookup_insertAll h with hmem | h
  · obtain ⟨c,hc,heq⟩ := mem_map.mp hmem
    cases heq
    exact ⟨c,hc,rfl,rfl⟩
  · cases h

theorem collect_covers (hc : c ∈ configs) :
    ∃ targets, (collectTargetRefreshResult configs wan).lookup c.flowId = some targets := by
  rw [collect_eq]
  refine lookup_of_mem (mem_insertAll (.inl ?_))
  exact mem_map.mpr ⟨_,mem_map_of_mem hc,rfl⟩

structure Wrote (l : FlowLog) (f : IpFamily) (flows : List FlowId) (l' : FlowLog) : Prop where
  wakes : l'.wakes = l.wakes
  source : l'.source = l.source
  snap : l'.snap = l.snap
  deleted : l'.deleted = l.deleted
  owes : ∀ f' k, l'.owes f' k = if f' = f ∧ k ∈ flows then false else l.owes f' k

theorem applyTargetRefresh_keeps (hd : l.deleted = none)
    (entries : List (FlowId × List (RouteTargetInfo × UInt32)))
    (h : ∀ e ∈ entries, ∃ c ∈ l.source, c.flowId = e.1 ∧ e.2 = flowConfigTargets (l.snap f) c) :
    FlowKeeps H (fun _ => Wrote l f (entries.map (·.1))) (applyTargetRefresh f entries) l := by
  induction entries generalizing l with
  | nil => exact ⟨rfl,rfl,rfl,rfl,by simp⟩
  | cons e entries ih =>
    obtain ⟨flow,targets⟩ := e
    obtain ⟨c,hc,hflow,htargets⟩ := h _ mem_cons_self
    have hrest : ∀ m, FlowKeeps H (fun _ => Wrote l f (((flow, targets) :: entries).map (·.1)))
        (applyTargetRefresh f entries) (FlowLog.wrote { l with missing := m } f flow) := by
      intro m
      refine (ih (l := FlowLog.wrote { l with missing := m } f flow) hd fun e he =>
        h e (mem_cons_of_mem _ he)).mono ?_
      intro _ l' hl'
      refine ⟨hl'.wakes,hl'.source,hl'.snap,hl'.deleted,fun f' k => ?_⟩
      rw [hl'.owes, wrote_owes, map_cons]
      simp only [mem_cons]
      by_cases hf : f' = f <;> by_cases hk : k = flow <;> simp [hf, hk]
    unfold applyTargetRefresh
    split
    · rename_i hnil
      have hjoin : l.Joins f flow [] := ⟨hd,c,hc,hflow,by simp [← htargets, hnil, usableTargets]⟩
      exact .bind (clearWanRouteSlots_keeps hrest (.inr (.inr hjoin)))
    · exact .bind (replaceWanRouteSlots_keeps hrest (.inr ⟨hd,c,hc,hflow,congrArg _ htargets⟩))

theorem flowEntries_source (hs : l.source = configs) (hw : l.snap f = wan) :
    ∀ e ∈ H.flowEntries (collectTargetRefreshResult configs wan),
      ∃ c ∈ l.source, c.flowId = e.1 ∧ e.2 = flowConfigTargets (l.snap f) c := by
  intro e he
  rw [hs, hw]
  exact collect_lookup ((H.mem_flowEntries _ _ _).mp he)

theorem flowEntries_covers (hc : c ∈ configs) :
    c.flowId ∈ (H.flowEntries (collectTargetRefreshResult configs wan)).map (·.1) := by
  obtain ⟨targets,ht⟩ := collect_covers hc
  exact mem_map.mpr ⟨(c.flowId, targets),(H.mem_flowEntries _ _ _).mpr ht,rfl⟩

theorem sync_owes (h : ∀ f k, l.owes f k = false) (hok : (l.sync configs).owes f k = true) :
    ∃ c ∈ configs, c.flowId = k := by
  simpa [FlowLog.sync, h f k] using hok

section
variable (hd : l.deleted = none) (hw : l.wakes = false) (hs : l.source = configs)
  (ho : ∀ f k, l.owes f k = true → ∃ c ∈ configs, c.flowId = k)
include hd hw hs ho

theorem applyBoth_paid : FlowKeeps H (fun _ => FlowLog.Paid false) (do
      applyTargetRefresh .ipv4 (H.flowEntries (collectTargetRefreshResult configs (l.snap .ipv4)))
      applyTargetRefresh .ipv6 (H.flowEntries (collectTargetRefreshResult configs (l.snap .ipv6))))
      l := by
  refine (applyTargetRefresh_keeps hd _ (flowEntries_source hs rfl)).call fun _ l₁ h₁ => ?_
  refine (applyTargetRefresh_keeps (h₁.deleted.trans hd) _
    (flowEntries_source (h₁.source.trans hs) (by rw [h₁.snap]))).mono fun _ l₂ h₂ => ?_
  refine ⟨h₂.wakes.trans (h₁.wakes.trans hw),fun f k => ?_⟩
  rw [h₂.owes, h₁.owes]
  cases hok : l.owes f k with
  | false => cases f <;> simp
  | true =>
    obtain ⟨c,hc,rfl⟩ := ho f k hok
    cases f
    · rw [if_neg (by simp), if_pos ⟨rfl,flowEntries_covers hc⟩]
    · rw [if_pos ⟨rfl,flowEntries_covers hc⟩]

theorem syncFlowWanTargets_paid :
    FlowKeeps H (fun _ => FlowLog.Paid false) (syncFlowWanTargets H configs) l := by
  refine .step trivial fun wan₄ _ => .step trivial fun wan₆ _ => ?_
  exact applyBoth_paid (l := { l with snap := update (update l.snap .ipv4 wan₄) .ipv6 wan₆ })
    hd hw hs ho

end

theorem flowCall_paid (c : FlowCall) (h : c ≠ .observe) :
    FlowKeeps H (fun _ => FlowLog.Paid false) (c.run H) .start := by
  cases c with
  | wan call => exact wanCall_paid call
  | save now configs =>
    show FlowKeeps H _ (if configs.all fun c => c.validate.isOk then setFlows H now configs
      else pure ()) _
    split
    · refine .step trivial fun r _ => ?_
      match r with
      | none => exact .pure FlowLog.start_paid
      | some changes =>
        exact syncFlowWanTargets_paid rfl rfl rfl fun f k => sync_owes FlowLog.start_paid.2
    · exact .pure FlowLog.start_paid
  | delete id =>
    refine .step trivial fun r _ => ?_
    match r with
    | none => exact .pure FlowLog.start_paid
    | some old =>
      refine .bind (clearWanRouteSlots_keeps (fun _ => ?_) (.inr (.inl rfl)))
      refine clearWanRouteSlots_keeps (fun _ => ⟨rfl,fun f k => ?_⟩) (.inr (.inl rfl))
      simp only [flowMachine, recordFlow, FlowLog.onDelete, wrote_owes]
      cases f <;> simp [FlowLog.clear, FlowLog.start]
  | observe => exact absurd rfl h

theorem observe_paid :
    FlowKeeps H (fun _ => FlowLog.Paid false) (FlowCall.observe.run H) .observer :=
  .step trivial fun _ _ =>
    syncFlowWanTargets_paid rfl rfl rfl fun _ _ => sync_owes FlowLog.start_paid.2

/-- The targets an enabled stored flow with the id resolves to, or nothing without such a flow. -/
def FlowJoin (s : State) (f : IpFamily) (k : FlowId) (targets : List (RouteTargetInfo × UInt32)) :
    Prop :=
  (∃ c ∈ s.flows, c.flowId = k ∧ c.enable = true ∧ targets = flowConfigTargets (s.wan f) c) ∨
    ((∀ c ∈ s.flows, c.flowId = k → c.enable = false) ∧ targets = [])

def FlowRight (s : State) (f : IpFamily) (k : FlowId) : Prop :=
  ∃ targets, FlowJoin s f k targets ∧
    ∀ slot < flowTargetSlotCount, s.slots f k slot = targetSlots f targets slot

def Stored (s : State) (k : FlowId) : Prop := ∃ c ∈ s.flows, c.flowId = k

theorem flowConfigTargets_congr {w w' : WanRoutesByOwner} (h : ∀ o, w.lookup o = w'.lookup o) :
    flowConfigTargets w c = flowConfigTargets w' c := by
  have hfind : ∀ t, findRouteTarget w t = findRouteTarget w' t := by
    intro t
    cases t <;> simp [findRouteTarget, h]
  simp [flowConfigTargets, hfind]

theorem FlowRight.congr (h : FlowRight s f k)
    (hflows : ∀ c, c.flowId = k → (c ∈ s'.flows ↔ c ∈ s.flows))
    (hwan : Stored s k → ∀ o, (s'.wan f).lookup o = (s.wan f).lookup o)
    (hslots : s'.slots f k = s.slots f k) : FlowRight s' f k := by
  obtain ⟨targets,hjoin,hs⟩ := h
  refine ⟨targets,?_,by rw [hslots]; exact hs⟩
  rcases hjoin with ⟨c,hc,hk,he,rfl⟩ | ⟨hno,rfl⟩
  · refine .inl ⟨c,(hflows c hk).mpr hc,hk,he,?_⟩
    exact (flowConfigTargets_congr (hwan ⟨c,hc,hk⟩)).symm
  · exact .inr ⟨fun c hc hk => hno c ((hflows c hk).mp hc) hk,rfl⟩

/-- The routes of the family and the flows a task has joined for the id are still the ones in
force. -/
def Fresh (s : State) (l : FlowLog) (f : IpFamily) (k : FlowId) : Prop :=
  (∀ o, (s.wan f).lookup o = (l.snap f).lookup o) ∧ ∀ c ∈ l.source, c.flowId = k → c ∈ s.flows

/-- A saved flow keeps the id it is stored with and takes no id of another flow; slots are written
while what was read for them is in force. A clear comes to its batch while this is so, or while no
flow has the deleted id, and with the slots that it found still there. -/
def freshSchedule : Schedule Op State FlowLog FlowCall where
  starts _ _ := True
  acts s logs t
    | .saveFlows _ configs =>
      ∀ c ∈ configs, ∀ x, x ∈ s.flows ∨ x ∈ configs → (x.id = c.id ↔ x.flowId = c.flowId)
    | .updateBatch f flow filtered => flow = defaultFlowId ∨
        ((filtered.map (·.2)).sum ≠ 0 ∧ ∀ l, logs t = some l → Fresh s l f flow)
    | .deleteBatch f flow keys => flow = defaultFlowId ∨
        ((∀ key ∈ keys, (s.slots f flow key).isSome) ∧ ∀ l, logs t = some l →
          if l.deleted = some flow then ¬Stored s flow else Fresh s l f flow)
    | _ => True

/- A task will write the slots, or delete them: those it has missed have not been written since. -/
def FlowLog.Owes (s : State) (f : IpFamily) (k : FlowId) (l : FlowLog) : Prop :=
  l.owes f k = true ∧ ∀ slot ∈ l.missing f k, s.slots f k slot = none

/- The slots of a flow are right, or a task will write them, or the observer will. -/
def FlowOwed (s : State) (logs : Nat → Option FlowLog) (f : IpFamily) (k : FlowId) : Prop :=
  Owed (FlowRight s f k ∨ (Stored s k ∧ s.events.pending = true))
    (fun l => l.Owes s f k ∨ (Stored s k ∧ l.wakes = true)) logs

structure FlowInv (s : State) (logs : Nat → Option FlowLog) : Prop where
  keyed : Keyed s.flows
  distinct : ∀ c ∈ s.flows, ∀ x ∈ s.flows, c.flowId = x.flowId → c = x
  owed : ∀ f k, k ≠ defaultFlowId → FlowOwed s logs f k

section Step
variable {logs : Nat → Option FlowLog} {t : Nat} {l l' : FlowLog}

theorem flowOwed_act (h : FlowOwed s logs f k) (ht : logs t = some l)
    (hstored : Stored s k → Stored s' k)
    (hslots : ∀ slot, s.slots f k slot = none → s'.slots f k slot = none)
    (hright : FlowRight s f k →
      FlowRight s' f k ∨ l'.Owes s' f k ∨ (Stored s' k ∧ l'.wakes = true))
    (hevent : s.events.pending = true → s'.events.pending = true)
    (howes : l.Owes s' f k → FlowRight s' f k ∨ l'.Owes s' f k)
    (hwakes : Stored s' k → l.wakes = true →
      s'.events.pending = true ∨ l'.Owes s' f k ∨ l'.wakes = true) :
    FlowOwed s' (update logs t (some l')) f k := by
  have hmono : Owed (FlowRight s f k ∨ (Stored s k ∧ s.events.pending = true))
      (fun l => l.Owes s' f k ∨ (Stored s' k ∧ l.wakes = true)) logs := by
    refine Owed.mono h id fun l hl => ?_
    exact hl.imp (fun ho => ⟨ho.1,fun slot hs => hslots slot (ho.2 slot hs)⟩) fun hw =>
      ⟨hstored hw.1,hw.2⟩
  refine hmono.act ht ?_ ?_
  · rintro (hr | ⟨hst,hp⟩)
    · exact (hright hr).imp .inl id
    · exact .inl (.inr ⟨hstored hst,hevent hp⟩)
  · rintro (ho | ⟨hst,hw⟩)
    · exact (howes ho).imp .inl .inl
    · rcases hwakes hst hw with hp | ho | hw
      · exact .inl (.inr ⟨hst,hp⟩)
      · exact .inr (.inl ho)
      · exact .inr (.inr ⟨hst,hw⟩)

theorem FlowJoin.unique {ts ts' : List (RouteTargetInfo × UInt32)}
    (hd : ∀ c ∈ s.flows, ∀ x ∈ s.flows, c.flowId = x.flowId → c = x)
    (h : FlowJoin s f k ts) (h' : FlowJoin s f k ts') : ts = ts' := by
  rcases h with ⟨c,hc,rfl,he,rfl⟩ | ⟨hno,rfl⟩ <;> rcases h' with ⟨x,hx,hxk,he',rfl⟩ | ⟨hno',rfl⟩
  · rw [hd c hc x hx hxk.symm]
  · simp [hno' c hc rfl] at he
  · simp [hno x hx hxk] at he'
  · rfl

theorem onLookup_wakes {slot : Nat} (found : Bool) :
    (l.onLookup f flow slot found).wakes = l.wakes := by
  cases found <;> rfl

theorem FlowLog.Owes.onLookup {f' : IpFamily} {slot : Nat} (ho : l.Owes s f' k) :
    (l.onLookup f flow slot (s.slots f flow slot).isSome).Owes s f' k := by
  cases hs : s.slots f flow slot with
  | some v => exact ho
  | none =>
    refine ⟨ho.1,fun i hi => ?_⟩
    simp only [FlowLog.onLookup, Option.isSome_none, FlowLog.miss, update_update_apply] at hi
    split at hi
    · rename_i hsame
      obtain ⟨rfl,rfl⟩ := hsame
      rcases mem_cons.mp hi with rfl | hi
      · exact hs
      · exact ho.2 i hi
    · exact ho.2 i hi

section
variable (h : FlowInv s logs) (ht : logs t = some l)
include h ht

theorem flowInv_same (hflows : s'.flows = s.flows) (hwan : s'.wan = s.wan)
    (hslots : s'.slots = s.slots) (hevent : s.events.pending = true → s'.events.pending = true)
    (howes : ∀ f k, l.Owes s f k → l'.Owes s f k)
    (hwakes : ∀ f k, Stored s k → l.wakes = true →
      s'.events.pending = true ∨ l'.Owes s f k ∨ l'.wakes = true) :
    FlowInv s' (update logs t (some l')) := by
  have hst : ∀ k, Stored s' k ↔ Stored s k := fun k => by simp [Stored, hflows]
  have hsame : ∀ (l : FlowLog) f k, l.Owes s' f k ↔ l.Owes s f k := fun l f k => by
    simp [FlowLog.Owes, hslots]
  refine ⟨by rw [hflows]; exact h.keyed,by rw [hflows]; exact h.distinct,fun f k hk => ?_⟩
  refine flowOwed_act (h.owed f k hk) ht (hst k).mpr (by simp [hslots]) ?_ hevent ?_ ?_
  · intro hr
    exact .inl (hr.congr (by simp [hflows]) (by simp [hwan]) (by rw [hslots]))
  · intro ho
    exact .inr ((hsame l' f k).mpr (howes f k ((hsame l f k).mp ho)))
  · intro hs' hw
    rw [hsame]
    exact hwakes f k ((hst k).mp hs') hw

/- The routes of `f` become `m`, and the task has to wake the observer unless they are the same. -/
theorem flowInv_wan {changed : Bool} (hm : changed = false → ∀ o, m.lookup o = (s.wan f).lookup o) :
    FlowInv { s with wan := update s.wan f m } (update logs t (some (l.wake changed))) := by
  refine ⟨h.keyed,h.distinct,fun f' k hk => ?_⟩
  refine flowOwed_act (h.owed f' k hk) ht id (fun _ => id) ?_ id .inr ?_
  · intro hr
    by_cases hst : Stored s k ∧ changed = true
    · exact .inr (.inr ⟨hst.1,by simp [FlowLog.wake, hst.2]⟩)
    · refine .inl (hr.congr (by simp) ?_ rfl)
      intro hs o
      have hc : changed = false := by simpa using fun h => hst ⟨hs,h⟩
      by_cases hf : f' = f
      · subst hf
        simpa using hm hc o
      · simp [hf]
  · intro _ hw
    exact .inr (.inr (by simp [FlowLog.wake, hw]))

theorem flowInv_slots {m : SlotMap} (hm : ∀ f' k, f' ≠ f ∨ k ≠ flow → m f' k = s.slots f' k)
    (hr : flow ≠ defaultFlowId →
      FlowOwed { s with slots := m } (update logs t (some (l.wrote f flow))) f flow) :
    FlowInv { s with slots := m } (update logs t (some (l.wrote f flow))) := by
  refine ⟨h.keyed,h.distinct,fun f' k hk => ?_⟩
  by_cases hsame : f' = f ∧ k = flow
  · obtain ⟨rfl,rfl⟩ := hsame
    exact hr hk
  · have hother := hm f' k (not_and_or.mp hsame)
    refine flowOwed_act (h.owed f' k hk) ht id ?_ ?_ id ?_ fun _ hw => .inr (.inr hw)
    · intro slot hs
      exact (congrFun hother slot).trans hs
    · intro hr'
      exact .inl (hr'.congr (by simp) (by simp) hother)
    · intro ho
      exact .inr ⟨by rw [wrote_owes, if_neg hsame]; exact ho.1,ho.2⟩

/- A batch of a clear, at a moment at which the flow should have no slots. -/
theorem flowInv_clear {keys : List Nat} (targets : List (RouteTargetInfo × UInt32))
    (hjoin : flow ≠ defaultFlowId → FlowJoin s f flow targets ∧ usableTargets f targets = [])
    (hall : flow ≠ defaultFlowId → keys.Nodup ∧ (∀ key ∈ keys, (s.slots f flow key).isSome) ∧
      ∀ slot < flowTargetSlotCount, slot ∈ keys ∨ slot ∈ l.missing f flow) :
    FlowInv { s with slots := deleteSlots f flow keys s.slots }
      (update logs t (some (l.wrote f flow))) := by
  refine flowInv_slots h ht (fun f' k hne => deleteSlots_other _ hne) fun hflow => ?_
  obtain ⟨hj,hnil⟩ := hjoin hflow
  obtain ⟨hn,hall,hcover⟩ := hall hflow
  have hright : (∀ slot < flowTargetSlotCount, deleteSlots f flow keys s.slots f flow slot = none) →
      FlowRight { s with slots := deleteSlots f flow keys s.slots } f flow := fun hnone =>
    ⟨targets,hj,fun slot hs => (hnone slot hs).trans (targetSlots_eq_none hnil).symm⟩
  refine flowOwed_act (h.owed f flow hflow) ht id (fun slot => deleteSlots_missing keys) ?_ id ?_
    fun _ hw => .inr (.inr hw)
  · rintro ⟨ts,hts,hslots⟩
    refine .inl (hright fun slot hs => deleteSlots_missing keys ?_)
    rw [hslots slot hs, hts.unique h.distinct hj, targetSlots_eq_none hnil]
  · intro ho
    exact .inl (hright fun slot hs => (hcover slot hs).elim (deleteSlots_found hn hall) (ho.2 slot))

end

variable {rows : List FlowConfig}

/- The flows become `rows`; the task owes the slots of the ids whose flows change. -/
theorem flowInv_flows (h : FlowInv s logs) (ht : logs t = some l) (hkeyed : Keyed rows)
    (hdistinct : ∀ c ∈ rows, ∀ x ∈ rows, c.flowId = x.flowId → c = x)
    (howes : ∀ f k, l.Owes s f k → l'.Owes s f k) (hwakes : l.wakes = true → l'.wakes = true)
    (hsame : ∀ f k, ¬l'.Owes s f k → ∀ c : FlowConfig, c.flowId = k → (c ∈ rows ↔ c ∈ s.flows)) :
    FlowInv { s with flows := rows } (update logs t (some l')) := by
  refine ⟨hkeyed,hdistinct,fun f k hk => ?_⟩
  by_cases ho : l'.Owes s f k
  · exact .inr ⟨t,l',update_self _ _ _,.inl ho⟩
  · have hst : Stored s k → Stored { s with flows := rows } k := by
      rintro ⟨c,hc,hck⟩
      exact ⟨c,(hsame f k ho c hck).mpr hc,hck⟩
    refine flowOwed_act (h.owed f k hk) ht hst (fun _ => id) ?_ id (fun h' => .inr (howes f k h'))
      fun _ hw => .inr (.inr (hwakes hw))
    intro hr
    exact .inl (hr.congr (hsame f k ho) (fun _ _ => rfl) rfl)

theorem mem_of_keyed (h : Keyed rows) {x : FlowConfig} (hc : c ∈ rows) (hx : x ∈ rows)
    (hid : c.id = x.id) : c = x :=
  inj_on_of_nodup_map h hc hx hid

theorem flowInv_save {configs : List FlowConfig} {changes : List (Change FlowConfig)} {now : Nat}
    (h : FlowInv s logs) (ht : logs t = some l)
    (hsave : checkedUpsertMany now s.flows configs = some (changes, rows))
    (hids : ∀ c ∈ configs, ∀ x, x ∈ s.flows ∨ x ∈ configs → (x.id = c.id ↔ x.flowId = c.flowId)) :
    FlowInv { s with flows := rows } (update logs t (some (l.sync (changes.map (·.new))))) := by
  obtain ⟨hup,hkeyed⟩ := checkedUpsertMany_upserted hsave
  have hnew : ∀ ch ∈ changes, ∃ c ∈ configs, ch.new.id = c.id ∧ ch.new.flowId = c.flowId := by
    intro ch hch
    obtain ⟨c,hc,ts,hts⟩ := hup.source ch hch
    exact ⟨c,hc,by rw [hts]; rfl,by rw [hts]; rfl⟩
  -- a stored flow and a saved one have the same key exactly if they have the same flow id
  have hiff : ∀ ch ∈ changes, ∀ x ∈ s.flows, x.id = ch.new.id ↔ x.flowId = ch.new.flowId := by
    intro ch hch x hx
    obtain ⟨c,hc,hid,hflow⟩ := hnew ch hch
    rw [hid, hflow]
    exact hids c hc x (.inl hx)
  have hiff' : ∀ ch ∈ changes, ∀ ch' ∈ changes, ch'.new.flowId = ch.new.flowId →
      ch'.new.id = ch.new.id := by
    intro ch hch ch' hch' hf
    obtain ⟨c,hc,hid,hflow⟩ := hnew ch hch
    obtain ⟨c',hc',hid',hflow'⟩ := hnew ch' hch'
    rw [hid, hid']
    exact (hids c hc c' (.inr hc')).mpr (by rw [← hflow, ← hflow', hf])
  refine flowInv_flows h ht (hkeyed h.keyed) ?_ ?_ id ?_
  · intro c hc x hx hf
    rcases hup.back c hc with hc' | ⟨ch,hch,rfl⟩ <;> rcases hup.back x hx with hx' | ⟨ch',hch',rfl⟩
    · exact h.distinct c hc' x hx' hf
    · exact mem_of_keyed (hkeyed h.keyed) hc hx ((hiff ch' hch' c hc').mpr hf)
    · exact mem_of_keyed (hkeyed h.keyed) hc hx ((hiff ch hch x hx').mpr hf.symm).symm
    · exact mem_of_keyed (hkeyed h.keyed) hc hx (hiff' ch' hch' ch hch hf)
  · intro f k ho
    simp [FlowLog.Owes, FlowLog.sync, ho.1]
  · intro f k ho c hck
    have hno : ∀ ch ∈ changes, ch.new.flowId ≠ k := by
      intro ch hch hk
      refine ho ⟨?_,by simp [FlowLog.sync]⟩
      exact or_eq_true _ _ ▸ .inr (any_eq_true.mpr ⟨_,mem_map_of_mem hch,decide_eq_true hk⟩)
    constructor
    · intro hc
      rcases hup.back c hc with hc | ⟨ch,hch,rfl⟩
      · exact hc
      · exact absurd hck (hno ch hch)
    · intro hc
      rcases hup.kept c hc with hc' | ⟨ch,hch,hid⟩
      · exact hc'
      · have := (hiff ch hch c hc).mp (Eq.symm hid)
        exact absurd (this.symm.trans hck) (hno ch hch)

theorem flowInv_delete {id : Uuid} (h : FlowInv s logs) (ht : logs t = some l) :
    FlowInv { s with flows := (deleteAndGet s.flows id).2 }
      (update logs t (some (l.onDelete (deleteAndGet s.flows id).1))) := by
  have hmem : ∀ c, c ∈ (deleteAndGet s.flows id).2 ↔ c ∈ s.flows ∧ c.id ≠ id := by
    intro c
    simp [deleteAndGet, Row.id]
  refine flowInv_flows h ht (keyed_delete h.keyed) ?_ ?_ ?_ ?_
  · intro c hc x hx
    exact h.distinct c ((hmem c).mp hc).1 x ((hmem x).mp hx).1
  · intro f k ho
    cases hf : (deleteAndGet s.flows id).1 with
    | none => exact ho
    | some c => simp [FlowLog.Owes, FlowLog.onDelete, FlowLog.clear, ho.1]
  · intro hw
    cases hf : (deleteAndGet s.flows id).1 <;> simp [FlowLog.onDelete, FlowLog.clear, hw]
  · intro f k ho c hck
    rw [hmem, and_iff_left_iff_imp]
    rintro hc rfl
    -- the deleted flow is found, so its id is owed
    have hfind : (deleteAndGet s.flows c.id).1 = some c := find_of_mem h.keyed hc
    simp [hfind, FlowLog.Owes, FlowLog.onDelete, FlowLog.clear, hck] at ho

theorem flowJoin_of_fresh (h : FlowInv s logs) {c : FlowConfig} (hc : c ∈ l.source)
    (hfresh : Fresh s l f c.flowId) : FlowJoin s f c.flowId (flowConfigTargets (l.snap f) c) := by
  have hmem : c ∈ s.flows := hfresh.2 c hc rfl
  cases he : c.enable with
  | true => exact .inl ⟨c,hmem,rfl,he,flowConfigTargets_congr (fun o => (hfresh.1 o).symm)⟩
  | false =>
    refine .inr ⟨fun x hx hxk => ?_,by simp [flowConfigTargets, he]⟩
    rw [h.distinct x hx c hmem hxk]
    exact he

end Step

theorem reconcile_noop {owner : RouteOwner} {info : RouteTargetInfo}
    (h : (reconcileWanRoute m owner info).1 = .noop) : (reconcileWanRoute m owner info).2 = m := by
  unfold reconcileWanRoute at h ⊢
  cases hl : m.lookup owner with
  | none => simp [hl] at h
  | some old =>
    simp only [hl] at h ⊢
    split
    · rfl
    · rename_i hne
      simp [hne] at h

theorem retainNonDocker_nil (h : (retainNonDocker m).1 = []) : (retainNonDocker m).2 = m := by
  unfold retainNonDocker at h ⊢
  dsimp only at h ⊢
  rw [h]
  rfl

theorem flow_outline :
    Outline (flowMachine H) flowContract freshSchedule (FlowLog.Paid false) FlowInv where
  start s logs t e s' th h ht _ hl := by
    by_cases he : e = .observe
    · subst he
      simp only [flowMachine, flowLaunch] at hl
      split at hl
      · cases hl
        refine ⟨⟨h.keyed,h.distinct,fun f k hk => ?_⟩,observe_paid⟩
        refine (h.owed f k hk).start ht _ ?_
        rintro (hr | ⟨hst,-⟩)
        · exact .inl (.inl hr)
        · exact .inr (.inr ⟨hst,rfl⟩)
      · cases hl
    · have hstart : flowLaunch H e s = some (s, ⟨e.run H,.start⟩) := by
        cases e <;> first | rfl | exact absurd rfl he
      cases hstart.symm.trans hl
      exact ⟨⟨h.keyed,h.distinct,fun f k hk => (h.owed f k hk).start ht _ .inl⟩,flowCall_paid e he⟩
  act s logs t l o h ht ha hc := by
    refine ⟨trivial,?_⟩
    cases o with
    | upsertWan f owner info =>
      refine flowInv_wan h ht fun hno o => ?_
      rw [reconcile_noop (Decidable.of_not_not (of_decide_eq_false hno))]
    | removeWan f owner =>
      refine flowInv_wan h ht fun hno o => ?_
      have hnone : (s.wan f).lookup owner = none :=
        Option.isNone_iff_eq_none.mp (Option.isSome_eq_false_iff.mp hno)
      by_cases ho : o = owner
      · rw [ho, AList.lookup_erase, hnone]
      · rw [AList.lookup_erase_ne ho]
    | retainWan f =>
      refine flowInv_wan h ht fun hno o => ?_
      rw [retainNonDocker_nil (Decidable.of_not_not (of_decide_eq_false hno))]
    | findDefault f | cloneWan f =>
      exact flowInv_same h ht rfl rfl rfl id (fun _ _ => id) fun _ _ _ hw => .inr (.inr hw)
    | updateBatch f flow filtered =>
      refine flowInv_slots h ht (fun f' k hne => updateSlots_other _ hne) ?_
      intro hflow
      obtain ⟨-,c,hcs,rfl,rfl⟩ := hc.resolve_left hflow
      obtain ⟨hw,hfresh⟩ := ha.resolve_left hflow
      exact .inl (.inl ⟨_,flowJoin_of_fresh h hcs (hfresh l ht),
        fun slot hslot => updateSlots_weighted _ hw hslot⟩)
    | lookupSlot f flow slot =>
      refine flowInv_same h ht rfl rfl rfl id (fun _ _ => .onLookup) fun _ _ _ hw => .inr (.inr ?_)
      exact (onLookup_wakes _).trans hw
    | deleteBatch f flow keys =>
      by_cases hflow : flow = defaultFlowId
      · exact flowInv_clear h ht [] (fun hno => absurd hflow hno) fun hno => absurd hflow hno
      · obtain ⟨hj,hn,hcover⟩ := hc.resolve_left hflow
        obtain ⟨hall,hfresh⟩ := ha.resolve_left hflow
        have hfresh := hfresh l ht
        rcases hj with hd | ⟨hd,c,hcs,rfl,hnil⟩
        · rw [if_pos hd] at hfresh
          have hjoin : FlowJoin s f flow [] :=
            .inr ⟨fun c hc hck => absurd ⟨c,hc,hck⟩ hfresh,rfl⟩
          exact flowInv_clear h ht [] (fun _ => ⟨hjoin,rfl⟩) fun _ => ⟨hn,hall,hcover⟩
        · rw [if_neg (by simp [hd])] at hfresh
          exact flowInv_clear h ht _ (fun _ => ⟨flowJoin_of_fresh h hcs hfresh,hnil.symm⟩)
            fun _ => ⟨hn,hall,hcover⟩
    | notify =>
      refine flowInv_same h ht rfl rfl rfl ?_ (fun _ _ => id) fun _ _ _ _ => .inl ?_
      · exact fun _ => send_pending _
      · exact send_pending _
    | listFlows =>
      refine flowInv_same h ht rfl rfl rfl id ?_ ?_
      · intro f k ho
        simp [FlowLog.Owes, flowMachine, recordFlow, FlowLog.sync, ho.1]
      · rintro f k ⟨c,hcs,rfl⟩ _
        have hany : s.flows.any (fun x => x.flowId = c.flowId) = true :=
          any_eq_true.mpr ⟨c,hcs,by simp⟩
        refine .inr (.inl ?_)
        simp [FlowLog.Owes, flowMachine, recordFlow, FlowLog.sync, exec, hany]
    | saveFlows now configs =>
      simp only [flowMachine, recordFlow, exec]
      cases hsave : checkedUpsertMany now s.flows configs with
      | none =>
        exact flowInv_same h ht rfl rfl rfl id (fun _ _ => id) fun _ _ _ hw => .inr (.inr hw)
      | some r => exact flowInv_save h ht hsave ha
    | deleteFlow id => exact flowInv_delete h ht
  finish s logs t l h ht hfin := by
    refine ⟨h.keyed,h.distinct,fun f k hk => (h.owed f k hk).finish ht ?_⟩
    simp [FlowLog.Owes, hfin.1, hfin.2 f k]

def freshRead (s : State) (l : FlowLog) (f : IpFamily) (k : FlowId) : Bool :=
  (s.wan f).entries = (l.snap f).entries && l.source.all fun c => c.flowId ≠ k || s.flows.contains c

theorem fresh_of_read (h : freshRead s l f k = true) : Fresh s l f k := by
  simp only [freshRead, and_eq_true, decide_eq_true_eq, all_eq_true] at h
  refine ⟨fun o => by rw [AList.ext h.1],fun c hc hck => ?_⟩
  simpa [hck] using h.2 c hc

def freshCheck (s : State) (logs : Nat → Option FlowLog) (t : Nat) : Op → Bool
  | .saveFlows _ configs => configs.all fun c => (s.flows ++ configs).all fun x =>
      decide (x.id = c.id) = decide (x.flowId = c.flowId)
  | .updateBatch f flow filtered => flow = defaultFlowId ||
      (filtered.map (·.2)).sum ≠ 0 && (logs t).all fun l => freshRead s l f flow
  | .deleteBatch f flow keys => flow = defaultFlowId ||
      (keys.all fun key => (s.slots f flow key).isSome) &&
        (logs t).all fun l => l.deleted ≠ some flow && freshRead s l f flow
  | _ => true

theorem fresh_of_check {logs : Nat → Option FlowLog} {t : Nat} {o : Op}
    (h : freshCheck s logs t o = true) : freshSchedule.acts s logs t o := by
  cases o with
  | saveFlows now configs =>
    intro c hc x hx
    simp only [freshCheck, all_eq_true, decide_eq_true_eq] at h
    exact decide_eq_decide.mp (h c hc x (mem_append.mpr hx))
  | updateBatch f flow filtered =>
    simp only [freshCheck, or_eq_true, and_eq_true, decide_eq_true_eq] at h
    refine h.imp_right fun ⟨hw,hf⟩ => ⟨hw,fun l hl => ?_⟩
    exact fresh_of_read (by simpa [hl] using hf)
  | deleteBatch f flow keys =>
    simp only [freshCheck, or_eq_true, and_eq_true, decide_eq_true_eq, all_eq_true] at h
    refine h.imp_right fun ⟨hall,hf⟩ => ⟨hall,fun l hl => ?_⟩
    simp only [hl, Option.all_some, and_eq_true, decide_eq_true_eq] at hf
    rw [if_neg hf.1]
    exact fresh_of_read hf.2
  | _ => trivial

def sampleTarget : RouteTargetInfo := { sampleRoute with defaultRoute := false }

def sampleFlow (flowId : FlowId) (updateAt : Nat) : FlowConfig :=
  ⟨7,true,flowId,[],[⟨.interface 1 "ppp0",1⟩],"","",updateAt⟩

def flowRun (call : FlowCall) (n : Nat) : List (Label FlowCall) :=
  .start 0 call :: (replicate n (.act 0) ++ [.finish 0])

def flowComes : List (Label FlowCall) :=
  flowRun (.wan (.insert .ipv4 sampleOwner sampleTarget)) 2 ++ flowRun .observe 3 ++
    flowRun (.save 10 [sampleFlow 1 0]) 21

end Landscape.Route
