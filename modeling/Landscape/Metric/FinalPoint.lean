import Landscape.Metric.ConnectHistory
import Mathlib.Data.List.Find
import Mathlib.Data.List.Induction

/-! The final point of a connection: which row of the last report time is kept, and when it is the
one that the end of the connection writes. -/
namespace Landscape.Metric
open Ledger List Option
variable {kind : BucketKind} {p m z : ConnectMetric} {key : ConnectKey} {t t' : Nat} {e : Ending}
  {prev : Option ConnectMetric} {r : BucketWrite} {ms : List ConnectMetric}

inductive Ending where
  | disabled
  | stale (nowMs secondWindowMs : Nat)
  | shutdown

def Ending.Ends (z : ConnectMetric) : Ending → Prop
  | .disabled => z.status = .disabled
  | .stale nowMs _ => z.reportTime < nowMs - staleTimeoutMs
  | .shutdown => True

def Ending.batch (cache : FlowCache) : Ending → Batch
  | .disabled => []
  | .stale nowMs secondWindowMs => (cleanupFlowCache cache nowMs secondWindowMs).2
  | .shutdown => (finalizeAllFlows cache).2

def processAll (ms : List ConnectMetric) : FlowCache × ConnectTables :=
  ms.foldl (fun s m =>
    let out := processConnectMetric s.1 m
    (out.1, applyConnectBatch s.2 out.2)) ([], fun _ => [])

def connectTables (ms : List ConnectMetric) (e : Ending) : ConnectTables :=
  applyConnectBatch (processAll ms).2 (e.batch (processAll ms).1)

def finalRow (kind : BucketKind) (m : ConnectMetric) : BucketWrite :=
  ⟨kind,{ m with status := .disabled },kind.bucket m.reportTime⟩

def Moves (kind : BucketKind) (p m : ConnectMetric) : Prop :=
  kind.refreshSlot p.reportTime < kind.refreshSlot m.reportTime

instance : Decidable (Moves kind p m) := inferInstanceAs (Decidable (_ < _))

def emitted (kind : BucketKind) (prev : Option ConnectMetric) (m : ConnectMetric) : Batch :=
  (prev.toList.filter (Moves kind · m)).map (fun p => ⟨kind,m,kind.bucket p.reportTime⟩) ++
    if m.status = .disabled then [finalRow kind m] else []

def history (kind : BucketKind) : Option ConnectMetric → List ConnectMetric → Batch
  | _, [] => []
  | prev, m :: ms => emitted kind prev m ++ history kind (some m) ms

def stateOf (m : ConnectMetric) : FlowState :=
  ⟨m,fun kind => kind.refreshSlot m.reportTime,m.status = .disabled⟩

theorem disabled_eq (h : m.status = .disabled) : { m with status := .disabled } = m := by
  rw [← h]

theorem filter_kinds (kind : BucketKind) (f : BucketKind → BucketWrite) (hf : ∀ k, (f k).kind = k)
    (q : BucketKind → Bool) :
    (((BucketKind.kinds.filter q).map f).filter fun row => row.kind = kind) =
      if q kind then [f kind] else [] := by
  cases hm : q .minute <;> cases hh : q .hour <;> cases hd : q .day <;>
    cases kind <;> simp [BucketKind.kinds, hf, hm, hh, hd]

theorem refreshSlot_mono (kind : BucketKind) (h : t ≤ t') :
    kind.refreshSlot t ≤ kind.refreshSlot t' := by
  cases kind <;> exact Nat.mul_le_mul_right _ (Nat.div_le_div_right h)

theorem bucket_mono (h : t ≤ t') : kind.bucket t ≤ kind.bucket t' := by
  cases kind <;> exact Nat.mul_le_mul_right _ (Nat.div_le_div_right h)

theorem bucket_le (kind : BucketKind) (t : Nat) : kind.bucket t ≤ t := by
  cases kind <;> exact Nat.div_mul_le_self _ _

theorem finalize_rows (kind : BucketKind) (m : ConnectMetric) (slots : BucketKind → Nat) :
    ((finalizeStateBatch ⟨m,slots,false⟩ true).2.filter fun row => row.kind = kind) =
      [finalRow kind m] := by
  have h := filter_kinds kind (finalRow · m) (fun _ => rfl) fun _ => true
  simpa [finalizeStateBatch, finalRow] using h

theorem processEntry_none (kind : BucketKind) (m : ConnectMetric) :
    (processEntry none m).1 = stateOf m ∧
      ((processEntry none m).2.filter fun row => row.kind = kind) = emitted kind none m := by
  by_cases hd : m.status = .disabled
  · have hrows := finalize_rows kind m fun k => k.refreshSlot m.reportTime
    constructor
    · simp [processEntry, FlowState.new, finalizeStateBatch, stateOf, hd, disabled_eq hd]
    · simpa [processEntry, FlowState.new, emitted, hd] using hrows
  · constructor
    · simp [processEntry, FlowState.new, stateOf, hd]
    · simp [processEntry, emitted, hd]

theorem processEntry_some (kind : BucketKind) (h : p.reportTime ≤ m.reportTime) :
    (processEntry (some (stateOf p)) m).1 = stateOf m ∧
      ((processEntry (some (stateOf p)) m).2.filter fun row => row.kind = kind) =
        emitted kind (some p) m := by
  -- no slot is ahead of the new one
  have hslots : (fun k : BucketKind =>
      if (stateOf p).lastSlot k < k.refreshSlot m.reportTime then k.refreshSlot m.reportTime
      else (stateOf p).lastSlot k) = fun k => k.refreshSlot m.reportTime := by
    funext k
    have hle := refreshSlot_mono k h
    rcases lt_or_ge (k.refreshSlot p.reportTime) (k.refreshSlot m.reportTime) with hlt | hge
    · exact if_pos hlt
    · exact (if_neg (not_lt.mpr hge)).trans (le_antisymm hle hge)
  have hmoves := filter_kinds kind (fun k => ⟨k,m,k.bucket p.reportTime⟩) (fun _ => rfl)
    fun k => (stateOf p).lastSlot k < k.refreshSlot m.reportTime
  have hle : ¬m.reportTime < (stateOf p).lastMetric.reportTime := not_lt.mpr h
  have hcross : (((stateOf p).advance m).2.filter fun row => row.kind = kind) =
      ([p].filter (Moves kind · m)).map fun p => ⟨kind,m,kind.bucket p.reportTime⟩ := by
    refine hmoves.trans ?_
    by_cases hmv : Moves kind p m
    · simp [hmv, show (stateOf p).lastSlot kind < kind.refreshSlot m.reportTime from hmv]
    · simp [hmv, show ¬(stateOf p).lastSlot kind < kind.refreshSlot m.reportTime from hmv]
  simp only [processEntry, if_neg hle]
  by_cases hd : m.status = .disabled
  · simp only [hd, if_true, filter_append, hcross]
    constructor
    · simp only [FlowState.advance, hslots]
      simp [finalizeStateBatch, stateOf, hd, disabled_eq hd]
    · simp only [FlowState.advance, hslots, finalize_rows, emitted, hd, if_true, toList_some]
  · simp only [hd, if_false, hcross]
    constructor
    · simp only [FlowState.advance, hslots]
      simp [stateOf, hd]
    · simp [emitted, hd]

structure Sequence (key : ConnectKey) (ms : List ConnectMetric) : Prop where
  key : ∀ m ∈ ms, m.key = key
  sorted : ms.Pairwise fun a b => a.reportTime ≤ b.reportTime

theorem Sequence.init (h : Sequence key (ms ++ [m])) : Sequence key ms :=
  ⟨fun x hx => h.key x (mem_append_left _ hx),(pairwise_append.mp h.sorted).1⟩

theorem history_append :
    history kind prev (ms ++ [m]) = history kind prev ms ++
    emitted kind (ms.getLast?.or prev) m := by
  induction ms generalizing prev with
  | nil => simp [history]
  | cons a ms ih =>
    rw [cons_append, history, ih, history, append_assoc]
    cases ms with
    | nil => rfl
    | cons b ms => simp [getLast?_cons]

theorem processAll_eq (h : Sequence key ms) :
    (processAll ms).1 = ms.getLast?.toList.map (fun m => (key, stateOf m)) ∧
      (processAll ms).2 kind = insertAll BucketWrite.primaryKey [] (history kind none ms) := by
  induction ms using reverseRecOn with
  | nil => exact ⟨rfl,rfl⟩
  | append_singleton ms m ih =>
    obtain ⟨hcache,htable⟩ := ih h.init
    have hkey : m.key = key := h.key m (by simp)
    have hfold : processAll (ms ++ [m]) =
        ((processConnectMetric (processAll ms).1 m).1,
          applyConnectBatch (processAll ms).2 (processConnectMetric (processAll ms).1 m).2) := by
      simp [processAll]
    rw [hfold, history_append, insertAll_append, ← htable, or_none]
    cases hlast : ms.getLast? with
    | none =>
      obtain ⟨hst,hrows⟩ := processEntry_none kind m
      simp only [hcache, hlast, processConnectMetric, applyConnectBatch, toList_none,
        map_nil, lookup_nil, hrows]
      simp [entry, hkey, hst]
    | some p =>
      have hp : p ∈ ms := mem_of_getLast? hlast
      have hle : p.reportTime ≤ m.reportTime :=
        (pairwise_append.mp h.sorted).2.2 p hp m mem_cons_self
      obtain ⟨hst,hrows⟩ := processEntry_some kind hle
      simp only [hcache, hlast, processConnectMetric, applyConnectBatch, toList_some,
        map_cons, map_nil, hkey, lookup_cons_self, hrows]
      simp [entry, hst]

def closing (kind : BucketKind) (z : ConnectMetric) : Batch :=
  if z.status = .disabled then [] else [finalRow kind z]

theorem ending_rows (he : e.Ends z) :
    ((e.batch [(key, stateOf z)]).filter fun row => row.kind = kind) = closing kind z := by
  have hrows := finalize_rows kind z (stateOf z).lastSlot
  by_cases hd : z.status = .disabled
  · cases e <;> simp [Ending.batch, cleanupFlowCache, finalizeAllFlows, finalizeStateBatch, stateOf,
      closing, hd]
  · have hst : stateOf z = ⟨z,(stateOf z).lastSlot,false⟩ := by simp [stateOf, hd]
    cases e with
    | disabled => exact absurd he hd
    | stale nowMs secondWindowMs =>
      have ht : (stateOf z).lastMetric.reportTime < nowMs - staleTimeoutMs := he
      rw [hst] at ht ⊢
      simpa [Ending.batch, cleanupFlowCache, closing, hd, ht] using hrows
    | shutdown =>
      rw [hst]
      simpa [Ending.batch, finalizeAllFlows, closing, hd] using hrows

def allRows (kind : BucketKind) (ms : List ConnectMetric) (z : ConnectMetric) : Batch :=
  history kind none ms ++ closing kind z

def table (kind : BucketKind) (ms : List ConnectMetric) (z : ConnectMetric) : Batch :=
  insertAll BucketWrite.primaryKey [] (allRows kind ms z)

theorem connectTables_eq (h : Sequence key ms) (hz : ms.getLast? = some z) (he : e.Ends z) :
    connectTables ms e kind = table kind ms z := by
  obtain ⟨hcache,htable⟩ := processAll_eq h
  rw [hz] at hcache
  unfold connectTables applyConnectBatch
  rw [htable, hcache, table, allRows, insertAll_append, ← ending_rows he]
  rfl

def before (z : ConnectMetric) (ms : List ConnectMetric) : List ConnectMetric :=
  ms.filter fun m => m.reportTime < z.reportTime

def atLast (z : ConnectMetric) (ms : List ConnectMetric) : List ConnectMetric :=
  ms.filter fun m => m.reportTime = z.reportTime

/-- Of the metrics with the last report time, the one that ends the connection first. -/
def closer (z : ConnectMetric) (ms : List ConnectMetric) : ConnectMetric :=
  ((atLast z ms).find? fun m => m.status = .disabled).getD z

def keptRow (kind : BucketKind) (prev : Option ConnectMetric) (ms : List ConnectMetric)
    (z : ConnectMetric) : BucketWrite :=
  match prev.filter (Moves kind · z) with
  | some p => ⟨kind,(atLast z ms).headD z,kind.bucket p.reportTime⟩
  | none => finalRow kind (closer z ms)

theorem moves_congr (h : m.reportTime = z.reportTime) : Moves kind p m ↔ Moves kind p z := by
  unfold Moves
  rw [h]

theorem find_atLast (hall : ∀ m ∈ ms, m.reportTime = z.reportTime)
    (hz : z.status = .disabled → z ∈ ms) (hprev : prev.filter (Moves kind · z) = none) :
    ((history kind prev ms ++ closing kind z).find? fun r => r.metric.reportTime = z.reportTime) =
      some (finalRow kind ((ms.find? fun m => m.status = .disabled).getD z)) := by
  induction ms generalizing prev with
  | nil =>
    have hd : z.status ≠ .disabled := fun h => by simpa using hz h
    simp [history, closing, hd, finalRow]
  | cons m ms ih =>
    have hm := hall m mem_cons_self
    have hcross : (prev.toList.filter fun p => decide (Moves kind p m)) = [] := by
      cases prev with
      | none => rfl
      | some p =>
        have hp : ¬Moves kind p z := by simpa using hprev
        simp [moves_congr hm, hp]
    by_cases hd : m.status = .disabled
    · simp [history, emitted, hcross, hd, finalRow, hm]
    · have hself : (some m).filter (Moves kind · z) = none := by simp [Moves, hm]
      have hrest := ih (fun x hx => hall x (mem_cons_of_mem _ hx))
        (fun h => (mem_cons.mp (hz h)).resolve_left fun heq => hd (heq ▸ h)) hself
      simpa [history, emitted, hcross, hd] using hrest

theorem find_history (hsorted : ms.Pairwise fun a b => a.reportTime ≤ b.reportTime)
    (hle : ∀ m ∈ ms, m.reportTime ≤ z.reportTime) (hz : z ∈ ms) :
    ((history kind prev ms ++ closing kind z).find? fun r => r.metric.reportTime = z.reportTime) =
      some (keptRow kind ((before z ms).getLast?.or prev) ms z) := by
  induction ms generalizing prev with
  | nil => simp at hz
  | cons m ms ih =>
    obtain ⟨hfirst,hsorted'⟩ := List.pairwise_cons.mp hsorted
    rcases lt_or_ge m.reportTime z.reportTime with hlt | hge
    · -- rows of an earlier time are passed over
      have hz' : z ∈ ms := (List.mem_cons.mp hz).resolve_left fun h => by
        rw [h] at hlt
        omega
      have hskip : ((emitted kind prev m).find? fun r => r.metric.reportTime = z.reportTime) =
          none := by
        rw [List.find?_eq_none]
        intro r hr
        have ht : r.metric.reportTime = m.reportTime := by
          simp only [emitted, List.mem_append, List.mem_map] at hr
          rcases hr with ⟨p,-,rfl⟩ | hr
          · rfl
          · split at hr
            · rw [List.mem_singleton.mp hr]
              rfl
            · simp at hr
        simp only [ht, decide_eq_true_eq]
        omega
      have hne : m.reportTime ≠ z.reportTime := by omega
      rw [history, List.append_assoc, List.find?_append, hskip, Option.none_or,
        @ih (some m) hsorted' (fun x hx => hle x (List.mem_cons_of_mem _ hx)) hz']
      simp [before, atLast, closer, keptRow, hlt, hne, List.getLast?_cons]
    · have hm : m.reportTime = z.reportTime := le_antisymm (hle m List.mem_cons_self) hge
      have hall : ∀ x ∈ m :: ms, x.reportTime = z.reportTime := by
        intro x hx
        rcases List.mem_cons.mp hx with rfl | hx'
        · exact hm
        · exact le_antisymm (hle x hx) (hm ▸ hfirst x hx')
      have hbefore : before z (m :: ms) = [] :=
        List.filter_eq_nil_iff.mpr fun x hx => by simp [hall x hx]
      have hat : atLast z (m :: ms) = m :: ms :=
        List.filter_eq_self.mpr fun x hx => by simp [hall x hx]
      rw [hbefore, List.getLast?_nil, Option.none_or, keptRow, closer, hat]
      cases hprev : prev.filter (Moves kind · z) with
      | none => exact find_atLast hall (fun _ => hz) hprev
      | some p =>
        obtain ⟨rfl,hp⟩ : prev = some p ∧ Moves kind p z :=
          by simpa [Option.filter_eq_some_iff] using hprev
        simp [history, emitted, (moves_congr hm).mpr hp, hm]

/-- A row of the metrics: one of them but for the status, in a bucket that is not ahead of it. -/
def RowOf (kind : BucketKind) (ms : List ConnectMetric) (r : BucketWrite) : Prop :=
  ∃ m ∈ ms, (∃ s, r.metric = { m with status := s }) ∧ r.bucketReportTime ≤ kind.bucket m.reportTime

theorem rowOf_of_mem_history
    (hsorted : (prev.toList ++ ms).Pairwise fun a b => a.reportTime ≤ b.reportTime)
    (hr : r ∈ history kind prev ms) : RowOf kind ms r := by
  induction ms generalizing prev with
  | nil => simp [history] at hr
  | cons m ms ih =>
    rw [history, mem_append] at hr
    rcases hr with hr | hr
    · refine ⟨m,mem_cons_self,?_⟩
      rw [emitted, List.mem_append, List.mem_map] at hr
      rcases hr with ⟨p,hp,rfl⟩ | hr
      · have hpm := (pairwise_append.mp hsorted).2.2 p (mem_of_mem_filter hp) m mem_cons_self
        exact ⟨⟨m.status,rfl⟩,bucket_mono hpm⟩
      · split at hr
        · rw [mem_singleton.mp hr]
          exact ⟨⟨.disabled,rfl⟩,le_refl _⟩
        · simp at hr
    · obtain ⟨x,hx,hrest⟩ := @ih (some m) (pairwise_append.mp hsorted).2.1 hr
      exact ⟨x,mem_cons_of_mem _ hx,hrest⟩

def ConnectMetric.counters (m : ConnectMetric) : List Nat :=
  [m.ingressBytes, m.ingressPackets, m.egressBytes, m.egressPackets]

def ConnectMetric.Fits (m : ConnectMetric) : Prop := ∀ n ∈ m.reportTime :: m.counters, n < 2 ^ 63

def finalPoint (kind : BucketKind) (z : ConnectMetric) : ConnectMetricPoint :=
  ⟨kind.bucket z.reportTime,z.ingressBytes,z.ingressPackets,z.egressBytes,z.egressPackets,.disabled⟩

/-- Where the step to the last report time moves the slot of a resolution on, the first metric of
that time ends the connection, in the bucket of the metric before, with the counters of the last;
else the metric that ends it first has them. -/
def KeepsFinal (kind : BucketKind) (ms : List ConnectMetric) (z : ConnectMetric) : Prop :=
  match (before z ms).getLast?.filter (Moves kind · z) with
  | some p => kind.bucket p.reportTime = kind.bucket z.reportTime ∧
      ((atLast z ms).headD z).status = .disabled ∧ ((atLast z ms).headD z).counters = z.counters
  | none => (closer z ms).counters = z.counters

def kept (kind : BucketKind) (ms : List ConnectMetric) (z : ConnectMetric) : BucketWrite :=
  keptRow kind (before z ms).getLast? ms z

section
variable (hz : ms.getLast? = some z)
include hz

theorem closer_reportTime : (closer z ms).reportTime = z.reportTime := by
  have hmem : closer z ms ∈ atLast z ms := by
    unfold closer
    cases hf : (atLast z ms).find? fun m => m.status = .disabled with
    | none => exact mem_filter.mpr ⟨mem_of_getLast? hz,by simp⟩
    | some m => exact mem_of_find?_eq_some hf
  simpa using of_mem_filter hmem

theorem kept_iff : (kept kind ms z).bucketReportTime = kind.bucket z.reportTime ∧
      (kept kind ms z).metric.status = .disabled ∧
      (kept kind ms z).metric.counters = z.counters ↔ KeepsFinal kind ms z := by
  unfold kept keptRow KeepsFinal
  cases (before z ms).getLast?.filter (Moves kind · z) with
  | some p => rfl
  | none =>
    have hbucket : kind.bucket (closer z ms).reportTime = kind.bucket z.reportTime := by
      rw [closer_reportTime hz]
    exact ⟨fun hk => hk.2.2,fun hk => ⟨hbucket,rfl,hk⟩⟩

variable (h : Sequence key ms)
include h

theorem Sequence.le_last {m : ConnectMetric} (hm : m ∈ ms) : m.reportTime ≤ z.reportTime := by
  obtain ⟨ys,rfl⟩ := getLast?_eq_some_iff.mp hz
  rcases mem_append.mp hm with hm | hm
  · exact (pairwise_append.mp h.sorted).2.2 m hm z mem_cons_self
  · rw [mem_singleton.mp hm]

theorem rowOf_of_mem (hr : r ∈ allRows kind ms z) : RowOf kind ms r := by
  rcases mem_append.mp hr with hr | hr
  · exact @rowOf_of_mem_history kind none r ms h.sorted hr
  · refine ⟨z,mem_of_getLast? hz,?_⟩
    unfold closing at hr
    split at hr
    · simp at hr
    · rw [mem_singleton.mp hr]
      exact ⟨⟨.disabled,rfl⟩,le_refl _⟩

theorem bucket_le_kept (hr : r ∈ allRows kind ms z)
    (ht : r.metric.reportTime < z.reportTime) :
    r.bucketReportTime ≤ (kept kind ms z).bucketReportTime := by
  obtain ⟨m,hm,⟨s,hs⟩,hb⟩ := rowOf_of_mem hz h hr
  have hmt : m.reportTime < z.reportTime := by simpa [hs] using ht
  refine hb.trans ?_
  unfold kept keptRow
  cases hprev : (before z ms).getLast?.filter (Moves kind · z) with
  | none => exact bucket_mono (closer_reportTime hz ▸ h.le_last hz hm)
  | some p =>
    obtain ⟨hp,-⟩ := filter_eq_some_iff.mp hprev
    have hseq : Sequence key (before z ms) :=
      ⟨fun x hx => h.key x (mem_of_mem_filter hx),h.sorted.sublist filter_sublist⟩
    exact bucket_mono (hseq.le_last hp (mem_filter.mpr ⟨hm,by simpa using hmt⟩))

variable (hfits : ∀ m ∈ ms, m.Fits)
include hfits

theorem fits_of_mem (hr : r ∈ table kind ms z) : r.metric.Fits ∧ r.bucketReportTime < 2 ^ 63 := by
  obtain ⟨m,hm,⟨s,hs⟩,hb⟩ := rowOf_of_mem hz h (mem_of_mem_insertAll hr)
  have hle := bucket_le kind m.reportTime
  refine ⟨hs ▸ hfits m hm,?_⟩
  exact (hb.trans hle).trans_lt (hfits m hm m.reportTime mem_cons_self)

theorem kept_spec :
    kept kind ms z ∈ table kind ms z ∧ (kept kind ms z).metric.reportTime = z.reportTime ∧
      ∀ r ∈ table kind ms z, r.metric.reportTime = z.reportTime → r = kept kind ms z := by
  let last : Int × UInt32 × Int := (asI64 key.createTime, key.cpuId, asI64 z.reportTime)
  -- the primary keys of the rows of one connection differ in the report time only
  have hpk : ∀ r ∈ allRows kind ms z, r.primaryKey = last ↔ r.metric.reportTime = z.reportTime := by
    intro r hr
    obtain ⟨m,hm,⟨s,hs⟩,-⟩ := rowOf_of_mem hz h hr
    have hm63 := asI64_of_lt (hfits m hm _ mem_cons_self)
    have hz63 := asI64_of_lt (hfits z (mem_of_getLast? hz) _ mem_cons_self)
    simp only [BucketWrite.primaryKey, last, hs, h.key m hm, hm63, hz63, Prod.mk.injEq, true_and]
    omega
  have hfind : ((allRows kind ms z).find? fun r => r.metric.reportTime = z.reportTime) =
      some (kept kind ms z) := by
    have hfirst := @find_history kind z none ms h.sorted (fun m hm => h.le_last hz hm)
      (mem_of_getLast? hz)
    rwa [or_none] at hfirst
  have hkeys : ((table kind ms z).find? fun r => r.primaryKey = last) = some (kept kind ms z) := by
    rw [table, find_insertAll, ← hfind]
    exact find?_congr fun r hr => by simp [hpk r hr]
  have hmem := mem_of_find?_eq_some hkeys
  refine ⟨hmem,by simpa using find?_some hfind,?_⟩
  intro r hr ht
  refine inj_on_of_nodup_map (nodup_insertAll (by simp)) hr hmem ?_
  rw [(hpk r (mem_of_mem_insertAll hr)).mpr ht]
  exact (by simpa using find?_some hkeys : _ = _).symm

theorem mem_query_iff (he : e.Ends z) {pt : ConnectMetricPoint} :
    pt ∈ queryMetricByKey (connectTables ms e) key kind ↔
      ∃ r ∈ table kind ms z, r.point = pt ∧ ∀ o ∈ table kind ms z,
        o.bucketReportTime = r.bucketReportTime → o.metric.reportTime ≤ r.metric.reportTime := by
  have hkey : ((table kind ms z).filter fun row =>
      asI64 row.metric.key.createTime = asI64 key.createTime ∧ row.metric.key.cpuId = key.cpuId) =
      table kind ms z := by
    refine List.filter_eq_self.mpr fun r hr => ?_
    obtain ⟨m,hm,⟨s,hs⟩,-⟩ := rowOf_of_mem hz h (mem_of_mem_insertAll hr)
    simp [hs, h.key m hm]
  have hnewest : ∀ r ∈ table kind ms z, ∀ o ∈ table kind ms z,
      (asI64 o.bucketReportTime ≠ asI64 r.bucketReportTime ∨
        asI64 o.metric.reportTime ≤ asI64 r.metric.reportTime) ↔
      (o.bucketReportTime = r.bucketReportTime → o.metric.reportTime ≤ r.metric.reportTime) := by
    intro r hr o ho
    obtain ⟨hrt,hrb⟩ := fits_of_mem hz h hfits hr
    obtain ⟨hot,hob⟩ := fits_of_mem hz h hfits ho
    rw [asI64_of_lt hrb, asI64_of_lt hob, asI64_of_lt (hrt _ List.mem_cons_self),
      asI64_of_lt (hot _ List.mem_cons_self)]
    omega
  unfold queryMetricByKey
  rw [connectTables_eq h hz he]
  rw [hkey]
  simp only [List.mem_map, List.mem_insertionSort, List.mem_filter, List.all_eq_true,
    decide_eq_true_eq]
  constructor
  · rintro ⟨r,⟨hr,hnew⟩,rfl⟩
    exact ⟨r,hr,rfl,fun o ho => (hnewest r hr o ho).mp (hnew o ho)⟩
  · rintro ⟨r,hr,rfl,hnew⟩
    exact ⟨r,⟨hr,fun o ho => (hnewest r hr o ho).mpr (hnew o ho)⟩,rfl⟩

end

theorem point_eq_iff (hr : r.metric.Fits) (hb : r.bucketReportTime < 2 ^ 63) :
    r.point = finalPoint kind z ↔ r.bucketReportTime = kind.bucket z.reportTime ∧
      r.metric.status = .disabled ∧ r.metric.counters = z.counters := by
  simp only [ConnectMetric.Fits, ConnectMetric.counters, forall_mem_cons] at hr
  simp only [BucketWrite.point, finalPoint, ConnectMetric.counters, ConnectMetricPoint.mk.injEq,
    asI64_of_lt hb, asI64_of_lt hr.2.1, asI64_of_lt hr.2.2.1, asI64_of_lt hr.2.2.2.1,
    asI64_of_lt hr.2.2.2.2.1, Int.toNat_natCast, cons.injEq]
  tauto

/-- The history ends with the final point, in a resolution, exactly when its metrics keep it. -/
theorem finalPoint_mem_iff (h : Sequence key ms)
    (hz : ms.getLast? = some z) (hfits : ∀ m ∈ ms, m.Fits) {e : Ending} (he : e.Ends z)
    (kind : BucketKind) :
    finalPoint kind z ∈ queryMetricByKey (connectTables ms e) key kind ↔ KeepsFinal kind ms z := by
  obtain ⟨hmem,htime,hunique⟩ := kept_spec hz h hfits
  have hpoint : ∀ r ∈ table kind ms z, r.point = finalPoint kind z ↔
      r.bucketReportTime = kind.bucket z.reportTime ∧ r.metric.status = .disabled ∧
        r.metric.counters = z.counters := fun r hr =>
    point_eq_iff (fits_of_mem hz h hfits hr).1 (fits_of_mem hz h hfits hr).2
  have hle : ∀ r ∈ table kind ms z, r.metric.reportTime ≤ z.reportTime ∧
      r.bucketReportTime ≤ kind.bucket z.reportTime := by
    intro r hr
    obtain ⟨m,hm,⟨s,hs⟩,hb⟩ := rowOf_of_mem hz h (mem_of_mem_insertAll hr)
    have hmz := h.le_last hz hm
    exact ⟨hs ▸ hmz,hb.trans (bucket_mono hmz)⟩
  rw [← kept_iff hz, mem_query_iff hz h hfits he, ← hpoint _ hmem]
  constructor
  · rintro ⟨r,hr,hp,hnew⟩
    -- an earlier row of the last bucket is not the newest, since the kept row is in it as well
    rcases lt_or_ge r.metric.reportTime z.reportTime with hlt | hge
    · have hkept := bucket_le_kept hz h (mem_of_mem_insertAll hr) hlt
      have hbucket := ((hpoint r hr).mp hp).1
      have hnew' := hnew _ hmem (le_antisymm (hbucket ▸ (hle _ hmem).2) hkept)
      omega
    · exact hunique r hr (le_antisymm (hle r hr).1 hge) ▸ hp
  · intro hp
    exact ⟨kept kind ms z,hmem,hp,fun o ho _ => htime ▸ (hle o ho).1⟩

def sample (reportTime bytes : Nat) (status : ConnectStatusType) : ConnectMetric :=
  ⟨⟨1,0⟩,reportTime,bytes,1,bytes,1,status⟩

theorem finalPoint_mem_sample : finalPoint .hour (sample 700000 20 .disabled) ∈
    queryMetricByKey (connectTables [sample 1000 10 .active, sample 700000 20 .disabled]
      .disabled) ⟨1,0⟩ .hour := by
  have hseq : Sequence ⟨1,0⟩ [sample 1000 10 .active, sample 700000 20 .disabled] :=
    ⟨by simp [sample],by simp [sample]⟩
  have hend : Ending.disabled.Ends (sample 700000 20 .disabled) := rfl
  refine (finalPoint_mem_iff hseq rfl ?_ hend .hour).mpr ⟨rfl,rfl,rfl⟩
  simp [sample, ConnectMetric.Fits, ConnectMetric.counters]

def AlwaysFinal : Prop :=
  ∀ (key : ConnectKey) (ms : List ConnectMetric) (z : ConnectMetric) (e : Ending),
    Sequence key ms → ms.getLast? = some z → e.Ends z →
      ∀ kind, finalPoint kind z ∈ queryMetricByKey (connectTables ms e) key kind

/-- The last metric opens a minute: its row goes to the minute before, and the final row, with the
same primary key, is dropped. -/
theorem alwaysFinal_fails : ¬AlwaysFinal := by
  intro h
  have hseq : Sequence ⟨1,0⟩ [sample 59000 10 .active, sample 60000 20 .disabled] :=
    ⟨by simp [sample],by simp [sample]⟩
  exact absurd (h _ _ _ .disabled hseq rfl rfl .minute) (by decide)

end Landscape.Metric
