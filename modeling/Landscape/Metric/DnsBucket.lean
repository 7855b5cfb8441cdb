import Landscape.Lib.Ledger
import Mathlib.Data.List.Sort

/-! DNS metrics by the minute: a batch of metrics becomes one row for each flow and minute. -/
namespace Landscape.Metric
open Ledger List

def minuteMs : Nat := 60 * 1000

def minuteStart (reportTime : Nat) : Nat := reportTime / minuteMs * minuteMs

inductive DnsOutcome where
  | «local»
  | block
  | hit
  | nxDomain
  | filter
  | normal
  | error
  deriving DecidableEq

structure DnsMetric where
  flowId : UInt32
  queryType : String
  status : DnsOutcome
  reportTime : Nat
  deriving DecidableEq

structure DnsCounters where
  totalQueries : Nat := 0
  totalEffectiveQueries : Nat := 0
  cacheHitCount : Nat := 0
  totalV4 : Nat := 0
  hitCountV4 : Nat := 0
  totalV6 : Nat := 0
  hitCountV6 : Nat := 0
  totalOther : Nat := 0
  hitCountOther : Nat := 0
  blockCount : Nat := 0
  filterCount : Nat := 0
  nxdomainCount : Nat := 0
  errorCount : Nat := 0
  deriving DecidableEq

variable (k : UInt32 × Nat) (c : DnsCounters) (metric : DnsMetric) (ms : List DnsMetric)

namespace DnsCounters

def recordStatus : DnsOutcome → DnsCounters
  | .hit => { c with cacheHitCount := c.cacheHitCount + 1 }
  | .block => { c with blockCount := c.blockCount + 1 }
  | .filter => { c with filterCount := c.filterCount + 1 }
  | .nxDomain => { c with nxdomainCount := c.nxdomainCount + 1 }
  | .error => { c with errorCount := c.errorCount + 1 }
  | .local | .normal => c

def hits (status : DnsOutcome) : Nat := if status = .hit then 1 else 0

def recordEffective (queryType : String) (status : DnsOutcome) : DnsCounters :=
  let c := { c with totalEffectiveQueries := c.totalEffectiveQueries + 1 }
  if queryType = "A" then
    { c with totalV4 := c.totalV4 + 1, hitCountV4 := c.hitCountV4 + hits status }
  else if queryType = "AAAA" then
    { c with totalV6 := c.totalV6 + 1, hitCountV6 := c.hitCountV6 + hits status }
  else { c with totalOther := c.totalOther + 1, hitCountOther := c.hitCountOther + hits status }

def record : DnsCounters :=
  let c := { c with totalQueries := c.totalQueries + 1 }
  let c := c.recordStatus metric.status
  let effective := metric.status ≠ .block ∧ metric.status ≠ .filter ∧ metric.status ≠ .error
  if effective then c.recordEffective metric.queryType metric.status else c

def merge (other : DnsCounters) : DnsCounters where
  totalQueries := c.totalQueries + other.totalQueries
  totalEffectiveQueries := c.totalEffectiveQueries + other.totalEffectiveQueries
  cacheHitCount := c.cacheHitCount + other.cacheHitCount
  totalV4 := c.totalV4 + other.totalV4
  hitCountV4 := c.hitCountV4 + other.hitCountV4
  totalV6 := c.totalV6 + other.totalV6
  hitCountV6 := c.hitCountV6 + other.hitCountV6
  totalOther := c.totalOther + other.totalOther
  hitCountOther := c.hitCountOther + other.hitCountOther
  blockCount := c.blockCount + other.blockCount
  filterCount := c.filterCount + other.filterCount
  nxdomainCount := c.nxdomainCount + other.nxdomainCount
  errorCount := c.errorCount + other.errorCount

instance : Add DnsCounters := ⟨merge⟩

instance : Zero DnsCounters := ⟨{}⟩

instance : AddCommMonoid DnsCounters where
  add_assoc a b c := by
    change merge (merge a b) c = merge a (merge b c)
    simp only [merge, add_assoc]
  zero_add a := by
    change merge {} a = a
    simp only [merge, zero_add]
  add_zero a := rfl
  add_comm a b := by
    change merge a b = merge b a
    simp only [merge, add_comm]
  nsmul := nsmulRec

theorem merge_eq_add (a b : DnsCounters) : a.merge b = a + b := rfl

theorem recordStatus_add (a b : DnsCounters) (status : DnsOutcome) :
    (a + b).recordStatus status = a + b.recordStatus status := by
  cases status <;> rfl

theorem recordEffective_add (a b : DnsCounters) (queryType : String) (status : DnsOutcome) :
    (a + b).recordEffective queryType status = a + b.recordEffective queryType status := by
  rw [← merge_eq_add, ← merge_eq_add]
  unfold recordEffective
  split
  · simp only [merge, add_assoc]
  · split <;> simp only [merge, add_assoc]

theorem record_add (a b : DnsCounters) (metric : DnsMetric) :
    (a + b).record metric = a + b.record metric := by
  have hstatus : ({ (a + b) with totalQueries := (a + b).totalQueries + 1 }).recordStatus
    metric.status =
      a + ({ b with totalQueries := b.totalQueries + 1 }).recordStatus metric.status :=
    recordStatus_add a { b with totalQueries := b.totalQueries + 1 } metric.status
  unfold record
  dsimp only
  rw [hstatus]
  split
  · exact recordEffective_add a _ _ _
  · rfl

theorem record_eq_add : c.record metric = c + record 0 metric := by
  have h := record_add c 0 metric
  rwa [add_zero] at h

theorem totalQueries_add (a b : DnsCounters) :
    (a + b).totalQueries = a.totalQueries + b.totalQueries := rfl

theorem totalQueries_record : (record 0 metric).totalQueries = 1 := by
  have hstatus : (({ (0 : DnsCounters) with totalQueries := 1 }).recordStatus
      metric.status).totalQueries = 1 := by
    cases metric.status <;> rfl
  unfold record
  dsimp only
  split
  · unfold recordEffective
    split
    · exact hstatus
    · split <;> exact hstatus
  · exact hstatus

theorem foldl_record : ms.foldl record {} = (ms.map (record 0)).sum := by
  induction ms using reverseRec with
  | nil => rfl
  | append_singleton ms m ih =>
    rw [foldl_concat, ih, record_eq_add, map_append, sum_append, map_singleton, sum_singleton]

end DnsCounters

structure BatchAggregate where
  flowId : UInt32
  bucketTime : Nat
  counts : DnsCounters
  lastReportTime : Nat

variable (a : BatchAggregate)

namespace BatchAggregate

def key : UInt32 × Nat := (a.flowId, a.bucketTime)

def new : BatchAggregate := ⟨k.1,k.2,{},0⟩

def ingest (metric : DnsMetric) : BatchAggregate :=
  { a with
    counts := a.counts.record metric
    lastReportTime := max a.lastReportTime metric.reportTime }

theorem key_new : (new k).key = k := rfl

theorem key_ingest (metric : DnsMetric) : (a.ingest metric).key = a.key := rfl

end BatchAggregate

structure DnsBucketRow where
  flowId : UInt32
  bucketTime : Nat
  reportTime : Nat
  counts : DnsCounters
  deriving DecidableEq

def BatchAggregate.intoRow : DnsBucketRow :=
  ⟨a.flowId,a.bucketTime,a.lastReportTime,a.counts⟩

def DnsMetric.bucket : UInt32 × Nat :=
  (metric.flowId, minuteStart metric.reportTime)

def aggregates (metrics : List DnsMetric) : List BatchAggregate :=
  tally BatchAggregate.key DnsMetric.bucket .new .ingest metrics

def DnsBucketRow.before (a b : DnsBucketRow) : Prop :=
  a.flowId < b.flowId ∨ a.flowId = b.flowId ∧ a.bucketTime ≤ b.bucketTime

instance : DecidableRel DnsBucketRow.before := fun a b =>
  inferInstanceAs (Decidable (a.flowId < b.flowId ∨ a.flowId = b.flowId ∧
    a.bucketTime ≤ b.bucketTime))

def dnsBucketRowsFromBatch (metrics : List DnsMetric) : List DnsBucketRow :=
  ((aggregates metrics).map BatchAggregate.intoRow).insertionSort DnsBucketRow.before

structure LastOf (batch : List DnsMetric) (flowId : UInt32) (reportTime : Nat) : Prop where
  present : ∃ m ∈ batch, m.flowId = flowId ∧ m.reportTime = reportTime
  last : ∀ m ∈ batch, m.bucket = (flowId, minuteStart reportTime) → m.reportTime ≤ reportTime

theorem foldl_ingest_fields : (ms.foldl .ingest a).key = a.key ∧
      (ms.foldl .ingest a).counts = a.counts + (ms.map (DnsCounters.record 0)).sum := by
  induction ms generalizing a with
  | nil => simp
  | cons m ms ih =>
    obtain ⟨hkey,hcounts⟩ := ih (a.ingest m)
    refine ⟨hkey,?_⟩
    rw [foldl_cons, hcounts, map_cons, sum_cons, ← add_assoc]
    exact congrArg (· + _) (DnsCounters.record_eq_add a.counts m)

/- An aggregate starts at time 0, but the time is one of a metric all the same. -/
theorem foldl_ingest_last {ms : List DnsMetric} (hne : ms ≠ []) :
    (∃ m ∈ ms, m.reportTime = (ms.foldl BatchAggregate.ingest (.new k)).lastReportTime) ∧
      ∀ m ∈ ms, m.reportTime ≤ (ms.foldl BatchAggregate.ingest (.new k)).lastReportTime := by
  induction ms using reverseRec with
  | nil => exact absurd rfl hne
  | append_singleton ms m ih =>
    have hmax : ((ms ++ [m]).foldl BatchAggregate.ingest (.new k)).lastReportTime =
        max (ms.foldl BatchAggregate.ingest (.new k)).lastReportTime m.reportTime := by
      rw [foldl_concat]
      rfl
    rw [hmax]
    rcases eq_or_ne ms [] with rfl | hms
    · simp [BatchAggregate.new]
    · obtain ⟨⟨x,hx,heq⟩,hall⟩ := ih hms
      constructor
      · rcases le_total x.reportTime m.reportTime with hle | hle
        · exact ⟨m,by simp,by omega⟩
        · exact ⟨x,by simp [hx],by omega⟩
      · simp only [mem_append, mem_singleton]
        rintro y (hy | rfl)
        · exact le_max_of_le_left (hall y hy)
        · exact le_max_right _ _

theorem totalQueries_sum : (ms.map (DnsCounters.record 0)).sum.totalQueries = ms.length := by
  induction ms with
  | nil => rfl
  | cons m ms ih =>
    rw [map_cons, sum_cons, DnsCounters.totalQueries_add, ih,
      DnsCounters.totalQueries_record, length_cons, add_comm]

theorem mem_aggregates {ms : List DnsMetric} {a : BatchAggregate} :
    a ∈ aggregates ms ↔ (∃ m ∈ ms, m.bucket = a.key) ∧
      a = (ms.filter fun m => m.bucket = a.key).foldl .ingest (.new a.key) :=
  mem_tally BatchAggregate.key_new BatchAggregate.key_ingest

theorem mem_rows {ms : List DnsMetric} {r : DnsBucketRow} :
    r ∈ dnsBucketRowsFromBatch ms ↔ ∃ a ∈ aggregates ms, a.intoRow = r := by
  rw [dnsBucketRowsFromBatch, mem_insertionSort, mem_map]

/-- A row counts something, lies in the minute of its time, and that time is the last of its
bucket. -/
theorem of_mem_rows {ms : List DnsMetric} {r : DnsBucketRow} (h : r ∈ dnsBucketRowsFromBatch ms) :
    r.bucketTime = minuteStart r.reportTime ∧ LastOf ms r.flowId r.reportTime ∧
      0 < r.counts.totalQueries := by
  obtain ⟨a,ha,rfl⟩ := mem_rows.mp h
  obtain ⟨⟨m₀,hm₀,hkey₀⟩,hfold⟩ := mem_aggregates.mp ha
  have hmem₀ : m₀ ∈ ms.filter fun m => m.bucket = a.key := by simp [hm₀, hkey₀]
  obtain ⟨⟨m,hm,htime⟩,hall⟩ := foldl_ingest_last a.key (ne_nil_of_mem hmem₀)
  obtain ⟨-,hcounts⟩ := foldl_ingest_fields (ms.filter fun m => m.bucket = a.key) (.new a.key)
  rw [← hfold] at hall htime hcounts
  obtain ⟨hm,hkey⟩ : m ∈ ms ∧ m.bucket = a.key := by simpa using hm
  have hflow : m.flowId = a.flowId := congrArg Prod.fst hkey
  have hbucket : minuteStart a.lastReportTime = a.bucketTime := by
    rw [← htime]
    exact congrArg Prod.snd hkey
  refine ⟨hbucket.symm,⟨⟨m,hm,hflow,htime⟩,?_⟩,?_⟩
  · intro m' hm' hk
    refine hall m' ?_
    have hk' : m'.bucket = a.key := hk.trans (congrArg (Prod.mk a.flowId) hbucket)
    simp [hm', hk']
  · change 0 < a.counts.totalQueries
    rw [hcounts, DnsCounters.totalQueries_add, totalQueries_sum]
    have := length_pos_of_mem hmem₀
    omega

theorem LastOf.row {ms : List DnsMetric} {flowId : UInt32} {t : Nat} (h : LastOf ms flowId t) :
    ∃ r ∈ dnsBucketRowsFromBatch ms, r.flowId = flowId ∧ r.reportTime = t := by
  obtain ⟨m,hm,hflow,htime⟩ := h.present
  have hkey : m.bucket = (flowId, minuteStart t) := by rw [DnsMetric.bucket, hflow, htime]
  let group := ms.filter fun x => x.bucket = (flowId, minuteStart t)
  let a : BatchAggregate := group.foldl .ingest (.new (flowId, minuteStart t))
  have hak : a.key = (flowId, minuteStart t) := (foldl_ingest_fields group _).1
  have ha : a ∈ aggregates ms := by
    rw [mem_aggregates, hak]
    exact ⟨⟨m,hm,hkey⟩,rfl⟩
  have hmem : m ∈ group := by simp [group, hm, hkey]
  obtain ⟨⟨x,hx,heq⟩,hall⟩ := foldl_ingest_last (flowId, minuteStart t) (ne_nil_of_mem hmem)
  have hge : t ≤ a.lastReportTime := htime ▸ hall m hmem
  have hle : a.lastReportTime ≤ t := by
    obtain ⟨hx,hxk⟩ : x ∈ ms ∧ x.bucket = (flowId, minuteStart t) := by simpa [group] using hx
    exact heq ▸ h.last x hx hxk
  exact ⟨a.intoRow,mem_rows.mpr ⟨a,ha,rfl⟩,congrArg Prod.fst hak,by
    change a.lastReportTime = t
    omega⟩

theorem nodup_buckets :
    ((dnsBucketRowsFromBatch ms).map fun r => (r.flowId, r.bucketTime)).Nodup := by
  have hperm := (perm_insertionSort DnsBucketRow.before
    ((aggregates ms).map BatchAggregate.intoRow)).map fun r => (r.flowId, r.bucketTime)
  refine hperm.nodup_iff.mpr ?_
  rw [map_map]
  exact nodup_tally BatchAggregate.key_new BatchAggregate.key_ingest ms

end Landscape.Metric
