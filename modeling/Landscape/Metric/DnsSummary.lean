import Landscape.Metric.DnsBucket

/-! The table of the minute rows. Every batch adds its rows, a row whose key is taken is dropped,
and queries add the rows up again. -/
namespace Landscape.Metric
open Ledger List

def DnsBucketRow.conflictKey (r : DnsBucketRow) : UInt32 × Int := (r.flowId, asI64 r.reportTime)

def insertDnsBucketRows (table rows : List DnsBucketRow) : List DnsBucketRow :=
  insertAll DnsBucketRow.conflictKey table rows

def runDnsWriter (batches : List (List DnsMetric)) : List DnsBucketRow :=
  batches.foldl (fun table batch => insertDnsBucketRows table (dnsBucketRowsFromBatch batch)) []

structure BucketFilter where
  startMs : Nat
  endMs : Nat
  flowId : Option UInt32

def BucketFilter.selectsBucket (q : BucketFilter) (bucket : UInt32 × Nat) : Bool :=
  (q.startMs = 0 || asI64 q.startMs ≤ asI64 bucket.2) &&
    (q.endMs = 0 || asI64 bucket.2 < asI64 q.endMs) && q.flowId.all (· = bucket.1)

def BucketFilter.selects (q : BucketFilter) (r : DnsBucketRow) : Bool :=
  q.selectsBucket (r.flowId, r.bucketTime)

def queryDnsSummaryParts (table : List DnsBucketRow) (q : BucketFilter) : DnsCounters :=
  (table.filter q.selects).foldl (fun c r => c.merge r.counts) {}

def BucketFilter.covers (q : BucketFilter) (flowId : UInt32) (reportTime : Nat) : Bool :=
  q.startMs ≤ reportTime && (q.endMs = 0 || reportTime < q.endMs) && q.flowId.all (· = flowId)

/-- Bounds on whole minutes that fit their column. -/
structure BucketFilter.Aligned (q : BucketFilter) : Prop where
  startMs : minuteMs ∣ q.startMs
  endMs : minuteMs ∣ q.endMs
  startMs_lt : q.startMs < 2 ^ 63
  endMs_lt : q.endMs < 2 ^ 63

theorem minuteStart_le (t : Nat) : minuteStart t ≤ t := Nat.div_mul_le_self t minuteMs

variable {t : Nat} {q : BucketFilter} {batches : List (List DnsMetric)} {flowId : UInt32}

theorem le_minuteStart_iff {b : Nat} (h : minuteMs ∣ b) : b ≤ minuteStart t ↔ b ≤ t := by
  obtain ⟨n,rfl⟩ := h
  unfold minuteStart minuteMs
  omega

theorem sum_rows (ms : List DnsMetric) :
    (((dnsBucketRowsFromBatch ms).filter q.selects).map DnsBucketRow.counts).sum =
      ((ms.filter fun m => q.selectsBucket m.bucket).map (DnsCounters.record 0)).sum := by
  rw [sum_filter_map, sum_filter_map]
  have hperm := (perm_insertionSort DnsBucketRow.before
    ((aggregates ms).map BatchAggregate.intoRow)).map
      fun r => if q.selects r then r.counts else 0
  rw [dnsBucketRowsFromBatch, hperm.sum_eq, map_map]
  refine sum_tally ?_ ?_ ms
  · intro m
    rfl
  · intro a m hkey
    have hsel : q.selects a.intoRow = q.selectsBucket m.bucket := congrArg q.selectsBucket hkey
    have hsel' : q.selects (a.ingest m).intoRow = q.selectsBucket m.bucket := hsel
    simp only [Function.comp_apply, hsel, hsel']
    split
    · exact DnsCounters.record_eq_add a.counts m
    · rfl

theorem query_eq_sum (table : List DnsBucketRow) :
    queryDnsSummaryParts table q = ((table.filter q.selects).map DnsBucketRow.counts).sum := by
  unfold queryDnsSummaryParts
  induction table.filter q.selects using reverseRec with
  | nil => rfl
  | append_singleton rows r ih =>
    rw [foldl_concat, ih, map_append, sum_append, map_singleton, sum_singleton]
    rfl

theorem runDnsWriter_eq : runDnsWriter batches =
      insertAll DnsBucketRow.conflictKey [] (batches.flatMap dnsBucketRowsFromBatch) := by
  induction batches using reverseRec with
  | nil => rfl
  | append_singleton bs b ih =>
    rw [runDnsWriter, foldl_concat, ← runDnsWriter, ih, flatMap_append, insertAll_append,
      flatMap_singleton]
    rfl

theorem totalQueries_sum_rows (rows : List DnsBucketRow) :
    (rows.map DnsBucketRow.counts).sum.totalQueries = (rows.map (·.counts.totalQueries)).sum := by
  induction rows with
  | nil => rfl
  | cons r rows ih =>
    rw [map_cons, map_cons, sum_cons, sum_cons, DnsCounters.totalQueries_add, ih]

/-- In a table whose rows all count something, the sum over the kept rows is the sum over all rows
only if all are kept. -/
theorem sum_insertAll_iff {rows : List DnsBucketRow}
    (hpos : ∀ r ∈ rows, 0 < r.counts.totalQueries) :
    ((insertAll DnsBucketRow.conflictKey [] rows).map DnsBucketRow.counts).sum =
        (rows.map DnsBucketRow.counts).sum ↔ (rows.map DnsBucketRow.conflictKey).Nodup := by
  rw [← insertAll_eq_iff]
  constructor
  · intro h
    refine eq_of_sublist_of_sum (insertAll_sublist [] rows) hpos ?_
    rw [← totalQueries_sum_rows, h, totalQueries_sum_rows]
  · intro h
    rw [h]

def Fits (batches : List (List DnsMetric)) : Prop := ∀ b ∈ batches, ∀ m ∈ b, m.reportTime < 2 ^ 63

theorem selectsBucket_eq_covers (hq : q.Aligned) (ht : t < 2 ^ 63) :
    q.selectsBucket (flowId, minuteStart t) = q.covers flowId t := by
  have hmin : minuteStart t < 2 ^ 63 := Nat.lt_of_le_of_lt (minuteStart_le t) ht
  unfold BucketFilter.selectsBucket BucketFilter.covers
  rw [asI64_of_lt hmin, asI64_of_lt hq.startMs_lt, asI64_of_lt hq.endMs_lt]
  have hstart : (q.startMs = 0 ∨ (q.startMs : Int) ≤ minuteStart t) ↔ q.startMs ≤ t := by
    rw [← le_minuteStart_iff hq.startMs]
    omega
  have hend : (q.endMs = 0 ∨ (minuteStart t : Int) < q.endMs) ↔ (q.endMs = 0 ∨ t < q.endMs) := by
    have := le_minuteStart_iff (t := t) hq.endMs
    omega
  simp only [← Bool.decide_or, hstart, hend]

section
variable {batches : List (List DnsMetric)} (hfits : Fits batches) {b : List DnsMetric}
  (hb : b ∈ batches) {r : DnsBucketRow} (hr : r ∈ dnsBucketRowsFromBatch b)
include hfits hb

theorem LastOf.lt {t : Nat} (h : LastOf b flowId t) : t < 2 ^ 63 := by
  obtain ⟨m,hm,-,rfl⟩ := h.present
  exact hfits b hb m hm

include hr

theorem conflictKey_of_mem : r.conflictKey = (r.flowId, (r.reportTime : Int)) := by
  obtain ⟨-,hlast,-⟩ := of_mem_rows hr
  rw [DnsBucketRow.conflictKey, asI64_of_lt (hlast.lt hfits hb)]

theorem selects_of_mem {q : BucketFilter} (hq : q.Aligned) :
    q.selects r = q.covers r.flowId r.reportTime := by
  obtain ⟨hbucket,hlast,-⟩ := of_mem_rows hr
  rw [BucketFilter.selects, hbucket, selectsBucket_eq_covers hq (hlast.lt hfits hb)]

end

theorem nodup_keys_batch (hfits : Fits batches) {b : List DnsMetric} (hb : b ∈ batches)
    (p : DnsBucketRow → Bool) :
    (((dnsBucketRowsFromBatch b).filter p).map DnsBucketRow.conflictKey).Nodup := by
  have hbuckets := List.Nodup.of_map _ (nodup_buckets b)
  refine List.Nodup.map_on ?_ (hbuckets.filter p)
  intro r hr r' hr' hkey
  have hr := (mem_filter.mp hr).1
  have hr' := (mem_filter.mp hr').1
  rw [conflictKey_of_mem hfits hb hr, conflictKey_of_mem hfits hb hr', Prod.mk.injEq,
    Int.natCast_inj] at hkey
  refine inj_on_of_nodup_map (nodup_buckets b) hr hr' ?_
  rw [(of_mem_rows hr).1, (of_mem_rows hr').1, hkey.1, hkey.2]

/-- Two batches clash when a flow and minute that the query covers has the same last time in
both. -/
theorem disjoint_keys_iff (hfits : Fits batches) (hq : q.Aligned) {b b' : List DnsMetric}
    (hb : b ∈ batches) (hb' : b' ∈ batches) :
    List.Disjoint (((dnsBucketRowsFromBatch b).filter q.selects).map DnsBucketRow.conflictKey)
        (((dnsBucketRowsFromBatch b').filter q.selects).map DnsBucketRow.conflictKey) ↔
      ∀ flowId t, q.covers flowId t → LastOf b flowId t → ¬LastOf b' flowId t := by
  constructor
  · intro hdisj flowId t hcov hlast hlast'
    obtain ⟨r,hr,rfl,rfl⟩ := hlast.row
    obtain ⟨r',hr',hflow,htime⟩ := hlast'.row
    have hsel : q.selects r = true := (selects_of_mem hfits hb hr hq).trans hcov
    have hsel' : q.selects r' = true := by
      rw [selects_of_mem hfits hb' hr' hq, hflow, htime]
      exact hcov
    have hkey : r'.conflictKey = r.conflictKey := by
      rw [conflictKey_of_mem hfits hb' hr', conflictKey_of_mem hfits hb hr, hflow, htime]
    exact hdisj (mem_map_of_mem (mem_filter.mpr ⟨hr,hsel⟩))
      (hkey ▸ mem_map_of_mem (mem_filter.mpr ⟨hr',hsel'⟩))
  · intro hcond k hk hk'
    obtain ⟨r,hr,rfl⟩ := mem_map.mp hk
    obtain ⟨r',hr',hkey⟩ := mem_map.mp hk'
    obtain ⟨hr,hsel⟩ := mem_filter.mp hr
    obtain ⟨hr',-⟩ := mem_filter.mp hr'
    rw [conflictKey_of_mem hfits hb hr, conflictKey_of_mem hfits hb' hr', Prod.mk.injEq,
      Int.natCast_inj] at hkey
    obtain ⟨-,hlast,-⟩ := of_mem_rows hr
    obtain ⟨-,hlast',-⟩ := of_mem_rows hr'
    rw [hkey.1, hkey.2] at hlast'
    exact hcond r.flowId r.reportTime ((selects_of_mem hfits hb hr hq).symm.trans hsel) hlast hlast'

theorem nodup_keys_iff (hfits : Fits batches) (hq : q.Aligned) :
    (((batches.flatMap dnsBucketRowsFromBatch).filter q.selects).map
        DnsBucketRow.conflictKey).Nodup ↔
      batches.Pairwise fun b b' => ∀ flowId t, q.covers flowId t → LastOf b flowId t →
        ¬LastOf b' flowId t := by
  rw [filter_flatMap, map_flatMap, nodup_flatMap]
  constructor
  · rintro ⟨-,hpair⟩
    exact hpair.imp_of_mem fun hb hb' h => (disjoint_keys_iff hfits hq hb hb').mp h
  · intro hpair
    refine ⟨fun b hb => nodup_keys_batch hfits hb q.selects,?_⟩
    exact hpair.imp_of_mem fun hb hb' h => (disjoint_keys_iff hfits hq hb hb').mpr h

theorem sum_all_rows (hfits : Fits batches) (hq : q.Aligned) :
    (((batches.flatMap dnsBucketRowsFromBatch).filter q.selects).map DnsBucketRow.counts).sum =
      (batches.flatten.filter fun m => q.covers m.flowId m.reportTime).foldl .record {} := by
  rw [DnsCounters.foldl_record]
  induction batches with
  | nil => rfl
  | cons b bs ih =>
    have hcov : (b.filter fun m => q.selectsBucket m.bucket) =
        b.filter fun m => q.covers m.flowId m.reportTime := by
      refine filter_congr fun m hm => ?_
      exact selectsBucket_eq_covers hq (hfits b mem_cons_self m hm)
    rw [flatMap_cons, filter_append, map_append, sum_append,
      ih fun x hx => hfits x (mem_cons_of_mem _ hx), sum_rows, hcov, flatten_cons, filter_append,
        map_append, sum_append]

/-- A query over whole minutes counts every metric of its range once exactly when no two batches
have the same last time for a flow and minute in the range. -/
theorem query_exact_iff {batches : List (List DnsMetric)} (hfits : Fits batches) {q : BucketFilter}
    (hq : q.Aligned) : queryDnsSummaryParts (runDnsWriter batches) q =
        (batches.flatten.filter fun m => q.covers m.flowId m.reportTime).foldl .record {} ↔
      batches.Pairwise fun b b' => ∀ flowId t, q.covers flowId t → LastOf b flowId t →
        ¬LastOf b' flowId t := by
  have hmem : ∀ r ∈ batches.flatMap dnsBucketRowsFromBatch,
      ∃ b ∈ batches, r ∈ dnsBucketRowsFromBatch b := fun r hr => mem_flatMap.mp hr
  have hsel : ∀ r ∈ [] ++ batches.flatMap dnsBucketRowsFromBatch,
      ∀ r' ∈ [] ++ batches.flatMap dnsBucketRowsFromBatch,
      r.conflictKey = r'.conflictKey → q.selects r = q.selects r' := by
    intro r hr r' hr' hkey
    obtain ⟨b,hb,hr⟩ := hmem r hr
    obtain ⟨b',hb',hr'⟩ := hmem r' hr'
    rw [conflictKey_of_mem hfits hb hr, conflictKey_of_mem hfits hb' hr', Prod.mk.injEq,
      Int.natCast_inj] at hkey
    rw [selects_of_mem hfits hb hr hq, selects_of_mem hfits hb' hr' hq, hkey.1, hkey.2]
  have hpos : ∀ r ∈ (batches.flatMap dnsBucketRowsFromBatch).filter q.selects,
      0 < r.counts.totalQueries := by
    intro r hr
    obtain ⟨b,-,hr⟩ := hmem r (mem_filter.mp hr).1
    exact (of_mem_rows hr).2.2
  rw [query_eq_sum, runDnsWriter_eq, filter_insertAll hsel, ← sum_all_rows hfits hq,
    ← nodup_keys_iff hfits hq]
  exact sum_insertAll_iff hpos

def flowOne : BucketFilter := ⟨0,0,some 1⟩

def asked (reportTime : Nat) : DnsMetric := ⟨1,"A",.normal,reportTime⟩

theorem flowOne_aligned : flowOne.Aligned := ⟨by decide,by decide,by decide,by decide⟩

theorem lastOf_singleton {m : DnsMetric} (h : LastOf [m] flowId t) : m.reportTime = t := by
  obtain ⟨x,hx,-,htime⟩ := h.present
  rw [← mem_singleton.mp hx]
  exact htime

theorem query_exact_sample :
    queryDnsSummaryParts (runDnsWriter [[asked 60000], [asked 60001]]) flowOne =
      ([asked 60000, asked 60001].filter fun m => flowOne.covers m.flowId m.reportTime).foldl
        .record {} := by
  have hfits : Fits [[asked 60000], [asked 60001]] := by
    unfold Fits
    decide
  refine (query_exact_iff hfits flowOne_aligned).mpr ?_
  refine pairwise_pair.mpr ?_
  intro flowId t _ hlast hlast'
  have hne := (lastOf_singleton hlast).trans (lastOf_singleton hlast').symm
  exact absurd hne (by decide)

/-- Every metric of a whole-minute range is counted, however the metrics are cut into batches. -/
def AlwaysExact : Prop :=
  ∀ (batches : List (List DnsMetric)) (q : BucketFilter), Fits batches → q.Aligned →
    queryDnsSummaryParts (runDnsWriter batches) q =
      (batches.flatten.filter fun m => q.covers m.flowId m.reportTime).foldl .record {}

/-- Two queries of one flow in the same millisecond, in two batches: the second is lost. -/
theorem alwaysExact_fails : ¬AlwaysExact := by
  intro hall
  have hfits : Fits [[asked 60000], [asked 60000]] := by
    unfold Fits
    decide
  have heq := congrArg DnsCounters.totalQueries (hall _ flowOne hfits flowOne_aligned)
  exact absurd heq (by decide)

end Landscape.Metric
