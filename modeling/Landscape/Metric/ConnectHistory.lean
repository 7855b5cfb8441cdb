import Landscape.Lib.Ledger
import Mathlib.Data.List.Sort

/-! The history of a connection: metrics become rows of three tables, by the minute, the hour and
the day, and the last row of a bucket is its point. -/
namespace Landscape.Metric
open Ledger

def msPerMinute : Nat := 60 * 1000
def msPerHour : Nat := 60 * msPerMinute
def msPerDay : Nat := 24 * msPerHour
def msPerTenMinutes : Nat := 10 * msPerMinute
def staleTimeoutMs : Nat := 5 * msPerMinute

variable (reportTime : Nat)

def bucketStart (bucketMs : Nat) : Nat := reportTime / bucketMs * bucketMs

def minuteSlot : Nat := bucketStart reportTime msPerMinute

def hourRefreshSlot : Nat := bucketStart reportTime msPerTenMinutes

def dayRefreshSlot : Nat := bucketStart reportTime msPerHour

inductive BucketKind where
  | minute
  | hour
  | day
  deriving DecidableEq

namespace BucketKind

def kinds : List BucketKind := [.minute, .hour, .day]

def refreshSlot : BucketKind → Nat → Nat
  | .minute => minuteSlot
  | .hour => hourRefreshSlot
  | .day => dayRefreshSlot

def bucket : BucketKind → Nat → Nat
  | .minute => minuteSlot
  | .hour => (bucketStart · msPerHour)
  | .day => (bucketStart · msPerDay)

end BucketKind

inductive ConnectStatusType where
  | unknow
  | active
  | disabled
  deriving DecidableEq

structure ConnectKey where
  createTime : Nat
  cpuId : UInt32
  deriving DecidableEq

structure ConnectMetric where
  key : ConnectKey
  reportTime : Nat
  ingressBytes : Nat
  ingressPackets : Nat
  egressBytes : Nat
  egressPackets : Nat
  status : ConnectStatusType
  deriving DecidableEq

structure BucketWrite where
  kind : BucketKind
  metric : ConnectMetric
  bucketReportTime : Nat

abbrev Batch := List BucketWrite

structure FlowState where
  lastMetric : ConnectMetric
  lastSlot : BucketKind → Nat
  finalized : Bool

abbrev FlowCache := List (ConnectKey × FlowState)

variable (cache : FlowCache) (metric : ConnectMetric)

def FlowState.new : FlowState :=
  ⟨metric,fun kind => kind.refreshSlot metric.reportTime,false⟩

def finalizeStateBatch (state : FlowState) (markDisabled : Bool) : FlowState × Batch :=
  if state.finalized then (state, [])
  else
    let metric :=
      if markDisabled then { state.lastMetric with status := .disabled } else state.lastMetric
    ({ state with lastMetric := metric, finalized := true },
      BucketKind.kinds.map fun kind => ⟨kind,metric,kind.bucket metric.reportTime⟩)

def FlowState.advance (state : FlowState) (metric : ConnectMetric) : FlowState × Batch :=
  let moves := fun kind : BucketKind => state.lastSlot kind < kind.refreshSlot metric.reportTime
  (⟨metric,fun kind => if moves kind then kind.refreshSlot metric.reportTime
    else state.lastSlot kind,false⟩,
    (BucketKind.kinds.filter fun kind => moves kind).map fun kind =>
      ⟨kind,metric,kind.bucket state.lastMetric.reportTime⟩)

def processEntry (entry : Option FlowState) (metric : ConnectMetric) : FlowState × Batch :=
  let finish := fun out : FlowState × Batch =>
    if metric.status = .disabled then
      let final := finalizeStateBatch out.1 true
      (final.1, out.2 ++ final.2)
    else out
  match entry with
  | some state =>
    if metric.reportTime < state.lastMetric.reportTime then (state, [])
    else finish (state.advance metric)
  | none => finish (.new metric, [])

def processConnectMetric : FlowCache × Batch :=
  let out := processEntry (cache.lookup metric.key) metric
  (entry Prod.fst metric.key (metric.key, out.1) (fun e => (e.1, out.1)) cache, out.2)

def cleanupFlowCache (nowMs secondWindowMs : Nat) : FlowCache × Batch :=
  let outs := cache.map fun e =>
    if ¬e.2.finalized ∧ e.2.lastMetric.reportTime < nowMs - staleTimeoutMs then
      let out := finalizeStateBatch e.2 true
      ((e.1, out.1), out.2)
    else (e, [])
  ((outs.map (·.1)).filter fun e =>
      ¬(e.2.finalized ∧ e.2.lastMetric.reportTime < nowMs - secondWindowMs),
    outs.flatMap (·.2))

def finalizeAllFlows : FlowCache × Batch :=
  let outs :=
    cache.map fun e => ((e.1, (finalizeStateBatch e.2 true).1), (finalizeStateBatch e.2 true).2)
  (outs.map (·.1), outs.flatMap (·.2))

def BucketWrite.primaryKey (row : BucketWrite) : Int × UInt32 × Int :=
  (asI64 row.metric.key.createTime, row.metric.key.cpuId, asI64 row.metric.reportTime)

abbrev ConnectTables := BucketKind → List BucketWrite

def applyConnectBatch (tables : ConnectTables) (batch : Batch) : ConnectTables := fun kind =>
  insertAll BucketWrite.primaryKey (tables kind) (batch.filter fun row => row.kind = kind)

structure ConnectMetricPoint where
  reportTime : Nat
  ingressBytes : Nat
  ingressPackets : Nat
  egressBytes : Nat
  egressPackets : Nat
  status : ConnectStatusType
  deriving DecidableEq

def BucketWrite.point (row : BucketWrite) : ConnectMetricPoint where
  reportTime := (asI64 row.bucketReportTime).toNat
  ingressBytes := (asI64 row.metric.ingressBytes).toNat
  ingressPackets := (asI64 row.metric.ingressPackets).toNat
  egressBytes := (asI64 row.metric.egressBytes).toNat
  egressPackets := (asI64 row.metric.egressPackets).toNat
  status := row.metric.status

def queryMetricByKey (tables : ConnectTables) (key : ConnectKey) (kind : BucketKind) :
    List ConnectMetricPoint :=
  let rows := (tables kind).filter fun row =>
    asI64 row.metric.key.createTime = asI64 key.createTime ∧ row.metric.key.cpuId = key.cpuId
  let newest := rows.filter fun row => rows.all fun other =>
    asI64 other.bucketReportTime ≠ asI64 row.bucketReportTime ∨
      asI64 other.metric.reportTime ≤ asI64 row.metric.reportTime
  (newest.insertionSort fun a b => asI64 a.bucketReportTime ≤ asI64 b.bucketReportTime).map
    BucketWrite.point

end Landscape.Metric
