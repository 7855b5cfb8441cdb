import Landscape.Lib.Broadcast
import Landscape.Nat4.StaticConfig

/-! The static NAT service: several tasks save mappings and devices, and every change is followed by
a refresh that reads both tables and reconciles the static map. -/
namespace Landscape.Nat4.Static
open Broadcast Interleave Store Table Nat4

def deviceBroadcastCapacity : Nat := 64

/- `fails` says which of the reads of the store fail; `alive` is whether the observer still runs. -/
structure State where
  mappings : List StaticNatMappingV4Config
  devices : List EnrolledDevice
  table : StaticEntries
  events : EventQueue
  alive : Bool
  fails : Nat → Bool
  reads : Nat

inductive Op where
  | saveMappings (now : Nat) (configs : List StaticNatMappingV4Config)
  | deleteMapping (id : Uuid)
  | saveDevice (device : EnrolledDevice)
  | deleteDevice (id : Uuid)
  | sendEvent
  | listMappings
  | findDevices (ids : List Uuid)
  | snapshot
  | deleteBatch (keys : List MappingKey)
  | updateBatch (entries : List (MappingKey × StaticValue))

def Res : Op → Type
  | .saveMappings _ _ => Option (List (Change StaticNatMappingV4Config))
  | .deleteMapping _ => Option StaticNatMappingV4Config
  | .saveDevice _ | .sendEvent | .deleteBatch _ | .updateBatch _ => Unit
  | .deleteDevice _ => Option EnrolledDevice
  | .listMappings => Option (List StaticNatMappingV4Config)
  | .findDevices _ => Option (List EnrolledDevice)
  | .snapshot => StaticEntries

def State.read {α : Type} (s : State) (a : α) : Option α × State :=
  (if s.fails s.reads then none else some a, { s with reads := s.reads + 1 })

def exec : (o : Op) → State → Res o × State
  | .saveMappings now configs, s =>
    match checkedUpsertMany now s.mappings configs with
    | none => (none, s)
    | some (changes, rows) => (some changes, { s with mappings := rows })
  | .deleteMapping id, s =>
    let r := deleteAndGet s.mappings id
    (r.1, { s with mappings := r.2 })
  | .saveDevice device, s =>
    ((), { s with devices := s.devices.filter (fun d => d.id ≠ device.id) ++ [device] })
  | .deleteDevice id, s =>
    (s.devices.find? fun d => d.id = id, { s with devices := s.devices.filter fun d => d.id ≠ id })
  | .sendEvent, s => ((), { s with events := s.events.send deviceBroadcastCapacity })
  | .listMappings, s => s.read s.mappings
  | .findDevices ids, s => s.read (s.devices.filter fun d => ids.contains d.id)
  | .snapshot, s => (s.table, s)
  | .deleteBatch keys, s => ((), { s with table := Nat4.deleteBatch s.table keys })
  | .updateBatch entries, s => ((), { s with table := Nat4.updateBatch s.table entries })

abbrev M := Prog Op Res

def saveMappings (now : Nat) (configs : List StaticNatMappingV4Config) :
    M (Option (List (Change StaticNatMappingV4Config))) := .perform (Op.saveMappings now configs)

def deleteMapping (id : Uuid) : M (Option StaticNatMappingV4Config) :=
  .perform (Op.deleteMapping id)
def saveDevice (device : EnrolledDevice) : M Unit := .perform (Op.saveDevice device)
def deleteDevice (id : Uuid) : M (Option EnrolledDevice) := .perform (Op.deleteDevice id)
def sendEvent : M Unit := .perform Op.sendEvent
def listMappings : M (Option (List StaticNatMappingV4Config)) := .perform Op.listMappings
def findDevices (ids : List Uuid) : M (Option (List EnrolledDevice)) :=
  .perform (Op.findDevices ids)
def snapshotRawMap : M StaticEntries := .perform Op.snapshot

def listRuntimeConfigsV4 : M (Option (List RuntimeStaticNatMappingV4Config)) := do
  match ← listMappings with
  | none => pure none
  | some configs =>
    match ← findDevices (deviceIds configs) with
    | none => pure none
    | some devices => pure (some (runtimeConfigs configs devices))

def applyRawMapDiff (keys : List MappingKey) (entries : List (MappingKey × StaticValue)) :
    M Unit := do
  if keys ≠ [] then .perform (Op.deleteBatch keys)
  if entries ≠ [] then .perform (Op.updateBatch entries)

def syncStaticNat4 (configs : List RuntimeStaticNatMappingV4Config) : M Unit := do
  let desired := buildStaticNat4Entries configs
  let current ← snapshotRawMap
  applyRawMapDiff (deleteKeys current desired) (upsertEntries current desired)

/-- A read that fails is taken for an empty list. -/
def refreshRuntimeRules : M Unit := do
  match ← listRuntimeConfigsV4 with
  | some configs => syncStaticNat4 configs
  | none => syncStaticNat4 []

inductive Call where
  | save (now : Nat) (configs : List StaticNatMappingV4Config)
  | delete (id : Uuid)
  | saveDevice (device : EnrolledDevice)
  | deleteDevice (id : Uuid)
  | observe

def Call.run : Call → M Unit
  | .save now configs => do
    match ← saveMappings now configs with
    | none => pure ()
    | some _ => refreshRuntimeRules
  | .delete id => do
    match ← deleteMapping id with
    | none => pure ()
    | some _ => refreshRuntimeRules
  | .saveDevice device => do
    Static.saveDevice device
    sendEvent
  | .deleteDevice id => do
    match ← Static.deleteDevice id with
    | none => pure ()
    | some _ => sendEvent
  | .observe => refreshRuntimeRules

end Landscape.Nat4.Static
