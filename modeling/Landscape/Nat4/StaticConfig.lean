import Landscape.Lib.Store
import Landscape.Nat4.MapOps

/-! Static NAT mappings: the stored configurations, their resolution against the enrolled devices,
and the entries of the static map. -/
namespace Landscape.Nat4
open Store Table List

abbrev Uuid := BitVec 128

structure StaticMapPair where
  wanPort : UInt16
  lanPort : UInt16
  deriving DecidableEq

inductive StaticNatV4Target where
  | address (ipv4 : UInt32)
  | localHost
  | device (deviceId : Uuid)
  deriving DecidableEq

structure StaticNatMappingV4Config where
  id : Uuid
  enable : Bool
  mappingPairPorts : List StaticMapPair
  lanTarget : Option StaticNatV4Target
  l4Protocols : List UInt8
  updateAt : Nat
  deriving DecidableEq

instance : Row Uuid StaticNatMappingV4Config where
  id := StaticNatMappingV4Config.id
  updateAt := StaticNatMappingV4Config.updateAt
  setUpdateAt c ts := { c with updateAt := ts }
  id_setUpdateAt _ _ := rfl
  updateAt_setUpdateAt _ _ := rfl

structure EnrolledDevice where
  id : Uuid
  ipv4 : Option UInt32
  deriving DecidableEq

structure RuntimeStaticNatMappingV4Config where
  mappingPairPorts : List StaticMapPair
  lanIpv4 : UInt32
  l4Protocols : List UInt8
  deriving DecidableEq

def resolveStaticNatV4Target (config : StaticNatMappingV4Config) (devices : List EnrolledDevice) :
    Option UInt32 :=
  match config.lanTarget with
  | some (.address ipv4) => some ipv4
  | some .localHost => some 0
  | some (.device deviceId) => (devices.find? fun d => d.id = deviceId).bind (·.ipv4)
  | none => none

variable (configs : List StaticNatMappingV4Config) (devices : List EnrolledDevice)

def resolveStaticNatMappingV4Config (config : StaticNatMappingV4Config) :
    Option RuntimeStaticNatMappingV4Config :=
  (resolveStaticNatV4Target config devices).map fun lanIpv4 =>
    ⟨config.mappingPairPorts,lanIpv4,config.l4Protocols⟩

def deviceIds : List Uuid :=
  configs.filterMap fun c =>
    match c.lanTarget with
    | some (.device deviceId) => some deviceId
    | _ => none

def runtimeConfigs : List RuntimeStaticNatMappingV4Config :=
  (configs.filter (·.enable)).filterMap (resolveStaticNatMappingV4Config devices)

theorem runtimeConfigs_filter :
    runtimeConfigs configs (devices.filter fun d => (deviceIds configs).contains d.id) =
      runtimeConfigs configs devices := by
  refine filterMap_congr fun c hc => ?_
  have hmem : c ∈ configs := (mem_filter.mp hc).1
  simp only [resolveStaticNatMappingV4Config, resolveStaticNatV4Target]
  split
  · rfl
  · rfl
  · rename_i deviceId htarget
    have hid : deviceId ∈ deviceIds configs := mem_filterMap.mpr ⟨c,hmem,by simp [htarget]⟩
    have hfind : (devices.filter fun d => (deviceIds configs).contains d.id).find?
        (fun d => d.id = deviceId) = devices.find? fun d => d.id = deviceId := by
      rw [find?_filter]
      congr 1
      funext d
      by_cases hd : d.id = deviceId
      · simp [hd, hid]
      · simp [hd]
    rw [hfind]
  · rfl

structure StaticNatMappingV4Item where
  wanPort : UInt16
  lanPort : UInt16
  lanIp : UInt32
  l4Protocol : UInt8
  deriving DecidableEq

abbrev StaticEntries := AList fun _ : MappingKey => StaticValue

def insertStaticNat4ItemEntries (entries : StaticEntries) (m : StaticNatMappingV4Item) :
    StaticEntries :=
  (entries.insert ⟨.ingress,m.l4Protocol,m.wanPort,0⟩ ⟨m.lanIp,m.lanPort⟩).insert
    ⟨.egress,m.l4Protocol,m.lanPort,m.lanIp⟩ ⟨0,m.wanPort⟩

def staticItems (configs : List RuntimeStaticNatMappingV4Config) : List StaticNatMappingV4Item :=
  configs.flatMap fun c => c.l4Protocols.flatMap fun proto =>
    c.mappingPairPorts.map fun pair => ⟨pair.wanPort,pair.lanPort,c.lanIpv4,proto⟩

def buildStaticNat4Entries (configs : List RuntimeStaticNatMappingV4Config) : StaticEntries :=
  (staticItems configs).foldl insertStaticNat4ItemEntries ∅

variable (m current desired : StaticEntries)

def deleteBatch (keys : List MappingKey) : StaticEntries :=
  keys.foldl (fun m k => m.erase k) m

def updateBatch (entries : List (MappingKey × StaticValue)) : StaticEntries :=
  entries.foldl (fun m e => m.insert e.1 e.2) m

theorem lookup_deleteBatch (keys : List MappingKey) (k : MappingKey) :
    (deleteBatch m keys).lookup k = if k ∈ keys then none else m.lookup k :=
  Table.lookup_eraseAll

theorem lookup_updateBatch (entries : List (MappingKey × StaticValue))
    (hnodup : (entries.map (·.1)).Nodup) (k : MappingKey) (v : StaticValue) :
    (updateBatch m entries).lookup k = some v ↔
      (k, v) ∈ entries ∨ (k ∉ entries.map (·.1) ∧ m.lookup k = some v) := by
  unfold updateBatch
  induction entries generalizing m with
  | nil => simp
  | cons e entries ih =>
    obtain ⟨x,y⟩ := e
    rw [map_cons, nodup_cons] at hnodup
    rw [foldl_cons, ih _ hnodup.2]
    by_cases hk : k = x
    · subst hk
      have hmem : (k, v) ∉ entries := fun h => hnodup.1 (mem_map.mpr ⟨_,h,rfl⟩)
      have hkeys : k ∉ entries.map (·.1) := hnodup.1
      simp [hmem, hkeys, eq_comm]
    · simp [hk, AList.lookup_insert_ne hk]

theorem upsertEntries_nodup : ((upsertEntries current desired).map (·.1)).Nodup := by
  have hkeys : ((desired.entries.map fun e => (e.1, e.2)).map (·.1)) = desired.keys := by
    rw [map_map]
    rfl
  have hnodup : desired.keys.Nodup := desired.keys_nodup
  rw [← hkeys] at hnodup
  exact hnodup.sublist ((filter_sublist).map _)

theorem lookup_reconcile (k : MappingKey) :
    (updateBatch (deleteBatch current (deleteKeys current desired))
      (upsertEntries current desired)).lookup k = desired.lookup k := by
  have hmem : ∀ x y, (x, y) ∈ upsertEntries current desired ↔
      desired.lookup x = some y ∧ current.lookup x ≠ some y := by
    intro x y
    simp only [upsertEntries, mem_filter, mem_map, decide_eq_true_eq]
    refine and_congr_left fun _ => ?_
    constructor
    · rintro ⟨⟨a,b⟩,he,heq⟩
      cases heq
      exact AList.mem_lookup_iff.mpr he
    · intro h
      exact ⟨⟨x,y⟩,AList.mem_lookup_iff.mp h,rfl⟩
  have hkeys : k ∈ deleteKeys current desired ↔ k ∈ current.keys ∧ desired.lookup k = none := by
    simp [deleteKeys]
  refine Option.ext fun v => ?_
  rw [lookup_updateBatch _ _ (upsertEntries_nodup current desired), hmem, lookup_deleteBatch]
  constructor
  · rintro (⟨h,-⟩ | ⟨hno,h⟩)
    · exact h
    · -- the entry was there before and is not touched, so it is the desired one
      split at h
      · cases h
      rename_i hdel
      have hcur : k ∈ current.keys := by
        rw [← AList.mem_keys, ← AList.lookup_isSome, h]
        rfl
      cases hd : desired.lookup k with
      | none => exact absurd (hkeys.mpr ⟨hcur,hd⟩) hdel
      | some y =>
        by_cases hy : y = v
        · rw [hy]
        · have hin := (hmem k y).mpr ⟨hd,by rw [h]; simpa using fun e => hy e.symm⟩
          exact absurd (mem_map.mpr ⟨_,hin,rfl⟩) hno
  · intro h
    by_cases hcur : current.lookup k = some v
    · refine .inr ⟨?_,by rw [if_neg (by simp [hkeys, h]), hcur]⟩
      intro hin
      obtain ⟨⟨x,y⟩,hxy,rfl⟩ := mem_map.mp hin
      obtain ⟨hy,hne⟩ := (hmem x y).mp hxy
      cases hy.symm.trans h
      exact hne hcur
    · exact .inl ⟨h,hcur⟩

end Landscape.Nat4
