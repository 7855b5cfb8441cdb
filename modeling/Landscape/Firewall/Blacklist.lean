import Landscape.Geo.Ip
import Landscape.Lib.Store
import Mathlib.Data.List.Dedup

/-! The firewall blacklist: every change of the stored lists, and every update of the geo data, is
brought to the block map as a difference. -/
namespace Landscape.Firewall
open Geo Route Store Function List

abbrev Uuid := BitVec 128

structure FirewallBlacklistConfig where
  id : Uuid
  enable : Bool
  source : List IpSource
  updateAt : Nat
  deriving DecidableEq

instance : Row Uuid FirewallBlacklistConfig where
  id := FirewallBlacklistConfig.id
  updateAt := FirewallBlacklistConfig.updateAt
  setUpdateAt c ts := { c with updateAt := ts }
  id_setUpdateAt _ _ := rfl
  updateAt_setUpdateAt _ _ := rfl

def resolveConfigs (geo : GeoData) (configs : List FirewallBlacklistConfig) : List IpConfig :=
  (configs.filter (·.enable)).flatMap fun c => c.source.flatMap (·.resolve geo)

variable {geo : GeoData}

theorem mem_resolveConfigs {configs : List FirewallBlacklistConfig} {ip : IpConfig} :
    ip ∈ resolveConfigs geo configs ↔
      ∃ c ∈ configs, c.enable = true ∧ ∃ src ∈ c.source, ip ∈ src.resolve geo := by
  simp [resolveConfigs, and_assoc]

abbrev BlockMap := IpNet → Bool

def addBlacklist : List IpConfig → BlockMap → Bool × BlockMap
  | [], m => (true, m)
  | ip :: ips, m => if ip.net.accepted then addBlacklist ips (update m ip.net true) else (false, m)

def deleteBlacklist : List IpConfig → BlockMap → Bool × BlockMap
  | [], m => (true, m)
  | ip :: ips, m => if m ip.net then deleteBlacklist ips (update m ip.net false) else (false, m)

def syncFamily (f : IpFamily) (toAdd toDel : List IpConfig) (m : BlockMap) : Bool × BlockMap :=
  let d := deleteBlacklist (toDel.filter fun ip => ip.ip.family = f) m
  let a := addBlacklist (toAdd.filter fun ip => ip.ip.family = f) d.2
  (d.1 && a.1, a.2)

def syncFirewallBlacklist (newIps oldIps : List IpConfig) (m : BlockMap) : Bool × BlockMap :=
  let toAdd := newIps.dedup.filter fun ip => ip ∉ oldIps
  let toDel := oldIps.dedup.filter fun ip => ip ∉ newIps
  let v4 := syncFamily .ipv4 toAdd toDel m
  let v6 := syncFamily .ipv6 toAdd toDel v4.2
  (v4.1 && v6.1, v6.2)

structure State where
  store : List FirewallBlacklistConfig
  geo : GeoData
  map : BlockMap

def resolveAndSyncBlacklist (newConfigs oldConfigs : List FirewallBlacklistConfig) (s : State) :
    Bool × State :=
  let r :=
    syncFirewallBlacklist (resolveConfigs s.geo newConfigs) (resolveConfigs s.geo oldConfigs) s.map
  (r.1, { s with map := r.2 })

inductive Event where
  | save (now : Nat) (configs : List FirewallBlacklistConfig)
  | delete (id : Uuid)
  | geoIpUpdated (geo : GeoData)

def step (s : State) : Event → Bool × State
  | .save now configs =>
    match checkedUpsertMany now s.store configs with
    | none => (true, s)
    | some (changes, rows) =>
      resolveAndSyncBlacklist (changes.map (·.new)) (changes.filterMap (·.old))
        { s with store := rows }
  | .delete id =>
    match deleteAndGet s.store id with
    | (none, _) => (true, s)
    | (some old, rows) => resolveAndSyncBlacklist [] [old] { s with store := rows }
  | .geoIpUpdated geo => resolveAndSyncBlacklist s.store [] { s with geo := geo }

def start (store : List FirewallBlacklistConfig) (geo : GeoData) : Bool × State :=
  resolveAndSyncBlacklist store [] ⟨store,geo,fun _ => false⟩

variable {m m' : BlockMap} {n : IpNet} {ips : List IpConfig}

theorem addBlacklist_map (h : addBlacklist ips m = (true, m')) :
    m' n = true ↔ (∃ ip ∈ ips, ip.net = n) ∨ m n = true := by
  induction ips generalizing m with
  | nil =>
    cases h
    simp
  | cons ip ips ih =>
    simp only [addBlacklist] at h
    split at h
    · rw [ih h]
      by_cases hn : n = ip.net
      · subst hn
        simp
      · simp [hn, Ne.symm hn]
    · cases h

theorem deleteBlacklist_map (h : deleteBlacklist ips m = (true, m')) :
    m' n = true ↔ m n = true ∧ ∀ ip ∈ ips, ip.net ≠ n := by
  induction ips generalizing m with
  | nil =>
    cases h
    simp
  | cons ip ips ih =>
    simp only [deleteBlacklist] at h
    split at h
    · rw [ih h]
      by_cases hn : n = ip.net
      · subst hn
        simp
      · simp [hn, Ne.symm hn]
    · cases h

theorem syncFamily_map {f : IpFamily} {toAdd toDel : List IpConfig}
    (h : syncFamily f toAdd toDel m = (true, m')) : m' n = true ↔ if n.family = f then
      (∃ ip ∈ toAdd, ip.net = n) ∨ (m n = true ∧ ∀ ip ∈ toDel, ip.net ≠ n) else m n = true := by
  simp only [syncFamily, Prod.mk.injEq, Bool.and_eq_true] at h
  obtain ⟨⟨hd,ha⟩,hm⟩ := h
  have hdel := deleteBlacklist_map (n := n) (Prod.ext hd rfl : deleteBlacklist _ m = (true, _))
  have hadd := addBlacklist_map (n := n) (Prod.ext ha hm : addBlacklist _ _ = (true, m'))
  rw [hadd, hdel]
  simp only [mem_filter, decide_eq_true_eq, ← family_net]
  split
  · rename_i hf
    constructor
    · rintro (⟨ip,⟨hip,-⟩,hn⟩ | ⟨hmn,hno⟩)
      · exact .inl ⟨ip,hip,hn⟩
      · exact .inr ⟨hmn,fun ip hip hn => hno ip ⟨hip,by rw [hn, hf]⟩ hn⟩
    · rintro (⟨ip,hip,hn⟩ | ⟨hmn,hno⟩)
      · exact .inl ⟨ip,⟨hip,by rw [hn, hf]⟩,hn⟩
      · exact .inr ⟨hmn,fun ip hip hn => hno ip hip.1 hn⟩
  · rename_i hf
    constructor
    · rintro (⟨ip,⟨-,hip⟩,rfl⟩ | ⟨hmn,-⟩)
      · exact absurd hip hf
      · exact hmn
    · intro hmn
      refine .inr ⟨hmn,?_⟩
      rintro ip ⟨-,hip⟩ rfl
      exact hf hip

/-- A sync whose operations succeed drops the networks that are only old and puts in those that are
only new. -/
theorem syncFirewallBlacklist_map {newIps oldIps : List IpConfig}
    (h : syncFirewallBlacklist newIps oldIps m = (true, m')) :
    m' n = true ↔ (∃ ip ∈ newIps, ip ∉ oldIps ∧ ip.net = n) ∨
      (m n = true ∧ ∀ ip ∈ oldIps, ip ∉ newIps → ip.net ≠ n) := by
  simp only [syncFirewallBlacklist, Prod.mk.injEq, Bool.and_eq_true] at h
  obtain ⟨⟨h4,h6⟩,hm⟩ := h
  rw [syncFamily_map (Prod.ext h6 hm), syncFamily_map (Prod.ext h4 rfl)]
  cases n <;> simp [IpNet.family, and_assoc]

variable {s s' : State} {news olds : List FirewallBlacklistConfig}

/-- An address is covered by an entry exactly if an enabled stored list contains it. -/
def BlocksConfigured (s : State) : Prop :=
  ∀ a : IpAddr, (∃ n, s.map n = true ∧ n.Contains a) ↔
    ∃ c ∈ s.store, c.enable = true ∧ ∃ src ∈ c.source, ∃ ip ∈ src.resolve s.geo, ip.net.Contains a

def Exact (s : State) : Prop :=
  ∀ n, s.map n = true ↔ ∃ ip ∈ resolveConfigs s.geo s.store, ip.net = n

theorem Exact.blocks (h : Exact s) : BlocksConfigured s := by
  intro a
  constructor
  · rintro ⟨n,hn,ha⟩
    obtain ⟨ip,hip,rfl⟩ := (h n).mp hn
    obtain ⟨c,hc,he,src,hsrc,hr⟩ := mem_resolveConfigs.mp hip
    exact ⟨c,hc,he,src,hsrc,ip,hr,ha⟩
  · rintro ⟨c,hc,he,src,hsrc,ip,hr,ha⟩
    exact ⟨ip.net,(h _).mpr ⟨ip,mem_resolveConfigs.mpr ⟨c,hc,he,src,hsrc,hr⟩,rfl⟩,ha⟩

/-- The ranges that go from the changed lists have networks of their own: a range of the lists as
they are stored afterwards has such a network only if the change brings it. -/
def Removable (geo : GeoData) (news olds rows : List FirewallBlacklistConfig) : Prop :=
  ∀ o ∈ resolveConfigs geo olds, o ∉ resolveConfigs geo news →
    ∀ x ∈ resolveConfigs geo rows, x.net = o.net →
      x ∈ resolveConfigs geo news ∧ x ∉ resolveConfigs geo olds

/-- A batch names every list once and drops removable ranges only, so does a deletion, and an update
of the geo data keeps every network that is blocked. -/
def Careful (s : State) : Event → Prop
  | .save now configs => (configs.map (·.id)).Nodup ∧
      ∀ changes rows, checkedUpsertMany now s.store configs = some (changes, rows) →
        Removable s.geo (changes.map (·.new)) (changes.filterMap (·.old)) rows
  | .delete id => ∀ old, find s.store id = some old →
      Removable s.geo [] [old] (s.store.filter fun c => c.id ≠ id)
  | .geoIpUpdated geo => ∀ x ∈ resolveConfigs s.geo s.store, ∃ y ∈ resolveConfigs geo s.store,
      y.net = x.net

theorem exact_sync {rows : List FirewallBlacklistConfig} (h : Exact s)
    (hnews : ∀ c ∈ news, c ∈ rows) (holds : ∀ c ∈ olds, c ∈ s.store)
    (hback : ∀ c ∈ rows, c ∈ s.store ∨ c ∈ news) (hkept : ∀ c ∈ s.store, c ∈ rows ∨ c ∈ olds)
    (hrem : Removable s.geo news olds rows)
    (hs : resolveAndSyncBlacklist news olds { s with store := rows } = (true, s')) : Exact s' := by
  simp only [resolveAndSyncBlacklist, Prod.mk.injEq] at hs
  obtain ⟨hok,rfl⟩ := hs
  have hmono : ∀ {as bs : List FirewallBlacklistConfig}, (∀ c ∈ as, c ∈ bs) →
      ∀ x ∈ resolveConfigs s.geo as, x ∈ resolveConfigs s.geo bs := by
    intro as bs hab x hx
    obtain ⟨c,hc,h'⟩ := mem_resolveConfigs.mp hx
    exact mem_resolveConfigs.mpr ⟨c,hab c hc,h'⟩
  have hsplit : ∀ {as bs cs : List FirewallBlacklistConfig}, (∀ c ∈ as, c ∈ bs ∨ c ∈ cs) →
      ∀ x ∈ resolveConfigs s.geo as, x ∈ resolveConfigs s.geo bs ∨ x ∈ resolveConfigs s.geo cs := by
    intro as bs cs hab x hx
    obtain ⟨c,hc,h'⟩ := mem_resolveConfigs.mp hx
    exact (hab c hc).imp (fun hc => mem_resolveConfigs.mpr ⟨c,hc,h'⟩)
      fun hc => mem_resolveConfigs.mpr ⟨c,hc,h'⟩
  intro n
  rw [syncFirewallBlacklist_map (Prod.ext hok rfl), h n]
  constructor
  · rintro (⟨ip,hip,-,hn⟩ | ⟨⟨ip,hip,hn⟩,hno⟩)
    · exact ⟨ip,hmono hnews ip hip,hn⟩
    · rcases hsplit hkept ip hip with hr | ho
      · exact ⟨ip,hr,hn⟩
      · -- an old range whose network stays is one of the new ranges
        by_cases hin : ip ∈ resolveConfigs s.geo news
        · exact ⟨ip,hmono hnews ip hin,hn⟩
        · exact absurd hn (hno ip ho hin)
  · rintro ⟨x,hx,hn⟩
    by_cases hgone : ∃ o ∈ resolveConfigs s.geo olds, o ∉ resolveConfigs s.geo news ∧ o.net = n
    · obtain ⟨o,ho,hno,hon⟩ := hgone
      obtain ⟨hxn,hxo⟩ := hrem o ho hno x hx (hn.trans hon.symm)
      exact .inl ⟨x,hxn,hxo,hn⟩
    · have hstay : ∀ o ∈ resolveConfigs s.geo olds, o ∉ resolveConfigs s.geo news → o.net ≠ n :=
        fun o ho hno hon => hgone ⟨o,ho,hno,hon⟩
      rcases hsplit hback x hx with hs | hxn
      · exact .inr ⟨⟨x,hs,hn⟩,hstay⟩
      · by_cases hxo : x ∈ resolveConfigs s.geo olds
        · exact .inr ⟨⟨x,hmono holds x hxo,hn⟩,hstay⟩
        · exact .inl ⟨x,hxn,hxo,hn⟩

structure Inv (s : State) : Prop where
  keyed : Keyed s.store
  exact : Exact s

theorem store_sync
    (hs : resolveAndSyncBlacklist news olds s = (true, s')) : s'.store = s.store := by
  simp only [resolveAndSyncBlacklist, Prod.mk.injEq] at hs
  rw [← hs.2]

theorem step_inv {e : Event} (h : Inv s) (hc : Careful s e) (hs : step s e = (true, s')) :
    Inv s' := by
  cases e with
  | save now configs =>
    simp only [step] at hs
    split at hs
    · cases hs
      exact h
    · rename_i changes rows hsave
      obtain ⟨hup,hkeyed⟩ := checkedUpsertMany_upserted hsave
      obtain ⟨hnews,holds,hkept⟩ := checkedUpsertMany_replaces hsave hc.1 h.keyed
      refine ⟨by rw [store_sync hs]; exact hkeyed h.keyed,
        exact_sync h.exact ?_ ?_ ?_ ?_ (hc.2 changes rows hsave) hs⟩
      · intro c hc
        obtain ⟨ch,hch,rfl⟩ := mem_map.mp hc
        exact hnews ch hch
      · intro c hc
        obtain ⟨ch,hch,ho⟩ := mem_filterMap.mp hc
        exact (holds ch hch c ho).1
      · intro c hc
        rcases hup.back c hc with hc | ⟨ch,hch,rfl⟩
        · exact .inl hc
        · exact .inr (mem_map.mpr ⟨ch,hch,rfl⟩)
      · intro c hc
        rcases hkept c hc with hc | ⟨ch,hch,ho⟩
        · exact .inl hc
        · exact .inr (mem_filterMap.mpr ⟨ch,hch,ho⟩)
  | delete id =>
    simp only [step, deleteAndGet] at hs
    cases hf : find s.store id with
    | none =>
      simp only [hf] at hs
      cases hs
      exact h
    | some old =>
      simp only [hf] at hs
      obtain ⟨hmem,hid⟩ := find_eq_some hf
      refine ⟨by rw [store_sync hs]; exact keyed_delete h.keyed,
        exact_sync h.exact (by simp) ?_ ?_ ?_ (hc old hf) hs⟩
      · intro c hc
        rw [mem_singleton.mp hc]
        exact hmem
      · intro c hc
        exact .inl (mem_filter.mp hc).1
      · intro c hc
        by_cases hcid : c.id = id
        · have : c = old := inj_on_of_nodup_map h.keyed hc hmem (hcid.trans hid.symm)
          exact .inr (by simp [this])
        · exact .inl (mem_filter.mpr ⟨hc,by simpa using hcid⟩)
  | geoIpUpdated geo =>
    simp only [step] at hs
    refine ⟨by rw [store_sync hs]; exact h.keyed,?_⟩
    simp only [resolveAndSyncBlacklist, Prod.mk.injEq] at hs
    obtain ⟨hok,rfl⟩ := hs
    intro n
    rw [syncFirewallBlacklist_map (Prod.ext hok rfl), h.exact n]
    constructor
    · rintro (⟨ip,hip,-,hn⟩ | ⟨⟨ip,hip,hn⟩,-⟩)
      · exact ⟨ip,hip,hn⟩
      · obtain ⟨y,hy,hyn⟩ := hc ip hip
        exact ⟨y,hy,hyn.trans hn⟩
    · rintro ⟨ip,hip,hn⟩
      exact .inl ⟨ip,hip,by simp [resolveConfigs],hn⟩

abbrev Runs (P : State → Event → Prop) : State → State → Prop :=
  Relation.ReflTransGen fun s s' => ∃ e, P s e ∧ step s e = (true, s')

theorem keyed_nil : Keyed ([] : List FirewallBlacklistConfig) := nodup_nil

theorem start_inv {store : List FirewallBlacklistConfig} (hk : Keyed store)
    (h : start store geo = (true, s)) : Inv s := by
  have hempty : Exact ⟨[],geo,fun _ => false⟩ := by simp [Exact, resolveConfigs]
  refine ⟨by rw [store_sync h]; exact hk,exact_sync hempty ?_ ?_ ?_ ?_ ?_ h⟩
  · exact fun c hc => hc
  · simp
  · exact fun c hc => .inr hc
  · simp
  · simp [Removable, resolveConfigs]

theorem runs_inv (h : Inv s) (hr : Runs Careful s s') : Inv s' := by
  induction hr with
  | refl => exact h
  | tail _ hstep ih =>
    obtain ⟨e,hc,hs⟩ := hstep
    exact step_inv ih hc hs

/-- In every run of careful operations the map blocks exactly what is configured. -/
theorem blocks_of_careful {store : List FirewallBlacklistConfig} {geo : GeoData} {s₀ : State}
    (hk : Keyed store) (h₀ : start store geo = (true, s₀)) (h : Runs Careful s₀ s) :
    BlocksConfigured s :=
  (runs_inv (start_inv hk h₀) h).exact.blocks

def stepsWithin (ok : State → Event → Bool) (s : State) : List Event → Option State
  | [] => some s
  | e :: es => if ok s e && (step s e).1 then stepsWithin ok (step s e).2 es else none

theorem runs_stepsWithin {P : State → Event → Prop} {ok : State → Event → Bool}
    (hok : ∀ s e, ok s e = true → P s e) {es : List Event} (h : stepsWithin ok s es = some s') :
    Runs P s s' := by
  induction es generalizing s with
  | nil =>
    cases h
    exact .refl
  | cons e es ih =>
    simp only [stepsWithin] at h
    split at h
    · rename_i hpass
      simp only [Bool.and_eq_true] at hpass
      exact .head ⟨e,hok s e hpass.1,Prod.ext hpass.2 rfl⟩ (ih h)
    · cases h

instance (geo : GeoData) (news olds rows : List FirewallBlacklistConfig) :
    Decidable (Removable geo news olds rows) := by
  unfold Removable
  infer_instance

def carefulCheck (s : State) : Event → Bool
  | .save now configs => decide (configs.map (·.id)).Nodup &&
      (checkedUpsertMany now s.store configs).all fun r =>
        decide (Removable s.geo (r.1.map (·.new)) (r.1.filterMap (·.old)) r.2)
  | .delete id => (find s.store id).all fun old =>
      decide (Removable s.geo [] [old] (s.store.filter fun c => c.id ≠ id))
  | .geoIpUpdated _ => false

theorem careful_of_check (s : State) (e : Event) (h : carefulCheck s e = true) : Careful s e := by
  cases e with
  | save now configs =>
    simp only [carefulCheck, Bool.and_eq_true, decide_eq_true_eq] at h
    refine ⟨h.1,fun changes rows hsave => ?_⟩
    simpa [hsave] using h.2
  | delete id =>
    intro old hf
    simpa [carefulCheck, hf] using h
  | geoIpUpdated geo => cases h

def sampleList (id : Uuid) (ip : UInt32) (len : UInt32) : FirewallBlacklistConfig :=
  ⟨id,true,[.config ⟨.v4 ip,len⟩],0⟩

def separateLists : List Event :=
  [.save 1 [sampleList 1 0x0a000000 8], .save 2 [sampleList 2 0x0b000000 8], .delete 1]

theorem blocks_sample : ∃ s, Runs Careful ⟨[],fun _ => [],fun _ => false⟩ s ∧
    s.map (.around 8 (.v4 0x0b000000)) = true ∧ BlocksConfigured s := by
  have hrun : (stepsWithin carefulCheck ⟨[],fun _ => [],fun _ => false⟩ separateLists).any
      (fun s => s.map (.around 8 (.v4 0x0b000000))) = true := by
    decide +kernel
  obtain ⟨s,hs,hmap⟩ := (Option.any_eq_true _ _).mp hrun
  have hruns := runs_stepsWithin careful_of_check hs
  exact ⟨s,hruns,hmap,blocks_of_careful keyed_nil rfl hruns⟩

def sharedRange : List Event :=
  [.save 1 [sampleList 1 0x0a000000 8], .save 2 [sampleList 2 0x0a000000 8]]

/-- When one of two lists that share a range is deleted, the other one is let through. -/
theorem blocks_fails : ¬∀ (store : List FirewallBlacklistConfig) (geo : GeoData) (s₀ s : State),
    Keyed store → start store geo = (true, s₀) → Runs (fun _ _ => True) s₀ s →
    BlocksConfigured s := by
  intro hall
  have hrun : (stepsWithin carefulCheck ⟨[],fun _ => [],fun _ => false⟩ sharedRange).any
      (fun s => s.store = [⟨1,true,(sampleList 1 0x0a000000 8).source,1⟩,
        ⟨2,true,(sampleList 2 0x0a000000 8).source,2⟩] && (step s (.delete 1)).1) = true := by
    decide +kernel
  obtain ⟨s,hs,hpost⟩ := (Option.any_eq_true _ _).mp hrun
  simp only [Bool.and_eq_true, decide_eq_true_eq] at hpost
  obtain ⟨hstore,hok⟩ := hpost
  have hexact := (runs_inv (start_inv keyed_nil rfl)
    (runs_stepsWithin careful_of_check hs)).exact
  have hruns : Runs (fun _ _ => True) ⟨[],fun _ => [],fun _ => false⟩ (step s (.delete 1)).2 :=
    (runs_stepsWithin (fun _ _ _ => trivial) hs).tail ⟨.delete 1,trivial,Prod.ext hok rfl⟩
  have hblocks := hall [] (fun _ => []) _ _ keyed_nil rfl hruns (.v4 0x0a000001)
  have hstep : step s (.delete 1) = resolveAndSyncBlacklist []
      [⟨1,true,(sampleList 1 0x0a000000 8).source,1⟩]
      { s with store := [⟨2,true,(sampleList 2 0x0a000000 8).source,2⟩] } := by
    simp [step, deleteAndGet, find, hstore, Row.id]
  -- the only entry was the shared range, and it is gone
  have hempty : ∀ n, (step s (.delete 1)).2.map n ≠ true := by
    intro n hn
    rw [hstep] at hok hn
    have hn' := (syncFirewallBlacklist_map (Prod.ext hok rfl)).mp hn
    simp only [hexact n, hstore] at hn'
    simp [resolveConfigs, sampleList, IpSource.resolve] at hn'
  obtain ⟨n,hn,-⟩ := hblocks.mpr ⟨⟨2,true,(sampleList 2 0x0a000000 8).source,2⟩,
    by rw [hstep]; exact mem_singleton_self _,rfl,_,mem_singleton_self _,
    _,mem_singleton_self _,by decide⟩
  exact hempty n hn

end Landscape.Firewall
