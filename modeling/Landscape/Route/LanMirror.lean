import Landscape.Route.Lan

/-! The prefix map mirrors the LAN routes. -/
namespace Landscape.Route
open Interleave Lpm Table Writeback Function List Option AList
variable {H : KeyOrder} {s s' : LanState} {t : Nat}

abbrev LanQueue := Queue LanKey LanValue

def LanRouteInfo.delWrite (r : LanRouteInfo) : LanKey × Option LanValue := (r.key, none)

def LanRouteInfo.addWrites (r : LanRouteInfo) : LanQueue :=
  match r.value with
  | none => []
  | some v => [(r.key, some v)]

def LanUpdate.writes : LanUpdate → LanQueue
  | .noop => []
  | .changed removed added => removed.map (·.delWrite) ++ added.addWrites

def looked (q : LanQueue) (r : Option LanValue) : LanQueue :=
  match q with
  | [] => []
  | w :: rest => if r = w.2 then rest else q

def recordLan (q : LanQueue) : (o : LanOp) → LanRes o → LanQueue
  | .upsertIpv4 _ _, r | .upsertIpv6 _ _, r => LanUpdate.writes r
  | .removeIpv4 _, r | .removeIpv6Iface _, r | .removeIpv6Key _, r =>
    map (fun x : LanRouteInfo => x.delWrite) r
  | .lookup _, r => looked q r
  | .update _ _, _ | .delete _, _ => q.tail

def lanMachine (H : KeyOrder) : Sys LanOp LanRes LanState LanQueue LanCall :=
  ⟨lanExec H,recordLan,fun c s => some (s, ⟨c.run,[]⟩)⟩

/- A call changes the routes before it has anything to write, and writes in the order queued. -/
def lanContract : Contract LanOp LanRes LanQueue where
  Allowed q
    | .lookup k => ∃ v rest, q = (k, v) :: rest
    | .update k v => ∃ rest, q = (k, some v) :: rest
    | .delete k => ∃ rest, q = (k, none) :: rest
    | _ => q = []
  Answers _ _ _ := True

abbrev LanKeeps (H : KeyOrder) (q' : LanQueue) (p : LanM Unit) (q : LanQueue) : Prop :=
  Meets (lanMachine H) lanContract (fun _ x => x = q') p q

theorem addLanRoute_keeps (info : LanRouteInfo) (rest : LanQueue) :
    LanKeeps H rest (addLanRoute info) (info.addWrites ++ rest) := by
  unfold addLanRoute LanRouteInfo.addWrites
  cases info.value with
  | none => exact .pure rfl
  | some v =>
    have hupdate : LanKeeps H rest (updateLan info.key v) ((info.key, some v) :: rest) :=
      .step ⟨rest,rfl⟩ fun _ _ => rfl
    refine .step ⟨some v,rest,rfl⟩ fun r _ => ?_
    match r with
    | none => exact hupdate
    | some existing =>
      show Meets _ _ _ (if existing = v then pure () else _)
        (looked ((info.key, some v) :: rest) (some existing))
      by_cases he : existing = v
      · rw [if_pos he, looked, if_pos (congrArg some he)]
        exact .pure rfl
      · rw [if_neg he, looked, if_neg (mt some.inj he)]
        exact hupdate

theorem delLanRoute_keeps (info : LanRouteInfo) (rest : LanQueue) :
    LanKeeps H rest (delLanRoute info) (info.delWrite :: rest) := by
  refine .step ⟨none,rest,rfl⟩ fun r _ => ?_
  match r with
  | none => rfl
  | some existing => exact .step ⟨rest,rfl⟩ fun _ _ => rfl

theorem syncRemovedLanRoutes_keeps (routes : List LanRouteInfo) (rest : LanQueue) :
    LanKeeps H rest (syncRemovedLanRoutes routes) (routes.map (·.delWrite) ++ rest) := by
  induction routes with
  | nil => rfl
  | cons route routes ih =>
    refine (delLanRoute_keeps route _).call ?_
    rintro _ _ rfl
    exact ih

theorem syncLanUpdate_keeps (u : LanUpdate) : LanKeeps H [] (syncLanUpdate u) u.writes := by
  cases u with
  | noop => rfl
  | changed removed added =>
    refine (syncRemovedLanRoutes_keeps removed _).call ?_
    rintro _ _ rfl
    simpa using addLanRoute_keeps added []

/-- Every call writes to the map exactly what its change of the routes calls for. -/
theorem lanCall_keeps (c : LanCall) : LanKeeps H [] c.run [] := by
  have hremoved : ∀ r : List LanRouteInfo,
      LanKeeps H [] (syncRemovedLanRoutes r) (r.map (·.delWrite)) := by
    intro r
    simpa using syncRemovedLanRoutes_keeps (H := H) r []
  cases c with
  | insertIpv4 owner info => exact .step rfl fun r _ => syncLanUpdate_keeps r
  | removeIpv4 owner => exact .step rfl fun r _ => hremoved r
  | insertIpv6 key info => exact .step rfl fun r _ => syncLanUpdate_keeps r
  | removeIpv6 ifaceName | removeIpv6ByKey key => exact .step rfl fun r _ => hremoved r

inductive Holder where
  | owner (name : String)
  | key (k : LanIPv6RouteKey)

def LanState.Holds (s : LanState) : Holder → LanRouteInfo → Prop
  | .owner name, r => ∃ bucket, s.ipv4.lookup name = some bucket ∧ r ∈ bucket
  | .key k, r => s.ipv6.lookup k = some r

/-- The entry of a prefix is that of one of its routes, and there is none without a route. -/
def LanRight (s : LanState) (k : LanKey) : Option LanValue → Prop
  | some v => ∃ h r, s.Holds h r ∧ r.key = k ∧ r.value = some v
  | none => ∀ h r, s.Holds h r → r.key ≠ k

theorem lanRight_map (m : LanMap) : LanRight { s with map := m } = LanRight s := by
  funext k v
  cases v <;> rfl

def LanMirrors (s : LanState) : Prop := ∀ k, LanRight s k (s.map k)

theorem sameBits_iff {w : Nat} (p : Nat) (a b : BitVec w) : (p = 0 ∨ if w ≤ p then a = b
      else a &&& (BitVec.allOnes w <<< (w - p)) = b &&& (BitVec.allOnes w <<< (w - p))) ↔
      Net.around p a = Net.around p b := by
  rcases Nat.eq_zero_or_pos p with rfl | hp
  · exact iff_of_true (.inl rfl) around_zero
  · rw [or_iff_right (by omega), around_eq_iff]
    split
    · rename_i hw
      rw [Nat.sub_eq_zero_of_le hw]
      simp
    · rw [and_mask_eq_iff]

theorem isSameSubnet_iff (r x : LanRouteInfo) : r.isSameSubnet x = true ↔ r.key = x.key := by
  obtain ⟨_,_,a,_,p,_⟩ := r
  obtain ⟨_,_,b,_,p',_⟩ := x
  by_cases hp : p = p'
  · subst hp
    have hzero : p = 0 ↔ p.toNat = 0 := by rw [← UInt8.toNat_inj]; rfl
    have h32 : (32 ≤ p) ↔ 32 ≤ p.toNat := UInt8.le_iff_toNat_le
    have h128 : (128 ≤ p) ↔ 128 ≤ p.toNat := UInt8.le_iff_toNat_le
    cases a with
    | v4 a =>
      cases b with
      | v4 b =>
        have hab : a = b ↔ a.toBitVec = b.toBitVec := UInt32.toBitVec_inj.symm
        have := sameBits_iff p.toNat a.toBitVec b.toBitVec
        simp only [LanRouteInfo.isSameSubnet, LanRouteInfo.key, IpNet.around,
          IpNet.v4.injEq, ← this]
        simp [hzero, h32, hab]
      | v6 b => simp [LanRouteInfo.isSameSubnet, LanRouteInfo.key, IpNet.around]
    | v6 a =>
      cases b with
      | v4 b => simp [LanRouteInfo.isSameSubnet, LanRouteInfo.key, IpNet.around]
      | v6 b =>
        have := sameBits_iff p.toNat a b
        simp only [LanRouteInfo.isSameSubnet, LanRouteInfo.key, IpNet.around,
          IpNet.v6.injEq, ← this]
        simp [hzero, h128]
  · have hlen : p.toNat ≠ p'.toNat := fun h => hp (UInt8.toNat_inj.mp h)
    cases a <;> cases b <;>
      simp [LanRouteInfo.isSameSubnet, LanRouteInfo.key, IpNet.around, Net.around, hp, hlen]

def FreeOf (logs : Nat → Option LanQueue) (k : LanKey) : Prop :=
  ∀ u q, logs u = some q → ¬Queue.Touches q k

structure LanChange (s s' : LanState) (removed : List LanRouteInfo) (added : Option LanRouteInfo) :
    Prop where
  old : ∀ h r, s'.Holds h r → added = some r ∨ s.Holds h r
  kept : ∀ h r, s.Holds h r → s'.Holds h r ∨ r ∈ removed
  new : ∀ i, added = some i → ∃ h, s'.Holds h i

def changeWrites (removed : List LanRouteInfo) (added : Option LanRouteInfo) : LanQueue :=
  removed.map (·.delWrite) ++ (added.map (·.addWrites)).getD []

variable {removed : List LanRouteInfo} {added : Option LanRouteInfo} {k : LanKey}
  {i r info : LanRouteInfo} {v : LanValue} {owner : String} {bucket : List LanRouteInfo}
  {key : LanIPv6RouteKey} {D : Holder → Prop}

theorem mem_changeWrites {w : LanKey × Option LanValue} : w ∈ changeWrites removed added ↔
    (∃ r ∈ removed, r.delWrite = w) ∨ ∃ i, added = some i ∧ ∃ v, i.value = some v ∧
    (i.key, some v) = w := by
  rw [changeWrites, mem_append, List.mem_map]
  refine or_congr_right ?_
  cases added with
  | none => simp
  | some i => cases hv : i.value <;> simp [LanRouteInfo.addWrites, hv, eq_comm]

theorem touches_changeWrites (h : (changeWrites removed added).Touches k) :
    (∃ r ∈ removed, r.key = k) ∨ ∃ i, added = some i ∧ i.key = k := by
  obtain ⟨w,hw,rfl⟩ := h
  obtain ⟨r,hr,rfl⟩ | ⟨i,hi,v,-,rfl⟩ := mem_changeWrites.mp hw
  · exact .inl ⟨r,hr,rfl⟩
  · exact .inr ⟨i,hi,rfl⟩

theorem replay_added (hv : i.value = some v) (m : LanMap) :
    replay (changeWrites removed (some i)) m i.key = some v := by
  simp [changeWrites, replay_append, LanRouteInfo.addWrites, hv, replay]

theorem replay_removed (ht : (changeWrites removed added).Touches k)
    (hne : ∀ i, added = some i → i.key ≠ k) (m : LanMap) :
    replay (changeWrites removed added) m k = none := by
  refine replay_of_all ht ?_ m
  intro w hw hk
  obtain ⟨r,-,rfl⟩ | ⟨i,hi,v,-,rfl⟩ := mem_changeWrites.mp hw
  · rfl
  · exact absurd hk (hne i hi)

/-- A change whose prefixes nobody else is writing, and which drops a prefix only with its last
route or for a new one, is owed to the map by its queue alone. -/
theorem lan_change {logs : Nat → Option LanQueue} (removed : List LanRouteInfo)
    (added : Option LanRouteInfo) (h : Pending (LanRight s) s.map logs) (ht : logs t = some [])
    (hc : LanChange s s' removed added) (hm : s'.map = s.map)
    (hadd : ∀ i, added = some i → i.value.isSome ∧ FreeOf logs i.key)
    (hrem : ∀ r ∈ removed, FreeOf logs r.key ∧
      ((∃ i, added = some i ∧ i.key = r.key) ∨ ∀ h' r', s'.Holds h' r' → r'.key ≠ r.key)) :
    Pending (LanRight s') s'.map (update logs t (some (changeWrites removed added))) := by
  rw [hm]
  refine h.change (by simp [ht]) ?_ ?_ ?_
  · rintro _ ⟨⟩ k hk
    rcases touches_changeWrites hk with ⟨r,hr,rfl⟩ | ⟨i,hi,rfl⟩
    · exact (hrem r hr).1
    · exact (hadd i hi).2
  · rintro _ ⟨⟩ k hk
    by_cases hnew : ∃ i, added = some i ∧ i.key = k
    · obtain ⟨i,rfl,rfl⟩ := hnew
      obtain ⟨v,hv⟩ := isSome_iff_exists.mp (hadd i rfl).1
      obtain ⟨h',hh⟩ := hc.new i rfl
      rw [replay_added hv]
      exact ⟨h',i,hh,rfl,hv⟩
    · rw [replay_removed hk fun i hi hik => hnew ⟨i,hi,hik⟩]
      rcases touches_changeWrites hk with ⟨r,hr,rfl⟩ | hi
      · exact (hrem r hr).2.resolve_left hnew
      · exact absurd hi hnew
  · intro k v hno hv
    have hk := hno _ rfl
    have hkept : ∀ h' r, s.Holds h' r → r.key = k → s'.Holds h' r := by
      intro h' r hr hrk
      rcases hc.kept h' r hr with hr' | hr'
      · exact hr'
      · exact absurd ⟨_,mem_changeWrites.mpr (.inl ⟨r,hr',rfl⟩),hrk⟩ hk
    cases v with
    | some v =>
      obtain ⟨h',r,hr,hrk,hrv⟩ := hv
      exact ⟨h',r,hkept h' r hr hrk,hrk,hrv⟩
    | none =>
      intro h' r hr hrk
      rcases hc.old h' r hr with hr' | hr'
      · obtain ⟨v,hrv⟩ := isSome_iff_exists.mp (hadd r hr').1
        exact hk ⟨_,mem_changeWrites.mpr (.inr ⟨r,hr',v,hrv,rfl⟩),hrk⟩
      · exact hv h' r hr' hrk

theorem holds_insertIpv4 {h : Holder} :
    LanState.Holds { s with ipv4 := s.ipv4.insert owner bucket } h r ↔
      h = .owner owner ∧ r ∈ bucket ∨ h ≠ .owner owner ∧ s.Holds h r := by
  cases h with
  | owner name =>
    obtain rfl | hn := eq_or_ne name owner
    · simp [LanState.Holds]
    · simp [LanState.Holds, hn, lookup_insert_ne hn]
  | key k => simp [LanState.Holds]

theorem mem_bucket : r ∈ (s.ipv4.lookup owner).getD [] ↔ s.Holds (.owner owner) r := by
  cases hl : s.ipv4.lookup owner <;> simp [LanState.Holds, hl]

theorem upsertIpv4_change
    (h : reconcileIpv4LanBucket ((s.ipv4.lookup owner).getD []) info =
      (.changed removed i, bucket)) :
    i = info ∧ ¬s.Holds (.owner owner) info ∧ (∀ r ∈ removed, r.key = info.key) ∧
      LanChange s { s with ipv4 := s.ipv4.insert owner bucket } removed (some info) := by
  unfold reconcileIpv4LanBucket at h
  split at h
  · cases h
  rename_i hnew
  simp only [Prod.mk.injEq, LanUpdate.changed.injEq] at h
  obtain ⟨⟨rfl,rfl⟩,rfl⟩ := h
  refine ⟨rfl,?_,?_,?_,?_,?_⟩
  · exact fun hold => hnew (contains_iff_mem.mpr (mem_bucket.mpr hold))
  · intro r hr
    exact (isSameSubnet_iff r info).mp (mem_filter.mp hr).2
  · intro h r hr
    obtain ⟨rfl,hin⟩ | ⟨-,hold⟩ := holds_insertIpv4.mp hr
    · obtain hin | hin := mem_append.mp hin
      · exact .inr (mem_bucket.mp (mem_filter.mp hin).1)
      · exact .inl (congrArg some (mem_singleton.mp hin).symm)
    · exact .inr hold
  · intro h r hr
    by_cases hh : h = .owner owner
    · subst hh
      have hmem := mem_bucket.mpr hr
      cases hsame : r.isSameSubnet info with
      | true => exact .inr (mem_filter.mpr ⟨hmem,hsame⟩)
      | false => exact .inl (holds_insertIpv4.mpr (.inl ⟨rfl,by simp [hmem, hsame]⟩))
    · exact .inl (holds_insertIpv4.mpr (.inr ⟨hh,hr⟩))
  · rintro i ⟨⟩
    exact ⟨.owner owner,holds_insertIpv4.mpr (.inl ⟨rfl,by simp⟩)⟩

theorem upsertIpv6_change :
    LanChange s { s with ipv6 := s.ipv6.insert key info }
    (s.ipv6.lookup key).toList (some info) := by
  refine ⟨?_,?_,?_⟩
  · rintro (name | k) r hr
    · exact .inr hr
    · rcases of_lookup_insert hr with ⟨-,rfl⟩ | ⟨-,hr⟩
      · exact .inl rfl
      · exact .inr hr
  · rintro (name | k) r hr
    · exact .inl hr
    · by_cases hk : k = key
      · subst hk
        exact .inr (by simpa [LanState.Holds] using hr)
      · exact .inl (by simpa [LanState.Holds, lookup_insert_ne hk] using hr)
  · rintro i ⟨⟩
    exact ⟨.key key,by simp [LanState.Holds]⟩

structure Drops (s s' : LanState) (D : Holder → Prop) (removed : List LanRouteInfo) : Prop where
  holds : ∀ h r, s'.Holds h r ↔ s.Holds h r ∧ ¬D h
  removed : ∀ r, r ∈ removed ↔ ∃ h, D h ∧ s.Holds h r
  map : s'.map = s.map

theorem Drops.change (h : Drops s s' D removed) : LanChange s s' removed none := by
  refine ⟨fun h' r hr => .inr ((h.holds h' r).mp hr).1,fun h' r hr => ?_,by simp⟩
  by_cases hD : D h'
  · exact .inr ((h.removed r).mpr ⟨h',hD,hr⟩)
  · exact .inl ((h.holds h' r).mpr ⟨hr,hD⟩)

theorem removeIpv4_drops : Drops s { s with ipv4 := s.ipv4.erase owner } (· = .owner owner)
      ((s.ipv4.lookup owner).getD []) := by
  refine ⟨?_,?_,rfl⟩
  · rintro (name | k) r
    · by_cases hn : name = owner
      · subst hn
        simp [LanState.Holds]
      · simp [LanState.Holds, lookup_erase_ne hn, hn]
    · simp [LanState.Holds]
  · simp [mem_bucket]

theorem removeIpv6Key_drops :
    Drops s { s with ipv6 := s.ipv6.erase key } (· = .key key) (s.ipv6.lookup key).toList := by
  refine ⟨?_,?_,rfl⟩
  · rintro (name | k) r
    · simp [LanState.Holds]
    · by_cases hk : k = key
      · subst hk
        simp [LanState.Holds]
      · simp [LanState.Holds, lookup_erase_ne hk, hk]
  · intro r
    simp [LanState.Holds]

/- One key after the other is taken out; `ks` is what is left of the list of keys. -/
theorem foldl_remove {ks : List LanIPv6RouteKey}
    (acc : List LanRouteInfo × AList fun _ : LanIPv6RouteKey => LanRouteInfo) :
    let res := ks.foldl (fun acc k =>
      match acc.2.lookup k with
      | some route => (acc.1 ++ [route], acc.2.erase k)
      | none => acc) acc
    (∀ k r, res.2.lookup k = some r ↔ acc.2.lookup k = some r ∧ k ∉ ks) ∧
      ∀ r, r ∈ res.1 ↔ r ∈ acc.1 ∨ ∃ k ∈ ks, acc.2.lookup k = some r := by
  induction ks generalizing acc with
  | nil => simp
  | cons k ks ih =>
    simp only [foldl_cons]
    cases hl : acc.2.lookup k with
    | none =>
      obtain ⟨h1,h2⟩ := ih acc
      refine ⟨fun x r => (h1 x r).trans ?_,fun r => (h2 r).trans ?_⟩
      · obtain rfl | hx := eq_or_ne x k <;> simp [*]
      · simp [hl]
    | some route =>
      obtain ⟨h1,h2⟩ := ih (acc.1 ++ [route], acc.2.erase k)
      refine ⟨fun x r => (h1 x r).trans ?_,fun r => (h2 r).trans ?_⟩
      · obtain rfl | hx := eq_or_ne x k
        · simp
        · simp [hx, lookup_erase_ne hx]
      · simp only [mem_append, mem_singleton]
        constructor
        · rintro ((hr | rfl) | ⟨x,hx,hr⟩)
          · exact .inl hr
          · exact .inr ⟨k,mem_cons_self,hl⟩
          · exact .inr ⟨x,mem_cons_of_mem _ hx,(of_lookup_erase hr).2⟩
        · rintro (hr | ⟨x,hx,hr⟩)
          · exact .inl (.inl hr)
          · by_cases hxk : x = k
            · subst hxk
              exact .inl (.inr (some.inj (hr.symm.trans hl)))
            · have hmem : x ∈ ks := (mem_cons.mp hx).resolve_left hxk
              exact .inr ⟨x,hmem,by rwa [lookup_erase_ne hxk]⟩

theorem removeIpv6Iface_drops (ifaceName : String) :
    Drops s { s with ipv6 := (removeIpv6LanRoutesForIface H s.ipv6 ifaceName).2 }
      (fun h => ∃ k, h = .key k ∧ k.ifaceName = ifaceName)
      (removeIpv6LanRoutesForIface H s.ipv6 ifaceName).1 := by
  obtain ⟨h1,h2⟩ := foldl_remove ([], s.ipv6)
  have hkeys : ∀ k r, s.ipv6.lookup k = some r → k ∈ H.keys s.ipv6 := by
    intro k r hr
    rw [H.mem_keys, ← lookup_isSome, hr]
    rfl
  refine ⟨?_,?_,rfl⟩
  · rintro (name | k) r
    · simp [LanState.Holds]
    · refine (h1 k r).trans (and_congr_right fun hr => not_congr ?_)
      simp [hkeys k r hr]
  · intro r
    refine (h2 r).trans ?_
    constructor
    · rintro (hr | ⟨k,hk,hr⟩)
      · cases hr
      · exact ⟨.key k,⟨k,rfl,by simpa using (mem_filter.mp hk).2⟩,hr⟩
    · rintro ⟨_,⟨k,rfl,hn⟩,hr⟩
      exact .inr ⟨k,mem_filter.mpr ⟨hkeys k r hr,by simpa using hn⟩,hr⟩

/- The holders in `D` let go of prefixes that nobody is writing and nobody else holds. -/
def LastHolders (s : LanState) (logs : Nat → Option LanQueue) (D : Holder → Prop) : Prop :=
  ∀ h r, D h → s.Holds h r →
    FreeOf logs r.key ∧ ∀ h' r', s.Holds h' r' → r'.key = r.key → D h'

def lanSucceeds : LanOp → Bool
  | .lookup k | .update k _ | .delete k => k.accepted
  | _ => true

def succeedingSchedule : Schedule LanOp LanState LanQueue LanCall :=
  ⟨fun _ _ => True,fun _ _ _ o => lanSucceeds o = true⟩

/-- Routes change only for prefixes whose earlier writes are done, a route that goes was the only
one of its prefix, and no shorter prefix around a new one carries the same value. An insertion of a
route that is there changes nothing and may come at any time. -/
def soleSchedule : Schedule LanOp LanState LanQueue LanCall where
  starts _ _ := True
  acts s logs t o := lanSucceeds o = true ∧
    match o with
    | .upsertIpv4 owner info =>
      s.Holds (.owner owner) info ∨ info.value.isSome ∧ FreeOf logs info.key
    | .upsertIpv6 key info =>
      s.Holds (.key key) info ∨ (info.value.isSome ∧ FreeOf logs info.key) ∧
        ∀ old, s.Holds (.key key) old → FreeOf logs old.key ∧
          (old.key = info.key ∨ ∀ h r, s.Holds h r → r.key = old.key → h = .key key)
    | .removeIpv4 owner => LastHolders s logs (· = .owner owner)
    | .removeIpv6Iface ifaceName =>
      LastHolders s logs (fun h => ∃ k, h = .key k ∧ k.ifaceName = ifaceName)
    | .removeIpv6Key key => LastHolders s logs (· = .key key)
    | .lookup k => ∀ v rest, logs t = some ((k, some v) :: rest) → s.map k = none →
        s.map.get k ≠ some v
    | _ => True

section Step
variable {logs : Nat → Option LanQueue}

theorem lan_drop {removed : List LanRouteInfo} (h : Pending (LanRight s) s.map logs)
    (ht : logs t = some []) (hd : Drops s s' D removed) (hl : LastHolders s logs D) :
    Pending (LanRight s') s'.map (update logs t (some (removed.map (·.delWrite)))) := by
  have hq : removed.map (·.delWrite) = changeWrites removed none := by simp [changeWrites]
  rw [hq]
  refine lan_change _ none h ht hd.change hd.map (by simp) ?_
  intro r hr
  obtain ⟨h',hD,hold⟩ := (hd.removed r).mp hr
  obtain ⟨hfree,hlast⟩ := hl h' r hD hold
  refine ⟨hfree,.inr fun h'' r'' hr'' hk => ?_⟩
  obtain ⟨hr'',hD''⟩ := (hd.holds h'' r'').mp hr''
  exact hD'' (hlast h'' r'' hr'' hk)

theorem get_of_some {m : LanMap} {k : LanKey} (hk : k.accepted = true)
    (h : m k = some v) : m.get k = some v := by
  unfold LanMap.get
  rw [if_pos hk]
  cases k with
  | v4 n => exact lookup_of_some (m := fun n => m (.v4 n)) h
  | v6 n => exact lookup_of_some (m := fun n => m (.v6 n)) h

theorem map_of_looked {k : LanKey} {v : Option LanValue} (hk : k.accepted = true)
    (hno : ∀ x, v = some x → s.map k = none → s.map.get k ≠ some x) (h : s.map.get k = v) :
    s.map k = v := by
  cases hm : s.map k with
  | some x => rw [← h, get_of_some hk hm]
  | none =>
    cases v with
    | none => rfl
    | some x => exact absurd h (hno x rfl hm)

theorem lan_upsertIpv4 (h : Pending (LanRight s) s.map logs)
    (ht : logs t = some [])
    (hv : s.Holds (.owner owner) info ∨ info.value.isSome ∧ FreeOf logs info.key) :
    let r := reconcileIpv4LanBucket ((s.ipv4.lookup owner).getD []) info
    Pending (LanRight { s with ipv4 := s.ipv4.insert owner r.2 }) s.map
      (update logs t (some r.1.writes)) := by
  intro r
  cases hr : r.1 with
  | noop =>
    have hsame : r.2 = (s.ipv4.lookup owner).getD [] := by
      simp only [r, reconcileIpv4LanBucket] at hr ⊢
      split at hr
      · simp_all
      · cases hr
    refine lan_change [] none h ht ?_ rfl (by simp) (by simp)
    have hiff : ∀ h' x, LanState.Holds { s with ipv4 := s.ipv4.insert owner r.2 } h' x ↔
        s.Holds h' x := by
      intro h' x
      rw [holds_insertIpv4, hsame, mem_bucket]
      by_cases hh : h' = .owner owner <;> simp [hh]
    exact ⟨fun h' x hx => .inr ((hiff h' x).mp hx),fun h' x hx => .inl ((hiff h' x).mpr hx),by simp⟩
  | changed removed i =>
    obtain ⟨rfl,hnew,hkeys,hc⟩ := upsertIpv4_change
      (show reconcileIpv4LanBucket ((s.ipv4.lookup owner).getD []) info =
        (.changed removed i, r.2) by
        rw [← hr])
    have hfree := hv.resolve_left hnew
    refine lan_change _ (some i) h ht hc rfl ?_ ?_
    · rintro x ⟨⟩
      exact hfree
    · intro x hx
      rw [hkeys x hx]
      exact ⟨hfree.2,.inl ⟨i,rfl,rfl⟩⟩

theorem lan_upsertIpv6
    (h : Pending (LanRight s) s.map logs) (ht : logs t = some []) (hv : info.value.isSome)
    (hfree : FreeOf logs info.key) (hold : ∀ old, s.Holds (.key key) old → FreeOf logs old.key ∧
      (old.key = info.key ∨ ∀ h r, s.Holds h r → r.key = old.key → h = .key key)) :
    Pending (LanRight { s with ipv6 := s.ipv6.insert key info }) s.map
      (update logs t (some (LanUpdate.changed (s.ipv6.lookup key).toList info).writes)) := by
  refine lan_change _ (some info) h ht upsertIpv6_change rfl ?_ ?_
  · rintro x ⟨⟩
    exact ⟨hv,hfree⟩
  · intro x hx
    have hx' : s.Holds (.key key) x := by simpa [LanState.Holds] using hx
    obtain ⟨hf,hor⟩ := hold x hx'
    refine ⟨hf,?_⟩
    by_cases hk : info.key = x.key
    · exact .inl ⟨info,rfl,hk⟩
    · right
      -- another holder of the prefix would be the key itself, which now has the new route
      intro h' r' hr' hr'k
      rcases upsertIpv6_change.old h' r' hr' with hi | hs
      · cases hi
        exact hk hr'k
      · have hh := hor.resolve_left (fun e => hk e.symm) h' r' hs hr'k
        subst hh
        have : info = r' := by simpa [LanState.Holds] using hr'
        exact hk (this ▸ hr'k)

end Step

theorem lan_outline : Outline (lanMachine H) lanContract soleSchedule (· = [])
    (fun s logs => Pending (LanRight s) s.map logs) where
  start s logs t e s' th h ht _ hl := by
    cases hl
    exact ⟨h.start ht,lanCall_keeps e⟩
  act s logs t q o h ht ha hc := by
    refine ⟨trivial,?_⟩
    cases o with
    | upsertIpv4 owner info =>
      cases hc
      exact lan_upsertIpv4 h ht ha.2
    | removeIpv4 owner =>
      cases hc
      exact lan_drop h ht removeIpv4_drops ha.2
    | upsertIpv6 key info =>
      cases hc
      simp only [lanMachine, lanExec]
      split
      · have hsame : update logs t (some []) = logs := by rw [← ht, update_eq_self]
        exact hsame.symm ▸ h
      · rename_i hnew
        obtain ⟨⟨hv,hfree⟩,hold⟩ := ha.2.resolve_left hnew
        exact lan_upsertIpv6 h ht hv hfree hold
    | removeIpv6Iface ifaceName =>
      cases hc
      exact lan_drop h ht (removeIpv6Iface_drops ifaceName) ha.2
    | removeIpv6Key key =>
      cases hc
      exact lan_drop h ht removeIpv6Key_drops ha.2
    | lookup k =>
      obtain ⟨v,rest,rfl⟩ := hc
      show Pending (LanRight s) s.map (update logs t (some (looked ((k, v) :: rest) (s.map.get k))))
      by_cases hv : s.map.get k = v
      · have hmap := map_of_looked ha.1 (fun x hx => by subst hx; exact ha.2 x rest ht) hv
        simpa [looked, hv] using h.skip ht hmap
      · have : update logs t (some ((k, v) :: rest)) = logs := by rw [← ht, update_eq_self]
        simpa [looked, hv, this] using h
    | update k v =>
      obtain ⟨rest,rfl⟩ := hc
      have hset : s.map.set k (some v) = update s.map k (some v) := if_pos ha.1
      simpa [lanMachine, lanExec, recordLan, hset, lanRight_map] using h.write ht
    | delete k =>
      obtain ⟨rest,rfl⟩ := hc
      have hset : s.map.set k none = update s.map k none := if_pos ha.1
      simpa [lanMachine, lanExec, recordLan, hset, lanRight_map] using h.write ht
  finish s logs t q h ht hfin := by
    subst hfin
    exact h.finish ht

/-- In every run that keeps to the schedule the map mirrors the routes once all calls have
returned. -/
theorem lan_mirrors_of_sole {H : KeyOrder} {c : Config LanOp LanRes LanState LanQueue}
    (h : Reach (lanMachine H) soleSchedule ⟨.empty,fun _ => none⟩ c)
    (hidle : ∀ t, c.threads t = none) : LanMirrors c.shared := by
  have hempty : Pending (LanRight .empty) LanState.empty.map fun _ => none := by
    refine ⟨by simp,by simp,fun k _ => ?_⟩
    rintro (name | key) r hr
    · obtain ⟨b,hb,-⟩ := hr
      cases hb
    · cases hr
  have hinv := lan_outline.reach hempty h
  exact hinv.quiet fun t => by simp [logsOf, hidle t]

def KeyOrder.stored : KeyOrder := ⟨fun m => m.keys,fun _ _ => Iff.rfl⟩

def sampleLan : LanRouteInfo := ⟨3,"br_lan",.v4 0x0a000001,none,24,.reachable⟩

def sampleDocker : LanRouteInfo := ⟨4,"docker0",.v4 0x0a000001,none,24,.reachable⟩

def lanRun (t : Nat) (call : LanCall) (n : Nat) : List (Label LanCall) :=
  .start t call :: (replicate n (.act t) ++ [.finish t])

def freeCheck (logs : Nat → Option LanQueue) (k : LanKey) : Bool :=
  (range 2).all fun u => (logs u).all fun q => q.all fun w => w.1 ≠ k

theorem free_of_check {logs : Nat → Option LanQueue} (hlogs : ∀ u, 2 ≤ u → logs u = none)
    (h : freeCheck logs k = true) : FreeOf logs k := by
  rintro u q hq ⟨w,hw,rfl⟩
  have hu : u < 2 := by
    by_contra hu
    simp [hlogs u (by omega)] at hq
  simp only [freeCheck, List.all_eq_true, List.mem_range] at h
  have := h u hu
  simp only [hq, Option.all_some, List.all_eq_true] at this
  simpa using this w hw

def soleCheck (s : LanState) (logs : Nat → Option LanQueue) (_ : Nat) (o : LanOp) : Bool :=
  lanSucceeds o &&
    match o with
    | .upsertIpv4 _ info => info.value.isSome && freeCheck logs info.key
    | .lookup k => (s.map k).isSome || (s.map.get k).isNone
    | .update _ _ | .delete _ => true
    | _ => false

theorem sole_of_check (s : LanState) (logs : Nat → Option LanQueue) (t : Nat) (o : LanOp)
    (hlogs : ∀ u, 2 ≤ u → logs u = none) (h : soleCheck s logs t o = true) :
    soleSchedule.acts s logs t o := by
  simp only [soleCheck, Bool.and_eq_true] at h
  refine ⟨h.1,?_⟩
  cases o with
  | upsertIpv4 owner info =>
    simp only [Bool.and_eq_true] at h
    exact .inr ⟨h.2.1,free_of_check hlogs h.2.2⟩
  | lookup k =>
    intro v rest _ hnone
    have := h.2
    simp only [hnone, isSome_none, Bool.false_or, isNone_iff_eq_none] at this
    simp [this]
  | update k v => trivial
  | delete k => trivial
  | _ => simp at h

def oneOwner : List (Label LanCall) :=
  lanRun 0 (.insertIpv4 "br_lan" sampleLan) 3 ++ lanRun 0 (.insertIpv4 "br_lan" sampleDocker) 5

theorem lan_mirrors_sample : ∃ c, Reach (lanMachine .stored) soleSchedule ⟨.empty,fun _ => none⟩ c ∧
    (∀ t, c.threads t = none) ∧ (c.shared.map sampleDocker.key).isSome = true ∧
      LanMirrors c.shared := by
  obtain ⟨c,hc,hidle,hpost⟩ :=
    reach_of_quietRun (lanMachine .stored) oneOwner 2 .empty sole_of_check
    (fun _ _ => trivial) (fun s => (s.map sampleDocker.key).isSome) (by decide +kernel)
  exact ⟨c,hc,hidle,hpost,lan_mirrors_of_sole hc hidle⟩

/- Two owners hold one prefix; the first one leaves. -/
def sharedPrefix : List (Label LanCall) :=
  lanRun 0 (.insertIpv4 "br_lan" sampleLan) 3 ++ lanRun 0 (.insertIpv4 "docker" sampleDocker) 3 ++
    lanRun 0 (.removeIpv4 "br_lan") 3

/-- With every interleaving allowed the map can lose the prefix of a route. -/
theorem lan_mirrors_fails : ¬∀ (H : KeyOrder) (c : Config LanOp LanRes LanState LanQueue),
    Reach (lanMachine H) succeedingSchedule ⟨.empty,fun _ => none⟩ c →
      (∀ t, c.threads t = none) → LanMirrors c.shared := by
  intro hall
  obtain ⟨c,hc,hidle,hnone,hroute⟩ :=
    reach_of_quietRun (R := succeedingSchedule) (lanMachine .stored)
    sharedPrefix 1 .empty (fun _ _ _ _ _ => id) (fun _ _ => trivial)
    (fun s => s.map sampleDocker.key = none ∧ s.ipv4.lookup "docker" = some [sampleDocker])
      (by decide +kernel)
  have hmirror := hall .stored c hc hidle sampleDocker.key
  rw [hnone] at hmirror
  exact hmirror (.owner "docker") sampleDocker ⟨_,hroute,mem_singleton_self _⟩ rfl

end Landscape.Route
