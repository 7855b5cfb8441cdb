import Landscape.LanDevice.Directory

/-! What an entry can hold and the index over it, for each operation that writes one of them. -/
namespace Landscape.LanDevice
open Index Function
open Dhcp4 (Ipv4Addr)
open Dhcp6 (Ipv6Addr)

structure Attr (K : Type) where
  has : LanDeviceEntry → K → Prop
  index : Directory → K → Option Uuid
  index_entries : ∀ d entries, index { d with entries := entries } = index d

def ipv4Attr : Attr Ipv4Addr := ⟨fun e ip => e.ipv4 = some ip,(·.byIpv4),fun _ _ => rfl⟩
def ipv6Attr : Attr Ipv6Addr := ⟨fun e ip => ip ∈ e.ipv6Addrs,(·.byIpv6),fun _ _ => rfl⟩
def hostnameAttr : Attr String :=
  ⟨fun e name => e.hostname = some name,(·.byHostname),fun _ _ => rfl⟩
def deviceIdAttr : Attr Uuid := ⟨fun e id => e.deviceId = some id,(·.byDeviceId),fun _ _ => rfl⟩

section Attr
variable {K : Type} {a : Attr K} {d d' d₀ : Directory} {id i : Uuid} {k : K}
variable {f : LanDeviceEntry → LanDeviceEntry}

def Directory.holds (d : Directory) (a : Attr K) (id : Uuid) (k : K) : Prop :=
  ∃ e, d.entries id = some e ∧ a.has e k

def Attr.Owned (a : Attr K) (d : Directory) : Prop := Indexed (d.holds a) (a.index d)

def Attr.Sheds (a : Attr K) (f : LanDeviceEntry → LanDeviceEntry) : Prop :=
  ∀ e k, a.has (f e) k → a.has e k

theorem index_updateEntry : a.index (d.updateEntry id f) = a.index d := a.index_entries d _

theorem holds_updateEntry (h : (d.updateEntry id f).holds a i k) :
    i ≠ id ∧ d.holds a i k ∨ i = id ∧ ∃ e, d.entries id = some e ∧ a.has (f e) k := by
  obtain ⟨e,he,hk⟩ := h
  rcases Table.update_eq_some he with ⟨hi,he⟩ | ⟨hi,he⟩
  · obtain ⟨e',he',rfl⟩ := Option.map_eq_some_iff.mp he
    exact .inr ⟨hi,e',he',hk⟩
  · exact .inl ⟨hi,e,he,hk⟩

theorem Attr.Sheds.holds (hf : a.Sheds f) (h : (d.updateEntry id f).holds a i k) :
    d.holds a i k := by
  obtain ⟨-,hold⟩ | ⟨hi,e,he,hk⟩ := holds_updateEntry h
  · exact hold
  · exact ⟨e,hi ▸ he,hf e k hk⟩

theorem Attr.Owned.updateEntry (h : a.Owned d)
    (hf : ∀ e k, d.entries id = some e → a.has (f e) k → a.has e k ∨ a.index d k = some id) :
    a.Owned (d.updateEntry id f) := by
  intro i k hk
  rw [index_updateEntry]
  obtain ⟨-,hold⟩ | ⟨hi,e,he,hfe⟩ := holds_updateEntry hk
  · exact h i k hold
  · subst hi
    obtain hold | hindex := hf e k he hfe
    · exact h i k ⟨e,he,hold⟩
    · exact hindex

theorem Attr.Owned.create (h : a.Owned d) {e : LanDeviceEntry} (he : ∀ k, ¬a.has e k) :
    a.Owned { d with entries := update d.entries id (some e) } := by
  intro i k hk
  rw [a.index_entries]
  obtain ⟨e',he',hk⟩ := hk
  rcases Table.update_eq_some he' with ⟨-,⟨⟩⟩ | ⟨-,he'⟩
  · exact absurd hk (he k)
  · exact h i k ⟨e',he',hk⟩

theorem Attr.Owned.claim [DecidableEq K] (h : a.Owned d) {owner : Uuid} (hf : a.Sheds f)
    (hshed : ∀ e, ¬a.has (f e) k) (howner : (a.index d k).filter (· ≠ id) = some owner) :
    Indexed ((d.updateEntry owner f).holds a) (update (a.index d) k (some id)) := by
  refine .claim h (fun i' k' hk' => .inr (hf.holds hk')) ?_
  intro j hj hne hk'
  rw [hj, Option.filter_some, if_pos (decide_eq_true hne)] at howner
  cases howner
  obtain ⟨hne,-⟩ | ⟨-,e,-,hk⟩ := holds_updateEntry hk'
  · exact hne rfl
  · exact hshed e hk

theorem Attr.Owned.claimFree [DecidableEq K] (h : a.Owned d)
    (hnone : (a.index d k).filter (· ≠ id) = none) :
    Indexed (d.holds a) (update (a.index d) k (some id)) := by
  refine .claim h (fun i' k' hk' => .inr hk') ?_
  intro j hj hne
  rw [hj, Option.filter_some, if_pos (decide_eq_true hne)] at hnone
  cases hnone

def Attr.OwnedBut (a : Attr K) (id : Uuid) (d : Directory) : Prop :=
  Indexed (fun i k => i ≠ id ∧ d.holds a i k) (a.index d)

theorem Attr.OwnedBut.settle (h : a.OwnedBut id d)
    (hf : ∀ e k, a.has (f e) k → a.index d k = some id) :
    a.Owned (d.updateEntry id f) := by
  intro i k hk
  rw [index_updateEntry]
  obtain hold | ⟨hi,e,-,hfe⟩ := holds_updateEntry hk
  · exact h i k hold
  · rw [hi]
    exact hf e k hfe

/-- The directory changed, but nothing gained of this attribute and its index is the same. -/
structure Attr.Frame (a : Attr K) (d d' : Directory) : Prop where
  index : a.index d' = a.index d
  held : ∀ i k, d'.holds a i k → d.holds a i k

theorem Attr.Frame.refl : a.Frame d d := ⟨rfl,fun _ _ h => h⟩

theorem Attr.Frame.owned (hf : a.Frame d d') (h : a.Owned d) : a.Owned d' := by
  intro i k hk
  rw [hf.index]
  exact h i k (hf.held i k hk)

theorem Attr.Frame.updateEntry (h : a.Frame d₀ d) (hf : a.Sheds f) :
    a.Frame d₀ (d.updateEntry id f) where
  index := index_updateEntry.trans h.index
  held i k hk := h.held i k (hf.holds hk)

end Attr

section Claim
variable {K : Type} [DecidableEq K] {d : Directory} {id owner : Uuid} {t : AddrTable K} {addr : K}
  {rank : Nat}

theorem claimAddr_of_none (h : (t.index d addr).filter (· ≠ id) = none) :
    claimAddr d id t addr rank = (true, t.setIndex d (update (t.index d) addr (some id))) := by
  rw [claimAddr, h]

theorem claimAddr_of_some (h : (t.index d addr).filter (· ≠ id) = some owner) :
    claimAddr d id t addr rank = if rank > t.ownerRank d owner addr then (false, d) else
      (true, t.setIndex (d.updateEntry owner (t.without · addr))
        (update (t.index (d.updateEntry owner (t.without · addr))) addr (some id))) := by
  rw [claimAddr, h]

variable (d id t addr rank)

/-- A claim fails against stronger evidence, finds nobody else, or takes the address off its
owner. -/
theorem claimAddr_cases : claimAddr d id t addr rank = (false, d) ∨
    ((t.index d addr).filter (· ≠ id) = none ∧
      claimAddr d id t addr rank = (true, t.setIndex d (update (t.index d) addr (some id)))) ∨
    ∃ owner, (t.index d addr).filter (· ≠ id) = some owner ∧ rank ≤ t.ownerRank d owner addr ∧
      claimAddr d id t addr rank = (true, t.setIndex (d.updateEntry owner (t.without · addr))
        (update (t.index (d.updateEntry owner (t.without · addr))) addr (some id))) := by
  cases h : (t.index d addr).filter (· ≠ id) with
  | none => exact .inr (.inl ⟨rfl,claimAddr_of_none h⟩)
  | some owner =>
    by_cases hrank : rank > t.ownerRank d owner addr
    · exact .inl ((claimAddr_of_some h).trans (if_pos hrank))
    · exact .inr (.inr ⟨owner,rfl,Nat.le_of_not_lt hrank,(claimAddr_of_some h).trans
        (if_neg hrank)⟩)

end Claim

/-! Properties that survive what an operation writes survive the operation. -/

structure KeptByAddr {K : Type} (t : AddrTable K) (P : Directory → Prop) : Prop where
  entry : ∀ d id addr, P d → P (d.updateEntry id (t.without · addr))
  index : ∀ d m, P d → P (t.setIndex d m)

structure KeptByHostname (P : Directory → Prop) : Prop where
  entry : ∀ d id name fromEnroll, P d → P (d.updateEntry id (·.withHostname name fromEnroll))
  index : ∀ d m, P d → P { d with byHostname := m }

structure KeptByIdentity (P : Directory → Prop) : Prop extends KeptByHostname P where
  identity : ∀ d id (deviceId : LanDeviceEntry → Option Uuid)
    (name : LanDeviceEntry → Option String) (suffix : LanDeviceEntry → Option (BitVec 64)), P d →
    P (d.updateEntry id fun e => e.withIdentity (deviceId e) (name e) (suffix e))
  byDeviceId : ∀ d m, P d → P { d with byDeviceId := m }

section Kept
variable {P : Directory → Prop} {d : Directory} {id : Uuid}

section
variable {K : Type} [DecidableEq K] {t : AddrTable K} (hP : KeptByAddr t P) (h : P d)
include hP h

theorem KeptByAddr.claim (addr : K) (rank : Nat) : P (claimAddr d id t addr rank).2 := by
  rcases claimAddr_cases d id t addr rank with heq | ⟨-,heq⟩ | ⟨owner,-,-,heq⟩ <;> rw [heq]
  · exact h
  · exact hP.index _ _ h
  · exact hP.index _ _ (hP.entry d owner addr h)

theorem KeptByAddr.release (addr : K) : P (releaseAddr d id t addr) :=
  hP.entry _ id addr (hP.index d _ h)

end

theorem KeptByAddr.releaseStatic (hP : KeptByAddr ipv4Table P) (h : P d) :
    P (releaseStaticIpv4 d id) := by
  rw [releaseStaticIpv4]
  split
  · exact hP.release h _
  · exact h

theorem KeptByAddr.claimEnrolled (hP : KeptByAddr ipv4Table P) (h : P d) (ip : Option Ipv4Addr) :
    P (claimEnrolledIpv4 d id ip) := by
  cases ip with
  | none => exact hP.releaseStatic h
  | some ip => exact hP.claim h ip _

theorem KeptByAddr.dropAll (hP : KeptByAddr ipv6Table P) (h : P d) (ips : List Ipv6Addr) :
    P (ips.foldl (dropIpv6 id) d) := by
  induction ips generalizing d with
  | nil => exact h
  | cons ip ips ih => exact ih (hP.release h ip)

theorem KeptByHostname.dropIndex (hP : KeptByHostname P) (h : P d) {name : Option String} :
    P (dropHostnameIndex d id name) := by
  cases name with
  | none => exact h
  | some name => exact hP.index d _ h

theorem KeptByHostname.take (hP : KeptByHostname P) (h : P d) (name : String) (owner : Option Uuid)
    (fromEnroll : Bool) : P (takeHostname d id name owner fromEnroll) := by
  rw [takeHostname]
  split
  · exact hP.entry _ id _ _ (hP.index d _ h)
  · rename_i owner _
    dsimp only
    split
    · exact hP.entry d id none false h
    · exact hP.entry _ id _ _ (hP.index _ _ (hP.entry d owner none false h))

theorem KeptByHostname.claim (hP : KeptByHostname P) (h : P d) (name : Option String)
    (fromEnroll : Bool) : P (claimHostname d id name fromEnroll) := by
  rw [claimHostname]
  split
  · exact h
  · rename_i current _
    split
    · exact hP.entry _ id none false (hP.dropIndex h)
    · dsimp only
      split
      · exact h
      · exact hP.take (hP.dropIndex h) _ _ _

theorem KeptByIdentity.strip (hP : KeptByIdentity P) (h : P d) (source target deviceId : Uuid)
    (name : Option String) : P (stripIdentity d source target deviceId name) := by
  have hcleared := hP.identity _ source (fun _ => none) (fun _ => none) (fun _ => none)
    (hP.byDeviceId d (update d.byDeviceId deviceId (some target)) h)
  rw [stripIdentity]
  split
  · exact hP.claim hcleared none false
  · exact hcleared

theorem KeptByIdentity.give (hP : KeptByIdentity P) (h : P d) {target : Uuid} (deviceId : Uuid)
    (display : Option String) (suffix : Option (BitVec 64)) (name : Option String) :
    P (giveIdentity d target deviceId display suffix name) := by
  have hgiven :=
    hP.identity d target (fun _ => some deviceId) (fun _ => display) (fun _ => suffix) h
  cases name with
  | none => exact hgiven
  | some name => exact hP.claim hgiven (some name) true

end Kept

section Frame
variable {K : Type} {a : Attr K} {d₀ : Directory}

theorem Attr.sheds_withoutIpv4
    (hf : ∀ e k, a.has { e with ipv4 := none, ipv4Source := none } k → a.has e k) (ip : Ipv4Addr) :
    a.Sheds (·.withoutIpv4 ip) := by
  intro e k h
  dsimp only [LanDeviceEntry.withoutIpv4] at h
  split at h
  · exact hf e k h
  · exact h

theorem Attr.keptByAddr {K' : Type} {t : AddrTable K'} (hf : ∀ addr, a.Sheds (t.without · addr))
    (hindex : ∀ d m, a.index (t.setIndex d m) = a.index d) : KeptByAddr t (a.Frame d₀) where
  entry _ _ addr h := h.updateEntry (hf addr)
  index d m h := by
    refine ⟨(hindex d m).trans h.index,fun i k hk => h.held i k ?_⟩
    rwa [Directory.holds, t.entries_setIndex] at hk

theorem Attr.keptByIpv4 (hf : ∀ e k, a.has { e with ipv4 := none, ipv4Source := none } k →
    a.has e k) (hindex : ∀ d m, a.index { d with byIpv4 := m } = a.index d) :
    KeptByAddr ipv4Table (a.Frame d₀) :=
  a.keptByAddr (a.sheds_withoutIpv4 hf) hindex

theorem Attr.keptByHostname (hf : ∀ name fromEnroll, a.Sheds (·.withHostname name fromEnroll))
    (hindex : ∀ d m, a.index { d with byHostname := m } = a.index d) :
    KeptByHostname (a.Frame d₀) where
  entry _ _ name fromEnroll h := h.updateEntry (hf name fromEnroll)
  index d m h := ⟨(hindex d m).trans h.index,h.held⟩

structure Attr.OfAddresses (a : Attr K) : Prop where
  has : ∀ e e', e.ipv4 = e'.ipv4 → e.ipv6Addrs = e'.ipv6Addrs → a.has e = a.has e'
  index : ∀ d d', d.byIpv4 = d'.byIpv4 → d.byIpv6 = d'.byIpv6 → a.index d = a.index d'

theorem Attr.OfAddresses.keptByIdentity (ha : a.OfAddresses) : KeptByIdentity (a.Frame d₀) where
  toKeptByHostname := a.keptByHostname
    (fun name fromEnroll e _ h => ha.has (e.withHostname name fromEnroll) e rfl rfl ▸ h)
    fun d m => ha.index { d with byHostname := m } d rfl rfl
  identity _ _ deviceId name suffix h := h.updateEntry fun e _ hk =>
    ha.has (e.withIdentity (deviceId e) (name e) (suffix e)) e rfl rfl ▸ hk
  byDeviceId d m h := ⟨(ha.index { d with byDeviceId := m } d rfl rfl).trans h.index,h.held⟩

theorem ipv4_ofAddresses : ipv4Attr.OfAddresses where
  has _ _ h _ := funext fun k => congrArg (· = some k) h
  index _ _ h _ := h

theorem ipv6_ofAddresses : ipv6Attr.OfAddresses where
  has _ _ _ h := funext fun k => congrArg (k ∈ ·) h
  index _ _ _ h := h

theorem ipv6_keptByIpv4 : KeptByAddr ipv4Table (ipv6Attr.Frame d₀) :=
  Attr.keptByIpv4 (fun _ _ h => h) fun _ _ => rfl

theorem hostname_keptByIpv4 : KeptByAddr ipv4Table (hostnameAttr.Frame d₀) :=
  Attr.keptByIpv4 (fun _ _ h => h) fun _ _ => rfl

theorem deviceId_keptByIpv4 : KeptByAddr ipv4Table (deviceIdAttr.Frame d₀) :=
  Attr.keptByIpv4 (fun _ _ h => h) fun _ _ => rfl

theorem ipv4_keptByIpv6 : KeptByAddr ipv6Table (ipv4Attr.Frame d₀) :=
  Attr.keptByAddr (fun _ _ _ h => h) fun _ _ => rfl

theorem hostname_keptByIpv6 : KeptByAddr ipv6Table (hostnameAttr.Frame d₀) :=
  Attr.keptByAddr (fun _ _ _ h => h) fun _ _ => rfl

theorem deviceId_keptByIpv6 : KeptByAddr ipv6Table (deviceIdAttr.Frame d₀) :=
  Attr.keptByAddr (fun _ _ _ h => h) fun _ _ => rfl

theorem deviceId_keptByHostname : KeptByHostname (deviceIdAttr.Frame d₀) :=
  Attr.keptByHostname (fun _ _ _ _ h => h) fun _ _ => rfl

end Frame

section Write
variable {d : Directory} {id : Uuid}

structure Attr.Tabled {K : Type} (a : Attr K) (t : AddrTable K) : Prop where
  index : a.index = t.index
  sheds : ∀ addr, a.Sheds (t.without · addr)
  gone : ∀ e addr, ¬a.has (t.without e addr) addr

theorem ipv4_tabled : ipv4Attr.Tabled ipv4Table where
  index := rfl
  sheds := ipv4Attr.sheds_withoutIpv4 fun _ _ h => by cases h
  gone e ip := by
    change (e.withoutIpv4 ip).ipv4 ≠ some ip
    rw [LanDeviceEntry.withoutIpv4]
    split
    · nofun
    · assumption

theorem ipv6_tabled : ipv6Attr.Tabled ipv6Table where
  index := rfl
  sheds _ _ _ h := (AList.mem_erase.mp h).2
  gone _ _ h := (AList.mem_erase.mp h).1 rfl

section Addr
variable {K : Type} [DecidableEq K] {a : Attr K} {t : AddrTable K} {addr : K} {rank : Nat}

theorem claimAddr_index (h : (claimAddr d id t addr rank).1 = true) :
    t.index (claimAddr d id t addr rank).2 addr = some id := by
  rcases claimAddr_cases d id t addr rank with heq | ⟨-,heq⟩ | ⟨owner,-,-,heq⟩ <;> rw [heq] at h ⊢
  · cases h
  · rw [t.index_setIndex, update_self]
  · rw [t.index_setIndex, update_self]

omit [DecidableEq K] in
theorem Attr.Tabled.owned_setIndex (ha : a.Tabled t) {m : K → Option Uuid} {d : Directory}
    (hm : Indexed (d.holds a) m) : a.Owned (t.setIndex d m) := by
  rw [Attr.Owned, ha.index, t.index_setIndex]
  unfold Directory.holds
  rwa [t.entries_setIndex]

theorem Attr.Tabled.claim (ha : a.Tabled t) (h : a.Owned d) :
    a.Owned (claimAddr d id t addr rank).2 := by
  rcases claimAddr_cases d id t addr rank with heq | ⟨hnone,heq⟩ | ⟨owner,howner,-,heq⟩ <;> rw [heq]
  · exact h
  · rw [← ha.index] at hnone
    refine ha.owned_setIndex ?_
    rw [← ha.index]
    exact h.claimFree hnone
  · rw [← ha.index] at howner
    refine ha.owned_setIndex ?_
    rw [← ha.index, index_updateEntry]
    exact h.claim (ha.sheds addr) (fun e => ha.gone e addr) howner

theorem Attr.Tabled.release (ha : a.Tabled t) (h : a.Owned d) :
    a.Owned (releaseAddr d id t addr) := by
  have hsame : ∀ i k, (releaseAddr d id t addr).holds a i k →
      (d.updateEntry id (t.without · addr)).holds a i k := by
    intro i k hk
    rwa [releaseAddr, Directory.updateEntry, t.entries_setIndex] at hk
  have hindex : a.index (releaseAddr d id t addr) = removeIf (a.index d) addr id := by
    rw [releaseAddr, index_updateEntry, ha.index, t.index_setIndex]
  rw [Attr.Owned, hindex]
  refine .take h ?_
  intro i k hk
  refine ⟨(ha.sheds addr).holds (hsame i k hk),?_⟩
  rintro rfl rfl
  obtain ⟨hne,-⟩ | ⟨-,e,-,hk⟩ := holds_updateEntry (hsame i k hk)
  · exact hne rfl
  · exact ha.gone e k hk

end Addr

theorem releaseStaticIpv4_owned (h : ipv4Attr.Owned d) :
    ipv4Attr.Owned (releaseStaticIpv4 d id) := by
  rw [releaseStaticIpv4]
  split
  · exact ipv4_tabled.release h
  · exact h

theorem dropAll_owned (h : ipv6Attr.Owned d) (ips : List Ipv6Addr) :
    ipv6Attr.Owned (ips.foldl (dropIpv6 id) d) := by
  induction ips generalizing d with
  | nil => exact h
  | cons ip ips ih => exact ih (ipv6_tabled.release h)

theorem clearIpv6_owned (h : ipv6Attr.Owned d) : ipv6Attr.Owned (clearIpv6 d id) := by
  have hsheds : ipv6Attr.Sheds fun e => { e with ipv6Addrs := ∅ } :=
    fun e k hk => absurd hk (AList.notMem_empty k)
  have hheld : Indexed ((d.updateEntry id fun e => { e with ipv6Addrs := ∅ }).holds ipv6Attr)
      d.byIpv6 :=
    h.mono fun i k hk => hsheds.holds hk
  refine hheld.takeAll ?_ _
  intro k hk
  obtain ⟨hne,-⟩ | ⟨-,e,-,hk⟩ := holds_updateEntry hk
  · exact hne rfl
  · exact AList.notMem_empty k hk

theorem dropHostnameIndex_ownedBut (h : hostnameAttr.Owned d) (id : Uuid) (name : Option String) :
    hostnameAttr.OwnedBut id (dropHostnameIndex d id name) := by
  cases name with
  | none => exact h.mono fun _ _ hk => hk.2
  | some name =>
    refine .take h ?_
    intro i k hk
    exact ⟨hk.2,fun heq => absurd heq hk.1⟩

theorem dropHostnameIndex_index {name : Option String} {k : String} {j : Uuid}
    (h : (dropHostnameIndex d id name).byHostname k = some j) : d.byHostname k = some j := by
  cases name with
  | none => exact h
  | some name => exact removeIf_eq_some h

theorem hostname_ownedBut_take (h : hostnameAttr.OwnedBut id d) {name : String}
    (hlost : ∀ j, d.byHostname name = some j → j ≠ id → ¬d.holds hostnameAttr j name)
    {fromEnroll : Bool} :
    hostnameAttr.Owned ({ d with byHostname := update d.byHostname name (some id) }.updateEntry id
      (·.withHostname (some name) fromEnroll)) := by
  have hclaimed : hostnameAttr.OwnedBut id
      { d with byHostname := update d.byHostname name (some id) } :=
    .claim h (fun _ _ hk => .inr hk) fun j hj hne hk => hlost j hj hne hk.2
  refine hclaimed.settle ?_
  intro e k hk
  cases hk
  exact update_self ..

theorem hostname_sheds_cleared : hostnameAttr.Sheds (·.withHostname none false) := by
  intro e k hk
  cases hk

theorem takeHostname_owned (h : hostnameAttr.OwnedBut id d) {name : String} {owner : Option Uuid}
    (howner : ∀ j, d.byHostname name = some j → j ≠ id → owner = some j) (fromEnroll : Bool) :
    hostnameAttr.Owned (takeHostname d id name owner fromEnroll) := by
  have hother : ∀ j, d.byHostname name = some j → j ≠ id → owner.filter (· ≠ id) = some j := by
    intro j hj hne
    rw [howner j hj hne, Option.filter_some, if_pos (decide_eq_true hne)]
  rw [takeHostname]
  split
  · rename_i hnone
    refine hostname_ownedBut_take h ?_
    intro j hj hne
    rw [hnone] at hother
    cases hother j hj hne
  · rename_i o ho
    dsimp only
    split
    · exact h.settle fun e k hk => by cases hk
    · have hcleared : hostnameAttr.OwnedBut id (d.updateEntry o (·.withHostname none false)) :=
        h.mono fun i k hk => ⟨hk.1,hostname_sheds_cleared.holds hk.2⟩
      refine hostname_ownedBut_take hcleared ?_
      intro j hj hne hk
      have hjo := hother j hj hne
      rw [ho] at hjo
      obtain ⟨hne',-⟩ | ⟨-,e,-,hk⟩ := holds_updateEntry hk
      · exact hne' (Option.some.inj hjo).symm
      · cases hk

theorem claimHostname_owned (h : hostnameAttr.Owned d) {name : Option String} {fromEnroll : Bool} :
    hostnameAttr.Owned (claimHostname d id name fromEnroll) := by
  rw [claimHostname]
  split
  · exact h
  · rename_i current _
    have hdropped := dropHostnameIndex_ownedBut h id current.hostname
    split
    · exact hdropped.settle fun e k hk => by cases hk
    · dsimp only
      split
      · exact h
      · exact takeHostname_owned hdropped (fun j hj _ => dropHostnameIndex_index hj) fromEnroll

theorem stripIdentity_deviceId (h : deviceIdAttr.Owned d) {source target deviceId : Uuid}
    (hsource : (d.byDeviceId deviceId).filter (· ≠ target) = some source) {name : Option String} :
    deviceIdAttr.Owned (stripIdentity d source target deviceId name) ∧
      (stripIdentity d source target deviceId name).byDeviceId deviceId = some target := by
  let d₁ := { d with byDeviceId := update d.byDeviceId deviceId (some target) }.updateEntry source
    (·.withIdentity none none none)
  have hcleared : deviceIdAttr.Owned d₁ :=
    h.claim (fun e k hk => by cases hk) (fun e hk => by cases hk) hsource
  have hindex : d₁.byDeviceId deviceId = some target := update_self ..
  have hframe : deviceIdAttr.Frame d₁ (claimHostname d₁ source none false) :=
    deviceId_keptByHostname.claim .refl none false
  rw [stripIdentity]
  split
  · exact ⟨hframe.owned hcleared,(congrFun hframe.index deviceId).trans hindex⟩
  · exact ⟨hcleared,hindex⟩

theorem giveIdentity_deviceId (h : deviceIdAttr.Owned d) {target deviceId : Uuid}
    (hindex : d.byDeviceId deviceId = some target) (display : Option String)
    (suffix : Option (BitVec 64)) (name : Option String) :
    deviceIdAttr.Owned (giveIdentity d target deviceId display suffix name) := by
  have hgiven : deviceIdAttr.Owned
      (d.updateEntry target (·.withIdentity (some deviceId) display suffix)) := by
    refine h.updateEntry ?_
    intro e k _ hk
    cases hk
    exact .inr hindex
  cases name with
  | none => exact hgiven
  | some name => exact (deviceId_keptByHostname.claim .refl (some name) true).owned hgiven

theorem giveIdentity_byDeviceId (target deviceId : Uuid) (display : Option String)
    (suffix : Option (BitVec 64)) (name : Option String) :
    (giveIdentity d target deviceId display suffix name).byDeviceId = d.byDeviceId := by
  cases name with
  | none => rfl
  | some name =>
    have hframe : deviceIdAttr.Frame
      (d.updateEntry target (·.withIdentity (some deviceId) display suffix))
        (giveIdentity d target deviceId display suffix (some name)) :=
      deviceId_keptByHostname.claim .refl (some name) true
    exact hframe.index

theorem stripIdentity_hostname (h : hostnameAttr.Owned d) (source target deviceId : Uuid)
    (name : Option String) : hostnameAttr.Owned (stripIdentity d source target deviceId name) := by
  have hcleared : hostnameAttr.Owned
      ({ d with byDeviceId := update d.byDeviceId deviceId (some target) }.updateEntry source
        (·.withIdentity none none none)) :=
    Attr.Owned.updateEntry h fun e k _ hk => .inl hk
  rw [stripIdentity]
  split
  · exact claimHostname_owned hcleared
  · exact hcleared

theorem giveIdentity_hostname (h : hostnameAttr.Owned d) (target deviceId : Uuid)
    (display : Option String) (suffix : Option (BitVec 64)) (name : Option String) :
    hostnameAttr.Owned (giveIdentity d target deviceId display suffix name) := by
  have hgiven : hostnameAttr.Owned
      (d.updateEntry target (·.withIdentity (some deviceId) display suffix)) :=
    h.updateEntry fun e k _ hk => .inl hk
  cases name with
  | none => exact hgiven
  | some name => exact claimHostname_owned hgiven

end Write
end Landscape.LanDevice
